/-
  File:      HvisorTool/Boot/ElfSafe.lean
  Subject:   WHICH FILES THE ELF LOADER IS SAFE ON, whatever it meets around its buffer.

  Safe is a run that is refused, or has read only bytes of the file and, if it returns 0,
  reports the size of the segments in the table of program headers. The loader checks a
  segment with a sum that wraps, and the place of a program header not at all.

  * `LoadEvent.Inside`: a read of the file's bytes only; `EntrySound`: a program header that
    leads to such reads only;
  * `ElfRun.inside`, `ElfRun.to_rejected`: what a run over such program headers does;
  * `ElfRun.fine`, `ElfRun.late`: what a run that reads only the file has met;
  * `elf_loader_safe_iff`: the files on which every run is safe.
-/
import HvisorTool.Boot.ElfImage
import HvisorTool.Boot.ElfTotal

namespace HvisorTool

open Library

/-! ## 1. Reads of the file -/

/-- Only the first `n` bytes of the buffer are read. -/
def LoadEvent.Inside (n : Nat) : LoadEvent → Prop
  | .read o len => o.toNat + len ≤ n
  | .load (some o) _ bytes => o.toNat + bytes.length ≤ n
  | .load none _ _ => True

variable {v : ElfView} {o gpaToHpaOffset : UInt64} {n : Nat} {reads : List (UInt64 × Nat)}
  {file : List UInt8} {len i : Nat} {input : InputFile}

/-- Memory of the buffer is mapped. -/
theorem mapped_of_le (h : o.toNat + len ≤ v.buffer.length)
    (hsize : v.buffer.length < 2 ^ 64) : v.mapped o len = true := by
  refine List.all_eq_true.mpr fun j hj => ?_
  have hlt := List.mem_range.mp hj
  have haddr : (o + UInt64.ofNat j).toNat = o.toNat + j := toNat_loadAddr (by omega)
  rw [ElfView.byte, haddr, List.getElem?_eq_getElem (by omega)]
  rfl

/-- Where nothing lies around the buffer, only its memory is mapped. -/
theorem le_of_mapped (hout : v.outside = fun _ => none) (hsize : v.buffer.length < 2 ^ 64)
    (hlen : 0 < len) (h : v.mapped o len = true) : o.toNat + len ≤ v.buffer.length := by
  have hbyte : ∀ j < len, (o + UInt64.ofNat j).toNat < v.buffer.length := by
    intro j hj
    have hsome := List.all_eq_true.mp h j (List.mem_range.mpr hj)
    rw [ElfView.byte, hout, Option.or_none] at hsome
    by_contra hge
    rw [List.getElem?_eq_none (Nat.le_of_not_lt hge)] at hsome
    cases hsome
  by_contra hgt
  have hfirst := hbyte 0 hlen
  rw [show UInt64.ofNat 0 = 0 from rfl, UInt64.add_zero] at hfirst
  -- the byte right behind the buffer is asked for
  have hlast := hbyte (v.buffer.length - o.toNat) (by omega)
  rw [UInt64.toNat_add, toNat_ofNat64 (by omega), Nat.mod_eq_of_lt (by omega)] at hlast
  omega

/-- The reads of a program header, by where it ends. -/
theorem phdrReads_le_iff (hn : n < 2 ^ 64 - 48) :
    (∀ r ∈ ElfView.phdrReads o, r.1.toNat + r.2 ≤ n) ↔ o.toNat + 48 ≤ n := by
  have hadd : ∀ k : UInt64, o.toNat + k.toNat < 2 ^ 64 → (o + k).toNat = o.toNat + k.toNat :=
    fun k hk => by rw [UInt64.toNat_add, Nat.mod_eq_of_lt hk]
  have h8 : (8 : UInt64).toNat = 8 := rfl
  have h24 : (24 : UInt64).toNat = 24 := rfl
  have h32 : (32 : UInt64).toNat = 32 := rfl
  have h40 : (40 : UInt64).toNat = 40 := rfl
  constructor
  · intro h
    have hfirst : o.toNat + 4 ≤ n := h (o, 4) (by simp [ElfView.phdrReads])
    have hlast : (o + 40).toNat + 8 ≤ n := h (o + 40, 8) (by simp [ElfView.phdrReads])
    have := hadd 40 (by omega)
    omega
  · intro h r hr
    have e8 := hadd 8 (by omega)
    have e24 := hadd 24 (by omega)
    have e32 := hadd 32 (by omega)
    have e40 := hadd 40 (by omega)
    simp only [ElfView.phdrReads, List.mem_cons, List.not_mem_nil, or_false] at hr
    rcases hr with rfl | rfl | rfl | rfl | rfl <;> dsimp only <;> omega

theorem headerReads_le_iff : (∀ r ∈ ElfView.headerReads, r.1.toNat + r.2 ≤ n) ↔ 58 ≤ n := by
  constructor
  · intro h
    exact h (56, 2) (by simp [ElfView.headerReads])
  · intro h r hr
    simp only [ElfView.headerReads, List.mem_cons, List.not_mem_nil, or_false] at hr
    rcases hr with rfl | rfl | rfl | rfl <;> refine Nat.le_trans ?_ h <;> decide

theorem inside_readEvents :
    (∀ e ∈ readEvents reads, e.Inside n) ↔ ∀ r ∈ reads, r.1.toNat + r.2 ≤ n := by
  constructor
  · intro h r hr
    exact h (.read r.1 r.2) (List.mem_map.mpr ⟨r, hr, rfl⟩)
  · intro h e he
    obtain ⟨r, hr, rfl⟩ := List.mem_map.mp he
    exact h r hr

theorem allMapped_of_le (hsize : v.buffer.length < 2 ^ 64)
    (h : ∀ r ∈ reads, r.1.toNat + r.2 ≤ v.buffer.length) :
    v.AllMapped reads := fun r hr => mapped_of_le (h r hr) hsize

theorem le_of_allMapped (hout : v.outside = fun _ => none) (hsize : v.buffer.length < 2 ^ 64)
    (hlen : ∀ r ∈ reads, 0 < r.2) (h : v.AllMapped reads) :
    ∀ r ∈ reads, r.1.toNat + r.2 ≤ v.buffer.length :=
  fun r hr => le_of_mapped hout hsize (hlen r hr) (h r hr)

/-- A sequence of reads that stopped has not kept to the bytes of the buffer. -/
theorem StopsAt.not_inside {log : List LoadEvent} (h : StopsAt v reads log)
    (hsize : v.buffer.length < 2 ^ 64) (hn : n ≤ v.buffer.length) : ¬ ∀ e ∈ log, e.Inside n := by
  intro hinside
  obtain ⟨r, -, hread, hunmapped⟩ := h.unmapped
  have hle : r.1.toNat + r.2 ≤ n := hinside _ hread
  rw [mapped_of_le (Nat.le_trans hle hn) hsize] at hunmapped
  cases hunmapped

/-- The data of a segment that lies in the file. -/
theorem inside_dataEvents {ph : Phdr} :
    (∀ e ∈ dataEvents v gpaToHpaOffset ph, e.Inside n) ↔
      (ph.filesz > 0 → ph.offset.toNat + ph.filesz.toNat ≤ n) := by
  unfold dataEvents
  split
  · next hsome =>
      rw [List.forall_mem_singleton, LoadEvent.Inside, readBytes_length]
      exact ⟨fun h _ => h, fun h => h hsome⟩
  · next hnone => exact ⟨fun _ h => absurd h hnone, fun _ e he => (by cases he)⟩

theorem inside_zeroEvents {ph : Phdr} : ∀ e ∈ zeroEvents gpaToHpaOffset ph, e.Inside n := by
  intro e he
  unfold zeroEvents at he
  split at he
  · rw [List.mem_singleton.mp he]
    trivial
  · cases he

/-! ## 2. Program headers -/

/-- A program header that lies in the first `n` bytes, with its data. -/
def EntrySound (v : ElfView) (h : ElfHeader) (n i : Nat) : Prop :=
  (h.phdrOffset i).toNat + 48 ≤ n ∧
    ((v.phdr (h.phdrOffset i)).IsLoad →
      (v.phdr (h.phdrOffset i)).offset.toNat + (v.phdr (h.phdrOffset i)).filesz.toNat ≤ n)

/-- A segment that is not rejected and whose data is read in the file lies in it. -/
theorem data_le {ph : Phdr} {fileSize : UInt64} (hload : ph.IsLoad) (h : ¬ ph.Rejected fileSize)
    (hdata : ph.filesz > 0 → ph.offset.toNat + ph.filesz.toNat ≤ fileSize.toNat) :
    ph.offset.toNat + ph.filesz.toNat ≤ fileSize.toNat := by
  by_cases hsome : ph.filesz > 0
  · exact hdata hsome
  · have hzero : ph.filesz = 0 := by
      refine UInt64.toNat_inj.mp (Nat.eq_zero_of_not_pos fun hpos => hsome ?_)
      exact UInt64.lt_iff_toNat_lt.mpr hpos
    have hle : ¬ ph.offset + ph.filesz > fileSize := fun hgt => h ⟨hload, hgt⟩
    rw [hzero, UInt64.add_zero] at hle
    rw [hzero]
    exact UInt64.le_iff_toNat_le.mp (UInt64.not_lt.mp hle)

section Runs

variable {env : ElfEnv} {fileSize : UInt64} {h : ElfHeader} {span : ElfSpan}
  {log : List LoadEvent} {r : Except FileFault (Option ElfSpan)} {x : Loading (Option ElfSpan)}

/-- All that the body of the loop logs. -/
theorem SegmentOutcome.within {ph : Phdr}
    (ho : SegmentOutcome env v fileSize gpaToHpaOffset i ph span x) :
    ∀ e ∈ x.log, ph.IsLoad ∧ ¬ ph.Rejected fileSize ∧
      e ∈ dataEvents v gpaToHpaOffset ph ++ zeroEvents gpaToHpaOffset ph := by
  cases ho with
  | skipped _ | rejected _ => exact fun e he => by cases he
  | noZeros hload hacc _ => exact fun e he => ⟨hload, hacc, List.mem_append_left _ he⟩
  | exits log hasks hacc hwithin _ _ => exact fun e he => ⟨hasks.1, hacc, hwithin e he⟩
  | stored hload hacc _ _ => exact fun e he => ⟨hload, hacc, he⟩

/-- **A refused run in which there is memory for zeros** has come to a rejected program header. -/
theorem ElfRun.refused (hrun : ElfRun env v fileSize gpaToHpaOffset h i n span log (.ok none))
    (hcalloc : ∀ k, env.callocOk k = true) :
    ∃ m, i ≤ m ∧ m < i + n ∧ (v.phdr (h.phdrOffset m)).Rejected fileSize ∧
      (∀ k, i ≤ k → k ≤ m → v.AllMapped (ElfView.phdrReads (h.phdrOffset k))) ∧
      ∀ k, i ≤ k → k < m → ¬ (v.phdr (h.phdrOffset k)).Rejected fileSize := by
  generalize hres : (.ok none : Except FileFault (Option ElfSpan)) = r at hrun
  induction hrun with
  | done _ _ | dies _ | exits _ _ => cases hres
  | @refuses i n span log hmapped ho =>
    cases ho with
    | rejected hrejected =>
      refine ⟨i, Nat.le_refl _, by omega, hrejected, fun k hk hle => ?_, fun k hk hlt => ?_⟩
      · obtain rfl := Nat.le_antisymm hk hle
        exact hmapped
      · omega
    | noZeros _ _ hfails =>
      rw [hcalloc] at hfails
      cases hfails
  | @next i n span span' log rest r hmapped ho _ ih =>
    obtain ⟨m, him, hm, hrejected, hall, hnot⟩ := ih hres
    refine ⟨m, by omega, by omega, hrejected, fun k hk hle => ?_, fun k hk hlt => ?_⟩
    · rcases Nat.eq_or_lt_of_le hk with rfl | hk
      · exact hmapped
      · exact hall k hk hle
    · rcases Nat.eq_or_lt_of_le hk with rfl | hk
      · cases ho with
        | skipped hother => exact fun hrej => hother hrej.1
        | stored _ hacc _ _ => exact hacc
      · exact hnot k hk hlt

variable (hsize : fileSize.toNat < 2 ^ 64 - 48)

include hsize

/-- A sound program header leads to reads of the file only. -/
theorem EntrySound.inside (hsound : EntrySound v h fileSize.toNat i)
    (ho : SegmentOutcome env v fileSize gpaToHpaOffset i (v.phdr (h.phdrOffset i)) span x) :
    (∀ e ∈ readEvents (ElfView.phdrReads (h.phdrOffset i)), e.Inside fileSize.toNat) ∧
      ∀ e ∈ x.log, e.Inside fileSize.toNat := by
  refine ⟨inside_readEvents.mpr ((phdrReads_le_iff hsize).mpr hsound.1), fun e he => ?_⟩
  obtain ⟨hload, -, hmem⟩ := ho.within e he
  rcases List.mem_append.mp hmem with hdata | hzero
  · exact inside_dataEvents.mpr (fun _ => hsound.2 hload) e hdata
  · exact inside_zeroEvents e hzero

/-- **A run over sound program headers reads the file only.** -/
theorem ElfRun.inside (hrun : ElfRun env v fileSize gpaToHpaOffset h i n span log r)
    (hsound : ∀ k, i ≤ k → k < i + n → EntrySound v h fileSize.toNat k) :
    ∀ e ∈ log, e.Inside fileSize.toNat := by
  induction hrun with
  | done i span => exact fun e he => by cases he
  | @dies i n span log hstop =>
    intro e he
    have hin := (phdrReads_le_iff hsize).mpr (hsound i (Nat.le_refl _) (by omega)).1
    exact inside_readEvents.mpr hin e (hstop.within e he)
  | @refuses i n span log _ ho | @exits i n span log e _ ho =>
    have hin := (hsound i (Nat.le_refl _) (by omega)).inside hsize ho
    exact List.forall_mem_append.mpr hin
  | @next i n span span' log rest r _ ho _ ih =>
    have hin := (hsound i (Nat.le_refl _) (by omega)).inside hsize ho
    refine List.forall_mem_append.mpr ⟨hin.1, List.forall_mem_append.mpr ⟨hin.2, ih ?_⟩⟩
    exact fun k hk hlt => hsound k (by omega) (by omega)

/-- **A run up to a rejected program header** is refused, or ends in a load before it. -/
theorem ElfRun.to_rejected (hrun : ElfRun env v fileSize gpaToHpaOffset h i n span log r)
    {m : Nat} (him : i ≤ m) (hm : m < i + n) (hrejected : (v.phdr (h.phdrOffset m)).Rejected fileSize)
    (hmapped : ∀ k, i ≤ k → k ≤ m → v.AllMapped (ElfView.phdrReads (h.phdrOffset k))) :
    r = .ok none ∨ ∃ j, i ≤ j ∧ j < m ∧ (v.phdr (h.phdrOffset j)).Asks ∧ (∃ e, r = .error e) ∧
      ((∀ k, i ≤ k → k ≤ j → EntrySound v h fileSize.toNat k) →
        ∀ e ∈ log, e.Inside fileSize.toNat) := by
  induction hrun with
  | done i span => omega
  | @dies i n span log hstop => exact absurd (hmapped i (Nat.le_refl _) him) hstop.not_allMapped
  | refuses _ _ => exact .inl rfl
  | @exits i n span log e _ ho =>
    have hne : i ≠ m := by
      intro heq
      subst heq
      cases ho with
      | exits _ _ hacc _ _ _ => exact hacc hrejected
    have hasks : (v.phdr (h.phdrOffset i)).Asks := by
      cases ho with
      | exits _ hasks _ _ _ _ => exact hasks
    refine .inr ⟨i, Nat.le_refl _, by omega, hasks, ⟨e, rfl⟩, fun hsound => ?_⟩
    exact List.forall_mem_append.mpr ((hsound i (Nat.le_refl _) (Nat.le_refl _)).inside hsize ho)
  | @next i n span span' log rest r _ ho _ ih =>
    have hne : i ≠ m := by
      intro heq
      subst heq
      cases ho with
      | skipped hother => exact hother hrejected.1
      | stored _ hacc _ _ => exact hacc hrejected
    rcases ih (by omega) (by omega) fun k hk hkm => hmapped k (by omega) hkm with
      hnone | ⟨j, hij, hjm, hasks, herr, hin⟩
    · exact .inl hnone
    · refine .inr ⟨j, by omega, hjm, hasks, herr, fun hsound => ?_⟩
      have hhere := (hsound i (Nat.le_refl _) (by omega)).inside hsize ho
      refine List.forall_mem_append.mpr ⟨hhere.1, List.forall_mem_append.mpr ⟨hhere.2, hin ?_⟩⟩
      exact fun k hk hkj => hsound k (by omega) hkj

variable (gpaToHpaOffset) in
/-- A program header whose reads and loads keep to the file is sound. -/
theorem entrySound_of_inside
    (hread : ∀ e ∈ readEvents (ElfView.phdrReads (h.phdrOffset i)), e.Inside fileSize.toNat)
    (hacc : (v.phdr (h.phdrOffset i)).IsLoad → ¬ (v.phdr (h.phdrOffset i)).Rejected fileSize ∧
      ∀ e ∈ dataEvents v gpaToHpaOffset (v.phdr (h.phdrOffset i)), e.Inside fileSize.toNat) :
    EntrySound v h fileSize.toNat i := by
  refine ⟨(phdrReads_le_iff hsize).mp (inside_readEvents.mp hread), fun hload => ?_⟩
  obtain ⟨hnot, hdata⟩ := hacc hload
  exact data_le hload hnot (inside_dataEvents.mp hdata)

/-- A pass that goes on, and reads the file only, has met a sound program header. -/
theorem SegmentOutcome.sound {span' : ElfSpan}
    (ho : SegmentOutcome env v fileSize gpaToHpaOffset i (v.phdr (h.phdrOffset i)) span
      ⟨log, .ok (some span')⟩)
    (hread : ∀ e ∈ readEvents (ElfView.phdrReads (h.phdrOffset i)), e.Inside fileSize.toNat)
    (hlog : ∀ e ∈ log, e.Inside fileSize.toNat) : EntrySound v h fileSize.toNat i := by
  refine entrySound_of_inside gpaToHpaOffset hsize hread fun hload => ?_
  cases ho with
  | skipped hother => exact absurd hload hother
  | stored _ hacc _ _ => exact ⟨hacc, fun e he => hlog e (List.mem_append_left _ he)⟩

variable (hbuffer : v.buffer.length < 2 ^ 64) (hn : fileSize.toNat ≤ v.buffer.length)

include hbuffer hn

omit hsize in
/-- A load of data that is not there cannot keep to the buffer. -/
theorem SegmentOutcome.exits_fails {e : FileFault} {ph : Phdr}
    (ho : SegmentOutcome env v fileSize gpaToHpaOffset i ph span ⟨log, .error e⟩)
    (hlog : ∀ e ∈ log, e.Inside fileSize.toNat) : env.Fails i := by
  cases ho with
  | exits _ _ _ _ hdata hreason =>
    rcases hreason with hfails | ⟨hsome, hunmapped, hdone⟩
    · exact hfails
    · have hin := inside_dataEvents.mp
        (fun e he => hlog e (hdata (by rw [hdone]; decide) e he)) hsome
      rw [mapped_of_le (Nat.le_trans hin hn) hbuffer] at hunmapped
      cases hunmapped

/-- **A run in which nothing fails, and that reads the file only**, is refused or has met sound
    program headers only. -/
theorem ElfRun.fine (hrun : ElfRun env v fileSize gpaToHpaOffset h i n span log r)
    (hfine : ∀ k, ¬ env.Fails k) (hlog : ∀ e ∈ log, e.Inside fileSize.toNat) :
    r = .ok none ∨ (∃ span', r = .ok (some span')) ∧
      ∀ k, i ≤ k → k < i + n → EntrySound v h fileSize.toNat k := by
  induction hrun with
  | done i span => exact .inr ⟨⟨span, rfl⟩, fun k hk hlt => by omega⟩
  | dies hstop => exact absurd hlog (hstop.not_inside hbuffer hn)
  | refuses _ _ => exact .inl rfl
  | @exits i n span log e _ ho =>
    have hparts := List.forall_mem_append.mp hlog
    exact absurd (ho.exits_fails hbuffer hn hparts.2) (hfine i)
  | @next i n span span' log rest r _ ho _ ih =>
    obtain ⟨hread, hparts⟩ := List.forall_mem_append.mp hlog
    obtain ⟨hhere, hrest⟩ := List.forall_mem_append.mp hparts
    rcases ih hrest with hnone | ⟨hsome, hsound⟩
    · exact .inl hnone
    · refine .inr ⟨hsome, fun k hk hlt => ?_⟩
      rcases Nat.eq_or_lt_of_le hk with rfl | hk
      · exact ho.sound hsize hread hhere
      · exact hsound k hk (by omega)

/-- **A run whose first load that fails is that of `j`**, behind the copy: it is not refused,
    and if it reads the file only, all program headers up to `j` are sound. -/
theorem ElfRun.late (hrun : ElfRun env v fileSize gpaToHpaOffset h i n span log r)
    (hcalloc : ∀ k, env.callocOk k = true) {j : Nat} (hij : i ≤ j) (hj : j < i + n)
    (hdata : env.data j = .failsLate) (hzeros : env.zeros j = .failsLate)
    (hfine : ∀ k, k ≠ j → ¬ env.Fails k) (hasks : (v.phdr (h.phdrOffset j)).Asks)
    (hacc : ∀ k, i ≤ k → k ≤ j → ¬ (v.phdr (h.phdrOffset k)).Rejected fileSize) :
    r ≠ .ok none ∧ ((∀ e ∈ log, e.Inside fileSize.toNat) →
      ∀ k, i ≤ k → k ≤ j → EntrySound v h fileSize.toNat k) := by
  induction hrun with
  | done i span => omega
  | dies hstop =>
    exact ⟨fun h => (by cases h), fun hlog => absurd hlog (hstop.not_inside hbuffer hn)⟩
  | @refuses i n span log _ ho =>
    cases ho with
    | rejected hrejected => exact absurd hrejected (hacc i (Nat.le_refl _) hij)
    | noZeros _ _ hfails =>
      rw [hcalloc] at hfails
      cases hfails
  | @exits i n span log e _ ho =>
    refine ⟨fun h => (by cases h), fun hlog k hk hkj => ?_⟩
    obtain ⟨hread, hhere⟩ := List.forall_mem_append.mp hlog
    have hij' : i = j := by
      by_contra hne
      exact hfine i hne (ho.exits_fails hbuffer hn hhere)
    subst hij'
    obtain rfl := Nat.le_antisymm hk hkj
    cases ho with
    | exits _ _ hnot _ hcopied _ =>
      refine entrySound_of_inside gpaToHpaOffset hsize hread fun _ => ?_
      exact ⟨hnot, fun e he => hhere e (hcopied (by rw [hdata]; decide) e he)⟩
  | @next i n span span' log rest r _ ho _ ih =>
    have hne : i ≠ j := by
      intro heq
      subst heq
      cases ho with
      | skipped hother => exact hother hasks.1
      | stored _ _ hcopied hfilled =>
        rcases hasks.2 with hsome | hmore
        · have hdone := (hcopied hsome).1
          rw [hdata] at hdone
          cases hdone
        · have hdone := hfilled hmore
          rw [hzeros] at hdone
          cases hdone
    obtain ⟨hnot, hsound⟩ := ih (by omega) (by omega) fun k hk hkj => hacc k (by omega) hkj
    refine ⟨hnot, fun hlog k hk hkj => ?_⟩
    obtain ⟨hread, hparts⟩ := List.forall_mem_append.mp hlog
    obtain ⟨hhere, hrest⟩ := List.forall_mem_append.mp hparts
    rcases Nat.eq_or_lt_of_le hk with rfl | hk
    · exact ho.sound hsize hread hhere
    · exact hsound hrest k hk hkj

end Runs

/-! ## 3. Files -/

/-- The bytes of a file. -/
def InputFile.bytes (input : InputFile) : List UInt8 := input.content.getD []

/-- `read_file` returns a buffer for the file. -/
def InputFile.Readable (input : InputFile) : Prop :=
  input.opens = true ∧ input.stats = true ∧ input.mallocOk = true ∧ input.content.isSome = true

/-- A load that returns 0 went over the table of program headers of the file: each was looked
    for at its place, the data of each segment lies in the file, and the size is exact. -/
structure TableLoaded (file : List UInt8) (info : ElfInfo) : Prop where
  place : ∀ i < (fileView file).header.phnum.toNat,
    ((fileView file).header.phdrOffset i).toNat =
      (fileView file).header.phoff.toNat + i * (fileView file).header.phentsize.toNat
  data : ∀ ph ∈ elfLoads file, ph.offset.toNat + ph.filesz.toNat ≤ file.length
  total : ExactTotal (elfLoads file) info.totalSize.toNat

/-- **A safe load**: it returns -1, or has read bytes of the file only and, where it returns 0,
    has gone over the table. -/
def SafeLoad (file : List UInt8) (x : Loading (Option ElfInfo)) : Prop :=
  x.result = .ok none ∨
    (∀ e ∈ x.log, e.Inside file.length) ∧ ∀ info, x.result = .ok (some info) → TableLoaded file info

/-- A file that the loader can be given, in a buffer with room for so many bytes. -/
inductive ElfAcceptable (room : Nat) (file : List UInt8) : Prop where
  /-- It does not start like a 64-bit ELF file. -/
  | notElf (k : Nat) (b : UInt8) : k < room → elfMagic[k]? = some b →
      (fileView file).mem (UInt64.ofNat k) ≠ b → ElfAcceptable room file
  /-- The header, the table and the data of the segments lie in the file, without an overflow. -/
  | sound : 58 ≤ file.length →
      (∀ i < (fileView file).header.phnum.toNat,
        (fileView file).header.phoff.toNat + i * (fileView file).header.phentsize.toNat + 48 ≤
            file.length ∧
          i * (fileView file).header.phentsize.toNat < 2 ^ 31) →
      (∀ ph ∈ elfLoads file, ph.offset.toNat + ph.filesz.toNat ≤ file.length) →
      TotalFits (elfLoads file) → ElfAcceptable room file
  /-- A program header is rejected, all up to it lie in the buffer, and whatever is loaded
      before it lies in the file. -/
  | rejected (m : Nat) : m < (fileView file).header.phnum.toNat → 58 ≤ room →
      ((fileView file).phdr ((fileView file).header.phdrOffset m)).Rejected
        (UInt64.ofNat file.length) →
      (∀ k ≤ m, ((fileView file).header.phdrOffset k).toNat + 48 ≤ room) →
      (∀ j < m, ((fileView file).phdr ((fileView file).header.phdrOffset j)).Asks →
        58 ≤ file.length ∧
          ∀ k ≤ j, EntrySound (fileView file) (fileView file).header file.length k) →
      ElfAcceptable room file

/-- The place of a program header is computed exactly if the product fits an `int` and the
    sum a word. -/
theorem phdrOffset_exact_iff (h : ElfHeader) (hi : i < 2 ^ 16) :
    (h.phdrOffset i).toNat = h.phoff.toNat + i * h.phentsize.toNat ↔
      i * h.phentsize.toNat < 2 ^ 31 ∧ h.phoff.toNat + i * h.phentsize.toNat < 2 ^ 64 := by
  have hent := UInt16.toNat_lt h.phentsize
  have hle : i * h.phentsize.toNat ≤ (2 ^ 16 - 1) * (2 ^ 16 - 1) :=
    Nat.mul_le_mul (by omega) (by omega)
  constructor
  · intro heq
    have hfits : h.phoff.toNat + i * h.phentsize.toNat < 2 ^ 64 := by
      rw [← heq]
      exact UInt64.toNat_lt _
    refine ⟨?_, hfits⟩
    by_contra hge
    -- the product is negative as an `int`, and the place lies before the table
    have hprod : (UInt32.ofNat i * h.phentsize.toUInt32).toNat = i * h.phentsize.toNat := by
      rw [UInt32.toNat_mul, UInt32.toNat_ofNat_of_lt' (by simp only [UInt32.size]; omega),
        UInt16.toNat_toUInt32, Nat.mod_eq_of_lt (by omega)]
    have hsigned : (UInt32.ofNat i * h.phentsize.toUInt32).toInt32.toInt64.toUInt64.toNat =
        i * h.phentsize.toNat + (2 ^ 64 - 2 ^ 32) := by
      rw [← hprod]
      generalize hx : UInt32.ofNat i * h.phentsize.toUInt32 = x at hprod
      have hmsb : x.toBitVec.msb = true := by
        rw [BitVec.msb_eq_true_iff_two_mul_ge]
        show 2 ^ 32 ≤ 2 * x.toNat
        omega
      show (x.toBitVec.signExtend 64).toNat = x.toNat + _
      have hnat : x.toBitVec.toNat = x.toNat := rfl
      rw [BitVec.toNat_signExtend, hmsb, BitVec.toNat_setWidth, hnat,
        Nat.mod_eq_of_lt (by omega), if_pos rfl]
    rw [ElfHeader.phdrOffset, UInt64.toNat_add, hsigned] at heq
    omega
  · intro hexact
    obtain ⟨hint, hfits⟩ := hexact
    rw [h.phdrOffset_eq hint hi, UInt64.toNat_ofNat_of_lt' hfits]

/-! ## 4. The buffer of a file -/

theorem padded_mem (file : List UInt8) (k : Nat) :
    (fileView (file ++ List.replicate k 0)).mem = (fileView file).mem := by
  funext o
  unfold ElfView.mem ElfView.byte fileView
  dsimp only
  rw [Option.or_none, Option.or_none]
  by_cases hin : o.toNat < file.length
  · rw [List.getElem?_append_left hin]
  · rw [List.getElem?_append_right (Nat.le_of_not_lt hin), List.getElem?_eq_none (Nat.le_of_not_lt hin),
      List.getElem?_replicate]
    split <;> rfl

/-- What is read from the buffer does not depend on what is around it. -/
theorem holdsFile_buffer (v : ElfView) : HoldsFile v.buffer v := by
  have h := holdsFile_padded v.buffer [] v.outside
  rwa [List.append_nil] at h

/-- The bytes of a file with zeros behind them, in the memory of the process. -/
structure BufferOf (file : List UInt8) (v : ElfView) : Prop where
  padded : ∃ k, v.buffer = file ++ List.replicate k 0
  size : v.buffer.length < 2 ^ 64 - 48

namespace BufferOf

variable (hb : BufferOf file v)

include hb

theorem size_lt : v.buffer.length < 2 ^ 64 := Nat.lt_trans hb.size (by decide)

theorem length_le : file.length ≤ v.buffer.length := by
  obtain ⟨k, hk⟩ := hb.padded
  rw [hk, List.length_append]
  exact Nat.le_add_right _ _

theorem byte_eq (h : o.toNat < v.buffer.length) : v.byte o = some ((fileView file).mem o) := by
  obtain ⟨k, hk⟩ := hb.padded
  rw [← padded_mem file k, ← hk]
  unfold ElfView.mem ElfView.byte fileView
  dsimp only
  rw [List.getElem?_eq_getElem h]
  rfl

theorem header_eq (h : 58 ≤ v.buffer.length) : v.header = (fileView file).header := by
  obtain ⟨k, hk⟩ := hb.padded
  rw [(holdsFile_buffer v).header_eq hb.size_lt h, hk, ElfView.header, ElfView.header, padded_mem]

theorem phdr_eq (h : o.toNat + 48 ≤ v.buffer.length) : v.phdr o = (fileView file).phdr o := by
  obtain ⟨k, hk⟩ := hb.padded
  rw [(holdsFile_buffer v).phdr_eq hb.size_lt h, hk, ElfView.phdr, ElfView.phdr, padded_mem]

theorem entrySound_iff {h : ElfHeader} (hn : n ≤ v.buffer.length) :
    EntrySound v h n i ↔ EntrySound (fileView file) h n i := by
  unfold EntrySound
  refine and_congr_right fun hin => ?_
  rw [hb.phdr_eq (Nat.le_trans hin hn)]

/-- A byte of the magic number. -/
theorem magic_byte {k : Nat} (hk : k < v.buffer.length) :
    v.byte (0 + UInt64.ofNat k) = some ((fileView file).mem (UInt64.ofNat k)) := by
  have hsize := hb.size
  rw [UInt64.zero_add]
  refine hb.byte_eq ?_
  rw [toNat_ofNat64 (by omega)]
  exact hk

/-- The loop goes over the program headers of the file. -/
theorem loadEntries_eq (hheader : 58 ≤ file.length) (hentry : TableInFile file) :
    loadEntries v (fileView file).header 0 (fileView file).header.phnum.toNat = elfLoads file := by
  have hholds : HoldsFile file v := by
    obtain ⟨k, hk⟩ := hb.padded
    have h := holdsFile_padded file (List.replicate k 0) v.outside
    rwa [← hk] at h
  have hlen := Nat.lt_of_le_of_lt hb.length_le hb.size_lt
  rw [← hb.header_eq (Nat.le_trans hheader hb.length_le)]
  exact hholds.loadEntries_eq hlen hheader hentry

end BufferOf

theorem magic_length : elfMagic.length = 5 := rfl

/-- The reads of the magic number lie in five bytes. -/
theorem magicReads_le (hn : 5 ≤ n) : ∀ r ∈ magicReads, r.1.toNat + r.2 ≤ n := by
  intro r hr
  obtain ⟨k, hk, rfl⟩ := List.mem_map.mp hr
  have hlt := List.mem_range.mp hk
  rw [magic_length] at hlt
  dsimp only
  rw [UInt64.zero_add, toNat_ofNat64 (by omega)]
  omega

/-- A buffer with the magic number and room for the header comes to the loop. -/
theorem loadElf_runs (env : ElfEnv) (page : PageSize) (hb : BufferOf file v)
    (h : 58 ≤ v.buffer.length) (hmagic : v.HasMagic) (fileSize gpaToHpaOffset : UInt64) :
    ∃ log r, ElfRun env v fileSize gpaToHpaOffset (fileView file).header 0
        (fileView file).header.phnum.toNat .start log r ∧
      loadElf env page v fileSize gpaToHpaOffset =
        ⟨readEvents magicReads ++ (readEvents ElfView.headerReads ++ log),
          r.map fun span => span.map (fileView file).header.info⟩ := by
  have houtcome := loadElf_outcome env page v fileSize gpaToHpaOffset
  generalize loadElf env page v fileSize gpaToHpaOffset = run at houtcome ⊢
  cases houtcome with
  | notElf log k b b' hget hbyte hne =>
    rw [hmagic k b hget] at hbyte
    exact absurd (Option.some.inj hbyte).symm hne
  | diesInMagic log k hk hnone _ _ =>
    rw [magic_length] at hk
    rw [hb.magic_byte (by omega)] at hnone
    cases hnone
  | diesInHeader log _ hstop =>
    exact absurd (allMapped_of_le hb.size_lt (headerReads_le_iff.mpr h)) hstop.not_allMapped
  | runs log r _ _ hrun =>
    rw [hb.header_eq h] at hrun ⊢
    exact ⟨log, r, hrun, rfl⟩

/-! ## 5. Which files are safe -/

theorem toNat_length (hb : BufferOf file v) : (UInt64.ofNat file.length).toNat = file.length := by
  have hle := hb.length_le
  have hsize := hb.size
  exact toNat_ofNat64 (by omega)

/-- The log of a run behind the reads of the header. -/
theorem inside_log {log : List LoadEvent} :
    (∀ e ∈ readEvents magicReads ++ (readEvents ElfView.headerReads ++ log), e.Inside n) ↔
      58 ≤ n ∧ ∀ e ∈ log, e.Inside n := by
  rw [List.forall_mem_append, List.forall_mem_append, inside_readEvents, inside_readEvents,
    headerReads_le_iff]
  constructor
  · exact fun h => h.2
  · exact fun h => ⟨magicReads_le (by omega), h⟩

/-- A program header of a table that lies in the file, without an overflow. -/
theorem entrySound_table (hlen : file.length < 2 ^ 64)
    (hi : i < (fileView file).header.phnum.toNat)
    (hin : (fileView file).header.phoff.toNat +
      i * (fileView file).header.phentsize.toNat + 48 ≤ file.length)
    (hproduct : i * (fileView file).header.phentsize.toNat < 2 ^ 31)
    (hdata : ∀ ph ∈ elfLoads file, ph.offset.toNat + ph.filesz.toNat ≤ file.length) :
    EntrySound (fileView file) (fileView file).header file.length i := by
  have hnum : i < 2 ^ 16 := Nat.lt_trans hi (UInt16.toNat_lt _)
  have hplace := ElfHeader.phdrOffset_eq _ hproduct hnum
  refine ⟨?_, fun hload => hdata _ ?_⟩
  · rw [hplace, toNat_ofNat64 (by omega)]
    exact hin
  · rw [hplace] at hload ⊢
    refine List.mem_filter.mpr ⟨List.mem_map.mpr ⟨i, List.mem_range.mpr hi, rfl⟩, ?_⟩
    exact decide_eq_true hload

section Sufficient

variable (hb : BufferOf file v) (env : ElfEnv) (page : PageSize)
  (gpaToHpaOffset : UInt64)

include hb

/-- A file with a byte that does not match is refused: no read before it meets the end. -/
theorem safeLoad_notElf {k : Nat} {b : UInt8} (hk : k < v.buffer.length)
    (hget : elfMagic[k]? = some b) (hne : (fileView file).mem (UInt64.ofNat k) ≠ b) :
    SafeLoad file (loadElf env page v (UInt64.ofNat file.length) gpaToHpaOffset) := by
  have hno : ¬ v.HasMagic := by
    intro hmagic
    have hbyte := hmagic k b hget
    rw [hb.magic_byte hk] at hbyte
    exact hne (Option.some.inj hbyte)
  have houtcome := loadElf_outcome env page v (UInt64.ofNat file.length) gpaToHpaOffset
  generalize loadElf env page v (UInt64.ofNat file.length) gpaToHpaOffset = run at houtcome ⊢
  cases houtcome with
  | notElf log _ _ _ _ _ _ => exact .inl rfl
  | diesInHeader _ hmagic _ | runs _ _ hmagic _ _ => exact absurd hmagic hno
  | diesInMagic log k' _ hnone hbefore _ =>
    -- the read that meets nothing lies behind the byte that does not match
    by_cases hkk : k < k'
    · have hbyte := hbefore k b hkk hget
      rw [hb.magic_byte hk] at hbyte
      exact absurd (Option.some.inj hbyte) hne
    · rw [hb.magic_byte (by omega)] at hnone
      cases hnone

/-- With room for the header it is enough to look at the loop. -/
theorem safeLoad_of_runs (hroom : 58 ≤ v.buffer.length)
    (h : ∀ log r, ElfRun env v (UInt64.ofNat file.length) gpaToHpaOffset (fileView file).header 0
        (fileView file).header.phnum.toNat .start log r →
      SafeLoad file ⟨readEvents magicReads ++ (readEvents ElfView.headerReads ++ log),
        r.map fun span => span.map (fileView file).header.info⟩) :
    SafeLoad file (loadElf env page v (UInt64.ofNat file.length) gpaToHpaOffset) := by
  by_cases hmagic : v.HasMagic
  · obtain ⟨log, r, hrun, heq⟩ := loadElf_runs env page hb hroom hmagic
      (UInt64.ofNat file.length) gpaToHpaOffset
    rw [heq]
    exact h log r hrun
  · obtain ⟨k, b, hget, hbyte⟩ :
        ∃ k b, elfMagic[k]? = some b ∧ v.byte (0 + UInt64.ofNat k) ≠ some b := by
      simpa [ElfView.HasMagic] using hmagic
    have hk := (List.getElem?_eq_some_iff.mp hget).1
    rw [magic_length] at hk
    have hin : k < v.buffer.length := by omega
    rw [hb.magic_byte hin] at hbyte
    exact safeLoad_notElf hb env page gpaToHpaOffset hin hget fun heq => hbyte (congrArg some heq)

/-- A file whose header, table and segments lie in it is read there only, and loaded. -/
theorem safeLoad_sound (hheader : 58 ≤ file.length) (hentry : TableInFile file)
    (hdata : ∀ ph ∈ elfLoads file, ph.offset.toNat + ph.filesz.toNat ≤ file.length)
    (hfits : TotalFits (elfLoads file)) :
    SafeLoad file (loadElf env page v (UInt64.ofNat file.length) gpaToHpaOffset) := by
  have hn := toNat_length hb
  have hle := hb.length_le
  have hsize := hb.size
  refine safeLoad_of_runs hb env page gpaToHpaOffset (Nat.le_trans hheader hle) fun log r hrun => ?_
  have hsound : ∀ k, 0 ≤ k → k < 0 + (fileView file).header.phnum.toNat →
      EntrySound v (fileView file).header (UInt64.ofNat file.length).toNat k := by
    intro k _ hk
    rw [Nat.zero_add] at hk
    rw [hn, hb.entrySound_iff hle]
    exact entrySound_table (by omega) hk (hentry k hk).1 (hentry k hk).2 hdata
  have hlog := hrun.inside (by omega) hsound
  rw [hn] at hlog
  refine .inr ⟨inside_log.mpr ⟨hheader, hlog⟩, fun info hinfo => ?_⟩
  obtain ⟨next, hr, hnext⟩ := map_eq_ok.mp hinfo
  cases next with
  | none => cases hnext
  | some span =>
    subst hr
    have hloads := hb.loadEntries_eq hheader hentry
    refine ⟨fun i hi => ?_, hdata, ?_⟩
    · have hnum : i < 2 ^ 16 := Nat.lt_trans hi (UInt16.toNat_lt _)
      have hin := (hentry i hi).1
      exact (phdrOffset_exact_iff _ hnum).mpr ⟨(hentry i hi).2, by omega⟩
    · rw [← Option.some.inj hnext, ElfHeader.info, hrun.stores_eq.2, hloads]
      exact (exactTotal_iff _).mpr hfits

/-- A file with a program header that is rejected is not loaded, and is read in its bytes as
    long as anything is. -/
theorem safeLoad_rejected {m : Nat} (hm : m < (fileView file).header.phnum.toNat)
    (hheader : 58 ≤ v.buffer.length)
    (hrejected : ((fileView file).phdr ((fileView file).header.phdrOffset m)).Rejected
      (UInt64.ofNat file.length))
    (hroom : ∀ k ≤ m, ((fileView file).header.phdrOffset k).toNat + 48 ≤ v.buffer.length)
    (hbefore : ∀ j < m, ((fileView file).phdr ((fileView file).header.phdrOffset j)).Asks →
      58 ≤ file.length ∧ ∀ k ≤ j, EntrySound (fileView file) (fileView file).header file.length k) :
    SafeLoad file (loadElf env page v (UInt64.ofNat file.length) gpaToHpaOffset) := by
  have hn := toNat_length hb
  have hle := hb.length_le
  have hsize := hb.size
  refine safeLoad_of_runs hb env page gpaToHpaOffset hheader fun log r hrun => ?_
  have hmapped : ∀ k, 0 ≤ k → k ≤ m →
      v.AllMapped (ElfView.phdrReads ((fileView file).header.phdrOffset k)) := fun k _ hk =>
    allMapped_of_le hb.size_lt ((phdrReads_le_iff hsize).mpr (hroom k hk))
  rw [← hb.phdr_eq (hroom m (Nat.le_refl _))] at hrejected
  rcases hrun.to_rejected (by omega) (Nat.zero_le m) (by omega) hrejected hmapped with
    hnone | ⟨j, -, hjm, hasks, ⟨e, herr⟩, hin⟩
  · subst hnone
    exact .inl rfl
  · subst herr
    rw [hb.phdr_eq (hroom j (by omega))] at hasks
    obtain ⟨h58, hsound⟩ := hbefore j hjm hasks
    refine .inr ⟨inside_log.mpr ⟨h58, ?_⟩, fun info hinfo => by cases hinfo⟩
    rw [hn] at hin
    refine hin fun k _ hk => ?_
    rw [hb.entrySound_iff hle]
    exact hsound k hk

/-- An acceptable file is loaded safely, whatever the loader meets. -/
theorem ElfAcceptable.safe (hacc : ElfAcceptable v.buffer.length file) :
    SafeLoad file (loadElf env page v (UInt64.ofNat file.length) gpaToHpaOffset) := by
  cases hacc with
  | notElf k b hk hget hne => exact safeLoad_notElf hb env page gpaToHpaOffset hk hget hne
  | sound hheader hentry hdata hfits =>
    exact safeLoad_sound hb env page gpaToHpaOffset hheader hentry hdata hfits
  | rejected m hm hheader hrejected hroom hbefore =>
    exact safeLoad_rejected hb env page gpaToHpaOffset hm hheader hrejected hroom hbefore

end Sufficient

/-- An environment in which only the loads of one program header fail, behind the copy. -/
def lateEnv (j : Nat) : ElfEnv :=
  { fineEnv with
    data := fun i => if i = j then .failsLate else .done
    zeros := fun i => if i = j then .failsLate else .done }

theorem fineEnv_fine (k : Nat) : ¬ fineEnv.Fails k := fun h => h.elim (· rfl) (· rfl)

theorem lateEnv_fine {j k : Nat} (h : k ≠ j) : ¬ (lateEnv j).Fails k := by
  intro hfails
  rcases hfails with hdata | hzeros
  · exact hdata (if_neg h)
  · exact hzeros (if_neg h)

section Necessary

variable {buffer : List UInt8} {page : PageSize}
  (hb : BufferOf file ⟨buffer, fun _ => none⟩) (h58 : 58 ≤ buffer.length)
  {log : List LoadEvent} {r : Except FileFault (Option ElfSpan)}
  (hrun : ElfRun fineEnv ⟨buffer, fun _ => none⟩ (UInt64.ofNat file.length) gpaToHpaOffset
    (fileView file).header 0 (fileView file).header.phnum.toNat .start log r)

include hb h58 hrun

/-- Refused: any load before the rejected program header may be the last that is made. -/
theorem acceptable_of_refused (hmagic : ElfView.HasMagic ⟨buffer, fun _ => none⟩)
    (hsafe : ∀ env : ElfEnv, env.outside = (fun _ => none) → SafeLoad file
      (loadElf env page ⟨buffer, fun _ => none⟩ (UInt64.ofNat file.length) gpaToHpaOffset))
    (hr : r = .ok none) : ElfAcceptable buffer.length file := by
  subst hr
  have hn := toNat_length hb
  have hle : file.length ≤ buffer.length := hb.length_le
  have hsize : buffer.length < 2 ^ 64 - 48 := hb.size
  obtain ⟨m, -, hm, hrejected, hall, hnot⟩ := hrun.refused fun _ => rfl
  have hroom : ∀ k ≤ m, ((fileView file).header.phdrOffset k).toNat + 48 ≤ buffer.length :=
    fun k hk => (phdrReads_le_iff hsize).mp (le_of_allMapped rfl hb.size_lt
      (by simp [ElfView.phdrReads]) (hall k (Nat.zero_le _) hk))
  have hentry : ∀ k ≤ m, (ElfView.mk buffer fun _ => none).phdr
      ((fileView file).header.phdrOffset k) =
        (fileView file).phdr ((fileView file).header.phdrOffset k) :=
    fun k hk => hb.phdr_eq (hroom k hk)
  rw [hentry m (Nat.le_refl _)] at hrejected
  refine .rejected m (by omega) h58 hrejected hroom fun j hj hasks => ?_
  rw [← hentry j (by omega)] at hasks
  have hlate := hsafe (lateEnv j) rfl
  obtain ⟨log', r', hrun', heq⟩ := loadElf_runs (lateEnv j) page hb h58 hmagic
    (UInt64.ofNat file.length) gpaToHpaOffset
  obtain ⟨hnotnone, hsound⟩ := hrun'.late (by omega) hb.size_lt (by rw [hn]; exact hle) (fun _ => rfl)
    (Nat.zero_le j) (by omega) (if_pos rfl) (if_pos rfl) (fun k hk => lateEnv_fine hk) hasks
    (fun k _ hk => hnot k (Nat.zero_le _) (by omega))
  rw [heq] at hlate
  rcases hlate with hres' | ⟨hin', -⟩
  · obtain ⟨next, hr', hnext⟩ := map_eq_ok.mp hres'
    cases next with
    | none => exact absurd hr' hnotnone
    | some span => cases hnext
  · obtain ⟨h58n, hlog'⟩ := inside_log.mp hin'
    refine ⟨h58n, fun k hk => ?_⟩
    rw [← hn] at hlog'
    have hk := hsound hlog' k (Nat.zero_le _) hk
    rw [hn, hb.entrySound_iff hle] at hk
    exact hk

/-- Not refused: the loop has gone over all program headers, and what it reports is exact. -/
theorem acceptable_of_returned (hr : r ≠ .ok none) (h58n : 58 ≤ file.length)
    (hlog : ∀ e ∈ log, e.Inside file.length)
    (hinfo : ∀ span, r = .ok (some span) → TableLoaded file ((fileView file).header.info span)) :
    ElfAcceptable buffer.length file := by
  have hn := toNat_length hb
  have hle : file.length ≤ buffer.length := hb.length_le
  have hsize : buffer.length < 2 ^ 64 - 48 := hb.size
  rw [← hn] at hlog
  obtain ⟨⟨span, hspan⟩, hsound⟩ := (hrun.fine (by omega) hb.size_lt (by rw [hn]; exact hle) fineEnv_fine
    hlog).resolve_left hr
  subst hspan
  have htable := hinfo span rfl
  have hentry : ∀ i < (fileView file).header.phnum.toNat,
      (fileView file).header.phoff.toNat + i * (fileView file).header.phentsize.toNat + 48 ≤
          file.length ∧
        i * (fileView file).header.phentsize.toNat < 2 ^ 31 := by
    intro i hi
    have hnum : i < 2 ^ 16 := Nat.lt_trans hi (UInt16.toNat_lt _)
    have hplace := htable.place i hi
    have hin := (hsound i (Nat.zero_le _) (by omega)).1
    rw [hn, hplace] at hin
    exact ⟨hin, ((phdrOffset_exact_iff _ hnum).mp hplace).1⟩
  refine .sound h58n hentry htable.data ((exactTotal_iff _).mp ?_)
  have htotal := htable.total
  rwa [ElfHeader.info, hrun.stores_eq.2, hb.loadEntries_eq h58n hentry] at htotal

end Necessary

/-- A buffer whose loads are safe where nothing lies around it holds an acceptable file. -/
theorem acceptable_of_safe {buffer : List UInt8} {page : PageSize}
    (hb : BufferOf file ⟨buffer, fun _ => none⟩)
    (hsafe : ∀ env : ElfEnv, env.outside = (fun _ => none) → SafeLoad file
      (loadElf env page ⟨buffer, fun _ => none⟩ (UInt64.ofNat file.length) gpaToHpaOffset)) :
    ElfAcceptable buffer.length file := by
  have hle : file.length ≤ buffer.length := hb.length_le
  have hsize : buffer.length < 2 ^ 64 - 48 := hb.size
  have hfine := hsafe fineEnv rfl
  have houtcome := loadElf_outcome fineEnv page ⟨buffer, fun _ => none⟩ (UInt64.ofNat file.length)
    gpaToHpaOffset
  generalize loadElf fineEnv page ⟨buffer, fun _ => none⟩ (UInt64.ofNat file.length)
    gpaToHpaOffset = run at hfine houtcome
  cases houtcome with
  | notElf log k b b' hget hbyte hne =>
    have hk : k < buffer.length := by
      by_contra hge
      have hk5 := (List.getElem?_eq_some_iff.mp hget).1
      rw [magic_length] at hk5
      rw [ElfView.byte, UInt64.zero_add, Option.or_none, toNat_ofNat64 (by omega),
        List.getElem?_eq_none (Nat.le_of_not_lt hge)] at hbyte
      cases hbyte
    rw [hb.magic_byte hk] at hbyte
    exact .notElf k b hk hget fun heq => hne (by rw [← Option.some.inj hbyte, heq])
  | diesInMagic log k hk hnone _ hlog =>
    rcases hfine with hres | ⟨hin, -⟩
    · cases hres
    have hread := hin _ hlog
    rw [magic_length] at hk
    rw [LoadEvent.Inside, UInt64.zero_add, toNat_ofNat64 (by omega)] at hread
    rw [hb.magic_byte (show k < buffer.length by omega)] at hnone
    cases hnone
  | diesInHeader log _ hstop =>
    rcases hfine with hres | ⟨hin, -⟩
    · cases hres
    exact absurd (List.forall_mem_append.mp hin).2 (hstop.not_inside hb.size_lt hle)
  | runs log r hmagic hmapped hrun =>
    have h58 : 58 ≤ buffer.length :=
      headerReads_le_iff.mp (le_of_allMapped rfl hb.size_lt (by decide) hmapped)
    rw [hb.header_eq h58] at hrun hfine
    by_cases hr : r = .ok none
    · exact acceptable_of_refused hb h58 hrun hmagic hsafe hr
    · rcases hfine with hres | ⟨hin, hinfo⟩
      · obtain ⟨next, hr', hnext⟩ := map_eq_ok.mp hres
        cases next with
        | none => exact absurd hr' hr
        | some span => cases hnext
      · obtain ⟨h58n, hlog⟩ := inside_log.mp hin
        refine acceptable_of_returned hb h58 hrun hr h58n hlog fun span hspan => hinfo _ ?_
        rw [hspan]
        rfl

/-- The loader behind a file that can be read. -/
theorem loadElfKernel_readable (h : input.Readable) (env : ElfEnv) (page : PageSize)
    (gpaToHpaOffset : UInt64) :
    loadElfKernel env page gpaToHpaOffset input =
      loadElf env page ⟨paddedBuffer page input.stSize input.bytes, env.outside⟩
        (UInt64.ofNat input.bytes.length) gpaToHpaOffset := by
  obtain ⟨hopens, hstats, hmalloc, hsome⟩ := h
  obtain ⟨bytes, hbytes⟩ := Option.isSome_iff_exists.mp hsome
  have hfile : input.bytes = bytes := by rw [InputFile.bytes, hbytes]; rfl
  rw [loadElfKernel, readFile_ok hopens hstats hmalloc hbytes, Traced.lift_ok_bind, hfile]

/-- A file that cannot be read is not loaded. -/
theorem loadElfKernel_unreadable (h : ¬ input.Readable) (env : ElfEnv) (page : PageSize)
    (gpaToHpaOffset : UInt64) :
    (loadElfKernel env page gpaToHpaOffset input).log = [] ∧
      ∀ info, (loadElfKernel env page gpaToHpaOffset input).result ≠ .ok (some info) := by
  unfold loadElfKernel
  cases hread : readFile page input with
  | error e => exact ⟨rfl, fun info hres => by cases hres⟩
  | ok image =>
    obtain ⟨buffer, size⟩ := image
    rw [Traced.lift_ok_bind]
    cases buffer with
    | none => exact ⟨rfl, fun info hres => by cases hres⟩
    | some elf =>
      refine absurd ?_ h
      obtain ⟨hopens, hstats, hmalloc, bytes, hbytes⟩ := readFile_calls hread
      exact ⟨hopens, hstats, hmalloc, by rw [hbytes]; rfl⟩

theorem bufferOf_padded (h : input.Readable) (page : PageSize) (outside : UInt64 → Option UInt8) :
    BufferOf input.bytes ⟨paddedBuffer page input.stSize input.bytes, outside⟩ ∧
      (paddedBuffer page input.stSize input.bytes).length =
        (pageAlign page input.stSize.bytes).toNat := by
  obtain ⟨bytes, hbytes⟩ := Option.isSome_iff_exists.mp h.2.2.2
  have hfile : input.bytes = bytes := by rw [InputFile.bytes, hbytes]; rfl
  have hlength := length_paddedBuffer page (input.contentFits bytes hbytes)
  rw [hfile]
  refine ⟨⟨⟨_, rfl⟩, ?_⟩, hlength⟩
  have hpow : 2 ^ page.log ≤ 2 ^ 62 := Nat.pow_le_pow_right (by decide) (by have := page.fits; omega)
  have hsize := input.stSize.nonneg
  have hpage := page.isPow
  have hdiv := Nat.div_mul_le_self (input.stSize.bytes.toNat + page.bytes.toNat - 1) page.bytes.toNat
  rw [hlength, toNat_pageAlign page hsize]
  omega

/-- **The loader is safe on a file, whatever lies around its buffer and whatever the allocator
    and the driver answer, exactly if the file is acceptable or cannot be read.** -/
theorem elf_loader_safe_iff (page : PageSize) (gpaToHpaOffset : UInt64) (input : InputFile) :
    (∀ env, SafeLoad input.bytes (loadElfKernel env page gpaToHpaOffset input)) ↔
      (input.Readable → ElfAcceptable (pageAlign page input.stSize.bytes).toNat input.bytes) := by
  constructor
  · intro hsafe hreadable
    obtain ⟨hb, hlength⟩ := bufferOf_padded hreadable page fun _ => none
    rw [← hlength]
    have hload : ∀ env : ElfEnv, env.outside = (fun _ => none) → SafeLoad input.bytes
        (loadElf env page ⟨paddedBuffer page input.stSize input.bytes, fun _ => none⟩
          (UInt64.ofNat input.bytes.length) gpaToHpaOffset) := by
      intro env hout
      have h := hsafe env
      rwa [loadElfKernel_readable hreadable, hout] at h
    exact acceptable_of_safe hb hload
  · intro hacc env
    by_cases hreadable : input.Readable
    · obtain ⟨hb, hlength⟩ := bufferOf_padded hreadable page env.outside
      rw [loadElfKernel_readable hreadable]
      refine ElfAcceptable.safe hb env page gpaToHpaOffset ?_
      rw [hlength]
      exact hacc hreadable
    · obtain ⟨hlog, hres⟩ := loadElfKernel_unreadable hreadable env page gpaToHpaOffset
      refine .inr ⟨?_, fun info hinfo => absurd hinfo (hres info)⟩
      rw [hlog]
      exact fun e he => by cases he

/-- An ELF file of 4 KiB whose program header lies behind its end. -/
def tableBehindEnd : List UInt8 :=
  elfMagic ++ List.replicate 19 0 ++ le64 0x1000 ++ le64 0x1000 ++ List.replicate 14 0 ++ le16 56 ++
    le16 1 ++ List.replicate 4038 0

/-- The file is read behind its end. -/
theorem table_behind_end_unsafe :
    ∃ env, ¬ SafeLoad tableBehindEnd (loadElfKernel env .fourKiB 0
      (wholeFile ⟨4096, by decide⟩ tableBehindEnd (by decide +kernel))) := by
  refine ⟨fineEnv, fun hsafe => ?_⟩
  have hresult : (loadElfKernel fineEnv .fourKiB 0 (wholeFile ⟨4096, by decide⟩ tableBehindEnd
      (by decide +kernel))).result.toOption = none := by decide +kernel
  have hlog : LoadEvent.read 0x1000 4 ∈ (loadElfKernel fineEnv .fourKiB 0
      (wholeFile ⟨4096, by decide⟩ tableBehindEnd (by decide +kernel))).log := by decide +kernel
  rcases hsafe with hnone | ⟨hin, -⟩
  · rw [hnone] at hresult
    cases hresult
  · have hread : (0x1000 : UInt64).toNat + 4 ≤ tableBehindEnd.length := hin _ hlog
    exact absurd hread (by decide +kernel)

end HvisorTool
