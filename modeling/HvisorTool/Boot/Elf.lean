/-
  File:      HvisorTool/Boot/Elf.lean
  Subject:   THE ELF LOADER: `load_elf_kernel` over the buffer of `read_file`, and the loads
             into physical memory that it makes.

  The buffer lies somewhere in the process: a read behind it meets whatever is mapped there,
  or nothing. Every read of the buffer and every load is logged, in order.

  * `loadBufferToMemory`, `loadImageToMemory`: one load, through the driver;
  * `ElfView`: the buffer and what lies around it, by the offset from its start;
  * `loadElfKernel`: the header, then one pass for each program header;
  * `SegmentOutcome`: all that a pass can do; `loadSegment_outcome`: it does one of these.
-/
import HvisorTool.Boot.ReadFile
import HvisorTool.Library.Traced
import HvisorTool.Virtio.Memory

namespace HvisorTool

open Library

/-! ## 1. Loads -/

/-- What the loader does to the buffer of a file and to physical memory. -/
inductive LoadEvent where
  /-- A read of the buffer. -/
  | read (offset : UInt64) (len : Nat)
  /-- Bytes copied to physical memory, and the offset in the buffer that they come from. -/
  | load (source : Option UInt64) (paddr : UInt64) (bytes : List UInt8)
  deriving DecidableEq, Repr

/-- How `open_dev` and `HVISOR_LOAD_IMAGE` answer. -/
inductive LoadAnswer where
  | done
  /-- The device cannot be opened, or nothing is copied. -/
  | fails
  /-- The bytes are copied, and the flush behind it fails. -/
  | failsLate
  deriving DecidableEq, Repr

/-- Code that loads. -/
abbrev Loading (α : Type) := Traced LoadEvent FileFault α

/-- `load_buffer_to_memory`: `readable` tells whether the whole buffer can be read, `source`
    where it lies in the buffer of a file. -/
def loadBufferToMemory (page : PageSize) (answer : LoadAnswer) (source : Option UInt64)
    (readable : Bool) (bytes : List UInt8) (loadPaddr : UInt64) : Loading UInt64 :=
  if bytes.length = 0 then .lift (.ok 0)
  else
    match answer with
    | .fails => .lift (.error .exit)
    | .failsLate => .tell (.load source loadPaddr bytes) (.lift (.error .exit))
    | .done =>
      .tell (.load source loadPaddr bytes) (.lift
        (if readable then .ok (pageAlign page (UInt64.ofNat bytes.length)) else .error .exit))

theorem loadBufferToMemory_some {page : PageSize} {source : Option UInt64} {readable : Bool}
    {bytes : List UInt8} {loadPaddr : UInt64} (h : bytes.length ≠ 0) (answer : LoadAnswer) :
    loadBufferToMemory page answer source readable bytes loadPaddr =
      match answer with
      | .fails => ⟨[], .error .exit⟩
      | .failsLate => ⟨[.load source loadPaddr bytes], .error .exit⟩
      | .done => ⟨[.load source loadPaddr bytes],
          if readable then .ok (pageAlign page (UInt64.ofNat bytes.length)) else .error .exit⟩ := by
  unfold loadBufferToMemory
  rw [if_neg h]
  cases answer <;> rfl

/-- `load_image_to_memory`. -/
def loadImageToMemory (page : PageSize) (answer : LoadAnswer) (path : String) (file : InputFile)
    (loadPaddr : UInt64) : Loading UInt64 :=
  if path = "null" then .lift (.ok 0)
  else
    (Traced.lift (readFile page file)).bind fun image =>
      loadBufferToMemory page answer none true ((image.1.getD []).take image.2.toNat) loadPaddr

/-! ## 2. The buffer of an ELF file -/

/-- What the loader meets besides the file: memory around the buffer, and the answers of the
    allocator and the driver for each program header. -/
structure ElfEnv where
  outside : UInt64 → Option UInt8
  callocOk : Nat → Bool
  data : Nat → LoadAnswer
  zeros : Nat → LoadAnswer

/-- A buffer in the memory of the process. -/
structure ElfView where
  buffer : List UInt8
  outside : UInt64 → Option UInt8

/-- The fields of a program header that the loader reads. -/
structure Phdr where
  type : UInt32
  offset : UInt64
  paddr : UInt64
  filesz : UInt64
  memsz : UInt64
  deriving DecidableEq, Repr

/-- The fields of the ELF header that the loader reads. -/
structure ElfHeader where
  entry : UInt64
  phoff : UInt64
  phentsize : UInt16
  phnum : UInt16
  deriving DecidableEq, Repr

/-- `e_phoff + i * e_phentsize`: the product is an `int`. -/
def ElfHeader.phdrOffset (h : ElfHeader) (i : Nat) : UInt64 :=
  h.phoff + (UInt32.ofNat i * h.phentsize.toUInt32).toInt32.toInt64.toUInt64

/-- The first bytes of a 64-bit ELF file. -/
def elfMagic : List UInt8 := [0x7f, 0x45, 0x4c, 0x46, 2]

namespace ElfView

variable (v : ElfView)

/-- The byte at an offset; `none` where nothing is mapped. -/
def byte (o : UInt64) : Option UInt8 := (v.buffer[o.toNat]?).or (v.outside o)

def mem : Mem := fun o => (v.byte o).getD 0

def mapped (o : UInt64) (len : Nat) : Bool :=
  (List.range len).all fun j => (v.byte (o + UInt64.ofNat j)).isSome

/-- A read of a field. -/
def fetch {α : Type} (len : Nat) (get : Mem → UInt64 → α) (o : UInt64) : Loading α :=
  .tell (.read o len) (.lift (if v.mapped o len then .ok (get v.mem o) else .error .segv))

/-- The tests of `e_ident`, byte by byte. -/
def checkMagic (o : UInt64) : List UInt8 → Loading Bool
  | [] => .lift (.ok true)
  | b :: bs =>
    (v.fetch 1 (fun mem a => mem a) o).bind fun x =>
      if x ≠ b then .lift (.ok false) else checkMagic (o + 1) bs

/-- The fields of the ELF header. -/
def readFields : Loading ElfHeader :=
  (v.fetch 8 readU64 24).bind fun entry =>
    (v.fetch 8 readU64 32).bind fun phoff =>
      (v.fetch 2 readU16 54).bind fun phentsize =>
        (v.fetch 2 readU16 56).bind fun phnum =>
          .lift (.ok ⟨entry, phoff, phentsize, phnum⟩)

/-- The fields of a program header. -/
def readPhdr (o : UInt64) : Loading Phdr :=
  (v.fetch 4 readU32 o).bind fun type =>
    (v.fetch 8 readU64 (o + 8)).bind fun offset =>
      (v.fetch 8 readU64 (o + 24)).bind fun paddr =>
        (v.fetch 8 readU64 (o + 32)).bind fun filesz =>
          (v.fetch 8 readU64 (o + 40)).bind fun memsz =>
            .lift (.ok ⟨type, offset, paddr, filesz, memsz⟩)

end ElfView

/-! ## 3. `load_elf_kernel` -/

/-- `min_paddr` and `max_end`. -/
structure ElfSpan where
  minPaddr : UInt64
  maxEnd : UInt64
  deriving DecidableEq, Repr

/-- `UINT64_MAX`. -/
def uint64Max : UInt64 := 0xffffffffffffffff

def ElfSpan.start : ElfSpan := ⟨uint64Max, 0⟩

def ElfSpan.grow (span : ElfSpan) (ph : Phdr) : ElfSpan :=
  ⟨if ph.paddr < span.minPaddr then ph.paddr else span.minPaddr,
    if ph.paddr + ph.memsz > span.maxEnd then ph.paddr + ph.memsz else span.maxEnd⟩

/-- `*total_size`. -/
def ElfSpan.total (span : ElfSpan) : UInt64 :=
  if span.minPaddr = uint64Max then 0 else span.maxEnd - span.minPaddr

/-- `*entry_point` and `*total_size`. -/
structure ElfInfo where
  entryPoint : UInt64
  totalSize : UInt64
  deriving DecidableEq, Repr

/-- What the loop leaves, as `*entry_point` and `*total_size`. -/
def ElfHeader.info (h : ElfHeader) (span : ElfSpan) : ElfInfo := ⟨h.entry, span.total⟩

section Loader

variable (env : ElfEnv) (page : PageSize) (v : ElfView) (fileSize gpaToHpaOffset : UInt64)

/-- The data of a segment. -/
def loadData (i : Nat) (ph : Phdr) : Loading UInt64 :=
  if ph.filesz > 0 then
    loadBufferToMemory page (env.data i) (some ph.offset) (v.mapped ph.offset ph.filesz.toNat)
      (readBytes v.mem ph.offset ph.filesz.toNat) (ph.paddr + gpaToHpaOffset)
  else .lift (.ok 0)

/-- The zeros of a segment; `false` where there is no buffer for them. -/
def loadZeros (i : Nat) (ph : Phdr) : Loading Bool :=
  if ph.memsz > ph.filesz then
    if env.callocOk i then
      (loadBufferToMemory page (env.zeros i) none true
        (List.replicate (ph.memsz - ph.filesz).toNat 0)
        (ph.paddr + gpaToHpaOffset + ph.filesz)).bind fun _ => .lift (.ok true)
    else .lift (.ok false)
  else .lift (.ok true)

/-- The body of the loop, behind the reads; `none` is `return -1`. -/
def loadSegment (i : Nat) (ph : Phdr) (span : ElfSpan) : Loading (Option ElfSpan) :=
  if ph.type ≠ 1 then .lift (.ok (some span))
  else if ph.offset + ph.filesz > fileSize then .lift (.ok none)
  else
    (loadData env page v gpaToHpaOffset i ph).bind fun _ =>
      (loadZeros env page gpaToHpaOffset i ph).bind fun stored =>
        .lift (.ok (if stored then some (span.grow ph) else none))

/-- The loop, with `n` program headers to go from the `i`th on. -/
def loadSegments (h : ElfHeader) : Nat → Nat → ElfSpan → Loading (Option ElfSpan)
  | _, 0, span => .lift (.ok (some span))
  | i, n + 1, span =>
    (v.readPhdr (h.phdrOffset i)).bind fun ph =>
      (loadSegment env page v fileSize gpaToHpaOffset i ph span).bind fun next =>
        match next with
        | none => .lift (.ok none)
        | some span => loadSegments h (i + 1) n span

/-- `load_elf_kernel` behind `read_file`. -/
def loadElf : Loading (Option ElfInfo) :=
  (v.checkMagic 0 elfMagic).bind fun isElf =>
    if isElf then
      v.readFields.bind fun h =>
        (loadSegments env page v fileSize gpaToHpaOffset h 0 h.phnum.toNat .start).bind fun span =>
          .lift (.ok (span.map h.info))
    else .lift (.ok none)

/-- `load_elf_kernel`; `none` is `return -1`. -/
def loadElfKernel (file : InputFile) : Loading (Option ElfInfo) :=
  (Traced.lift (readFile page file)).bind fun image =>
    match image.1 with
    | none => .lift (.ok none)
    | some elf => loadElf env page ⟨elf, env.outside⟩ image.2 gpaToHpaOffset

end Loader

/-! ## 4. What is read -/

namespace ElfView

variable (v : ElfView)

/-- The program header at an offset, as it would be read. -/
def phdr (o : UInt64) : Phdr :=
  ⟨readU32 v.mem o, readU64 v.mem (o + 8), readU64 v.mem (o + 24), readU64 v.mem (o + 32),
    readU64 v.mem (o + 40)⟩

/-- The ELF header, as it would be read. -/
def header : ElfHeader :=
  ⟨readU64 v.mem 24, readU64 v.mem 32, readU16 v.mem 54, readU16 v.mem 56⟩

/-- The reads of a program header. -/
def phdrReads (o : UInt64) : List (UInt64 × Nat) :=
  [(o, 4), (o + 8, 8), (o + 24, 8), (o + 32, 8), (o + 40, 8)]

/-- The reads of the ELF header. -/
def headerReads : List (UInt64 × Nat) := [(24, 8), (32, 8), (54, 2), (56, 2)]

/-- All of these reads meet mapped memory. -/
def AllMapped (reads : List (UInt64 × Nat)) : Prop := ∀ r ∈ reads, v.mapped r.1 r.2 = true

instance (reads : List (UInt64 × Nat)) : Decidable (v.AllMapped reads) :=
  inferInstanceAs (Decidable (∀ r ∈ reads, v.mapped r.1 r.2 = true))

end ElfView

/-- Reads, as they are logged. -/
def readEvents (reads : List (UInt64 × Nat)) : List LoadEvent := reads.map fun r => .read r.1 r.2

/-- A sequence of reads stopped at one that meets nothing. -/
structure StopsAt (v : ElfView) (reads : List (UInt64 × Nat)) (log : List LoadEvent) : Prop where
  within : ∀ e ∈ log, e ∈ readEvents reads
  unmapped : ∃ r ∈ reads, .read r.1 r.2 ∈ log ∧ v.mapped r.1 r.2 = false

variable {v : ElfView}

theorem StopsAt.not_allMapped {reads : List (UInt64 × Nat)} {log : List LoadEvent}
    (h : StopsAt v reads log) : ¬ v.AllMapped reads := by
  intro hall
  obtain ⟨r, hr, -, hunmapped⟩ := h.unmapped
  rw [hall r hr] at hunmapped
  cases hunmapped

theorem fetch_mapped {α : Type} {len : Nat} {get : Mem → UInt64 → α} {o : UInt64}
    (h : v.mapped o len = true) : v.fetch len get o = ⟨[.read o len], .ok (get v.mem o)⟩ := by
  rw [ElfView.fetch, if_pos h]
  rfl

theorem fetch_unmapped {α : Type} {len : Nat} {get : Mem → UInt64 → α} {o : UInt64}
    (h : v.mapped o len = false) : v.fetch len get o = ⟨[.read o len], .error .segv⟩ := by
  rw [ElfView.fetch, if_neg (by rw [h]; decide)]
  rfl

/-- A sequence of reads that makes `b` of all fields, or dies at one. -/
inductive ReadOutcome {β : Type} (v : ElfView) (reads : List (UInt64 × Nat)) (b : β) :
    Loading β → Prop where
  | whole : v.AllMapped reads → ReadOutcome v reads b ⟨readEvents reads, .ok b⟩
  | dies (log : List LoadEvent) : StopsAt v reads log → ReadOutcome v reads b ⟨log, .error .segv⟩

/-- A field that cannot be read stops the sequence; one that can leaves it to the rest. -/
theorem ReadOutcome.fetch {α β : Type} {len : Nat} {get : Mem → UInt64 → α} {o : UInt64}
    {f : α → Loading β} {reads : List (UInt64 × Nat)} {b : β}
    (hrest : ReadOutcome v reads b (f (get v.mem o))) :
    ReadOutcome v ((o, len) :: reads) b ((v.fetch len get o).bind f) := by
  cases hmap : v.mapped o len with
  | false =>
    rw [fetch_unmapped hmap, Traced.error_bind]
    refine .dies _ ⟨fun e he => ?_, (o, len), List.mem_cons_self, List.mem_cons_self, hmap⟩
    rw [List.mem_singleton.mp he]
    exact List.mem_cons_self
  | true =>
    rw [fetch_mapped hmap, Traced.ok_bind]
    generalize f (get v.mem o) = x at hrest ⊢
    cases hrest with
    | whole hall => exact .whole (List.forall_mem_cons.mpr ⟨hmap, hall⟩)
    | dies log hstop =>
      obtain ⟨r, hr, hread, hunmapped⟩ := hstop.unmapped
      refine .dies _ ⟨fun e he => ?_, r, List.mem_cons_of_mem _ hr, List.mem_cons_of_mem _ hread,
        hunmapped⟩
      rcases List.mem_cons.mp he with rfl | he
      · exact List.mem_cons_self
      · exact List.mem_cons_of_mem _ (hstop.within e he)

theorem ReadOutcome.nil {β : Type} (b : β) : ReadOutcome v [] b (.lift (.ok b)) :=
  .whole fun r hr => by cases hr

/-- **A program header is read as a whole, or the loader dies on a part of it.** -/
theorem readPhdr_outcome (v : ElfView) (o : UInt64) :
    ReadOutcome v (ElfView.phdrReads o) (v.phdr o) (v.readPhdr o) :=
  .fetch (.fetch (.fetch (.fetch (.fetch (.nil _)))))

/-- The same for the ELF header. -/
theorem readFields_outcome (v : ElfView) :
    ReadOutcome v ElfView.headerReads v.header v.readFields :=
  .fetch (.fetch (.fetch (.fetch (.nil _))))

/-! ## 5. What a pass does -/

namespace Phdr

variable (ph : Phdr)

/-- `PT_LOAD`. -/
def IsLoad : Prop := ph.type = 1

instance : Decidable ph.IsLoad := inferInstanceAs (Decidable (ph.type = 1))

/-- The test that ends the loader. -/
def Rejected (fileSize : UInt64) : Prop := ph.IsLoad ∧ ph.offset + ph.filesz > fileSize

instance (fileSize : UInt64) : Decidable (ph.Rejected fileSize) :=
  inferInstanceAs (Decidable (_ ∧ _))

/-- A segment with something to load. -/
def Asks : Prop := ph.IsLoad ∧ (ph.filesz > 0 ∨ ph.memsz > ph.filesz)

end Phdr

/-- The load of a segment's data. -/
def dataEvents (v : ElfView) (gpaToHpaOffset : UInt64) (ph : Phdr) : List LoadEvent :=
  if ph.filesz > 0 then
    [.load (some ph.offset) (ph.paddr + gpaToHpaOffset) (readBytes v.mem ph.offset ph.filesz.toNat)]
  else []

/-- The load of its zeros. -/
def zeroEvents (gpaToHpaOffset : UInt64) (ph : Phdr) : List LoadEvent :=
  if ph.memsz > ph.filesz then
    [.load none (ph.paddr + gpaToHpaOffset + ph.filesz)
      (List.replicate (ph.memsz - ph.filesz).toNat 0)]
  else []

/-- A load of this program header that does not succeed. -/
def ElfEnv.Fails (env : ElfEnv) (i : Nat) : Prop := env.data i ≠ .done ∨ env.zeros i ≠ .done

/-- All that the body of the loop can do. -/
inductive SegmentOutcome (env : ElfEnv) (v : ElfView) (fileSize gpaToHpaOffset : UInt64) (i : Nat)
    (ph : Phdr) (span : ElfSpan) : Loading (Option ElfSpan) → Prop where
  | skipped : ¬ ph.IsLoad →
      SegmentOutcome env v fileSize gpaToHpaOffset i ph span ⟨[], .ok (some span)⟩
  | rejected : ph.Rejected fileSize →
      SegmentOutcome env v fileSize gpaToHpaOffset i ph span ⟨[], .ok none⟩
  | noZeros : ph.IsLoad → ¬ ph.Rejected fileSize → env.callocOk i = false →
      SegmentOutcome env v fileSize gpaToHpaOffset i ph span
        ⟨dataEvents v gpaToHpaOffset ph, .ok none⟩
  | exits (log : List LoadEvent) : ph.Asks → ¬ ph.Rejected fileSize →
      (∀ e ∈ log, e ∈ dataEvents v gpaToHpaOffset ph ++ zeroEvents gpaToHpaOffset ph) →
      (env.data i ≠ .fails → ∀ e ∈ dataEvents v gpaToHpaOffset ph, e ∈ log) →
      (env.Fails i ∨ ph.filesz > 0 ∧ v.mapped ph.offset ph.filesz.toNat = false ∧
        env.data i = .done) →
      SegmentOutcome env v fileSize gpaToHpaOffset i ph span ⟨log, .error .exit⟩
  | stored : ph.IsLoad → ¬ ph.Rejected fileSize →
      (ph.filesz > 0 → env.data i = .done ∧ v.mapped ph.offset ph.filesz.toNat = true) →
      (ph.memsz > ph.filesz → env.zeros i = .done) →
      SegmentOutcome env v fileSize gpaToHpaOffset i ph span
        ⟨dataEvents v gpaToHpaOffset ph ++ zeroEvents gpaToHpaOffset ph, .ok (some (span.grow ph))⟩

section Outcome

variable {env : ElfEnv} {page : PageSize} {v : ElfView} {fileSize gpaToHpaOffset : UInt64} {i : Nat}
  {ph : Phdr} {span : ElfSpan}

theorem loadData_fails (h : ph.filesz > 0) (hf : env.data i = .fails) :
    loadData env page v gpaToHpaOffset i ph = ⟨[], .error .exit⟩ := by
  have hlen : (readBytes v.mem ph.offset ph.filesz.toNat).length ≠ 0 := by
    rw [readBytes_length]
    exact Nat.pos_iff_ne_zero.mp (UInt64.lt_iff_toNat_lt.mp h)
  rw [loadData, if_pos h, loadBufferToMemory_some hlen, hf]

/-- A load that comes to copying the data. -/
theorem loadData_copies (h : ph.filesz > 0) (hf : env.data i ≠ .fails) :
    ∃ n, loadData env page v gpaToHpaOffset i ph = ⟨dataEvents v gpaToHpaOffset ph,
      if env.data i = .done ∧ v.mapped ph.offset ph.filesz.toNat = true then .ok n
      else .error .exit⟩ := by
  have hlen : (readBytes v.mem ph.offset ph.filesz.toNat).length ≠ 0 := by
    rw [readBytes_length]
    exact Nat.pos_iff_ne_zero.mp (UInt64.lt_iff_toNat_lt.mp h)
  rw [loadData, if_pos h, loadBufferToMemory_some hlen, dataEvents, if_pos h]
  cases hanswer : env.data i with
  | fails => exact absurd hanswer hf
  | failsLate => exact ⟨0, by simp⟩
  | done => exact ⟨_, by simp; rfl⟩

/-- A load of zeros for which there is a buffer. -/
theorem loadZeros_loads (h : ph.memsz > ph.filesz) (hc : env.callocOk i = true) :
    (env.zeros i = .done ∧
        loadZeros env page gpaToHpaOffset i ph = ⟨zeroEvents gpaToHpaOffset ph, .ok true⟩) ∨
      env.zeros i ≠ .done ∧ ∃ log, (∀ e ∈ log, e ∈ zeroEvents gpaToHpaOffset ph) ∧
        loadZeros env page gpaToHpaOffset i ph = ⟨log, .error .exit⟩ := by
  have hlen : (List.replicate (ph.memsz - ph.filesz).toNat (0 : UInt8)).length ≠ 0 := by
    have hlt := UInt64.lt_iff_toNat_lt.mp h
    rw [List.length_replicate, UInt64.toNat_sub_of_le _ _ (UInt64.le_of_lt h)]
    omega
  rw [loadZeros, if_pos h, if_pos hc, loadBufferToMemory_some hlen, zeroEvents, if_pos h]
  cases hanswer : env.zeros i with
  | fails => exact .inr ⟨by decide, [], fun e he => (by cases he), rfl⟩
  | failsLate => exact .inr ⟨by decide, _, fun e he => he, rfl⟩
  | done => exact .inl ⟨rfl, rfl⟩

variable (env page v gpaToHpaOffset i span) in
/-- The rest of the body, behind data that has been loaded: the zeros, and the span. -/
theorem zeros_outcome (hload : ph.IsLoad) (haccepted : ¬ ph.Rejected fileSize)
    (hdata : ph.filesz > 0 → env.data i = .done ∧ v.mapped ph.offset ph.filesz.toNat = true) :
    SegmentOutcome env v fileSize gpaToHpaOffset i ph span
      (Traced.mk (dataEvents v gpaToHpaOffset ph ++
          ((loadZeros env page gpaToHpaOffset i ph).bind fun stored =>
            .lift (.ok (if stored then some (span.grow ph) else none))).log)
        ((loadZeros env page gpaToHpaOffset i ph).bind fun stored =>
            .lift (.ok (if stored then some (span.grow ph) else none))).result) := by
  by_cases hmore : ph.memsz > ph.filesz
  · cases hcalloc : env.callocOk i with
    | false =>
      rw [loadZeros, if_pos hmore, if_neg (by rw [hcalloc]; decide), Traced.lift_ok_bind,
        Traced.log_lift, List.append_nil]
      exact .noZeros hload haccepted hcalloc
    | true =>
      rcases loadZeros_loads hmore hcalloc with ⟨hdone, hrun⟩ | ⟨hfails, log, hlog, hrun⟩
      · rw [hrun, Traced.ok_bind, Traced.log_lift, List.append_nil]
        exact .stored hload haccepted hdata fun _ => hdone
      · rw [hrun, Traced.error_bind]
        refine .exits _ ⟨hload, .inr hmore⟩ haccepted ?_ ?_ (.inl (.inr hfails))
        · intro e he
          exact List.mem_append.mpr ((List.mem_append.mp he).imp id (hlog e))
        · exact fun _ e he => List.mem_append_left _ he
  · have hnone : zeroEvents gpaToHpaOffset ph = [] := if_neg hmore
    rw [loadZeros, if_neg hmore, Traced.lift_ok_bind, Traced.log_lift, ← hnone]
    exact .stored hload haccepted hdata fun h => absurd h hmore

/-- **The body of the loop does one of these.** -/
theorem loadSegment_outcome :
    SegmentOutcome env v fileSize gpaToHpaOffset i ph span
      (loadSegment env page v fileSize gpaToHpaOffset i ph span) := by
  unfold loadSegment
  by_cases hload : ph.IsLoad
  swap
  · have hother : ph.type ≠ 1 := hload
    rw [if_pos hother]
    exact .skipped hload
  have hpt : ph.type = 1 := hload
  rw [if_neg (not_not.mpr hpt)]
  by_cases hbig : ph.offset + ph.filesz > fileSize
  · rw [if_pos hbig]
    exact .rejected ⟨hload, hbig⟩
  rw [if_neg hbig]
  have haccepted : ¬ ph.Rejected fileSize := fun h => hbig h.2
  by_cases hsome : ph.filesz > 0
  · by_cases hfails : env.data i = .fails
    · rw [loadData_fails hsome hfails, Traced.error_bind]
      refine .exits _ ⟨hload, .inl hsome⟩ haccepted ?_ (fun h => absurd hfails h) (.inl (.inl ?_))
      · intro e he
        cases he
      · rw [hfails]
        decide
    · obtain ⟨n, hrun⟩ := loadData_copies hsome hfails
      rw [hrun]
      by_cases hgood : env.data i = .done ∧ v.mapped ph.offset ph.filesz.toNat = true
      · rw [if_pos hgood, Traced.ok_bind]
        exact zeros_outcome env page v gpaToHpaOffset i span hload haccepted fun _ => hgood
      · rw [if_neg hgood, Traced.error_bind]
        refine .exits _ ⟨hload, .inl hsome⟩ haccepted ?_ (fun _ e he => he) ?_
        · exact fun e he => List.mem_append_left _ he
        · by_cases hdone : env.data i = .done
          · refine .inr ⟨hsome, ?_, hdone⟩
            exact Bool.eq_false_iff.mpr fun hmapped => hgood ⟨hdone, hmapped⟩
          · exact .inl (.inl hdone)
  · have hnone : dataEvents v gpaToHpaOffset ph = [] := if_neg hsome
    have hrest := zeros_outcome env page v gpaToHpaOffset i span hload haccepted fun h =>
      absurd h hsome
    rw [hnone, List.nil_append] at hrest
    rw [loadData, if_neg hsome, Traced.lift_ok_bind]
    exact hrest

end Outcome

/-! ## 6. What the loop and the magic test do -/

/-- **A run of the loop**: passes that go on, and the one that ends it. -/
inductive ElfRun (env : ElfEnv) (v : ElfView) (fileSize gpaToHpaOffset : UInt64) (h : ElfHeader) :
    Nat → Nat → ElfSpan → List LoadEvent → Except FileFault (Option ElfSpan) → Prop where
  | done (i : Nat) (span : ElfSpan) :
      ElfRun env v fileSize gpaToHpaOffset h i 0 span [] (.ok (some span))
  | dies {i n : Nat} {span : ElfSpan} {log : List LoadEvent} :
      StopsAt v (ElfView.phdrReads (h.phdrOffset i)) log →
      ElfRun env v fileSize gpaToHpaOffset h i (n + 1) span log (.error .segv)
  | refuses {i n : Nat} {span : ElfSpan} {log : List LoadEvent} :
      v.AllMapped (ElfView.phdrReads (h.phdrOffset i)) →
      SegmentOutcome env v fileSize gpaToHpaOffset i (v.phdr (h.phdrOffset i)) span ⟨log, .ok none⟩ →
      ElfRun env v fileSize gpaToHpaOffset h i (n + 1) span
        (readEvents (ElfView.phdrReads (h.phdrOffset i)) ++ log) (.ok none)
  | exits {i n : Nat} {span : ElfSpan} {log : List LoadEvent} {e : FileFault} :
      v.AllMapped (ElfView.phdrReads (h.phdrOffset i)) →
      SegmentOutcome env v fileSize gpaToHpaOffset i (v.phdr (h.phdrOffset i)) span
        ⟨log, .error e⟩ →
      ElfRun env v fileSize gpaToHpaOffset h i (n + 1) span
        (readEvents (ElfView.phdrReads (h.phdrOffset i)) ++ log) (.error e)
  | next {i n : Nat} {span span' : ElfSpan} {log rest : List LoadEvent}
      {r : Except FileFault (Option ElfSpan)} :
      v.AllMapped (ElfView.phdrReads (h.phdrOffset i)) →
      SegmentOutcome env v fileSize gpaToHpaOffset i (v.phdr (h.phdrOffset i)) span
        ⟨log, .ok (some span')⟩ →
      ElfRun env v fileSize gpaToHpaOffset h (i + 1) n span' rest r →
      ElfRun env v fileSize gpaToHpaOffset h i (n + 1) span
        (readEvents (ElfView.phdrReads (h.phdrOffset i)) ++ (log ++ rest)) r

/-- The loop makes such a run. -/
theorem loadSegments_run (env : ElfEnv) (page : PageSize) (v : ElfView)
    (fileSize gpaToHpaOffset : UInt64) (h : ElfHeader) (i n : Nat) (span : ElfSpan) :
    ElfRun env v fileSize gpaToHpaOffset h i n span
      (loadSegments env page v fileSize gpaToHpaOffset h i n span).log
      (loadSegments env page v fileSize gpaToHpaOffset h i n span).result := by
  induction n generalizing i span with
  | zero => exact .done i span
  | succ n ih =>
    unfold loadSegments
    have hread := readPhdr_outcome v (h.phdrOffset i)
    generalize v.readPhdr (h.phdrOffset i) = read at hread ⊢
    cases hread with
    | dies log hstop => exact .dies hstop
    | whole hmapped =>
      rw [Traced.ok_bind]
      have houtcome : SegmentOutcome env v fileSize gpaToHpaOffset i (v.phdr (h.phdrOffset i)) span
        (loadSegment env page v fileSize gpaToHpaOffset i (v.phdr (h.phdrOffset i)) span) :=
          loadSegment_outcome
      generalize loadSegment env page v fileSize gpaToHpaOffset i (v.phdr (h.phdrOffset i)) span =
        segment at houtcome ⊢
      obtain ⟨log, result⟩ := segment
      cases result with
      | error e => exact .exits hmapped houtcome
      | ok next =>
        cases next with
        | none =>
          rw [Traced.ok_bind, Traced.log_lift, List.append_nil]
          exact .refuses hmapped houtcome
        | some span' => exact .next hmapped houtcome (ih (i + 1) span')

/-- All that the test of the magic number can do. -/
inductive MagicOutcome (v : ElfView) (o : UInt64) (bs : List UInt8) : Loading Bool → Prop where
  | accepts : (∀ k b, bs[k]? = some b → v.byte (o + UInt64.ofNat k) = some b) →
      MagicOutcome v o bs
        ⟨readEvents ((List.range bs.length).map fun k => (o + UInt64.ofNat k, 1)), .ok true⟩
  | refuses (log : List LoadEvent) (k : Nat) (b b' : UInt8) : bs[k]? = some b →
      v.byte (o + UInt64.ofNat k) = some b' → b' ≠ b → MagicOutcome v o bs ⟨log, .ok false⟩
  | dies (log : List LoadEvent) (k : Nat) : k < bs.length → v.byte (o + UInt64.ofNat k) = none →
      (∀ j b, j < k → bs[j]? = some b → v.byte (o + UInt64.ofNat j) = some b) →
      .read (o + UInt64.ofNat k) 1 ∈ log → MagicOutcome v o bs ⟨log, .error .segv⟩

theorem mapped_one (v : ElfView) (o : UInt64) : v.mapped o 1 = (v.byte o).isSome := by
  simp [ElfView.mapped]

theorem add_ofNat_zero (o : UInt64) : o + UInt64.ofNat 0 = o := UInt64.add_zero o

theorem add_ofNat_succ (o : UInt64) (k : Nat) :
    o + UInt64.ofNat (k + 1) = o + 1 + UInt64.ofNat k := by
  rw [UInt64.ofNat_add, UInt64.add_comm (UInt64.ofNat k), UInt64.add_assoc]
  rfl

/-- The first byte matches, and the others decide. -/
theorem MagicOutcome.cons {o : UInt64} {x : UInt8} {bs : List UInt8} {run : Loading Bool}
    (hbyte : v.byte o = some x) (hrest : MagicOutcome v (o + 1) bs run) :
    MagicOutcome v o (x :: bs) ⟨.read o 1 :: run.log, run.result⟩ := by
  have hfirst : ∀ k c, (x :: bs)[k]? = some c →
      (∀ j, k = j + 1 → v.byte (o + 1 + UInt64.ofNat j) = some c) →
      v.byte (o + UInt64.ofNat k) = some c := by
    intro k c hget hrest
    cases k with
    | zero =>
      rw [add_ofNat_zero, hbyte]
      exact hget
    | succ j =>
      rw [add_ofNat_succ]
      exact hrest j rfl
  cases hrest with
  | accepts hall =>
    have hread : readEvents ((List.range (x :: bs).length).map fun k =>
        (o + UInt64.ofNat k, 1)) = .read o 1 ::
          readEvents ((List.range bs.length).map fun k => (o + 1 + UInt64.ofNat k, 1)) := by
      simp only [readEvents, List.length_cons, List.range_succ_eq_map, List.map_cons,
        List.map_map, Function.comp_def, add_ofNat_succ, add_ofNat_zero]
    rw [← hread]
    refine .accepts fun k c hget => hfirst k c hget fun j hj => ?_
    subst hj
    exact hall j c hget
  | refuses log k c c' hget hval hne =>
    exact .refuses _ (k + 1) c c' hget (by rw [add_ofNat_succ, hval]) hne
  | dies log k hk hnone hbefore hlog =>
    refine .dies _ (k + 1) (Nat.succ_lt_succ hk) (by rw [add_ofNat_succ, hnone]) ?_ ?_
    · intro j c hj hget
      refine hfirst j c hget fun i hi => ?_
      subst hi
      exact hbefore i c (Nat.lt_of_succ_lt_succ hj) hget
    · rw [add_ofNat_succ]
      exact List.mem_cons_of_mem _ hlog

theorem checkMagic_outcome (v : ElfView) (o : UInt64) (bs : List UInt8) :
    MagicOutcome v o bs (v.checkMagic o bs) := by
  induction bs generalizing o with
  | nil => exact .accepts fun k b h => (by cases h)
  | cons b bs ih =>
    unfold ElfView.checkMagic
    cases hbyte : v.byte o with
    | none =>
      rw [fetch_unmapped (by rw [mapped_one, hbyte]; rfl), Traced.error_bind]
      refine .dies _ 0 (Nat.zero_lt_succ _) (by rw [add_ofNat_zero, hbyte]) (fun j b hj => ?_) ?_
      · exact absurd hj (Nat.not_lt_zero _)
      · rw [add_ofNat_zero]
        exact List.mem_singleton.mpr rfl
    | some x =>
      have hmem : v.mem o = x := by rw [ElfView.mem, hbyte]; rfl
      rw [fetch_mapped (by rw [mapped_one, hbyte]; rfl), Traced.ok_bind, hmem]
      by_cases hx : x = b
      · rw [if_neg (not_not.mpr hx)]
        subst hx
        exact (ih (o + 1)).cons hbyte
      · rw [if_pos hx]
        exact .refuses _ 0 b x rfl (by rw [add_ofNat_zero, hbyte]) hx

/-- The reads of the magic number. -/
def magicReads : List (UInt64 × Nat) :=
  (List.range elfMagic.length).map fun k => (0 + UInt64.ofNat k, 1)

/-- The buffer starts like a 64-bit ELF file. -/
def ElfView.HasMagic (v : ElfView) : Prop :=
  ∀ k b, elfMagic[k]? = some b → v.byte (0 + UInt64.ofNat k) = some b

/-- All that the loader can do with a buffer. -/
inductive ElfOutcome (env : ElfEnv) (v : ElfView) (fileSize gpaToHpaOffset : UInt64) :
    Loading (Option ElfInfo) → Prop where
  | notElf (log : List LoadEvent) (k : Nat) (b b' : UInt8) : elfMagic[k]? = some b →
      v.byte (0 + UInt64.ofNat k) = some b' → b' ≠ b →
      ElfOutcome env v fileSize gpaToHpaOffset ⟨log, .ok none⟩
  | diesInMagic (log : List LoadEvent) (k : Nat) : k < elfMagic.length →
      v.byte (0 + UInt64.ofNat k) = none →
      (∀ j b, j < k → elfMagic[j]? = some b → v.byte (0 + UInt64.ofNat j) = some b) →
      .read (0 + UInt64.ofNat k) 1 ∈ log →
      ElfOutcome env v fileSize gpaToHpaOffset ⟨log, .error .segv⟩
  | diesInHeader (log : List LoadEvent) : v.HasMagic → StopsAt v ElfView.headerReads log →
      ElfOutcome env v fileSize gpaToHpaOffset ⟨readEvents magicReads ++ log, .error .segv⟩
  | runs (log : List LoadEvent) (r : Except FileFault (Option ElfSpan)) : v.HasMagic →
      v.AllMapped ElfView.headerReads →
      ElfRun env v fileSize gpaToHpaOffset v.header 0 v.header.phnum.toNat .start log r →
      ElfOutcome env v fileSize gpaToHpaOffset
        ⟨readEvents magicReads ++ (readEvents ElfView.headerReads ++ log),
          r.map fun span => span.map v.header.info⟩

/-- **The loader does one of these.** -/
theorem loadElf_outcome (env : ElfEnv) (page : PageSize) (v : ElfView)
    (fileSize gpaToHpaOffset : UInt64) :
    ElfOutcome env v fileSize gpaToHpaOffset (loadElf env page v fileSize gpaToHpaOffset) := by
  unfold loadElf
  have hmagic := checkMagic_outcome v 0 elfMagic
  generalize v.checkMagic 0 elfMagic = magic at hmagic ⊢
  cases hmagic with
  | refuses log k b b' hget hbyte hne =>
    rw [Traced.ok_bind]
    exact .notElf _ k b b' hget hbyte hne
  | dies log k hk hnone hbefore hlog => exact .diesInMagic log k hk hnone hbefore hlog
  | accepts hall =>
    rw [Traced.ok_bind, if_pos rfl]
    have hread := readFields_outcome v
    generalize v.readFields = read at hread ⊢
    cases hread with
    | dies log hstop => exact .diesInHeader log hall hstop
    | whole hmapped =>
      rw [Traced.ok_bind]
      have hrun := loadSegments_run env page v fileSize gpaToHpaOffset v.header 0
        v.header.phnum.toNat .start
      generalize loadSegments env page v fileSize gpaToHpaOffset v.header 0 v.header.phnum.toNat
        .start = run at hrun ⊢
      obtain ⟨log, result⟩ := run
      cases result with
      | error e => exact .runs log (.error e) hall hmapped hrun
      | ok span =>
        rw [Traced.ok_bind, Traced.log_lift, List.append_nil]
        exact .runs log (.ok span) hall hmapped hrun

end HvisorTool
