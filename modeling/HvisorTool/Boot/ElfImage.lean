/-
  File:      HvisorTool/Boot/ElfImage.lean
  Subject:   THE IMAGE OF AN ELF FILE in physical memory, behind `load_elf_kernel`.

  The loads of a run are the segments of the file in the order of the program headers. What
  the headers of a file say is stated over its bytes alone; a run reads the same from the
  buffer, whatever lies around that.

  * `loadStores`: the stores of a log; `ElfRun.stores_eq`: those of a run are its segments;
  * `WellFormedElf`: the headers and the data lie in the file, and no address overflows;
  * `ElfLoad`: a load of such a file that returns 0; `ElfLoad.stores_eq`;
  * `elf_image_loaded`: the last segment over an address decides, everything else stays, and
    disjoint segments can be in any order.
-/
import HvisorTool.Boot.Elf
import HvisorTool.Library.Stores
import Mathlib.Data.List.Basic

namespace HvisorTool

open Library

/-! ## 1. The stores of a run -/

/-- Where byte `j` of a load goes. -/
def loadAddr (paddr : UInt64) (j : Nat) : UInt64 := paddr + UInt64.ofNat j

/-- The stores of a load. -/
def LoadEvent.stores : LoadEvent → List (UInt64 × UInt8)
  | .read _ _ => []
  | .load _ paddr bytes => Stores.run (loadAddr paddr) bytes

/-- The stores of a log. -/
def loadStores (log : List LoadEvent) : List (UInt64 × UInt8) := log.flatMap LoadEvent.stores

@[simp] theorem loadStores_append (log log' : List LoadEvent) :
    loadStores (log ++ log') = loadStores log ++ loadStores log' := List.flatMap_append

@[simp] theorem loadStores_readEvents (reads : List (UInt64 × Nat)) :
    loadStores (readEvents reads) = [] := by
  refine List.flatMap_eq_nil_iff.mpr fun e he => ?_
  obtain ⟨r, -, rfl⟩ := List.mem_map.mp he
  rfl

/-- The bytes of a segment: its data, and zeros up to its size in memory. -/
def segmentBytes (v : ElfView) (ph : Phdr) : List UInt8 :=
  readBytes v.mem ph.offset ph.filesz.toNat ++ List.replicate (ph.memsz - ph.filesz).toNat 0

theorem length_segmentBytes (v : ElfView) {ph : Phdr} (h : ph.filesz ≤ ph.memsz) :
    (segmentBytes v ph).length = ph.memsz.toNat := by
  have hle := UInt64.le_iff_toNat_le.mp h
  rw [segmentBytes, List.length_append, readBytes_length, List.length_replicate,
    UInt64.toNat_sub_of_le _ _ h]
  omega

/-- The stores of a segment, as the loader makes them. -/
def segmentStores (v : ElfView) (gpaToHpaOffset : UInt64) (ph : Phdr) : List (UInt64 × UInt8) :=
  loadStores (dataEvents v gpaToHpaOffset ph ++ zeroEvents gpaToHpaOffset ph)

/-- **Data and zeros are one copy.** -/
theorem segmentStores_eq (v : ElfView) (gpaToHpaOffset : UInt64) {ph : Phdr}
    (h : ph.filesz ≤ ph.memsz) :
    segmentStores v gpaToHpaOffset ph =
      Stores.run (loadAddr (ph.paddr + gpaToHpaOffset)) (segmentBytes v ph) := by
  have hdata : loadStores (dataEvents v gpaToHpaOffset ph) =
      Stores.run (loadAddr (ph.paddr + gpaToHpaOffset))
        (readBytes v.mem ph.offset ph.filesz.toNat) := by
    unfold dataEvents
    split
    · exact List.append_nil _
    · next hnone =>
        have hzero : ph.filesz.toNat = 0 :=
          Nat.eq_zero_of_not_pos fun hpos => hnone (UInt64.lt_iff_toNat_lt.mpr hpos)
        rw [hzero]
        rfl
  have hzeros : loadStores (zeroEvents gpaToHpaOffset ph) =
      Stores.run (fun j => loadAddr (ph.paddr + gpaToHpaOffset) (ph.filesz.toNat + j))
        (List.replicate (ph.memsz - ph.filesz).toNat 0) := by
    have haddr : (fun j => loadAddr (ph.paddr + gpaToHpaOffset) (ph.filesz.toNat + j)) =
        loadAddr (ph.paddr + gpaToHpaOffset + ph.filesz) := by
      funext j
      rw [loadAddr, loadAddr, UInt64.ofNat_add, UInt64.ofNat_toNat, ← UInt64.add_assoc]
    rw [haddr]
    unfold zeroEvents
    split
    · exact List.append_nil _
    · next hnone =>
        have heq : ph.memsz = ph.filesz := UInt64.le_antisymm (UInt64.not_lt.mp hnone) h
        rw [heq, UInt64.sub_self]
        rfl
  rw [segmentStores, loadStores_append, hdata, hzeros, segmentBytes, Stores.run_append,
    readBytes_length]

/-- The `PT_LOAD` entries among `n` program headers from the `i`th on, as a run sees them. -/
def loadEntries (v : ElfView) (h : ElfHeader) (i n : Nat) : List Phdr :=
  ((List.range' i n).map fun k => v.phdr (h.phdrOffset k)).filter fun ph => decide ph.IsLoad

theorem loadEntries_succ (v : ElfView) (h : ElfHeader) (i n : Nat) :
    loadEntries v h i (n + 1) =
      (if (v.phdr (h.phdrOffset i)).IsLoad then [v.phdr (h.phdrOffset i)] else []) ++
        loadEntries v h (i + 1) n := by
  unfold loadEntries
  rw [List.range'_succ, List.map_cons, List.filter_cons]
  split <;> simp_all

variable {v : ElfView} {fileSize gpaToHpaOffset paddr : UInt64} {i n j : Nat}

theorem toNat_loadAddr (h : paddr.toNat + j < 2 ^ 64) :
    (loadAddr paddr j).toNat = paddr.toNat + j := by
  rw [loadAddr, UInt64.toNat_add, toNat_ofNat64 (by omega), Nat.mod_eq_of_lt h]

/-- **A run that returns 0 has stored its segments in order**, and taken each into account. -/
theorem ElfRun.stores_eq {env : ElfEnv} {h : ElfHeader} {span span' : ElfSpan}
    {log : List LoadEvent}
    (hrun : ElfRun env v fileSize gpaToHpaOffset h i n span log (.ok (some span'))) :
    loadStores log = (loadEntries v h i n).flatMap (segmentStores v gpaToHpaOffset) ∧
      span' = (loadEntries v h i n).foldl ElfSpan.grow span := by
  generalize hres : (.ok (some span') : Except FileFault (Option ElfSpan)) = r at hrun
  induction hrun with
  | done i span =>
    cases hres
    exact ⟨rfl, rfl⟩
  | dies _ | refuses _ _ | exits _ _ => cases hres
  | @next i n span span₁ log rest r hmapped houtcome _ ih =>
    obtain ⟨hstores, hspan⟩ := ih hres
    rw [loadEntries_succ, loadStores_append, loadStores_readEvents, List.nil_append,
      loadStores_append, hstores, List.flatMap_append, List.foldl_append, hspan]
    cases houtcome with
    | skipped hother =>
      rw [if_neg hother]
      exact ⟨rfl, rfl⟩
    | stored hload _ _ _ =>
      rw [if_pos hload, List.flatMap_singleton]
      exact ⟨rfl, rfl⟩

/-! ## 2. Files -/

/-- The bytes of a file, and nothing around them. -/
def fileView (file : List UInt8) : ElfView := ⟨file, fun _ => none⟩

/-- The program headers of a file. -/
def elfPhdr (file : List UInt8) (i : Nat) : Phdr :=
  (fileView file).phdr (UInt64.ofNat
    ((fileView file).header.phoff.toNat + i * (fileView file).header.phentsize.toNat))

/-- Its `PT_LOAD` entries, in order. -/
def elfLoads (file : List UInt8) : List Phdr :=
  ((List.range (fileView file).header.phnum.toNat).map (elfPhdr file)).filter
    fun ph => decide ph.IsLoad

/-- The headers and the data of the segments lie in the file, the size of a segment's data is
    not above its size in memory, and no address of a program header overflows. -/
structure WellFormedElf (file : List UInt8) : Prop where
  header : 58 ≤ file.length
  entry : ∀ i < (fileView file).header.phnum.toNat,
    (fileView file).header.phoff.toNat + i * (fileView file).header.phentsize.toNat + 48 ≤
      file.length
  address : ∀ i < (fileView file).header.phnum.toNat,
    i * (fileView file).header.phentsize.toNat < 2 ^ 31
  data : ∀ ph ∈ elfLoads file, ph.offset.toNat + ph.filesz.toNat ≤ file.length
  filesz_le : ∀ ph ∈ elfLoads file, ph.filesz ≤ ph.memsz

/-- Memory that agrees with a file where the file has bytes. -/
def HoldsFile (file : List UInt8) (v : ElfView) : Prop :=
  ∀ o : UInt64, o.toNat < file.length → v.mem o = (fileView file).mem o

theorem holdsFile_padded (file zeros : List UInt8) (outside : UInt64 → Option UInt8) :
    HoldsFile file ⟨file ++ zeros, outside⟩ := by
  intro o ho
  unfold ElfView.mem ElfView.byte fileView
  rw [List.getElem?_append_left ho, List.getElem?_eq_getElem ho]
  rfl

section Agree

variable {file : List UInt8} {v : ElfView} (hfile : HoldsFile file v) (hlen : file.length < 2 ^ 64)

include hfile hlen

variable {a : UInt64}

/-- A byte of a field that lies in the file. -/
theorem HoldsFile.at_add {n k : Nat} (h : a.toNat + n ≤ file.length) (hk : k < n) {b : UInt64}
    (hb : b.toNat = k) : v.mem (a + b) = (fileView file).mem (a + b) := by
  refine hfile _ ?_
  rw [UInt64.toNat_add, hb, Nat.mod_eq_of_lt (by omega)]
  omega

theorem HoldsFile.readU16 (h : a.toNat + 2 ≤ file.length) :
    readU16 v.mem a = readU16 (fileView file).mem a := by
  unfold HvisorTool.readU16
  rw [hfile a (by omega), hfile.at_add hlen h (by decide : 1 < 2) rfl]

theorem HoldsFile.readU32 (h : a.toNat + 4 ≤ file.length) :
    readU32 v.mem a = readU32 (fileView file).mem a := by
  have htwo : (a + 2).toNat = a.toNat + 2 := toNat_loadAddr (j := 2) (by omega)
  unfold HvisorTool.readU32
  rw [hfile.readU16 hlen (by omega), hfile.readU16 hlen (by omega)]

theorem HoldsFile.readU64 (h : a.toNat + 8 ≤ file.length) :
    readU64 v.mem a = readU64 (fileView file).mem a := by
  have hfour : (a + 4).toNat = a.toNat + 4 := toNat_loadAddr (j := 4) (by omega)
  unfold HvisorTool.readU64
  rw [hfile.readU32 hlen (by omega), hfile.readU32 hlen (by omega)]

theorem HoldsFile.header_eq (h : 58 ≤ file.length) : v.header = (fileView file).header := by
  have h24 : (24 : UInt64).toNat = 24 := rfl
  have h32 : (32 : UInt64).toNat = 32 := rfl
  have h54 : (54 : UInt64).toNat = 54 := rfl
  have h56 : (56 : UInt64).toNat = 56 := rfl
  unfold ElfView.header
  rw [hfile.readU64 hlen (by omega), hfile.readU64 hlen (by omega), hfile.readU16 hlen (by omega),
    hfile.readU16 hlen (by omega)]

theorem HoldsFile.phdr_eq {o : UInt64} (h : o.toNat + 48 ≤ file.length) :
    v.phdr o = (fileView file).phdr o := by
  have hadd : ∀ k : UInt64, k.toNat ≤ 40 → (o + k).toNat = o.toNat + k.toNat := fun k hk => by
    rw [UInt64.toNat_add, Nat.mod_eq_of_lt (by omega)]
  have h8 := hadd 8 (by decide)
  have h24 := hadd 24 (by decide)
  have h32 := hadd 32 (by decide)
  have h40 := hadd 40 (by decide)
  have hn8 : (8 : UInt64).toNat = 8 := rfl
  have hn24 : (24 : UInt64).toNat = 24 := rfl
  have hn32 : (32 : UInt64).toNat = 32 := rfl
  have hn40 : (40 : UInt64).toNat = 40 := rfl
  unfold ElfView.phdr
  rw [hfile.readU32 hlen (by omega), hfile.readU64 hlen (by omega), hfile.readU64 hlen (by omega),
    hfile.readU64 hlen (by omega), hfile.readU64 hlen (by omega)]

/-- The data of a segment, from the buffer, is that of the file. -/
theorem HoldsFile.readBytes_eq {n : Nat} (h : a.toNat + n ≤ file.length) :
    readBytes v.mem a n = readBytes (fileView file).mem a n := by
  unfold readBytes
  refine List.map_congr_left fun k hk => ?_
  have hlt := List.mem_range.mp hk
  exact hfile.at_add hlen h hlt (toNat_ofNat64 (by omega))

end Agree

/-- A byte of the data of a segment is one of the file. -/
theorem getElem?_readBytes_file {file : List UInt8} {a : UInt64} (h : a.toNat + n ≤ file.length)
    (hlen : file.length < 2 ^ 63) (hj : j < n) :
    (readBytes (fileView file).mem a n)[j]? = file[a.toNat + j]? := by
  have haddr : (a + UInt64.ofNat j).toNat = a.toNat + j := toNat_loadAddr (by omega)
  have hin : a.toNat + j < file.length := by omega
  rw [readBytes, List.getElem?_map, List.getElem?_range hj, Option.map_some, ElfView.mem,
    ElfView.byte, haddr]
  show some (Option.getD ((file[a.toNat + j]?).or none) 0) = _
  rw [List.getElem?_eq_getElem hin]
  rfl

/-- The product of an address that does not overflow is exact. -/
theorem ElfHeader.phdrOffset_eq (h : ElfHeader) (hi : i * h.phentsize.toNat < 2 ^ 31)
    (hnum : i < 2 ^ 16) :
    h.phdrOffset i = UInt64.ofNat (h.phoff.toNat + i * h.phentsize.toNat) := by
  have hprod : (UInt32.ofNat i * h.phentsize.toUInt32).toNat = i * h.phentsize.toNat := by
    rw [UInt32.toNat_mul, UInt32.toNat_ofNat_of_lt' (by simp only [UInt32.size]; omega),
      UInt16.toNat_toUInt32, Nat.mod_eq_of_lt (by omega)]
  have hsigned : ∀ x : UInt32, x.toNat < 2 ^ 31 →
      x.toInt32.toInt64.toUInt64 = UInt64.ofNat x.toNat := by
    intro x hx
    have hmsb : x.toBitVec.msb = false := by
      rw [BitVec.msb_eq_false_iff_two_mul_lt]
      show 2 * x.toNat < 2 ^ 32
      omega
    refine UInt64.toNat_inj.mp ?_
    show (x.toBitVec.signExtend 64).toNat = _
    rw [BitVec.toNat_signExtend, hmsb, toNat_ofNat64 (by omega)]
    simp
  unfold ElfHeader.phdrOffset
  rw [hsigned _ (by rw [hprod]; exact hi), hprod, UInt64.ofNat_add, UInt64.ofNat_toNat]

/-- The program headers of a file lie in it, and no address of one overflows. -/
def TableInFile (file : List UInt8) : Prop :=
  ∀ i < (fileView file).header.phnum.toNat,
    (fileView file).header.phoff.toNat + i * (fileView file).header.phentsize.toNat + 48 ≤
        file.length ∧
      i * (fileView file).header.phentsize.toNat < 2 ^ 31

/-- **The loader sees the program headers of the file**, if they lie there. -/
theorem HoldsFile.loadEntries_eq {file : List UInt8} (hfile : HoldsFile file v)
    (hlen : file.length < 2 ^ 64) (hheader : 58 ≤ file.length) (hentry : TableInFile file) :
    loadEntries v v.header 0 v.header.phnum.toNat = elfLoads file := by
  rw [hfile.header_eq hlen hheader, loadEntries, elfLoads, List.range_eq_range']
  congr 1
  refine List.map_congr_left fun i hi => ?_
  have hlt : i < (fileView file).header.phnum.toNat := by
    rw [← List.range_eq_range'] at hi
    exact List.mem_range.mp hi
  have hnum : i < 2 ^ 16 := Nat.lt_trans hlt (UInt16.toNat_lt _)
  obtain ⟨hin, hproduct⟩ := hentry i hlt
  rw [ElfHeader.phdrOffset_eq _ hproduct hnum]
  refine hfile.phdr_eq hlen ?_
  rw [toNat_ofNat64 (by omega)]
  exact hin

/-! ## 3. Loads that return 0 -/

/-- A load of a well-formed file that returns 0. -/
structure ElfLoad where
  env : ElfEnv
  page : PageSize
  input : InputFile
  file : List UInt8
  gpaToHpaOffset : UInt64
  info : ElfInfo
  content : input.content = some file
  wellFormed : WellFormedElf file
  returns : (loadElfKernel env page gpaToHpaOffset input).result = .ok (some info)

/-- A load that returns 0 has come through the loop over all program headers. -/
theorem loadElf_returns {env : ElfEnv} {page : PageSize} {info : ElfInfo}
    (h : (loadElf env page v fileSize gpaToHpaOffset).result = .ok (some info)) :
    ∃ span log, ElfRun env v fileSize gpaToHpaOffset v.header 0 v.header.phnum.toNat .start log
        (.ok (some span)) ∧ info = ⟨v.header.entry, span.total⟩ ∧
      loadStores (loadElf env page v fileSize gpaToHpaOffset).log = loadStores log := by
  have houtcome := loadElf_outcome env page v fileSize gpaToHpaOffset
  generalize loadElf env page v fileSize gpaToHpaOffset = run at h houtcome ⊢
  cases houtcome with
  | notElf _ _ _ _ _ _ _ | diesInMagic _ _ _ _ _ _ | diesInHeader _ _ _ => cases h
  | runs log r _ _ hrun =>
    obtain ⟨next, rfl, hnext⟩ := map_eq_ok.mp h
    cases next with
    | none => cases hnext
    | some span =>
      refine ⟨span, log, hrun, (Option.some.inj hnext).symm, ?_⟩
      rw [loadStores_append, loadStores_append, loadStores_readEvents, loadStores_readEvents]
      rfl

namespace ElfLoad

variable (l : ElfLoad)

/-- Physical memory behind the load. -/
def memory (mem : Mem) : Mem :=
  Stores.after mem (loadStores (loadElfKernel l.env l.page l.gpaToHpaOffset l.input).log)

/-- The segments of the file: where each belongs in guest memory, and its bytes. -/
def segments : List (UInt64 × List UInt8) :=
  (elfLoads l.file).map fun ph => (ph.paddr, segmentBytes (fileView l.file) ph)

theorem length_lt : l.file.length < 2 ^ 63 :=
  Nat.lt_of_le_of_lt (l.input.contentFits _ l.content) l.input.stSize.nonneg

/-- **The stores of the load are the segments of the file.** -/
theorem stores_eq :
    loadStores (loadElfKernel l.env l.page l.gpaToHpaOffset l.input).log =
      l.segments.flatMap fun s => Stores.run (loadAddr (s.1 + l.gpaToHpaOffset)) s.2 := by
  have hreturns := l.returns
  have hlen := l.length_lt
  unfold loadElfKernel at hreturns ⊢
  cases hread : readFile l.page l.input with
  | error e =>
    rw [hread] at hreturns
    cases hreturns
  | ok image =>
    obtain ⟨buffer, size⟩ := image
    rw [hread, Traced.lift_ok_bind] at hreturns
    rw [Traced.lift_ok_bind]
    cases buffer with
    | none => cases hreturns
    | some elf =>
      obtain ⟨bytes, hbytes, hpad, -⟩ := readFile_some hread
      have hsame : bytes = l.file := Option.some.inj (hbytes.symm.trans l.content)
      subst hsame
      have hholds : HoldsFile l.file ⟨elf, l.env.outside⟩ := by
        rw [hpad]
        exact holdsFile_padded _ _ _
      obtain ⟨span, log, hrun, -, hlog⟩ := loadElf_returns hreturns
      show loadStores (loadElf _ _ _ _ _).log = _
      rw [hlog, hrun.stores_eq.1]
      have hlen64 := Nat.lt_trans hlen (by decide : 2 ^ 63 < 2 ^ 64)
      have hentries := hholds.loadEntries_eq hlen64 l.wellFormed.header
        fun i hi => ⟨l.wellFormed.entry i hi, l.wellFormed.address i hi⟩
      rw [hentries, segments, List.flatMap_map]
      refine List.flatMap_congr fun ph hph => ?_
      rw [segmentStores_eq _ _ (l.wellFormed.filesz_le ph hph), segmentBytes, segmentBytes,
        hholds.readBytes_eq hlen64 (l.wellFormed.data ph hph)]

end ElfLoad

/-! ## 4. The image -/

/-- The physical addresses of a segment. -/
def Phdr.CoversAt (ph : Phdr) (gpaToHpaOffset a : UInt64) : Prop :=
  ∃ j < ph.memsz.toNat, a = loadAddr (ph.paddr + gpaToHpaOffset) j

/-- **The image of the file is in memory**: the last segment over an address has its byte or a
    zero there, and every other address is as before. -/
structure ImageLoaded (file : List UInt8) (gpaToHpaOffset : UInt64) (mem mem' : Mem) : Prop where
  data : ∀ earlier ph later j, elfLoads file = earlier ++ ph :: later → j < ph.filesz.toNat →
    (∀ q ∈ later, ¬ q.CoversAt gpaToHpaOffset (loadAddr (ph.paddr + gpaToHpaOffset) j)) →
    file[ph.offset.toNat + j]? = some (mem' (loadAddr (ph.paddr + gpaToHpaOffset) j))
  zeros : ∀ earlier ph later j, elfLoads file = earlier ++ ph :: later → ph.filesz.toNat ≤ j →
    j < ph.memsz.toNat →
    (∀ q ∈ later, ¬ q.CoversAt gpaToHpaOffset (loadAddr (ph.paddr + gpaToHpaOffset) j)) →
    mem' (loadAddr (ph.paddr + gpaToHpaOffset) j) = 0
  frame : ∀ a, (∀ ph ∈ elfLoads file, ¬ ph.CoversAt gpaToHpaOffset a) → mem' a = mem a

/-- The addresses of a load are distinct. -/
theorem loadAddr_inj (hi : i < 2 ^ 64) (hj : j < 2 ^ 64)
    (h : loadAddr paddr i = loadAddr paddr j) : i = j := by
  have hsame := (UInt64.add_right_inj _).mp h
  have hnat := congrArg UInt64.toNat hsame
  rw [UInt64.toNat_ofNat_of_lt' hi, UInt64.toNat_ofNat_of_lt' hj] at hnat
  exact hnat

namespace ElfLoad

variable (l : ElfLoad)

/-- The stores of a segment go to the addresses it covers. -/
theorem mem_segment_stores {ph : Phdr} (hph : ph ∈ elfLoads l.file) {st : UInt64 × UInt8} :
    st ∈ Stores.run (loadAddr (ph.paddr + l.gpaToHpaOffset)) (segmentBytes (fileView l.file) ph) ↔
      ∃ j < ph.memsz.toNat, (segmentBytes (fileView l.file) ph)[j]? = some st.2 ∧
        st.1 = loadAddr (ph.paddr + l.gpaToHpaOffset) j := by
  have hlen := length_segmentBytes (fileView l.file) (l.wellFormed.filesz_le ph hph)
  rw [Stores.mem_run_iff]
  constructor
  · intro h
    obtain ⟨j, hget, haddr⟩ := h
    have hlt := (List.getElem?_eq_some_iff.mp hget).1
    rw [hlen] at hlt
    exact ⟨j, hlt, hget, haddr⟩
  · intro h
    obtain ⟨j, -, hget, haddr⟩ := h
    exact ⟨j, hget, haddr⟩

/-- The last segment over an address decides. -/
theorem memory_last (mem : Mem) {earlier later : List Phdr} {ph : Phdr} {j : Nat} {b : UInt8}
    (hsplit : elfLoads l.file = earlier ++ ph :: later)
    (hget : (segmentBytes (fileView l.file) ph)[j]? = some b)
    (hlast : ∀ q ∈ later,
      ¬ q.CoversAt l.gpaToHpaOffset (loadAddr (ph.paddr + l.gpaToHpaOffset) j)) :
    l.memory mem (loadAddr (ph.paddr + l.gpaToHpaOffset) j) = b := by
  have hmem : ∀ q ∈ ph :: later, q ∈ elfLoads l.file := fun q hq => by
    rw [hsplit]
    exact List.mem_append_right _ hq
  have hlen := length_segmentBytes (fileView l.file)
    (l.wellFormed.filesz_le ph (hmem ph List.mem_cons_self))
  have hj := (List.getElem?_eq_some_iff.mp hget).1
  have hsize := UInt64.toNat_lt ph.memsz
  rw [memory, stores_eq, segments, hsplit, List.flatMap_map, List.flatMap_append,
    List.flatMap_cons, Stores.after_append, Stores.after_append]
  rw [Stores.after_of_notMem]
  · refine Stores.after_run (fun i hi heq => ?_) hget
    dsimp only at hi
    exact loadAddr_inj (by omega) (by omega) heq
  · intro st hst heq
    obtain ⟨q, hq, hstore⟩ := List.mem_flatMap.mp hst
    obtain ⟨i, hi, -, haddr⟩ :=
      (l.mem_segment_stores (hmem q (List.mem_cons_of_mem _ hq))).mp hstore
    exact hlast q hq ⟨i, hi, heq ▸ haddr⟩

/-- What no segment covers stays. -/
theorem memory_frame (mem : Mem) {a : UInt64}
    (h : ∀ ph ∈ elfLoads l.file, ¬ ph.CoversAt l.gpaToHpaOffset a) : l.memory mem a = mem a := by
  rw [memory, stores_eq, segments, List.flatMap_map]
  refine Stores.after_of_notMem fun st hst heq => ?_
  obtain ⟨ph, hph, hstore⟩ := List.mem_flatMap.mp hst
  obtain ⟨j, hj, -, haddr⟩ := (l.mem_segment_stores hph).mp hstore
  exact h ph hph ⟨j, hj, heq ▸ haddr⟩

theorem imageLoaded (mem : Mem) : ImageLoaded l.file l.gpaToHpaOffset mem (l.memory mem) := by
  have hlen := l.length_lt
  refine ⟨?_, ?_, fun a h => l.memory_frame mem h⟩
  · intro earlier ph later j hsplit hj hlast
    have hph : ph ∈ elfLoads l.file := by
      rw [hsplit]
      exact List.mem_append_right _ List.mem_cons_self
    have hdata := l.wellFormed.data ph hph
    have hin : ph.offset.toNat + j < l.file.length := by omega
    have hfile : l.file[ph.offset.toNat + j]? = some (l.file.get ⟨_, hin⟩) :=
      List.getElem?_eq_getElem hin
    rw [hfile]
    congr 1
    refine (l.memory_last mem hsplit ?_ hlast).symm
    rw [segmentBytes, List.getElem?_append_left (by rw [readBytes_length]; exact hj),
      getElem?_readBytes_file hdata hlen hj, hfile]
  · intro earlier ph later j hsplit hfilesz hj hlast
    have hph : ph ∈ elfLoads l.file := by
      rw [hsplit]
      exact List.mem_append_right _ List.mem_cons_self
    have hle := l.wellFormed.filesz_le ph hph
    refine l.memory_last mem hsplit ?_ hlast
    rw [segmentBytes, List.getElem?_append_right (by rw [readBytes_length]; exact hfilesz),
      readBytes_length, List.getElem?_replicate_of_lt]
    rw [UInt64.toNat_sub_of_le _ _ hle]
    omega

/-- Segments that share no physical address. -/
def Disjoint : Prop :=
  (elfLoads l.file).Pairwise fun p q =>
    ∀ a, ¬ (p.CoversAt l.gpaToHpaOffset a ∧ q.CoversAt l.gpaToHpaOffset a)

/-- Stores of disjoint segments agree. -/
theorem stores_agree (h : l.Disjoint) {st st' : UInt64 × UInt8}
    (hst : st ∈ loadStores (loadElfKernel l.env l.page l.gpaToHpaOffset l.input).log)
    (hst' : st' ∈ loadStores (loadElfKernel l.env l.page l.gpaToHpaOffset l.input).log)
    (heq : st.1 = st'.1) : st.2 = st'.2 := by
  rw [stores_eq, segments, List.flatMap_map] at hst hst'
  obtain ⟨ph, hph, hstore⟩ := List.mem_flatMap.mp hst
  obtain ⟨q, hq, hstore'⟩ := List.mem_flatMap.mp hst'
  obtain ⟨i, hi, hget, haddr⟩ := (l.mem_segment_stores hph).mp hstore
  obtain ⟨j, hj, hget', haddr'⟩ := (l.mem_segment_stores hq).mp hstore'
  by_cases hsame : ph = q
  · subst hsame
    have hsize := UInt64.toNat_lt ph.memsz
    have hij : i = j := loadAddr_inj (by omega) (by omega) (haddr.symm.trans (heq.trans haddr'))
    subst hij
    exact Option.some.inj (hget.symm.trans hget')
  · have hsymm : Std.Symm fun p q : Phdr =>
        ∀ a, ¬ (p.CoversAt l.gpaToHpaOffset a ∧ q.CoversAt l.gpaToHpaOffset a) :=
      ⟨fun p q hpq a ha => hpq a ha.symm⟩
    have hdisjoint := List.Pairwise.forall h hph hq hsame
    exact absurd ⟨⟨i, hi, haddr⟩, j, hj, heq.trans haddr'⟩ (hdisjoint st.1)

/-- Disjoint segments can be loaded in any order. -/
theorem memory_perm (l' : ElfLoad) (hoffset : l'.gpaToHpaOffset = l.gpaToHpaOffset)
    (hperm : l.segments.Perm l'.segments) (h : l.Disjoint) (mem : Mem) :
    l.memory mem = l'.memory mem := by
  unfold memory
  refine Stores.after_perm ?_ fun st hst st' hst' => l.stores_agree h hst hst'
  rw [l.stores_eq, l'.stores_eq, hoffset]
  exact hperm.flatMap_right _

end ElfLoad

/-- **The loader produces the image**, and the order of disjoint segments does not matter. -/
theorem elf_image_loaded (l : ElfLoad) :
    (∀ mem, ImageLoaded l.file l.gpaToHpaOffset mem (l.memory mem)) ∧
      ∀ l' : ElfLoad, l'.gpaToHpaOffset = l.gpaToHpaOffset → l.segments.Perm l'.segments →
        l.Disjoint → ∀ mem, l.memory mem = l'.memory mem :=
  ⟨l.imageLoaded, fun l' hoffset hperm h mem => l.memory_perm l' hoffset hperm h mem⟩

/-! ## 5. A file with two segments -/

/-- A program header, as it lies in a file. -/
def phdrBytes (ph : Phdr) : List UInt8 :=
  le32 ph.type ++ le32 0 ++ le64 ph.offset ++ le64 0 ++ le64 ph.paddr ++ le64 ph.filesz ++
    le64 ph.memsz ++ le64 0

/-- A file of an ELF header, program headers and what follows them. -/
def elfFile (phs : List Phdr) (rest : List UInt8) : List UInt8 :=
  elfMagic ++ List.replicate 19 0 ++ le64 0x1000 ++ le64 64 ++ List.replicate 14 0 ++ le16 56 ++
    le16 (UInt16.ofNat phs.length) ++ List.replicate 6 0 ++ phs.flatMap phdrBytes ++ rest

/-- Two bytes of code with two zeros behind them. -/
def codeSegment : Phdr := ⟨1, 176, 0x1000, 2, 4⟩

/-- Two bytes of data. -/
def dataSegment : Phdr := ⟨1, 178, 0x2000, 2, 2⟩

/-- An environment in which nothing fails, and nothing is mapped around the buffer. -/
def fineEnv : ElfEnv := ⟨fun _ => none, fun _ => true, fun _ => .done, fun _ => .done⟩

/-- A load of a file with these program headers. -/
def loadOf (phs : List Phdr) (info : ElfInfo)
    (hsize : (elfFile phs [1, 2, 3, 4]).length < 2 ^ 63)
    (hfile : WellFormedElf (elfFile phs [1, 2, 3, 4]))
    (hreturns : (loadElfKernel fineEnv .fourKiB 0x10000
      (wholeFile ⟨UInt64.ofNat (elfFile phs [1, 2, 3, 4]).length,
          by rwa [UInt64.toNat_ofNat_of_lt' (Nat.lt_trans hsize (by decide))]⟩
        (elfFile phs [1, 2, 3, 4])
        (by rw [UInt64.toNat_ofNat_of_lt' (Nat.lt_trans hsize (by decide))]))).result =
      .ok (some info)) : ElfLoad :=
  { env := fineEnv, page := .fourKiB, input := _, file := elfFile phs [1, 2, 3, 4]
    gpaToHpaOffset := 0x10000, info := info, content := rfl, wellFormed := hfile
    returns := hreturns }

theorem wellFormed_code_data : WellFormedElf (elfFile [codeSegment, dataSegment] [1, 2, 3, 4]) :=
  ⟨by decide +kernel, by decide +kernel, by decide +kernel, by decide +kernel, by decide +kernel⟩

theorem wellFormed_data_code : WellFormedElf (elfFile [dataSegment, codeSegment] [1, 2, 3, 4]) :=
  ⟨by decide +kernel, by decide +kernel, by decide +kernel, by decide +kernel, by decide +kernel⟩

def codeFirst : ElfLoad :=
  loadOf [codeSegment, dataSegment] ⟨0x1000, 0x1002⟩ (by decide +kernel) wellFormed_code_data
    (toOption_eq_some.mp (by decide +kernel))

def dataFirst : ElfLoad :=
  loadOf [dataSegment, codeSegment] ⟨0x1000, 0x1002⟩ (by decide +kernel) wellFormed_data_code
    (toOption_eq_some.mp (by decide +kernel))

theorem elfLoads_codeFirst : elfLoads codeFirst.file = [codeSegment, dataSegment] := by
  decide +kernel

theorem codeFirst_disjoint : codeFirst.Disjoint := by
  unfold ElfLoad.Disjoint
  rw [elfLoads_codeFirst]
  refine List.pairwise_pair.mpr fun a ha => ?_
  obtain ⟨⟨i, hi, ha⟩, j, hj, ha'⟩ := ha
  have hi4 : i < 4 := hi
  have hj2 : j < 2 := hj
  have hcode : (codeSegment.paddr + codeFirst.gpaToHpaOffset).toNat = 0x11000 := by decide +kernel
  have hdata : (dataSegment.paddr + codeFirst.gpaToHpaOffset).toNat = 0x12000 := by decide +kernel
  have hnat := congrArg UInt64.toNat (ha.symm.trans ha')
  rw [toNat_loadAddr (by omega), toNat_loadAddr (by omega), hcode, hdata] at hnat
  omega

/-- The two files have the same segments, in another order. -/
theorem codeFirst_perm : codeFirst.segments.Perm dataFirst.segments := by
  have hcode : codeFirst.segments = [(0x1000, [1, 2, 0, 0]), (0x2000, [3, 4])] := by decide +kernel
  have hdata : dataFirst.segments = [(0x2000, [3, 4]), (0x1000, [1, 2, 0, 0])] := by decide +kernel
  rw [hcode, hdata]
  exact List.Perm.swap _ _ _

/-- The two orders of the segments leave the same memory, with the second byte of the code. -/
theorem two_segments_loaded :
    codeFirst.memory = dataFirst.memory ∧ codeFirst.memory (fun _ => 0xff) 0x11001 = 2 := by
  obtain ⟨himage, horder⟩ := elf_image_loaded codeFirst
  constructor
  · have hcode : codeFirst.gpaToHpaOffset = 0x10000 := rfl
    have hdata : dataFirst.gpaToHpaOffset = 0x10000 := rfl
    funext mem
    exact horder dataFirst (hdata.trans hcode.symm) codeFirst_perm codeFirst_disjoint mem
  · have hbyte := (himage fun _ => 0xff).data [] codeSegment [dataSegment] 1 elfLoads_codeFirst
      (by decide) ?_
    · have hsecond : codeFirst.file[codeSegment.offset.toNat + 1]? = some 2 := by decide +kernel
      have haddr : loadAddr (codeSegment.paddr + codeFirst.gpaToHpaOffset) 1 = 0x11001 := by
        decide +kernel
      rw [hsecond, haddr] at hbyte
      exact (Option.some.inj hbyte).symm
    · intro q hq hcovers
      rw [List.mem_singleton] at hq
      subst hq
      have hfirst : codeSegment.CoversAt codeFirst.gpaToHpaOffset
          (loadAddr (codeSegment.paddr + codeFirst.gpaToHpaOffset) 1) := ⟨1, by decide, rfl⟩
      have hdisjoint := codeFirst_disjoint
      unfold ElfLoad.Disjoint at hdisjoint
      rw [elfLoads_codeFirst] at hdisjoint
      exact List.pairwise_pair.mp hdisjoint _ ⟨hfirst, hcovers⟩

end HvisorTool
