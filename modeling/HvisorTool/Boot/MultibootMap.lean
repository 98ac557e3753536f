/-
  File:      HvisorTool/Boot/MultibootMap.lean
  Subject:   WHERE THE MULTIBOOT2 LOADER PUTS ITS PAYLOADS, against the zone's memory map.

  What is to be loaded, and to which guest addresses, is a plan over the configuration, the
  files and the answers of the driver; the memory map has no part in it. The loader follows that
  plan with one offset added to each address.

  * `multibootPlan`: the loads in guest addresses, up to the one that ends the loader;
  * `multiboot2PrepareZone_follows`: the loader makes these loads, moved by its offset;
  * `UsesMemoryMap`: each byte goes where the memory map puts its guest address;
  * `multiboot_uses_map_iff`: that is so if the RAM regions that the payloads lie in are all
    moved as far as the first one, and nothing lies outside.
-/
import HvisorTool.Boot.ElfImage
import HvisorTool.Boot.Multiboot
import HvisorTool.Library.Plan
import Mathlib.Data.List.Forall2

namespace HvisorTool

open Library

/-! ## 1. What is to be loaded -/

/-- A guest address, and the bytes to be loaded there. -/
abbrev GuestLoad := UInt64 × List UInt8

/-- A buffer: nothing is done for an empty one. -/
def bufferPlan (answer : LoadAnswer) (readable : Bool) (gpa : UInt64) (bytes : List UInt8) :
    Plan GuestLoad :=
  if bytes.length = 0 then .skip
  else
    match answer with
    | .fails => .stop
    | .failsLate => ⟨[(gpa, bytes)], false⟩
    | .done => ⟨[(gpa, bytes)], readable⟩

theorem bufferPlan_empty {answer : LoadAnswer} {readable : Bool} {gpa : UInt64}
    {bytes : List UInt8} (h : bytes.length = 0) : bufferPlan answer readable gpa bytes = .skip :=
  if_pos h

/-- A file. -/
def imagePlan (env : BootEnv) (answer : LoadAnswer) (path : List Char) (gpa : UInt64) :
    Plan GuestLoad :=
  if String.ofList path = "null" then .skip
  else
    match readFile env.page (env.files path) with
    | .error _ => .stop
    | .ok image => bufferPlan answer true gpa ((image.1.getD []).take image.2.toNat)

/-- A segment: its data, then its zeros. -/
def segmentPlan (env : ElfEnv) (v : ElfView) (i : Nat) (ph : Phdr) : Plan GuestLoad :=
  (bufferPlan (env.data i) (v.mapped ph.offset ph.filesz.toNat) ph.paddr
      (readBytes v.mem ph.offset ph.filesz.toNat)).andThen
    (if ph.memsz > ph.filesz then
      if env.callocOk i then
        bufferPlan (env.zeros i) true (ph.paddr + ph.filesz)
          (List.replicate (ph.memsz - ph.filesz).toNat 0)
      else .stop
    else .skip)

/-- The segments of `n` program headers from the `i`th on. -/
def segmentsPlan (env : ElfEnv) (v : ElfView) (fileSize : UInt64) (h : ElfHeader) :
    Nat → Nat → Plan GuestLoad
  | _, 0 => .skip
  | i, n + 1 =>
    if v.AllMapped (ElfView.phdrReads (h.phdrOffset i)) then
      (if (v.phdr (h.phdrOffset i)).Rejected fileSize then .stop
      else if (v.phdr (h.phdrOffset i)).IsLoad then segmentPlan env v i (v.phdr (h.phdrOffset i))
      else .skip).andThen (segmentsPlan env v fileSize h (i + 1) n)
    else .stop

/-- The kernel: a file that starts like an ELF file, and whose header can be read. -/
def elfPlan (env : ElfEnv) (v : ElfView) (fileSize : UInt64) : Plan GuestLoad :=
  if (v.checkMagic 0 elfMagic).result.toOption = some true ∧ v.AllMapped ElfView.headerReads then
    segmentsPlan env v fileSize v.header 0 v.header.phnum.toNat
  else .stop

section Plans

variable [CJson] (env : BootEnv) (root : Option Json)

def kernelPlan : Plan GuestLoad :=
  match stringItem root "kernel_filepath" with
  | none => .stop
  | some path =>
    match readFile env.page (env.files path) with
    | .ok (some elf, size) => elfPlan env.kernel ⟨elf, env.kernel.outside⟩ size
    | _ => .stop

def infoPlan : Plan GuestLoad := if (multibootInfoPaddr root).isSome then .skip else .stop

def bootImagePlan : Plan GuestLoad :=
  match stringItem (archConfig root) "boot_filepath",
    Json.getObjectItem (archConfig root) "boot_load_paddr" with
  | some path, some paddrJson =>
    match JsonTarget.read .linuxU64 (some paddrJson) with
    | none => .stop
    | some paddr => imagePlan env env.bootImage path paddr
  | _, _ => .skip

/-- The guest address of the command line. -/
def cmdlineGpa : Option UInt64 :=
  (multibootInfoPaddr root).bind
    (parseOptional (Json.getObjectItem (archConfig root) "cmdline_load_gpa"))

def cmdlinePlan : Plan GuestLoad :=
  match cmdlineGpa root with
  | none => .stop
  | some gpa =>
    if kernelCmdline root = [] then .skip
    else bufferPlan env.cmdline true gpa (Json.bytes (kernelCmdline root) ++ [0])

def initramfsPlan : Plan GuestLoad :=
  match stringItem root "initramfs_filepath", Json.getObjectItem root "initramfs_load_gpa" with
  | some path, some gpaJson =>
    if path = "null".toList then .skip
    else
      match JsonTarget.read .linuxU64 (some gpaJson) with
      | none => .stop
      | some gpa => imagePlan env env.initramfs path gpa
  | _, _ => .skip

/-- **What is to be loaded**, in guest addresses. -/
def multibootPlan : Plan GuestLoad :=
  (kernelPlan env root).andThen ((infoPlan root).andThen ((bootImagePlan env root).andThen
    ((cmdlinePlan env root).andThen (initramfsPlan env root))))

end Plans

/-! ## 2. The loader follows the plan -/

/-- A load, its address without the offset. -/
def guestLoad (offset : UInt64) : LoadEvent → Option GuestLoad
  | .read _ _ => none
  | .load _ paddr bytes => some (paddr - offset, bytes)

/-- Reads are not loads. -/
theorem filterMap_guestLoad_reads {offset : UInt64} {log : List LoadEvent}
    {reads : List (UInt64 × Nat)} (h : ∀ e ∈ log, e ∈ readEvents reads) :
    log.filterMap (guestLoad offset) = [] := by
  refine List.filterMap_eq_nil_iff.mpr fun e he => ?_
  obtain ⟨r, -, rfl⟩ := List.mem_map.mp (h e he)
  rfl

/-- The loader of a part that may `return -1`. -/
theorem Loading.orReturn_follows {α β : Type} {view : LoadEvent → Option GuestLoad}
    {x : Loading (Option α)} {f : α → Loading (Option β)} {p q : Plan GuestLoad}
    (hx : FollowsPlan view Option.isSome x p)
    (hf : ∀ a, x.result = .ok (some a) → FollowsPlan view Option.isSome (f a) q) :
    FollowsPlan view Option.isSome (x.orReturn f) (p.andThen q) := by
  refine hx.bind (fun r hr hgo => ?_) fun r hr hgo => ?_
  · cases r with
    | none => cases hgo
    | some a => exact hf a hr
  · cases r with
    | none => exact .lift_refused rfl
    | some a => cases hgo

section Payloads

variable {offset : UInt64}

theorem loadBufferToMemory_follows (page : PageSize) (answer : LoadAnswer) (source : Option UInt64)
    (readable : Bool) (bytes : List UInt8) (gpa : UInt64) :
    FollowsPlan (guestLoad offset) (fun _ => true)
      (loadBufferToMemory page answer source readable bytes (gpa + offset))
      (bufferPlan answer readable gpa bytes) := by
  by_cases hempty : bytes.length = 0
  · rw [bufferPlan_empty hempty]
    unfold loadBufferToMemory
    rw [if_pos hempty]
    exact .lift_ok rfl
  unfold bufferPlan
  rw [loadBufferToMemory_some hempty, if_neg hempty]
  have hentries : [LoadEvent.load source (gpa + offset) bytes].filterMap (guestLoad offset) =
      [(gpa, bytes)] := by
    simp only [List.filterMap_cons, guestLoad, UInt64.add_sub_cancel, List.filterMap_nil]
  cases answer with
  | fails => exact .failed rfl rfl
  | failsLate => exact ⟨hentries, by simp, by simp⟩
  | done =>
    refine ⟨hentries, ?_⟩
    cases readable <;> simp

variable (env : BootEnv) (root : Option Json)

theorem loadPath_follows (answer : LoadAnswer) (path : List Char) (gpa : UInt64) :
    FollowsPlan (guestLoad offset) (fun _ => true) (loadPath env answer path (gpa + offset))
      (imagePlan env answer path gpa) := by
  unfold loadPath loadImageToMemory imagePlan
  by_cases hnull : String.ofList path = "null"
  · rw [if_pos hnull, if_pos hnull]
    exact .lift_ok rfl
  rw [if_neg hnull, if_neg hnull]
  cases readFile env.page (env.files path) with
  | error e => exact .failed rfl rfl
  | ok image => exact loadBufferToMemory_follows _ _ _ _ _ _

/-- The body of the loop over the program headers. -/
theorem loadSegment_follows (env : ElfEnv) (page : PageSize) (v : ElfView) (fileSize : UInt64)
    (i : Nat) (ph : Phdr) (span : ElfSpan) :
    FollowsPlan (guestLoad offset) Option.isSome (loadSegment env page v fileSize offset i ph span)
      (if ph.Rejected fileSize then .stop
      else if ph.IsLoad then segmentPlan env v i ph else .skip) := by
  unfold loadSegment
  by_cases hload : ph.IsLoad
  swap
  · have hother : ph.type ≠ 1 := hload
    rw [if_pos hother, if_neg fun h => hload h.1, if_neg hload]
    exact .lift_ok rfl
  have hpt : ph.type = 1 := hload
  rw [if_neg (not_not.mpr hpt)]
  by_cases hbig : ph.offset + ph.filesz > fileSize
  · have hrejected : ph.Rejected fileSize := ⟨hload, hbig⟩
    rw [if_pos hbig, if_pos hrejected]
    exact .lift_refused rfl
  have haccepted : ¬ ph.Rejected fileSize := fun h => hbig h.2
  rw [if_neg hbig, if_neg haccepted, if_pos hload]
  -- a segment without data has an empty buffer, for which there is nothing to do
  have hdata : FollowsPlan (guestLoad offset) (fun _ => true) (loadData env page v offset i ph)
      (bufferPlan (env.data i) (v.mapped ph.offset ph.filesz.toNat) ph.paddr
        (readBytes v.mem ph.offset ph.filesz.toNat)) := by
    unfold loadData
    by_cases hsome : ph.filesz > 0
    · rw [if_pos hsome]
      exact loadBufferToMemory_follows _ _ _ _ _ _
    · have hzero : ph.filesz.toNat = 0 :=
        Nat.eq_zero_of_not_pos fun hpos => hsome (UInt64.lt_iff_toNat_lt.mpr hpos)
      rw [if_neg hsome, bufferPlan_empty (by rw [readBytes_length, hzero])]
      exact .lift_ok rfl
  have hzeros : FollowsPlan (guestLoad offset) id (loadZeros env page offset i ph)
      (if ph.memsz > ph.filesz then
        if env.callocOk i then
          bufferPlan (env.zeros i) true (ph.paddr + ph.filesz)
            (List.replicate (ph.memsz - ph.filesz).toNat 0)
        else .stop
      else .skip) := by
    unfold loadZeros
    by_cases hmore : ph.memsz > ph.filesz
    swap
    · rw [if_neg hmore, if_neg hmore]
      exact .lift_ok rfl
    rw [if_pos hmore, if_pos hmore]
    cases env.callocOk i with
    | false => exact .lift_refused rfl
    | true =>
      have hmoved : ph.paddr + offset + ph.filesz = ph.paddr + ph.filesz + offset := by
        rw [UInt64.add_assoc, UInt64.add_comm offset, ← UInt64.add_assoc]
      rw [if_pos rfl, if_pos rfl, hmoved]
      exact (loadBufferToMemory_follows _ _ _ _ _ _).map fun _ => rfl
  refine hdata.bind_all fun n _ => hzeros.map fun stored => ?_
  cases stored <;> rfl

/-- The loop over the program headers. -/
theorem loadSegments_follows (env : ElfEnv) (page : PageSize) (v : ElfView) (fileSize : UInt64)
    (h : ElfHeader) (i n : Nat) (span : ElfSpan) :
    FollowsPlan (guestLoad offset) Option.isSome
      (loadSegments env page v fileSize offset h i n span) (segmentsPlan env v fileSize h i n) := by
  induction n generalizing i span with
  | zero => exact .lift_ok rfl
  | succ n ih =>
    unfold loadSegments segmentsPlan
    have hread := readPhdr_outcome v (h.phdrOffset i)
    generalize v.readPhdr (h.phdrOffset i) = read at hread ⊢
    cases hread with
    | dies log hstop =>
      rw [if_neg hstop.not_allMapped]
      exact .failed_bind (filterMap_guestLoad_reads hstop.within) rfl
    | whole hmapped =>
      rw [if_pos hmapped]
      refine FollowsPlan.silent_bind (filterMap_guestLoad_reads fun e he => he) rfl ?_
      refine (loadSegment_follows env page v fileSize i _ span).bind ?_ ?_
      · intro next _ hgo
        cases next with
        | none => cases hgo
        | some span' => exact ih (i + 1) span'
      · intro next _ hgo
        cases next with
        | none => exact .lift_refused rfl
        | some span' => cases hgo

theorem checkMagic_silent (v : ElfView) (o : UInt64) (bs : List UInt8) :
    ∀ e ∈ (v.checkMagic o bs).log, guestLoad offset e = none := by
  induction bs generalizing o with
  | nil => exact fun e he => (by cases he)
  | cons b bs ih =>
    unfold ElfView.checkMagic
    refine Traced.forall_log_bind.mpr ⟨fun e he => ?_, fun x _ => ?_⟩
    · rw [List.mem_singleton.mp he]
      rfl
    · split
      · exact fun e he => (by cases he)
      · exact ih (o + 1)

theorem loadElf_follows (env : ElfEnv) (page : PageSize) (v : ElfView) (fileSize : UInt64) :
    FollowsPlan (guestLoad offset) Option.isSome (loadElf env page v fileSize offset)
      (elfPlan env v fileSize) := by
  unfold loadElf elfPlan
  have hmagic : (v.checkMagic 0 elfMagic).log.filterMap (guestLoad offset) = [] :=
    List.filterMap_eq_nil_iff.mpr (checkMagic_silent v 0 elfMagic)
  cases hresult : (v.checkMagic 0 elfMagic).result with
  | error e =>
    rw [if_neg fun h => (by cases h.1)]
    exact .failed_bind hmagic hresult
  | ok isElf =>
    cases isElf with
    | false =>
      rw [if_neg fun h => (by cases h.1)]
      exact .silent_bind hmagic hresult (.lift_refused rfl)
    | true =>
      refine FollowsPlan.silent_bind hmagic hresult ?_
      rw [if_pos rfl]
      have hread := readFields_outcome v
      generalize v.readFields = read at hread ⊢
      cases hread with
      | dies log hstop =>
        rw [if_neg fun h => hstop.not_allMapped h.2]
        exact .failed_bind (filterMap_guestLoad_reads hstop.within) rfl
      | whole hmapped =>
        rw [if_pos ⟨rfl, hmapped⟩]
        refine FollowsPlan.silent_bind (filterMap_guestLoad_reads fun e he => he) rfl ?_
        refine (loadSegments_follows env page v fileSize v.header 0 _ _).map fun span => ?_
        cases span <;> rfl

variable [CJson]

theorem loadKernel_follows :
    FollowsPlan (guestLoad offset) Option.isSome (loadKernel env root offset) (kernelPlan env root) := by
  unfold loadKernel kernelPlan
  cases stringItem root "kernel_filepath" with
  | none => exact .lift_refused rfl
  | some path =>
    unfold loadElfKernel
    dsimp only
    cases readFile env.page (env.files path) with
    | error e => exact .failed_bind rfl rfl
    | ok image =>
      obtain ⟨buffer, size⟩ := image
      cases buffer with
      | none => exact .silent_bind rfl rfl (.lift_refused rfl)
      | some elf => exact .silent_bind rfl rfl (loadElf_follows _ _ _ _)

theorem loadBootImage_follows :
    FollowsPlan (guestLoad offset) Option.isSome (loadBootImage env root offset)
      (bootImagePlan env root) := by
  unfold loadBootImage bootImagePlan
  cases stringItem (archConfig root) "boot_filepath" with
  | none => exact .lift_ok rfl
  | some path =>
    cases Json.getObjectItem (archConfig root) "boot_load_paddr" with
    | none => exact .lift_ok rfl
    | some paddrJson =>
      dsimp only
      cases JsonTarget.read .linuxU64 (some paddrJson) with
      | none => exact .lift_refused rfl
      | some paddr => exact (loadPath_follows _ _ _ _).map fun _ => rfl

theorem loadCmdline_follows {infoPaddr : UInt64} (h : multibootInfoPaddr root = some infoPaddr) :
    FollowsPlan (guestLoad offset) Option.isSome (loadCmdline env root offset infoPaddr)
      (cmdlinePlan env root) := by
  unfold loadCmdline cmdlinePlan cmdlineGpa
  rw [h, Option.bind_some]
  cases parseOptional (Json.getObjectItem (archConfig root) "cmdline_load_gpa") infoPaddr with
  | none => exact .lift_refused rfl
  | some gpa =>
    dsimp only
    split
    · exact .lift_ok rfl
    · exact (loadBufferToMemory_follows _ _ _ _ _ _).map fun _ => rfl

theorem loadInitramfs_follows :
    FollowsPlan (guestLoad offset) Option.isSome (loadInitramfs env root offset)
      (initramfsPlan env root) := by
  unfold loadInitramfs initramfsPlan
  cases stringItem root "initramfs_filepath" with
  | none => exact .lift_ok rfl
  | some path =>
    cases Json.getObjectItem root "initramfs_load_gpa" with
    | none => exact .lift_ok rfl
    | some gpaJson =>
      dsimp only
      split
      · exact .lift_ok rfl
      cases JsonTarget.read .linuxU64 (some gpaJson) with
      | none => exact .lift_refused rfl
      | some gpa => exact (loadPath_follows _ _ _ _).map fun _ => rfl

end Payloads

/-- **The loader makes the loads of the plan**, each moved by the offset of the first RAM region. -/
theorem multiboot2PrepareZone_follows [CJson] (env : BootEnv) (regions : List MemoryRegion)
    (root : Option Json) :
    FollowsPlan (guestLoad (gpaToHpaOffset regions)) Option.isSome
      (multiboot2PrepareZone env regions root) (multibootPlan env root) := by
  unfold multiboot2PrepareZone multibootPlan
  refine Loading.orReturn_follows (loadKernel_follows env root) fun elf _ => ?_
  have hinfo : FollowsPlan (guestLoad (gpaToHpaOffset regions)) Option.isSome
      (.lift (.ok (multibootInfoPaddr root)) : Loading (Option UInt64)) (infoPlan root) := by
    unfold infoPlan
    cases multibootInfoPaddr root with
    | none => exact .lift_refused rfl
    | some infoPaddr => exact .lift_ok rfl
  refine Loading.orReturn_follows hinfo fun infoPaddr hpaddr => ?_
  refine Loading.orReturn_follows (loadBootImage_follows env root) fun _ _ => ?_
  refine Loading.orReturn_follows (loadCmdline_follows env root (Except.ok.inj hpaddr)) fun _ _ => ?_
  rw [← Plan.andThen_skip (initramfsPlan env root)]
  exact Loading.orReturn_follows (loadInitramfs_follows env root) fun _ _ => .lift_ok rfl

/-! ## 3. The memory map -/

/-- A guest address that lies in a region. -/
def MemoryRegion.Contains (r : MemoryRegion) (g : UInt64) : Prop :=
  r.virtualStart.toNat ≤ g.toNat ∧ g.toNat < r.virtualStart.toNat + r.size.toNat

/-- A guest address that lies in a RAM region. -/
def InRam (regions : List MemoryRegion) (g : UInt64) : Prop :=
  ∃ r ∈ regions, r.type = .ram ∧ r.Contains g

/-- **The memory map puts a guest address at a host address**: the guest address lies in a RAM
    region, and the host address is as far from the start of that region. -/
def PlacedAt (regions : List MemoryRegion) (g a : UInt64) : Prop :=
  InRam regions g ∧ ∀ r ∈ regions, r.type = .ram → r.Contains g →
    a = r.physicalStart + (g - r.virtualStart)

/-- The host address and the bytes of a load. -/
def hostLoad : LoadEvent → Option (UInt64 × List UInt8)
  | .read _ _ => none
  | .load _ paddr bytes => some (paddr, bytes)

/-- **The loader uses the memory map**: the loads that it makes are those of the plan, and each
    byte goes where the memory map puts it. -/
def UsesMemoryMap [CJson] (env : BootEnv) (regions : List MemoryRegion) (root : Option Json) :
    Prop :=
  List.Forall₂ (fun guest host => guest.2 = host.2 ∧ ∀ j < guest.2.length,
      PlacedAt regions (guest.1 + UInt64.ofNat j) (host.1 + UInt64.ofNat j))
    (multibootPlan env root).entries
    ((multiboot2PrepareZone env regions root).log.filterMap hostLoad)

/-- Every byte lies in a RAM region, and only in such as are moved as far as the first one. -/
def OneOffset [CJson] (env : BootEnv) (regions : List MemoryRegion) (root : Option Json) : Prop :=
  ∀ load ∈ (multibootPlan env root).entries, ∀ j < load.2.length,
    InRam regions (load.1 + UInt64.ofNat j) ∧
      ∀ r ∈ regions, r.type = .ram → r.Contains (load.1 + UInt64.ofNat j) →
        r.physicalStart - r.virtualStart = gpaToHpaOffset regions

/-- The loads in guest addresses are those in host addresses, without the offset. -/
theorem filterMap_guestLoad (offset : UInt64) (log : List LoadEvent) :
    log.filterMap (guestLoad offset) =
      (log.filterMap hostLoad).map fun host => (host.1 - offset, host.2) := by
  rw [List.map_filterMap]
  congr 1
  funext e
  cases e <;> rfl

theorem moved_eq_iff (g offset p v : UInt64) : g + offset = p + (g - v) ↔ p - v = offset := by
  have hmove : p + (g - v) = g + (p - v) := by
    rw [UInt64.sub_eq_add_neg, UInt64.sub_eq_add_neg, ← UInt64.add_assoc, ← UInt64.add_assoc,
      UInt64.add_comm p]
  rw [hmove, UInt64.add_right_inj]
  exact eq_comm

/-- **The payloads are placed by the memory map if one offset does for all of them.** -/
theorem multiboot_uses_map_iff [CJson] (env : BootEnv) (regions : List MemoryRegion)
    (root : Option Json) : UsesMemoryMap env regions root ↔ OneOffset env regions root := by
  have hentries := (multiboot2PrepareZone_follows env regions root).entries
  rw [filterMap_guestLoad] at hentries
  unfold UsesMemoryMap OneOffset
  rw [← hentries, List.forall₂_map_left_iff, List.forall₂_same, List.forall_mem_map]
  refine forall₂_congr fun host _ => ?_
  have hhost : ∀ j, host.1 + UInt64.ofNat j =
      host.1 - gpaToHpaOffset regions + UInt64.ofNat j + gpaToHpaOffset regions := fun j => by
    rw [UInt64.add_assoc, UInt64.add_comm (UInt64.ofNat j), ← UInt64.add_assoc,
      UInt64.sub_add_cancel]
  constructor
  · rintro ⟨-, hplaced⟩ j hj
    obtain ⟨hram, hat⟩ := hplaced j hj
    refine ⟨hram, fun r hr hr' hin => ?_⟩
    rw [← moved_eq_iff (host.1 - gpaToHpaOffset regions + UInt64.ofNat j), ← hhost]
    exact hat r hr hr' hin
  · intro h
    refine ⟨rfl, fun j hj => ?_⟩
    obtain ⟨hram, hoffset⟩ := h j hj
    refine ⟨hram, fun r hr hr' hin => ?_⟩
    rw [hhost]
    exact (moved_eq_iff _ _ _ _).mpr (hoffset r hr hr' hin)

/-- A kernel without segments. -/
def bareKernel : InputFile :=
  wholeFile ⟨58, by decide⟩ (elfMagic ++ List.replicate 53 0) (by decide)

def bareEnv : BootEnv := ⟨.fourKiB, fun _ => bareKernel, fineEnv, .done, .done, .done⟩

/-- A page of RAM at each of two places, side by side for the guest. -/
def twoRegions : List MemoryRegion :=
  [⟨.ram, 0x40000000, 0, 0x1000⟩, ⟨.ram, 0x80000000, 0x1000, 0x1000⟩]

/-- A command line at a guest address. -/
def cmdlineAt (gpa : ℚ) : Json :=
  .object [("kernel_filepath", .string ['k']), ("kernel_cmdline", .string ['a']),
    ("arch_config", .object [("cmdline_load_gpa", .number gpa)])]

/-- A command line in the second region goes behind the end of the first one, and one that lies
    in no region is loaded all the same. -/
theorem second_region_missed :
    (multiboot2PrepareZone bareEnv twoRegions (some (cmdlineAt 0x1000))).log.filterMap hostLoad =
        [(0x40001000, [97, 0])] ∧
      ¬ UsesMemoryMap bareEnv twoRegions (some (cmdlineAt 0x1000)) ∧
      (multiboot2PrepareZone bareEnv twoRegions (some (cmdlineAt 0x5000))).log.filterMap hostLoad =
        [(0x40005000, [97, 0])] ∧
      ¬ InRam twoRegions 0x5000 := by
  have hlog : (multiboot2PrepareZone bareEnv twoRegions (some (cmdlineAt 0x1000))).log.filterMap
      hostLoad = [(0x40001000, [97, 0])] := by decide +kernel
  have hplan : (multibootPlan bareEnv (some (cmdlineAt 0x1000))).entries = [(0x1000, [97, 0])] := by
    decide +kernel
  refine ⟨hlog, fun h => ?_, by decide +kernel, ?_⟩
  · unfold UsesMemoryMap at h
    rw [hlog, hplan] at h
    obtain ⟨-, hplaced⟩ := (List.forall₂_cons.mp h).1
    have hat := (hplaced 0 (by decide)).2 ⟨.ram, 0x80000000, 0x1000, 0x1000⟩
      (List.mem_cons_of_mem _ List.mem_cons_self) rfl ⟨by decide, by decide⟩
    exact absurd hat (by decide)
  · rintro ⟨r, hr, -, hin⟩
    rcases List.mem_cons.mp hr with rfl | hr
    · exact absurd hin.2 (by decide)
    · rw [List.mem_singleton.mp hr] at hin
      exact absurd hin.2 (by decide)

end HvisorTool
