/-
  File:      HvisorTool/Virtio/ZoneMem.lean
  Subject:   THE MEMORY MAP OF A ZONE and the address translation of `get_virt_addr`.

  `zone_mem` holds, for each zone, the guest regions that the daemon has mapped. A `ZoneMem` carries
  what every map has that `mmap_virtio_zone_memory` built: the mappings are where `mmap` may put
  them, none shares an address with another, and no guest address belongs to two regions.

  * `getVirtAddr`: the translation; 0 stands for `NULL`;
  * `mmapVirtioZoneMemory`: how a map grows; its result is a `ZoneMem` again;
  * `InRegion`: a host buffer lies inside one mapped region;
  * `Fits`: a guest buffer lies inside one region of the guest's own map;
  * `inRegion_getVirtAddr`: the translated buffer is in a region exactly when
    the guest's buffer fits, because the translation looks at its start only.
-/
import HvisorTool.Virtio.Range
import Mathlib.Data.List.Pairwise

namespace HvisorTool

/-- `MAX_ZONES`. -/
def maxZones : Nat := 32

/-- `CONFIG_MAX_MEMORY_REGIONS`. -/
def configMaxMemoryRegions : Nat := 64

/-- `struct zone_mem_region`. -/
structure ZoneMemRegion where
  virtAddr : UInt64
  zone0Ipa : UInt64
  zonexIpa : UInt64
  memSize : UInt64
  deriving DecidableEq, Repr

/-- `VirtioMemoryRegionConfig`. -/
structure VirtioMemoryRegionConfig where
  zone0Ipa : UInt64
  zonexIpa : UInt64
  size : UInt64
  deriving DecidableEq, Repr

namespace ZoneMemRegion

/-- A mapping of `mmap`: not at address 0, and inside the address space. -/
def Placed (r : ZoneMemRegion) : Prop :=
  0 < r.virtAddr.toNat ∧ r.virtAddr.toNat + r.memSize.toNat ≤ 2 ^ 64

/-- The two mappings share no host address. -/
def Apart (r r' : ZoneMemRegion) : Prop :=
  r.virtAddr.toNat + r.memSize.toNat ≤ r'.virtAddr.toNat ∨
    r'.virtAddr.toNat + r'.memSize.toNat ≤ r.virtAddr.toNat

/-- The two regions passed the overlap test of `find_zone_memory_region_locked`. -/
def Separate (r r' : ZoneMemRegion) : Prop :=
  rangesOverlap r.zonexIpa r.memSize r'.zonexIpa r'.memSize = false

instance : Std.Symm Apart := ⟨fun _ _ h => Or.symm h⟩

theorem Separate.symm {r r' : ZoneMemRegion} (h : Separate r r') : Separate r' r :=
  (rangesOverlap_comm ..).trans h

instance : Std.Symm Separate := ⟨fun _ _ h => h.symm⟩

instance (r : ZoneMemRegion) : Decidable r.Placed := by
  unfold Placed
  infer_instance

instance (r r' : ZoneMemRegion) : Decidable (Apart r r') := by
  unfold Apart
  infer_instance

instance (r r' : ZoneMemRegion) : Decidable (Separate r r') := by
  unfold Separate
  infer_instance

end ZoneMemRegion

/-- `struct zone_mem`: the regions in use, in the order they were mapped. -/
structure ZoneMem where
  regions : List ZoneMemRegion
  bound : regions.length ≤ configMaxMemoryRegions
  placed : ∀ r ∈ regions, r.Placed
  apart : regions.Pairwise ZoneMemRegion.Apart
  separate : regions.Pairwise ZoneMemRegion.Separate

/-- The array `zone_mem`. -/
abbrev ZoneTable := Fin maxZones → ZoneMem

def ZoneMem.empty : ZoneMem :=
  { regions := [], bound := Nat.zero_le _, placed := nofun, apart := .nil, separate := .nil }

/-- The regions `get_virt_addr` searches for a zone id: none for an id out of range. -/
def zoneRegions (zm : ZoneTable) (zoneId : Int) : List ZoneMemRegion :=
  if h : 0 ≤ zoneId ∧ zoneId < maxZones then
    (zm ⟨zoneId.toNat, by omega⟩).regions
  else []

/-- `get_virt_addr`: the first region that has the address, else `NULL`. -/
def getVirtAddr (zm : ZoneTable) (zonexIpa : UInt64) (zoneId : Int) : UInt64 :=
  match (zoneRegions zm zoneId).find? fun r => inRange zonexIpa r.zonexIpa r.memSize with
  | some r => zonexIpa - r.zonexIpa + r.virtAddr
  | none => 0

/-! ## 1. How a map grows -/

/-- `same_memory_region`, of a mapped region and a configured one. -/
def sameMemoryRegion (r : ZoneMemRegion) (mem : VirtioMemoryRegionConfig) : Bool :=
  r.zone0Ipa == mem.zone0Ipa && r.zonexIpa == mem.zonexIpa && r.memSize == mem.size

/-- What `find_zone_memory_region_locked` returns: an index, -2 or -1. -/
inductive RegionLookup where
  | mapped
  | conflict
  | free
  deriving DecidableEq, Repr

/-- `find_zone_memory_region_locked`. -/
def findZoneMemoryRegionLocked (mem : VirtioMemoryRegionConfig) :
    List ZoneMemRegion → RegionLookup
  | [] => .free
  | r :: rs =>
    if sameMemoryRegion r mem then .mapped
    else if rangesOverlap mem.zone0Ipa mem.size r.zone0Ipa r.memSize ||
        rangesOverlap mem.zonexIpa mem.size r.zonexIpa r.memSize then .conflict
    else findZoneMemoryRegionLocked mem rs

/-- A successful `mmap` of a region next to those of a zone, with what `mmap` promises. -/
structure Mapping (z : ZoneMem) (mem : VirtioMemoryRegionConfig) where
  virtAddr : UInt64
  placed : 0 < virtAddr.toNat ∧ virtAddr.toNat + mem.size.toNat ≤ 2 ^ 64
  apart : ∀ r ∈ z.regions, ZoneMemRegion.Apart r ⟨virtAddr, mem.zone0Ipa, mem.zonexIpa, mem.size⟩

theorem separate_of_free {mem : VirtioMemoryRegionConfig} {rs : List ZoneMemRegion}
    (h : findZoneMemoryRegionLocked mem rs = .free) (v : UInt64) :
    ∀ r ∈ rs, r.Separate ⟨v, mem.zone0Ipa, mem.zonexIpa, mem.size⟩ := by
  induction rs with
  | nil => nofun
  | cons r rs ih =>
    simp only [findZoneMemoryRegionLocked] at h
    split at h
    · cases h
    · split at h
      · cases h
      · rename_i hov
        simp only [Bool.or_eq_true, not_or, Bool.not_eq_true] at hov
        intro r' hr'
        rcases List.mem_cons.mp hr' with rfl | hr'
        · exact ZoneMemRegion.Separate.symm hov.2
        · exact ih h r' hr'

/-- The new last region. -/
def ZoneMem.push (z : ZoneMem) (mem : VirtioMemoryRegionConfig) (m : Mapping z mem)
    (hfree : findZoneMemoryRegionLocked mem z.regions = .free)
    (hroom : z.regions.length < configMaxMemoryRegions) : ZoneMem where
  regions := z.regions ++ [⟨m.virtAddr, mem.zone0Ipa, mem.zonexIpa, mem.size⟩]
  bound := by
    rw [List.length_append]
    exact hroom
  placed := by
    intro r hr
    rcases List.mem_append.mp hr with hr | hr
    · exact z.placed r hr
    · rw [List.mem_singleton.mp hr]
      exact m.placed
  apart := List.pairwise_append.mpr ⟨z.apart, List.pairwise_singleton _ _, fun r hr r' hr' =>
    List.mem_singleton.mp hr' ▸ m.apart r hr⟩
  separate := List.pairwise_append.mpr ⟨z.separate, List.pairwise_singleton _ _, fun r hr r' hr' =>
    List.mem_singleton.mp hr' ▸ separate_of_free hfree m.virtAddr r hr⟩

/-- `mmap_virtio_zone_memory`: the return code, and the map it leaves. -/
def mmapVirtioZoneMemory
    (mmap : (z : ZoneMem) → (mem : VirtioMemoryRegionConfig) → Option (Mapping z mem)) :
    List VirtioMemoryRegionConfig → ZoneMem → Int × ZoneMem
  | [], z => (0, z)
  | mem :: mems, z =>
    match hf : findZoneMemoryRegionLocked mem z.regions with
    | .mapped => mmapVirtioZoneMemory mmap mems z
    | .conflict => (-1, z)
    | .free =>
      if mem.size = 0 then (-1, z)
      else if hroom : z.regions.length < configMaxMemoryRegions then
        let slot := z.regions.length
        match mmap z mem with
        | none => (-1, z)
        | some m =>
          -- the second look: with one thread that maps it sees what the first saw
          if slot ≠ z.regions.length then (-1, z)
          else mmapVirtioZoneMemory mmap mems (z.push mem m hf hroom)
      else (-1, z)

/-! ## 2. Buffers and regions -/

/-- `struct iovec`. -/
structure Iovec where
  iovBase : UInt64
  iovLen : UInt64
  deriving DecidableEq, Repr

/-- A host buffer lies wholly inside one mapped region. -/
def InRegion (rs : List ZoneMemRegion) (e : Iovec) : Prop :=
  ∃ r ∈ rs, r.virtAddr.toNat ≤ e.iovBase.toNat ∧
    e.iovBase.toNat + e.iovLen.toNat ≤ r.virtAddr.toNat + r.memSize.toNat

/-- A guest buffer starts in a region that ends below the top of the address
    space, and ends in it. -/
def Fits (rs : List ZoneMemRegion) (addr : UInt64) (len : Nat) : Prop :=
  ∃ r ∈ rs, r.zonexIpa.toNat + r.memSize.toNat < 2 ^ 64 ∧
    r.zonexIpa.toNat ≤ addr.toNat ∧ addr.toNat < r.zonexIpa.toNat + r.memSize.toNat ∧
    addr.toNat + len ≤ r.zonexIpa.toNat + r.memSize.toNat

instance (rs : List ZoneMemRegion) (e : Iovec) : Decidable (InRegion rs e) := by
  unfold InRegion
  infer_instance

instance (rs : List ZoneMemRegion) (addr : UInt64) (len : Nat) : Decidable (Fits rs addr len) := by
  unfold Fits
  infer_instance

section Translation

variable {zm : ZoneTable} {zoneId : Int} {addr : UInt64}

/-- The regions searched are those of one `ZoneMem`. -/
theorem zoneRegions_eq (zm : ZoneTable) (zoneId : Int) :
    ∃ z : ZoneMem, zoneRegions zm zoneId = z.regions := by
  unfold zoneRegions
  split
  · exact ⟨_, rfl⟩
  · exact ⟨.empty, rfl⟩

/-- No address belongs to two regions. -/
theorem region_unique {r r' : ZoneMemRegion} (hr : r ∈ zoneRegions zm zoneId)
    (hr' : r' ∈ zoneRegions zm zoneId) (h : inRange addr r.zonexIpa r.memSize = true)
    (h' : inRange addr r'.zonexIpa r'.memSize = true) : r = r' := by
  obtain ⟨z, hz⟩ := zoneRegions_eq zm zoneId
  rw [hz] at hr hr'
  by_contra hne
  have hsep := z.separate.forall hr hr' hne
  exact absurd (rangesOverlap_of_inRange h h') (by rw [hsep]; decide)

/-- The translation by the region that has the address. -/
theorem getVirtAddr_of_inRange {r : ZoneMemRegion} (hr : r ∈ zoneRegions zm zoneId)
    (h : inRange addr r.zonexIpa r.memSize = true) :
    getVirtAddr zm addr zoneId = addr - r.zonexIpa + r.virtAddr := by
  unfold getVirtAddr
  split
  · rename_i r' hfind
    have hin := List.find?_some hfind
    rw [region_unique (List.mem_of_find?_eq_some hfind) hr hin h]
  · rename_i hfind
    exact absurd h (List.find?_eq_none.mp hfind r hr)

/-- The translated address, in exact arithmetic. -/
theorem getVirtAddr_toNat {r : ZoneMemRegion} (hr : r ∈ zoneRegions zm zoneId)
    (h : inRange addr r.zonexIpa r.memSize = true) :
    (getVirtAddr zm addr zoneId).toNat = addr.toNat - r.zonexIpa.toNat + r.virtAddr.toNat := by
  obtain ⟨z, hz⟩ := zoneRegions_eq zm zoneId
  obtain ⟨-, hle, hlt⟩ := (inRange_iff _ _ _).mp h
  obtain ⟨-, hend⟩ := z.placed r (hz ▸ hr)
  rw [getVirtAddr_of_inRange hr h, UInt64.toNat_add,
    UInt64.toNat_sub_of_le _ _ (UInt64.le_iff_toNat_le.mpr hle)]
  exact Nat.mod_eq_of_lt (by omega)

/-- Only an address in no region translates to `NULL`. -/
theorem getVirtAddr_eq_zero :
    getVirtAddr zm addr zoneId = 0 ↔
      ∀ r ∈ zoneRegions zm zoneId, inRange addr r.zonexIpa r.memSize = false := by
  constructor
  · intro h0 r hr
    by_contra hin
    rw [Bool.not_eq_false] at hin
    obtain ⟨z, hz⟩ := zoneRegions_eq zm zoneId
    have hpos := (z.placed r (hz ▸ hr)).1
    have hnat := getVirtAddr_toNat hr hin
    rw [h0] at hnat
    have : (0 : UInt64).toNat = 0 := rfl
    omega
  · intro hall
    unfold getVirtAddr
    rw [List.find?_eq_none.mpr fun r hr => by simp [hall r hr]]

/-- **The translation is exact on whole buffers only where the guest's buffer
    fits**: it looks at the start alone, so a buffer that runs over the end of
    its region runs over the end of the mapping. -/
theorem inRegion_getVirtAddr {len : UInt64} :
    InRegion (zoneRegions zm zoneId) ⟨getVirtAddr zm addr zoneId, len⟩ ↔
      Fits (zoneRegions zm zoneId) addr len.toNat := by
  constructor
  · rintro ⟨r', hr', hlo, hhi⟩
    obtain ⟨z, hz⟩ := zoneRegions_eq zm zoneId
    have hpos := (z.placed r' (hz ▸ hr')).1
    have hne : getVirtAddr zm addr zoneId ≠ 0 := by
      intro h0
      rw [h0] at hlo
      have : (0 : UInt64).toNat = 0 := rfl
      simp only at hlo
      omega
    obtain ⟨r, hr, hin⟩ : ∃ r ∈ zoneRegions zm zoneId,
        inRange addr r.zonexIpa r.memSize = true := by
      by_contra hnone
      refine hne (getVirtAddr_eq_zero.mpr fun r hr => ?_)
      by_contra hin
      exact hnone ⟨r, hr, by simpa using hin⟩
    obtain ⟨hend, hle, hlt⟩ := (inRange_iff _ _ _).mp hin
    have hnat := getVirtAddr_toNat hr hin
    simp only [hnat] at hlo hhi
    refine ⟨r, hr, hend, hle, hlt, ?_⟩
    -- a non-empty buffer meets both mappings, so they are the same one
    by_cases heq : r = r'
    · subst heq
      omega
    · have hap := z.apart.forall (hz ▸ hr) (hz ▸ hr') heq
      rcases hap with hap | hap <;> omega
  · rintro ⟨r, hr, hend, hle, hlt, hlen⟩
    have hin : inRange addr r.zonexIpa r.memSize = true := (inRange_iff _ _ _).mpr ⟨hend, hle, hlt⟩
    refine ⟨r, hr, ?_, ?_⟩ <;> simp only [getVirtAddr_toNat hr hin] <;> omega

end Translation

/-- Zones of one page of guest memory at 0x1000, mapped at 0x10000. -/
def onePage : ZoneTable := fun _ =>
  { regions := [⟨0x10000, 0, 0x1000, 0x1000⟩], bound := by decide, placed := by decide,
    apart := by decide, separate := by decide }

end HvisorTool
