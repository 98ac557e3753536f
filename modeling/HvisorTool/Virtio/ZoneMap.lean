/-
  File:      HvisorTool/Virtio/ZoneMap.lean
  Subject:   TRANSLATION OVER THE LIFE OF THE MAP: what `get_virt_addr` answers after
             any sequence of calls of `mmap_virtio_zone_memory`.

  A call may succeed, fail half-way or find its regions already mapped; it only ever
  appends regions, each of a size that is not 0.

  * `mmapVirtioZoneMemory_grows`: what one call does to a zone's regions;
  * `mapMachine`: calls for any zones in any order;
  * `getVirtAddr_cases`, `getVirtAddr_inj`, `getVirtAddr_perm`, `getVirtAddr_grown`: the
    translation is by the one region that has the address, is injective, does not depend
    on the order of the regions, and does not change while the map grows;
  * `zone_map_translation`: the law for every run.
-/
import HvisorTool.Library.Machine
import HvisorTool.Virtio.ZoneMem
import Mathlib.Data.List.Find

namespace HvisorTool

open Library

/-! ## 1. How a map grows -/

/-- **A call appends regions that are not empty**, whatever it returns. -/
theorem mmapVirtioZoneMemory_grows
    (mmap : (z : ZoneMem) → (mem : VirtioMemoryRegionConfig) → Option (Mapping z mem))
    (mems : List VirtioMemoryRegionConfig) (z : ZoneMem) :
    ∃ new, (mmapVirtioZoneMemory mmap mems z).2.regions = z.regions ++ new ∧
      ∀ r ∈ new, 0 < r.memSize.toNat := by
  induction mems generalizing z with
  | nil => exact ⟨[], (List.append_nil _).symm, fun r hr => absurd hr List.not_mem_nil⟩
  | cons mem mems ih =>
    have hsame : ∃ new, z.regions = z.regions ++ new ∧ ∀ r ∈ new, 0 < r.memSize.toNat :=
      ⟨[], (List.append_nil _).symm, fun r hr => absurd hr List.not_mem_nil⟩
    rw [mmapVirtioZoneMemory]
    split
    · exact ih z
    · exact hsame
    · next hf =>
      split
      · exact hsame
      · next hsize =>
        split
        · next hroom =>
          split
          · exact hsame
          · next m _ =>
            dsimp only
            split
            · exact hsame
            obtain ⟨new, hnew, hpos⟩ := ih (z.push mem m hf hroom)
            refine ⟨⟨m.virtAddr, mem.zone0Ipa, mem.zonexIpa, mem.size⟩ :: new, ?_, ?_⟩
            · rw [hnew]
              exact List.append_assoc ..
            · intro r hr
              rcases List.mem_cons.mp hr with rfl | hr
              · exact Nat.pos_of_ne_zero fun h => hsize (UInt64.toNat_inj.mp h)
              · exact hpos r hr
        · exact hsame

/-- One call of `mmap_virtio_zone_memory`, and how `mmap` answers in it. -/
structure MapCall where
  zoneId : Fin maxZones
  memoryRegions : List VirtioMemoryRegionConfig
  mmap : (z : ZoneMem) → (mem : VirtioMemoryRegionConfig) → Option (Mapping z mem)

def mapStep (zm : ZoneTable) (c : MapCall) : Option ZoneTable :=
  some fun i =>
    if i = c.zoneId then (mmapVirtioZoneMemory c.mmap c.memoryRegions (zm i)).2 else zm i

def mapMachine : Machine ZoneTable MapCall := ⟨mapStep⟩

/-- No zone has memory yet. -/
def noMemory : ZoneTable := fun _ => .empty

/-- Every zone keeps its regions in their places. -/
def Grown (zm zm' : ZoneTable) : Prop := ∀ i, (zm i).regions <+: (zm' i).regions

/-- No region is empty. -/
def Sized (zm : ZoneTable) : Prop := ∀ i, ∀ r ∈ (zm i).regions, 0 < r.memSize.toNat

variable {zm zm' : ZoneTable}

theorem mapStep_grown {c : MapCall} (hs : mapStep zm c = some zm') : Grown zm zm' := by
  cases hs
  intro i
  dsimp only
  split
  · obtain ⟨new, hnew, -⟩ := mmapVirtioZoneMemory_grows c.mmap c.memoryRegions (zm i)
    exact ⟨new, hnew.symm⟩
  · exact List.prefix_refl _

theorem mapStep_sized {c : MapCall} (h : Sized zm) (hs : mapStep zm c = some zm') : Sized zm' := by
  cases hs
  intro i r hr
  dsimp only at hr
  split at hr
  · obtain ⟨new, hnew, hpos⟩ := mmapVirtioZoneMemory_grows c.mmap c.memoryRegions (zm i)
    rw [hnew] at hr
    rcases List.mem_append.mp hr with hr | hr
    · exact h i r hr
    · exact hpos r hr
  · exact h i r hr

theorem grown_reach (h : mapMachine.Reach zm zm') : Grown zm zm' :=
  h.inv (Grown zm) (fun _ => List.prefix_refl _) fun _ _ _ hg _ hs i =>
    (hg i).trans (mapStep_grown hs i)

theorem sized_reach (h : mapMachine.Reach noMemory zm) : Sized zm :=
  h.inv Sized (fun _ _ hr => absurd hr List.not_mem_nil) fun _ _ _ hi _ hs =>
    mapStep_sized hi hs

/-! ## 2. The translation -/

section Translation

variable {zoneId : Int} {addr addr' : UInt64}

/-- The region has the address, by the test of `get_virt_addr`. -/
def ZoneMemRegion.Contains (r : ZoneMemRegion) (addr : UInt64) : Prop :=
  inRange addr r.zonexIpa r.memSize = true

/-- No address is in two regions of a zone, by position. -/
theorem contains_unique {i j : Nat} {r r' : ZoneMemRegion}
    (hi : (zoneRegions zm zoneId)[i]? = some r) (hj : (zoneRegions zm zoneId)[j]? = some r')
    (hr : r.Contains addr) (hr' : r'.Contains addr) : i = j := by
  obtain ⟨z, hz⟩ := zoneRegions_eq zm zoneId
  rw [hz] at hi hj
  have hlt : ∀ {i j : Nat} {r r' : ZoneMemRegion}, z.regions[i]? = some r →
      z.regions[j]? = some r' → r.Contains addr → r'.Contains addr → ¬ i < j := by
    intro i j r r' hi hj hr hr' hij
    obtain ⟨hil, ei⟩ := List.getElem?_eq_some_iff.mp hi
    obtain ⟨hjl, ej⟩ := List.getElem?_eq_some_iff.mp hj
    have hsep : ZoneMemRegion.Separate r r' := by
      rw [← ei, ← ej]
      exact List.pairwise_iff_getElem.mp z.separate i j hil hjl hij
    have hov := rangesOverlap_of_inRange hr hr'
    rw [hsep] at hov
    cases hov
  have h1 : ¬ i < j := hlt hi hj hr hr'
  have h2 : ¬ j < i := hlt hj hi hr' hr
  omega

/-- **The translation is by the one region that has the address**, in exact arithmetic,
    and `NULL` if none has it. -/
theorem getVirtAddr_cases (zm : ZoneTable) (zoneId : Int) (addr : UInt64) :
    (∃ r ∈ zoneRegions zm zoneId, r.Contains addr ∧
      (getVirtAddr zm addr zoneId).toNat = r.virtAddr.toNat + (addr.toNat - r.zonexIpa.toNat)) ∨
      ((∀ r ∈ zoneRegions zm zoneId, ¬ r.Contains addr) ∧ getVirtAddr zm addr zoneId = 0) := by
  by_cases hex : ∃ r ∈ zoneRegions zm zoneId, r.Contains addr
  · obtain ⟨r, hr, hin⟩ := hex
    refine .inl ⟨r, hr, hin, ?_⟩
    rw [getVirtAddr_toNat hr hin, Nat.add_comm]
  · have hnone : ∀ r ∈ zoneRegions zm zoneId, ¬ r.Contains addr := fun r hr hin =>
      hex ⟨r, hr, hin⟩
    refine .inr ⟨hnone, getVirtAddr_eq_zero.mpr fun r hr => ?_⟩
    exact Bool.eq_false_iff.mpr (hnone r hr)

/-- A translation that is not `NULL` comes from a region. -/
theorem contains_of_getVirtAddr_ne_zero (h : getVirtAddr zm addr zoneId ≠ 0) :
    ∃ r ∈ zoneRegions zm zoneId, r.Contains addr := by
  rcases getVirtAddr_cases zm zoneId addr with ⟨r, hr, hin, -⟩ | ⟨-, h0⟩
  · exact ⟨r, hr, hin⟩
  · exact absurd h0 h

/-- **Distinct addresses that translate have distinct host addresses.** -/
theorem getVirtAddr_inj (h : getVirtAddr zm addr zoneId ≠ 0)
    (he : getVirtAddr zm addr zoneId = getVirtAddr zm addr' zoneId) : addr = addr' := by
  obtain ⟨r, hr, hin⟩ := contains_of_getVirtAddr_ne_zero h
  obtain ⟨r', hr', hin'⟩ := contains_of_getVirtAddr_ne_zero (he ▸ h)
  have hnat := congrArg UInt64.toNat he
  rw [getVirtAddr_toNat hr hin, getVirtAddr_toNat hr' hin'] at hnat
  obtain ⟨-, hle, hlt⟩ := (inRange_iff _ _ _).mp hin
  obtain ⟨-, hle', hlt'⟩ := (inRange_iff _ _ _).mp hin'
  obtain ⟨z, hz⟩ := zoneRegions_eq zm zoneId
  -- the host address lies in both mappings, so they are the same one
  have heq : r = r' := by
    by_contra hne
    rcases z.apart.forall (hz ▸ hr) (hz ▸ hr') hne with hap | hap <;> omega
  subst heq
  exact UInt64.toNat_inj.mp (by omega)

/-- The zone's regions, up to order, decide the translation. -/
theorem getVirtAddr_perm (hp : (zoneRegions zm' zoneId).Perm (zoneRegions zm zoneId)) :
    getVirtAddr zm' addr zoneId = getVirtAddr zm addr zoneId := by
  have hfind : (zoneRegions zm' zoneId).find? (fun r => inRange addr r.zonexIpa r.memSize) =
      (zoneRegions zm zoneId).find? (fun r => inRange addr r.zonexIpa r.memSize) := by
    refine (List.find?_eq_find?_of_perm hp.symm ?_).symm
    intro r hr r' hr'
    exact region_unique hr.1 hr'.1 hr.2 hr'.2
  unfold getVirtAddr
  rw [hfind]

theorem zoneRegions_grown (h : Grown zm zm') (zoneId : Int) :
    zoneRegions zm zoneId <+: zoneRegions zm' zoneId := by
  unfold zoneRegions
  split
  · exact h _
  · exact List.prefix_refl _

/-- **A translation that succeeds stays what it is while the map grows.** -/
theorem getVirtAddr_grown (hg : Grown zm zm') (h : getVirtAddr zm addr zoneId ≠ 0) :
    getVirtAddr zm' addr zoneId = getVirtAddr zm addr zoneId := by
  obtain ⟨r, hr, hin⟩ := contains_of_getVirtAddr_ne_zero h
  have hr' : r ∈ zoneRegions zm' zoneId := (zoneRegions_grown hg zoneId).subset hr
  rw [getVirtAddr_of_inRange hr hin, getVirtAddr_of_inRange hr' hin]

end Translation

/-! ## 3. Runs -/

/-- **The zone memory map**: after any sequence of calls of `mmap_virtio_zone_memory`,
    whatever they return, every zone has at most `CONFIG_MAX_MEMORY_REGIONS` regions, none
    of them empty, and no address is in two of them; an address is translated by the one
    region that has it or to `NULL`, in whatever order the regions stand; distinct
    addresses that translate have distinct host addresses; and a translation that
    succeeded gives the same address after every later call. -/
theorem zone_map_translation (zm : ZoneTable) (h : mapMachine.Reach noMemory zm) :
    (∀ i, (zm i).regions.length ≤ configMaxMemoryRegions) ∧
    (∀ i, ∀ r ∈ (zm i).regions, 0 < r.memSize.toNat) ∧
    (∀ (zoneId : Int) (addr : UInt64) (i j : Nat) (r r' : ZoneMemRegion),
      (zoneRegions zm zoneId)[i]? = some r → (zoneRegions zm zoneId)[j]? = some r' →
      r.Contains addr → r'.Contains addr → i = j) ∧
    (∀ (zoneId : Int) (addr : UInt64),
      (∃ r ∈ zoneRegions zm zoneId, r.Contains addr ∧
        (getVirtAddr zm addr zoneId).toNat = r.virtAddr.toNat + (addr.toNat - r.zonexIpa.toNat)) ∨
        ((∀ r ∈ zoneRegions zm zoneId, ¬ r.Contains addr) ∧ getVirtAddr zm addr zoneId = 0)) ∧
    (∀ (zm' : ZoneTable) (zoneId : Int) (addr : UInt64),
      (zoneRegions zm' zoneId).Perm (zoneRegions zm zoneId) →
      getVirtAddr zm' addr zoneId = getVirtAddr zm addr zoneId) ∧
    (∀ (zoneId : Int) (addr addr' : UInt64), getVirtAddr zm addr zoneId ≠ 0 →
      addr ≠ addr' → getVirtAddr zm addr zoneId ≠ getVirtAddr zm addr' zoneId) ∧
    (∀ zm', mapMachine.Reach zm zm' → ∀ (zoneId : Int) (addr : UInt64),
      getVirtAddr zm addr zoneId ≠ 0 →
      getVirtAddr zm' addr zoneId = getVirtAddr zm addr zoneId) := by
  refine ⟨fun i => (zm i).bound, sized_reach h, ?_, getVirtAddr_cases zm, ?_, ?_, ?_⟩
  · intro zoneId addr i j r r' hi hj hr hr'
    exact contains_unique hi hj hr hr'
  · intro zm' zoneId addr hp
    exact getVirtAddr_perm hp
  · intro zoneId addr addr' hne haddr he
    exact haddr (getVirtAddr_inj hne he)
  · intro zm' hr zoneId addr hne
    exact getVirtAddr_grown (grown_reach hr) hne

/-- An `mmap` that always answers with the same address, where that keeps its promise. -/
def mmapAt (virtAddr : UInt64) (z : ZoneMem) (mem : VirtioMemoryRegionConfig) :
    Option (Mapping z mem) :=
  if h : (0 < virtAddr.toNat ∧ virtAddr.toNat + mem.size.toNat ≤ 2 ^ 64) ∧
      ∀ r ∈ z.regions, ZoneMemRegion.Apart r ⟨virtAddr, mem.zone0Ipa, mem.zonexIpa, mem.size⟩ then
    some ⟨virtAddr, h.1, h.2⟩
  else none

/-- Zone 1 with one page at 0x1000. -/
def firstPage : ZoneTable := fun i =>
  if i = ⟨1, by decide⟩ then
    (mmapVirtioZoneMemory (mmapAt 0x10000) [⟨0, 0x1000, 0x1000⟩] .empty).2
  else .empty

/-- A call that maps the next page and then fails at an empty region. -/
def secondPage : MapCall :=
  { zoneId := ⟨1, by decide⟩, memoryRegions := [⟨0x5000, 0x2000, 0x1000⟩, ⟨0, 0, 0⟩],
    mmap := mmapAt 0x20000 }

/-- An address of the first page is translated alike before and after the second call. -/
theorem zone_map_translation_secondPage :
    getVirtAddr firstPage 0x1004 1 = 0x10004 ∧
      ∀ zm', mapStep firstPage secondPage = some zm' → getVirtAddr zm' 0x1004 1 = 0x10004 := by
  have hfirst : mapMachine.Reach noMemory firstPage :=
    .step ⟨⟨1, by decide⟩, [⟨0, 0x1000, 0x1000⟩], mmapAt 0x10000⟩ .start trivial rfl
  have haddr : getVirtAddr firstPage 0x1004 1 = 0x10004 := by decide
  refine ⟨haddr, fun zm' hs => ?_⟩
  obtain ⟨-, -, -, -, -, -, hlater⟩ := zone_map_translation firstPage hfirst
  have hsame := hlater zm' (.step secondPage .start trivial hs) 1 0x1004 (by rw [haddr]; decide)
  exact hsame.trans haddr

end HvisorTool
