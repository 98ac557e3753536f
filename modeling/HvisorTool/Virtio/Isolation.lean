/-
  File:      HvisorTool/Virtio/Isolation.lean
  Subject:   DO THE BUFFERS A DEVICE GETS STAY INSIDE THE GUEST'S MEMORY?

  Three functions turn guest addresses into host buffers: the two chain walkers
  and the GPU's backing-store mapping. All translate the start of a buffer and
  take its length from the guest unchecked.

  * `buffers_isolated_iff_fit`: for each of the three, its entries are inside
    mapped regions exactly when the guest's own buffers fit into regions of
    its memory map (and, for the two-pass walker, fill the announced length);
  * `overrun_not_isolated`: a two-byte buffer at the last byte of a region.
-/
import HvisorTool.Virtio.Chain
import HvisorTool.Gpu.Mapping

namespace HvisorTool

section Isolation

variable {zm : ZoneTable} {mem : Mem} {vq : VirtQueue}

/-- One entry: the buffer of a descriptor. -/
theorem inRegion_iovec (d : VirtqDesc) :
    InRegion (vq.regions zm) (d.iovec zm vq) ↔ Fits (vq.regions zm) d.addr d.len.toNat := by
  have h : InRegion (vq.regions zm) (d.iovec zm vq) ↔
      Fits (vq.regions zm) d.addr d.len.toUInt64.toNat := inRegion_getVirtAddr
  rwa [UInt32.toNat_toUInt64] at h

/-- The entries of a request are the buffers it was built from. -/
theorem mem_entries_add {ds : List VirtqDesc} {e : Iovec} :
    e ∈ (VirtioRequest.empty.add zm vq ds).entries ↔ ∃ d ∈ ds, d.iovec zm vq = e := by
  simp only [VirtioRequest.entries, VirtioRequest.add, VirtioRequest.empty, List.nil_append,
    List.mem_append, List.mem_map, List.mem_filter, Bool.not_eq_true']
  constructor
  · intro h
    rcases h with ⟨d, hd, he⟩ | ⟨d, hd, he⟩ <;> exact ⟨d, hd.1, he⟩
  · intro h
    obtain ⟨d, hd, he⟩ := h
    cases hw : d.isWrite
    · exact Or.inl ⟨d, ⟨hd, hw⟩, he⟩
    · exact Or.inr ⟨d, ⟨hd, hw⟩, he⟩

theorem chainBuf_isolated_iff {cfg : VirtioBufConfig} {head : UInt16} {req : VirtioRequest}
    {vq' : VirtQueue} (h : processDescriptorChainBuf zm mem vq cfg head = .ok (req, vq')) :
    (∀ e ∈ req.entries, InRegion (vq.regions zm) e) ↔
      ∀ d, ChainItem.buffer d ∈ chainItems zm mem vq vq.num.toNat head →
        Fits (vq.regions zm) d.addr d.len.toNat := by
  obtain ⟨ds, hitems, -, rfl, -, -⟩ := processDescriptorChainBuf_ok_iff.mp h
  have hmem : ∀ d, ChainItem.buffer d ∈ chainItems zm mem vq vq.num.toNat head ↔ d ∈ ds := by
    intro d
    rw [hitems, List.mem_map]
    constructor
    · intro ⟨d', hd', he⟩
      cases he
      exact hd'
    · intro hd
      exact ⟨d, hd, rfl⟩
  constructor
  · intro hall d hd
    exact (inRegion_iovec d).mp (hall _ (mem_entries_add.mpr ⟨d, (hmem d).mp hd, rfl⟩))
  · intro hall e he
    obtain ⟨d, hd, rfl⟩ := mem_entries_add.mp he
    exact (inRegion_iovec d).mpr (hall d ((hmem d).mpr hd))

/-- A non-negative `int` is the word's value. -/
theorem asInt_of_nonneg {x : UInt32} (h : 0 ≤ asInt x) : asInt x = x.toNat := by
  rw [asInt_eq] at h ⊢
  have := x.toNat_lt
  split at h
  · rename_i hlt
    rw [if_pos hlt]
  · omega

theorem chain_isolated_iff {fuel : Nat} {appendLen : UInt32} {copyFlags : Bool} {r : ChainResult}
    (h : processDescriptorChain zm mem vq fuel appendLen copyFlags = .ok r) (hret : 0 ≤ r.ret) :
    (∀ i : Nat, (i : Int) < r.ret → ∃ s, r.arr i = some s ∧ InRegion (vq.regions zm) s.iov) ↔
      (vq.lastAvailIdx ≠ vq.availIdx mem → ∀ n, Announces mem vq (vq.availHead mem) n →
        ∀ i < n % 2 ^ 32, ∃ d, slotDesc zm mem vq i (vq.availHead mem) = some d ∧
          Fits (vq.regions zm) d.addr d.len.toNat) := by
  by_cases hnew : vq.lastAvailIdx = vq.availIdx mem
  · -- no request: nothing is handed out
    obtain rfl := processDescriptorChain_empty h hnew
    exact ⟨fun _ hn => absurd hnew hn, fun _ i hi => absurd hi (by simp)⟩
  · obtain ⟨n, hann, hn, -, -, hfill, hhole⟩ := processDescriptorChain_ok h hnew
    have hlen : r.ret = (n % 2 ^ 32 : Nat) := by
      rw [hn] at hret ⊢
      rw [asInt_of_nonneg hret, UInt32.toNat_ofNat']
    constructor
    · intro hall _ n' hann' i hi
      obtain rfl := hann.unique hann'
      have hi' : (i : Int) < r.ret := by omega
      cases hs : slotDesc zm mem vq i (vq.availHead mem) with
      | none =>
        obtain ⟨k, hk, hnone⟩ := hhole i hi' hs
        obtain ⟨s, hsome, -⟩ := hall k hk
        rw [hnone] at hsome
        cases hsome
      | some d =>
        obtain ⟨s, hsome, hin⟩ := hall i hi'
        rw [hfill i d hi' hs] at hsome
        cases hsome
        exact ⟨d, rfl, (inRegion_iovec d).mp hin⟩
    · intro hall i hi
      obtain ⟨d, hs, hfit⟩ := hall hnew n hann i (by omega)
      exact ⟨_, hfill i d hi hs, (inRegion_iovec d).mpr hfit⟩

theorem mapping_isolated_iff {zoneId : UInt32} {respIov : List Iovec} {nrEntries offset : UInt32}
    {reallocOk : Nat → Bool} {iov : List Iovec}
    (h : createMappingIov zm mem zoneId respIov nrEntries offset reallocOk = .ok (some iov)) :
    (∀ e ∈ iov, InRegion (zoneRegions zm (asInt zoneId)) e) ↔
      ∀ e ∈ guestEntries mem respIov nrEntries offset,
        Fits (zoneRegions zm (asInt zoneId)) e.addr e.length.toNat := by
  rw [createMappingIov_eq h, List.forall_mem_map]
  refine forall₂_congr fun e _ => ?_
  rw [inRegion_getVirtAddr, UInt32.toNat_toUInt64]

end Isolation

/-- **The buffers a device gets are inside mapped regions exactly when the
    guest's buffers fit into the regions of its memory map.** For the two-pass
    walker every slot below the announced length has to be filled as well. -/
theorem buffers_isolated_iff_fit (zm : ZoneTable) (mem : Mem) (vq : VirtQueue) :
    (∀ cfg head req vq', processDescriptorChainBuf zm mem vq cfg head = .ok (req, vq') →
      ((∀ e ∈ req.entries, InRegion (vq.regions zm) e) ↔
        ∀ d, ChainItem.buffer d ∈ chainItems zm mem vq vq.num.toNat head →
          Fits (vq.regions zm) d.addr d.len.toNat)) ∧
    (∀ fuel appendLen copyFlags r,
      processDescriptorChain zm mem vq fuel appendLen copyFlags = .ok r → 0 ≤ r.ret →
      ((∀ i : Nat, (i : Int) < r.ret → ∃ s, r.arr i = some s ∧ InRegion (vq.regions zm) s.iov) ↔
        (vq.lastAvailIdx ≠ vq.availIdx mem → ∀ n, Announces mem vq (vq.availHead mem) n →
          ∀ i < n % 2 ^ 32, ∃ d, slotDesc zm mem vq i (vq.availHead mem) = some d ∧
            Fits (vq.regions zm) d.addr d.len.toNat))) ∧
    (∀ zoneId respIov nrEntries offset reallocOk iov,
      createMappingIov zm mem zoneId respIov nrEntries offset reallocOk = .ok (some iov) →
      ((∀ e ∈ iov, InRegion (zoneRegions zm (asInt zoneId)) e) ↔
        ∀ e ∈ guestEntries mem respIov nrEntries offset,
          Fits (zoneRegions zm (asInt zoneId)) e.addr e.length.toNat)) :=
  ⟨fun _ _ _ _ h => chainBuf_isolated_iff h, fun _ _ _ _ h hret => chain_isolated_iff h hret,
    fun _ _ _ _ _ _ h => mapping_isolated_iff h⟩

/-! ## A buffer over the end of its region -/

/-- In the guest's one page: a descriptor table with one buffer of `len` bytes at guest
    address 0x1FFF, and an available ring at 0x10100 with one request. -/
def lastByteMem (len : UInt8) : Mem := fun a =>
  if a = 0x10000 then 0xFF else if a = 0x10001 then 0x1F else if a = 0x10008 then len
  else if a = 0x10102 then 1 else 0

def oneEntryQueue : VirtQueue :=
  { (default : VirtQueue) with num := 1, descTable := 0x10000, availRing := 0x10100 }

/-- **Both walkers hand out a buffer that ends behind its region.** -/
theorem overrun_not_isolated :
    (∃ req vq', processDescriptorChainBuf onePage (lastByteMem 2) oneEntryQueue ⟨1, 1⟩ 0 =
        .ok (req, vq') ∧ ∃ e ∈ req.entries, ¬ InRegion (oneEntryQueue.regions onePage) e) ∧
    (∃ r, processDescriptorChain onePage (lastByteMem 2) oneEntryQueue 2 0 true = .ok r ∧
      r.ret = 1 ∧ ∃ s, r.arr 0 = some s ∧ ¬ InRegion (oneEntryQueue.regions onePage) s.iov) := by
  refine ⟨⟨⟨[⟨0x10FFF, 2⟩], []⟩, _, rfl, ⟨0x10FFF, 2⟩, ?_, ?_⟩, ⟨_, rfl, rfl, _, rfl, ?_⟩⟩
  · exact List.mem_singleton.mpr rfl
  · decide
  · decide

/-- With a length of one byte the same buffer stays inside. -/
theorem buffers_isolated_lastByte :
    ∃ req vq', processDescriptorChainBuf onePage (lastByteMem 1) oneEntryQueue ⟨1, 1⟩ 0 =
        .ok (req, vq') ∧ ∀ e ∈ req.entries, InRegion (oneEntryQueue.regions onePage) e := by
  have hok : processDescriptorChainBuf onePage (lastByteMem 1) oneEntryQueue ⟨1, 1⟩ 0 =
      .ok (⟨[⟨0x10FFF, 1⟩], []⟩, oneEntryQueue.advance) := rfl
  refine ⟨_, _, hok, ((buffers_isolated_iff_fit _ _ _).1 _ _ _ _ hok).mpr fun d hd => ?_⟩
  have hitems : chainItems onePage (lastByteMem 1) oneEntryQueue oneEntryQueue.num.toNat 0 =
      [.buffer ⟨0x1FFF, 1, 0, 0⟩] := by decide
  rw [hitems, List.mem_singleton] at hd
  cases hd
  decide

end HvisorTool
