/-
  File:      HvisorTool/Virtio/Used.lean
  Subject:   COMPLETIONS: the used ring, `update_used_ring` and its batch version.

  The used ring is kept as a record of its own, beside guest memory.

  * `updateUsedRing`: one entry posted;
  * `updateUsedRingBatch_eq`: the batch version posts its entries one by one;
    `batchStores`: its stores, which stay below the size of the queue;
  * `CompletionQueue`: a queue with its used ring and the entries a handler has collected for the
    next batch; `CompletionQueue.view` is the used ring as it will be once they are posted;
  * `chainBufCall`: a device's call of `process_descriptor_chain_buf`, with the
    return value it tests.
-/
import HvisorTool.Virtio.ChainBuf

namespace HvisorTool

/-- `struct vring_used_elem`. -/
structure VirtqUsedElem where
  id : UInt32
  len : UInt32
  deriving DecidableEq, Repr, Inhabited

/-- `struct vring_used`, without its flags. -/
structure VirtqUsed where
  idx : UInt16
  ring : UInt16 → VirtqUsedElem

/-- A completion: the head index and the length. -/
abbrev Completion := UInt16 × UInt32

/-- `mask = vq->num - 1`, as the 16-bit variable of both functions. -/
def usedMask (num : UInt64) : UInt16 := (num - 1).toUInt16

/-- `update_used_ring`. -/
def updateUsedRing (num : UInt64) (used : VirtqUsed) (c : Completion) : VirtqUsed :=
  { idx := used.idx + 1
    ring := Function.update used.ring (used.idx &&& usedMask num) ⟨c.1.toUInt32, c.2⟩ }

/-- The loop of `update_used_ring_batch`, from entry `i` on. -/
def batchStore (num : UInt64) (usedIdx : UInt16) :
    Nat → List Completion → (UInt16 → VirtqUsedElem) → (UInt16 → VirtqUsedElem)
  | _, [], ring => ring
  | i, c :: cs, ring =>
    let slot := (usedIdx.toUInt64 + UInt64.ofNat i) &&& (usedMask num).toUInt64
    batchStore num usedIdx (i + 1) cs (Function.update ring slot.toUInt16 ⟨c.1.toUInt32, c.2⟩)

/-- `update_used_ring_batch`. -/
def updateUsedRingBatch (num : UInt64) (used : VirtqUsed) (cs : List Completion) : VirtqUsed :=
  if cs = [] then used
  else { idx := used.idx + UInt16.ofNat cs.length, ring := batchStore num used.idx 0 cs used.ring }

/-- Completions posted one by one. -/
def postAll (num : UInt64) (used : VirtqUsed) (cs : List Completion) : VirtqUsed :=
  cs.foldl (updateUsedRing num) used

variable (num : UInt64) (usedIdx : UInt16) (used : VirtqUsed)

theorem postAll_append (cs cs' : List Completion) :
    postAll num used (cs ++ cs') = postAll num (postAll num used cs) cs' :=
  List.foldl_append ..

theorem postAll_idx (cs : List Completion) :
    (postAll num used cs).idx = used.idx + UInt16.ofNat cs.length := by
  induction cs generalizing used with
  | nil => simp [postAll]
  | cons c cs ih =>
    have h := ih (updateUsedRing num used c)
    rw [postAll, List.foldl_cons, ← postAll, h, List.length_cons, UInt16.ofNat_add]
    show used.idx + 1 + UInt16.ofNat cs.length = _
    rw [UInt16.add_assoc, UInt16.add_comm 1]
    rfl

/-- The slot of the batch loop is the one `update_used_ring` would take. -/
theorem batch_slot (i : Nat) :
    ((usedIdx.toUInt64 + UInt64.ofNat i) &&& (usedMask num).toUInt64).toUInt16 =
      (usedIdx + UInt16.ofNat i) &&& usedMask num := by
  rw [UInt64.toUInt16_and, UInt64.toUInt16_add]
  simp

theorem batchStore_eq (i : Nat) (cs : List Completion) (ring : UInt16 → VirtqUsedElem) :
    batchStore num usedIdx i cs ring = (postAll num ⟨usedIdx + UInt16.ofNat i, ring⟩ cs).ring := by
  induction cs generalizing i ring with
  | nil => rfl
  | cons c cs ih =>
    rw [batchStore, ih, batch_slot, UInt16.ofNat_add, ← UInt16.add_assoc]
    rfl

/-- **The batch version posts its entries one by one.** -/
theorem updateUsedRingBatch_eq (cs : List Completion) :
    updateUsedRingBatch num used cs = postAll num used cs := by
  unfold updateUsedRingBatch
  split
  · rename_i h
    rw [h]
    rfl
  · have hidx := postAll_idx num used cs
    have hring := batchStore_eq num used.idx 0 cs used.ring
    have hz : used.idx + UInt16.ofNat 0 = used.idx := UInt16.add_zero _
    rw [hz] at hring
    rw [hring, ← hidx]

/-- The stores of the loop of `update_used_ring_batch`: the index into the ring, a
    `size_t`, and the entry. -/
def batchStores (num : UInt64) (usedIdx : UInt16) :
    Nat → List Completion → List (UInt64 × VirtqUsedElem)
  | _, [] => []
  | i, c :: cs =>
    ((usedIdx.toUInt64 + UInt64.ofNat i) &&& (usedMask num).toUInt64, ⟨c.1.toUInt32, c.2⟩) ::
      batchStores num usedIdx (i + 1) cs

/-- The loop makes these stores and no others. -/
theorem batchStore_stores (i : Nat) (cs : List Completion) (ring : UInt16 → VirtqUsedElem) :
    batchStore num usedIdx i cs ring =
      (batchStores num usedIdx i cs).foldl (fun ring s => Function.update ring s.1.toUInt16 s.2)
        ring := by
  induction cs generalizing i ring with
  | nil => rfl
  | cons c cs ih =>
    rw [batchStore, batchStores, List.foldl_cons]
    exact ih (i + 1) _

/-- A queue of 2^16 entries has a full mask. -/
theorem usedMask_lt {num : UInt64} (h₁ : 1 ≤ num.toNat) (h₂ : num.toNat ≤ 2 ^ 16) :
    (usedMask num).toNat < num.toNat := by
  have hone : (1 : UInt64).toNat = 1 := rfl
  have hsub : (num - 1).toNat = num.toNat - 1 :=
    UInt64.toNat_sub_of_le _ _ (UInt64.le_iff_toNat_le.mpr h₁)
  rw [usedMask, UInt64.toNat_toUInt16, hsub]
  omega

/-- Every store is at the mask or below. -/
theorem batchStores_le {num : UInt64} {usedIdx : UInt16} {i : Nat} {cs : List Completion}
    {s : UInt64 × VirtqUsedElem} (h : s ∈ batchStores num usedIdx i cs) :
    s.1.toNat ≤ (usedMask num).toNat := by
  induction cs generalizing i with
  | nil => cases h
  | cons c cs ih =>
    cases h with
    | head =>
      rw [UInt64.toNat_and]
      exact Nat.and_le_right
    | tail _ h => exact ih h

/-- **A batch is its completions one by one, inside the ring**: for every queue of 1 to 2^16
    entries, whatever the ring, its index and the batch, `update_used_ring_batch` leaves the
    entries and the index that `update_used_ring` leaves on the completions in order, and
    each of its stores is at an index below the size of the queue. -/
theorem batch_equals_one_by_one (num : UInt64) (used : VirtqUsed) (cs : List Completion)
    (h₁ : 1 ≤ num.toNat) (h₂ : num.toNat ≤ 2 ^ 16) :
    (updateUsedRingBatch num used cs).ring = (cs.foldl (updateUsedRing num) used).ring ∧
      (updateUsedRingBatch num used cs).idx = (cs.foldl (updateUsedRing num) used).idx ∧
      (updateUsedRingBatch num used cs).ring =
        (batchStores num used.idx 0 cs).foldl
          (fun ring s => Function.update ring s.1.toUInt16 s.2) used.ring ∧
      ∀ s ∈ batchStores num used.idx 0 cs, s.1.toNat < num.toNat := by
  have heq : updateUsedRingBatch num used cs = cs.foldl (updateUsedRing num) used :=
    updateUsedRingBatch_eq num used cs
  refine ⟨congrArg _ heq, congrArg _ heq, ?_, ?_⟩
  · rw [← batchStore_stores, updateUsedRingBatch]
    split
    · next h => rw [h, batchStore]
    · rfl
  · intro s hs
    exact lt_of_le_of_lt (batchStores_le hs) (usedMask_lt h₁ h₂)

/-- Three completions on a ring of three slots, across the wrap of the index. -/
theorem batch_equals_one_by_one_wrap :
    let used : VirtqUsed := ⟨65535, fun _ => default⟩
    let cs : List Completion := [(7, 1), (8, 2), (9, 3)]
    (updateUsedRingBatch 3 used cs).idx = 2 ∧ ∀ s ∈ batchStores 3 used.idx 0 cs, s.1.toNat < 3 :=
  ⟨by decide,
    (batch_equals_one_by_one 3 ⟨65535, fun _ => default⟩ [(7, 1), (8, 2), (9, 3)] (by decide)
      (by decide)).2.2.2⟩

/-! ## The queue a handler works on -/

/-- A queue, its used ring, and the completions collected for the next batch. -/
structure CompletionQueue where
  vq : VirtQueue
  used : VirtqUsed
  batch : List Completion

/-- The used ring once the collected completions are posted. -/
def CompletionQueue.view (q : CompletionQueue) : VirtqUsed := postAll q.vq.num q.used q.batch

/-- A call of `process_descriptor_chain_buf`: its return value, the request and
    the queue. On -1 the request is not filled and the queue is as it was. -/
def chainBufCall (zm : ZoneTable) (mem : Mem) (vq : VirtQueue) (cfg : VirtioBufConfig)
    (head : UInt16) : Except ChainError (Int × VirtioRequest × VirtQueue) :=
  match processDescriptorChainBuf zm mem vq cfg head with
  | .ok (req, vq') => .ok (req.count, req, vq')
  | .error .fail => .ok (-1, .empty, vq)
  | .error e => .error e

end HvisorTool
