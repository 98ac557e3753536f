/-
  File:      HvisorTool/Virtio/Chain.lean
  Subject:   THE TWO-PASS CHAIN WALKER `process_descriptor_chain`.

  The first pass counts the chain into `chain_len`, the second fills an array of that many entries
  (and `append_len` more for the caller). The two passes follow the chain by different rules, and
  neither translation nor the array's size is checked.

  * `processDescriptorChain`: the walker, loop by loop. Neither loop has a bound
    of its own (an indirect descriptor does not count against `num`), so both
    run on fuel; a store behind the array is `ChainError.overrun`;
  * `Announces`: the length a chain announces, read off the guest's tables;
  * `slotDesc`: the descriptor that a slot of the array is for: the direct
    descriptors up to the first indirect one, then the chain in its table;
  * `countLoop_announces`, `copyLoop_slots`: the passes compute these;
    `processDescriptorChain_passes`: a walk as its two passes;
  * `HasBuffers`, `chain_walk`: the chains for which the return value is positive.
-/
import HvisorTool.Library.Outcome
import HvisorTool.Virtio.ChainBuf

namespace HvisorTool

open Library

/-- One slot of the arrays `iov` and `flags`; no flags unless `copy_flags`. -/
structure IovSlot where
  iov : Iovec
  flags : Option UInt16
  deriving DecidableEq, Repr

/-- The arrays the walker allocates; `none` is a slot never stored to. -/
abbrev IovArray := Nat → Option IovSlot

def freshArray : IovArray := fun _ => none

/-- What a descriptor leaves in its slot. -/
def VirtqDesc.slot (zm : ZoneTable) (vq : VirtQueue) (copyFlags : Bool) (d : VirtqDesc) : IovSlot :=
  { iov := d.iovec zm vq, flags := if copyFlags then some d.flags else none }

/-- What `process_descriptor_chain` leaves: the return value, the head (if there
    was a request), the arrays and the queue. -/
structure ChainResult where
  ret : Int
  descIdx : Option UInt16
  arr : IovArray
  vq : VirtQueue

/-! ## 1. The walker -/

section Walker

variable (zm : ZoneTable) (mem : Mem) (vq : VirtQueue)

/-- The first pass, from the loop's test on: `chain_len` and `i` at its end. -/
def countLoop : Nat → Int → UInt16 → UInt32 → Except ChainError (UInt32 × Int)
  | 0, _, _, _ => .error .outOfFuel
  | fuel + 1, i, next, chainLen =>
    if i < asInt vq.num.toUInt32 then
      if vq.descTable = 0 then .error .segv
      else
        let vdesc := readDesc mem vq.descTable next
        -- an indirect descriptor counts its table, and takes back the loop's `i++`
        let chainLen := if vdesc.isIndirect then chainLen + vdesc.tableLen else chainLen
        let i := if vdesc.isIndirect then i - 1 else i
        if vdesc.hasNext then countLoop fuel (i + 1) vdesc.next chainLen
        else .ok (chainLen, i)
    else .ok (chainLen, i)

/-- `descriptor2iov`, into arrays of `cap` slots. -/
def descriptor2iov (cap : Int) (copyFlags : Bool) (i : Nat) (vd : VirtqDesc) (arr : IovArray) :
    Except ChainError IovArray :=
  if (i : Int) < cap then .ok (Function.update arr i (some (vd.slot zm vq copyFlags)))
  else .error .overrun

/-- The inner loop of the second pass: the chain in an indirect table, to its
    end. The arrays, the next slot and what is left of `table_len`. -/
def copyIndirect (cap : Int) (copyFlags : Bool) (indTable : UInt64) :
    Nat → Nat → UInt16 → Int → IovArray → Except ChainError (IovArray × Nat × Int)
  | 0, _, _, _, _ => .error .outOfFuel
  | fuel + 1, i, next, tableLen, arr =>
    if indTable = 0 then .error .segv
    else do
      let indDesc := readDesc mem indTable next
      let arr ← descriptor2iov zm vq cap copyFlags i indDesc arr
      if indDesc.hasNext then
        copyIndirect cap copyFlags indTable fuel (i + 1) indDesc.next (tableLen - 1) arr
      else .ok (arr, i + 1, tableLen - 1)

/-- The second pass, from the loop's test on. -/
def copyLoop (cap : Int) (copyFlags : Bool) (chainLen : Int) :
    Nat → Nat → UInt16 → IovArray → Except ChainError IovArray
  | 0, _, _, _ => .error .outOfFuel
  | fuel + 1, i, next, arr =>
    if (i : Int) < chainLen then
      if vq.descTable = 0 then .error .segv
      else
        let vdesc := readDesc mem vq.descTable next
        if vdesc.isIndirect then do
          let (arr, i, tableLen) ← copyIndirect zm mem vq cap copyFlags
            (vq.translate zm vdesc.addr) fuel i 0 vdesc.tableLen.toNat arr
          -- a table whose chain is shorter or longer than its length ends the pass
          if tableLen ≠ 0 then .ok arr
          else copyLoop cap copyFlags chainLen fuel (i + 1) vdesc.next arr
        else do
          let arr ← descriptor2iov zm vq cap copyFlags i vdesc arr
          copyLoop cap copyFlags chainLen fuel (i + 1) vdesc.next arr
    else .ok arr

/-- `process_descriptor_chain`. -/
def processDescriptorChain (fuel : Nat) (appendLen : UInt32) (copyFlags : Bool) :
    Except ChainError ChainResult :=
  if vq.availRing = 0 then .error .segv
  else if vq.lastAvailIdx = vq.availIdx mem then .ok ⟨0, none, freshArray, vq⟩
  else do
    let descIdx := vq.availHead mem
    let (chainLen, i) ← countLoop mem vq fuel 0 descIdx 0
    let chainLen := chainLen + UInt32.ofInt (i + 1)
    let arr ← copyLoop zm mem vq (asInt (chainLen + appendLen)) copyFlags (asInt chainLen) fuel 0
      descIdx freshArray
    .ok ⟨asInt chainLen, some descIdx, arr, vq.advance⟩

end Walker

/-! ## 2. The length a chain announces -/

section Announced

variable (mem : Mem) (vq : VirtQueue) (head : UInt16)

/-- The index of the `k`-th descriptor behind the head. -/
def chainIndex : Nat → UInt16
  | 0 => head
  | k + 1 => (readDesc mem vq.descTable (chainIndex k)).next

/-- The `k`-th descriptor of the chain. -/
def chainDesc (k : Nat) : VirtqDesc := readDesc mem vq.descTable (chainIndex mem vq head k)

/-- How many of the first `k` descriptors are buffers themselves. -/
def directs : Nat → Nat
  | 0 => 0
  | k + 1 => directs k + if (chainDesc mem vq head k).isIndirect then 0 else 1

/-- The sum of the table lengths of the indirect ones among the first `k`. -/
def tables : Nat → Nat
  | 0 => 0
  | k + 1 => tables k +
      if (chainDesc mem vq head k).isIndirect then (chainDesc mem vq head k).tableLen.toNat else 0

/-- **The chain announces `n` buffers**: counting every direct descriptor as one
    and every indirect one as its table's length, up to the first descriptor
    without NEXT; or, if `num` direct ones come before that, one more than these. -/
def Announces (n : Nat) : Prop :=
  ∃ k, (∀ j < k, (chainDesc mem vq head j).hasNext = true ∧
      (directs mem vq head j : Int) < asInt vq.num.toUInt32) ∧
    ((asInt vq.num.toUInt32 ≤ directs mem vq head k ∧
        n = tables mem vq head k + directs mem vq head k + 1) ∨
      ((directs mem vq head k : Int) < asInt vq.num.toUInt32 ∧
        (chainDesc mem vq head k).hasNext = false ∧
        n = tables mem vq head (k + 1) + directs mem vq head (k + 1)))

variable {mem vq head}

/-- A chain announces one length. -/
theorem Announces.unique {n n' : Nat} (h : Announces mem vq head n)
    (h' : Announces mem vq head n') : n = n' := by
  obtain ⟨k, hprev, hend⟩ := h
  obtain ⟨k', hprev', hend'⟩ := h'
  -- the count goes on behind every earlier descriptor, and stops at this one
  have hk : ¬ k < k' := by
    intro hlt
    obtain ⟨hn, hd⟩ := hprev' k hlt
    rcases hend with ⟨h1, -⟩ | ⟨-, h2, -⟩
    · omega
    · rw [hn] at h2
      cases h2
  have hk' : ¬ k' < k := by
    intro hlt
    obtain ⟨hn, hd⟩ := hprev k' hlt
    rcases hend' with ⟨h1, -⟩ | ⟨-, h2, -⟩
    · omega
    · rw [hn] at h2
      cases h2
  obtain rfl : k = k' := by omega
  rcases hend with ⟨h1, rfl⟩ | ⟨h1, -, rfl⟩ <;>
    rcases hend' with ⟨h2, rfl⟩ | ⟨h2, -, rfl⟩ <;> omega

theorem ofInt_natCast (n : Nat) : UInt32.ofInt (n : Int) = UInt32.ofNat n := by
  apply UInt32.toNat.inj
  simp [UInt32.ofInt]
  omega

/-- **The first pass counts what the chain announces**, modulo 2^32. -/
theorem countLoop_announces {fuel k : Nat} {chainLen : UInt32} {i : Int}
    (hprev : ∀ j < k, (chainDesc mem vq head j).hasNext = true ∧
      (directs mem vq head j : Int) < asInt vq.num.toUInt32)
    (h : countLoop mem vq fuel (directs mem vq head k) (chainIndex mem vq head k)
      (UInt32.ofNat (tables mem vq head k)) = .ok (chainLen, i)) :
    ∃ n, Announces mem vq head n ∧ chainLen + UInt32.ofInt (i + 1) = UInt32.ofNat n := by
  induction fuel generalizing k with
  | zero => cases h
  | succ fuel ih =>
    unfold countLoop at h
    split at h
    · rename_i hlt
      split at h
      · cases h
      · have hprev' : (chainDesc mem vq head k).hasNext = true → ∀ j < k + 1,
            (chainDesc mem vq head j).hasNext = true ∧
              (directs mem vq head j : Int) < asInt vq.num.toUInt32 := by
          intro hn j hj
          rcases Nat.lt_succ_iff_lt_or_eq.mp hj with hj | rfl
          · exact hprev j hj
          · exact ⟨hn, hlt⟩
        have hd : readDesc mem vq.descTable (chainIndex mem vq head k) =
          chainDesc mem vq head k := rfl
        have hidx : (chainDesc mem vq head k).next = chainIndex mem vq head (k + 1) := rfl
        -- what the descriptor adds to the two counts
        have hlen : (if (chainDesc mem vq head k).isIndirect = true then
            UInt32.ofNat (tables mem vq head k) + (chainDesc mem vq head k).tableLen
            else UInt32.ofNat (tables mem vq head k)) =
            UInt32.ofNat (tables mem vq head (k + 1)) := by
          rw [tables]
          split <;> simp [UInt32.ofNat_add]
        have hi : (if (chainDesc mem vq head k).isIndirect = true then
            (directs mem vq head k : Int) - 1 else directs mem vq head k) + 1 =
            directs mem vq head (k + 1) := by
          rw [directs]
          split <;> push_cast <;> omega
        simp only [hd, hlen, hi, hidx] at h
        split at h
        · rename_i hn
          exact ih (hprev' hn) h
        · rename_i hn
          cases h
          refine ⟨_, ⟨k, hprev, Or.inr ⟨hlt, by simpa using hn, rfl⟩⟩, ?_⟩
          rw [hi, ofInt_natCast, ← UInt32.ofNat_add]
    · rename_i hge
      cases h
      refine ⟨_, ⟨k, hprev, Or.inl ⟨by omega, rfl⟩⟩, ?_⟩
      rw [Nat.add_assoc, UInt32.ofNat_add, ← ofInt_natCast (_ + 1)]
      rfl

end Announced

/-! ## 3. What the slots are for -/

section Slots

/-- The `j`-th descriptor of the chain in an indirect table, if it is that long. -/
def indSlot (mem : Mem) (indTable : UInt64) : Nat → UInt16 → Option VirtqDesc
  | 0, next => some (readDesc mem indTable next)
  | j + 1, next =>
    let d := readDesc mem indTable next
    if d.hasNext then indSlot mem indTable j d.next else none

/-- **The descriptor that slot `i` is for**, if any. -/
def slotDesc (zm : ZoneTable) (mem : Mem) (vq : VirtQueue) : Nat → UInt16 → Option VirtqDesc
  | i, next =>
    let d := readDesc mem vq.descTable next
    if d.isIndirect then indSlot mem (vq.translate zm d.addr) i 0
    else
      match i with
      | 0 => some d
      | i + 1 => slotDesc zm mem vq i d.next

variable {zm : ZoneTable} {mem : Mem} {vq : VirtQueue} {cap : Int} {copyFlags : Bool}
  {next : UInt16} {i fuel : Nat} {appendLen : UInt32}

theorem slotDesc_indirect (h : (readDesc mem vq.descTable next).isIndirect = true) (i : Nat) :
    slotDesc zm mem vq i next =
      indSlot mem (vq.translate zm (readDesc mem vq.descTable next).addr) i 0 := by
  cases i <;> simp only [slotDesc, h, if_true]

variable {arr arr' : IovArray}

theorem descriptor2iov_ok {vd : VirtqDesc}
    (h : descriptor2iov zm vq cap copyFlags i vd arr = .ok arr') :
    (i : Int) < cap ∧ arr' = Function.update arr i (some (vd.slot zm vq copyFlags)) := by
  unfold descriptor2iov at h
  split at h
  · rename_i hlt
    cases h
    exact ⟨hlt, rfl⟩
  · cases h

variable {tableLen tableLen' chainLen : Int}

/-- The inner loop fills one slot for each descriptor of the table's chain, and no other. -/
theorem copyIndirect_slots {indTable : UInt64} {i' : Nat}
    (h : copyIndirect zm mem vq cap copyFlags indTable fuel i next tableLen arr =
      .ok (arr', i', tableLen')) :
    i < i' ∧
    (∀ j, i + j < i' → ∃ d, indSlot mem indTable j next = some d ∧
      arr' (i + j) = some (d.slot zm vq copyFlags)) ∧
    (∀ j, i' ≤ i + j → indSlot mem indTable j next = none) ∧
    (∀ k, k < i ∨ i' ≤ k → arr' k = arr k) := by
  induction fuel generalizing i next tableLen arr with
  | zero => cases h
  | succ fuel ih =>
    unfold copyIndirect at h
    split at h
    · cases h
    · obtain ⟨arr₁, h₁, h⟩ := bind_eq_ok.mp h
      obtain ⟨-, rfl⟩ := descriptor2iov_ok h₁
      split at h
      · rename_i hn
        obtain ⟨hlt, hfill, hend, hframe⟩ := ih h
        refine ⟨by omega, fun j hj => ?_, fun j hj => ?_, fun k hk => ?_⟩
        · cases j with
          | zero =>
            refine ⟨_, rfl, ?_⟩
            rw [Nat.add_zero, hframe i (Or.inl (Nat.lt_succ_self i)), Function.update_self]
          | succ j =>
            obtain ⟨d, hd, hs⟩ := hfill j (by omega)
            have e : i + (j + 1) = i + 1 + j := by omega
            refine ⟨d, ?_, e ▸ hs⟩
            rw [indSlot, if_pos hn, hd]
        · obtain ⟨j, rfl⟩ : ∃ j', j = j' + 1 := ⟨j - 1, by omega⟩
          rw [indSlot, if_pos hn, hend j (by omega)]
        · rw [hframe k (by omega), Function.update_of_ne (by omega)]
      · rename_i hn
        cases h
        refine ⟨Nat.lt_succ_self i, fun j hj => ?_, fun j hj => ?_, fun k hk => ?_⟩
        · obtain rfl : j = 0 := by omega
          exact ⟨_, rfl, by rw [Nat.add_zero, Function.update_self]⟩
        · obtain ⟨j, rfl⟩ : ∃ j', j = j' + 1 := ⟨j - 1, by omega⟩
          rw [indSlot, if_neg hn]
        · exact Function.update_of_ne (by omega) ..

/-- From slot `i` on, `arr'` has the descriptors of the chain at `next`; and if a slot
    below `chainLen` is for none, some slot is as in `arr`. -/
structure Filled (zm : ZoneTable) (mem : Mem) (vq : VirtQueue) (copyFlags : Bool)
    (chainLen : Int) (i : Nat) (next : UInt16) (arr arr' : IovArray) : Prop where
  frame : ∀ k < i, arr' k = arr k
  fill : ∀ (j : Nat) d, (i + j : Int) < chainLen → slotDesc zm mem vq j next = some d →
    arr' (i + j) = some (d.slot zm vq copyFlags)
  hole : ∀ j : Nat, (i + j : Int) < chainLen → slotDesc zm mem vq j next = none →
    ∃ k, i ≤ k ∧ (k : Int) < chainLen ∧ arr' k = arr k

/-- A direct descriptor takes its own slot, the rest of the chain the slots after it. -/
theorem Filled.direct
    (hind : (readDesc mem vq.descTable next).isIndirect = false)
    (h : Filled zm mem vq copyFlags chainLen (i + 1) (readDesc mem vq.descTable next).next
      (Function.update arr i (some ((readDesc mem vq.descTable next).slot zm vq copyFlags)))
      arr') :
    Filled zm mem vq copyFlags chainLen i next arr arr' := by
  refine ⟨fun k hk => ?_, fun j d hj hd => ?_, fun j hj hd => ?_⟩
  · rw [h.frame k (by omega), Function.update_of_ne (by omega)]
  · cases j with
    | zero =>
      simp only [slotDesc, hind, Bool.false_eq_true, if_false, Option.some.injEq] at hd
      subst hd
      rw [Nat.add_zero, h.frame i (Nat.lt_succ_self i), Function.update_self]
    | succ j =>
      simp only [slotDesc, hind, Bool.false_eq_true, if_false] at hd
      have hs := h.fill j d (by push_cast at hj ⊢; omega) hd
      rwa [Nat.add_right_comm] at hs
  · cases j with
    | zero => simp [slotDesc, hind] at hd
    | succ j =>
      simp only [slotDesc, hind, Bool.false_eq_true, if_false] at hd
      obtain ⟨k, hk, hkn, hs⟩ := h.hole j (by push_cast at hj ⊢; omega) hd
      refine ⟨k, by omega, hkn, ?_⟩
      rw [hs, Function.update_of_ne (by omega)]

/-- An indirect descriptor's table takes the slots up to `i'`; what comes later leaves
    these and the next one alone. -/
theorem Filled.indirect {i' : Nat} {arr₁ : IovArray}
    (hind : (readDesc mem vq.descTable next).isIndirect = true)
    (h : copyIndirect zm mem vq cap copyFlags
      (vq.translate zm (readDesc mem vq.descTable next).addr) fuel i 0 tableLen arr =
        .ok (arr₁, i', tableLen'))
    (hkeep : ∀ k ≤ i', arr' k = arr₁ k) :
    Filled zm mem vq copyFlags chainLen i next arr arr' := by
  obtain ⟨hlt, hfill, hend, hframe⟩ := copyIndirect_slots h
  refine ⟨fun k hk => ?_, fun j d hj hd => ?_, fun j hj hd => ?_⟩
  · rw [hkeep k (by omega), hframe k (Or.inl hk)]
  · rw [slotDesc_indirect hind] at hd
    have hj' : i + j < i' := by
      by_contra hge
      rw [hend j (by omega)] at hd
      cases hd
    obtain ⟨d', hd', hs⟩ := hfill j hj'
    rw [hd'] at hd
    cases hd
    rw [hkeep _ (by omega), hs]
  · rw [slotDesc_indirect hind] at hd
    have hge : i' ≤ i + j := by
      by_contra hj'
      obtain ⟨d', hd', -⟩ := hfill j (by omega)
      rw [hd'] at hd
      cases hd
    refine ⟨i', by omega, by omega, ?_⟩
    rw [hkeep i' (Nat.le_refl _), hframe i' (Or.inr (Nat.le_refl _))]

/-- **The second pass fills each slot with the descriptor it is for.** -/
theorem copyLoop_slots (h : copyLoop zm mem vq cap copyFlags chainLen fuel i next arr = .ok arr') :
    Filled zm mem vq copyFlags chainLen i next arr arr' := by
  induction fuel generalizing i next arr with
  | zero => cases h
  | succ fuel ih =>
    unfold copyLoop at h
    split at h
    · split at h
      · cases h
      · cases hind : (readDesc mem vq.descTable next).isIndirect
        · simp only [hind, Bool.false_eq_true, if_false] at h
          obtain ⟨arr₁, h₁, h⟩ := bind_eq_ok.mp h
          obtain ⟨-, rfl⟩ := descriptor2iov_ok h₁
          exact (ih h).direct hind
        · simp only [hind, if_true] at h
          obtain ⟨⟨arr₁, i', tableLen⟩, h₁, h⟩ := bind_eq_ok.mp h
          refine Filled.indirect hind h₁ ?_
          simp only at h
          split at h
          · cases h
            exact fun _ _ => rfl
          · exact fun k hk => (ih h).frame k (by omega)
    · rename_i hge
      cases h
      exact ⟨fun _ _ => rfl, fun j _ hj => by omega, fun j hj => by omega⟩

variable {r : ChainResult}

/-- Without a request the walk returns 0 and leaves the queue. -/
theorem processDescriptorChain_empty
    (h : processDescriptorChain zm mem vq fuel appendLen copyFlags = .ok r)
    (hempty : vq.lastAvailIdx = vq.availIdx mem) : r = ⟨0, none, freshArray, vq⟩ := by
  unfold processDescriptorChain at h
  rw [if_pos hempty] at h
  split at h
  · cases h
  · cases h
    rfl

/-- The two passes behind a walk: the first counts what the chain announces, the second fills
    an array of that size. -/
theorem processDescriptorChain_passes
    (h : processDescriptorChain zm mem vq fuel appendLen copyFlags = .ok r)
    (hnew : vq.lastAvailIdx ≠ vq.availIdx mem) :
    ∃ n count arr, Announces mem vq (vq.availHead mem) n ∧
      countLoop mem vq fuel 0 (vq.availHead mem) 0 = .ok count ∧
      copyLoop zm mem vq (asInt (UInt32.ofNat n + appendLen)) copyFlags (asInt (UInt32.ofNat n)) fuel 0
        (vq.availHead mem) freshArray = .ok arr ∧
      r = ⟨asInt (UInt32.ofNat n), some (vq.availHead mem), arr, vq.advance⟩ := by
  unfold processDescriptorChain at h
  rw [if_neg hnew] at h
  split at h
  · cases h
  · obtain ⟨⟨chainLen, i⟩, hcount, h⟩ := bind_eq_ok.mp h
    obtain ⟨arr, hcopy, h⟩ := bind_eq_ok.mp h
    obtain ⟨n, hann, hn⟩ :=
      countLoop_announces (k := 0) (fun j hj => absurd hj (Nat.not_lt_zero j)) hcount
    simp only [hn] at h hcopy
    cases h
    exact ⟨n, _, arr, hann, hcount, hcopy, rfl⟩

/-- **What `process_descriptor_chain` returns** for an available request: the
    announced length as an `int`, and arrays that hold, below that length, the
    descriptors their slots are for, or have a hole. -/
theorem processDescriptorChain_ok
    (h : processDescriptorChain zm mem vq fuel appendLen copyFlags = .ok r)
    (hnew : vq.lastAvailIdx ≠ vq.availIdx mem) :
    ∃ n, Announces mem vq (vq.availHead mem) n ∧ r.ret = asInt (UInt32.ofNat n) ∧
      r.descIdx = some (vq.availHead mem) ∧ r.vq = vq.advance ∧
      (∀ (j : Nat) d, (j : Int) < r.ret → slotDesc zm mem vq j (vq.availHead mem) = some d →
        r.arr j = some (d.slot zm vq copyFlags)) ∧
      (∀ j : Nat, (j : Int) < r.ret → slotDesc zm mem vq j (vq.availHead mem) = none →
        ∃ k : Nat, (k : Int) < r.ret ∧ r.arr k = none) := by
  obtain ⟨n, count, arr, hann, -, hcopy, rfl⟩ := processDescriptorChain_passes h hnew
  obtain ⟨-, hfill, hhole⟩ := copyLoop_slots hcopy
  refine ⟨n, hann, rfl, rfl, rfl, fun j d hj hd => ?_, fun j hj hd => ?_⟩
  · have hs := hfill j d (by simpa using hj) hd
    rwa [Nat.zero_add] at hs
  · obtain ⟨k, -, hk, hs⟩ := hhole j (by simpa using hj) hd
    exact ⟨k, hk, hs⟩

end Slots

/-! ## 4. Chains with a buffer -/

/-- **A chain that is to be walked announces a buffer**: its length, as the `int` that the
    walker returns, is positive. -/
def HasBuffers (mem : Mem) (vq : VirtQueue) : Prop :=
  vq.lastAvailIdx ≠ vq.availIdx mem →
    ∀ n, Announces mem vq (vq.availHead mem) n → 0 < asInt (UInt32.ofNat n)

section Walk

variable {zm : ZoneTable} {mem : Mem} {vq : VirtQueue} {fuel : Nat} {appendLen : UInt32}
  {copyFlags : Bool}

theorem hasBuffers_of_empty (h : vq.lastAvailIdx = vq.availIdx mem) : HasBuffers mem vq :=
  fun hnew => absurd h hnew

/-- The walk finds no request; or it consumes one and returns a length, which is positive if
    and only if the chain announces a buffer. -/
theorem chain_walk {r : ChainResult}
    (h : processDescriptorChain zm mem vq fuel appendLen copyFlags = .ok r) :
    (vq.lastAvailIdx = vq.availIdx mem ∧ r.ret = 0 ∧ r.vq = vq) ∨
      (vq.lastAvailIdx ≠ vq.availIdx mem ∧ (0 < r.ret ↔ HasBuffers mem vq) ∧
        r.vq = vq.advance ∧ r.descIdx = some (vq.availHead mem)) := by
  by_cases hnew : vq.lastAvailIdx = vq.availIdx mem
  · obtain rfl := processDescriptorChain_empty h hnew
    exact .inl ⟨hnew, rfl, rfl⟩
  · obtain ⟨n, hann, hret, hidx, hvq, -, -⟩ := processDescriptorChain_ok h hnew
    refine .inr ⟨hnew, ⟨fun hpos _ n' hann' => ?_, fun hbuf => ?_⟩, hvq, hidx⟩
    · rw [hann'.unique hann, ← hret]
      exact hpos
    · rw [hret]
      exact hbuf hnew n hann

end Walk

end HvisorTool
