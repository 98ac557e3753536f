/-
  File:      HvisorTool/Virtio/Buffers.lean
  Subject:   THE BUFFERS THAT `process_descriptor_chain` COLLECTS, and which of them the
             device may write.

  The walker leaves an array of entries without a direction; the callers of the console
  device do not even ask for the flags. A slot that no descriptor was copied to holds what
  `malloc` left there.

  * `ChainResult.iovs`: the array that a caller works with;
  * `ChainResult.buffers`: length and direction of each entry;
  * `processDescriptorChain_flags`: the walk is the same with and without the flags.
-/
import HvisorTool.Library.Scatter
import HvisorTool.Virtio.Chain

namespace HvisorTool

open Library

/-- `VRING_DESC_F_WRITE` in the flags of a slot. -/
def IovSlot.isWrite (slot : IovSlot) : Bool := slot.flags.getD 0 &&& 2 != 0

namespace ChainResult

/-- The entries of the array; `junk` is what a slot holds that was never stored to. -/
def iovs (r : ChainResult) (junk : Nat → Iovec) : List Iovec :=
  (List.range r.ret.toNat).map fun i =>
    match r.arr i with
    | some slot => slot.iov
    | none => junk i

/-- Length and direction of the entries. What `malloc` left is no buffer of the chain. -/
def buffers (r : ChainResult) (junk : Nat → Iovec) : List (Nat × Bool) :=
  (List.range r.ret.toNat).map fun i =>
    match r.arr i with
    | some slot => (slot.iov.iovLen.toNat, slot.isWrite)
    | none => ((junk i).iovLen.toNat, false)

theorem lengths_buffers (r : ChainResult) (junk : Nat → Iovec) :
    (r.buffers junk).map Prod.fst = (r.iovs junk).map (·.iovLen.toNat) := by
  unfold buffers iovs
  rw [List.map_map, List.map_map]
  refine List.map_congr_left fun i _ => ?_
  dsimp only [Function.comp]
  cases r.arr i with
  | none | some slot => rfl

end ChainResult

/-! ## The flags do not matter for the walk -/

section Flags

variable {zm : ZoneTable} {mem : Mem} {vq : VirtQueue} {cap : Int}

/-- The array without its flags. -/
def IovArray.bare (arr : IovArray) : IovArray := fun i =>
  (arr i).map fun s => { s with flags := none }

def ChainResult.bare (r : ChainResult) : ChainResult := { r with arr := IovArray.bare r.arr }

theorem bare_update (arr : IovArray) (i : Nat) (d : VirtqDesc) :
    IovArray.bare (Function.update arr i (some (d.slot zm vq true))) =
      Function.update (IovArray.bare arr) i (some (d.slot zm vq false)) := by
  funext j
  unfold IovArray.bare
  by_cases hj : j = i
  · subst hj
    rw [Function.update_self, Function.update_self]
    rfl
  · rw [Function.update_of_ne hj, Function.update_of_ne hj]

theorem descriptor2iov_bare (i : Nat) (d : VirtqDesc) (arr : IovArray) :
    descriptor2iov zm vq cap false i d (IovArray.bare arr) =
      (descriptor2iov zm vq cap true i d arr).map IovArray.bare := by
  unfold descriptor2iov
  split
  · rw [← bare_update]
    rfl
  · rfl

/-- A store, and what follows, without the flags. -/
theorem bind_bare {α : Type} {i : Nat} {d : VirtqDesc} {arr : IovArray} {strip : α → α}
    {f g : IovArray → Except ChainError α} (h : ∀ arr, f (IovArray.bare arr) = (g arr).map strip) :
    (descriptor2iov zm vq cap false i d (IovArray.bare arr) >>= f) =
      (descriptor2iov zm vq cap true i d arr >>= g).map strip := by
  rw [descriptor2iov_bare]
  cases descriptor2iov zm vq cap true i d arr with
  | error e => rfl
  | ok arr' => exact h arr'

theorem copyIndirect_bare {indTable : UInt64} (fuel : Nat) :
    ∀ (i : Nat) (next : UInt16) (tableLen : Int) (arr : IovArray),
      copyIndirect zm mem vq cap false indTable fuel i next tableLen (IovArray.bare arr) =
        (copyIndirect zm mem vq cap true indTable fuel i next tableLen arr).map
          fun p => (IovArray.bare p.1, p.2) := by
  induction fuel with
  | zero => exact fun _ _ _ _ => rfl
  | succ fuel ih =>
    intro i next tableLen arr
    unfold copyIndirect
    split
    · rfl
    · refine bind_bare fun arr => ?_
      split
      · exact ih _ _ _ _
      · rfl

theorem copyLoop_bare {chainLen : Int} (fuel : Nat) :
    ∀ (i : Nat) (next : UInt16) (arr : IovArray),
      copyLoop zm mem vq cap false chainLen fuel i next (IovArray.bare arr) =
        (copyLoop zm mem vq cap true chainLen fuel i next arr).map IovArray.bare := by
  induction fuel with
  | zero => exact fun _ _ _ => rfl
  | succ fuel ih =>
    intro i next arr
    unfold copyLoop
    split
    · split
      · rfl
      · dsimp only
        split
        · rw [copyIndirect_bare]
          cases copyIndirect zm mem vq cap true
              (vq.translate zm (readDesc mem vq.descTable next).addr) fuel i 0
              (readDesc mem vq.descTable next).tableLen.toNat arr with
          | error e => rfl
          | ok p =>
            obtain ⟨arr', i', tableLen⟩ := p
            show (if tableLen ≠ 0 then _ else _) = Except.map _ (if tableLen ≠ 0 then _ else _)
            split
            · rfl
            · exact ih _ _ _
        · exact bind_bare fun arr => ih _ _ _
    · rfl

/-- **The walk is the same with and without the flags.** -/
theorem processDescriptorChain_flags (fuel : Nat) (appendLen : UInt32) :
    processDescriptorChain zm mem vq fuel appendLen false =
      (processDescriptorChain zm mem vq fuel appendLen true).map ChainResult.bare := by
  unfold processDescriptorChain
  split
  · rfl
  · split
    · rfl
    · dsimp only
      cases countLoop mem vq fuel 0 (vq.availHead mem) 0 with
      | error e => rfl
      | ok p =>
        have hcopy : ∀ cap chainLen, copyLoop zm mem vq cap false chainLen fuel 0
            (vq.availHead mem) freshArray = (copyLoop zm mem vq cap true chainLen fuel 0
              (vq.availHead mem) freshArray).map IovArray.bare :=
          fun _ _ => copyLoop_bare fuel 0 _ freshArray
        rw [ok_bind, ok_bind, hcopy]
        cases copyLoop zm mem vq (asInt (p.1 + UInt32.ofInt (p.2 + 1) + appendLen)) true
            (asInt (p.1 + UInt32.ofInt (p.2 + 1))) fuel 0 (vq.availHead mem) freshArray with
        | error e | ok arr => rfl

end Flags

end HvisorTool
