/-
  File:      HvisorTool/Console/Requests.lean
  Subject:   ONE CONSOLE REQUEST EACH WAY: `virtq_tx_handle_one_request` of the console
             device and the loop body of `virtio_console_event_handler`.

  Both take what `process_descriptor_chain` collected as one array, whatever the direction
  of its entries. What the terminal answers is a parameter.

  * `consoleTxHandleOneRequest`, `consoleRxBody`: the passes, with their used entries;
  * `usedRing_walk`: a walk leaves the used ring where it is.
-/
import HvisorTool.Device.Handlers

namespace HvisorTool

open Library

/-- `update_used_ring(vq, idx, len)` in a pass. -/
def postUsed (q : CompletionQueue) (c : Completion) : Except ChainError CompletionQueue :=
  if q.vq.usedRing = 0 then .error .segv
  else .ok { q with used := updateUsedRing q.vq.num q.used c }

section Passes

variable (zm : ZoneTable) (fuel : Nat) (q : CompletionQueue) (mem : Mem)

/-- `virtq_tx_handle_one_request`. A `writev` that fails is logged, and the request is
    completed all the same. -/
def consoleTxHandleOneRequest (masterFd : Int) : Except ChainError CompletionQueue :=
  if masterFd ≤ 0 then .ok q
  else do
    let r ← processDescriptorChain zm mem q.vq fuel 0 false
    if r.ret < 1 then .ok { q with vq := r.vq }
    else postUsed { q with vq := r.vq } (r.descIdx.getD 0, 0)

/-- The loop body of `virtio_console_event_handler`: the queue, and whether the loop goes
    on. A request that `readv` has nothing for, or fails on, goes back. -/
def consoleRxBody (answer : ReadvResult) : Except ChainError (CompletionQueue × Bool) := do
  let r ← processDescriptorChain zm mem q.vq fuel 0 false
  if r.ret < 1 then .ok ({ q with vq := r.vq }, false)
  else
    match answer with
    | .packet len => do
        let q ← postUsed { q with vq := r.vq } (r.descIdx.getD 0, UInt32.ofNat len)
        .ok (q, true)
    | _ => .ok ({ q with vq := { r.vq with lastAvailIdx := r.vq.lastAvailIdx - 1 } }, false)

end Passes

/-- The queue behind a walk has the used ring of the queue before. -/
theorem usedRing_walk {zm : ZoneTable} {mem : Mem} {fuel : Nat} {appendLen : UInt32}
    {copyFlags : Bool} {q : VirtQueue} {r : ChainResult}
    (h : processDescriptorChain zm mem q fuel appendLen copyFlags = .ok r) :
    r.vq.usedRing = q.usedRing ∧ r.vq.num = q.num := by
  obtain ⟨-, -, hvq⟩ | ⟨-, -, hvq, -⟩ := chain_walk h
  · rw [hvq]
    exact ⟨rfl, rfl⟩
  · rw [hvq]
    exact ⟨rfl, rfl⟩

end HvisorTool
