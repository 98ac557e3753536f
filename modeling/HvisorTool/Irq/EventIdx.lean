/-
  File:      HvisorTool/Irq/EventIdx.lean
  Subject:   THE INTERRUPT DECISION OF `virtio_inject_irq`, over a sequence of calls on one
             queue with the event index.

  A call takes the used index over into `last_used_idx` and decides, before it takes the
  lock, whether the driver wants an interrupt for the entries since the last call.

  * `VirtQueue.injectDecision`: a call up to the lock, with its decision;
  * `injectDecision_run`: a thread of the machine of `Irq/Inject.lean` that nobody
    disturbs comes to the lock exactly if the decision is positive;
  * `injectCalls`: the decisions of a sequence of calls;
  * `event_idx_interrupts_once`: however the completions are grouped into calls, the one
    call whose window holds the event index decides for the interrupt.
-/
import HvisorTool.Irq.Inject
import HvisorTool.Library.Counter

namespace HvisorTool

open Library

/-! ## 1. One call -/

/-- `virtio_inject_irq` up to its locked section: the queue behind it, and whether the call
    goes on to the lock. -/
def VirtQueue.injectDecision (vq : VirtQueue) (mem : Mem) : VirtQueue × Bool :=
  let idx := vq.usedIdx mem
  ({ vq with lastUsedIdx := idx },
    if idx = vq.lastUsedIdx then false
    else if (vq.eventIdxEnabled == 0 && vq.availFlags mem &&& 1 != 0) = true then false
    else if (vq.eventIdxEnabled != 0 &&
      !vringNeedEvent (vq.usedEvent mem) idx vq.lastUsedIdx) = true then false
    else true)

theorem setPc_setPc (s : IrqState) (t : Nat) (p p' : InjectPc) :
    (s.setPc t p).setPc t p' = s.setPc t p' := by
  have hpc : (fun u => if u = t then p' else if u = t then p else s.pc u) =
      fun u => if u = t then p' else s.pc u := by
    funext u
    split <;> rfl
  rw [IrqState.setPc, IrqState.setPc, IrqState.setPc]
  exact congrArg (fun pc => { s with pc := pc }) hpc

section Steps

variable (s : IrqState) (t q : Nat) (last idx : UInt16)

theorem advance_loaded : injectAdvance (s.setPc t (.loaded q last)) t =
    some (s.setPc t (.fetched q last ((s.vqs q).usedIdx s.mem))) := by
  rw [injectAdvance, setPc_self]
  exact congrArg some (setPc_setPc s t _ _)

theorem advance_fetched : injectAdvance (s.setPc t (.fetched q last idx)) t =
    some ((s.setLastUsed q idx).setPc t (.stored q last idx)) := by
  rw [injectAdvance, setPc_self]
  exact congrArg some (setPc_setPc (s.setLastUsed q idx) t _ _)

theorem advance_stored : injectAdvance (s.setPc t (.stored q last idx)) t =
    some (s.setPc t (if idx = last then .idle else .compared q last idx)) := by
  rw [injectAdvance, setPc_self]
  exact congrArg some (setPc_setPc s t _ _)

theorem advance_compared : injectAdvance (s.setPc t (.compared q last idx)) t =
    some (s.setPc t (if s.flagsSuppress q then .idle else .flagged q last idx)) := by
  rw [injectAdvance, setPc_self]
  exact congrArg some (setPc_setPc s t _ _)

theorem advance_flagged : injectAdvance (s.setPc t (.flagged q last idx)) t =
    some (s.setPc t (if s.eventSuppress q last idx then .idle else .locking q)) := by
  rw [injectAdvance, setPc_self]
  exact congrArg some (setPc_setPc s t _ _)

theorem setLastUsed_vqs : (s.setLastUsed q idx).vqs q = { s.vqs q with lastUsedIdx := idx } :=
  if_pos rfl

end Steps

/-- One step of the thread, and then the others. -/
theorem run_advance {res : DeviceRes} {s s' : IrqState} {t : Nat}
    (h : injectAdvance s t = some s') (n : Nat) :
    (irqMachine res).run s (List.replicate (n + 1) (.advance t)) =
      (irqMachine res).run s' (List.replicate n (.advance t)) := by
  rw [List.replicate_succ, Machine.run_cons]
  show (injectAdvance s t).bind _ = _
  rw [h]
  rfl

/-- **A thread that nobody disturbs does what `injectDecision` says**: with the index taken
    over it stands before the lock, or the call is over. -/
theorem injectDecision_run (res : DeviceRes) (s : IrqState) (t q : Nat) (hidle : s.pc t = .idle) :
    ∃ n, (irqMachine res).run s (.call t q :: List.replicate n (.advance t)) =
      some ((s.setLastUsed q ((s.vqs q).usedIdx s.mem)).setPc t
        (if ((s.vqs q).injectDecision s.mem).2 then .locking q else .idle)) := by
  let last := (s.vqs q).lastUsedIdx
  let idx := (s.vqs q).usedIdx s.mem
  let taken := s.setLastUsed q idx
  have hvq : taken.vqs q = { s.vqs q with lastUsedIdx := idx } := setLastUsed_vqs s q idx
  have hcall : ∀ as, (irqMachine res).run s (.call t q :: as) =
      (irqMachine res).run (s.setPc t (.loaded q last)) as := by
    intro as
    rw [Machine.run_cons]
    show (if s.pc t = .idle then _ else none : Option IrqState).bind _ = _
    rw [if_pos hidle]
    rfl
  -- up to the store into `last_used_idx` and the first test every call does the same
  have hstart : ∀ n, (irqMachine res).run s (.call t q :: List.replicate (n + 3) (.advance t)) =
      (irqMachine res).run (taken.setPc t (if idx = last then .idle else .compared q last idx))
        (List.replicate n (.advance t)) := by
    intro n
    rw [hcall, run_advance (advance_loaded s t q last), run_advance (advance_fetched s t q last idx),
      run_advance (advance_stored taken t q last idx)]
  by_cases hidx : idx = last
  · have hdec : ((s.vqs q).injectDecision s.mem).2 = false := if_pos hidx
    refine ⟨3, (hstart 0).trans ?_⟩
    rw [if_pos hidx, hdec]
    rfl
  · have hflags : taken.flagsSuppress q =
        ((s.vqs q).eventIdxEnabled == 0 && (s.vqs q).availFlags s.mem &&& 1 != 0) := by
      rw [IrqState.flagsSuppress, hvq]
      rfl
    have hevent : taken.eventSuppress q last idx = ((s.vqs q).eventIdxEnabled != 0 &&
        !vringNeedEvent ((s.vqs q).usedEvent s.mem) idx last) := by
      rw [IrqState.eventSuppress, hvq]
      rfl
    have hdec : ((s.vqs q).injectDecision s.mem).2 =
        if taken.flagsSuppress q = true then false
        else if taken.eventSuppress q last idx = true then false else true := by
      rw [hflags, hevent]
      exact if_neg hidx
    rw [if_neg hidx] at hstart
    rw [hdec]
    by_cases hf : taken.flagsSuppress q = true
    · refine ⟨4, (hstart 1).trans ?_⟩
      rw [run_advance (advance_compared taken t q last idx), if_pos hf, if_pos hf]
      rfl
    · refine ⟨5, (hstart 2).trans ?_⟩
      rw [run_advance (advance_compared taken t q last idx), if_neg hf, if_neg hf,
        run_advance (advance_flagged taken t q last idx)]
      by_cases he : taken.eventSuppress q last idx = true
      · rw [if_pos he, if_pos he]
        rfl
      · rw [if_neg he, if_neg he]
        rfl

/-! ## 2. Sequences of calls -/

/-- The decisions of calls on one queue, each with guest memory as it finds it. -/
def injectCalls : VirtQueue → List Mem → List Bool
  | _, [] => []
  | vq, mem :: mems => (vq.injectDecision mem).2 :: injectCalls (vq.injectDecision mem).1 mems

/-- With the event index a call decides by its window. -/
theorem injectDecision_window {vq : VirtQueue} {mem : Mem} (hen : vq.eventIdxEnabled ≠ 0) :
    (vq.injectDecision mem).2 =
      decide (InWindow vq.lastUsedIdx (vq.usedIdx mem) (vq.usedEvent mem)) := by
  have hflags : (vq.eventIdxEnabled == 0 && vq.availFlags mem &&& 1 != 0) = false := by
    rw [beq_eq_false_iff_ne.mpr hen, Bool.false_and]
  have hneed : vringNeedEvent (vq.usedEvent mem) (vq.usedIdx mem) vq.lastUsedIdx =
      decide (InWindow vq.lastUsedIdx (vq.usedIdx mem) (vq.usedEvent mem)) :=
    decide_eq_decide.mpr passes_iff
  unfold VirtQueue.injectDecision
  dsimp only
  split
  · next hidx =>
    -- the early return: the window is empty
    rw [hidx]
    exact (decide_eq_false not_inWindow_self).symm
  · rw [hflags, if_neg Bool.false_ne_true, hneed, bne_iff_ne.mpr hen, Bool.true_and]
    cases decide (InWindow vq.lastUsedIdx (vq.usedIdx mem) (vq.usedEvent mem)) <;> rfl

/-- The decisions of a sequence are the tests of the windows it sweeps. -/
theorem injectCalls_windows {vq : VirtQueue} {mems : List Mem} {e : UInt16}
    (hen : vq.eventIdxEnabled ≠ 0) (he : ∀ mem ∈ mems, vq.usedEvent mem = e) :
    injectCalls vq mems =
      (windows vq.lastUsedIdx (mems.map vq.usedIdx)).map fun w => decide (InWindow w.1 w.2 e) := by
  induction mems generalizing vq with
  | nil => rfl
  | cons mem mems ih =>
    have hhead : vq.usedEvent mem = e := he mem List.mem_cons_self
    have hen' : (vq.injectDecision mem).1.eventIdxEnabled ≠ 0 := hen
    have hrest := ih hen' fun m hm => he m (List.mem_cons_of_mem _ hm)
    rw [injectCalls, injectDecision_window hen, hhead, hrest]
    rfl

/-- **Exactly one call interrupts for an event index that is passed**: for a queue with the
    event index, a fixed `used_event` and any sequence of calls that finds the used index at
    `u 1`, …, `u n` from `last_used_idx = u 0` on, less than 2^16 away altogether, call `i`
    decides for an interrupt if and only if the event lies in `[u i, u (i + 1))`, one call
    does if it lies in `[u 0, u n)`, and none otherwise. -/
theorem event_idx_interrupts_once (vq : VirtQueue) (e : UInt16) (mems : List Mem)
    (hen : vq.eventIdxEnabled ≠ 0) (he : ∀ mem ∈ mems, vq.usedEvent mem = e)
    (htot : travel vq.lastUsedIdx (mems.map vq.usedIdx) < 2 ^ 16) :
    let u : Nat → UInt16 := fun i => (vq.lastUsedIdx :: mems.map vq.usedIdx).getD i 0
    (∀ i, i < mems.length →
        ((injectCalls vq mems)[i]? = some true ↔ InWindow (u i) (u (i + 1)) e)) ∧
      (injectCalls vq mems).length = mems.length ∧
      (InWindow (u 0) (u mems.length) e → (injectCalls vq mems).count true = 1) ∧
      (¬ InWindow (u 0) (u mems.length) e → (injectCalls vq mems).count true = 0) := by
  intro u
  have hcalls := injectCalls_windows hen he
  have hend : arrival vq.lastUsedIdx (mems.map vq.usedIdx) = u mems.length := by
    rw [arrival_eq_getD, List.length_map]
  have hcount : (injectCalls vq mems).count true =
      if InWindow (u 0) (u mems.length) e then 1 else 0 := by
    rw [← hend, hcalls, List.count, List.countP_map]
    refine Eq.trans (List.countP_congr fun w _ => ?_) (windows_countP htot)
    rw [Function.comp_apply, beq_true]
  refine ⟨?_, ?_, fun h => hcount.trans (if_pos h), fun h => hcount.trans (if_neg h)⟩
  · intro i hi
    have hi' : i < (mems.map vq.usedIdx).length := by rw [List.length_map]; exact hi
    rw [hcalls, List.getElem?_map, windows_getD _ _ hi', Option.map_some, Option.some_inj]
    exact decide_eq_true_iff
  · rw [hcalls, List.length_map, windows_length, List.length_map]

/-- Memory that holds a used index behind `usedRing` and a used event behind `availRing`, of
    a queue of two entries. -/
def eventMem (idx event : UInt8) : Mem := fun a =>
  if a = 0x2002 then idx else if a = 0x1008 then event else 0

def eventQueue : VirtQueue :=
  { (default : VirtQueue) with
    num := 2, availRing := 0x1000, usedRing := 0x2000, eventIdxEnabled := 1, lastUsedIdx := 65535 }

/-- A call across the wrap comes up to the lock. -/
theorem injectDecision_run_wrap : ∃ n s, (irqMachine ⟨1, 79⟩).run
    (irqStart (fun _ => eventQueue) (eventMem 2 0)) (.call 0 0 :: List.replicate n (.advance 0)) =
      some s ∧ s.pc 0 = .locking 0 := by
  obtain ⟨n, h⟩ :=
    injectDecision_run ⟨1, 79⟩ (irqStart (fun _ => eventQueue) (eventMem 2 0)) 0 0 rfl
  exact ⟨n, _, h, rfl⟩

/-- Three completions across the wrap of the index in three calls, the second with nothing
    new; the driver asked for the one at 0. -/
theorem event_idx_interrupts_once_wrap :
    (injectCalls eventQueue [eventMem 0 0, eventMem 0 0, eventMem 2 0]).count true = 1 := by
  have hevent : ∀ mem ∈ [eventMem 0 0, eventMem 0 0, eventMem 2 0], eventQueue.usedEvent mem = 0 := by
    intro mem hmem
    simp only [List.mem_cons, List.not_mem_nil, or_false] at hmem
    rcases hmem with rfl | rfl | rfl <;> rfl
  exact (event_idx_interrupts_once eventQueue 0 [eventMem 0 0, eventMem 0 0, eventMem 2 0] (by decide)
    hevent (by decide)).2.2.1 (by decide)

end HvisorTool
