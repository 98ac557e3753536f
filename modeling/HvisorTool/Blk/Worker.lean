/-
  File:      HvisorTool/Blk/Worker.lean
  Subject:   THE BLOCK DEVICE'S WORKER THREAD AND THE MAIN THREAD: `blkproc_thread` against
             `virtio_blk_notify_handler`, `virtio_blk_reset` with the queue reset that follows it,
             and `virtio_blk_close`.

  A section under `dev->mtx` up to its `pthread_cond_wait` or its unlock is one step; so is each
  access of the worker to the queue outside the mutex. What `vq_is_empty` answers is part of the
  step's label: the guest may add buffers at any time. A wait on `dev->cond` ends by a signal, a
  broadcast, or for no reason; a thread that was woken runs its next section later. The worker is
  started before the device is published, so `thread_started` holds throughout.

  * `WorkerPc`, `MainPc`: the program points; `WorkerPc.touchesQueue` marks those
    whose next step reads or writes the queue;
  * `BlkInv`: how the three flags and the two program points go together;
  * `blk_quiescent`: no queue access in the reset window, and no deadlock.
-/
import HvisorTool.Library.Machine

namespace HvisorTool

open Library

/-! ## 1. The two threads -/

/-- Where the worker stands. `closing` is its local variable, live after the first
    locked section. -/
inductive WorkerPc where
  /-- About to take `mtx` at the top of the loop. -/
  | top
  /-- In the first `pthread_cond_wait`. -/
  | waitTop
  | wokenTop
  /-- Saw `reset` and not `close`; about to take `mtx` again. -/
  | enterReset
  /-- In the second `pthread_cond_wait`. -/
  | waitPause
  | wokenPause
  /-- About to test whether there is anything to drain. -/
  | test (closing : Bool)
  | disable (closing : Bool)
  | drain (closing : Bool)
  | handle (closing : Bool)
  | enable (closing : Bool)
  | recheck (closing : Bool)
  | inject (closing : Bool)
  | exited
  deriving DecidableEq, Repr

/-- Where the main thread stands. -/
inductive MainPc where
  | idle
  /-- In the `pthread_cond_wait` of `virtio_blk_reset`. -/
  | resetWait
  | resetWoken
  /-- `virtio_blk_reset` has returned; `left` queues are still to be reset. -/
  | window (left : Nat)
  /-- In the `pthread_join` of `virtio_blk_close`. -/
  | joining
  | closed
  deriving DecidableEq, Repr

namespace WorkerPc

/-- The next step reads or writes the queue. -/
def touchesQueue : WorkerPc → Bool
  | .waitTop | .enterReset | .waitPause | .wokenPause | .exited => false
  | _ => true

/-- Blocked on the condition variable, with no wake-up pending. -/
def blocked : WorkerPc → Bool
  | .waitTop | .waitPause => true
  | _ => false

/-- Inside the loop that waits for the end of a reset. -/
def inPause : WorkerPc → Bool
  | .waitPause | .wokenPause => true
  | _ => false

/-- A signal or broadcast on `dev->cond`. -/
def wake : WorkerPc → WorkerPc
  | .waitTop => .wokenTop
  | .waitPause => .wokenPause
  | pc => pc

/-- The end of the loop body: `for (bool closing = false; !closing;)`. -/
def loopEnd (closing : Bool) : WorkerPc := if closing then .exited else .top

end WorkerPc

namespace MainPc

/-- A broadcast on `dev->cond`. -/
def wake : MainPc → MainPc
  | .resetWait => .resetWoken
  | pc => pc

/-- Between the return of `virtio_blk_reset` and the end of the queue reset loop. -/
def inWindow : MainPc → Bool
  | .window _ => true
  | _ => false

/-- Inside a device reset. -/
def inReset : MainPc → Bool
  | .resetWait | .resetWoken | .window _ => true
  | _ => false

/-- `virtio_blk_close` was called. -/
def isClosing : MainPc → Bool
  | .joining | .closed => true
  | _ => false

end MainPc

structure BlkState where
  close : Bool
  reset : Bool
  workerPaused : Bool
  worker : WorkerPc
  main : MainPc
  deriving DecidableEq, Repr

inductive BlkAction where
  /-- The worker's next step; `empty` is what `vq_is_empty` answers in it. -/
  | worker (empty : Bool)
  /-- A spurious wake-up of the worker. -/
  | workerWake
  /-- A spurious wake-up of the main thread. -/
  | mainWake
  /-- `virtio_blk_notify_handler`. -/
  | kick
  /-- `virtio_blk_reset`, up to its first wait or its return. -/
  | resetCall
  /-- The next step of the main thread inside a reset or a close. -/
  | main
  /-- `virtio_blk_close`, up to the join. -/
  | closeCall
  deriving DecidableEq, Repr

/-- The worker's first locked section. -/
def workerTop (s : BlkState) (empty : Bool) : BlkState :=
  if empty && !s.close && !s.reset then { s with worker := .waitTop }
  else if s.reset && !s.close then { s with worker := .enterReset }
  else { s with worker := .test s.close }

/-- The worker's second locked section, entered with `closing` false. -/
def workerPause (s : BlkState) : BlkState :=
  if s.reset && !s.close then
    { s with workerPaused := true, worker := .waitPause, main := s.main.wake }
  else { s with workerPaused := false, worker := .top }

def workerStep (s : BlkState) (empty : Bool) : Option BlkState :=
  match s.worker with
  | .top | .wokenTop => some (workerTop s empty)
  | .enterReset | .wokenPause => some (workerPause s)
  | .waitTop | .waitPause | .exited => none
  | .test c => some { s with worker := if empty then .loopEnd c else .disable c }
  | .disable c => some { s with worker := .drain c }
  | .drain c => some { s with worker := if empty then .enable c else .handle c }
  | .handle c => some { s with worker := .drain c }
  | .enable c => some { s with worker := .recheck c }
  | .recheck c => some { s with worker := if empty then .inject c else .disable c }
  | .inject c => some { s with worker := .loopEnd c }

/-- The test `while (!dev->worker_paused)` of `virtio_blk_reset`. -/
def resetTest (vqsLen : Nat) (s : BlkState) : MainPc :=
  if s.workerPaused then .window vqsLen else .resetWait

def mainStep (vqsLen : Nat) (s : BlkState) : Option BlkState :=
  match s.main with
  | .resetWoken => some { s with main := resetTest vqsLen s }
  | .window (left + 1) => some { s with main := .window left }
  | .window 0 => some { s with main := .idle }
  | .joining => if s.worker = .exited then some { s with main := .closed } else none
  | .idle | .resetWait | .closed => none

/-- One step, on a device with `vqsLen` queues. -/
def blkStep (vqsLen : Nat) (s : BlkState) : BlkAction → Option BlkState
  | .worker empty => workerStep s empty
  | .workerWake => if s.worker.blocked then some { s with worker := s.worker.wake } else none
  | .mainWake => if s.main = .resetWait then some { s with main := .resetWoken } else none
  | .kick =>
    if s.main = .idle then some { s with reset := false, worker := s.worker.wake } else none
  | .resetCall =>
    if s.main = .idle then
      some { s with reset := true, worker := s.worker.wake, main := resetTest vqsLen s }
    else none
  | .main => mainStep vqsLen s
  | .closeCall =>
    if s.main = .idle then
      some { s with close := true, worker := s.worker.wake, main := .joining }
    else none

def blkMachine (vqsLen : Nat) : Machine BlkState BlkAction := ⟨blkStep vqsLen⟩

/-- The worker just started. -/
def blkStart : BlkState :=
  { close := false, reset := false, workerPaused := false, worker := .top, main := .idle }

/-- The step reads or writes the queue from the worker thread. -/
def QueueAccess (s : BlkState) : BlkAction → Prop
  | .worker _ => s.worker.touchesQueue = true
  | _ => False

/-! ## 2. The invariant -/

/-- How flags and program points go together. -/
structure BlkInv (s : BlkState) : Prop where
  /-- `worker_paused` is never stale: it says that the worker is in the pause loop. -/
  paused : s.workerPaused = s.worker.inPause
  closing : s.close = s.main.isClosing
  resetting : s.main.inReset = true → s.reset = true
  window : s.main.inWindow = true → s.workerPaused = true
  /-- The worker's broadcast follows `worker_paused = true` in the same section. -/
  waiting : s.main = .resetWait → s.workerPaused = false
  topWait : s.worker = .waitTop → s.reset = false ∧ s.close = false
  pauseWait : s.worker = .waitPause → s.reset = true ∧ s.close = false

theorem blkInv_start : BlkInv blkStart :=
  ⟨rfl, rfl, nofun, nofun, nofun, nofun, nofun⟩

@[simp] theorem WorkerPc.inPause_wake (w : WorkerPc) : w.wake.inPause = w.inPause := by
  cases w <;> rfl

theorem WorkerPc.blocked_wake (w : WorkerPc) : w.wake.blocked = false := by
  cases w <;> rfl

theorem WorkerPc.ne_of_not_blocked {w : WorkerPc} (h : w.blocked = false) :
    w ≠ .waitTop ∧ w ≠ .waitPause := by
  constructor <;> intro e <;> subst e <;> cases h

theorem MainPc.inReset_of_inWindow {m : MainPc} (h : m.inWindow = true) : m.inReset = true := by
  cases m <;> first | rfl | cases h

theorem MainPc.not_closing_of_inWindow {m : MainPc} (h : m.inWindow = true) :
    m.isClosing = false := by
  cases m <;> first | rfl | cases h

variable {s s' : BlkState}

/-- In the window a reset is on and no close. -/
theorem BlkInv.window_flags (h : BlkInv s) (hw : s.main.inWindow = true) :
    s.reset = true ∧ s.close = false :=
  ⟨h.resetting (MainPc.inReset_of_inWindow hw), h.closing.trans (MainPc.not_closing_of_inWindow hw)⟩

/-! ## 3. Steps of the worker -/

/-- The worker moves outside the pause loop, to a point where it does not wait. -/
theorem BlkInv.moveWorker (h : BlkInv s) {w : WorkerPc} (hs : s.worker.inPause = false)
    (hp : w.inPause = false) (hb : w.blocked = false) : BlkInv { s with worker := w } :=
  { paused := h.paused.trans (hs.trans hp.symm)
    closing := h.closing
    resetting := h.resetting
    window := h.window
    waiting := h.waiting
    topWait := fun e => absurd e (WorkerPc.ne_of_not_blocked hb).1
    pauseWait := fun e => absurd e (WorkerPc.ne_of_not_blocked hb).2 }

theorem BlkInv.workerTop (h : BlkInv s) (hs : s.worker.inPause = false)
    (empty : Bool) : BlkInv (workerTop s empty) := by
  unfold HvisorTool.workerTop
  split
  · next hc =>
    have hflags : s.reset = false ∧ s.close = false := by
      simp only [Bool.and_eq_true, Bool.not_eq_true'] at hc
      exact ⟨hc.2, hc.1.2⟩
    exact
      { paused := h.paused.trans hs
        closing := h.closing
        resetting := h.resetting
        window := h.window
        waiting := h.waiting
        topWait := fun _ => hflags
        pauseWait := nofun }
  · split <;> exact h.moveWorker hs rfl rfl

theorem MainPc.wake_ne_resetWait (m : MainPc) : m.wake ≠ .resetWait := by
  cases m <;> nofun

theorem MainPc.isClosing_wake (m : MainPc) : m.wake.isClosing = m.isClosing := by
  cases m <;> rfl

theorem BlkInv.workerPause (h : BlkInv s) : BlkInv (workerPause s) := by
  unfold HvisorTool.workerPause
  split
  · next hc =>
    have hflags : s.reset = true ∧ s.close = false := by
      simpa only [Bool.and_eq_true, Bool.not_eq_true'] using hc
    exact
      { paused := rfl
        closing := h.closing.trans s.main.isClosing_wake.symm
        resetting := fun _ => hflags.1
        window := fun _ => rfl
        waiting := fun e => absurd e s.main.wake_ne_resetWait
        topWait := nofun
        pauseWait := fun _ => hflags }
  · next hc =>
    -- In the window the flags would keep the worker in the loop.
    have hw : s.main.inWindow ≠ true := by
      intro hw
      obtain ⟨hr, hcl⟩ := h.window_flags hw
      rw [hr, hcl] at hc
      exact hc rfl
    exact
      { paused := rfl
        closing := h.closing
        resetting := h.resetting
        window := fun e => absurd e hw
        waiting := fun _ => rfl
        topWait := nofun
        pauseWait := nofun }

theorem WorkerPc.loopEnd_plain (c : Bool) :
    (loopEnd c).inPause = false ∧ (loopEnd c).blocked = false := by
  cases c <;> exact ⟨rfl, rfl⟩

theorem BlkInv.workerStep {empty : Bool} (h : BlkInv s)
    (hs : workerStep s empty = some s') : BlkInv s' := by
  unfold HvisorTool.workerStep at hs
  split at hs <;> try cases hs
  case h_1 hw | h_2 hw => exact h.workerTop (by rw [hw]; rfl) empty
  case h_3 hw | h_4 hw => exact h.workerPause
  case h_8 c hw =>
      have hp : s.worker.inPause = false := by rw [hw]; rfl
      cases empty
      · exact h.moveWorker hp rfl rfl
      · exact h.moveWorker hp (WorkerPc.loopEnd_plain c).1 (WorkerPc.loopEnd_plain c).2
  case h_9 c hw | h_11 c hw | h_12 c hw => exact h.moveWorker (by rw [hw]; rfl) rfl rfl
  case h_10 c hw | h_13 c hw =>
      have hp : s.worker.inPause = false := by rw [hw]; rfl
      cases empty <;> exact h.moveWorker hp rfl rfl
  case h_14 c hw =>
      exact h.moveWorker (by rw [hw]; rfl) (WorkerPc.loopEnd_plain c).1 (WorkerPc.loopEnd_plain c).2

/-! ## 4. Steps of the main thread -/

/-- The main thread, from `idle`, changes a flag and wakes the worker. -/
theorem BlkInv.signal (h : BlkInv s) (ew : s'.worker = s.worker.wake)
    (ep : s'.workerPaused = s.workerPaused) (hc : s'.close = s'.main.isClosing)
    (hr : s'.main.inReset = true → s'.reset = true)
    (hw : s'.main.inWindow = true → s'.workerPaused = true)
    (hm : s'.main = .resetWait → s'.workerPaused = false) : BlkInv s' := by
  have hb : s'.worker.blocked = false := by
    rw [ew]
    exact s.worker.blocked_wake
  exact
    { paused := by rw [ep, ew, s.worker.inPause_wake, h.paused]
      closing := hc
      resetting := hr
      window := hw
      waiting := hm
      topWait := fun e => absurd e (WorkerPc.ne_of_not_blocked hb).1
      pauseWait := fun e => absurd e (WorkerPc.ne_of_not_blocked hb).2 }

/-- The main thread moves; flags and worker stay. -/
theorem BlkInv.moveMain (h : BlkInv s) {m : MainPc} (hc : m.isClosing = s.main.isClosing)
    (hr : m.inReset = true → s.reset = true) (hw : m.inWindow = true → s.workerPaused = true)
    (hm : m = .resetWait → s.workerPaused = false) : BlkInv { s with main := m } :=
  { paused := h.paused
    closing := h.closing.trans hc.symm
    resetting := hr
    window := hw
    waiting := hm
    topWait := h.topWait
    pauseWait := h.pauseWait }

theorem resetTest_spec (vqsLen : Nat) (s : BlkState) :
    (resetTest vqsLen s).isClosing = false ∧
      ((resetTest vqsLen s).inWindow = true → s.workerPaused = true) ∧
      (resetTest vqsLen s = .resetWait → s.workerPaused = false) := by
  unfold resetTest
  cases hp : s.workerPaused
  · exact ⟨rfl, nofun, fun _ => rfl⟩
  · exact ⟨rfl, fun _ => rfl, nofun⟩

theorem BlkInv.mainStep {vqsLen : Nat} (h : BlkInv s)
    (hs : mainStep vqsLen s = some s') : BlkInv s' := by
  unfold HvisorTool.mainStep at hs
  split at hs
  case h_1 hm =>
      cases hs
      obtain ⟨hc, hw, hr⟩ := resetTest_spec vqsLen s
      exact h.moveMain (hc.trans (by rw [hm]; rfl)) (fun _ => h.resetting (by rw [hm]; rfl)) hw hr
  case h_2 left hm =>
      cases hs
      exact h.moveMain (by rw [hm]; rfl) (fun _ => h.resetting (by rw [hm]; rfl))
        (fun _ => h.window (by rw [hm]; rfl)) nofun
  case h_3 hm =>
      cases hs
      exact h.moveMain (by rw [hm]; rfl) nofun nofun nofun
  case h_4 hm =>
      split at hs
      · cases hs
        exact h.moveMain (by rw [hm]; rfl) nofun nofun nofun
      · cases hs
  all_goals cases hs

/-- **Every step keeps the invariant.** -/
theorem blkInv_step {vqsLen : Nat} {a : BlkAction} (h : BlkInv s)
    (hs : blkStep vqsLen s a = some s') : BlkInv s' := by
  cases a with
  | worker empty => exact h.workerStep hs
  | workerWake =>
    obtain ⟨_, rfl⟩ := guarded hs
    exact h.signal rfl rfl h.closing h.resetting h.window h.waiting
  | mainWake =>
    obtain ⟨hm, rfl⟩ := guarded hs
    have hr : s.reset = true := h.resetting (by rw [hm]; rfl)
    exact h.moveMain (by rw [hm]; rfl) (fun _ => hr) nofun nofun
  | kick =>
    obtain ⟨hm, rfl⟩ := guarded hs
    have hout : s.main.inReset ≠ true := by
      rw [hm]
      exact Bool.false_ne_true
    exact h.signal rfl rfl h.closing (fun e => absurd e hout) h.window h.waiting
  | resetCall =>
    obtain ⟨hm, rfl⟩ := guarded hs
    obtain ⟨hc, hw, hr⟩ := resetTest_spec vqsLen s
    have hcl : s.close = false := h.closing.trans (by rw [hm]; rfl)
    exact h.signal rfl rfl (hcl.trans hc.symm) (fun _ => rfl) hw hr
  | main => exact h.mainStep hs
  | closeCall =>
    obtain ⟨_, rfl⟩ := guarded hs
    exact h.signal rfl rfl rfl nofun nofun nofun

theorem blkInv_reach {vqsLen : Nat} (h : (blkMachine vqsLen).Reach blkStart s) : BlkInv s :=
  h.inv BlkInv blkInv_start fun _ _ _ hi _ hs => blkInv_step hi hs

/-! ## 5. Quiescence -/

/-- In the window the worker is in the pause loop, away from the queue. -/
theorem BlkInv.window_quiet (h : BlkInv s) (hw : s.main.inWindow = true) :
    s.worker.touchesQueue = false := by
  have hp : s.worker.inPause = true := h.paused.symm.trans (h.window hw)
  cases hworker : s.worker <;> rw [hworker] at hp <;> first | rfl | cases hp

/-- A waiting main thread never faces a blocked worker. -/
theorem BlkInv.not_deadlocked (h : BlkInv s)
    (hm : s.main = .resetWait ∨ s.main = .joining) : s.worker.blocked = false := by
  cases hworker : s.worker with
  | waitTop =>
    exfalso
    obtain ⟨hr, hc⟩ := h.topWait hworker
    rcases hm with hm | hm
    · have hr' : s.reset = true := h.resetting (by rw [hm]; rfl)
      rw [hr] at hr'
      cases hr'
    · have hc' : s.close = true := h.closing.trans (by rw [hm]; rfl)
      rw [hc] at hc'
      cases hc'
  | waitPause =>
    exfalso
    rcases hm with hm | hm
    · have hp : s.workerPaused = true := h.paused.trans (by rw [hworker]; rfl)
      rw [h.waiting hm] at hp
      cases hp
    · have hc' : s.close = true := h.closing.trans (by rw [hm]; rfl)
      rw [(h.pauseWait hworker).2] at hc'
      cases hc'
  | _ => rfl

/-- **The worker is quiet in the reset window, and nobody waits for a blocked
    worker**: in every reachable state, between the return of `virtio_blk_reset` and
    the end of the queue reset no step of the worker touches the queue; and while the
    main thread waits in `virtio_blk_reset` or in the join, the worker is not blocked
    on the condition variable. -/
theorem blk_quiescent (vqsLen : Nat) (s : BlkState)
    (h : (blkMachine vqsLen).Reach blkStart s) :
    (∀ a s', (blkMachine vqsLen).step s a = some s' → s.main.inWindow = true → ¬ QueueAccess s a) ∧
    ¬ ((s.main = .resetWait ∨ s.main = .joining) ∧ s.worker.blocked = true) := by
  have hinv : BlkInv s := blkInv_reach h
  constructor
  · intro a s' _ hw hq
    cases a with
    | worker empty =>
        have hn : s.worker.touchesQueue = true := hq
        rw [hinv.window_quiet hw] at hn
        cases hn
    | _ => exact hq
  · intro hd
    have hb : s.worker.blocked = false := hinv.not_deadlocked hd.1
    rw [hd.2] at hb
    cases hb

/-- A reset, a kick and a second reset before the worker runs: `worker_paused` still
    holds, the second reset returns at once, and the worker wakes inside the window. -/
theorem blk_quiescent_secondReset :
    ∃ s, (blkMachine 1).Reach blkStart s ∧ s.main.inWindow = true ∧ s.worker = .wokenPause ∧
      ¬ QueueAccess s (.worker false) := by
  have hrun : (blkMachine 1).run blkStart
      [.resetCall, .worker true, .worker true, .main, .main, .main, .kick, .resetCall] =
        some ⟨false, true, true, .wokenPause, .window 1⟩ := rfl
  have hr := Machine.reach_of_run hrun
  exact ⟨_, hr, rfl, rfl, (blk_quiescent 1 _ hr).1 (.worker false) _ rfl rfl⟩

end HvisorTool
