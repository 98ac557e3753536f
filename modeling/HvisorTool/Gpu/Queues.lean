/-
  File:      HvisorTool/Gpu/Queues.lean
  Subject:   THE TWO GPU QUEUES: a driver, the main thread in one of two notify handlers,
             and the worker, with the command queue between them.

  The handlers only move chains from a ring to the command queue; the worker processes them, posts
  the used entries and injects the interrupts. Both handlers re-enable notifications as their last
  access to the ring and do not look again; only the control handler signals the worker; the worker
  counts the commands of a batch but injects for the queue of the last one.

  Each access to a shared word is one step, a section under `queue_mutex` is one step, and the
  worker holds the mutex from one test of the command queue to the next thing it does outside it.

  * `GpuQueues`, `gpuQueuesMachine event`: the machine; the rings are those of `Virtio/Drain.lean`;
  * `Careful`: what a step must meet so that nothing is left behind;
  * `GpuQueuesInv`: what holds between careful steps;
  * `gpu_not_stranded`: at rest nothing is left, in every run of careful steps;
  * `gpu_stranded`: three runs to a state at rest with something left.
-/
import HvisorTool.Virtio.Drain

namespace HvisorTool

open Library

/-! ## 1. The machine -/

/-- `GPU_CONTROL_QUEUE` and `GPU_CURSOR_QUEUE`. -/
inductive GpuQueue where
  | control
  | cursor
  deriving DecidableEq, Repr

def GpuQueue.other : GpuQueue → GpuQueue
  | .control => .cursor
  | .cursor => .control

/-- What the main thread does next under `queue_mutex`, before it goes on in its handler:
    nothing, insert the command it has built, or signal `gpu_cond`. -/
inductive MainDebt where
  | nothing
  | command (q : GpuQueue)
  | signal
  deriving DecidableEq, Repr

/-- Where `virtio_gpu_handler` stands. -/
inductive GpuWorkerPc where
  /-- At `pthread_mutex_lock`, or woken up in `pthread_cond_wait`. -/
  | lock
  /-- At the test of the command queue. -/
  | test
  /-- In `virtio_gpu_simple_process_cmd`. -/
  | process (q : GpuQueue)
  /-- At the interrupt after `VIRTIO_GPU_MAX_REQUEST_BEFORE_KICK` commands. -/
  | kick (q : GpuQueue)
  /-- Behind the loop over the command queue. -/
  | drained
  /-- Blocked in `pthread_cond_wait`. -/
  | waiting
  deriving DecidableEq, Repr

/-- The worker holds `queue_mutex`. -/
def GpuWorkerPc.holdsMutex : GpuWorkerPc → Bool
  | .test | .drained => true
  | .lock | .process _ | .kick _ | .waiting => false

/-- `VIRTIO_GPU_MAX_REQUEST_BEFORE_KICK`. -/
def virtioGpuMaxRequestBeforeKick : Nat := 16

structure GpuQueues where
  /-- Each ring with its driver; the program point is that of its notify handler. -/
  rings : GpuQueue → DrainState
  /-- The handler that the main thread runs. -/
  running : Option GpuQueue
  debt : MainDebt
  /-- `command_queue`: of each command, the queue it came from. -/
  commands : List GpuQueue
  worker : GpuWorkerPc
  requestCnt : Nat
  /-- `from_queue` of the last command the worker took. -/
  lastFrom : Option GpuQueue
  /-- A used entry was posted on the queue and no interrupt injected since. -/
  owed : GpuQueue → Bool

namespace GpuQueues

def setRing (s : GpuQueues) (q : GpuQueue) (r : DrainState) : GpuQueues :=
  { s with rings := Function.update s.rings q r }

/-- `virtio_inject_irq`. -/
def injectIrq (s : GpuQueues) (q : GpuQueue) : GpuQueues :=
  { s with owed := Function.update s.owed q false }

/-- Behind `virtqueue_enable_notify` the control handler returns, the cursor handler
    injects an interrupt first. -/
def notifyEnabled (s : GpuQueues) (q : GpuQueue) (r : DrainState) : GpuQueues :=
  match q with
  | .control => { s.setRing .control { r with pc := .parked } with running := none }
  | .cursor => s.setRing .cursor { r with pc := .finish }

end GpuQueues

/-- The next step in `virtio_gpu_ctrl_notify_handler` or `virtio_gpu_cursor_notify_handler`.
    A chain without a buffer (`hollow`) is taken off the ring and gives no command. -/
def gpuHandlerStep (event : Bool) (q : GpuQueue) (hollow : Bool) (s : GpuQueues) :
    Option GpuQueues :=
  let r := s.rings q
  match r.pc with
  | .disable => some (s.setRing q { r.virtqueueDisableNotify event with pc := .test })
  | .test =>
    if r.isEmpty then
      some { s.setRing q { r with pc := .load } with
        debt := if q = .control then .signal else .nothing }
    else some (s.setRing q { r with pc := .handle })
  | .handle =>
    if r.isEmpty then some (s.setRing q { r with pc := .test })
    else
      some { s.setRing q { r with taken := r.taken + 1, pc := .test } with
        debt := if hollow then .nothing else .command q }
  | .load =>
    if event then some (s.setRing q { r with pc := .store r.availIdx })
    else some (s.notifyEnabled q { r with noNotify := false })
  | .store a => some (s.notifyEnabled q { r with availEvent := a })
  | .finish => some { (s.injectIrq q).setRing q { r with pc := .parked } with running := none }
  | .parked | .top | .check | .recheck => none

/-- The main thread's next step; the mutex has to be free for what it does under it. -/
def gpuMainStep (event : Bool) (hollow : Bool) (s : GpuQueues) : Option GpuQueues :=
  match s.debt with
  | .command q =>
    if s.worker.holdsMutex then none
    else some { s with commands := s.commands ++ [q], debt := .nothing }
  | .signal =>
    if s.worker.holdsMutex then none
    else some { s with
      worker := if s.worker = .waiting then .lock else s.worker, debt := .nothing }
  | .nothing =>
    match s.running with
    | none => none
    | some q => gpuHandlerStep event q hollow s

/-- The worker's next step. Processing a command posts a used entry (`posts`) unless its
    header cannot be read. The interrupt behind the loop is for `from_queue` of a command
    that is freed: `reads` is what that memory holds (`none`: no queue of the device). -/
def gpuWorkerStep (posts : Bool) (reads : Option GpuQueue) (s : GpuQueues) : Option GpuQueues :=
  match s.worker with
  | .lock => some { s with worker := .test }
  | .test =>
    match s.commands with
    | [] => some { s with worker := .drained }
    | q :: rest => some { s with commands := rest, worker := .process q }
  | .process q =>
    some { s with
      owed := if posts then Function.update s.owed q true else s.owed
      requestCnt := s.requestCnt + 1
      lastFrom := some q
      worker := if virtioGpuMaxRequestBeforeKick ≤ s.requestCnt + 1 then .kick q else .lock }
  | .kick q => some { s.injectIrq q with requestCnt := 0, worker := .lock }
  | .drained =>
    if s.requestCnt = 0 then some { s with worker := .waiting }
    else reads.map fun q => { s.injectIrq q with requestCnt := 0 }
  | .waiting => none

inductive GpuAction where
  /-- The driver publishes `k` more buffers on a queue. -/
  | add (q : GpuQueue) (k : Nat)
  /-- The driver tests whether to kick, and does if so. -/
  | kickTest (q : GpuQueue)
  /-- The main thread takes a kick and enters the handler of the queue. -/
  | notify (q : GpuQueue)
  | main (hollow : Bool)
  /-- `pthread_cond_wait` returns without a signal. -/
  | wake
  | worker (posts : Bool) (reads : Option GpuQueue)
  deriving DecidableEq, Repr

def gpuStep (event : Bool) (s : GpuQueues) : GpuAction → Option GpuQueues
  | .add q k => (drainStep .netTx event (s.rings q) (.add k)).map (s.setRing q)
  | .kickTest q => (drainStep .netTx event (s.rings q) .kickTest).map (s.setRing q)
  | .notify q =>
    if s.running = none ∧ 0 < (s.rings q).kicks then
      some { s.setRing q { s.rings q with kicks := (s.rings q).kicks - 1, pc := .disable } with
        running := some q }
    else none
  | .main hollow => gpuMainStep event hollow s
  | .wake => if s.worker = .waiting then some { s with worker := .lock } else none
  | .worker posts reads => gpuWorkerStep posts reads s

def gpuQueuesMachine (event : Bool) : Machine GpuQueues GpuAction := ⟨gpuStep event⟩

/-- The rings are set up, and the worker starts. -/
def gpuQueuesStart : GpuQueues where
  rings _ := drainStart .netTx
  running := none
  debt := .nothing
  commands := []
  worker := .lock
  requestCnt := 0
  lastFrom := none
  owed _ := false

/-- **At rest**: no kick is pending or about to be sent, no handler runs, and the worker is
    blocked in its wait with no signal pending. -/
structure AtRest (event : Bool) (s : GpuQueues) : Prop where
  kicks : ∀ q, (s.rings q).kicks = 0
  driver : ∀ q, (s.rings q).aboutToKick event = false
  running : s.running = none
  worker : s.worker = .waiting

/-- **Nothing is left behind**: no command, no chain, no used entry without an interrupt. -/
structure NothingLeft (s : GpuQueues) : Prop where
  commands : s.commands = []
  rings : ∀ q, (s.rings q).availIdx = (s.rings q).lastAvailIdx
  owed : ∀ q, s.owed q = false

/-! ## 2. Careful steps -/

/-- The step of a handler that writes what lets the driver kick again. -/
def DrainState.reenables (event : Bool) (r : DrainState) : Bool :=
  match r.pc with
  | .load => !event
  | .store _ => true
  | _ => false

/-- **A careful step.** The driver keeps within the ring. A handler re-enables
    notifications while the ring is empty. A cursor command is inserted while the worker is
    not waiting. A command is processed while no used entry of the other queue waits for its
    interrupt. The memory of the last command is still intact when it is read. -/
def Careful (size : Nat) (event : Bool) (s : GpuQueues) : GpuAction → Prop
  | .add q k => withinRing size (s.rings q) (.add k)
  | .main _ =>
    match s.debt with
    | .command q => q = .cursor → s.worker ≠ .waiting
    | .signal => True
    | .nothing =>
      match s.running with
      | none => True
      | some q => (s.rings q).reenables event = true → (s.rings q).isEmpty = true
  | .worker _ reads =>
    match s.worker with
    | .process q => s.owed q.other = false
    | .drained => s.requestCnt ≠ 0 → reads = s.lastFrom
    | _ => True
  | .kickTest _ | .notify _ | .wake => True

/-! ## 3. The invariant -/

/-- The control handler has its signal still in front of it. -/
def GpuQueues.signalDue (s : GpuQueues) : Prop :=
  s.running = some .control ∧ (s.debt = .signal ∨
    (s.rings .control).pc = .disable ∨ (s.rings .control).pc = .test ∨
      (s.rings .control).pc = .handle)

/-- What holds between careful steps. -/
structure GpuQueuesInv (size : Nat) (event : Bool) (s : GpuQueues) : Prop where
  ring : ∀ q, DrainInv .netTx event size (s.rings q)
  parked : ∀ q, s.running ≠ some q → (s.rings q).pc = .parked
  idle : s.running = none → s.debt = .nothing
  command : ∀ q, s.debt = .command q → s.running = some q ∧ (s.rings q).pc = .test
  drained : s.worker = .drained → s.commands = []
  rest : s.worker = .waiting → (s.commands = [] ∨ s.signalDue) ∧ s.requestCnt = 0
  kick : ∀ q, s.worker = .kick q → s.lastFrom = some q
  owed : ∀ q, s.owed q = true → s.lastFrom = some q ∧ s.requestCnt ≠ 0

section Steps

variable {size : Nat} {event : Bool} {s s' : GpuQueues} {q : GpuQueue}

theorem GpuQueue.eq_other_of_ne {p : GpuQueue} (h : p ≠ q) : p = q.other := by
  cases p <;> cases q
  · exact absurd rfl h
  · rfl
  · rfl
  · exact absurd rfl h

theorem GpuQueues.rings_setRing (s : GpuQueues) (p q : GpuQueue) (r : DrainState) :
    (s.setRing q r).rings p = if p = q then r else s.rings p :=
  Function.update_apply s.rings q r p

theorem GpuQueues.owed_injectIrq (s : GpuQueues) (p q : GpuQueue) :
    (s.injectIrq q).owed p = if p = q then false else s.owed p :=
  Function.update_apply s.owed q false p

theorem gpuQueuesInv_start (size : Nat) (event : Bool) :
    GpuQueuesInv size event gpuQueuesStart where
  ring _ := drainInv_start .netTx event size
  parked _ _ := rfl
  idle _ := rfl
  command _ h := by cases h
  drained h := by cases h
  rest h := by cases h
  kick _ h := by cases h
  owed _ h := by cases h

variable {r : DrainState}

/-- Both rings keep their invariant where the new state of one does. -/
theorem GpuQueuesInv.ring_setRing (h : GpuQueuesInv size event s)
    (hr : DrainInv .netTx event size r) (p : GpuQueue) :
    DrainInv .netTx event size ((s.setRing q r).rings p) := by
  rw [GpuQueues.rings_setRing]
  split
  · exact hr
  · exact h.ring p

/-- A step of the driver: its ring changes, and no program point does. -/
theorem GpuQueuesInv.driver (h : GpuQueuesInv size event s) (hr : DrainInv .netTx event size r)
    (hpc : r.pc = (s.rings q).pc) : GpuQueuesInv size event (s.setRing q r) := by
  have hpcs : ∀ p, ((s.setRing q r).rings p).pc = (s.rings p).pc := by
    intro p
    rw [GpuQueues.rings_setRing]
    split
    · next hp => rw [hp, hpc]
    · rfl
  refine ⟨h.ring_setRing hr, fun p hp => ?_, h.idle, fun p hp => ?_, h.drained, fun hw => ?_,
    h.kick, h.owed⟩
  · rw [hpcs]
    exact h.parked p hp
  · rw [hpcs]
    exact h.command p hp
  · obtain ⟨hc, hz⟩ := h.rest hw
    refine ⟨hc.imp_right fun hdue => ?_, hz⟩
    unfold GpuQueues.signalDue
    rw [hpcs]
    exact hdue

/-- The handler has the last test of its loop still in front of it. -/
def DrainPc.Early (p : DrainPc) : Prop := p = .disable ∨ p = .test ∨ p = .handle

section Handler

variable (h : GpuQueuesInv size event s) (hrun : s.running = some q) (hdebt : s.debt = .nothing)

include h hrun hdebt

/-- A step inside a handler: the signal that was due is still due, or is next. -/
theorem GpuQueuesInv.handler (hr : DrainInv .netTx event size r)
    {d : MainDebt} (hcmd : ∀ p, d = .command p → p = q ∧ r.pc = .test)
    (hdue : q = .control → (s.rings q).pc.Early → d = .signal ∨ r.pc.Early) :
    GpuQueuesInv size event { s.setRing q r with debt := d } := by
  have hself : ({ s.setRing q r with debt := d } : GpuQueues).rings q = r :=
    (GpuQueues.rings_setRing s q q r).trans (if_pos rfl)
  refine ⟨h.ring_setRing hr, fun p hp => ?_, fun hn => ?_, fun p hp => ?_, h.drained,
    fun hw => ?_, h.kick, h.owed⟩
  · show ((s.setRing q r).rings p).pc = _
    have hne : p ≠ q := fun e => hp (e ▸ hrun)
    rw [GpuQueues.rings_setRing, if_neg hne]
    exact h.parked p hp
  · exact absurd (hrun.symm.trans hn) (Option.some_ne_none q)
  · obtain ⟨rfl, htest⟩ := hcmd p hp
    exact ⟨hrun, by rw [hself]; exact htest⟩
  · obtain ⟨hc, hz⟩ := h.rest hw
    refine ⟨hc.imp_right fun hold => ?_, hz⟩
    obtain ⟨hctl, hnext⟩ := hold
    have hq : q = .control := Option.some.inj (hrun.symm.trans hctl)
    subst hq
    have hpc := hnext.resolve_left (by rw [hdebt]; exact fun e => by cases e)
    refine ⟨hctl, ?_⟩
    rw [hself]
    exact hdue rfl hpc

/-- A handler returns. -/
theorem GpuQueuesInv.returns (hr : DrainInv .netTx event size r)
    (hpc : r.pc = .parked) (hlate : q = .control → ¬ (s.rings q).pc.Early) :
    GpuQueuesInv size event { s.setRing q r with running := none } := by
  refine ⟨h.ring_setRing hr, fun p _ => ?_, fun _ => hdebt, fun p hp => ?_, h.drained,
    fun hw => ?_, h.kick, h.owed⟩
  · show ((s.setRing q r).rings p).pc = _
    rw [GpuQueues.rings_setRing]
    split
    · exact hpc
    · next hne =>
      refine h.parked p fun e => hne ?_
      exact (Option.some.inj (hrun.symm.trans e)).symm
  · exact absurd (hdebt.symm.trans hp) (fun e => by cases e)
  · obtain ⟨hc, hz⟩ := h.rest hw
    refine ⟨.inl (hc.resolve_right fun hold => ?_), hz⟩
    obtain ⟨hctl, hnext⟩ := hold
    have hq : q = .control := Option.some.inj (hrun.symm.trans hctl)
    subst hq
    exact hlate rfl (hnext.resolve_left (by rw [hdebt]; exact fun e => by cases e))

end Handler

/-- An interrupt: what it clears was owed or not. -/
theorem GpuQueuesInv.injectIrq (h : GpuQueuesInv size event s) (q : GpuQueue) :
    GpuQueuesInv size event (s.injectIrq q) := by
  refine ⟨h.ring, h.parked, h.idle, h.command, h.drained, h.rest, h.kick, fun p hp => ?_⟩
  rw [GpuQueues.owed_injectIrq] at hp
  split at hp
  · cases hp
  · exact h.owed p hp

/-- The worker goes on to a point where it neither waits nor owes an interrupt. -/
theorem GpuQueuesInv.busy (h : GpuQueuesInv size event s) (cs : List GpuQueue)
    {p : GpuWorkerPc} (hd : p ≠ .drained) (hw : p ≠ .waiting) (hk : ∀ q, p ≠ .kick q) :
    GpuQueuesInv size event { s with commands := cs, worker := p } :=
  ⟨h.ring, h.parked, h.idle, h.command, fun e => absurd e hd, fun e => absurd e hw,
    fun q e => absurd e (hk q), h.owed⟩

/-- The interrupt for the queue of the last command leaves no queue owed one. -/
theorem GpuQueuesInv.owed_of_inject (h : GpuQueuesInv size event s)
    (hlast : s.lastFrom = some q) (p : GpuQueue) : (s.injectIrq q).owed p = false := by
  rw [GpuQueues.owed_injectIrq]
  split
  · rfl
  · next hne =>
    cases howed : s.owed p with
    | false => rfl
    | true =>
      obtain ⟨hl, _⟩ := h.owed p howed
      exact absurd (Option.some.inj (hl.symm.trans hlast)) hne

/-! ## 4. Steps of the main thread -/

/-- Notifications are enabled while the ring is empty: the ring is armed and nothing is
    left on it. -/
theorem DrainInv.enabled {r' : DrainState} {p : DrainPc} (h : DrainInv .netTx event size r)
    (hz : r.taken = r.added) (ha : Arms event r' r.taken)
    (hsame : r' = { r with noNotify := r'.noNotify, availEvent := r'.availEvent })
    (hp : p = .parked ∨ p = .finish) : DrainInv .netTx event size { r' with pc := p } := by
  rw [hsame] at ha ⊢
  refine ⟨h.le, h.room, h.old, h.advance, ?_⟩
  rcases hp with rfl | rfl
  · exact ⟨ha, .inl hz⟩
  · exact ⟨ha, fun _ => .inl hz⟩

/-- The end of a handler, behind `virtqueue_enable_notify`. -/
theorem GpuQueuesInv.notifyEnabled (h : GpuQueuesInv size event s) (hrun : s.running = some q)
    (hdebt : s.debt = .nothing)
    (hr : ∀ p, p = .parked ∨ p = .finish → DrainInv .netTx event size { r with pc := p })
    (hlate : ¬ (s.rings q).pc.Early) :
    GpuQueuesInv size event (s.notifyEnabled q r) := by
  cases q with
  | control => exact h.returns hrun hdebt (hr .parked (.inl rfl)) rfl fun _ => hlate
  | cursor =>
    have hnew := h.handler hrun hdebt (hr .finish (.inr rfl)) (d := s.debt)
      (fun p hp => absurd (hdebt.symm.trans hp) (fun e => by cases e))
      (fun e => by cases e)
    exact hnew

theorem GpuQueuesInv.handlerStep (h : GpuQueuesInv size event s) (hsize : size < 2 ^ 16)
    (hrun : s.running = some q) (hdebt : s.debt = .nothing) {hollow : Bool}
    (hcare : (s.rings q).reenables event = true → (s.rings q).isEmpty = true)
    (hs : gpuHandlerStep event q hollow s = some s') : GpuQueuesInv size event s' := by
  have hr := h.ring q
  have hempty := hr.isEmpty_iff hsize
  have hpcInv : PcInv .netTx event (s.rings q) (s.rings q).pc := hr.pc
  have hnone : ∀ p, s.debt = .command p → p = q ∧ False :=
    fun p hp => absurd (hdebt.symm.trans hp) (fun e => by cases e)
  -- A step that leaves the debt at nothing.
  have hmove : ∀ {r : DrainState}, DrainInv .netTx event size r →
      (q = .control → (s.rings q).pc.Early → r.pc.Early) →
      GpuQueuesInv size event (s.setRing q r) := by
    intro r hr' hdue
    have hnew := h.handler hrun hdebt hr' (d := s.debt) (fun p hp => absurd (hnone p hp).2 id)
      (fun hq hpc => .inr (hdue hq hpc))
    exact hnew
  unfold gpuHandlerStep at hs
  dsimp only at hs
  split at hs
  case h_1 hpc =>
      cases hs
      refine hmove ?_ fun _ _ => .inr (.inl rfl)
      unfold DrainState.virtqueueDisableNotify
      split <;> exact ⟨hr.le, hr.room, hr.old, hr.advance, trivial⟩
  case h_2 hpc =>
      split at hs
      · cases hs
        refine h.handler (r := { s.rings q with pc := .load }) hrun hdebt (hr.move trivial)
          (fun p hp => ?_) (fun hq _ => ?_)
        · split at hp <;> cases hp
        · exact .inl (if_pos hq)
      · next hne =>
        cases hs
        have hlt : (s.rings q).taken < (s.rings q).added := by
          have hle := hr.le
          have hne' : (s.rings q).taken ≠ (s.rings q).added := fun e => hne (hempty.mpr e)
          omega
        exact hmove (hr.move hlt) fun _ _ => .inr (.inr rfl)
  case h_3 hpc =>
      split at hs
      · cases hs
        exact hmove (hr.move trivial) fun _ _ => .inr (.inl rfl)
      · cases hs
        have hlt : (s.rings q).taken < (s.rings q).added := by
          rw [hpc] at hpcInv
          exact hpcInv
        have hroom := hr.room
        have hr' : DrainInv .netTx event size
            { s.rings q with taken := (s.rings q).taken + 1, pc := .test } :=
          ⟨hlt, by dsimp only; omega, hr.old, hr.advance, trivial⟩
        refine h.handler hrun hdebt hr' (fun p hp => ?_) (fun _ _ => .inr (.inr (.inl rfl)))
        split at hp
        · cases hp
        · cases hp
          exact ⟨rfl, rfl⟩
  case h_4 hpc =>
      split at hs
      · next hev =>
        cases hs
        refine hmove (hr.move ⟨hev, _, hr.le, Nat.le_refl _, rfl⟩) fun _ hearly => ?_
        rw [hpc] at hearly
        rcases hearly with e | e | e <;> cases e
      · next hev =>
        cases hs
        have hre : (s.rings q).reenables event = true := by
          unfold DrainState.reenables
          rw [hpc]
          exact (Bool.not_eq_true' event).mpr (Bool.not_eq_true _ ▸ hev)
        have hz := hempty.mp (hcare hre)
        refine h.notifyEnabled hrun hdebt (fun p hp => ?_) ?_
        · exact hr.enabled hz ⟨fun e => absurd e hev, fun _ => rfl⟩ rfl hp
        · rw [hpc]
          rintro (e | e | e) <;> cases e
  case h_5 a hpc =>
      cases hs
      have hre : (s.rings q).reenables event = true := by
        unfold DrainState.reenables
        rw [hpc]
      have hz := hempty.mp (hcare hre)
      rw [hpc] at hpcInv
      obtain ⟨hev, n, hn, hn', ha⟩ := hpcInv
      have e : n = (s.rings q).taken := by omega
      refine h.notifyEnabled hrun hdebt (fun p hp => ?_) ?_
      · refine hr.enabled hz ⟨fun _ => ?_, fun e' => ?_⟩ rfl hp
        · rw [ha, e]
        · rw [hev] at e'
          cases e'
      · rw [hpc]
        rintro (e | e | e) <;> cases e
  case h_6 hpc =>
      cases hs
      rw [hpc] at hpcInv
      have hfin := hpcInv.2 (fun e => by cases e)
      refine (h.injectIrq q).returns hrun hdebt (hr.move ⟨hpcInv.1, hfin⟩) rfl ?_
      rintro _ (e | e | e) <;> exact absurd (hpc.symm.trans e) (fun e => by cases e)
  all_goals cases hs

theorem GpuQueuesInv.mainStep (h : GpuQueuesInv size event s) (hsize : size < 2 ^ 16)
    {hollow : Bool} (hcare : Careful size event s (.main hollow))
    (hs : gpuMainStep event hollow s = some s') : GpuQueuesInv size event s' := by
  unfold Careful at hcare
  unfold gpuMainStep at hs
  cases hdebt : s.debt with
  | command q =>
    rw [hdebt] at hs hcare
    obtain ⟨hfree, rfl⟩ := unguarded hs
    obtain ⟨hrun, hpc⟩ := h.command q hdebt
    refine ⟨h.ring, h.parked, fun _ => rfl, fun p hp => ?_, fun hw => ?_, fun hw => ?_, h.kick,
      h.owed⟩
    · cases hp
    · exact absurd (congrArg GpuWorkerPc.holdsMutex hw) hfree
    · have hctl : q = .control := by
        cases q with
        | control => rfl
        | cursor => exact absurd hw (hcare rfl)
      subst hctl
      exact ⟨.inr ⟨hrun, .inr (.inr (.inl hpc))⟩, (h.rest hw).2⟩
  | signal =>
    rw [hdebt] at hs
    obtain ⟨hfree, rfl⟩ := unguarded hs
    -- whoever waited is awake now
    have hpcs : ∀ p, (if s.worker = .waiting then GpuWorkerPc.lock else s.worker) = p →
        p ≠ .lock → s.worker = p ∧ s.worker ≠ .waiting := by
      intro p hp hne
      split at hp
      · exact absurd hp.symm hne
      · next hw => exact ⟨hp, hw⟩
    refine ⟨h.ring, h.parked, fun _ => rfl, fun p hp => ?_, fun hw => ?_, fun hw => ?_,
      fun p hw => ?_, h.owed⟩
    · cases hp
    · exact h.drained (hpcs _ hw (fun e => by cases e)).1
    · obtain ⟨hw, hne⟩ := hpcs _ hw (fun e => by cases e)
      exact absurd hw hne
    · exact h.kick p (hpcs _ hw (fun e => by cases e)).1
  | nothing =>
    rw [hdebt] at hs hcare
    cases hrun : s.running with
    | none =>
      rw [hrun] at hs
      cases hs
    | some q =>
      rw [hrun] at hs hcare
      exact h.handlerStep hsize hrun hdebt hcare hs

/-! ## 5. Steps of the worker -/

theorem GpuQueuesInv.workerStep (h : GpuQueuesInv size event s) {posts : Bool}
    {reads : Option GpuQueue} (hcare : Careful size event s (.worker posts reads))
    (hs : gpuWorkerStep posts reads s = some s') : GpuQueuesInv size event s' := by
  unfold Careful at hcare
  unfold gpuWorkerStep at hs
  cases hw : s.worker with
  | lock =>
    rw [hw] at hs
    cases hs
    exact h.busy s.commands (by decide) (by decide) (fun _ e => by cases e)
  | test =>
    rw [hw] at hs
    dsimp only at hs
    split at hs
    · next hc =>
      cases hs
      exact ⟨h.ring, h.parked, h.idle, h.command, fun _ => hc, (fun e => by cases e),
        (fun _ e => by cases e), h.owed⟩
    · next q rest _ =>
      cases hs
      exact h.busy rest (fun e => by cases e) (fun e => by cases e) (fun _ e => by cases e)
  | process q =>
    rw [hw] at hs hcare
    cases hs
    refine ⟨h.ring, h.parked, h.idle, h.command, fun e => ?_, fun e => ?_, fun p e => ?_,
      fun p hp => ?_⟩
    · dsimp only at e
      split at e <;> cases e
    · dsimp only at e
      split at e <;> cases e
    · dsimp only at e
      split at e
      · cases e
        rfl
      · cases e
    · -- only this queue can be owed an interrupt now
      have hpq : p = q := by
        by_contra hne
        have hother : s.owed p = false := by
          rw [GpuQueue.eq_other_of_ne hne]
          exact hcare
        dsimp only at hp
        split at hp
        · rw [Function.update_of_ne hne, hother] at hp
          cases hp
        · rw [hother] at hp
          cases hp
      exact ⟨congrArg some hpq.symm, Nat.succ_ne_zero _⟩
  | kick q =>
    rw [hw] at hs
    cases hs
    have hnone := h.owed_of_inject (h.kick q hw)
    exact ⟨h.ring, h.parked, h.idle, h.command, (fun e => by cases e), (fun e => by cases e),
      (fun _ e => by cases e), fun p hp => absurd (hp.symm.trans (hnone p)) (by decide)⟩
  | drained =>
    rw [hw] at hs hcare
    dsimp only at hs
    split at hs
    · next hz =>
      cases hs
      exact ⟨h.ring, h.parked, h.idle, h.command, (fun e => by cases e),
        fun _ => ⟨.inl (h.drained hw), hz⟩, (fun _ e => by cases e), h.owed⟩
    · next hz =>
      obtain ⟨q, hq, hs⟩ := Option.map_eq_some_iff.mp hs
      cases hs
      have hnone := h.owed_of_inject ((hcare hz).symm.trans hq)
      refine ⟨h.ring, h.parked, h.idle, h.command, fun _ => h.drained hw, fun e => ?_,
        fun p e => ?_, fun p hp => ?_⟩
      · exact absurd (hw.symm.trans e) (fun e => by cases e)
      · exact absurd (hw.symm.trans e) (fun e => by cases e)
      · exact absurd (hp.symm.trans (hnone p)) (by decide)
  | waiting =>
    rw [hw] at hs
    cases hs

/-- **Every careful step keeps the invariant.** -/
theorem gpuQueuesInv_step (hsize : size < 2 ^ 16) {a : GpuAction}
    (h : GpuQueuesInv size event s) (hcare : Careful size event s a)
    (hs : gpuStep event s a = some s') : GpuQueuesInv size event s' := by
  cases a with
  | add q k =>
    obtain ⟨r, hr, hs⟩ := Option.map_eq_some_iff.mp hs
    cases hs
    have hpc : r.pc = (s.rings q).pc := by
      obtain ⟨_, rfl⟩ := unguarded hr
      rfl
    exact h.driver (drainInv_step hsize (h.ring q) (a := .add k) ⟨hcare, trivial⟩ hr) hpc
  | kickTest q =>
    obtain ⟨r, hr, hs⟩ := Option.map_eq_some_iff.mp hs
    cases hs
    have hstep := drainInv_step hsize (h.ring q) (a := .kickTest) ⟨trivial, trivial⟩ hr
    refine h.driver hstep ?_
    simp only [drainStep] at hr
    split at hr
    · cases hr
    · cases hr
      rfl
  | notify q =>
    obtain ⟨⟨hidle, _⟩, rfl⟩ := guarded hs
    have hr := h.ring q
    refine ⟨h.ring_setRing ⟨hr.le, hr.room, hr.old, hr.advance, trivial⟩, fun p hp => ?_,
      (fun e => by cases e), fun p hp => ?_, h.drained, fun hw => ?_, h.kick, h.owed⟩
    · show ((s.setRing q _).rings p).pc = _
      have hne : p ≠ q := fun e => hp (congrArg some e.symm)
      rw [GpuQueues.rings_setRing, if_neg hne]
      exact h.parked p (by rw [hidle]; exact fun e => by cases e)
    · exact absurd ((h.idle hidle).symm.trans hp) (fun e => by cases e)
    · obtain ⟨hc, hz⟩ := h.rest hw
      refine ⟨.inl (hc.resolve_right fun hdue => ?_), hz⟩
      exact absurd (hidle.symm.trans hdue.1) (fun e => by cases e)
  | main hollow => exact h.mainStep hsize hcare hs
  | wake =>
    obtain ⟨_, rfl⟩ := guarded hs
    exact h.busy s.commands (by decide) (by decide) (fun _ e => by cases e)
  | worker posts reads => exact h.workerStep hcare hs

end Steps

/-! ## 6. At rest -/

/-- **Nothing is stranded where every step is careful**: in both notification modes, under
    every interleaving of the driver, the main thread and the worker, whenever the device
    is at rest the command queue and both rings are empty, and on both queues an interrupt
    was injected behind the last used entry. -/
theorem gpu_not_stranded (event : Bool) (size : Nat) (hsize : size < 2 ^ 16) (s : GpuQueues)
    (h : (gpuQueuesMachine event).Path (Careful size event) gpuQueuesStart s)
    (hrest : AtRest event s) : NothingLeft s := by
  have hinv : GpuQueuesInv size event s :=
    h.inv (GpuQueuesInv size event) (gpuQueuesInv_start size event)
      fun _ _ _ hi hcare hs => gpuQueuesInv_step hsize hi hcare hs
  obtain ⟨hc, hz⟩ := hinv.rest hrest.worker
  refine ⟨hc.resolve_right fun hdue => ?_, fun q => ?_, fun q => ?_⟩
  · exact absurd (hrest.running.symm.trans hdue.1) (fun e => by cases e)
  · have hparked := hinv.parked q (by rw [hrest.running]; exact fun e => by cases e)
    have hr := hinv.ring q
    have hpc : PcInv .netTx event (s.rings q) .parked := hparked ▸ hr.pc
    obtain ⟨harms, hz | hk | ⟨old, hd, ho⟩⟩ := hpc
    · exact congrArg UInt16.ofNat hz.symm
    · have hk0 := hrest.kicks q
      omega
    · -- buffers that came after the last one taken: the driver would kick for them
      by_cases hlt : (s.rings q).taken < (s.rings q).added
      · have hadv := hr.advance
        have hquiet := hrest.driver q
        unfold DrainState.driverOld at hadv
        unfold DrainState.aboutToKick at hquiet
        rw [hd] at hadv hquiet
        dsimp only at hadv hquiet
        rw [wantsKick_of_arms harms ho hlt (by omega)] at hquiet
        cases hquiet
      · have hle := hr.le
        exact congrArg UInt16.ofNat (by omega)
  · cases howed : s.owed q with
    | false => rfl
    | true => exact absurd hz (hinv.owed q howed).2

instance (size : Nat) (event : Bool) (s : GpuQueues) :
    (a : GpuAction) → Decidable (Careful size event s a)
  | .add _ _ => inferInstanceAs (Decidable (_ ∧ _))
  | .main _ =>
    match hdebt : s.debt with
    | .command q =>
      decidable_of_iff (q = .cursor → s.worker ≠ .waiting) (by rw [Careful, hdebt])
    | .signal => .isTrue (by rw [Careful, hdebt]; trivial)
    | .nothing =>
      match hrun : s.running with
      | none => .isTrue (by rw [Careful, hdebt, hrun]; trivial)
      | some q =>
        decidable_of_iff
          ((s.rings q).reenables event = true → (s.rings q).isEmpty = true)
          (by rw [Careful, hdebt, hrun])
  | .worker _ reads =>
    match hw : s.worker with
    | .process q => decidable_of_iff (s.owed q.other = false) (by rw [Careful, hw])
    | .drained =>
      decidable_of_iff (s.requestCnt ≠ 0 → reads = s.lastFrom) (by rw [Careful, hw])
    | .lock | .test | .kick _ | .waiting => .isTrue (by rw [Careful, hw]; trivial)
  | .kickTest _ | .notify _ | .wake => inferInstanceAs (Decidable True)

/-- The driver publishes a buffer, tests, and the main thread takes the kick. -/
def kickIn (q : GpuQueue) : List GpuAction := [.add q 1, .kickTest q, .notify q]

/-- The main thread takes `n` steps, all chains having buffers. -/
def mainSteps (n : Nat) : List GpuAction := List.replicate n (.main false)

/-- The worker takes `n` steps, all commands being answered; the memory of the freed
    command holds `q`. -/
def workerSteps (n : Nat) (q : GpuQueue) : List GpuAction :=
  List.replicate n (.worker true (some q))

/-- What tells whether a state is at rest and what is left. -/
structure GpuView where
  running : Option GpuQueue
  worker : GpuWorkerPc
  commands : List GpuQueue
  control : DrainState
  cursor : DrainState
  owedCursor : Bool
  deriving DecidableEq, Repr

def GpuQueues.view (s : GpuQueues) : GpuView :=
  ⟨s.running, s.worker, s.commands, s.rings .control, s.rings .cursor, s.owed .cursor⟩

/-- A view at rest. -/
def GpuView.atRest (event : Bool) (v : GpuView) : Bool :=
  v.running.isNone && v.worker = .waiting &&
    [v.control, v.cursor].all fun r => r.kicks = 0 && !r.aboutToKick event

/-- A state at rest, read off its view. -/
theorem atRest_of_view (event : Bool) {s : GpuQueues} {v : GpuView} (h : s.view = v)
    (hv : v.atRest event = true) : AtRest event s := by
  subst h
  simp only [GpuView.atRest, GpuQueues.view, List.all_cons, List.all_nil, Bool.and_eq_true,
    Option.isNone_iff_eq_none, decide_eq_true_eq, Bool.not_eq_true', Bool.and_true] at hv
  obtain ⟨⟨hrun, hw⟩, ⟨hk₁, hd₁⟩, hk₂, hd₂⟩ := hv
  refine ⟨fun q => ?_, fun q => ?_, hrun, of_decide_eq_true hw⟩
  · cases q with
    | control => exact hk₁
    | cursor => exact hk₂
  · cases q with
    | control => exact hd₁
    | cursor => exact hd₂

/-- A ring with `added` buffers published, `taken` taken, and nothing under way. -/
def quietRing (added taken : Nat) (availEvent : UInt16) : DrainState :=
  { added := added, taken := taken, noNotify := false, availEvent := availEvent, kicks := 0,
    driver := .idle, pc := .parked }

/-- A cursor request that is inserted before the worker first waits, then a control
    request, both up to their interrupts. -/
theorem gpu_not_stranded_both :
    ∃ s, (gpuQueuesMachine true).Path (Careful 8 true) gpuQueuesStart s ∧ AtRest true s ∧
      (s.rings .control).taken = 1 ∧ (s.rings .cursor).taken = 1 ∧ NothingLeft s := by
  have hrun : ((gpuQueuesMachine true).runWhile (Careful 8 true) gpuQueuesStart
      (kickIn .cursor ++ mainSteps 8 ++ workerSteps 7 .cursor ++ kickIn .control ++
        mainSteps 8 ++ workerSteps 7 .control)).map GpuQueues.view =
      some ⟨none, .waiting, [], quietRing 1 1 1, quietRing 1 1 1, false⟩ := by
    decide
  obtain ⟨s, hs, hv⟩ := Option.map_eq_some_iff.mp hrun
  have hpath := Machine.path_of_runWhile hs
  have hrest := atRest_of_view true hv (by decide)
  have hctl : (s.rings .control).taken = 1 := congrArg (fun v => v.control.taken) hv
  have hcur : (s.rings .cursor).taken = 1 := congrArg (fun v => v.cursor.taken) hv
  exact ⟨s, hpath, hrest, hctl, hcur, gpu_not_stranded true 8 (by decide) s hpath hrest⟩

/-- **Requests are stranded in three ways.** A control buffer that is added between the
    handler's last test and its re-enabling of notifications stays on the ring. A cursor
    command that comes while the worker waits stays in the command queue. A cursor command
    and a control command in one batch leave the cursor queue without an interrupt. -/
theorem gpu_stranded :
    (∃ s, (gpuQueuesMachine false).Reach gpuQueuesStart s ∧ AtRest false s ∧
      (s.rings .control).availIdx ≠ (s.rings .control).lastAvailIdx) ∧
    (∃ s, (gpuQueuesMachine false).Reach gpuQueuesStart s ∧ AtRest false s ∧
      s.commands = [.cursor]) ∧
    (∃ s, (gpuQueuesMachine false).Reach gpuQueuesStart s ∧ AtRest false s ∧
      s.owed .cursor = true) := by
  refine ⟨?_, ?_, ?_⟩
  · have hrun : ((gpuQueuesMachine false).run gpuQueuesStart
        (kickIn .control ++ mainSteps 6 ++ [.add .control 1, .kickTest .control] ++ mainSteps 1 ++
          workerSteps 7 .control)).map GpuQueues.view =
        some ⟨none, .waiting, [], quietRing 2 1 0, quietRing 0 0 0, false⟩ := by
      decide
    obtain ⟨s, hs, hv⟩ := Option.map_eq_some_iff.mp hrun
    have hring : s.rings .control = quietRing 2 1 0 := congrArg (fun v => v.control) hv
    refine ⟨s, Machine.reach_of_run hs, atRest_of_view false hv (by decide), ?_⟩
    rw [hring]
    decide
  · have hrun : ((gpuQueuesMachine false).run gpuQueuesStart
        (workerSteps 3 .cursor ++ kickIn .cursor ++ mainSteps 7)).map GpuQueues.view =
        some ⟨none, .waiting, [.cursor], quietRing 0 0 0, quietRing 1 1 0, false⟩ := by
      decide
    obtain ⟨s, hs, hv⟩ := Option.map_eq_some_iff.mp hrun
    have hcmds : s.commands = [.cursor] := congrArg (fun v => v.commands) hv
    exact ⟨s, Machine.reach_of_run hs, atRest_of_view false hv (by decide), hcmds⟩
  · have hrun : ((gpuQueuesMachine false).run gpuQueuesStart
        (kickIn .cursor ++ mainSteps 7 ++ kickIn .control ++ mainSteps 7 ++
          workerSteps 10 .control)).map GpuQueues.view =
        some ⟨none, .waiting, [], quietRing 1 1 0, quietRing 1 1 0, true⟩ := by
      decide
    obtain ⟨s, hs, hv⟩ := Option.map_eq_some_iff.mp hrun
    have howed : s.owed .cursor = true := congrArg (fun v => v.owedCursor) hv
    exact ⟨s, Machine.reach_of_run hs, atRest_of_view false hv (by decide), howed⟩

end HvisorTool
