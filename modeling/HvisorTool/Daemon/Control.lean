/-
  File:      HvisorTool/Daemon/Control.lean
  Subject:   THE CONTROL SERVER AND ITS SHUTDOWN: `virtio_control_loop` against
             `stop_virtio_control_server`.

  Two threads share an atomic flag, the number of the descriptor of the current client and
  the lock on that number. Every access to one of them, every call on a socket and every
  taking and release of the lock is one step. Clients may connect, stall and disconnect at
  any point: what `accept`, `read` and `write` answer is part of the step. Other threads
  open and close descriptors of their own, so that numbers are used again.

  The part of `handle_control_client` between its reads and the test of the flag serves the
  request and touches none of this; its own descriptors are those of other threads here.

  * `LoopPc`, `StopPc`: where the two threads stand; `loopStep`, `stopStep`: their steps;
  * `ctrlMachine`: the two of them and the other threads;
  * `LoopMove`, `loopStep_move`: the steps of the loop by what they do to the shared state;
  * `CtrlInv`: what holds up to `pthread_join`; `ctrlSafe_path`: in every run;
  * `control_stop_cannot_hang`: a thread that waits for the loop never waits for a call on a
    socket that is not shut down.
-/
import HvisorTool.Library.Machine

namespace HvisorTool

open Library

/-! ## 1. The two threads -/

/-- A client of the loop: the number that `accept` returned, and the socket behind it. -/
structure CtrlClient where
  fd : Nat
  file : Nat
  deriving DecidableEq, Repr

/-- Where the loop thread stands: at the call or the access that comes next. -/
inductive LoopPc where
  | check
  | accepting
  /-- `accept` failed; `listed` for the three numbers that the first test names. -/
  | failed (listed : Bool)
  | failedAgain
  | lockClient (c : CtrlClient)
  | recheck (c : CtrlClient)
  | refuseUnlock (c : CtrlClient)
  | refuseShutdown (c : CtrlClient)
  | refuseClose (c : CtrlClient)
  | publish (c : CtrlClient)
  | publishUnlock (c : CtrlClient)
  /-- In the `read` of `read_full`, with so many bytes there. -/
  | reading (c : CtrlClient) (off : Nat)
  | serving (c : CtrlClient)
  /-- In the `write` of `write_full`. -/
  | writing (c : CtrlClient) (off : Nat)
  | clearLock (c : CtrlClient)
  | clearTest (c : CtrlClient)
  | clearStore (c : CtrlClient)
  | clearUnlock (c : CtrlClient)
  | closing (c : CtrlClient)
  | done
  deriving DecidableEq, Repr

namespace LoopPc

/-- The client whose descriptor the loop has not closed yet. -/
def client : LoopPc → Option CtrlClient
  | lockClient c | recheck c | refuseUnlock c | refuseShutdown c | refuseClose c | publish c
  | publishUnlock c | reading c _ | serving c | writing c _ | clearLock c | clearTest c
  | clearStore c | clearUnlock c | closing c => some c
  | _ => none

/-- The client whose number stands in `ctrl_client_fd`. -/
def published : LoopPc → Option CtrlClient
  | publishUnlock c | reading c _ | serving c | writing c _ | clearLock c | clearTest c
  | clearStore c => some c
  | _ => none

/-- The loop holds `ctrl_client_lock`. -/
def locks : LoopPc → Bool
  | recheck _ | refuseUnlock _ | publish _ | publishUnlock _ | clearTest _ | clearStore _
  | clearUnlock _ => true
  | _ => false

theorem client_of_published {p : LoopPc} {c : CtrlClient} (h : p.published = some c) :
    p.client = some c := by
  cases p <;> first | exact h | cases h

end LoopPc

/-- Where the stopping thread stands. A number of -1 is `none`. -/
inductive StopPc where
  | entry
  | storeFlag
  | shutListen
  | lockCopy
  | copy
  | copyUnlock (clientFd : Option Nat)
  | shutClient (clientFd : Option Nat)
  | join
  | lockReset
  | reset
  | resetUnlock
  | closeListen
  | done
  deriving DecidableEq, Repr

namespace StopPc

/-- How far the thread has come; it never goes back. -/
@[simp] def rank : StopPc → Nat
  | entry => 0
  | storeFlag => 1
  | shutListen => 2
  | lockCopy => 3
  | copy => 4
  | copyUnlock _ => 5
  | shutClient _ => 6
  | join => 7
  | lockReset => 8
  | reset => 9
  | resetUnlock => 10
  | closeListen => 11
  | done => 12

@[simp] def locks : StopPc → Bool
  | copy | copyUnlock _ | reset | resetUnlock => true
  | _ => false

/-- The copy of `ctrl_client_fd` that is still to be shut down. -/
@[simp] def copied : StopPc → Option Nat
  | copyUnlock fd | shutClient fd => fd
  | _ => none

end StopPc

/-- The two threads. -/
inductive CtrlThread where
  | loop
  | stop
  deriving DecidableEq, Repr

/-- `accepted` and `closed` are the history of the loop's descriptors, oldest first. -/
structure CtrlState where
  running : Bool
  threadStarted : Bool
  ctrlFd : Option Nat
  clientFd : Option Nat
  lock : Option CtrlThread
  /-- The descriptors of the process and what they refer to. -/
  table : Nat → Option Nat
  nextFile : Nat
  shut : Nat → Bool
  loop : LoopPc
  stop : StopPc
  accepted : List CtrlClient
  closed : List CtrlClient

/-- `errno`, as far as the loop tells the numbers apart. -/
inductive AcceptErrno where
  | eintr
  | listed
  | other
  deriving DecidableEq, Repr

/-- What a call answers; `go` for a step that is no such call. -/
inductive LoopAnswer where
  | go
  | accepted (fd : Nat)
  | acceptFailed (errno : AcceptErrno)
  | transferred (n : Nat)
  | transferFailed (eintr : Bool)
  deriving DecidableEq, Repr

/-- `sizeof(VirtioControlRequest)`. -/
def ctrlRequestSize : Nat := 16 + 4096

/-- `sizeof(VirtioControlResponse)`. -/
def ctrlResponseSize : Nat := 4 + 256

namespace CtrlState

def toLoop (s : CtrlState) (p : LoopPc) : CtrlState := { s with loop := p }

def toStop (s : CtrlState) (p : StopPc) : CtrlState := { s with stop := p }

/-- `shutdown(fd, SHUT_RDWR)`, on whatever the number refers to. -/
def shutdown (s : CtrlState) (fd : Nat) : CtrlState :=
  match s.table fd with
  | some file => { s with shut := Function.update s.shut file true }
  | none => s

/-- `accept` returned `fd`: a new socket behind a number that was free. -/
def accept (s : CtrlState) (fd : Nat) : CtrlState :=
  { s with
    table := Function.update s.table fd (some s.nextFile)
    nextFile := s.nextFile + 1
    accepted := s.accepted ++ [⟨fd, s.nextFile⟩] }

/-- `close(client_fd)` of the loop. -/
def closeClient (s : CtrlState) (c : CtrlClient) : CtrlState :=
  { s with table := Function.update s.table c.fd none, closed := s.closed ++ [c] }

end CtrlState

/-- `read_full` and `write_full`: behind a call that moved `n` bytes. -/
def transferNext (size off n : Nat) (more : Nat → LoopPc) (full short : LoopPc) : Option LoopPc :=
  if n = 0 then some short
  else if off + n < size then some (more (off + n))
  else if off + n = size then some full
  else none

/-- A step of `virtio_control_loop`. -/
def loopStep (s : CtrlState) (a : LoopAnswer) : Option CtrlState :=
  match s.loop, a with
  | .check, .go => some (s.toLoop (if s.running then .accepting else .done))
  | .accepting, .accepted fd =>
    if s.table fd = none then some ((s.accept fd).toLoop (.lockClient ⟨fd, s.nextFile⟩)) else none
  | .accepting, .acceptFailed errno =>
    some (s.toLoop (match errno with
      | .eintr => .check
      | .listed => .failed true
      | .other => .failed false))
  | .failed listed, .go =>
    some (s.toLoop (if s.running = false ∧ listed = true then .done else .failedAgain))
  | .failedAgain, .go => some (s.toLoop (if s.running = false then .done else .check))
  | .lockClient c, .go =>
    if s.lock = none then some ({ s with lock := some .loop }.toLoop (.recheck c)) else none
  | .recheck c, .go => some (s.toLoop (if s.running then .publish c else .refuseUnlock c))
  | .refuseUnlock c, .go => some ({ s with lock := none }.toLoop (.refuseShutdown c))
  | .refuseShutdown c, .go => some ((s.shutdown c.fd).toLoop (.refuseClose c))
  | .refuseClose c, .go => some ((s.closeClient c).toLoop .done)
  | .publish c, .go => some ({ s with clientFd := some c.fd }.toLoop (.publishUnlock c))
  | .publishUnlock c, .go => some ({ s with lock := none }.toLoop (.reading c 0))
  | .reading c off, .transferred n =>
    (transferNext ctrlRequestSize off n (.reading c) (.serving c) (.clearLock c)).map s.toLoop
  | .reading c off, .transferFailed eintr =>
    some (s.toLoop (if eintr then .reading c off else .clearLock c))
  -- the flag is tested again before the response is written
  | .serving c, .go => some (s.toLoop (if s.running then .writing c 0 else .clearLock c))
  | .writing c off, .transferred n =>
    (transferNext ctrlResponseSize off n (.writing c) (.clearLock c) (.clearLock c)).map s.toLoop
  | .writing c off, .transferFailed eintr =>
    some (s.toLoop (if eintr then .writing c off else .clearLock c))
  | .clearLock c, .go =>
    if s.lock = none then some ({ s with lock := some .loop }.toLoop (.clearTest c)) else none
  | .clearTest c, .go =>
    some (s.toLoop (if s.clientFd = some c.fd then .clearStore c else .clearUnlock c))
  | .clearStore c, .go => some ({ s with clientFd := none }.toLoop (.clearUnlock c))
  | .clearUnlock c, .go => some ({ s with lock := none }.toLoop (.closing c))
  | .closing c, .go => some ((s.closeClient c).toLoop .check)
  | _, _ => none

/-- A step of `stop_virtio_control_server`. -/
def stopStep (s : CtrlState) : Option CtrlState :=
  match s.stop with
  | .entry =>
    some (s.toStop (if s.threadStarted = false ∧ s.ctrlFd = none then .done else .storeFlag))
  | .storeFlag => some ({ s with running := false }.toStop .shutListen)
  | .shutListen =>
    some ((match s.ctrlFd with
      | some fd => s.shutdown fd
      | none => s).toStop .lockCopy)
  | .lockCopy =>
    if s.lock = none then some ({ s with lock := some .stop }.toStop .copy) else none
  | .copy => some (s.toStop (.copyUnlock s.clientFd))
  | .copyUnlock fd => some ({ s with lock := none }.toStop (.shutClient fd))
  | .shutClient fd =>
    some ((match fd with
      | some fd => s.shutdown fd
      | none => s).toStop (if s.threadStarted then .join else .lockReset))
  | .join =>
    if s.loop = .done then some ({ s with threadStarted := false }.toStop .lockReset) else none
  | .lockReset =>
    if s.lock = none then some ({ s with lock := some .stop }.toStop .reset) else none
  | .reset => some ({ s with clientFd := none }.toStop .resetUnlock)
  | .resetUnlock => some ({ s with lock := none }.toStop .closeListen)
  | .closeListen =>
    some ((match s.ctrlFd with
      | some fd => { s with table := Function.update s.table fd none, ctrlFd := none }
      | none => s).toStop .done)
  | .done => none

inductive CtrlAction where
  | loop (a : LoopAnswer)
  | stop
  /-- Another thread opens a descriptor, or closes one of its own. -/
  | openFd (fd : Nat)
  | closeFd (fd : Nat)
  deriving DecidableEq, Repr

def ctrlStep (s : CtrlState) : CtrlAction → Option CtrlState
  | .loop a => loopStep s a
  | .stop => stopStep s
  | .openFd fd =>
    if s.table fd = none then
      some { s with
        table := Function.update s.table fd (some s.nextFile), nextFile := s.nextFile + 1 }
    else none
  | .closeFd fd =>
    if s.ctrlFd = some fd ∨ s.loop.client.map (·.fd) = some fd then none
    else some { s with table := Function.update s.table fd none }

/-- **The control server**, its shutdown, and the other threads of the daemon. -/
def ctrlMachine : Machine CtrlState CtrlAction := ⟨ctrlStep⟩

/-- What `start_virtio_control_server` leaves when it returns 0: the flag set, the thread
    started, and a listening socket behind `fd` among the descriptors there are. -/
def ctrlStart (table : Nat → Option Nat) (nextFile fd : Nat) : CtrlState :=
  { running := true, threadStarted := true, ctrlFd := some fd, clientFd := none, lock := none
    table := Function.update table fd (some nextFile), nextFile := nextFile + 1
    shut := fun _ => false, loop := .check, stop := .entry, accepted := [], closed := [] }

/-! ## 2. What a step of the loop does -/

/-- The steps of the loop, by what they do to the shared state. -/
inductive LoopMove (s : CtrlState) : CtrlState → Prop where
  /-- The thread moves on and nothing else happens. -/
  | quiet (p : LoopPc) (hclient : p.client = s.loop.client)
      (hpublished : p.published = s.loop.published) (hlocks : p.locks = s.loop.locks)
      (hpublish : ∀ c, p = .publish c → s.running = true) : LoopMove s (s.toLoop p)
  | accept (fd : Nat) (hpc : s.loop = .accepting) (hfree : s.table fd = none) :
      LoopMove s ((s.accept fd).toLoop (.lockClient ⟨fd, s.nextFile⟩))
  | take (p : LoopPc) (hfree : s.lock = none) (hclient : p.client = s.loop.client)
      (hpublished : p.published = s.loop.published) (hlocks : p.locks = true)
      (hpublish : ∀ c, p ≠ .publish c) : LoopMove s ({ s with lock := some .loop }.toLoop p)
  | release (p : LoopPc) (hheld : s.loop.locks = true) (hclient : p.client = s.loop.client)
      (hpublished : p.published = s.loop.published) (hlocks : p.locks = false)
      (hpublish : ∀ c, p ≠ .publish c) : LoopMove s ({ s with lock := none }.toLoop p)
  | publish (c : CtrlClient) (hpc : s.loop = .publish c) :
      LoopMove s ({ s with clientFd := some c.fd }.toLoop (.publishUnlock c))
  | skip (c : CtrlClient) (hpc : s.loop = .clearTest c) (hother : s.clientFd ≠ some c.fd) :
      LoopMove s (s.toLoop (.clearUnlock c))
  | clear (c : CtrlClient) (hpc : s.loop = .clearStore c) :
      LoopMove s ({ s with clientFd := none }.toLoop (.clearUnlock c))
  | refuse (c : CtrlClient) (hpc : s.loop = .refuseShutdown c) :
      LoopMove s ((s.shutdown c.fd).toLoop (.refuseClose c))
  | close (c : CtrlClient) (p : LoopPc) (hpc : s.loop = .refuseClose c ∨ s.loop = .closing c)
      (hnext : p = .done ∨ p = .check) : LoopMove s ((s.closeClient c).toLoop p)

variable {s s' : CtrlState}

/-- A move of the thread between places that mean the same. -/
theorem LoopMove.same {p : LoopPc} (hclient : p.client = s.loop.client)
    (hpublished : p.published = s.loop.published) (hlocks : p.locks = s.loop.locks)
    (hpublish : ∀ c, p ≠ .publish c) : LoopMove s (s.toLoop p) :=
  .quiet p hclient hpublished hlocks fun c h => absurd h (hpublish c)

/-- The two ways on behind a test. -/
theorem LoopMove.branch {b : Prop} [Decidable b] {p q : LoopPc} (hp : b → LoopMove s (s.toLoop p))
    (hq : ¬ b → LoopMove s (s.toLoop q)) : LoopMove s (s.toLoop (if b then p else q)) := by
  split
  · next hb => exact hp hb
  · next hb => exact hq hb

/-- Behind a call that moves bytes the thread is where it still serves its client. -/
theorem transfer_move {c : CtrlClient} {size off n : Nat}
    {more : Nat → LoopPc} {full short : LoopPc}
    (hs : s.loop.client = some c ∧ s.loop.published = some c ∧ s.loop.locks = false)
    (hp : ∀ p, (p = full ∨ p = short ∨ ∃ k, p = more k) →
      p.client = some c ∧ p.published = some c ∧ p.locks = false ∧ ∀ c, p ≠ .publish c)
    (h : (transferNext size off n more full short).map s.toLoop = some s') : LoopMove s s' := by
  obtain ⟨p, hnext, rfl⟩ := Option.map_eq_some_iff.mp h
  have hplace : p = full ∨ p = short ∨ ∃ k, p = more k := by
    unfold transferNext at hnext
    split at hnext
    · cases hnext
      exact .inr (.inl rfl)
    · split at hnext
      · cases hnext
        exact .inr (.inr ⟨_, rfl⟩)
      · obtain ⟨-, rfl⟩ := guarded hnext
        exact .inl rfl
  obtain ⟨hclient, hpublished, hlocks, hpublish⟩ := hp p hplace
  exact .same (hclient.trans hs.1.symm) (hpublished.trans hs.2.1.symm)
    (hlocks.trans hs.2.2.symm) hpublish

/-- **What the loop can do.** -/
theorem loopStep_move {a : LoopAnswer} (h : loopStep s a = some s') : LoopMove s s' := by
  -- between places `p` and `q` with the same client, published or not, and the same lock
  have same : ∀ {p q : LoopPc}, s.loop = q → p.client = q.client → p.published = q.published →
      p.locks = q.locks → (∀ c, p ≠ .publish c) → LoopMove s (s.toLoop p) := by
    intro p q hpc hclient hpublished hlocks hpublish
    subst hpc
    exact .same hclient hpublished hlocks hpublish
  unfold loopStep at h
  split at h
  case h_1 hpc | h_4 _ hpc | h_5 hpc | h_14 _ _ _ hpc | h_15 _ hpc | h_17 _ _ _ hpc =>
    cases h
    exact .branch (fun _ => same hpc rfl rfl rfl nofun) fun _ => same hpc rfl rfl rfl nofun
  case h_2 fd hpc =>
    obtain ⟨hfree, rfl⟩ := guarded h
    exact .accept fd hpc hfree
  case h_3 errno hpc =>
    cases h
    cases errno with
    | eintr | listed | other => exact same hpc rfl rfl rfl nofun
  case h_6 _ hpc | h_18 _ hpc =>
    obtain ⟨hfree, rfl⟩ := guarded h
    exact .take _ hfree (by rw [hpc]; rfl) (by rw [hpc]; rfl) rfl nofun
  case h_7 c hpc =>
    cases h
    refine .branch (fun hrun => ?_) fun _ => same hpc rfl rfl rfl nofun
    exact .quiet _ (by rw [hpc]; rfl) (by rw [hpc]; rfl) (by rw [hpc]; rfl) fun _ _ => hrun
  case h_8 _ hpc | h_12 _ hpc | h_21 _ hpc =>
    cases h
    exact .release _ (by rw [hpc]; rfl) (by rw [hpc]; rfl) (by rw [hpc]; rfl) rfl nofun
  case h_9 c hpc =>
    cases h
    exact .refuse c hpc
  case h_10 c hpc =>
    cases h
    exact .close c _ (.inl hpc) (.inl rfl)
  case h_11 c hpc =>
    cases h
    exact .publish c hpc
  case h_13 _ _ _ hpc | h_16 _ _ _ hpc =>
    refine transfer_move (by rw [hpc]; exact ⟨rfl, rfl, rfl⟩) ?_ h
    rintro p (rfl | rfl | ⟨k, rfl⟩) <;> exact ⟨rfl, rfl, rfl, nofun⟩
  case h_19 c hpc =>
    cases h
    exact .branch (fun _ => same hpc rfl rfl rfl nofun) fun hother => .skip c hpc hother
  case h_20 c hpc =>
    cases h
    exact .clear c hpc
  case h_22 c hpc =>
    cases h
    exact .close c _ (.inr hpc) (.inr rfl)
  case h_23 => cases h

/-! ## 3. What holds until the stopping thread has joined the loop -/

/-- The state up to `pthread_join`: the listening socket `file` is behind `fd`; the number of
    the published client is in `ctrl_client_fd`, and the loop alone can close the client it
    has; the flag is cleared first, no client is published from then on, and one that was
    published is copied and shut down. -/
structure CtrlInv (fd file : Nat) (s : CtrlState) : Prop where
  started : s.threadStarted = true
  listening : s.ctrlFd = some fd ∧ s.table fd = some file
  clientFd : s.clientFd = s.loop.published.map (·.fd)
  client : ∀ c, s.loop.client = some c → s.table c.fd = some c.file ∧ c.fd ≠ fd
  lockLoop : s.lock = some .loop ↔ s.loop.locks = true
  lockStop : s.lock = some .stop ↔ s.stop.locks = true
  flag : s.running = true ↔ s.stop.rank ≤ 1
  listen : 3 ≤ s.stop.rank → s.shut file = true
  handover : ∀ c, s.loop = .publish c → s.stop.rank ≤ 3
  copied : 5 ≤ s.stop.rank → s.stop.rank ≤ 6 →
    ∀ c, s.loop.published = some c → s.stop.copied = some c.fd
  shutDown : s.stop.rank = 7 → ∀ c, s.loop.published = some c → s.shut c.file = true

/-- The invariant of the machine. -/
def CtrlSafe (fd file : Nat) (s : CtrlState) : Prop := s.stop.rank ≤ 7 → CtrlInv fd file s

section Moves

variable {fd file : Nat}

/-- What is shut down stays so, and what the number refers to is now. -/
theorem shutdown_shut {n f : Nat} (h : s.shut f = true ∨ s.table n = some f) :
    (s.shutdown n).shut f = true := by
  unfold CtrlState.shutdown
  by_cases hf : s.table n = some f
  · rw [hf]
    exact Function.update_self ..
  · have hshut : s.shut f = true := h.resolve_right hf
    cases ht : s.table n with
    | none => exact hshut
    | some g =>
      dsimp only
      rw [Function.update_apply]
      split
      · rfl
      · exact hshut

/-- All but the sockets is as it was. -/
theorem shutdown_eq (s : CtrlState) (n : Nat) :
    s.shutdown n = { s with shut := (s.shutdown n).shut } := by
  unfold CtrlState.shutdown
  split <;> rfl

/-- Sockets that are shut down stay so in a step that touches nothing else. -/
theorem CtrlInv.withShut (h : CtrlInv fd file s) {shut : Nat → Bool}
    (hmono : ∀ f, s.shut f = true → shut f = true) : CtrlInv fd file { s with shut := shut } where
  started := h.started
  listening := h.listening
  clientFd := h.clientFd
  client := h.client
  lockLoop := h.lockLoop
  lockStop := h.lockStop
  flag := h.flag
  listen hr := hmono _ (h.listen hr)
  handover := h.handover
  copied := h.copied
  shutDown hr c hc := hmono _ (h.shutDown hr c hc)

theorem CtrlInv.shutdown (h : CtrlInv fd file s) (n : Nat) : CtrlInv fd file (s.shutdown n) := by
  rw [shutdown_eq]
  exact h.withShut fun f hf => shutdown_shut (.inl hf)

variable {l : Option CtrlThread} {p : LoopPc}

/-- The thread moves on, and the lock and `ctrl_client_fd` with it. A client that is published
    now was so before, or the number has not been copied. -/
theorem CtrlInv.atLoop (h : CtrlInv fd file s) {x : Option Nat} (hx : x = p.published.map (·.fd))
    (hclient : ∀ c, p.client = some c → s.table c.fd = some c.file ∧ c.fd ≠ fd)
    (hlock : l = some .loop ↔ p.locks = true) (hstop : l = some .stop ↔ s.lock = some .stop)
    (hpublished : ∀ c, p.published = some c → s.loop.published = some c ∨ s.stop.rank ≤ 3)
    (hpublish : ∀ c, p = .publish c → s.stop.rank ≤ 3) :
    CtrlInv fd file ({ s with lock := l, clientFd := x }.toLoop p) where
  started := h.started
  listening := h.listening
  clientFd := hx
  client := hclient
  lockLoop := hlock
  lockStop := hstop.trans h.lockStop
  flag := h.flag
  listen := h.listen
  handover := hpublish
  copied h5 h6 c hc := by
    rcases hpublished c hc with hold | hearly
    · exact h.copied h5 h6 c hold
    · exact absurd (Nat.le_trans h5 hearly) (by decide)
  shutDown hr c hc := by
    rcases hpublished c hc with hold | hearly
    · exact h.shutDown hr c hold
    · exact absurd (Nat.le_trans (Nat.le_of_eq hr.symm) hearly) (by decide)

/-- The thread moves between places that mean the same. -/
theorem CtrlInv.toLoop (h : CtrlInv fd file s)
    (hclient : ∀ c, p.client = some c → s.table c.fd = some c.file ∧ c.fd ≠ fd)
    (hpublished : p.published = s.loop.published) (hlocks : p.locks = s.loop.locks)
    (hpublish : ∀ c, p = .publish c → s.running = true) : CtrlInv fd file (s.toLoop p) := by
  refine h.atLoop ?_ hclient ?_ Iff.rfl (fun c hc => .inl (hpublished.symm.trans hc)) ?_
  · rw [hpublished]
    exact h.clientFd
  · rw [hlocks]
    exact h.lockLoop
  · exact fun c hc => Nat.le_trans (h.flag.mp (hpublish c hc)) (by decide)

/-- The lock changes hands between the loop and nobody. -/
theorem CtrlInv.toLock (h : CtrlInv fd file s)
    (hl : l = some .loop ↔ p.locks = true) (hstop : s.lock ≠ some .stop) (hl' : l ≠ some .stop)
    (hclient : p.client = s.loop.client) (hpublished : p.published = s.loop.published)
    (hpublish : ∀ c, p ≠ .publish c) : CtrlInv fd file ({ s with lock := l }.toLoop p) := by
  refine h.atLoop ?_ (fun c hc => h.client c (hclient.symm.trans hc)) hl (iff_of_false hl' hstop)
    (fun c hc => .inl (hpublished.symm.trans hc)) fun c hc => absurd hc (hpublish c)
  rw [hpublished]
  exact h.clientFd

/-- `ctrl_client_fd` changes with the client that is published, and none is once the number
    may have been copied. -/
theorem CtrlInv.toClient (h : CtrlInv fd file s) (hclient : p.client = s.loop.client)
    (hlocks : p.locks = s.loop.locks) (hpublish : ∀ c, p ≠ .publish c)
    (hearly : ∀ c, p.published = some c → s.stop.rank ≤ 3) :
    CtrlInv fd file ({ s with clientFd := p.published.map CtrlClient.fd }.toLoop p) := by
  refine h.atLoop rfl (fun c hc => h.client c (hclient.symm.trans hc)) ?_ Iff.rfl
    (fun c hc => .inr (hearly c hc)) fun c hc => absurd hc (hpublish c)
  rw [hlocks]
  exact h.lockLoop

/-- A descriptor that neither the listening socket nor a client has changes; the history is
    not looked at. -/
theorem CtrlInv.withTable (h : CtrlInv fd file s) {n : Nat} (hfd : n ≠ fd)
    (hclient : ∀ c, s.loop.client = some c → n ≠ c.fd) (x : Option Nat) (next : Nat)
    (as cs : List CtrlClient) :
    CtrlInv fd file
      { s with
        table := Function.update s.table n x, nextFile := next, accepted := as, closed := cs } where
  started := h.started
  listening := ⟨h.listening.1, (Function.update_of_ne hfd.symm ..).trans h.listening.2⟩
  clientFd := h.clientFd
  client c hc :=
    ⟨(Function.update_of_ne (hclient c hc).symm ..).trans (h.client c hc).1, (h.client c hc).2⟩
  lockLoop := h.lockLoop
  lockStop := h.lockStop
  flag := h.flag
  listen := h.listen
  handover := h.handover
  copied := h.copied
  shutDown := h.shutDown

/-- **The loop keeps the invariant.** -/
theorem LoopMove.inv (hm : LoopMove s s') (h : CtrlInv fd file s) : CtrlInv fd file s' := by
  cases hm with
  | quiet p hclient hpublished hlocks hpublish =>
    exact h.toLoop (fun c hc => h.client c (hclient.symm.trans hc)) hpublished hlocks hpublish
  | accept n hpc hfree =>
    have hnone : s.loop.client = none := by rw [hpc]; rfl
    have hn : n ≠ fd := by
      intro heq
      rw [heq, h.listening.2] at hfree
      cases hfree
    have hnew : CtrlInv fd file (s.accept n) := by
      refine h.withTable hn (fun c hc => ?_) _ _ _ _
      rw [hnone] at hc
      cases hc
    refine hnew.toLoop ?_ ?_ ?_ nofun
    · intro c hc
      cases hc
      exact ⟨Function.update_self .., hn⟩
    · show none = s.loop.published
      rw [hpc]
      rfl
    · show false = s.loop.locks
      rw [hpc]
      rfl
  | take p hfree hclient hpublished hlocks hpublish =>
    exact h.toLock (iff_of_true rfl hlocks) (by rw [hfree]; nofun) nofun hclient hpublished hpublish
  | release p hheld hclient hpublished hlocks hpublish =>
    have hours : s.lock = some .loop := h.lockLoop.mpr hheld
    refine h.toLock (iff_of_false nofun ?_) ?_ nofun hclient hpublished hpublish
    · rw [hlocks]
      exact Bool.false_ne_true
    · rw [hours]
      nofun
  | publish c hpc =>
    have hearly : s.stop.rank ≤ 3 := h.handover c hpc
    exact h.toClient (p := .publishUnlock c) (by rw [hpc]; rfl) (by rw [hpc]; rfl) nofun
      fun _ _ => hearly
  | skip c hpc hother =>
    have hfd : s.clientFd = some c.fd := by
      rw [h.clientFd, hpc]
      rfl
    exact absurd hfd hother
  | clear c hpc =>
    exact h.toClient (p := .clearUnlock c) (by rw [hpc]; rfl) (by rw [hpc]; rfl) nofun nofun
  | refuse c hpc =>
    have hshut : CtrlInv fd file (s.shutdown c.fd) := h.shutdown c.fd
    have hpc' : (s.shutdown c.fd).loop = .refuseShutdown c := by
      rw [shutdown_eq]
      exact hpc
    exact hshut.toLoop (fun d hd => hshut.client d (by rw [hpc']; exact hd)) (by rw [hpc']; rfl)
      (by rw [hpc']; rfl) nofun
  | close c p hpc hnext =>
    have hclient : s.loop.client = some c := by
      obtain hpc | hpc := hpc <;> rw [hpc] <;> rfl
    have hgone : p.client = none ∧ p.published = s.loop.published ∧ p.locks = s.loop.locks ∧
        ∀ d, p ≠ .publish d := by
      obtain hpc | hpc := hpc <;> obtain rfl | rfl := hnext <;> rw [hpc] <;>
        exact ⟨rfl, rfl, rfl, nofun⟩
    obtain ⟨hnone, hpublished, hlocks, hpublish⟩ := hgone
    have hmoved : CtrlInv fd file (s.toLoop p) :=
      h.toLoop (fun d hd => by rw [hnone] at hd; cases hd) hpublished hlocks
        fun d hd => absurd hd (hpublish d)
    refine hmoved.withTable (n := c.fd) (h.client c hclient).2 (fun d hd => ?_) none _ _ _
    have hd' : p.client = some d := hd
    rw [hnone] at hd'
    cases hd'

/-- A step of another thread. -/
theorem CtrlInv.openFd (h : CtrlInv fd file s) {n : Nat} (hfree : s.table n = none) :
    CtrlInv fd file
      { s with table := Function.update s.table n (some s.nextFile), nextFile := s.nextFile + 1 } := by
  have hused : ∀ {m f : Nat}, s.table m = some f → n ≠ m := by
    intro m f hm heq
    rw [← heq, hfree] at hm
    cases hm
  exact h.withTable (hused h.listening.2) (fun c hc => hused (h.client c hc).1) _ _ _ _

theorem CtrlInv.closeFd (h : CtrlInv fd file s) {n : Nat}
    (hother : ¬ (s.ctrlFd = some n ∨ s.loop.client.map (·.fd) = some n)) :
    CtrlInv fd file { s with table := Function.update s.table n none } := by
  refine h.withTable (fun heq => hother (.inl ?_)) (fun c hc heq => hother (.inr ?_)) _ _ _ _
  · rw [h.listening.1, heq]
  · rw [hc, heq]
    rfl

/-- The stopping thread moves on, with the flag and the lock. -/
theorem CtrlInv.toStop (h : CtrlInv fd file s) {p : StopPc} {r : Bool}
    (hloop : l = some .loop ↔ s.loop.locks = true) (hstop : l = some .stop ↔ p.locks = true)
    (hflag : r = true ↔ p.rank ≤ 1) (hlisten : 3 ≤ p.rank → s.shut file = true)
    (hhandover : ∀ c, s.loop = .publish c → p.rank ≤ 3)
    (hcopied : 5 ≤ p.rank → p.rank ≤ 6 → ∀ c, s.loop.published = some c → p.copied = some c.fd)
    (hshut : p.rank = 7 → ∀ c, s.loop.published = some c → s.shut c.file = true) :
    CtrlInv fd file ({ s with running := r, lock := l }.toStop p) :=
  ⟨h.started, h.listening, h.clientFd, h.client, hloop, hstop, hflag, hlisten, hhandover, hcopied,
    hshut⟩

/-- Without the lock neither thread is in a section. -/
theorem CtrlInv.free (h : CtrlInv fd file s) (hfree : s.lock = none) : s.loop.locks = false := by
  cases hl : s.loop.locks with
  | false => rfl
  | true =>
    have hours : s.lock = some .loop := h.lockLoop.mpr hl
    rw [hfree] at hours
    cases hours

/-- **The stopping thread keeps the invariant** until it has joined the loop. -/
theorem stopStep_inv (hs : stopStep s = some s') (h : CtrlInv fd file s) : CtrlSafe fd file s' := by
  have hflag := h.flag
  have hlock := h.lockStop
  have hlisten := h.listen
  have hhandover := h.handover
  have hcopied := h.copied
  unfold stopStep at hs
  split at hs
  case h_1 hpc =>
    cases hs
    rw [hpc] at hflag hlock
    intro _
    have hrun : s.running = true := hflag.mpr (Nat.zero_le 1)
    rw [if_neg (by simp [h.started])]
    exact h.toStop (p := .storeFlag) h.lockLoop hlock (by simp [hrun]) (by simp) (by simp) (by simp)
      (by simp)
  case h_2 hpc =>
    cases hs
    rw [hpc] at hlock
    intro _
    exact h.toStop (p := .shutListen) h.lockLoop hlock (by simp) (by simp) (by simp) (by simp)
      (by simp)
  case h_3 hpc =>
    cases hs
    rw [hpc] at hflag hlock
    intro _
    rw [h.listening.1]
    dsimp only
    rw [shutdown_eq]
    have hstopped : s.running = false := by simpa using hflag
    have hshut : (s.shutdown fd).shut file = true := shutdown_shut (.inr h.listening.2)
    exact (h.withShut fun f hf => shutdown_shut (n := fd) (.inl hf)).toStop (p := .lockCopy)
      h.lockLoop hlock (by simp [hstopped]) (fun _ => hshut) (by simp) (by simp) (by simp)
  case h_4 hpc =>
    obtain ⟨hfree, rfl⟩ := guarded hs
    rw [hpc] at hflag hlisten
    intro _
    have hstopped : s.running = false := by simpa using hflag
    have hout : s.loop.locks = false := h.free hfree
    -- the client that the loop is about to publish is published under the lock
    have hnone : ∀ c, s.loop ≠ .publish c := by
      intro c hc
      rw [hc] at hout
      cases hout
    exact h.toStop (p := .copy) (by simp [hout]) (by simp) (by simp [hstopped])
      (fun _ => hlisten (Nat.le_refl 3)) (fun c hc => absurd hc (hnone c)) (by simp) (by simp)
  case h_5 hpc =>
    cases hs
    rw [hpc] at hflag hlock hlisten hhandover
    intro _
    have hstopped : s.running = false := by simpa using hflag
    refine h.toStop (p := .copyUnlock s.clientFd) h.lockLoop hlock (by simp [hstopped])
      (fun _ => hlisten (by simp)) (fun c hc => absurd (hhandover c hc) (by simp)) ?_ (by simp)
    intro _ _ c hc
    show s.clientFd = some c.fd
    rw [h.clientFd, hc]
    rfl
  case h_6 n hpc =>
    cases hs
    rw [hpc] at hflag hlock hlisten hhandover hcopied
    intro _
    have hstopped : s.running = false := by simpa using hflag
    have hours : s.lock = some .stop := hlock.mpr rfl
    have hout : s.loop.locks = false := by
      rw [Bool.eq_false_iff]
      intro hl
      rw [h.lockLoop.mpr hl] at hours
      cases hours
    exact h.toStop (p := .shutClient n) (by simp [hout]) (by simp) (by simp [hstopped])
      (fun _ => hlisten (by simp)) (fun c hc => absurd (hhandover c hc) (by simp))
      (fun _ _ => hcopied (by simp) (by simp)) (by simp)
  case h_7 n hpc =>
    cases hs
    rw [hpc] at hflag hlock hlisten hhandover hcopied
    intro _
    have hstopped : s.running = false := by simpa using hflag
    -- a client that is still served is the one whose number was copied
    have hclient : ∀ c, s.loop.published = some c → n = some c.fd ∧ s.table c.fd = some c.file :=
      fun c hc => ⟨hcopied (by simp) (by simp) c hc, (h.client c (LoopPc.client_of_published hc)).1⟩
    rw [if_pos h.started]
    cases n with
    | none =>
      exact h.toStop (p := .join) h.lockLoop hlock (by simp [hstopped]) (fun _ => hlisten (by simp))
        (fun c hc => absurd (hhandover c hc) (by simp)) (by simp)
        fun _ c hc => absurd (hclient c hc).1 nofun
    | some n =>
      dsimp only
      rw [shutdown_eq]
      refine (h.withShut fun f hf => shutdown_shut (n := n) (.inl hf)).toStop (p := .join)
        h.lockLoop hlock (by simp [hstopped]) (fun _ => shutdown_shut (.inl (hlisten (by simp))))
        (fun c hc => absurd (hhandover c hc) (by simp)) (by simp) fun _ c hc => ?_
      obtain ⟨heq, htable⟩ := hclient c hc
      obtain rfl : n = c.fd := Option.some.inj heq
      exact shutdown_shut (.inr htable)
  -- behind `pthread_join` there is nothing to show
  case h_8 hpc | h_9 hpc =>
    obtain ⟨_, rfl⟩ := guarded hs
    exact fun hr => absurd hr (by simp [CtrlState.toStop])
  case h_10 hpc | h_11 hpc | h_12 hpc =>
    cases hs
    exact fun hr => absurd hr (by simp [CtrlState.toStop])
  case h_13 => cases hs

theorem LoopMove.stop_eq (hm : LoopMove s s') : s'.stop = s.stop := by
  cases hm with
  | refuse c hpc =>
    rw [shutdown_eq]
    rfl
  | _ => rfl

/-- Behind `pthread_join` the stopping thread does not come back. -/
theorem stopStep_joined (hs : stopStep s = some s') (hr : ¬ s.stop.rank ≤ 7) :
    ¬ s'.stop.rank ≤ 7 := by
  unfold stopStep at hs
  split at hs
  case h_9 hpc =>
    obtain ⟨_, rfl⟩ := guarded hs
    simp [CtrlState.toStop]
  case h_10 hpc | h_11 hpc | h_12 hpc =>
    cases hs
    simp [CtrlState.toStop]
  case h_13 => cases hs
  all_goals
    next hpc =>
      rw [hpc] at hr
      exact absurd hr (by simp)

/-- **Every step keeps the invariant.** -/
theorem ctrlStep_safe {a : CtrlAction} (hs : ctrlStep s a = some s') (h : CtrlSafe fd file s) :
    CtrlSafe fd file s' := by
  cases a with
  | loop a =>
    have hm : LoopMove s s' := loopStep_move hs
    intro hr
    rw [hm.stop_eq] at hr
    exact hm.inv (h hr)
  | stop =>
    by_cases hr : s.stop.rank ≤ 7
    · exact stopStep_inv hs (h hr)
    · exact fun hr' => absurd hr' (stopStep_joined hs hr)
  | openFd n =>
    obtain ⟨hfree, rfl⟩ := guarded hs
    exact fun hr => (h hr).openFd hfree
  | closeFd n =>
    obtain ⟨hother, rfl⟩ := unguarded hs
    exact fun hr => (h hr).closeFd hother

end Moves

theorem ctrlSafe_start (table : Nat → Option Nat) (next fd : Nat) :
    CtrlSafe fd next (ctrlStart table next fd) := fun _ =>
  { started := rfl
    listening := ⟨rfl, Function.update_self ..⟩
    clientFd := rfl
    client := nofun
    lockLoop := by simp [ctrlStart, LoopPc.locks]
    lockStop := by simp [ctrlStart]
    flag := by simp [ctrlStart]
    listen := by simp [ctrlStart]
    handover := nofun
    copied := by simp [ctrlStart]
    shutDown := by simp [ctrlStart] }

theorem ctrlSafe_path {ok : CtrlState → CtrlAction → Prop} {table : Nat → Option Nat}
    {next fd : Nat} (h : ctrlMachine.Path ok (ctrlStart table next fd) s) : CtrlSafe fd next s :=
  h.inv (CtrlSafe fd next) (ctrlSafe_start table next fd) fun _ _ _ hI _ hs => ctrlStep_safe hs hI

/-- **The shutdown of the control server cannot hang**: in every state that any interleaving
    reaches, with any clients, while the stopping thread waits in `pthread_join`
    * an `accept` of the loop is on a listening socket that is shut down;
    * a `read` of the loop is on a client's socket that is shut down;
    * and the lock is free when the loop comes to take it. -/
theorem control_stop_cannot_hang (table : Nat → Option Nat) (next fd : Nat) (s : CtrlState)
    (h : ctrlMachine.Reach (ctrlStart table next fd) s) (hjoin : s.stop = .join) :
    (s.loop = .accepting →
      ∃ n f, s.ctrlFd = some n ∧ s.table n = some f ∧ s.shut f = true) ∧
    (∀ c off, s.loop = .reading c off → s.table c.fd = some c.file ∧ s.shut c.file = true) ∧
    (∀ c, s.loop = .lockClient c ∨ s.loop = .clearLock c → s.lock = none) := by
  have hinv : CtrlInv fd next s := ctrlSafe_path h (by rw [hjoin]; exact Nat.le_refl 7)
  refine ⟨fun _ => ?_, fun c off hpc => ?_, fun c hpc => ?_⟩
  · exact ⟨fd, next, hinv.listening.1, hinv.listening.2, hinv.listen (by rw [hjoin]; simp)⟩
  · have hpublished : s.loop.published = some c := by rw [hpc]; rfl
    exact ⟨(hinv.client c (LoopPc.client_of_published hpublished)).1,
      hinv.shutDown (by rw [hjoin]; rfl) c hpublished⟩
  · have hloop : s.loop.locks = false := by obtain hpc | hpc := hpc <;> rw [hpc] <;> rfl
    cases hlock : s.lock with
    | none => rfl
    | some t =>
        cases t with
        | loop =>
            have := hinv.lockLoop.mp hlock
            rw [hloop] at this
            cases this
        | stop =>
            have := hinv.lockStop.mp hlock
            rw [hjoin] at this
            cases this

/-- A client is accepted behind number 5 and sends nothing. -/
def stalledClient : List CtrlAction :=
  [.loop .go, .loop (.accepted 5), .loop .go, .loop .go, .loop .go, .loop .go]

/-- The whole of `stop_virtio_control_server` up to `pthread_join`. -/
def stopToJoin : List CtrlAction := List.replicate 7 .stop

/-- The read from a client that stalls is on a socket that is shut down. -/
theorem control_stop_cannot_hang_stalled :
    ∃ s, ctrlMachine.run (ctrlStart (fun _ => none) 0 3) (stalledClient ++ stopToJoin) = some s ∧
      s.stop = .join ∧ s.loop = .reading ⟨5, 1⟩ 0 ∧ s.shut 1 = true := by
  obtain ⟨s, hrun, hstop, hloop⟩ :
      ∃ s, ctrlMachine.run (ctrlStart (fun _ => none) 0 3) (stalledClient ++ stopToJoin) = some s ∧
        s.stop = .join ∧ s.loop = .reading ⟨5, 1⟩ 0 := ⟨_, rfl, rfl, rfl⟩
  have hshut := (control_stop_cannot_hang _ 0 3 s (Machine.reach_of_run hrun) hstop).2.1 _ _ hloop
  exact ⟨s, hrun, hstop, hloop, hshut.2⟩

end HvisorTool
