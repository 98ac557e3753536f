/-
  File:      HvisorTool/Console/Books.lean
  Subject:   THE BOOKS OF THE CONSOLE DEVICE: available entries consumed and used entries
             posted, over the runs of `virtio_console_event_handler` and
             `virtio_console_txq_notify_handler`.

  `process_descriptor_chain` consumes the entry before it knows the length of the chain. A
  chain that announces no buffer makes both handlers return without a used entry and without
  giving the entry back.

  * `ConsoleState`, `consoleStep`: the two handlers, side by side, one test or one pass a
    step; guest memory and the answers of the terminal are the label's;
  * `PassEnd`: how a pass ends as to the books; `consoleTx_end`, `consoleRx_end`;
  * `consoleOk`: the chain of every pass announces a buffer;
  * `console_accounting_iff`: the books balance and what was not read stays available,
    throughout a run, if and only if its passes meet this.
-/
import HvisorTool.Console.Requests
import HvisorTool.Virtio.Accounting

namespace HvisorTool

open Library

/-! ## 1. The handlers -/

/-- Where `virtio_console_event_handler` stands. -/
inductive ConsoleRxPc where
  | idle
  | test
  | serve
  deriving DecidableEq, Repr

/-- Where `virtio_console_txq_notify_handler` stands: at the test of the outer loop, at that
    of the inner one, or in `virtq_tx_handle_one_request`. -/
inductive ConsoleTxPc where
  | idle
  | outer
  | inner
  | serve
  deriving DecidableEq, Repr

/-- The device: its private part, and the ledger of each queue. -/
structure ConsoleState where
  dev : ConsoleDev
  rx : Ledger
  tx : Ledger
  rxPc : ConsoleRxPc
  txPc : ConsoleTxPc

/-- A step: which handler moves, what it finds in guest memory, what it is answered. -/
inductive ConsoleLabel where
  | rxNotify
  | event (ev : InputEvent) (type : VirtioDeviceType) (mem : Mem)
  | rxTest (mem : Mem)
  | rxServe (mem : Mem) (fuel : Nat) (answer : ReadvResult)
  | txNotify
  | txOuter (mem : Mem)
  | txInner (mem : Mem)
  | txServe (mem : Mem) (fuel : Nat)

/-- The handlers. Interrupts and the suppression of notifications do not touch the books; a
    fault ends the program. -/
def consoleStep (zm : ZoneTable) (s : ConsoleState) : ConsoleLabel → Option ConsoleState
  | .rxNotify => some (if s.dev.rxReady ≤ 0 then { s with dev := { s.dev with rxReady := 1 } } else s)
  | .event ev type mem =>
    if s.rxPc = .idle then
      -- without a request to read into, the input is read and dropped
      if ev.fd = s.dev.masterFd ∧ ev.epollin = true ∧ 0 < s.dev.masterFd ∧ type = .console ∧
          0 < s.dev.rxReady ∧ s.rx.q.vq.vqIsEmpty mem = false then
        some { s with rxPc := .test }
      else some s
    else none
  | .rxTest mem =>
    if s.rxPc = .test then
      some { s with rxPc := if s.rx.q.vq.vqIsEmpty mem then .idle else .serve }
    else none
  | .rxServe mem fuel answer =>
    if s.rxPc = .serve then
      (consoleRxBody zm fuel s.rx.q mem answer).toOption.map fun r =>
        { s with
          rx := s.rx.move r.1 (s.rx.q.vq.availHead mem)
          rxPc := if r.2 then .test else .idle }
    else none
  | .txNotify => if s.txPc = .idle then some { s with txPc := .outer } else none
  | .txOuter mem =>
    if s.txPc = .outer then
      some { s with txPc := if s.tx.q.vq.vqIsEmpty mem then .idle else .inner }
    else none
  | .txInner mem =>
    if s.txPc = .inner then
      some { s with txPc := if s.tx.q.vq.vqIsEmpty mem then .outer else .serve }
    else none
  | .txServe mem fuel =>
    if s.txPc = .serve then
      (consoleTxHandleOneRequest zm fuel s.tx.q mem s.dev.masterFd).toOption.map fun q' =>
        { s with tx := s.tx.move q' (s.tx.q.vq.availHead mem), txPc := .inner }
    else none

def consoleMachine (zm : ZoneTable) : Machine ConsoleState ConsoleLabel := ⟨consoleStep zm⟩

/-! ## 2. How a pass ends -/

/-- How a pass ends as to the books: nothing consumed and nothing posted, or one entry each
    way; or, where `ok` fails, an entry consumed for which none is posted. -/
inductive PassEnd (ok : Prop) (mem : Mem) (q : CompletionQueue) : CompletionQueue → Prop where
  | same (h : ok) : PassEnd ok mem q q
  | entry (h : ok) (len : UInt32) : PassEnd ok mem q
      { q with
        vq := q.vq.advance
        used := updateUsedRing q.vq.num q.used (q.vq.availHead mem, len) }
  | lost (h : ¬ ok) : PassEnd ok mem q { q with vq := q.vq.advance }

section Passes

variable {zm : ZoneTable} {mem : Mem} {fuel : Nat} {q q' : CompletionQueue}

/-- **The end of a transmit pass.** -/
theorem consoleTx_end {masterFd : Int}
    (h : consoleTxHandleOneRequest zm fuel q mem masterFd = .ok q') :
    PassEnd (0 < masterFd → HasBuffers mem q.vq) mem q q' := by
  unfold consoleTxHandleOneRequest at h
  split at h
  · next hfd =>
    cases h
    exact .same fun hpos => absurd hpos (Int.not_lt.mpr hfd)
  · next hfd =>
    obtain ⟨r, hwalk, h⟩ := bind_eq_ok.mp h
    obtain ⟨hempty, hret, hvq⟩ | ⟨-, hiff, hvq, hidx⟩ := chain_walk hwalk
    · rw [if_pos (by omega), hvq] at h
      cases h
      exact .same fun _ => hasBuffers_of_empty hempty
    · by_cases hbuf : HasBuffers mem q.vq
      · have hpos := hiff.mpr hbuf
        rw [if_neg (by omega)] at h
        unfold postUsed at h
        split at h
        · cases h
        · cases h
          rw [hvq, hidx]
          exact .entry (fun _ => hbuf) 0
      · have hneg := mt hiff.mp hbuf
        rw [if_pos (by omega), hvq] at h
        cases h
        exact .lost fun hok => hbuf (hok (Int.not_le.mp hfd))

/-- **The end of a receive pass.** If the chain announces a buffer, a request that `readv`
    has nothing for, or fails on, is where it was, and the loop is left. -/
theorem consoleRx_end {answer : ReadvResult} {more : Bool}
    (h : consoleRxBody zm fuel q mem answer = .ok (q', more)) :
    PassEnd (HasBuffers mem q.vq) mem q q' ∧
      (HasBuffers mem q.vq → (∀ len, answer ≠ .packet len) → q' = q ∧ more = false) := by
  obtain ⟨r, hwalk, h⟩ := bind_eq_ok.mp h
  obtain ⟨hempty, hret, hvq⟩ | ⟨-, hiff, hvq, hidx⟩ := chain_walk hwalk
  · rw [if_pos (by omega), hvq] at h
    cases h
    exact ⟨.same (hasBuffers_of_empty hempty), fun _ _ => ⟨rfl, rfl⟩⟩
  · by_cases hbuf : HasBuffers mem q.vq
    · have hpos := hiff.mpr hbuf
      have hback : ({ q with vq := { r.vq with lastAvailIdx := r.vq.lastAvailIdx - 1 } } :
          CompletionQueue) = q := by
        rw [hvq, advance_back]
      rw [if_neg (by omega)] at h
      cases answer with
      | wouldBlock | failed =>
        dsimp only at h
        rw [hback] at h
        cases h
        exact ⟨.same hbuf, fun _ _ => ⟨rfl, rfl⟩⟩
      | packet len =>
        obtain ⟨q₁, hpost, h⟩ := bind_eq_ok.mp h
        cases h
        refine ⟨?_, fun _ hne => absurd rfl (hne len)⟩
        unfold postUsed at hpost
        split at hpost
        · cases hpost
        · cases hpost
          rw [hvq, hidx]
          exact .entry hbuf _
    · have hneg := mt hiff.mp hbuf
      rw [if_pos (by omega), hvq] at h
      cases h
      exact ⟨.lost hbuf, fun hok => absurd hok hbuf⟩

/-- **A pass keeps the books exactly where the condition holds.** -/
theorem PassEnd.balances_iff {ok : Prop} {s₀ s : Ledger} (h : PassEnd ok mem s.q q')
    (hs : Balances CompletionQueue.used s₀ s) :
    Balances CompletionQueue.used s₀ (s.move q' (s.q.vq.availHead mem)) ↔ ok := by
  cases h with
  | same hok => exact iff_of_true (hs.same rfl rfl _) hok
  | entry hok len => exact iff_of_true (hs.entry rfl rfl) hok
  | lost hok => exact iff_of_false (hs.not_lost rfl rfl) hok

end Passes

/-! ## 3. Runs -/

/-- **The books of both queues balance since `s₀`.** -/
def ConsoleBooks (s₀ s : ConsoleState) : Prop :=
  Balances CompletionQueue.used s₀.rx s.rx ∧ Balances CompletionQueue.used s₀.tx s.tx

/-- The chain that the pass walks announces a buffer. -/
def consoleOk (s : ConsoleState) : ConsoleLabel → Prop
  | .rxServe mem _ _ => HasBuffers mem s.rx.q.vq
  | .txServe mem _ => 0 < s.dev.masterFd → HasBuffers mem s.tx.q.vq
  | _ => True

/-- An entry that `readv` has nothing for, or fails on, is left available for the next
    event. -/
def leavesAvailable (zm : ZoneTable) (s : ConsoleState) (a : ConsoleLabel) : Prop :=
  ∀ mem fuel answer s', a = .rxServe mem fuel answer → (∀ len, answer ≠ .packet len) →
    consoleStep zm s a = some s' → s'.rx.q = s.rx.q ∧ s'.rx.heads = s.rx.heads ∧ s'.rxPc = .idle

section Runs

variable {zm : ZoneTable} {s₀ s s' : ConsoleState} {a : ConsoleLabel}

/-- A receive step: the pass, and where the handler goes. -/
theorem consoleStep_rx {mem : Mem} {fuel : Nat} {answer : ReadvResult}
    (h : consoleStep zm s (.rxServe mem fuel answer) = some s') :
    ∃ q' more, consoleRxBody zm fuel s.rx.q mem answer = .ok (q', more) ∧
      s' = { s with
        rx := s.rx.move q' (s.rx.q.vq.availHead mem)
        rxPc := if more then .test else .idle } := by
  obtain ⟨-, h⟩ := Option.ite_none_right_eq_some.mp h
  obtain ⟨⟨q', more⟩, hbody, rfl⟩ := Option.map_eq_some_iff.mp h
  exact ⟨q', more, toOption_eq_some.mp hbody, rfl⟩

/-- **A step keeps the books exactly where the condition holds.** -/
theorem consoleStep_books (hs : ConsoleBooks s₀ s) (h : consoleStep zm s a = some s') :
    ConsoleBooks s₀ s' ↔ consoleOk s a := by
  -- steps other than the passes leave the ledgers
  have hsame : s'.rx = s.rx → s'.tx = s.tx → ConsoleBooks s₀ s' := by
    intro hrx htx
    unfold ConsoleBooks
    rw [hrx, htx]
    exact hs
  cases a with
  | rxNotify =>
    cases h
    refine iff_of_true (hsame ?_ ?_) trivial <;> split <;> rfl
  | event ev type mem =>
    obtain ⟨-, h⟩ := Option.ite_none_right_eq_some.mp h
    split at h <;> cases h <;> exact iff_of_true (hsame rfl rfl) trivial
  | rxTest mem | txNotify | txOuter mem | txInner mem =>
    obtain ⟨-, rfl⟩ := guarded h
    exact iff_of_true (hsame rfl rfl) trivial
  | rxServe mem fuel answer =>
    obtain ⟨q', more, hbody, rfl⟩ := consoleStep_rx h
    exact (and_iff_left hs.2).trans ((consoleRx_end hbody).1.balances_iff hs.1)
  | txServe mem fuel =>
    obtain ⟨-, h⟩ := Option.ite_none_right_eq_some.mp h
    obtain ⟨q', hpass, rfl⟩ := Option.map_eq_some_iff.mp h
    exact (and_iff_right hs.1).trans ((consoleTx_end (toOption_eq_some.mp hpass)).balances_iff hs.2)

theorem leavesAvailable_of_ok (hok : consoleOk s a) : leavesAvailable zm s a := by
  rintro mem fuel answer s' rfl hans h
  obtain ⟨q', more, hbody, rfl⟩ := consoleStep_rx h
  obtain ⟨rfl, rfl⟩ := (consoleRx_end hbody).2 hok hans
  exact ⟨rfl, if_pos rfl, rfl⟩

end Runs

/-- **Over every run of the two handlers, in every state it comes to, the index of each queue
    has moved by the number of used entries posted on it, whose ids are the heads of the
    available entries in order, and what was not read is left available; if and only if every
    chain that the run walks announces a buffer.** -/
theorem console_accounting_iff (zm : ZoneTable) (s₀ : ConsoleState) (as : List ConsoleLabel) :
    ((consoleMachine zm).Always (ConsoleBooks s₀) s₀ as ∧
      (consoleMachine zm).Throughout (leavesAvailable zm) s₀ as) ↔
      (consoleMachine zm).Throughout consoleOk s₀ as := by
  have hbooks : (consoleMachine zm).Always (ConsoleBooks s₀) s₀ as ↔
      (consoleMachine zm).Throughout consoleOk s₀ as := by
    refine Machine.always_iff (I := fun _ => True) (fun s a s' _ hP hs => ⟨trivial, ?_⟩) trivial
      ⟨.refl _ _, .refl _ _⟩ as
    exact consoleStep_books hP hs
  constructor
  · exact fun h => hbooks.mp h.1
  · intro h
    exact ⟨hbooks.mpr h, fun p a t t' hp hr hs => leavesAvailable_of_ok (h p a t t' hp hr hs)⟩

/-- A ready console whose queues have one request each, at rest. -/
def consoleAtRest : ConsoleState where
  dev := { masterFd := 5, rxReady := 1 }
  rx := ⟨oneDescQueue, []⟩
  tx := ⟨oneDescQueue, []⟩
  rxPc := .idle
  txPc := .idle

/-- **An indirect table of length 0 is consumed and never completed**, on either queue. -/
theorem hollow_chain_leaks :
    (∃ s, (consoleMachine onePage).run consoleAtRest
        [.txNotify, .txOuter (oneDescMem 0 4), .txInner (oneDescMem 0 4), .txServe (oneDescMem 0 4) 4] =
          some s ∧
      s.tx.q.vq.lastAvailIdx = 1 ∧ s.tx.q.used.idx = 0) ∧
    ∃ s, (consoleMachine onePage).run consoleAtRest
        [.event ⟨5, true⟩ .console (oneDescMem 0 4), .rxTest (oneDescMem 0 4),
          .rxServe (oneDescMem 0 4) 4 .wouldBlock] = some s ∧
      s.rx.q.vq.lastAvailIdx = 1 ∧ s.rx.q.used.idx = 0 :=
  ⟨⟨_, rfl, rfl, rfl⟩, ⟨_, rfl, rfl, rfl⟩⟩

end HvisorTool
