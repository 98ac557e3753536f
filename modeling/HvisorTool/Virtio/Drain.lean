/-
  File:      HvisorTool/Virtio/Drain.lean
  Subject:   SUPPRESS, DRAIN, RE-ENABLE, RE-CHECK: the loops that empty an available ring, against a
             driver that adds buffers and kicks only if it was not told to stay quiet.

  Four loops use the pattern: `blkproc_thread`, and the transmit handlers of the net, console and
  SCMI devices. Each is written its own way; `entry`, `leave`, `Served.moves` and the test on the
  kind in `handlerStep` are the differences. Every access to a shared word is one step and the
  steps are sequentially consistent; the work on a request, the flush of a batch and the interrupt
  do not touch these words.

  Both sides count without bound (`added`, `taken`); the ring words `avail.idx`
  and `last_avail_idx` are the low 16 bits.

  * `DrainState`, `drainMachine kind event`: the machine; `event` selects the event-index mode;
  * `DrainInv`: what holds at each program point of a handler;
  * `no_lost_kick`: a handler that has returned left nothing behind, or a kick is on its way,
    if no chain without buffers made `last_avail_idx` slip;
  * `lost_kick`: it fails behind such a chain, and against a driver that bounds each of its
    steps by the queue size, and not the number of buffers outstanding.
-/
import HvisorTool.Library.Counter
import HvisorTool.Library.Machine
import HvisorTool.Virtio.Queue

namespace HvisorTool

open Library

/-! ## 1. Driver and handlers -/

inductive DrainKind where
  /-- The loop of `blkproc_thread`. -/
  | blk
  /-- `virtio_net_txq_notify_handler`. -/
  | netTx
  /-- `virtio_console_txq_notify_handler`. -/
  | consoleTx
  /-- `virtio_scmi_txq_notify_handler`. -/
  | scmiTx
  deriving DecidableEq, Repr

inductive DriverPc where
  | idle
  /-- Buffers were published since `old`; the driver has not tested yet whether to
      kick. -/
  | added (old : Nat)
  deriving DecidableEq, Repr

/-- Where the handler stands. -/
inductive DrainPc where
  /-- The handler has returned; the block worker waits. -/
  | parked
  /-- The block worker tests the queue under its mutex. -/
  | top
  /-- The block worker tests the queue again, outside it. -/
  | check
  | disable
  | test
  | handle
  /-- The first half of `virtqueue_enable_notify`: it reads `avail.idx`. -/
  | load
  /-- The second half: it writes what it read as the event index. -/
  | store (a : UInt16)
  | recheck
  /-- About to call `virtio_inject_irq` and return, or loop. -/
  | finish
  deriving DecidableEq, Repr

structure DrainState where
  added : Nat
  taken : Nat
  /-- `VRING_USED_F_NO_NOTIFY` in `used.flags`. -/
  noNotify : Bool
  /-- `VQ_AVAIL_EVENT`. -/
  availEvent : UInt16
  /-- Kicks sent and not delivered. -/
  kicks : Nat
  driver : DriverPc
  pc : DrainPc
  deriving DecidableEq, Repr

namespace DrainState

/-- `avail.idx`. -/
def availIdx (s : DrainState) : UInt16 := .ofNat s.added

/-- `last_avail_idx`. -/
def lastAvailIdx (s : DrainState) : UInt16 := .ofNat s.taken

/-- `vq_is_empty`. -/
def isEmpty (s : DrainState) : Bool := s.availIdx == s.lastAvailIdx

/-- The count at which the driver last tested whether to kick. -/
def driverOld (s : DrainState) : Nat :=
  match s.driver with
  | .idle => s.added
  | .added old => old

/-- The driver's test, for the buffers since `old`. -/
def wantsKick (event : Bool) (s : DrainState) (old : Nat) : Bool :=
  if event then vringNeedEvent s.availEvent s.availIdx (.ofNat old) else !s.noNotify

/-- The driver is about to test, and the test will make it kick. -/
def aboutToKick (event : Bool) (s : DrainState) : Bool :=
  match s.driver with
  | .idle => false
  | .added old => s.wantsKick event old

/-- `virtqueue_disable_notify`. -/
def virtqueueDisableNotify (event : Bool) (s : DrainState) : DrainState :=
  if event then { s with availEvent := s.lastAvailIdx - 1 } else { s with noNotify := true }

end DrainState

/-- Where a kick starts the handler. -/
def entry : DrainKind → DrainPc
  | .blk => .top
  | .netTx => .disable
  | .consoleTx | .scmiTx => .recheck

/-- Where the handler goes when it finds nothing left after re-enabling. -/
def leave : DrainKind → DrainPc
  | .netTx => .parked
  | .blk | .consoleTx | .scmiTx => .finish

/-- What serving the entry at the head of the ring does to `last_avail_idx`. -/
inductive Served where
  /-- There is no tap device, or no terminal: the entry stays. -/
  | left
  | taken
  /-- A chain without buffers: `process_descriptor_chain_buf` counts it and returns 0, and its
      caller takes that for a failure and counts it again. -/
  | slipped
  deriving DecidableEq, Repr

/-- By how much `last_avail_idx` moves; the console walks its chains with
    `process_descriptor_chain`, which counts once. -/
def Served.moves : DrainKind → Served → Option Nat
  | _, .taken => some 1
  | .netTx, .left | .consoleTx, .left => some 0
  | .blk, .slipped | .netTx, .slipped | .scmiTx, .slipped => some 2
  | .blk, .left | .scmiTx, .left | .consoleTx, .slipped => none

/-- The handler's next step. The entry it serves is taken off the ring or not (`served`), and
    fails or not (`failed`); only the SCMI loop leaves its batch on a failure, and there a
    chain without buffers is one. -/
def handlerStep (kind : DrainKind) (event : Bool) (s : DrainState) (served : Served)
    (failed : Bool) : Option DrainState :=
  match s.pc with
  | .parked => none
  | .top => some { s with pc := if s.isEmpty then .parked else .check }
  | .check => some { s with pc := if s.isEmpty then .top else .disable }
  | .disable => some { s.virtqueueDisableNotify event with pc := .test }
  | .test => some { s with pc := if s.isEmpty then .load else .handle }
  | .handle =>
    (served.moves kind).map fun n => { s with
      taken := s.taken + n
      pc := if kind = .scmiTx ∧ (failed = true ∨ served = .slipped) then .load else .test }
  | .load =>
    if event then some { s with pc := .store s.availIdx }
    else some { s with noNotify := false, pc := .recheck }
  | .store a => some { s with availEvent := a, pc := .recheck }
  | .recheck => some { s with pc := if s.isEmpty then leave kind else .disable }
  | .finish => some { s with pc := if kind = .blk then .top else .parked }

inductive DrainAction where
  /-- The driver publishes `k` more buffers. -/
  | add (k : Nat)
  /-- The driver tests whether to kick, and does if so. -/
  | kickTest
  /-- A kick is delivered. -/
  | notify
  /-- The block worker wakes up for no reason. -/
  | wake
  | handler (served : Served) (failed : Bool)
  deriving DecidableEq, Repr

/-- A kick is delivered: it starts a handler that has returned; for the block device the
    main thread takes it at any time and wakes the worker if it waits. -/
def notifyStep (kind : DrainKind) (s : DrainState) : Option DrainState :=
  if s.kicks = 0 then none
  else if s.pc = .parked then some { s with kicks := s.kicks - 1, pc := entry kind }
  else if kind = .blk then some { s with kicks := s.kicks - 1 }
  else none

def drainStep (kind : DrainKind) (event : Bool) (s : DrainState) :
    DrainAction → Option DrainState
  | .add k =>
    if k = 0 then none
    else some { s with added := s.added + k, driver := .added s.driverOld }
  | .kickTest =>
    match s.driver with
    | .idle => none
    | .added old =>
      some { s with
        driver := .idle
        kicks := if s.wantsKick event old then s.kicks + 1 else s.kicks }
  | .notify => notifyStep kind s
  | .wake => if kind = .blk ∧ s.pc = .parked then some { s with pc := .top } else none
  | .handler served failed => handlerStep kind event s served failed

def drainMachine (kind : DrainKind) (event : Bool) : Machine DrainState DrainAction :=
  ⟨drainStep kind event⟩

/-- Rings as set up by the driver, before the first buffer. -/
def drainStart (kind : DrainKind) : DrainState :=
  { added := 0, taken := 0, noNotify := false, availEvent := 0, kicks := 0, driver := .idle,
    pc := if kind = .blk then .top else .parked }

/-- The driver advances `avail.idx` by at most `size` between two of its tests. -/
def boundedAdvance (size : Nat) (s : DrainState) : DrainAction → Prop
  | .add k => s.added + k ≤ s.driverOld + size
  | _ => True

/-- And it never has more than `size` buffers outstanding. -/
def withinRing (size : Nat) (s : DrainState) : DrainAction → Prop
  | .add k => s.added + k ≤ s.driverOld + size ∧ s.added + k ≤ s.taken + size
  | _ => True

/-- The step serves no chain without buffers. -/
def DrainAction.inStep : DrainAction → Prop
  | .handler served _ => served ≠ .slipped
  | _ => True

/-- A driver that keeps within the ring, and no chain without buffers. -/
def orderly (size : Nat) (s : DrainState) (a : DrainAction) : Prop :=
  withinRing size s a ∧ a.inStep

/-! ## 2. The invariant -/

/-- Notification is enabled, with `n` as the event index. -/
def Arms (event : Bool) (s : DrainState) (n : Nat) : Prop :=
  (event = true → s.availEvent = .ofNat n) ∧ (event = false → s.noNotify = false)

/-- Nothing is left, or a kick is under way, or the driver has not tested yet for the
    buffers that came after the last one taken. -/
def Pending (s : DrainState) : Prop :=
  s.taken = s.added ∨ 0 < s.kicks ∨ ∃ old, s.driver = .added old ∧ old ≤ s.taken

/-- What holds at each program point. -/
def PcInv (kind : DrainKind) (event : Bool) (s : DrainState) : DrainPc → Prop
  | .parked => Arms event s s.taken ∧ Pending s
  | .finish => Arms event s s.taken ∧ (kind ≠ .blk → Pending s)
  | .top | .check => Arms event s s.taken
  | .handle => s.taken < s.added
  | .store a => event = true ∧ ∃ n, s.taken ≤ n ∧ n ≤ s.added ∧ a = .ofNat n
  | .recheck => ∃ n, s.taken ≤ n ∧ n ≤ s.added ∧ Arms event s n
  | .disable | .test | .load => True

structure DrainInv (kind : DrainKind) (event : Bool) (size : Nat) (s : DrainState) : Prop where
  le : s.taken ≤ s.added
  room : s.added ≤ s.taken + size
  old : s.driverOld ≤ s.added
  advance : s.added ≤ s.driverOld + size
  pc : PcInv kind event s s.pc

section Steps

variable {kind : DrainKind} {event : Bool} {size : Nat} {s s' : DrainState}

theorem drainInv_start (kind : DrainKind) (event : Bool) (size : Nat) :
    DrainInv kind event size (drainStart kind) := by
  refine ⟨Nat.le_refl 0, Nat.zero_le _, Nat.le_refl 0, Nat.zero_le _, ?_⟩
  have ha : Arms event (drainStart kind) 0 := ⟨fun _ => rfl, fun _ => rfl⟩
  cases kind with
  | blk => exact ha
  | netTx | consoleTx | scmiTx => exact ⟨ha, .inl rfl⟩

theorem DrainInv.isEmpty_iff (h : DrainInv kind event size s) (hsize : size < 2 ^ 16) :
    s.isEmpty = true ↔ s.taken = s.added := by
  have hle : s.taken ≤ s.added := h.le
  have hroom : s.added ≤ s.taken + size := h.room
  unfold DrainState.isEmpty
  rw [beq_iff_eq]
  unfold DrainState.availIdx DrainState.lastAvailIdx
  rw [ofNat_eq_ofNat_iff hle (by omega)]
  exact eq_comm

/-- An armed event index makes the driver kick for what lies beyond it. -/
theorem wantsKick_of_arms {old : Nat} (ha : Arms event s s.taken) (ho : old ≤ s.taken)
    (hlt : s.taken < s.added) (hadv : s.added - old < 2 ^ 16) : s.wantsKick event old = true := by
  unfold DrainState.wantsKick
  cases event with
  | false =>
    rw [ha.2 rfl]
    rfl
  | true =>
    rw [if_pos rfl, ha.1 rfl]
    exact decide_eq_true (ofNat_passes ho hlt hadv)

/-! ## 3. Steps of the driver -/

theorem Pending.add (h : Pending s) (hold : s.driverOld ≤ s.added) (k : Nat) :
    Pending { s with added := s.added + k, driver := .added s.driverOld } := by
  obtain hz | hk | ⟨old, hd, ho⟩ := h
  · exact .inr (.inr ⟨s.driverOld, rfl, by rw [hz]; exact hold⟩)
  · exact .inr (.inl hk)
  · have e : s.driverOld = old := by
      unfold DrainState.driverOld
      rw [hd]
    exact .inr (.inr ⟨s.driverOld, rfl, by rw [e]; exact ho⟩)

theorem DrainInv.add (h : DrainInv kind event size s) {k : Nat} (hok : withinRing size s (.add k)) :
    DrainInv kind event size { s with added := s.added + k, driver := .added s.driverOld } := by
  have hle : s.taken ≤ s.added := h.le
  refine ⟨Nat.le_add_right_of_le hle, hok.2, Nat.le_add_right_of_le h.old, hok.1, ?_⟩
  have hpc : PcInv kind event s s.pc := h.pc
  dsimp only
  cases hp : s.pc <;> rw [hp] at hpc
  case parked => exact ⟨hpc.1, hpc.2.add h.old k⟩
  case finish => exact ⟨hpc.1, fun hk => (hpc.2 hk).add h.old k⟩
  case top | check => exact hpc
  case handle => exact Nat.lt_add_right k hpc
  case store a =>
      obtain ⟨he, n, hn, hn', ha⟩ := hpc
      exact ⟨he, n, hn, Nat.le_add_right_of_le hn', ha⟩
  case recheck =>
      obtain ⟨n, hn, hn', ha⟩ := hpc
      exact ⟨n, hn, Nat.le_add_right_of_le hn', ha⟩
  all_goals trivial

/-- The driver's test, in a state where the handler left the ring armed. -/
theorem Pending.kickTest (h : Pending s) (hle : s.taken ≤ s.added) (ha : Arms event s s.taken)
    {old : Nat} (hd : s.driver = .added old) (hadv : s.added - old < 2 ^ 16) :
    Pending { s with
      driver := .idle
      kicks := if s.wantsKick event old then s.kicks + 1 else s.kicks } := by
  obtain hz | hk | ⟨old', hd', ho⟩ := h
  · exact .inl hz
  · refine .inr (.inl ?_)
    dsimp only
    split <;> omega
  · have e : old' = old := by
      rw [hd] at hd'
      cases hd'
      rfl
    subst e
    by_cases hlt : s.taken < s.added
    · refine .inr (.inl ?_)
      dsimp only
      rw [if_pos (wantsKick_of_arms ha ho hlt hadv)]
      omega
    · exact .inl (by dsimp only; omega)

theorem DrainInv.kickTest (h : DrainInv kind event size s) (hsize : size < 2 ^ 16) {old : Nat}
    (hd : s.driver = .added old) :
    DrainInv kind event size { s with
      driver := .idle
      kicks := if s.wantsKick event old then s.kicks + 1 else s.kicks } := by
  have e : s.driverOld = old := by
    unfold DrainState.driverOld
    rw [hd]
  have hadv : s.added - old < 2 ^ 16 := by
    have hb : s.added ≤ s.driverOld + size := h.advance
    omega
  refine ⟨h.le, h.room, Nat.le_refl _, Nat.le_add_right _ _, ?_⟩
  have hpc : PcInv kind event s s.pc := h.pc
  dsimp only
  cases hp : s.pc <;> rw [hp] at hpc
  case parked => exact ⟨hpc.1, hpc.2.kickTest h.le hpc.1 hd hadv⟩
  case finish => exact ⟨hpc.1, fun hk => (hpc.2 hk).kickTest h.le hpc.1 hd hadv⟩
  all_goals exact hpc

/-! ## 4. Steps of the handler -/

/-- The handler moves to another program point; the shared words stay. -/
theorem DrainInv.move (h : DrainInv kind event size s) {p : DrainPc}
    (hp : PcInv kind event { s with pc := p } p) : DrainInv kind event size { s with pc := p } :=
  ⟨h.le, h.room, h.old, h.advance, hp⟩

theorem DrainInv.notify (h : DrainInv kind event size s) (hs : notifyStep kind s = some s') :
    DrainInv kind event size s' := by
  unfold notifyStep at hs
  split at hs
  · cases hs
  · split at hs
    · next hparked =>
      cases hs
      have hpc : PcInv kind event s .parked := hparked ▸ h.pc
      refine ⟨h.le, h.room, h.old, h.advance, ?_⟩
      cases kind with
      | blk => exact hpc.1
      | netTx => trivial
      | consoleTx | scmiTx => exact ⟨s.taken, Nat.le_refl _, h.le, hpc.1⟩
    · next hparked =>
      split at hs
      · next hblk =>
        cases hs
        refine ⟨h.le, h.room, h.old, h.advance, ?_⟩
        -- Only a parked handler needs the kick.
        have hpc : PcInv kind event s s.pc := h.pc
        dsimp only
        cases hp : s.pc <;> rw [hp] at hpc
        case parked => exact absurd hp hparked
        case finish => exact ⟨hpc.1, fun hk => absurd hblk hk⟩
        all_goals exact hpc
      · cases hs

/-- An entry that does not slip is counted once at most. -/
theorem Served.moves_le {served : Served} {n : Nat} (hin : served ≠ .slipped)
    (h : served.moves kind = some n) : n ≤ 1 := by
  cases served with
  | left => cases kind <;> cases h <;> exact Nat.zero_le 1
  | taken =>
    cases h
    exact Nat.le_refl 1
  | slipped => exact absurd rfl hin

theorem DrainInv.handle (h : DrainInv kind event size s) (hp : s.pc = .handle) {n : Nat}
    (hn : n ≤ 1) (c : Prop) [Decidable c] :
    DrainInv kind event size { s with
      taken := s.taken + n
      pc := if c then .load else .test } := by
  have hpc : PcInv kind event s .handle := hp ▸ h.pc
  have hlt : s.taken < s.added := hpc
  have hroom : s.added ≤ s.taken + size := h.room
  refine ⟨?_, ?_, h.old, h.advance, ?_⟩
  · dsimp only
    omega
  · dsimp only
    omega
  · dsimp only
    split <;> trivial

/-- Re-checking found the ring empty: the event index read is the count taken. -/
theorem DrainInv.leave (h : DrainInv kind event size s) (hp : s.pc = .recheck)
    (hz : s.taken = s.added) : PcInv kind event { s with pc := leave kind } (leave kind) := by
  have hpc : PcInv kind event s .recheck := hp ▸ h.pc
  obtain ⟨n, hn, hn', ha⟩ := hpc
  have e : n = s.taken := by omega
  rw [e] at ha
  cases kind with
  | netTx => exact ⟨ha, .inl hz⟩
  | blk | consoleTx | scmiTx => exact ⟨ha, fun _ => .inl hz⟩

theorem DrainInv.handlerStep (h : DrainInv kind event size s) (hsize : size < 2 ^ 16)
    {served : Served} {failed : Bool} (hin : served ≠ .slipped)
    (hs : handlerStep kind event s served failed = some s') :
    DrainInv kind event size s' := by
  have hpc : PcInv kind event s s.pc := h.pc
  have hempty : s.isEmpty = true ↔ s.taken = s.added := h.isEmpty_iff hsize
  have hle : s.taken ≤ s.added := h.le
  unfold HvisorTool.handlerStep at hs
  split at hs
  case h_1 => cases hs
  case h_2 hp =>
      cases hs
      rw [hp] at hpc
      apply h.move
      split
      · next he => exact ⟨hpc, .inl (hempty.mp he)⟩
      · exact hpc
  case h_3 hp =>
      cases hs
      rw [hp] at hpc
      apply h.move
      split
      · exact hpc
      · trivial
  case h_4 hp =>
      cases hs
      unfold DrainState.virtqueueDisableNotify
      split <;> exact ⟨h.le, h.room, h.old, h.advance, trivial⟩
  case h_5 hp =>
      cases hs
      apply h.move
      split
      · trivial
      · next he =>
        have hne : s.taken ≠ s.added := fun hz => he (hempty.mpr hz)
        exact show s.taken < s.added by omega
  case h_6 hp =>
      obtain ⟨n, hn, rfl⟩ := Option.map_eq_some_iff.mp hs
      exact h.handle hp (Served.moves_le hin hn) _
  case h_7 hp =>
      split at hs
      · next hev =>
        cases hs
        exact h.move ⟨hev, s.added, hle, Nat.le_refl _, rfl⟩
      · next hev =>
        cases hs
        refine ⟨h.le, h.room, h.old, h.advance, s.added, hle, Nat.le_refl _, ?_⟩
        exact ⟨fun e => absurd e hev, fun _ => rfl⟩
  case h_8 a hp =>
      cases hs
      rw [hp] at hpc
      obtain ⟨hev, n, hn, hn', ha⟩ := hpc
      refine ⟨h.le, h.room, h.old, h.advance, n, hn, hn', fun _ => ha, fun e => ?_⟩
      rw [hev] at e
      cases e
  case h_9 hp =>
      cases hs
      apply h.move
      split
      · next he => exact h.leave hp (hempty.mp he)
      · trivial
  case h_10 hp =>
      cases hs
      rw [hp] at hpc
      apply h.move
      split
      · exact hpc.1
      · next hk => exact ⟨hpc.1, hpc.2 hk⟩

/-- **Every step of a driver that keeps within the ring, and every step of a handler on a
    chain with buffers, keeps the invariant.** -/
theorem drainInv_step (hsize : size < 2 ^ 16) {a : DrainAction}
    (h : DrainInv kind event size s) (hok : orderly size s a)
    (hs : drainStep kind event s a = some s') : DrainInv kind event size s' := by
  cases a with
  | add k =>
    obtain ⟨_, rfl⟩ := unguarded hs
    exact h.add hok.1
  | kickTest =>
    simp only [drainStep] at hs
    split at hs
    · cases hs
    · next old hd =>
      cases hs
      exact h.kickTest hsize hd
  | notify => exact h.notify hs
  | wake =>
    obtain ⟨hk, rfl⟩ := guarded hs
    have hpc : PcInv kind event s .parked := hk.2 ▸ h.pc
    exact h.move hpc.1
  | handler served failed => exact h.handlerStep hsize hok.2 hs

end Steps

theorem drainInv_path {kind : DrainKind} {event : Bool} {size : Nat} {s : DrainState}
    (hsize : size < 2 ^ 16)
    (h : (drainMachine kind event).Path (orderly size) (drainStart kind) s) :
    DrainInv kind event size s :=
  h.inv (DrainInv kind event size) (drainInv_start kind event size)
    fun _ _ _ hi hok hs => drainInv_step hsize hi hok hs

/-! ## 5. No lost kick -/

/-- **No lost kick**: whichever of the four loops runs, in both notification modes and
    under every interleaving with a driver that never has more than `size` buffers
    outstanding and makes no chain without buffers, whenever the handler has returned (or
    the block worker waits) the ring is empty, or a kick is pending, or the driver is
    about to send one. -/
theorem no_lost_kick (kind : DrainKind) (event : Bool) (size : Nat) (hsize : size < 2 ^ 16)
    (s : DrainState)
    (h : (drainMachine kind event).Path (orderly size) (drainStart kind) s)
    (hp : s.pc = .parked) :
    s.availIdx = s.lastAvailIdx ∨ 0 < s.kicks ∨ s.aboutToKick event = true := by
  have hinv : DrainInv kind event size s := drainInv_path hsize h
  have hpc : PcInv kind event s .parked := hp ▸ hinv.pc
  obtain ⟨ha, hz | hk | ⟨old, hd, ho⟩⟩ := hpc
  · exact .inl (congrArg UInt16.ofNat hz.symm)
  · exact .inr (.inl hk)
  · by_cases hlt : s.taken < s.added
    · refine .inr (.inr ?_)
      have hadv : s.added ≤ s.driverOld + size := hinv.advance
      unfold DrainState.driverOld at hadv
      unfold DrainState.aboutToKick
      rw [hd] at hadv ⊢
      dsimp only at hadv ⊢
      exact wantsKick_of_arms ha ho hlt (by omega)
    · have hz : s.added = s.taken := by
        have hle : s.taken ≤ s.added := hinv.le
        omega
      exact .inl (congrArg UInt16.ofNat hz)

instance (size : Nat) (s : DrainState) : (a : DrainAction) → Decidable (withinRing size s a)
  | .add _ => inferInstanceAs (Decidable (_ ∧ _))
  | .kickTest | .notify | .wake | .handler _ _ => inferInstanceAs (Decidable True)

instance (size : Nat) (s : DrainState) :
    (a : DrainAction) → Decidable (boundedAdvance size s a)
  | .add _ => inferInstanceAs (Decidable (_ ≤ _))
  | .kickTest | .notify | .wake | .handler _ _ => inferInstanceAs (Decidable True)

instance : (a : DrainAction) → Decidable a.inStep
  | .handler _ _ => inferInstanceAs (Decidable (_ ≠ _))
  | .add _ | .kickTest | .notify | .wake => inferInstanceAs (Decidable True)

instance (size : Nat) (s : DrainState) (a : DrainAction) : Decidable (orderly size s a) :=
  inferInstanceAs (Decidable (_ ∧ _))

/-- The handler takes one step, and a request it serves is taken off the ring. -/
def serve : DrainAction := .handler .taken false

/-- The handler takes one step, and a chain without buffers makes it slip. -/
def slip : DrainAction := .handler .slipped false

/-- A net transmit handler in event-index mode: the driver adds a buffer behind the
    handler's back (no kick: suppressed), the re-check finds it, and a buffer added
    after the handler has returned makes the driver kick. -/
theorem no_lost_kick_recheck :
    ∃ s, (drainMachine .netTx true).Path (orderly 8) (drainStart .netTx) s ∧
      s.pc = .parked ∧ s.availIdx ≠ s.lastAvailIdx ∧ s.kicks = 0 ∧
      s.aboutToKick true = true := by
  have hrun : (drainMachine .netTx true).runWhile (orderly 8) (drainStart .netTx)
      ([.add 1, .kickTest, .notify, serve, serve, serve, serve, serve, .add 1, .kickTest, serve,
        serve, serve, serve, serve, serve, serve, serve, serve, .add 1]) =
      some { added := 3, taken := 2, noNotify := false, availEvent := 2, kicks := 0,
             driver := .added 2, pc := .parked } := by
    decide
  have hpath := Machine.path_of_runWhile hrun
  have hne : UInt16.ofNat 3 ≠ UInt16.ofNat 2 := by decide
  obtain he | hk | ha := no_lost_kick .netTx true 8 (by decide) _ hpath rfl
  · exact absurd he hne
  · exact absurd hk (Nat.lt_irrefl 0)
  · exact ⟨_, hpath, rfl, hne, rfl, ha⟩

/-- Two lost kicks. The SCMI handler, against a driver within the ring: a chain without
    buffers takes `last_avail_idx` past `avail.idx` and ends the batch; a second buffer comes
    before the event index 1 is stored, so that the re-check finds the ring empty with the
    event index behind it, and a third one before the handler returns goes unnoticed. And
    the net handler, against a driver that advances `avail.idx` by at most 32768 between two
    tests and puts 65537 buffers on the ring: `avail.idx` wraps to `last_avail_idx` while the
    handler re-enables. -/
theorem lost_kick :
    (∃ s, (drainMachine .scmiTx true).Path (withinRing 8) (drainStart .scmiTx) s ∧
      s.pc = .parked ∧
      ¬ (s.availIdx = s.lastAvailIdx ∨ 0 < s.kicks ∨ s.aboutToKick true = true)) ∧
    ∃ s, (drainMachine .netTx true).Path (boundedAdvance 32768) (drainStart .netTx) s ∧
      s.pc = .parked ∧
      ¬ (s.availIdx = s.lastAvailIdx ∨ 0 < s.kicks ∨ s.aboutToKick true = true) := by
  have hslip : (drainMachine .scmiTx true).runWhile (withinRing 8) (drainStart .scmiTx)
      ([.add 1, .kickTest, .notify, serve, serve, serve, slip, serve, .add 1, .kickTest, serve,
        serve, .add 1, .kickTest, serve]) =
      some { added := 3, taken := 2, noNotify := false, availEvent := 1, kicks := 0,
             driver := .idle, pc := .parked } := by
    decide
  have hover : (drainMachine .netTx true).runWhile (boundedAdvance 32768) (drainStart .netTx)
      ([.add 1, .kickTest, .notify, serve, serve, serve, serve, .add 1, .kickTest, serve, .add 32768,
        .kickTest, serve, .add 32767, .kickTest, serve, .add 1, .kickTest]) =
      some { added := 65538, taken := 1, noNotify := false, availEvent := 2, kicks := 0,
             driver := .idle, pc := .parked } := by
    decide
  exact ⟨⟨_, Machine.path_of_runWhile hslip, rfl, by decide⟩,
    ⟨_, Machine.path_of_runWhile hover, rfl, by decide⟩⟩

end HvisorTool
