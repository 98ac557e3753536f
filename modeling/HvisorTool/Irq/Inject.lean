/-
  File:      HvisorTool/Irq/Inject.lean
  Subject:   THE INTERRUPT LINE UNDER CONCURRENCY: any number of threads in `virtio_inject_irq` on
             the queues of one device, against status reads, acknowledgements and resets.

  A section under `interrupt_lock` is one step, and so is every single access
  outside it (`last_used_idx`, the rings' words). Rings and queue structs may
  change between any two steps in any way (`env`): the driver writes them, the
  device's handlers do, and a reset clears them. A thread that finds the response
  ring full spins inside its locked section; that step waits until there is room.

  * `lineStep`, `lineEvents`: what a step does to the line, and what it adds to
    the device's history of pushes and line-clearing events;
  * `irqStep_line`: the machine's steps have exactly these effects, so every
    property of the line is proved about `lineStep`;
  * `Suppressed`: the three tests that make `virtio_inject_irq` return early;
  * `irq_line_contract`: the three laws of the line.
-/
import HvisorTool.Bridge.Handshake
import HvisorTool.Irq.Line
import HvisorTool.Virtio.Queue

namespace HvisorTool

open Library

/-! ## 1. The machine -/

/-- `struct device_res`. -/
structure DeviceRes where
  targetZone : UInt32
  irqId : UInt32
  deriving DecidableEq, Repr, Inhabited

/-- Where a thread stands in `virtio_inject_irq(vq)`, with the locals that are live. -/
inductive InjectPc where
  | idle
  | loaded (q : Nat) (last : UInt16)
  | fetched (q : Nat) (last idx : UInt16)
  | stored (q : Nat) (last idx : UInt16)
  | compared (q : Nat) (last idx : UInt16)
  | flagged (q : Nat) (last idx : UInt16)
  | locking (q : Nat)
  deriving DecidableEq, Repr

/-- An entry of the device's line history. -/
inductive LineEvent where
  | push
  | clear
  deriving DecidableEq, Repr

structure IrqState where
  line : IrqLine
  vqs : Nat → VirtQueue
  mem : Mem
  pc : Nat → InjectPc
  resFront : Nat
  resRear : Nat
  resList : Nat → DeviceRes
  /-- Newest first. -/
  events : List LineEvent

inductive IrqAction where
  /-- Thread `t` calls `virtio_inject_irq` on queue `q`. -/
  | call (t q : Nat)
  /-- Thread `t` takes its next step outside the lock. -/
  | advance (t : Nat)
  /-- Thread `t` runs its locked section; `FINISH_REQ` returns `ret`. -/
  | locked (t : Nat) (ret : Int)
  | readStatus
  | ack (value : UInt64) (ret : Int)
  | reset (ret : Int)
  | env (mem : Mem) (vqs : Nat → VirtQueue)
  /-- The hypervisor takes a response. -/
  | resPop
  /-- Another device pushes a response. -/
  | resPush (r : DeviceRes)

/-- What a step does to the line. -/
def lineStep (l : IrqLine) : IrqAction → IrqLine
  | .locked _ ret => (l.inject ret).1
  | .ack value ret => l.ack value ret
  | .reset ret => l.reset ret
  | _ => l

/-- What a step adds to the history: a push, or the end of an asserted line. -/
def lineEvents (l : IrqLine) : IrqAction → List LineEvent
  | .locked _ ret => if (l.inject ret).2 then [.push] else []
  | .ack value ret =>
    if l.ackClears value && (l.ack value ret).interruptStatus == 0 then [.clear] else []
  | .reset ret =>
    if l.interruptLineAsserted && !(l.reset ret).interruptLineAsserted then [.clear] else []
  | _ => []

namespace IrqState

def setPc (s : IrqState) (t : Nat) (p : InjectPc) : IrqState :=
  { s with pc := fun u => if u = t then p else s.pc u }

/-- `last_used_idx = idx` on queue `q`. -/
def setLastUsed (s : IrqState) (q : Nat) (idx : UInt16) : IrqState :=
  { s with vqs := fun i => if i = q then { s.vqs q with lastUsedIdx := idx } else s.vqs i }

/-- The driver does not want an interrupt for queue `q` (flags mode). -/
def flagsSuppress (s : IrqState) (q : Nat) : Bool :=
  (s.vqs q).eventIdxEnabled == 0 && (s.vqs q).availFlags s.mem &&& 1 != 0

/-- The driver does not want an interrupt for the entries from `last` to `idx`
    (event-index mode). -/
def eventSuppress (s : IrqState) (q : Nat) (last idx : UInt16) : Bool :=
  (s.vqs q).eventIdxEnabled != 0 && !vringNeedEvent ((s.vqs q).usedEvent s.mem) idx last

/-- One entry more on the response ring. -/
def pushRes (s : IrqState) (r : DeviceRes) : IrqState :=
  { s with
    resList := fun i => if i = s.resRear then r else s.resList i
    resRear := ringNext s.resRear }

def resFull (s : IrqState) : Bool := isQueueFull s.resFront s.resRear maxReq

end IrqState

/-- The next step of thread `t` outside the lock. -/
def injectAdvance (s : IrqState) (t : Nat) : Option IrqState :=
  match s.pc t with
  | .idle => none
  | .loaded q last => some (s.setPc t (.fetched q last ((s.vqs q).usedIdx s.mem)))
  | .fetched q last idx => some ((s.setLastUsed q idx).setPc t (.stored q last idx))
  | .stored q last idx => some (s.setPc t (if idx = last then .idle else .compared q last idx))
  | .compared q last idx =>
    some (s.setPc t (if s.flagsSuppress q then .idle else .flagged q last idx))
  | .flagged q last idx =>
    some (s.setPc t (if s.eventSuppress q last idx then .idle else .locking q))
  | .locking _ => none

/-- The locked section of thread `t`. -/
def injectLocked (res : DeviceRes) (s : IrqState) (t : Nat) (ret : Int) : Option IrqState :=
  match s.pc t with
  | .locking _ =>
    let r := s.line.inject ret
    if r.2 && s.resFull then none
    else
      let s' := if r.2 then s.pushRes res else s
      some { s'.setPc t .idle with
        line := r.1
        events := lineEvents s.line (.locked t ret) ++ s.events }
  | _ => none

/-- One step of the machine of the device that answers with `res`. -/
def irqStep (res : DeviceRes) (s : IrqState) : IrqAction → Option IrqState
  | .call t q =>
    if s.pc t = .idle then some (s.setPc t (.loaded q (s.vqs q).lastUsedIdx)) else none
  | .advance t => injectAdvance s t
  | .locked t ret => injectLocked res s t ret
  | .readStatus => some s
  | .ack value ret =>
    some { s with
      line := s.line.ack value ret
      events := lineEvents s.line (.ack value ret) ++ s.events }
  | .reset ret =>
    some { s with
      line := s.line.reset ret
      events := lineEvents s.line (.reset ret) ++ s.events }
  | .env mem vqs => some { s with mem := mem, vqs := vqs }
  | .resPop =>
    if s.resFront = s.resRear then none else some { s with resFront := ringNext s.resFront }
  | .resPush r => if s.resFull then none else some (s.pushRes r)

def irqMachine (res : DeviceRes) : Machine IrqState IrqAction := ⟨irqStep res⟩

/-- A device just created: no thread injects, nothing was pushed. -/
def irqStart (vqs : Nat → VirtQueue) (mem : Mem) : IrqState :=
  { line := IrqLine.down, vqs := vqs, mem := mem, pc := fun _ => .idle, resFront := 0,
    resRear := 0, resList := fun _ => default, events := [] }

/-! ## 2. Steps and the line -/

variable {s s' : IrqState} {t u : Nat} {ret : Int} {l l' : IrqLine}

theorem injectAdvance_line (hs : injectAdvance s t = some s') :
    s'.line = s.line ∧ s'.events = s.events := by
  unfold injectAdvance at hs
  split at hs <;> cases hs <;> exact ⟨rfl, rfl⟩

variable {res : DeviceRes}

/-- What the locked section does: the line, the history and the result, and the call is over. -/
theorem injectLocked_eq (hs : injectLocked res s t ret = some s') :
    s' = { (if (s.line.inject ret).2 then s.pushRes res else s).setPc t .idle with
      line := (s.line.inject ret).1
      events := lineEvents s.line (.locked t ret) ++ s.events } := by
  unfold injectLocked at hs
  split at hs
  · dsimp only at hs
    split at hs
    · cases hs
    · exact (Option.some_inj.mp hs).symm
  · cases hs

variable {a : IrqAction}

/-- **A step moves the line by `lineStep` and the history by `lineEvents`.** -/
theorem irqStep_line (hs : irqStep res s a = some s') :
    s'.line = lineStep s.line a ∧ s'.events = lineEvents s.line a ++ s.events := by
  cases a with
  | call t q =>
    obtain ⟨_, rfl⟩ := guarded hs
    exact ⟨rfl, rfl⟩
  | advance t => exact injectAdvance_line hs
  | locked t ret =>
    rw [injectLocked_eq hs]
    exact ⟨rfl, rfl⟩
  | readStatus | ack | reset | env =>
    cases hs
    exact ⟨rfl, rfl⟩
  | resPop | resPush =>
    obtain ⟨_, rfl⟩ := unguarded hs
    exact ⟨rfl, rfl⟩

theorem sound_lineStep (h : l.Sound) (a : IrqAction) : (lineStep l a).Sound := by
  cases a with
  | locked t ret => exact l.sound_inject ret
  | ack value ret => exact h.ack value ret
  | reset ret => exact h.reset ret
  | _ => exact h

/-! ## 3. Runs in which every `ioctl` succeeds -/

/-- The `ioctl` of the step, if it makes one, returns 0. -/
def IoctlSucceeds (l : IrqLine) : IrqAction → Prop
  | .locked _ ret => l.interruptLineAsserted = false → ret = 0
  | .ack value ret => (l.ackClears value && l.interruptLineAsserted) = true → ret = 0
  | .reset ret => l.interruptLineAsserted = true → ret = 0
  | _ => True

/-- The condition on the steps of a run without failures. -/
def succeeds (s : IrqState) (a : IrqAction) : Prop := IoctlSucceeds s.line a

theorem succeeds_locked (s : IrqState) (t : Nat) : succeeds s (.locked t 0) := fun _ => rfl

theorem inject_of_succeeds (h : IoctlSucceeds l (.locked t ret)) : l.inject ret = l.inject 0 := by
  by_cases hl : l.interruptLineAsserted = true
  · simp [IrqLine.inject, hl]
  · rw [h (Bool.eq_false_iff.mpr hl)]

theorem ack_of_succeeds {value : UInt64}
    (h : IoctlSucceeds l (.ack value ret)) : l.ack value ret = l.ack value 0 := by
  by_cases hc : (l.ackClears value && l.interruptLineAsserted) = true
  · rw [h hc]
  · simp [IrqLine.ack, hc]

theorem reset_of_succeeds (h : IoctlSucceeds l (.reset ret)) : l.reset ret = IrqLine.down := by
  rw [← l.reset_zero]
  by_cases hl : l.interruptLineAsserted = true
  · rw [h hl]
  · simp [IrqLine.reset, hl]

theorem inStep_lineStep (h : l.InStep) (hio : IoctlSucceeds l a) : (lineStep l a).InStep := by
  cases a with
  | locked t ret =>
    simp only [lineStep, inject_of_succeeds hio]
    exact l.inStep_inject
  | ack value ret =>
    simp only [lineStep, ack_of_succeeds hio]
    exact h.ack value
  | reset ret =>
    simp only [lineStep, reset_of_succeeds hio]
    exact IrqLine.inStep_down
  | _ => exact h

/-- Pushes and clearing events take turns, and a push comes first. -/
def Alternates (es : List LineEvent) : Prop :=
  es.IsChain (· ≠ ·) ∧ es.getLast? ≠ some .clear

/-- The history agrees with the line: it alternates, and its newest event is a push
    exactly while the line is asserted. -/
def Tells (es : List LineEvent) (l : IrqLine) : Prop :=
  Alternates es ∧ (es.head? = some .push ↔ l.interruptLineAsserted = true)

theorem tells_nil : Tells [] IrqLine.down :=
  ⟨⟨.nil, nofun⟩, iff_of_false nofun Bool.false_ne_true⟩

variable {es : List LineEvent}

theorem Alternates.push (h : Alternates es) (hn : es.head? ≠ some .push) :
    Alternates (.push :: es) := by
  cases es with
  | nil => exact ⟨.singleton _, nofun⟩
  | cons e es =>
    have he : LineEvent.push ≠ e := fun heq => hn (by rw [← heq]; rfl)
    refine ⟨.cons_cons he h.1, ?_⟩
    rw [List.getLast?_cons_cons]
    exact h.2

theorem Alternates.clear (h : Alternates es) (hp : es.head? = some .push) :
    Alternates (.clear :: es) := by
  cases es with
  | nil => cases hp
  | cons e es =>
    cases hp
    refine ⟨.cons_cons nofun h.1, ?_⟩
    rw [List.getLast?_cons_cons]
    exact h.2

/-- A push onto an unasserted line. -/
theorem Tells.push (h : Tells es l) (hd : l.interruptLineAsserted = false)
    (hu : l'.interruptLineAsserted = true) : Tells (.push :: es) l' := by
  refine ⟨h.1.push fun hp => ?_, iff_of_true rfl hu⟩
  have hl : l.interruptLineAsserted = true := h.2.mp hp
  rw [hd] at hl
  cases hl

/-- The end of an asserted line. -/
theorem Tells.clear (h : Tells es l) (hu : l.interruptLineAsserted = true)
    (hd : l'.interruptLineAsserted = false) : Tells (.clear :: es) l' := by
  refine ⟨h.1.clear (h.2.mpr hu), iff_of_false nofun ?_⟩
  rw [hd]
  exact Bool.false_ne_true

/-- No event, and the line is as before. -/
theorem Tells.same (h : Tells es l)
    (e : l'.interruptLineAsserted = l.interruptLineAsserted) : Tells es l' :=
  ⟨h.1, by rw [e]; exact h.2⟩

/-- **One step keeps the history and the line in agreement.** -/
theorem tells_lineStep (hin : l.InStep) (hio : IoctlSucceeds l a) (h : Tells es l) :
    Tells (lineEvents l a ++ es) (lineStep l a) := by
  cases a with
  | locked t ret =>
    simp only [lineEvents, lineStep, inject_of_succeeds hio, l.inject_pushes]
    have hup : (l.inject 0).1.interruptLineAsserted = true := l.inject_asserted
    by_cases hl : l.interruptLineAsserted = true
    · rw [hl]
      exact h.same (hup.trans hl.symm)
    · have hd : l.interruptLineAsserted = false := Bool.eq_false_iff.mpr hl
      rw [hd]
      exact h.push hd hup
  | ack value ret =>
    simp only [lineEvents, lineStep, ack_of_succeeds hio]
    by_cases hc : l.ackClears value = true
    · have hst : l.interruptStatus ≠ 0 ∧ l.ackAfter value = 0 := by
        simpa [IrqLine.ackClears] using hc
      have hz : (l.ack value 0).interruptStatus = 0 := by
        rw [l.ack_zero]
        exact hst.2
      rw [hc, hz]
      exact h.clear (hin.mpr hst.1) (IrqLine.ack_asserted_of_clears hc)
    · have hn : l.ackClears value = false := Bool.eq_false_iff.mpr hc
      rw [hn]
      exact h.same (IrqLine.ack_asserted_of_not_clears hin hn)
  | reset ret =>
    simp only [lineEvents, lineStep, reset_of_succeeds hio]
    by_cases hl : l.interruptLineAsserted = true
    · rw [hl]
      exact h.clear hl rfl
    · have hd : l.interruptLineAsserted = false := Bool.eq_false_iff.mpr hl
      rw [hd]
      exact h.same hd.symm
  | _ => exact h

/-! ## 4. An asserted line stays asserted -/

/-- The step is a reset, or an acknowledgement that clears the last status bit. -/
def Clears (s : IrqState) : IrqAction → Prop
  | .ack value _ => s.line.ackClears value = true
  | .reset _ => True
  | _ => False

theorem asserted_lineStep (hin : s.line.InStep) (hio : IoctlSucceeds s.line a) (hc : ¬ Clears s a)
    (hl : s.line.interruptLineAsserted = true) :
    (lineStep s.line a).interruptLineAsserted = true := by
  cases a with
  | locked t ret =>
    simp only [lineStep, inject_of_succeeds hio]
    exact s.line.inject_asserted
  | ack value ret =>
    simp only [lineStep, ack_of_succeeds hio]
    rw [IrqLine.ack_asserted_of_not_clears hin (Bool.eq_false_iff.mpr hc)]
    exact hl
  | reset ret => exact absurd trivial hc
  | _ => exact hl

/-! ## 5. Early returns -/

/-- Thread `t` stands at a test of `virtio_inject_irq` that makes it return: the used
    index has not moved, or the driver does not want the interrupt. -/
def Suppressed (s : IrqState) (t : Nat) : Prop :=
  match s.pc t with
  | .stored _ last idx => idx = last
  | .compared q _ _ => s.flagsSuppress q = true
  | .flagged q last idx => s.eventSuppress q last idx = true
  | _ => False

theorem setPc_self (s : IrqState) (t : Nat) (p : InjectPc) : (s.setPc t p).pc t = p := if_pos rfl

theorem setPc_other (s : IrqState) (p : InjectPc) (h : u ≠ t) :
    (s.setPc t p).pc u = s.pc u := if_neg h

theorem injectAdvance_other (hs : injectAdvance s t = some s') (hu : u ≠ t) : s'.pc u = s.pc u := by
  unfold injectAdvance at hs
  split at hs <;> cases hs <;> exact setPc_other _ _ hu

theorem injectLocked_other
    (hs : injectLocked res s t ret = some s') (hu : u ≠ t) : s'.pc u = s.pc u := by
  rw [injectLocked_eq hs]
  change (IrqState.setPc _ t .idle).pc u = s.pc u
  rw [setPc_other _ _ hu]
  split <;> rfl

theorem suppressed_of_advance (hs : injectAdvance s t = some s')
    (hi : s'.pc t = .idle) : Suppressed s t := by
  unfold injectAdvance at hs
  unfold Suppressed
  split at hs
  case h_1 | h_7 => cases hs
  case h_2 | h_3 =>
      cases hs
      rw [setPc_self] at hi
      cases hi
  -- the three tests: had the test failed, the thread would stand at the next point
  case h_4 q last idx hp | h_5 q last idx hp | h_6 q last idx hp =>
      cases hs
      rw [setPc_self] at hi
      rw [hp]
      by_contra hne
      rw [if_neg hne] at hi
      cases hi

/-- **A call leaves `virtio_inject_irq` through its locked section or suppressed.** -/
theorem return_cases (hs : irqStep res s a = some s') (hb : s.pc t ≠ .idle) (hi : s'.pc t = .idle) :
    (∃ ret, a = .locked t ret) ∨ Suppressed s t := by
  cases a with
  | call u q =>
    obtain ⟨hu, rfl⟩ := guarded hs
    by_cases htu : t = u
    · exact absurd (htu ▸ hu) hb
    · rw [setPc_other _ _ htu] at hi
      exact absurd hi hb
  | advance u =>
    by_cases htu : t = u
    · subst htu
      exact .inr (suppressed_of_advance hs hi)
    · rw [injectAdvance_other hs htu] at hi
      exact absurd hi hb
  | locked u ret =>
    by_cases htu : t = u
    · exact .inl ⟨ret, by rw [htu]⟩
    · rw [injectLocked_other hs htu] at hi
      exact absurd hi hb
  | readStatus | ack | reset | env =>
    cases hs
    exact absurd hi hb
  | resPop | resPush =>
    obtain ⟨_, rfl⟩ := unguarded hs
    exact absurd hi hb

/-! ## 6. The laws of the line -/

section Laws

variable {vqs : Nat → VirtQueue} {mem : Mem}

theorem reach_sound (h : (irqMachine res).Reach (irqStart vqs mem) s) : s.line.Sound := by
  refine Machine.Path.inv (fun s => s.line.Sound) IrqLine.sound_down ?_ h
  intro s a s' hi _ hs
  rw [(irqStep_line hs).1]
  exact sound_lineStep hi a

theorem path_inStep (h : (irqMachine res).Path succeeds (irqStart vqs mem) s) :
    s.line.InStep ∧ Tells s.events s.line := by
  refine Machine.Path.inv (fun s => s.line.InStep ∧ Tells s.events s.line)
    ⟨IrqLine.inStep_down, tells_nil⟩ ?_ h
  intro s a s' hi hio hs
  obtain ⟨el, ee⟩ := irqStep_line hs
  rw [el, ee]
  exact ⟨inStep_lineStep hi.1 hio, tells_lineStep hi.1 hio hi.2⟩

/-- From an asserted line, runs without a clearing step keep it asserted. -/
theorem path_asserted {s₀ : IrqState} (hin : s₀.line.InStep)
    (hl : s₀.line.interruptLineAsserted = true)
    (h : (irqMachine res).Path (fun s a => succeeds s a ∧ ¬ Clears s a) s₀ s) :
    s.line.interruptLineAsserted = true := by
  refine (Machine.Path.inv (fun s => s.line.InStep ∧ s.line.interruptLineAsserted = true)
    ⟨hin, hl⟩ ?_ h).2
  intro s a s' hi hok hs
  rw [(irqStep_line hs).1]
  exact ⟨inStep_lineStep hi.1 hok.1, asserted_lineStep hi.1 hok.1 hok.2 hi.2⟩

/-- **The interrupt line**, over every interleaving:
    (a) whatever the `ioctl`s return, an asserted line has a status bit;
    (b) if they all succeed, the status is not 0 exactly while the line is asserted,
    and pushes alternate with the events that clear the line, a push being the
    newest of them exactly while the line is asserted;
    (c) if they all succeed, a call that is not suppressed leaves through its locked
    section, with the line asserted, and the line stays so until a reset or an
    acknowledgement that clears the last status bit. -/
theorem irq_line_contract (res : DeviceRes) (vqs : Nat → VirtQueue) (mem : Mem) :
    (∀ s, (irqMachine res).Reach (irqStart vqs mem) s →
      s.line.interruptLineAsserted = true → s.line.interruptStatus ≠ 0) ∧
    (∀ s, (irqMachine res).Path succeeds (irqStart vqs mem) s →
      (s.line.interruptStatus ≠ 0 ↔ s.line.interruptLineAsserted = true) ∧
      Alternates s.events ∧
      (s.events.head? = some .push ↔ s.line.interruptLineAsserted = true)) ∧
    (∀ s, (irqMachine res).Path succeeds (irqStart vqs mem) s →
      ∀ a s' t, succeeds s a → (irqMachine res).step s a = some s' →
        s.pc t ≠ .idle → s'.pc t = .idle → ¬ Suppressed s t →
        s'.line.interruptLineAsserted = true ∧
        ∀ s'', (irqMachine res).Path (fun s a => succeeds s a ∧ ¬ Clears s a) s' s'' →
          s''.line.interruptLineAsserted = true) := by
  refine ⟨fun s h => reach_sound h, fun s h => ?_, ?_⟩
  · obtain ⟨hin, htell⟩ := path_inStep h
    exact ⟨hin.symm, htell.1, htell.2⟩
  · intro s h a s' t hio hs hb hi hsup
    have hin : s.line.InStep := (path_inStep h).1
    have el : s'.line = lineStep s.line a := (irqStep_line hs).1
    have hin' : s'.line.InStep := by
      rw [el]
      exact inStep_lineStep hin hio
    have hl : s'.line.interruptLineAsserted = true := by
      obtain ⟨ret, ha⟩ := (return_cases hs hb hi).resolve_right hsup
      subst ha
      rw [el]
      simp only [lineStep, inject_of_succeeds hio]
      exact s.line.inject_asserted
    exact ⟨hl, fun s'' hp => path_asserted hin' hl hp⟩

end Laws

/-- A queue whose available ring lies at 0x10100 and its used ring at 0x10200. -/
def mappedRings : VirtQueue :=
  { (default : VirtQueue) with availRing := 0x10100, usedRing := 0x10200 }

/-- Memory in which that used ring has one entry. -/
def oneUsedEntry : Mem := fun a => if a = 0x10202 then 1 else 0

/-- A thread takes one used entry through `virtio_inject_irq`: the line is asserted,
    one push is in the history and the status is set. -/
theorem irq_line_contract_oneEntry :
    ∃ s s', (irqMachine ⟨1, 79⟩).Path succeeds (irqStart (fun _ => mappedRings) oneUsedEntry) s ∧
      (irqMachine ⟨1, 79⟩).step s (.locked 0 0) = some s' ∧
      s'.line.interruptLineAsserted = true ∧ s'.events.head? = some .push ∧
      s'.line.interruptStatus ≠ 0 := by
  have hrun : (irqMachine ⟨1, 79⟩).run (irqStart (fun _ => mappedRings) oneUsedEntry)
      (.call 0 0 :: List.replicate 5 (.advance 0)) = some _ := rfl
  have hok : ∀ a ∈ IrqAction.call 0 0 :: List.replicate 5 (.advance 0), ∀ s, succeeds s a := by
    simp [succeeds, IoctlSucceeds]
  have hp := Machine.run_path .start hok hrun
  obtain ⟨ha, hb, hc⟩ := irq_line_contract ⟨1, 79⟩ (fun _ => mappedRings) oneUsedEntry
  have hl := (hc _ hp (.locked 0 0) _ 0 (succeeds_locked _ 0) rfl nofun rfl id).1
  have hp' := Machine.Path.step (.locked 0 0) hp (succeeds_locked _ 0) rfl
  have hr := hp'.mono fun _ _ _ => trivial
  exact ⟨_, _, hp, rfl, hl, (hb _ hp').2.2.mpr hl, ha _ hr hl⟩

end HvisorTool
