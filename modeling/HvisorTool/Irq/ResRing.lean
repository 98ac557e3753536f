/-
  File:      HvisorTool/Irq/ResRing.lean
  Subject:   THE RESPONSE RING TO THE HYPERVISOR: the section of `virtio_inject_irq`
             under `RES_MUTEX`, run by any number of threads, against the consumer.

  The section is one step, its wait for room included: it is enabled while
  `is_queue_full` is false. The consumer reads `res_list[res_front]` in one step and
  moves `res_front` in another, so pushes may come between the two.

  * `ResRing`, `resMachine`: the ring, and the machine with the logs of what was pushed
    and what was consumed;
  * `ResInv`: what was pushed is what was consumed and then what is outstanding;
  * `irqStep_ring`: the steps of the interrupt-line machine are steps of this ring;
  * `res_ring_fifo`: the ring as a queue, in every run.
-/
import HvisorTool.Irq.Inject

namespace HvisorTool

open Library

/-! ## 1. The machine -/

/-- `res_front`, `res_rear` and `res_list` of `struct virtio_bridge`. -/
structure ResRing where
  resFront : Nat
  resRear : Nat
  resList : Nat → DeviceRes

namespace ResRing

def full (r : ResRing) : Bool := isQueueFull r.resFront r.resRear maxReq

/-- The stores of the section under `RES_MUTEX`. -/
def push (r : ResRing) (res : DeviceRes) : ResRing :=
  { r with
    resList := Function.update r.resList r.resRear res
    resRear := ringNext r.resRear }

/-- The consumer's store. -/
def drop (r : ResRing) : ResRing := { r with resFront := ringNext r.resFront }

/-- How many entries wait to be consumed. -/
def pending (r : ResRing) : Nat := ringCount maxReq r.resFront r.resRear

/-- The entries that wait to be consumed, oldest first. -/
def outstanding (r : ResRing) : List DeviceRes :=
  ringContents r.resList maxReq r.resFront r.pending

/-- The slot of the `j`-th outstanding entry. -/
def slot (r : ResRing) (j : Nat) : Nat := (r.resFront + j) % maxReq

end ResRing

structure ResState where
  ring : ResRing
  /-- The entry that the consumer has read and not released. -/
  reading : Option DeviceRes
  pushed : List DeviceRes
  consumed : List DeviceRes

inductive ResAction where
  /-- Thread `t` pushes the response of its device. -/
  | push (t : Nat) (res : DeviceRes)
  /-- The consumer reads `res_list[res_front]`. -/
  | read
  /-- The consumer moves `res_front`. -/
  | release

def resStep (s : ResState) : ResAction → Option ResState
  | .push _ res =>
    if s.ring.full then none
    else some { s with ring := s.ring.push res, pushed := s.pushed ++ [res] }
  | .read =>
    match s.reading with
    | none =>
      if s.ring.resFront = s.ring.resRear then none
      else some { s with reading := some (s.ring.resList s.ring.resFront) }
    | some _ => none
  | .release =>
    match s.reading with
    | none => none
    | some res =>
      some { s with ring := s.ring.drop, reading := none, consumed := s.consumed ++ [res] }

def resMachine : Machine ResState ResAction := ⟨resStep⟩

/-- `res_front = res_rear = 0`, with anything in the slots. -/
def resStart (resList : Nat → DeviceRes) : ResState :=
  { ring := ⟨0, 0, resList⟩, reading := none, pushed := [], consumed := [] }

/-! ## 2. The ring as a queue -/

/-- Both indices are in range. -/
structure ResRing.InBounds (r : ResRing) : Prop where
  front : r.resFront < maxReq
  rear : r.resRear < maxReq

namespace ResRing.InBounds

variable {r : ResRing} (h : r.InBounds)
include h

theorem push (res : DeviceRes) : (r.push res).InBounds := ⟨h.front, ringNext_lt _⟩

theorem drop : r.drop.InBounds := ⟨ringNext_lt _, h.rear⟩

theorem pending_lt : r.pending < maxReq := ringCount_lt h.front

theorem pending_eq_zero : r.pending = 0 ↔ r.resFront = r.resRear :=
  ringCount_eq_zero h.front h.rear

theorem pending_push (res : DeviceRes) (hroom : ¬ r.full = true) :
    (r.push res).pending = r.pending + 1 := by
  have hne : (r.resRear + 1) % maxReq ≠ r.resFront :=
    fun he => hroom ((isQueueFull_iff _ _).mpr he)
  have hbump := ringCount_bump h.front h.rear hne
  rw [← ringNext_eq] at hbump
  exact hbump

/-- **A push leaves the slots of all outstanding entries alone.** -/
theorem push_slot (res : DeviceRes) {j : Nat} (hj : j < r.pending) :
    (r.push res).resList (r.slot j) = r.resList (r.slot j) := by
  have hne : r.slot j ≠ r.slot r.pending := slot_ne r.resFront hj h.pending_lt
  have hrear : r.slot r.pending = r.resRear := front_add_ringCount h.front h.rear
  rw [hrear] at hne
  exact Function.update_of_ne hne res r.resList

theorem outstanding_push (res : DeviceRes) (hroom : ¬ r.full = true) :
    (r.push res).outstanding = r.outstanding ++ [res] := by
  have hrear : r.slot r.pending = r.resRear := front_add_ringCount h.front h.rear
  have hkept : ringContents (r.push res).resList maxReq r.resFront r.pending = r.outstanding :=
    ringContents_write r.resList h.front h.rear res
  have hlast : (r.push res).resList (r.slot r.pending) = res := by
    rw [hrear]
    exact Function.update_self ..
  calc (r.push res).outstanding
      = ringContents (r.push res).resList maxReq r.resFront (r.pending + 1) := by
        rw [← h.pending_push res hroom]
        rfl
    _ = r.outstanding ++ [(r.push res).resList (r.slot r.pending)] := by
        rw [ringContents_push, hkept]
        rfl
    _ = r.outstanding ++ [res] := by rw [hlast]

theorem outstanding_drop (hne : r.resFront ≠ r.resRear) :
    r.outstanding = r.resList r.resFront :: r.drop.outstanding := by
  have hdrop := ringCount_drop h.front h.rear hne
  rw [← ringNext_eq] at hdrop
  have hpending : r.pending = r.drop.pending + 1 := hdrop.symm
  calc r.outstanding
      = ringContents r.resList maxReq r.resFront (r.drop.pending + 1) := by
        rw [← hpending]
        rfl
    _ = r.resList r.resFront :: r.drop.outstanding := by
        rw [ringContents_pop r.resList h.front, ← ringNext_eq]
        rfl

end ResRing.InBounds

/-! ## 3. Runs -/

/-- What was pushed is what was consumed and then what is outstanding; an entry being
    read is the oldest outstanding one. -/
structure ResInv (s : ResState) : Prop where
  bounds : s.ring.InBounds
  log : s.pushed = s.consumed ++ s.ring.outstanding
  reading : ∀ res, s.reading = some res →
    s.ring.resFront ≠ s.ring.resRear ∧ res = s.ring.resList s.ring.resFront

theorem resInv_start (resList : Nat → DeviceRes) : ResInv (resStart resList) := by
  have hpos : 0 < maxReq := by decide
  have hb : (resStart resList).ring.InBounds := ⟨hpos, hpos⟩
  have hout : (resStart resList).ring.outstanding = [] := by
    unfold ResRing.outstanding
    rw [hb.pending_eq_zero.mpr rfl]
    rfl
  exact ⟨hb, hout.symm, nofun⟩

variable {s : ResState} {res : DeviceRes}

/-- A push between the consumer's read and its release does not touch what it read. -/
theorem ResInv.push (h : ResInv s) (res : DeviceRes) (hroom : ¬ s.ring.full = true) :
    ResInv { s with ring := s.ring.push res, pushed := s.pushed ++ [res] } := by
  refine ⟨h.bounds.push res, ?_, ?_⟩
  · change s.pushed ++ [res] = s.consumed ++ (s.ring.push res).outstanding
    rw [h.bounds.outstanding_push res hroom, h.log, List.append_assoc]
  · intro r hr
    obtain ⟨hne, hr⟩ := h.reading r hr
    have hpos : 0 < s.ring.pending :=
      Nat.pos_of_ne_zero fun h0 => hne (h.bounds.pending_eq_zero.mp h0)
    have hslot : s.ring.slot 0 = s.ring.resFront := Nat.mod_eq_of_lt h.bounds.front
    have hkept := h.bounds.push_slot res hpos
    rw [hslot] at hkept
    refine ⟨?_, hr.trans hkept.symm⟩
    -- the ring is not empty after a push: it was not empty before
    intro he
    have hzero := ((h.bounds.push res).pending_eq_zero).mpr he
    rw [h.bounds.pending_push res hroom] at hzero
    exact absurd hzero (Nat.succ_ne_zero _)

theorem ResInv.release (h : ResInv s) (hr : s.reading = some res) :
    ResInv { s with ring := s.ring.drop, reading := none, consumed := s.consumed ++ [res] } := by
  obtain ⟨hne, hres⟩ := h.reading res hr
  refine ⟨h.bounds.drop, ?_, nofun⟩
  change s.pushed = (s.consumed ++ [res]) ++ s.ring.drop.outstanding
  rw [h.log, h.bounds.outstanding_drop hne, hres, List.append_assoc]
  rfl

theorem resInv_step {s' : ResState} {a : ResAction} (h : ResInv s)
    (hs : resStep s a = some s') : ResInv s' := by
  cases a with
  | push t res =>
    obtain ⟨hroom, rfl⟩ := unguarded hs
    exact h.push res hroom
  | read =>
    unfold resStep at hs
    cases hr : s.reading with
    | some res => rw [hr] at hs; cases hs
    | none =>
      rw [hr] at hs
      obtain ⟨hne, rfl⟩ := unguarded hs
      refine ⟨h.bounds, h.log, ?_⟩
      intro res hres
      cases hres
      exact ⟨hne, rfl⟩
  | release =>
    unfold resStep at hs
    cases hr : s.reading with
    | none => rw [hr] at hs; cases hs
    | some res =>
      rw [hr] at hs
      cases hs
      exact h.release hr

theorem resInv_reach {resList : Nat → DeviceRes}
    (h : resMachine.Reach (resStart resList) s) : ResInv s :=
  h.inv ResInv (resInv_start resList) fun _ _ _ hi _ hs => resInv_step hi hs

/-! ## 4. The interrupt line drives this ring -/

/-- The ring of the interrupt-line machine. -/
def IrqState.ring (s : IrqState) : ResRing := ⟨s.resFront, s.resRear, s.resList⟩

theorem ring_pushRes (s : IrqState) (res : DeviceRes) : (s.pushRes res).ring = s.ring.push res := by
  unfold IrqState.ring IrqState.pushRes ResRing.push
  congr 1
  funext i
  rw [Function.update_apply]

theorem injectAdvance_ring {s s' : IrqState} {t : Nat} (hs : injectAdvance s t = some s') :
    s'.ring = s.ring := by
  unfold injectAdvance at hs
  split at hs <;> cases hs <;> rfl

/-- **A step of the interrupt-line machine leaves the ring, pushes to it while it is not
    full, or takes an entry while it is not empty.** -/
theorem irqStep_ring {s s' : IrqState} {a : IrqAction} (hs : irqStep res s a = some s') :
    s'.ring = s.ring ∨ (∃ r, ¬ s.ring.full = true ∧ s'.ring = s.ring.push r) ∨
      (s.ring.resFront ≠ s.ring.resRear ∧ s'.ring = s.ring.drop) := by
  cases a with
  | call t q =>
    obtain ⟨_, rfl⟩ := guarded hs
    exact .inl rfl
  | advance t => exact .inl (injectAdvance_ring hs)
  | locked t ret =>
    simp only [irqStep, injectLocked] at hs
    split at hs
    · obtain ⟨hroom, rfl⟩ := unguarded hs
      by_cases hp : (s.line.inject ret).2 = true
      · refine .inr (.inl ⟨res, fun hfull => hroom ?_, ?_⟩)
        · rw [hp]
          exact hfull
        · rw [← ring_pushRes]
          simp only [hp, if_true]
          rfl
      · refine .inl ?_
        simp only [hp]
        rfl
    · cases hs
  | readStatus | ack | reset | env =>
    cases hs
    exact .inl rfl
  | resPop =>
    obtain ⟨hne, rfl⟩ := unguarded hs
    exact .inr (.inr ⟨hne, rfl⟩)
  | resPush r =>
    obtain ⟨hroom, rfl⟩ := unguarded hs
    exact .inr (.inl ⟨r, hroom, ring_pushRes s r⟩)

/-- **Every run of the interrupt-line machine is, on the ring, a run of this one.** -/
theorem irq_ring_reach {vqs : Nat → VirtQueue} {mem : Mem} {s : IrqState}
    (h : (irqMachine res).Reach (irqStart vqs mem) s) :
    ∃ r, resMachine.Reach (resStart fun _ => default) r ∧ r.ring = s.ring ∧ r.reading = none := by
  refine h.inv (fun s => ∃ r, resMachine.Reach (resStart fun _ => default) r ∧ r.ring = s.ring ∧
    r.reading = none) ⟨_, .start, rfl, rfl⟩ ?_
  intro s a s' ⟨r, hr, hring, hidle⟩ _ hs
  rcases irqStep_ring hs with hsame | ⟨x, hroom, hpush⟩ | ⟨hne, hdrop⟩
  · exact ⟨r, hr, hring.trans hsame.symm, hidle⟩
  · refine ⟨{ r with ring := r.ring.push x, pushed := r.pushed ++ [x] },
      .step (.push 0 x) hr trivial ?_, ?_, hidle⟩
    · rw [← hring] at hroom
      exact if_neg hroom
    · rw [hpush, ← hring]
  · -- one `resPop` is the consumer's read and its release
    rw [← hring] at hne hdrop
    have hread : resStep r .read =
        some { r with reading := some (r.ring.resList r.ring.resFront) } := by
      unfold resStep
      rw [hidle]
      exact if_neg hne
    exact ⟨_, .step .release (.step .read hr trivial hread) trivial rfl, hdrop.symm, rfl⟩

/-- A call for one used entry, with its push. -/
theorem irq_ring_reach_onePush : ∃ s r, s.resRear = 1 ∧
    resMachine.Reach (resStart fun _ => default) r ∧ r.ring = IrqState.ring s := by
  have hrun : (irqMachine ⟨1, 79⟩).run (irqStart (fun _ => mappedRings) oneUsedEntry)
      (.call 0 0 :: List.replicate 5 (.advance 0) ++ [.locked 0 0]) = some _ := rfl
  obtain ⟨r, hr, hring, -⟩ := irq_ring_reach (Machine.reach_of_run hrun)
  exact ⟨_, r, rfl, hr, hring⟩

/-! ## 5. The contract of the ring -/

/-- **The response ring is a bounded queue**: in every run the indices stay in range, at
    most `MAX_REQ - 1` entries are outstanding, what was consumed and what is outstanding
    are together what was pushed, in that order, and a push changes no outstanding
    entry. -/
theorem res_ring_fifo (resList : Nat → DeviceRes) (s : ResState)
    (h : resMachine.Reach (resStart resList) s) :
    s.ring.resFront < maxReq ∧ s.ring.resRear < maxReq ∧
      s.ring.outstanding.length ≤ maxReq - 1 ∧
      s.pushed = s.consumed ++ s.ring.outstanding ∧
      s.consumed <+: s.pushed ∧
      ∀ t res s', resStep s (.push t res) = some s' →
        s'.ring.outstanding = s.ring.outstanding ++ [res] ∧
          ∀ j < s.ring.outstanding.length,
            s'.ring.resList (s.ring.slot j) = s.ring.resList (s.ring.slot j) := by
  have hinv := resInv_reach h
  have hlen : s.ring.outstanding.length = s.ring.pending := ringContents_length _
  have hlt := hinv.bounds.pending_lt
  refine ⟨hinv.bounds.front, hinv.bounds.rear, by omega, hinv.log, ?_, ?_⟩
  · exact ⟨s.ring.outstanding, hinv.log.symm⟩
  · intro t res s' hs
    obtain ⟨hroom, rfl⟩ := unguarded hs
    refine ⟨hinv.bounds.outstanding_push res hroom, ?_⟩
    intro j hj
    exact hinv.bounds.push_slot res (hlen ▸ hj)

/-- Two threads push, the second between the consumer's read and its release. -/
def twoPushes : ResState :=
  { ring :=
      { resFront := 1, resRear := 2
        resList := Function.update (Function.update (fun _ => default) 0 ⟨1, 78⟩) 1 ⟨2, 79⟩ }
    reading := none, pushed := [⟨1, 78⟩, ⟨2, 79⟩], consumed := [⟨1, 78⟩] }

/-- There the second push is outstanding, and a third one comes behind it. -/
theorem res_ring_fifo_twoPushes :
    resMachine.Reach (resStart fun _ => default) twoPushes ∧
      twoPushes.ring.outstanding = [⟨2, 79⟩] ∧
      ∀ s', resStep twoPushes (.push 0 ⟨1, 78⟩) = some s' →
        s'.ring.outstanding = [⟨2, 79⟩, ⟨1, 78⟩] := by
  have hr : resMachine.Reach (resStart fun _ => default) twoPushes :=
    Machine.reach_of_run
      (show resMachine.run _ [.push 0 ⟨1, 78⟩, .read, .push 1 ⟨2, 79⟩, .release] = _ from rfl)
  have hout : twoPushes.ring.outstanding = [⟨2, 79⟩] := by decide
  refine ⟨hr, hout, ?_⟩
  intro s' hs
  obtain ⟨-, -, -, -, -, hpush⟩ := res_ring_fifo (fun _ => default) twoPushes hr
  rw [(hpush 0 ⟨1, 78⟩ s' hs).1, hout]
  rfl

end HvisorTool
