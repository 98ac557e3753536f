/-
  File:      HvisorTool/Bridge/Steady.lean
  Subject:   NO REQUEST IS LOST OR DUPLICATED on the virtio bridge.

  * `RingInv`: what the ring holds. The indices are in range, the local front
    agrees with the shared one (but for the moment between handling a request
    and storing the new front), a producer about to store has room, and the
    requests produced are the handled ones followed by the ring's contents;
  * `WakeInv`: the sleep handshake. While the daemon sleeps its flag is up, and the ring is empty,
    or a kick has arrived, or the producer has still to read the flag or to act on having read 1;
  * `ringInv_step`, `wakeInv_step`: every step of either party keeps both;
  * `bridge_steady`: the consequences on every interleaving.
-/
import HvisorTool.Bridge.Handshake

namespace HvisorTool

open Library

/-! ## 1. The ring -/

/-- The daemon is in a part of `consume_pending_requests` where its local front
    is a copy of the shared one. -/
def DaemonPc.copied : DaemonPc → Bool
  | .clearFlag | .poll | .handle | .setFlag | .recheck | .unsetFlag => true
  | _ => false

/-- The requests the producer holds that have room in the ring. -/
def ProducerPc.hasRoom : ProducerPc → Bool
  | .write _ | .bump _ => true
  | _ => false

structure RingInv (s : BridgeState) : Prop where
  frontLt : s.bridge.reqFront < maxReq
  rearLt : s.bridge.reqRear < maxReq
  copied : s.daemon.copied = true → s.reqFront = s.bridge.reqFront
  handling : s.daemon = .handle → s.bridge.reqFront ≠ s.bridge.reqRear
  storing : s.daemon = .storeFront →
    s.reqFront = (s.bridge.reqFront + 1) % maxReq ∧ s.bridge.reqFront ≠ s.bridge.reqRear
  room : s.producer.hasRoom = true → (s.bridge.reqRear + 1) % maxReq ≠ s.bridge.reqFront
  slot : ∀ r, s.producer = .bump r → s.bridge.reqList s.bridge.reqRear = r
  fifo : s.produced = s.handled ++ s.pending

/-- Two indices in range with the same successor are the same. -/
theorem succ_mod_ne {a b : Nat} (ha : a < maxReq) (hb : b < maxReq) (hne : a ≠ b) :
    (a + 1) % maxReq ≠ (b + 1) % maxReq := by
  rcases succ_mod_split ha with ⟨h, e⟩ | ⟨h, e⟩ <;>
    rcases succ_mod_split hb with ⟨h', e'⟩ | ⟨h', e'⟩ <;> omega

namespace RingInv

variable {s s' : BridgeState}

theorem next_lt (hI : RingInv s) : s.next < maxReq := by
  unfold BridgeState.next
  split
  · rename_i hd
    rw [(hI.storing hd).1]
    exact Nat.mod_lt _ (by decide)
  · exact hI.frontLt

/-- A producer that found room has room behind the pending requests, too. -/
theorem room_next (hI : RingInv s) (h : s.producer.hasRoom = true) :
    (s.bridge.reqRear + 1) % maxReq ≠ s.next := by
  unfold BridgeState.next
  split
  · rename_i hd
    obtain ⟨e, hne⟩ := hI.storing hd
    rw [e]
    exact succ_mod_ne hI.rearLt hI.frontLt (Ne.symm hne)
  · exact hI.room h

/-- The rear update makes the slot at the rear the last pending request. -/
theorem pending_bump (hI : RingInv s) (h : s.producer.hasRoom = true) :
    ringContents s.bridge.reqList maxReq s.next
      (ringCount maxReq s.next ((s.bridge.reqRear + 1) % maxReq)) =
      s.pending ++ [s.bridge.reqList s.bridge.reqRear] := by
  rw [ringCount_bump hI.next_lt hI.rearLt (hI.room_next h), ringContents_push,
    front_add_ringCount hI.next_lt hI.rearLt]
  rfl

/-- The request the daemon hands on is the oldest pending one. -/
theorem pending_handle (hI : RingInv s) (hd : s.daemon = .handle) :
    s.pending = s.bridge.reqList s.reqFront ::
      ringContents s.bridge.reqList maxReq ((s.reqFront + 1) % maxReq)
        (ringCount maxReq ((s.reqFront + 1) % maxReq) s.bridge.reqRear) := by
  have hc : s.reqFront = s.bridge.reqFront := hI.copied (by rw [hd]; rfl)
  have hn : s.next = s.bridge.reqFront := by simp [BridgeState.next, hd]
  have hdrop := ringCount_drop hI.frontLt hI.rearLt (hI.handling hd)
  rw [BridgeState.pending, hn, ← hdrop, ringContents_pop _ hI.frontLt, hc]

/-- **Every step of the producer keeps the ring.** -/
theorem producer (hI : RingInv s) (hs : producerStep s = some s') : RingInv s' := by
  unfold producerStep at hs
  split at hs
  · cases hs
  · split at hs
    · cases hs
      exact hI
    · rename_i hfull
      cases hs
      exact ⟨hI.frontLt, hI.rearLt, hI.copied, hI.handling, hI.storing,
        fun _ e => hfull ((isQueueFull_iff _ _).mpr e), (fun _ h => by cases h), hI.fifo⟩
  · rename_i r hp
    cases hs
    refine ⟨hI.frontLt, hI.rearLt, hI.copied, hI.handling, hI.storing,
      fun _ => hI.room (by rw [hp]; rfl), fun r' h => ?_, ?_⟩
    · cases h
      exact Function.update_self ..
    · exact hI.fifo.trans (congrArg _ (ringContents_write _ hI.next_lt hI.rearLt r).symm)
  · rename_i r hp
    have hroom : s.producer.hasRoom = true := by rw [hp]; rfl
    have hbump := hI.pending_bump hroom
    rw [hI.slot r hp] at hbump
    have hne : s.bridge.reqFront ≠ ringNext s.bridge.reqRear := by
      rw [ringNext_eq]
      exact (hI.room hroom).symm
    cases hs
    refine ⟨hI.frontLt, ringNext_lt _, hI.copied, fun _ => hne, fun hd => ⟨(hI.storing hd).1, hne⟩,
      (fun h => by cases h), (fun _ h => by cases h), ?_⟩
    show s.produced ++ [r] = s.handled ++ ringContents s.bridge.reqList maxReq s.next
      (ringCount maxReq s.next (ringNext s.bridge.reqRear))
    rw [ringNext_eq, hbump, hI.fifo, List.append_assoc]
  · cases hs
    exact ⟨hI.frontLt, hI.rearLt, hI.copied, hI.handling, hI.storing,
      (fun h => by cases h), (fun _ h => by cases h), hI.fifo⟩
  · cases hs
    exact ⟨hI.frontLt, hI.rearLt, hI.copied, hI.handling, hI.storing,
      (fun h => by cases h), (fun _ h => by cases h), hI.fifo⟩

/-- A step of the daemon that moves neither index, handles nothing, and leaves a
    program point where the local front is a copy of the shared one only if it is. -/
theorem move (hI : RingInv s) {d : DaemonPc} {f n e : Nat} {w m : Bool}
    (hd : s.daemon ≠ .storeFront) (hd' : d ≠ .storeFront)
    (hc : d.copied = true → f = s.bridge.reqFront)
    (hh : d = .handle → s.bridge.reqFront ≠ s.bridge.reqRear) :
    RingInv { s with
      bridge := { s.bridge with mmioAvail := m, needWakeup := w }
      eventfd := e, daemon := d, reqFront := f, pollCount := n } := by
  refine ⟨hI.frontLt, hI.rearLt, hc, hh, fun h => absurd h hd', hI.room, hI.slot, ?_⟩
  -- away from `storeFront` the pending requests start at the shared front
  have hfifo := hI.fifo
  simp only [BridgeState.pending, BridgeState.next, if_neg hd, if_neg hd'] at hfifo ⊢
  exact hfifo

/-- **Every step of the daemon keeps the ring.** -/
theorem daemon {loongarch : Bool} (hI : RingInv s) (hs : daemonStep loongarch s = some s') :
    RingInv s' := by
  unfold daemonStep at hs
  cases hd : s.daemon <;> simp only [hd] at hs
  case publish =>
    cases hs
    cases loongarch <;> exact hI.move (by simp [hd]) nofun nofun nofun
  case arm =>
    cases hs
    exact hI.move (by simp [hd]) nofun nofun nofun
  case blocked =>
    split at hs
    · cases hs
      exact hI.move (by simp [hd]) nofun nofun nofun
    · cases hs
  case readEvent =>
    cases hs
    exact hI.move (by simp [hd]) nofun nofun nofun
  case loadFront =>
    cases hs
    exact hI.move (by simp [hd]) nofun (fun _ => rfl) nofun
  case handle =>
    have hc : s.reqFront = s.bridge.reqFront := hI.copied (by rw [hd]; rfl)
    have hp := hI.pending_handle hd
    cases hs
    refine ⟨hI.frontLt, hI.rearLt, nofun, nofun,
      fun _ => ⟨?_, hI.handling hd⟩, hI.room, hI.slot, ?_⟩
    · show ringNext s.reqFront = _
      rw [ringNext_eq, hc]
    · show s.produced = (s.handled ++ [s.bridge.reqList s.reqFront]) ++
        ringContents s.bridge.reqList maxReq (ringNext s.reqFront)
          (ringCount maxReq (ringNext s.reqFront) s.bridge.reqRear)
      rw [hI.fifo, hp, ringNext_eq, List.append_assoc, List.singleton_append]
  case storeFront =>
    obtain ⟨e, hne⟩ := hI.storing hd
    have hf := hI.fifo
    simp only [BridgeState.pending, BridgeState.next, if_pos hd] at hf
    have hlt : s.reqFront < maxReq := by
      rw [e]
      exact Nat.mod_lt _ (by decide)
    cases hs
    refine ⟨hlt, hI.rearLt, fun _ => rfl, nofun, nofun,
      fun _ => ?_, hI.slot, hf⟩
    show (s.bridge.reqRear + 1) % maxReq ≠ s.reqFront
    rw [e]
    exact succ_mod_ne hI.rearLt hI.frontLt (Ne.symm hne)
  all_goals
    -- the rest of `consume_pending_requests`: the local front is a copy
    have hc : s.reqFront = s.bridge.reqFront := hI.copied (by rw [hd]; rfl)
  case poll =>
    split at hs
    · rename_i hne
      cases hs
      exact hI.move (by simp [hd]) nofun (fun _ => hc) fun _ => hc ▸ hne
    · split at hs
      · cases hs
        rw [← hd]
        exact hI.move (by simp [hd]) (by simp [hd]) (fun _ => hc) (by simp [hd])
      · cases hs
        exact hI.move (by simp [hd]) nofun (fun _ => hc) nofun
  case recheck =>
    split at hs
    · cases hs
      exact hI.move (by simp [hd]) nofun nofun nofun
    · cases hs
      exact hI.move (by simp [hd]) nofun (fun _ => hc) nofun
  all_goals
    cases hs
    exact hI.move (by simp [hd]) nofun (fun _ => hc) nofun

theorem submit {r : DeviceReq} (hI : RingInv s) : RingInv { s with producer := .room r } :=
  ⟨hI.frontLt, hI.rearLt, hI.copied, hI.handling, hI.storing, nofun, nofun, hI.fifo⟩

/-- **Every step keeps the ring.** -/
theorem step {loongarch : Bool} {a : BridgeAction} (hI : RingInv s)
    (hs : bridgeStep loongarch s a = some s') : RingInv s' := by
  cases a with
  | submit r =>
    rw [(bridgeStep_submit hs).2]
    exact hI.submit
  | producer => exact hI.producer hs
  | daemon => exact hI.daemon hs

/-- **No slot between the front and the rear is overwritten.** The daemon stores
    to no slot, and the producer's store goes to the free slot at the rear. -/
theorem slots_kept {loongarch : Bool} {a : BridgeAction} (hI : RingInv s)
    (hs : bridgeStep loongarch s a = some s') :
    ringContents s'.bridge.reqList maxReq s.bridge.reqFront
        (ringCount maxReq s.bridge.reqFront s.bridge.reqRear) =
      ringContents s.bridge.reqList maxReq s.bridge.reqFront
        (ringCount maxReq s.bridge.reqFront s.bridge.reqRear) := by
  cases a with
  | submit r =>
    rw [(bridgeStep_submit hs).2]
  | producer =>
    simp only [bridgeStep, producerStep] at hs
    split at hs
    case h_3 r hp =>
      cases hs
      exact ringContents_write s.bridge.reqList hI.frontLt hI.rearLt r
    all_goals
      try split at hs
      all_goals cases hs
      all_goals rfl
  | daemon =>
    simp only [bridgeStep, daemonStep] at hs
    split at hs
    all_goals
      repeat' split at hs
      all_goals cases hs
      all_goals rfl

/-- The ring holds a request exactly when the position to serve is not the rear. -/
theorem pending_ne_nil (hI : RingInv s) : s.pending ≠ [] ↔ s.next ≠ s.bridge.reqRear := by
  rw [← not_iff_not, not_not, not_not, ← ringCount_eq_zero hI.next_lt hI.rearLt,
    ← List.length_eq_zero_iff, BridgeState.pending, ringContents_length]

end RingInv

/-! ## 2. The sleep handshake -/

/-- The daemon is before or in its sleep: nobody polls the ring. -/
def DaemonPc.asleep : DaemonPc → Bool
  | .publish | .arm | .blocked => true
  | _ => false

/-- The daemon has not armed its flag for the first time yet. -/
def DaemonPc.unarmed : DaemonPc → Bool
  | .publish | .arm => true
  | _ => false

/-- An armed daemon that is asleep is blocked. -/
theorem DaemonPc.blocked_of_asleep {d : DaemonPc} (h : d.asleep = true)
    (hun : d.unarmed = false) : d = .blocked := by
  cases d <;> simp_all [DaemonPc.asleep, DaemonPc.unarmed]

/-- Nobody has to be woken, or the daemon is being woken: the ring is empty, a
    kick has arrived, or the producer has still to read the flag or read 1. -/
def BridgeState.Announced (s : BridgeState) : Prop :=
  s.bridge.reqFront = s.bridge.reqRear ∨ 0 < s.eventfd ∨ s.producer = .readFlag ∨
    s.producer = .kick true

structure WakeInv (s : BridgeState) : Prop where
  flag : s.daemon = .blocked ∨ s.daemon = .recheck → s.bridge.needWakeup = true
  sleep : s.daemon.asleep = true → s.Announced

/-- A producer's reading of the flag comes after the daemon has first armed it. -/
def armedRead (s : BridgeState) (a : BridgeAction) : Prop :=
  a = .producer → s.producer = .readFlag → s.daemon.unarmed = false

namespace WakeInv

variable {s s' : BridgeState}

theorem producer (hW : WakeInv s) (hok : armedRead s .producer)
    (hs : producerStep s = some s') : WakeInv s' := by
  unfold producerStep at hs
  cases hp : s.producer <;> simp only [hp] at hs
  case idle => cases hs
  case room r =>
    have hsleep := hW.sleep
    simp only [BridgeState.Announced, hp, reduceCtorEq, or_false] at hsleep
    split at hs <;> cases hs
    · exact hW
    · exact ⟨hW.flag, fun h => (hsleep h).imp_right Or.inl⟩
  case write r =>
    have hsleep := hW.sleep
    simp only [BridgeState.Announced, hp, reduceCtorEq, or_false] at hsleep
    cases hs
    exact ⟨hW.flag, fun h => (hsleep h).imp_right Or.inl⟩
  case bump r =>
    cases hs
    exact ⟨hW.flag, fun _ => Or.inr (Or.inr (Or.inl rfl))⟩
  case readFlag =>
    have hun := hok rfl hp
    cases hs
    refine ⟨hW.flag, fun h => Or.inr (Or.inr (Or.inr ?_))⟩
    have hd := DaemonPc.blocked_of_asleep h hun
    exact congrArg _ (hW.flag (Or.inl hd))
  case kick wake =>
    cases hs
    refine ⟨hW.flag, fun h => ?_⟩
    cases wake with
    | true => exact Or.inr (Or.inl (Nat.succ_pos _))
    | false =>
      have hsleep := hW.sleep h
      simp only [BridgeState.Announced, hp, reduceCtorEq, ProducerPc.kick.injEq,
        Bool.false_eq_true, or_false] at hsleep
      exact hsleep.imp_right Or.inl

theorem daemon {loongarch : Bool} (hI : RingInv s) (hW : WakeInv s)
    (hs : daemonStep loongarch s = some s') : WakeInv s' := by
  unfold daemonStep at hs
  cases hd : s.daemon <;> simp only [hd] at hs
  case publish =>
    have hsleep := hW.sleep (by rw [hd]; rfl)
    cases hs
    cases loongarch
    · exact ⟨nofun, fun _ => hsleep⟩
    · exact ⟨nofun, nofun⟩
  case arm =>
    have hsleep := hW.sleep (by rw [hd]; rfl)
    cases hs
    exact ⟨fun _ => rfl, fun _ => hsleep⟩
  case setFlag =>
    cases hs
    exact ⟨fun _ => rfl, nofun⟩
  case recheck =>
    have hc : s.reqFront = s.bridge.reqFront := hI.copied (by rw [hd]; rfl)
    split at hs
    · rename_i he
      cases hs
      exact ⟨fun _ => hW.flag (Or.inr hd), fun _ => Or.inl (hc ▸ he)⟩
    · cases hs
      exact ⟨nofun, nofun⟩
  case poll =>
    split at hs
    · cases hs
      exact ⟨nofun, nofun⟩
    · split at hs <;> cases hs <;> exact ⟨nofun, nofun⟩
  all_goals
    -- the daemon is awake behind each of these steps
    try split at hs
    all_goals cases hs
    all_goals exact ⟨nofun, nofun⟩

/-- **Every step keeps the handshake**, if the flag is read only once it is armed. -/
theorem step {loongarch : Bool} {a : BridgeAction} (hI : RingInv s) (hW : WakeInv s)
    (hok : armedRead s a) (hs : bridgeStep loongarch s a = some s') : WakeInv s' := by
  cases a with
  | submit r =>
    obtain ⟨hp, rfl⟩ := bridgeStep_submit hs
    have hsleep := hW.sleep
    simp only [BridgeState.Announced, hp, reduceCtorEq, or_false] at hsleep
    exact ⟨hW.flag, fun h => (hsleep h).imp_right Or.inl⟩
  | producer => exact hW.producer hok hs
  | daemon => exact hW.daemon hI hs

/-- A sleeping daemon with a request in the ring and nobody about to kick has been kicked. -/
theorem kicked (hW : WakeInv s) (hd : s.daemon = .blocked) (hp : s.producer.between = false)
    (hne : s.bridge.reqFront ≠ s.bridge.reqRear) : 0 < s.eventfd := by
  rcases hW.sleep (by rw [hd]; rfl) with h | h | h | h
  · exact absurd h hne
  · exact h
  · rw [h] at hp
    cases hp
  · rw [h] at hp
    cases hp

theorem not_stranded (hW : WakeInv s) : ¬ Stranded s := by
  rintro ⟨hd, he, hne, hp⟩
  have := hW.kicked hd hp hne
  omega

end WakeInv

/-! ## 3. Every interleaving -/

/-- How many daemon steps before it hands a waiting request on. -/
def DaemonPc.toHandle : DaemonPc → Nat
  | .handle => 0
  | .poll => 1
  | .storeFront | .clearFlag | .unsetFlag => 2
  | .loadFront | .recheck => 3
  | .readEvent | .setFlag => 4
  | .blocked => 5
  | .arm => 6
  | .publish => 7

section Progress

variable (loongarch : Bool) {s : BridgeState}

/-- One step of a daemon with a request waiting: it comes closer to handling it. -/
theorem daemon_approaches (hI : RingInv s) (hW : WakeInv s) (hp : s.producer.between = false)
    (hne : s.pending ≠ []) (hd : s.daemon ≠ .handle) :
    ∃ t, daemonStep loongarch s = some t ∧ t.daemon.toHandle < s.daemon.toHandle ∧
      t.pending = s.pending ∧ t.producer = s.producer ∧ t.handled = s.handled := by
  have hnext := hI.pending_ne_nil.mp hne
  unfold daemonStep
  simp only [BridgeState.next] at hnext
  cases hpc : s.daemon <;> simp only [hpc, reduceCtorEq, if_false, if_true] at hnext hd ⊢
  case publish =>
    refine ⟨_, rfl, ?_, ?_, rfl, rfl⟩ <;> cases loongarch <;>
      simp [DaemonPc.toHandle, BridgeState.pending, BridgeState.next, hpc]
  case blocked =>
    rw [if_pos (hW.kicked hpc hp hnext)]
    exact ⟨_, rfl, Nat.lt_succ_self _, by simp [BridgeState.pending, BridgeState.next, hpc], rfl, rfl⟩
  case handle => exact absurd rfl hd
  case poll =>
    have hc : s.reqFront = s.bridge.reqFront := hI.copied (by rw [hpc]; rfl)
    rw [if_pos (hc ▸ hnext)]
    exact ⟨_, rfl, Nat.lt_succ_self _, by simp [BridgeState.pending, BridgeState.next, hpc], rfl, rfl⟩
  case recheck =>
    have hc : s.reqFront = s.bridge.reqFront := hI.copied (by rw [hpc]; rfl)
    rw [if_neg (hc ▸ hnext)]
    exact ⟨_, rfl, Nat.lt_succ_self _, by simp [BridgeState.pending, BridgeState.next, hpc], rfl, rfl⟩
  all_goals
    exact ⟨_, rfl, Nat.lt_succ_self _, by simp [BridgeState.pending, BridgeState.next, hpc], rfl, rfl⟩

/-- **A waiting request is served**: the daemon alone hands the oldest one on
    within eight steps, whatever it was doing. -/
theorem daemon_serves (hI : RingInv s) (hW : WakeInv s) (hp : s.producer.between = false)
    (hne : s.pending ≠ []) :
    ∃ n t, n ≤ s.daemon.toHandle + 1 ∧
      (bridgeMachine loongarch).run s (List.replicate n .daemon) = some t ∧
      t.handled = s.handled ++ s.pending.take 1 := by
  induction hk : s.daemon.toHandle using Nat.strong_induction_on generalizing s with
  | _ k ih =>
    by_cases hd : s.daemon = .handle
    · obtain ⟨t, hs, ht⟩ : ∃ t, daemonStep loongarch s = some t ∧
          t.handled = s.handled ++ [s.bridge.reqList s.reqFront] := by
        simp only [daemonStep, hd]
        exact ⟨_, rfl, rfl⟩
      refine ⟨1, t, Nat.le_add_left 1 k, congrArg (Option.bind · _) hs, ?_⟩
      rw [ht, hI.pending_handle hd]
      rfl
    · obtain ⟨t, hs, hlt, hpend, hprod, hhand⟩ := daemon_approaches loongarch hI hW hp hne hd
      obtain ⟨n, u, hn, hrun, hu⟩ := ih _ (hk ▸ hlt) (hI.daemon hs) (hW.daemon hI hs)
        (hprod ▸ hp) (hpend ▸ hne) rfl
      refine ⟨n + 1, u, by omega, ?_, ?_⟩
      · rw [List.replicate_succ, Machine.run]
        exact (congrArg (Option.bind · _) hs).trans hrun
      · rw [hu, hhand, hpend]

end Progress

theorem ringInv_steadyStart : RingInv steadyStart :=
  ⟨by decide, by decide, nofun, nofun, nofun, nofun, nofun, rfl⟩

theorem wakeInv_steadyStart : WakeInv steadyStart := ⟨nofun, nofun⟩

/-- No daemon returns to the start-up of `handle_virtio_requests`. -/
theorem armed_step {loongarch : Bool} {s s' : BridgeState} {a : BridgeAction}
    (hd : s.daemon.unarmed = false) (hs : bridgeStep loongarch s a = some s') :
    s'.daemon.unarmed = false := by
  cases a with
  | submit r =>
    rw [(bridgeStep_submit hs).2]
    exact hd
  | producer =>
    simp only [bridgeStep, producerStep] at hs
    split at hs
    all_goals
      try split at hs
      all_goals cases hs
      all_goals exact hd
  | daemon =>
    simp only [bridgeStep, daemonStep] at hs
    split at hs <;> rename_i hpc
    case h_1 => simp [hpc, DaemonPc.unarmed] at hd
    all_goals
      repeat' split at hs
      all_goals cases hs
      all_goals first | rfl | exact hd

/-- The invariant of every run of a daemon that drains first. -/
theorem steady_inv {loongarch : Bool} {s : BridgeState}
    (h : (bridgeMachine loongarch).Reach steadyStart s) : RingInv s ∧ WakeInv s := by
  have hall := Machine.Path.inv (fun s => RingInv s ∧ WakeInv s ∧ s.daemon.unarmed = false)
    ⟨ringInv_steadyStart, wakeInv_steadyStart, rfl⟩ ?_ h
  · exact ⟨hall.1, hall.2.1⟩
  · rintro s a s' ⟨hI, hW, hd⟩ - hs
    exact ⟨hI.step hs, hW.step hI (fun _ _ => hd) hs, armed_step hd hs⟩

/-- **No bridge request is lost or duplicated.** In every state of every
    interleaving the requests handled so far, followed by those in the ring, are
    the requests produced, in order; no step overwrites a slot between the
    shared front and the rear; the daemon never sleeps over a request; and a
    waiting request is handed on by the daemon's next steps, so that a daemon
    that sleeps with nobody about to kick has handled everything. -/
theorem bridge_steady (loongarch : Bool) (s : BridgeState)
    (h : (bridgeMachine loongarch).Reach steadyStart s) :
    s.produced = s.handled ++ s.pending ∧
    (∀ a s', bridgeStep loongarch s a = some s' →
      ringContents s'.bridge.reqList maxReq s.bridge.reqFront
          (ringCount maxReq s.bridge.reqFront s.bridge.reqRear) =
        ringContents s.bridge.reqList maxReq s.bridge.reqFront
          (ringCount maxReq s.bridge.reqFront s.bridge.reqRear)) ∧
    ¬ Stranded s ∧
    (s.producer.between = false → s.pending ≠ [] → ∃ n t, n ≤ 8 ∧
      (bridgeMachine loongarch).run s (List.replicate n .daemon) = some t ∧
      t.handled = s.handled ++ s.pending.take 1) ∧
    (s.daemon = .blocked → s.eventfd = 0 → s.producer.between = false →
      s.handled = s.produced) := by
  obtain ⟨hI, hW⟩ := steady_inv h
  refine ⟨hI.fifo, fun a s' hs => hI.slots_kept hs, hW.not_stranded, fun hp hne => ?_,
    fun hd he hp => ?_⟩
  · obtain ⟨n, t, hn, hrun, ht⟩ := daemon_serves loongarch hI hW hp hne
    have h7 : s.daemon.toHandle ≤ 7 := by
      cases s.daemon <;> decide
    exact ⟨n, t, by omega, hrun, ht⟩
  · have hnil : s.pending = [] := by
      by_contra hne
      have hfr := hI.pending_ne_nil.mp hne
      rw [BridgeState.next, if_neg (by rw [hd]; nofun)] at hfr
      exact hW.not_stranded ⟨hd, he, hfr, hp⟩
    rw [hI.fifo, hnil, List.append_nil]

/-- A request submitted and written while the daemon polls: it waits in the ring. -/
def steadyRun : List BridgeAction :=
  [.daemon, .daemon, .submit default, .producer, .producer, .producer, .producer, .producer]

/-- The state behind `steadyRun`: one request pending, the daemon polling. -/
def steadyMid : BridgeState :=
  { bridge := { reqFront := 0, reqRear := 1,
                reqList := Function.update (fun _ => default) 0 default,
                mmioAvail := true, needWakeup := false }
    eventfd := 0, producer := .idle, daemon := .poll, reqFront := 0, pollCount := 0,
    produced := [default], handled := [] }

theorem steadyMid_reached : (bridgeMachine false).Reach steadyStart steadyMid :=
  Machine.reach_of_run (show (bridgeMachine false).run steadyStart steadyRun = _ from rfl)

theorem bridge_steady_mid : steadyMid.pending ≠ [] ∧ ∃ n t, n ≤ 8 ∧
    (bridgeMachine false).run steadyMid (List.replicate n .daemon) = some t ∧
    t.handled = steadyMid.handled ++ steadyMid.pending.take 1 :=
  ⟨nofun, (bridge_steady false steadyMid steadyMid_reached).2.2.2.1 rfl nofun⟩

end HvisorTool
