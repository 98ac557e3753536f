/-
  File:      HvisorTool/Bridge/StartUp.lean
  Subject:   THE START-UP OF THE BRIDGE: from `virtio_start` publishing
             `mmio_avail` to the daemon's first sleep.

  `handle_virtio_requests` has two branches. On LoongArch it drains first, so that it enters its
  event loop through the sleep handshake; elsewhere it only stores `need_wakeup = 1`. A producer
  that reads the flag between the two stores reads 0 and does not kick.

  * `boot_loongarch_never_strands`: the draining branch never sleeps over a request;
  * `boot_strands`: the other branch does, in eight steps;
  * `boot_safe_without_early_read`: it does so only through a flag read that
    comes before the arming store, and each such read can do it.
-/
import HvisorTool.Bridge.Steady

namespace HvisorTool

open Library

/-! ## 1. Before the first store to the flag -/

/-- Until the daemon arms its flag, and while no producer has read it, at most
    one request is in the ring, and its producer is about to read the flag. -/
structure BootInv (s : BridgeState) : Prop where
  flag : s.daemon.unarmed = true → s.bridge.needWakeup = false
  eventfd : s.daemon.unarmed = true → s.eventfd = 0
  front : s.daemon.unarmed = true → s.bridge.reqFront = 0
  rear : s.daemon.unarmed = true → s.producer = .readFlag → s.bridge.reqRear = 1
  empty : s.daemon.unarmed = true → s.producer ≠ .readFlag → s.bridge.reqRear = 0
  calm : s.daemon.unarmed = true → ∀ w, s.producer ≠ .kick w

theorem bootInv_armed {s : BridgeState} (h : s.daemon.unarmed = false) : BootInv s := by
  have hn : ¬ s.daemon.unarmed = true := by simp [h]
  exact ⟨fun h' => absurd h' hn, fun h' => absurd h' hn, fun h' => absurd h' hn,
    fun h' => absurd h' hn, fun h' => absurd h' hn, fun h' => absurd h' hn⟩

namespace BootInv

variable {s s' : BridgeState}

theorem producer (hB : BootInv s) (hok : armedRead s .producer)
    (hs : producerStep s = some s') : BootInv s' := by
  unfold producerStep at hs
  cases hp : s.producer <;> simp only [hp] at hs
  case idle => cases hs
  case room r =>
    split at hs <;> cases hs
    · exact hB
    · exact ⟨hB.flag, hB.eventfd, hB.front, nofun, fun h _ => hB.empty h (by simp [hp]), nofun⟩
  case write r =>
    cases hs
    exact ⟨hB.flag, hB.eventfd, hB.front, nofun, fun h _ => hB.empty h (by simp [hp]), nofun⟩
  case bump r =>
    cases hs
    refine ⟨hB.flag, hB.eventfd, hB.front, fun h _ => ?_, fun _ hne => absurd rfl hne, nofun⟩
    show ringNext s.bridge.reqRear = 1
    rw [hB.empty h (by simp [hp])]
    rfl
  case readFlag =>
    have hun := hok rfl hp
    cases hs
    exact bootInv_armed hun
  case kick w =>
    have hun : s.daemon.unarmed = false := by
      cases h : s.daemon.unarmed
      · rfl
      · exact absurd hp (hB.calm h w)
    cases hs
    exact bootInv_armed hun

theorem daemon (hB : BootInv s) (hs : daemonStep false s = some s') : BootInv s' := by
  by_cases hd : s.daemon = .publish
  · have hun : s.daemon.unarmed = true := by rw [hd]; rfl
    simp only [daemonStep, hd, Bool.false_eq_true, if_false] at hs
    cases hs
    exact ⟨fun _ => hB.flag hun, fun _ => hB.eventfd hun, fun _ => hB.front hun,
      fun _ => hB.rear hun, fun _ => hB.empty hun, fun _ => hB.calm hun⟩
  · refine bootInv_armed ?_
    by_cases ha : s.daemon = .arm
    · simp only [daemonStep, ha] at hs
      cases hs
      rfl
    · have hun : s.daemon.unarmed = false := by
        cases h : s.daemon <;> simp_all [DaemonPc.unarmed]
      exact armed_step hun (show bridgeStep false s .daemon = some s' from hs)

theorem step {a : BridgeAction} (hB : BootInv s) (hok : armedRead s a)
    (hs : bridgeStep false s a = some s') : BootInv s' := by
  cases a with
  | submit r =>
    obtain ⟨hp, rfl⟩ := bridgeStep_submit hs
    exact ⟨hB.flag, hB.eventfd, hB.front, nofun,
      fun h _ => hB.empty h (by simp [hp]), nofun⟩
  | producer => exact hB.producer hok hs
  | daemon => exact hB.daemon hs

/-- **A flag read before the arming store strands its request**: the producer
    reads 0, does not kick, and the daemon arms its flag and sleeps. -/
theorem early_read_strands (hB : BootInv s) (hun : s.daemon.unarmed = true)
    (hp : s.producer = .readFlag) :
    ∃ as t, (bridgeMachine false).run s as = some t ∧ Stranded t := by
  have hf := hB.flag hun
  have he := hB.eventfd hun
  have h0 := hB.front hun
  have h1 := hB.rear hun hp
  have hd : s.daemon = .publish ∨ s.daemon = .arm := by
    cases h : s.daemon <;> simp_all [DaemonPc.unarmed]
  rcases hd with hd | hd
  · refine ⟨[.producer, .producer, .daemon, .daemon], { s with
      bridge := { s.bridge with mmioAvail := true, needWakeup := true }
      producer := .idle, daemon := .blocked }, ?_, rfl, he, by simp [h0, h1], rfl⟩
    simp [Machine.run, bridgeMachine, bridgeStep, producerStep, daemonStep, hp, hd, hf]
  · refine ⟨[.producer, .producer, .daemon], { s with
      bridge := { s.bridge with needWakeup := true }
      producer := .idle, daemon := .blocked }, ?_, rfl, he, by simp [h0, h1], rfl⟩
    simp [Machine.run, bridgeMachine, bridgeStep, producerStep, daemonStep, hp, hd, hf]

end BootInv

theorem ringInv_bootStart : RingInv bootStart :=
  ⟨by decide, by decide, nofun, nofun, nofun, nofun, nofun, rfl⟩

theorem wakeInv_bootStart : WakeInv bootStart := ⟨nofun, fun _ => Or.inl rfl⟩

theorem bootInv_bootStart : BootInv bootStart :=
  ⟨fun _ => rfl, fun _ => rfl, fun _ => rfl, nofun, fun _ _ => rfl, nofun⟩

/-! ## 2. The branch that drains first -/

/-- Until LoongArch has published the bridge no producer runs, and behind that
    it is in `consume_pending_requests` or in the event loop. -/
def drainsFirst (s : BridgeState) : Prop :=
  (s.daemon = .publish ∧ s.bridge.mmioAvail = false ∧ s.producer = .idle) ∨ s.daemon.unarmed = false

theorem drainsFirst_step {s s' : BridgeState} {a : BridgeAction} (hD : drainsFirst s)
    (hs : bridgeStep true s a = some s') : drainsFirst s' := by
  rcases hD with ⟨hd, hm, hp⟩ | hun
  · cases a with
    | submit r => simp [bridgeStep, hm] at hs
    | producer => simp [bridgeStep, producerStep, hp] at hs
    | daemon =>
      simp only [bridgeStep, daemonStep, hd, if_true] at hs
      cases hs
      exact Or.inr rfl
  · exact Or.inr (armed_step hun hs)

/-- **The LoongArch branch never sleeps over a request**, from the zeroed bridge on. -/
theorem boot_loongarch_never_strands {s : BridgeState}
    (h : (bridgeMachine true).Reach bootStart s) : ¬ Stranded s := by
  have hall := Machine.Path.inv (fun s => RingInv s ∧ WakeInv s ∧ drainsFirst s)
    ⟨ringInv_bootStart, wakeInv_bootStart, Or.inl ⟨rfl, rfl, rfl⟩⟩ ?_ h
  · exact hall.2.1.not_stranded
  · rintro s a s' ⟨hI, hW, hD⟩ - hs
    refine ⟨hI.step hs, hW.step hI (fun _ hp => ?_) hs, drainsFirst_step hD hs⟩
    rcases hD with ⟨-, -, hidle⟩ | hun
    · rw [hidle] at hp
      cases hp
    · exact hun

/-! ## 3. The branch that arms without draining -/

/-- Publish; a request is submitted, written and counted in, its producer reads
    the flag and does not kick; only then the daemon arms the flag and sleeps. -/
def strandingRun : List BridgeAction :=
  [.daemon, .submit default, .producer, .producer, .producer, .producer, .producer, .daemon]

/-- Draining first, the daemon is awake behind the same steps. -/
theorem loongarch_awake : ∃ s, (bridgeMachine true).run bootStart strandingRun = some s ∧
    ¬ Stranded s := by
  have hrun : (bridgeMachine true).run bootStart strandingRun = some _ := rfl
  exact ⟨_, hrun, boot_loongarch_never_strands (Machine.reach_of_run hrun)⟩

def strandedState : BridgeState :=
  { bridge := { reqFront := 0, reqRear := 1,
                reqList := Function.update (fun _ => default) 0 default,
                mmioAvail := true, needWakeup := true }
    eventfd := 0, producer := .idle, daemon := .blocked, reqFront := 0, pollCount := 0,
    produced := [default], handled := [] }

/-- **The other branch can sleep over a request.** -/
theorem boot_strands : ∃ s, (bridgeMachine false).Reach bootStart s ∧ Stranded s := by
  have hrun : (bridgeMachine false).run bootStart strandingRun = some strandedState := rfl
  exact ⟨strandedState, Machine.reach_of_run hrun, rfl, rfl, by decide, rfl⟩

/-- **What the arming branch guarantees.** In every run in which each reading of
    the flag comes after the arming store no state strands a request; and a
    reading before it, after any such run, leads to a stranded request. -/
theorem boot_safe_without_early_read (s : BridgeState)
    (h : (bridgeMachine false).Path armedRead bootStart s) :
    ¬ Stranded s ∧
      (¬ armedRead s .producer → ∃ as t, (bridgeMachine false).run s as = some t ∧ Stranded t) := by
  have hall := Machine.Path.inv (fun s => RingInv s ∧ WakeInv s ∧ BootInv s)
    ⟨ringInv_bootStart, wakeInv_bootStart, bootInv_bootStart⟩ ?_ h
  · obtain ⟨-, hW, hB⟩ := hall
    refine ⟨hW.not_stranded, fun hearly => ?_⟩
    simp only [armedRead, true_imp_iff, Classical.not_imp, Bool.not_eq_false] at hearly
    exact hB.early_read_strands hearly.2 hearly.1
  · rintro s a s' ⟨hI, hW, hB⟩ hok hs
    exact ⟨hI.step hs, hW.step hI hok hs, hB.step hok hs⟩

/-- A request is in the ring, its producer about to read the flag, the daemon
    about to arm it. -/
def raceState : BridgeState :=
  { strandedState with
    bridge := { strandedState.bridge with needWakeup := false }
    producer := .readFlag, daemon := .arm }

theorem raceState_reached : (bridgeMachine false).Path armedRead bootStart raceState :=
  (((((Machine.Path.start.step .daemon nofun rfl).step (.submit default) nofun rfl).step
    .producer nofun rfl).step .producer nofun rfl).step .producer nofun rfl)

theorem boot_safe_without_early_read_race : ¬ Stranded raceState ∧
    ∃ as t, (bridgeMachine false).run raceState as = some t ∧ Stranded t := by
  have h := boot_safe_without_early_read raceState raceState_reached
  exact ⟨h.1, h.2 fun hok => nomatch hok rfl rfl⟩

end HvisorTool
