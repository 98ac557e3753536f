/-
  File:      HvisorTool/Device/RingSetUp.lean
  Subject:   NO RING BEFORE IT IS SET UP: when the handlers of the net, console, SCMI and
             GPU devices access a ring of a queue that has none.

  `vq_is_empty` is the only place where a pointer is tested, and it tests one of three. What each
  handler needs of its queue is different, and is what `NotifyOk` and `InputOk` say.

  * `NeverNull`, `Faults`: no tape, or some tape, on which a handler reads through `NULL`;
  * `rxqNotify_iff`, `drainOnce_iff`, `drainThenInject_iff`, `receive_iff`: the loops that
    devices share, each safe exactly when the queue has what the loop and its pass need;
  * `notify_iff`, `onInput_iff`: every handler of every device;
  * `guestView`, `Follows.view`: a queue as the guest's writes since the last reset leave it;
  * `rings_set_up_iff`: any step, after any accesses and events.
-/
import HvisorTool.Device.Handlers
import HvisorTool.Mmio.QueueNum

namespace HvisorTool

open Library

/-! ## 1. What a handler needs -/

/-- What a handler depends on in its queue: which of its pointers are set, its size and
    its mode. -/
structure QueueView where
  set : RingPart → Prop
  num : UInt64
  eventIdx : Bool

/-- The queue as it is. -/
def VirtQueue.view (vq : VirtQueue) : QueueView :=
  { set := fun p => p.ptr vq ≠ 0, num := vq.num, eventIdx := vq.eventIdxEnabled != 0 }

/-- A descriptor table, where the queue has a size. -/
def QueueView.Walkable (v : QueueView) : Prop := v.set .desc ∨ v.num = 0

/-- For a handler that ends with an interrupt: both rings, and what its pass over a
    request needs. -/
structure QueueView.Served (v : QueueView) (pass : Prop) : Prop where
  used : v.set .used
  avail : v.set .avail
  pass : pass

/-- For a handler that does not: without an available ring it is enough that the event
    index is off. -/
structure QueueView.Drained (v : QueueView) (pass : Prop) : Prop where
  used : v.set .used
  pass : v.set .avail → pass
  event : ¬ v.set .avail → v.eventIdx = false

/-- What the handler of queue `i` needs. -/
def NotifyOk (k : RingKind) (i : Nat) (v : QueueView) (dev : k.Dev) : Prop :=
  match k, i, dev with
  | .net, 0, net => net.rxReady ≤ 0 → v.set .used
  | .net, 1, net => v.Drained (net.tapfd ≠ -1 → v.Walkable)
  | .console, 0, dev => dev.rxReady ≤ 0 → v.set .used
  | .console, 1, dev => v.Served (0 < dev.masterFd → v.set .desc)
  | .scmi, 0, _ => v.Served v.Walkable
  | .gpu, 0, _ => v.Drained (v.set .desc)
  | .gpu, 1, _ => v.Served (v.set .desc)
  | _, _, _ => True

/-- What the handler of an event needs of the receive queue. -/
def InputOk (k : RingKind) (ev : InputEvent) (type : VirtioDeviceType) (v : QueueView)
    (dev : k.Dev) : Prop :=
  match k, dev with
  | .net, net =>
    ev.fd = net.tapfd ∧ ev.epollin = true ∧ net.tapfd ≠ -1 ∧ type = .net ∧ net.rxReady ≠ 0 →
      v.Served v.Walkable
  | .console, dev =>
    ev.fd = dev.masterFd ∧ ev.epollin = true ∧ 0 < dev.masterFd ∧ type = .console ∧
        0 < dev.rxReady →
      v.Served (v.set .desc)
  | .scmi, _ => True
  | .gpu, _ => True

/-- What a step needs of the queues and of the device before it. -/
def StepOk (k : RingKind) (view : Nat → QueueView) (d : VirtIODevice k.Dev) : RingStep → Prop
  | .access a => ∀ i, notifiedQueue d.vqs.length a = some i → NotifyOk k i (view i) d.dev
  | .input ev => InputOk k ev d.type (view 0) d.dev

/-! ## 2. Programs that read through `NULL` -/

section Faults

variable {δ α β : Type} {vq : VirtQueue} {s : RingState δ}

/-- The handler does not read through `NULL`, whatever it sees. -/
def NeverNull (m : Nat → Ring δ Unit) (s : RingState δ) : Prop :=
  ∀ rounds tape p, m rounds { s with tape := tape } ≠ .error (.null p)

/-- On some tape the program reads through `NULL`. -/
def Faults (m : Ring δ α) (s : RingState δ) : Prop :=
  ∃ tape p, m { s with tape := tape } = .error (.null p)

theorem NeverNull.of_safe {P : δ → Prop} {m : Nat → Ring δ Unit} (hb : s.batch = [])
    (hP : P s.dev) (h : ∀ rounds, Safe P vq (m rounds)) : NeverNull m s := by
  intro rounds tape p
  have hinv : HandlerInv P vq { s with tape := tape } := ⟨fun _ => hb, hP⟩
  exact (h rounds).not_null hinv p

theorem not_neverNull {m : Nat → Ring δ Unit} (rounds : Nat) (h : Faults (m rounds) s) :
    ¬ NeverNull m s := by
  obtain ⟨tape, p, he⟩ := h
  exact fun hn => hn rounds tape p he

variable {m : Ring δ α}

theorem Faults.bind (h : Faults m s) (f : α → Ring δ β) : Faults (m >>= f) s := by
  obtain ⟨tape, p, he⟩ := h
  exact ⟨tape, p, bind_error he f⟩

/-- Behind a part that leaves the state alone. -/
theorem Faults.behind {a : α} {f : α → Ring δ β}
    (hm : ∀ tape, m { s with tape := tape } = .ok (a, { s with tape := tape }))
    (h : Faults (f a) s) : Faults (m >>= f) s := by
  obtain ⟨tape, p, he⟩ := h
  exact ⟨tape, p, (bind_ok (hm tape) f).trans he⟩

theorem faults_deref (p : RingPart) (h : p.ptr vq = 0) : Faults (deref vq p) s :=
  ⟨[], p, deref_null p h⟩

theorem faults_whenever {c : Prop} [Decidable c] {m : Ring δ Unit} (hc : c) (h : Faults m s) :
    Faults (whenever c m) s := by
  unfold whenever
  rw [if_pos hc]
  exact h

/-- The passes that look at the device before they do anything. -/
theorem Faults.getWhenever {c : δ → Prop} [DecidablePred c] {f : RingState δ → α → Ring δ Unit}
    {g : Unit → Ring δ β} (hc : c s.dev) (h : Faults m s) :
    Faults (get >>= fun t => whenever (c t.dev) (m >>= f t) >>= g) s := by
  obtain ⟨tape, p, he⟩ := h
  refine ⟨tape, p, (bind_ok rfl _).trans (bind_error ?_ g)⟩
  unfold whenever
  rw [if_pos hc]
  exact bind_error he _

/-- A queue that shows a request, and a body that faults. -/
theorem faults_whileBusy (ha : vq.availRing ≠ 0) {body : Ring δ Bool} (h : Faults body s)
    (n : Nat) : Faults (whileBusy vq body (n + 1)) s := by
  obtain ⟨tape, p, he⟩ := h
  refine ⟨showing (vq.availRing + 2) (s.lastAvailIdx + 1) :: tape, p, ?_⟩
  exact whileBusy_busy ha rfl (showing_ne _ _) he

theorem faults_enableNotify (ha : vq.availRing = 0) (he : vq.eventIdxEnabled ≠ 0) :
    Faults (virtqueueEnableNotify vq) s :=
  (faults_whenever he (faults_deref .avail ha)).bind _

theorem faults_injectIrq (h : vq.usedRing = 0 ∨ vq.availRing = 0) :
    Faults (virtioInjectIrq vq) s := by
  by_cases hu : vq.usedRing = 0
  · exact ⟨[], .used, injectIrq_used hu⟩
  · exact ⟨[showing (vq.usedRing + 2) (s.lastUsedIdx + 1)], .avail,
      injectIrq_avail hu (h.resolve_left hu) rfl (showing_ne _ _)⟩

theorem faults_derefChainBuf (ha : vq.availRing ≠ 0) (hd : ¬ (vq.descTable ≠ 0 ∨ vq.num = 0)) :
    Faults (derefChainBuf vq) s := by
  obtain ⟨hdesc, hnum⟩ := not_or.mp hd
  refine Faults.behind (fun _ => deref_ok .avail ha) ?_
  exact faults_whenever hnum (faults_deref .desc (not_not.mp hdesc))

theorem faults_chainPass (zm : ZoneTable) (copyFlags : Bool) (ha : vq.availRing ≠ 0)
    (hd : vq.descTable = 0) : Faults (chainPass zm vq copyFlags) s := by
  refine ⟨[showing (vq.availRing + 2) (s.lastAvailIdx + 1)], .desc, ?_⟩
  have hnew : s.lastAvailIdx ≠
      readU16 (showing (vq.availRing + 2) (s.lastAvailIdx + 1)).mem (vq.availRing + 2) :=
    (showing_ne _ _).symm
  unfold chainPass
  rw [bind_ok (deref_ok .avail ha), bind_ok (see_cons rfl)]
  refine bind_error ?_ _
  unfold whenever
  refine (congrFun (if_pos hnew) _).trans ?_
  exact deref_null .desc hd

end Faults

/-! ## 3. The loops -/

section Loops

variable {δ : Type} {P : δ → Prop} {vq : VirtQueue} {pass : Ring δ Bool} {s : RingState δ}

theorem rxqNotify_iff (ready : δ → Int) (setReady : δ → δ) (hb : s.batch = []) :
    NeverNull (fun _ => rxqNotify ready setReady vq) s ↔ (ready s.dev ≤ 0 → vq.view.set .used) := by
  constructor
  · intro h hr hu
    refine not_neverNull 0 ⟨[], .used, ?_⟩ h
    change whenever (ready s.dev ≤ 0) _ _ = _
    unfold whenever
    rw [if_pos hr]
    exact (bind_ok rfl _).trans (deref_null .used hu)
  · intro h
    have hsafe : Safe (fun dev => ready dev ≤ 0 → vq.usedRing ≠ 0) vq
        (rxqNotify ready setReady vq) :=
      Keeps.getBind fun t ht => Safe.whenever fun hr =>
        Safe.bind (Safe.change (fun _ => rfl) fun _ _ _ => ht.dev hr) fun _ =>
          Safe.deref (ht.dev hr)
    exact NeverNull.of_safe hb h fun _ => hsafe

/-- Suppress, drain, and what comes then: safe only if the queue can be drained. -/
theorem faults_drain {rest : Unit → Ring δ Unit} (n : Nat)
    (hpass : vq.availRing ≠ 0 → ¬ P s.dev → Faults pass s)
    (hrest : vq.usedRing ≠ 0 → vq.availRing = 0 → vq.eventIdxEnabled ≠ 0 → Faults (rest ()) s)
    (h : ¬ vq.view.Drained (P s.dev)) :
    Faults (virtqueueDisableNotify vq >>= fun _ => whileBusy vq pass (n + 1) >>= rest) s := by
  by_cases hu : vq.usedRing = 0
  · exact (faults_deref .used hu).bind _
  refine Faults.behind (fun _ => deref_ok .used hu) ?_
  by_cases ha : vq.availRing = 0
  · rw [whileBusy_null ha]
    refine Faults.behind (fun _ => rfl) (hrest hu ha fun he => ?_)
    exact h ⟨hu, fun hs => absurd ha hs, fun _ => bne_eq_false_iff_eq.mpr he⟩
  · refine (faults_whileBusy ha (hpass ha fun hP => ?_) n).bind _
    exact h ⟨hu, fun _ => hP, fun hs => absurd ha hs⟩

/-- With the event index on, there is an available ring. -/
theorem avail_of_drained {W : Prop} (h : vq.view.Drained W) (he : vq.eventIdxEnabled ≠ 0) :
    vq.availRing ≠ 0 :=
  fun ha => he (bne_eq_false_iff_eq.mp (h.event fun hs => hs ha))

/-- What holds of the private part while there is an available ring: without one no
    request is ever seen. -/
def WithAvail (P : δ → Prop) (vq : VirtQueue) (dev : δ) : Prop := vq.availRing ≠ 0 → P dev

theorem safe_drainOnce {Q : δ → Prop} {W : Prop} (h : vq.view.Drained W)
    (hsafe : vq.availRing ≠ 0 → Safe Q vq pass) (rounds : Nat) :
    Safe Q vq (drainOnce vq pass rounds) :=
  Safe.bind (Safe.deref h.used) fun _ => Safe.bind (Safe.whileBusy hsafe rounds) fun _ =>
    Safe.virtqueueEnableNotify h.used (avail_of_drained h)

theorem faults_drainOnce (hfault : vq.availRing ≠ 0 → ¬ P s.dev → Faults pass s)
    (h : ¬ vq.view.Drained (P s.dev)) : Faults (drainOnce vq pass 1) s :=
  faults_drain 0 hfault (fun _ ha he => faults_enableNotify ha he) h

theorem drainOnce_iff (hb : s.batch = [])
    (hsafe : vq.availRing ≠ 0 → P s.dev → Safe (WithAvail P vq) vq pass)
    (hfault : vq.availRing ≠ 0 → ¬ P s.dev → Faults pass s) :
    NeverNull (drainOnce vq pass) s ↔ vq.view.Drained (P s.dev) := by
  constructor
  · exact fun h => by_contra fun hd => not_neverNull 1 (faults_drainOnce hfault hd) h
  · intro h
    exact NeverNull.of_safe hb h.pass (safe_drainOnce h fun ha => hsafe ha (h.pass ha))

/-- The cursor queue: an interrupt behind it, for which both rings are read. -/
theorem drainOnceThenInject_iff (hb : s.batch = [])
    (hsafe : vq.availRing ≠ 0 → P s.dev → Safe P vq pass)
    (hfault : vq.availRing ≠ 0 → ¬ P s.dev → Faults pass s) :
    NeverNull (fun rounds => drainOnce vq pass rounds >>= fun _ => virtioInjectIrq vq) s ↔
      vq.view.Served (P s.dev) := by
  constructor
  · intro h
    have hd : vq.view.Drained (P s.dev) :=
      by_contra fun hd => not_neverNull 1 ((faults_drainOnce hfault hd).bind _) h
    have ha : vq.availRing ≠ 0 := by
      intro ha
      refine not_neverNull 1 (Faults.behind (a := ()) (fun _ => ?_) (faults_injectIrq (.inr ha))) h
      have he : ¬ vq.eventIdxEnabled ≠ 0 := fun he => avail_of_drained hd he ha
      unfold drainOnce virtqueueEnableNotify whenever
      rw [whileBusy_null ha, if_neg he]
      exact (bind_ok (deref_ok .used hd.used) _).trans (deref_ok .used hd.used)
    exact ⟨hd.used, ha, hd.pass ha⟩
  · intro h
    have hd : vq.view.Drained (P s.dev) := ⟨h.used, fun _ => h.pass, fun hn => absurd h.avail hn⟩
    exact NeverNull.of_safe hb h.pass fun rounds =>
      Safe.bind (safe_drainOnce hd (fun ha => hsafe ha h.pass) rounds) fun _ =>
        Safe.virtioInjectIrq h.used h.avail

theorem drainThenInject_iff (hb : s.batch = [])
    (hsafe : vq.usedRing ≠ 0 → vq.availRing ≠ 0 → P s.dev → Safe P vq pass)
    (hfault : vq.availRing ≠ 0 → ¬ P s.dev → Faults pass s) :
    NeverNull (drainThenInject vq pass) s ↔ vq.view.Served (P s.dev) := by
  constructor
  · intro h
    by_cases ha : vq.availRing = 0
    · refine absurd h (not_neverNull 1 ?_)
      unfold drainThenInject
      rw [whileBusy_null ha]
      exact Faults.behind (fun _ => rfl) (faults_injectIrq (.inr ha))
    · have hloop : ¬ Faults (whileBusy vq
          (virtqueueDisableNotify vq >>= fun _ => whileBusy vq pass 1 >>= fun _ =>
            virtqueueEnableNotify vq >>= fun _ => pure true) 1) s :=
        fun hf => not_neverNull 1 (hf.bind _) h
      have hu : vq.usedRing ≠ 0 := fun hu =>
        hloop (faults_whileBusy ha ((faults_deref .used hu).bind _) 0)
      refine ⟨hu, ha, by_contra fun hP => hloop (faults_whileBusy ha ?_ 0)⟩
      refine Faults.behind (fun _ => deref_ok .used hu) ?_
      exact (faults_whileBusy ha (hfault ha hP) 0).bind _
  · intro h
    refine NeverNull.of_safe hb h.pass fun rounds => Safe.bind (Safe.whileBusy (fun ha => ?_) rounds)
      fun _ => Safe.virtioInjectIrq h.used h.avail
    exact Safe.bind (Safe.deref h.used) fun _ =>
      Safe.bind (Safe.whileBusy (fun ha => hsafe h.used ha h.pass) rounds) fun _ =>
        Safe.bind (Safe.virtqueueEnableNotify h.used fun _ => ha) fun _ => Safe.pure true

theorem receive_iff {post : Ring δ Unit} (hb : s.batch = [])
    (hsafe : vq.usedRing ≠ 0 → vq.availRing ≠ 0 → P s.dev → Safe P vq pass)
    (hpost : vq.usedRing ≠ 0 → Safe P vq post)
    (hfault : vq.availRing ≠ 0 → ¬ P s.dev → Faults pass s) :
    NeverNull (receive vq pass post) s ↔ vq.view.Served (P s.dev) := by
  constructor
  · intro h
    have ha : vq.availRing ≠ 0 := by
      intro ha
      refine not_neverNull 1 (Faults.behind (a := true) (fun t => ?_) (faults_injectIrq (.inr ha))) h
      unfold virtqueueIsEmpty
      rw [if_pos ha]
      rfl
    have hu : vq.usedRing ≠ 0 := by
      intro hu
      refine not_neverNull 1 ⟨[showing (vq.availRing + 2) s.lastAvailIdx], .used, ?_⟩ h
      refine (bind_ok (isEmpty_seen ha rfl) _).trans ?_
      rw [readU16_showing, beq_self_eq_true]
      exact injectIrq_used hu
    refine ⟨hu, ha, by_contra fun hP => ?_⟩
    obtain ⟨tape, p, he⟩ := faults_whileBusy ha (hfault ha hP) 0
    refine not_neverNull 1 ⟨showing (vq.availRing + 2) (s.lastAvailIdx + 1) :: tape, p, ?_⟩ h
    exact (bind_ok (isEmpty_busy ha rfl (showing_ne _ _)) _).trans (bind_error he _)
  · intro h
    refine NeverNull.of_safe hb h.pass fun rounds => Safe.bind Safe.virtqueueIsEmpty fun empty => ?_
    have hirq : Safe P vq (virtioInjectIrq vq) := Safe.virtioInjectIrq h.used h.avail
    split
    · exact hirq
    · exact Safe.bind (Safe.whileBusy (fun ha => hsafe h.used ha h.pass) rounds) fun _ =>
        Safe.bind (hpost h.used) fun _ => hirq

/-- The event handlers look at an event only under a condition on the device. -/
theorem whenever_iff {c : δ → Prop} [DecidablePred c] {m : Nat → Ring δ Unit} :
    NeverNull (fun rounds => get >>= fun t => whenever (c t.dev) (m rounds)) s ↔
      (c s.dev → NeverNull m s) := by
  constructor
  · intro h hc rounds tape p he
    refine h rounds tape p ?_
    change whenever (c s.dev) (m rounds) _ = _
    unfold whenever
    rw [if_pos hc]
    exact he
  · intro h rounds tape p he
    change whenever (c s.dev) (m rounds) _ = _ at he
    unfold whenever at he
    split at he
    · next hc => exact h hc rounds tape p he
    · cases he

end Loops

/-! ## 4. The devices -/

section Net

variable {vq : VirtQueue} {s : RingState NetDev}

/-- The completions are there only with an available ring. -/
theorem safe_postBatch {P : NetDev → Prop} {after : Ring NetDev Unit} (hu : vq.usedRing ≠ 0)
    (hafter : vq.availRing ≠ 0 → Safe P vq after) : Safe P vq (postBatch vq after) := by
  refine Keeps.getBind fun t ht => Safe.whenever fun hne => ?_
  have ha : vq.availRing ≠ 0 := fun h0 => hne (ht.batch h0)
  exact Safe.bind (Safe.deref hu) fun _ => Safe.bind (Safe.changeAny ha fun _ h => h) fun _ =>
    hafter ha

variable (zm : ZoneTable) (version1 : Bool)

theorem safe_netTxPass (ha : vq.availRing ≠ 0) :
    Safe (WithAvail (fun net => net.tapfd ≠ -1 → vq.view.Walkable) vq) vq
      (netTxPass zm version1 vq) :=
  Keeps.getBind fun _ ht => Safe.bind
    (Safe.whenever fun htap => Safe.bind (Safe.derefChainBuf ha (ht.dev ha htap)) fun _ =>
      Safe.bind Safe.see fun _ => Safe.bind (Safe.orStop _) fun _ =>
        Safe.changeAny ha fun _ h => h)
    fun _ => Safe.pure true

theorem faults_netTxPass (ha : vq.availRing ≠ 0)
    (h : ¬ (s.dev.tapfd ≠ -1 → vq.view.Walkable)) : Faults (netTxPass zm version1 vq) s := by
  obtain ⟨htap, hw⟩ := Classical.not_imp.mp h
  exact Faults.getWhenever (c := fun net : NetDev => net.tapfd ≠ -1) htap (faults_derefChainBuf ha hw)

theorem netTxq_iff (hb : s.batch = []) :
    NeverNull (fun rounds => virtioNetTxqNotifyHandler zm version1 rounds vq) s ↔
      vq.view.Drained (s.dev.tapfd ≠ -1 → vq.view.Walkable) := by
  constructor
  · intro h
    by_contra hd
    refine not_neverNull 1 (faults_drain (P := fun net => net.tapfd ≠ -1 → vq.view.Walkable) 0
      (faults_netTxPass zm version1) ?_ hd) h
    -- nothing was collected, so the notification is enabled next
    intro _ ha he
    have hpost : ∀ tape, postBatch vq (virtioInjectIrq vq) { s with tape := tape } =
        .ok ((), { s with tape := tape }) := by
      intro tape
      refine (bind_ok rfl _).trans ?_
      unfold whenever
      rw [if_neg (not_not.mpr hb)]
      rfl
    exact Faults.behind hpost ((faults_enableNotify ha he).bind _)
  · intro h
    have hloop : ∀ rounds n, Safe (WithAvail (fun net => net.tapfd ≠ -1 → vq.view.Walkable) vq) vq
        (netTxLoop zm version1 rounds vq n) := by
      intro rounds n
      induction n with
      | zero => exact Safe.running
      | succ n ih =>
        refine Safe.bind (Safe.whileBusy (safe_netTxPass zm version1) rounds) fun _ =>
          Safe.bind (safe_postBatch h.used fun ha => Safe.virtioInjectIrq h.used ha) fun _ =>
            Safe.bind (Safe.virtqueueEnableNotify h.used (avail_of_drained h)) fun _ =>
              Safe.bind Safe.virtqueueIsEmpty fun empty => ?_
        split
        · exact Safe.pure _
        · exact Safe.bind (Safe.deref h.used) fun _ => ih
    exact NeverNull.of_safe hb h.pass fun rounds =>
      Safe.bind (Safe.deref h.used) fun _ => hloop rounds rounds

theorem netInput_iff (ev : InputEvent) (type : VirtioDeviceType) (hb : s.batch = []) :
    NeverNull (fun rounds => virtioNetEventHandler zm rounds ev type vq) s ↔
      InputOk .net ev type vq.view s.dev := by
  refine (whenever_iff (c := fun net : NetDev => ev.fd = net.tapfd ∧ ev.epollin = true ∧
    net.tapfd ≠ -1 ∧ type = .net ∧ net.rxReady ≠ 0)).trans (imp_congr_right fun _ => ?_)
  refine receive_iff (P := fun _ => vq.view.Walkable) hb (fun _ ha hw => ?_)
    (fun hu => safe_postBatch hu fun _ => Safe.pure _)
    (fun ha hw => (faults_derefChainBuf ha hw).bind _)
  exact Safe.bind (Safe.derefChainBuf ha hw) fun _ => Safe.bind Safe.see fun _ =>
    Keeps.getBind fun _ _ => Safe.bind (Safe.orStop _) fun _ =>
      Safe.bind (Safe.changeAny ha fun _ h => h) fun _ => Safe.pure _

end Net

section Console

variable {vq : VirtQueue} {s : RingState ConsoleDev}

theorem consoleTxq_iff (zm : ZoneTable) (hb : s.batch = []) :
    NeverNull (fun rounds => virtioConsoleTxqNotifyHandler zm rounds vq) s ↔
      vq.view.Served (0 < s.dev.masterFd → vq.view.set .desc) := by
  refine drainThenInject_iff (P := fun dev => 0 < dev.masterFd → vq.view.set .desc) hb
    (fun hu ha _ => ?_) (fun ha hP => ?_)
  · exact Keeps.getBind fun _ ht => Safe.bind
      (Safe.whenever fun hfd => Safe.bind (Safe.chainPass zm false ha (ht.dev hfd)) fun _ =>
        Safe.whenever fun _ => Safe.deref hu)
      fun _ => Safe.pure true
  · obtain ⟨hfd, hd⟩ := Classical.not_imp.mp hP
    exact Faults.getWhenever (c := fun dev : ConsoleDev => 0 < dev.masterFd) hfd
      (faults_chainPass zm false ha (not_not.mp hd))

theorem consoleInput_iff (zm : ZoneTable) (ev : InputEvent) (type : VirtioDeviceType)
    (hb : s.batch = []) :
    NeverNull (fun rounds => virtioConsoleEventHandler zm rounds ev type vq) s ↔
      InputOk .console ev type vq.view s.dev := by
  refine (whenever_iff (c := fun dev : ConsoleDev => ev.fd = dev.masterFd ∧ ev.epollin = true ∧
    0 < dev.masterFd ∧ type = .console ∧ 0 < dev.rxReady)).trans (imp_congr_right fun _ => ?_)
  refine receive_iff (P := fun _ => vq.view.set .desc) hb (fun hu ha hd => ?_)
    (fun _ => Safe.pure _) (fun ha hd => (faults_chainPass zm false ha (not_not.mp hd)).bind _)
  refine Safe.bind (Safe.chainPass zm false ha hd) fun r => ?_
  split
  · exact Safe.pure _
  · refine Safe.bind Safe.see fun o => ?_
    split
    · exact Safe.bind (Safe.deref hu) fun _ => Safe.pure _
    · exact Safe.bind (Safe.change (fun _ => rfl) fun _ h => h) fun _ => Safe.pure _

end Console

theorem scmiTxq_iff (zm : ZoneTable) {vq : VirtQueue} {s : RingState (SCMIDev × List ScmiIoctl)}
    (hb : s.batch = []) :
    NeverNull (fun rounds => virtioScmiTxqNotifyHandler zm rounds vq) s ↔
      vq.view.Served vq.view.Walkable := by
  refine drainThenInject_iff (P := fun _ => vq.view.Walkable) hb (fun hu ha hw => ?_)
    (fun ha hw => (faults_derefChainBuf ha hw).bind _)
  exact Safe.bind (Safe.derefChainBuf ha hw) fun _ => Safe.bind Safe.see fun _ =>
    Keeps.getBind fun _ _ => Safe.bind (Safe.orStop _) fun _ => Safe.bind (Safe.deref hu) fun _ =>
      Safe.bind (Safe.change (fun _ => rfl) fun _ h => h) fun _ => Safe.pure _

/-- The pass of both queues of the GPU device. -/
theorem safe_gpuPass (zm : ZoneTable) (fromQueue : Nat) {vq : VirtQueue} {P : GPUDev → Prop}
    (hP : ∀ dev dev', P dev → P dev') (ha : vq.availRing ≠ 0) (hd : vq.descTable ≠ 0) :
    Safe P vq (virtioGpuHandleSingleRequest zm fromQueue vq) :=
  Safe.bind (Safe.chainPass zm true ha hd) fun _ =>
    Safe.bind (Safe.whenever fun _ => Safe.change (fun _ => rfl) fun _ => hP _ _) fun _ =>
      Safe.pure true

/-! ## 5. Steps -/

/-- A notification of queue `i`. One without a handler is notified in vain. -/
def RingKind.notify (k : RingKind) (zm : ZoneTable) (drvFeature : UInt64) (vq : VirtQueue) (i : Nat)
    (rounds : Nat) : Ring k.Dev Unit :=
  match k.handler zm rounds i with
  | some h => h drvFeature vq
  | none => pure ()

/-- **Every notify handler of every device.** -/
theorem notify_iff (k : RingKind) (zm : ZoneTable) (drvFeature : UInt64) (vq : VirtQueue) (i : Nat)
    {s : RingState k.Dev} (hb : s.batch = []) :
    NeverNull (k.notify zm drvFeature vq i) s ↔ NotifyOk k i vq.view s.dev := by
  have hnone : ∀ m : Nat → Ring k.Dev Unit, (∀ rounds, m rounds = pure ()) → NeverNull m s := by
    intro m hm rounds tape p he
    rw [hm] at he
    cases he
  cases k with
  | net =>
    rcases i with _ | _ | i
    · exact rxqNotify_iff NetDev.rxReady (fun net => { net with rxReady := 1 }) hb
    · exact netTxq_iff zm _ hb
    · exact iff_of_true (hnone _ fun _ => rfl) trivial
  | console =>
    rcases i with _ | _ | i
    · exact rxqNotify_iff ConsoleDev.rxReady (fun dev => { dev with rxReady := 1 }) hb
    · exact consoleTxq_iff zm hb
    · exact iff_of_true (hnone _ fun _ => rfl) trivial
  | scmi =>
    rcases i with _ | i
    · exact scmiTxq_iff zm hb
    · exact iff_of_true (hnone _ fun _ => rfl) trivial
  | gpu =>
    rcases i with _ | _ | i
    · exact drainOnce_iff (P := fun _ => vq.view.set .desc) hb
        (fun ha hd => safe_gpuPass zm 0 (fun _ _ h => h) ha hd)
        (fun ha hd => (faults_chainPass zm true ha (not_not.mp hd)).bind _)
    · exact drainOnceThenInject_iff (P := fun _ => vq.view.set .desc) hb
        (fun ha hd => safe_gpuPass zm 1 (fun _ _ h => h) ha hd)
        (fun ha hd => (faults_chainPass zm true ha (not_not.mp hd)).bind _)
    · exact iff_of_true (hnone _ fun _ => rfl) trivial

/-- **Both event handlers.** -/
theorem onInput_iff (k : RingKind) (zm : ZoneTable) (ev : InputEvent) (type : VirtioDeviceType)
    (vq : VirtQueue) {s : RingState k.Dev} (hb : s.batch = []) :
    NeverNull (fun rounds => k.onInput zm rounds ev type vq) s ↔
      InputOk k ev type vq.view s.dev := by
  cases k with
  | net => exact netInput_iff zm ev type hb
  | console => exact consoleInput_iff zm ev type hb
  | scmi | gpu => exact iff_of_true (fun _ _ _ he => by cases he) trivial

section Steps

variable {k : RingKind} {config : k.Dev → UInt64 → UInt64} {zm : ZoneTable} {env : RingEnv}
  {e : RingStop}

theorem runRing_error {δ : Type} {d : VirtIODevice δ} {i : Nat} {m : VirtQueue → Ring δ Unit} :
    runRing d i env m = .error e ↔ m (d.vq i) (d.ringState i env.tape) = .error e := by
  unfold runRing
  cases m (d.vq i) (d.ringState i env.tape) with
  | ok r => exact iff_of_false (fun h => by cases h) (fun h => by cases h)
  | error e' => simp only [Except.error.injEq]

theorem ringStep_error {d : VirtIODevice k.Dev} {s : RingStep} :
    ringStep k config zm env d s = .error e ↔ calledHandler k zm env d s = some (.error e) := by
  unfold ringStep
  split
  · next e' he => simp only [he, Option.some.injEq, Except.error.injEq]
  · next hne =>
      refine iff_of_false ?_ (hne e)
      cases s <;> exact fun h => by cases h

theorem calledHandler_access {d : VirtIODevice k.Dev} {a : MmioAccess} :
    calledHandler k zm env d (.access a) = some (.error e) ↔
      ∃ i, notifiedQueue d.vqs.length a = some i ∧
        k.notify zm d.regs.drvFeature (d.vq i) i env.rounds (d.ringState i env.tape) =
          .error e := by
  refine Option.bind_eq_some_iff.trans (exists_congr fun i => and_congr_right fun _ => ?_)
  unfold RingKind.notify
  cases k.handler zm env.rounds i with
  | none => exact iff_of_false (fun h => by cases h) (fun h => by cases h)
  | some h => exact (Option.some_inj).trans runRing_error

/-- **One step, from any state**: what it needs of the queues as they are. -/
theorem ringStep_iff (d : VirtIODevice k.Dev) (s : RingStep) :
    (∀ env p, ringStep k config zm env d s ≠ .error (.null p)) ↔
      StepOk k (fun i => (d.vq i).view) d s := by
  simp only [Ne, ringStep_error]
  cases s with
  | access a =>
    simp only [calledHandler_access, not_exists, not_and]
    constructor
    · intro h i hi
      refine (notify_iff k zm d.regs.drvFeature (d.vq i) i (s := d.ringState i []) rfl).mp ?_
      exact fun rounds tape p => h ⟨rounds, tape⟩ p i hi
    · intro h env p i hi
      exact (notify_iff k zm d.regs.drvFeature (d.vq i) i (s := d.ringState i []) rfl).mpr
        (h i hi) env.rounds env.tape p
  | input ev =>
    have hiff := onInput_iff k zm ev d.type (d.vq 0) (s := d.ringState 0 []) rfl
    refine Iff.trans ?_ hiff
    simp only [calledHandler, Option.some_inj, runRing_error]
    constructor
    · exact fun h rounds tape p => h ⟨rounds, tape⟩ p
    · exact fun h env p => h env.rounds env.tape p

end Steps

/-! ## 6. What the guest set up -/

/-- The log of queue `i` after one more step. Input is not a write of the guest. -/
def QueueLog.afterRingStep (i : Nat) (l : QueueLog) : RingStep → QueueLog
  | .access a => l.after i a
  | .input _ => l

/-- The writes that hit queue `i` since the last reset. -/
def ringLog (i : Nat) (ls : List (RingStep × RingEnv)) : List (MmioReg × UInt64) :=
  (ls.foldl (fun (l : QueueLog) s => l.afterRingStep i s.1) ⟨0, []⟩).writes

/-- The queue as writes of the guest leave it: a pointer is set once the upper half of
    its address was written and what was written is mapped in the zone. -/
def guestView (zm : ZoneTable) (zoneId : UInt32) (eventIdx : Bool)
    (writes : List (MmioReg × UInt64)) : QueueView :=
  { set := fun p => ptrOf (getVirtAddr zm · (asInt zoneId)) (halves p writes) ≠ 0
    num := lastNum writes
    eventIdx := eventIdx }

section Guest

variable {k : RingKind} {config : k.Dev → UInt64 → UInt64} {zm : ZoneTable}
  {zoneId queueNumMax : UInt32} {i : Nat} {d d' : VirtIODevice k.Dev} {l : QueueLog}

theorem Follows.ringStep {env : RingEnv} {s : RingStep} (h : Follows zm zoneId queueNumMax i d l)
    (hs : ringStep k config zm env d s = .ok d') :
    Follows zm zoneId queueNumMax i d' (l.afterRingStep i s) := by
  unfold HvisorTool.ringStep at hs
  split at hs
  · cases hs
  · cases s with
    | access a =>
      cases hs
      exact h.access (k.ops config zm env) a
    | input ev =>
      cases hs
      exact h.hook (ringHook 0 env fun d => k.onInput zm env.rounds ev d.type)

theorem Follows.ringRun {ls : List (RingStep × RingEnv)} (h : Follows zm zoneId queueNumMax i d l)
    (hrun : (ringMachine k config zm).run d ls = some d') :
    Follows zm zoneId queueNumMax i d' (ls.foldl (fun l s => l.afterRingStep i s.1) l) := by
  induction ls generalizing d l with
  | nil =>
    cases hrun
    exact h
  | cons s ls ih =>
    obtain ⟨d₁, hs, hrun'⟩ := Option.bind_eq_some_iff.mp hrun
    have hok : HvisorTool.ringStep k config zm s.2 d s.1 = .ok d₁ := by
      change (HvisorTool.ringStep k config zm s.2 d s.1).toOption = some d₁ at hs
      cases hr : HvisorTool.ringStep k config zm s.2 d s.1 with
      | ok d₂ =>
        rw [hr] at hs
        exact congrArg Except.ok (Option.some_inj.mp hs)
      | error e =>
        rw [hr] at hs
        cases hs
    exact ih (h.ringStep hok) hrun'

/-- A queue is as the guest's writes leave it. -/
theorem Follows.view (h : Follows zm zoneId queueNumMax i d l) (hi : i < d.vqs.length) :
    (d.vq i).view = guestView zm zoneId ((d.vq i).eventIdxEnabled != 0) l.writes := by
  have hvq : d.vqs[i]? = some (d.vq i) := by
    unfold VirtIODevice.vq
    rw [if_pos (Int.natCast_nonneg i), Int.toNat_natCast, List.getD_eq_getElem?_getD,
      List.getElem?_eq_getElem hi]
    rfl
  have hcore := h.core_eq hvq
  have hset := fun p => (part_of_core hcore p).2
  have hnum : (d.vq i).num = lastNum l.writes := by
    have hzero : (freshQueue zoneId queueNumMax i).num = 0 := rfl
    have hn := (num_replay zm hzero l.writes).1
    rw [← hcore] at hn
    exact hn
  unfold VirtQueue.view guestView
  simp only [hset, hnum]

end Guest

theorem lt_of_notifiedQueue {n i : Nat} {a : MmioAccess} (h : notifiedQueue n a = some i) :
    i < n := by
  rcases a with ⟨offset, size⟩ | ⟨offset, value, size, ret⟩
  · cases h
  · obtain ⟨hn, rfl⟩ := guarded h
    exact hn.2

/-- A step looks at the queues that there are. -/
theorem stepOk_congr {k : RingKind} {view view' : Nat → QueueView} {d : VirtIODevice k.Dev}
    (h : ∀ i, i < d.vqs.length → view i = view' i) (s : RingStep) :
    StepOk k view d s ↔ StepOk k view' d s := by
  cases s with
  | access a =>
    refine forall_congr' fun i => imp_congr_right fun hi => ?_
    rw [h i (lt_of_notifiedQueue hi)]
  | input ev =>
    unfold StepOk
    rw [h 0 d.vqsBound.1]

/-- **No ring is used before it is set up exactly as far as the guest's driver sees to
    it**: after every run of a new device, whatever the guest wrote and notified, whatever
    input came and whatever its handlers saw, the next step reads through no pointer that
    is `NULL`, whatever it sees, exactly when the guest has set up what `StepOk` names
    since the last reset. Nothing in the code makes sure of that: `vq_is_empty` tests the
    available ring only, and `rx_ready` outlives a reset of the console device. -/
theorem rings_set_up_iff {k : RingKind} {config : k.Dev → UInt64 → UInt64} {zm : ZoneTable}
    {env₀ : RingEnv} {d₀ d : VirtIODevice k.Dev} (hd : Created (k.ops config zm env₀) d₀)
    {ls : List (RingStep × RingEnv)} (hrun : (ringMachine k config zm).run d₀ ls = some d)
    (s : RingStep) :
    (∀ env p, ringStep k config zm env d s ≠ .error (.null p)) ↔
      StepOk k
        (fun i => guestView zm d₀.zoneId ((d.vq i).eventIdxEnabled != 0) (ringLog i ls)) d s := by
  refine (ringStep_iff d s).trans (stepOk_congr (fun i hi => ?_) s)
  exact ((follows_created hd zm i).ringRun hrun).view hi

/-- A new console device in zone 1, with an open terminal. -/
def consoleDevice : VirtIODevice ConsoleDev :=
  { toDeviceIdentity := ⟨1, 79, 0xa003c00, 0x200, .console⟩
    regs := initMmioRegs .console RingKind.console.features
    irq := IrqLine.down
    vqs := initVirtioQueue (RingKind.console.ops (fun _ _ => 0) onePage ⟨0, []⟩) 1
    dev := { masterFd := 5, rxReady := 0 }
    activated := false
    vqsBound := by decide }

theorem created_consoleDevice :
    Created (RingKind.console.ops (fun _ _ => 0) onePage ⟨0, []⟩) consoleDevice :=
  ⟨fun _ => some (RingKind.console.ops (fun _ _ => 0) onePage ⟨0, []⟩),
    ⟨1, 79, 0xa003c00, 0x200, .console⟩, some { masterFd := 5, rxReady := 0 }, rfl, rfl⟩

/-- The driver sets up the three addresses of the receive queue and notifies it. -/
def setUpReceive : List (RingStep × RingEnv) :=
  [MmioAccess.write 0x080 0x1000 4 0, .write 0x084 0 4 0, .write 0x090 0x1400 4 0,
    .write 0x094 0 4 0, .write 0x0a0 0x1800 4 0, .write 0x0a4 0 4 0, .write 0x050 0 4 0].map
    fun a => (.access a, ⟨0, []⟩)

theorem rings_set_up_receive :
    ∃ d, (ringMachine .console (fun _ _ => 0) onePage).run consoleDevice setUpReceive = some d ∧
      ∀ env p, ringStep .console (fun _ _ => 0) onePage env d (.input ⟨5, true⟩) ≠
        .error (.null p) := by
  have hrun : ∃ d, (ringMachine .console (fun _ _ => 0) onePage).run consoleDevice setUpReceive =
      some d := ⟨_, rfl⟩
  obtain ⟨d, hd⟩ := hrun
  have hset : ∀ p, ptrOf (getVirtAddr onePage · 1) (halves p (ringLog 0 setUpReceive)) ≠ 0 := by
    intro p
    cases p <;> decide
  refine ⟨d, hd, (rings_set_up_iff created_consoleDevice hd (.input ⟨5, true⟩)).mpr ?_⟩
  exact fun _ => ⟨hset .used, hset .avail, hset .desc⟩

/-- The driver resets the device behind that, which stays ready to receive: the next
    input is for a queue without rings. On a device that is new, already a notification of
    the transmit queue is. -/
theorem rings_null_after_reset :
    (∃ d, (ringMachine .console (fun _ _ => 0) onePage).run consoleDevice
          (setUpReceive ++ [(.access (.write 0x070 0 4 0), ⟨0, []⟩)]) = some d ∧
        d.dev.rxReady = 1 ∧
        ringStep .console (fun _ _ => 0) onePage ⟨1, []⟩ d (.input ⟨5, true⟩) =
          .error (.null .used)) ∧
      ringStep .console (fun _ _ => 0) onePage ⟨1, []⟩ consoleDevice
          (.access (.write 0x050 1 4 0)) = .error (.null .used) :=
  ⟨⟨_, rfl, rfl, rfl⟩, rfl⟩

end HvisorTool
