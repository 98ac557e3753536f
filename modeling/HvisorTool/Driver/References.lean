/-
  File:      HvisorTool/Driver/References.lean
  Subject:   THE REFERENCES THAT THE SCMI SERVER HOLDS on clocks and power domains.

  The guest sets states; the kernel counts references. The server keeps no count of its own: every
  accepted ON takes a reference, and every OFF that comes through drops one, held or not.

  * `refCount`: references taken minus references dropped, from the calls made;
  * `RefChange`, `outcome_change`: what one ioctl does to the count and which request it
    accepts, for every subcommand and every answer of the kernel;
  * `Balanced`: the count is the state that was asked for last;
  * `references_balanced_iff`: it is so throughout a sequence of ioctls exactly when every
    ioctl in it changes the state and no drop is refused.
-/
import HvisorTool.Driver.ScmiServer
import HvisorTool.Library.Machine

namespace HvisorTool

open Library

/-! ## 1. Counting -/

/-- What references are held on. -/
inductive ScmiTarget where
  | clock (clockId : UInt32)
  | power (domainId : UInt32)
  deriving DecidableEq, Repr

def KernelCall.target : KernelCall → ScmiTarget
  | .clkPrepareEnable id _ | .clkDisableUnprepare id => .clock id
  | .pmRuntimeResumeAndGet id _ | .pmRuntimeGetSync id _ | .pmRuntimePutNoidle id
  | .pmRuntimePutSync id _ => .power id

/-- The references a call takes. `pm_runtime_get_sync` takes one also where it fails, and
    `pm_runtime_put_sync` drops one whatever it returns. -/
def KernelCall.amount : KernelCall → Int
  | .clkPrepareEnable _ ret | .pmRuntimeResumeAndGet _ ret => if ret.isNone then 1 else 0
  | .pmRuntimeGetSync _ _ => 1
  | .clkDisableUnprepare _ | .pmRuntimePutNoidle _ | .pmRuntimePutSync _ _ => -1

/-- References taken minus references dropped. -/
def refCount (t : ScmiTarget) : List KernelCall → Int
  | [] => 0
  | c :: cs => (if c.target = t then c.amount else 0) + refCount t cs

theorem refCount_append (t : ScmiTarget) (cs ds : List KernelCall) :
    refCount t (cs ++ ds) = refCount t cs + refCount t ds := by
  induction cs with
  | nil => exact (Int.zero_add _).symm
  | cons c cs ih =>
    rw [List.cons_append, refCount, refCount, ih]
    omega

/-! ## 2. Sequences of ioctls -/

/-- One ioctl with the answers of the kernel. -/
inductive ServerIoctl where
  | clock (args : Option ClockArgs) (k : ClkAnswers)
  | power (args : Option PowerArgs) (k : PmAnswers)

/-- The return value, the server behind it and the calls made. -/
def ServerIoctl.outcome (since510 : Bool) (s : ScmiServer) :
    ServerIoctl → Int × ScmiServer × List KernelCall
  | .clock args k =>
    let r := hvisorScmiClockIoctl s k args
    (r.ret, r.server, r.calls)
  | .power args k =>
    let r := hvisorScmiPowerIoctl since510 s k args
    (r.ret, r.server, r.calls)

/-- The state that a set request asks for: ON is `true`. -/
def ServerIoctl.asks : ServerIoctl → Option (ScmiTarget × Bool)
  | .clock (some (.configSet clockId config)) _ =>
    some (.clock clockId, decide (config &&& 1 ≠ 0))
  | .power (some (.stateSet domainId powerState)) _ =>
    if powerState = scmiPowerStateGenericOn then some (.power domainId, true)
    else if powerState = scmiPowerStateGenericOff then some (.power domainId, false)
    else none
  | _ => none

/-- The server, the calls made so far and the set requests accepted so far. -/
structure ScmiHistory where
  server : ScmiServer
  calls : List KernelCall
  accepted : List (ScmiTarget × Bool)

/-- One ioctl; a set request is accepted where it does not return an error. -/
def scmiServerMachine (since510 : Bool) : Machine ScmiHistory ServerIoctl where
  step h io :=
    let r := io.outcome since510 h.server
    some ⟨r.2.1, h.calls ++ r.2.2, h.accepted ++ if 0 ≤ r.1 then io.asks.toList else []⟩

/-- The module is loaded. -/
def scmiLoaded (clocks domains : UInt32) : ScmiHistory := ⟨hvisorScmiInit clocks domains, [], []⟩

/-- The state that the last accepted request for a clock or a domain asked for. -/
def lastAccepted (t : ScmiTarget) (accepted : List (ScmiTarget × Bool)) : Option Bool :=
  (accepted.filter (·.1 = t)).getLast?.map (·.2)

theorem lastAccepted_snoc (t u : ScmiTarget) (on : Bool) (l : List (ScmiTarget × Bool)) :
    lastAccepted t (l ++ [(u, on)]) = if u = t then some on else lastAccepted t l := by
  unfold lastAccepted
  by_cases hu : u = t <;> simp [hu]

/-- **The count is 0 or 1, and 1 exactly where ON was asked for last.** -/
def Balanced (h : ScmiHistory) (t : ScmiTarget) : Prop :=
  (refCount t h.calls = 0 ∨ refCount t h.calls = 1) ∧
    (refCount t h.calls = 1 ↔ lastAccepted t h.accepted = some true)

/-! ## 3. What one ioctl does -/

/-- What an ioctl does to the references: nothing, take one for an accepted ON, or drop
    one for an OFF, which is accepted or not. -/
inductive RefChange where
  | quiet
  | get (t : ScmiTarget)
  | put (t : ScmiTarget) (accepted : Bool)
  deriving DecidableEq, Repr

/-- The resume call of `power_domain_state_set` succeeds. -/
def PmAnswers.resumes (since510 : Bool) (k : PmAnswers) : Bool :=
  if since510 then k.pmRuntimeResumeAndGet.isNone else 0 ≤ k.pmRuntimeGetSync

/-- The change, from the arguments, the server and the answers. -/
def ServerIoctl.change (since510 : Bool) (s : ScmiServer) : ServerIoctl → RefChange
  | .clock (some (.configSet clockId config)) k =>
    if s.hasClock k clockId then
      if config &&& 1 ≠ 0 then
        if k.clkPrepareEnable.isNone then .get (.clock clockId) else .quiet
      else .put (.clock clockId) true
    else .quiet
  | .power (some (.stateSet domainId powerState)) k =>
    if s.hasDomain k domainId then
      if powerState = scmiPowerStateGenericOn then
        if k.resumes since510 then .get (.power domainId) else .quiet
      else if powerState = scmiPowerStateGenericOff then
        .put (.power domainId) (0 ≤ k.pmRuntimePutSync)
      else .quiet
    else .quiet
  | _ => .quiet

def RefChange.delta (t : ScmiTarget) : RefChange → Int
  | .quiet => 0
  | .get u => if u = t then 1 else 0
  | .put u _ => if u = t then -1 else 0

def RefChange.accepts : RefChange → List (ScmiTarget × Bool)
  | .quiet | .put _ false => []
  | .get u => [(u, true)]
  | .put u true => [(u, false)]

/-- An outcome does what a change says. -/
def Does (io : ServerIoctl) (r : Int × ScmiServer × List KernelCall) (c : RefChange) : Prop :=
  (∀ t, refCount t r.2.2 = c.delta t) ∧ (if 0 ≤ r.1 then io.asks.toList else []) = c.accepts

variable {io : ServerIoctl} {s : ScmiServer}

/-- No call and no set request accepted. -/
theorem does_quiet {ret : Int} (h : ret < 0 ∨ io.asks = none) : Does io (ret, s, []) .quiet := by
  refine ⟨fun _ => rfl, ?_⟩
  rcases h with hret | hasks
  · exact if_neg (Int.not_le.mpr hret)
  · show (if 0 ≤ ret then io.asks.toList else []) = []
    rw [hasks]
    exact ite_self _

/-- A reply is copied or not: no call. -/
theorem calls_copyReply {ρ : Type} (s : ScmiServer) (copied : Bool) (reply : ρ) :
    (copyReply s copied reply).calls = [] := by
  unfold copyReply
  split <;> rfl

theorem calls_onClock {ρ : Type} {k : ClkAnswers} {clockId : UInt32}
    {body : ScmiServer → IoctlResult ρ} (hbody : ∀ s, (body s).calls = []) :
    (onClock s k clockId body).calls = [] := by
  rcases onClock_cases s k clockId body with ⟨_, e, s', hr⟩ | ⟨_, s', hr⟩
  · rw [hr]
    rfl
  · rw [hr]
    exact hbody s'

theorem calls_onDomain (s : ScmiServer) (k : PmAnswers) (domainId : UInt32) (reply : PowerReply) :
    (onDomain s k domainId reply).calls = [] := by
  unfold onDomain
  split
  · rfl
  · split
    · exact calls_copyReply _ _ _
    · dsimp only
      split
      · rfl
      · exact calls_copyReply _ _ _

/-- `clk_prepare_enable` and `pm_runtime_resume_and_get`: a reference exactly where the
    call succeeds. -/
theorem does_get {t : ScmiTarget} {c : KernelCall} {r : Option Errno}
    (hasks : io.asks = some (t, true)) (ht : c.target = t)
    (ha : c.amount = if r.isNone then 1 else 0) :
    Does io (retOf r, s, [c]) (if r.isNone then .get t else .quiet) := by
  have hcount : ∀ u, refCount u [c] = if t = u then c.amount else 0 := by
    intro u
    rw [refCount, refCount, ht, Int.add_zero]
  have hret := retOf_nonneg_iff r
  cases r with
  | none =>
    refine ⟨fun u => ?_, ?_⟩
    · rw [hcount, ha]
      rfl
    · rw [if_pos (hret.mpr rfl), hasks]
      rfl
  | some e =>
    refine ⟨fun u => ?_, ?_⟩
    · rw [hcount, ha]
      exact ite_self _
    · exact if_neg (fun hle => Option.some_ne_none e (hret.mp hle))

/-- A call that drops a reference, whatever it returns. -/
theorem does_put {t : ScmiTarget} {c : KernelCall} {ret : Int} (hasks : io.asks = some (t, false))
    (ht : c.target = t) (ha : c.amount = -1) : Does io (ret, s, [c]) (.put t (0 ≤ ret)) := by
  refine ⟨fun u => ?_, ?_⟩
  · show refCount u [c] = if t = u then -1 else 0
    rw [refCount, refCount, ht, ha, Int.add_zero]
  · show (if 0 ≤ ret then io.asks.toList else []) = _
    rw [hasks]
    by_cases hret : 0 ≤ ret
    · rw [if_pos hret, decide_eq_true hret]
      rfl
    · rw [if_neg hret, decide_eq_false hret]
      rfl

theorem setClockConfig_does (s : ScmiServer) (k : ClkAnswers) (clockId config : UInt32)
    (since510 : Bool) :
    let io : ServerIoctl := .clock (some (.configSet clockId config)) k
    Does io (io.outcome since510 s) (io.change since510 s) := by
  intro io
  have hout : io.outcome since510 s =
      ((setClockConfig s k clockId config).ret, (setClockConfig s k clockId config).server,
        (setClockConfig s k clockId config).calls) := rfl
  rw [hout, ServerIoctl.change]
  unfold setClockConfig
  rcases onClock_cases s k clockId _ with ⟨hno, e, s', hr⟩ | ⟨hyes, s', hr⟩
  · rw [hr, hno, if_neg Bool.false_ne_true]
    exact does_quiet (.inl e.neg)
  · rw [hr, hyes, if_pos rfl]
    by_cases hon : config &&& 1 ≠ 0
    · have hasks : io.asks = some (.clock clockId, true) := by
        show some (_, decide (config &&& 1 ≠ 0)) = _
        rw [decide_eq_true hon]
      rw [if_pos hon, if_pos hon]
      exact does_get hasks rfl rfl
    · have hasks : io.asks = some (.clock clockId, false) := by
        show some (_, decide (config &&& 1 ≠ 0)) = _
        rw [decide_eq_false hon]
      rw [if_neg hon, if_neg hon]
      -- clk_disable_unprepare is void: the ioctl returns 0
      exact does_put hasks rfl rfl

theorem stateSet_does (s : ScmiServer) (k : PmAnswers) (domainId powerState : UInt32)
    (since510 : Bool) :
    let io : ServerIoctl := .power (some (.stateSet domainId powerState)) k
    Does io (io.outcome since510 s) (io.change since510 s) := by
  intro io
  have hasks : io.asks = if powerState = scmiPowerStateGenericOn then some (.power domainId, true)
      else if powerState = scmiPowerStateGenericOff then some (.power domainId, false)
      else none := rfl
  rw [ServerIoctl.outcome, ServerIoctl.change]
  dsimp only [hvisorScmiPowerIoctl]
  rcases powerDomainInit_spec s k domainId with ⟨hno, hret⟩ | ⟨hyes, hret, hatt⟩
  · rw [if_pos hret, hno, if_neg Bool.false_ne_true]
    exact does_quiet (.inl hret)
  · rw [if_neg (Int.not_lt.mpr (Int.le_of_eq hret.symm)), hyes, if_pos rfl]
    unfold powerDomainStateSet
    rw [if_neg hatt]
    by_cases hon : powerState = scmiPowerStateGenericOn
    · rw [if_pos hon] at hasks
      rw [if_pos hon, if_pos hon]
      cases since510 with
      | true => exact does_get hasks rfl rfl
      | false =>
        by_cases hfail : k.pmRuntimeGetSync < 0
        · -- taken and put back
          have hres : k.resumes false = false := decide_eq_false (Int.not_le.mpr hfail)
          rw [if_neg Bool.false_ne_true, if_pos hfail, hres, if_neg Bool.false_ne_true]
          refine ⟨fun u => ?_, if_neg (Int.not_le.mpr hfail)⟩
          show (if ScmiTarget.power domainId = u then (1 : Int) else 0) +
            ((if ScmiTarget.power domainId = u then -1 else 0) + 0) = 0
          by_cases hu : ScmiTarget.power domainId = u
          · rw [if_pos hu, if_pos hu]
            rfl
          · rw [if_neg hu, if_neg hu]
            rfl
        · have hres : k.resumes false = true := decide_eq_true (Int.not_lt.mp hfail)
          rw [if_neg Bool.false_ne_true, if_neg hfail, hres, if_pos rfl]
          refine ⟨fun u => Int.add_zero _, ?_⟩
          show (if 0 ≤ k.pmRuntimeGetSync then _ else _) = _
          rw [if_pos (Int.not_lt.mp hfail), hasks]
          rfl
    · rw [if_neg hon] at hasks
      rw [if_neg hon, if_neg hon]
      by_cases hoff : powerState = scmiPowerStateGenericOff
      · rw [if_pos hoff] at hasks
        rw [if_pos hoff, if_pos hoff]
        exact does_put hasks rfl rfl
      · rw [if_neg hoff, if_neg hoff]
        exact does_quiet (.inl einval.neg)

/-- **What one ioctl does**: every subcommand of both entry points, with any arguments and
    any answers, changes the count and accepts a request as its change says. -/
theorem outcome_change (since510 : Bool) (s : ScmiServer) (io : ServerIoctl) :
    Does io (io.outcome since510 s) (io.change since510 s) := by
  have hclock : ∀ {args k}, (hvisorScmiClockIoctl s k args).calls = [] →
      (ServerIoctl.clock args k).asks = none →
      Does (.clock args k) ((ServerIoctl.clock args k).outcome since510 s) .quiet := by
    intro args k hcalls hasks
    rw [ServerIoctl.outcome, hcalls]
    exact does_quiet (.inr hasks)
  have hpower : ∀ {args k}, (hvisorScmiPowerIoctl since510 s k args).calls = [] →
      (ServerIoctl.power args k).asks = none →
      Does (.power args k) ((ServerIoctl.power args k).outcome since510 s) .quiet := by
    intro args k hcalls hasks
    rw [ServerIoctl.outcome, hcalls]
    exact does_quiet (.inr hasks)
  cases io with
  | clock args k =>
    rcases args with _ | args
    · exact hclock rfl rfl
    cases args with
    | configSet clockId config => exact setClockConfig_does s k clockId config since510
    | getCount =>
      refine hclock ?_ rfl
      dsimp only [hvisorScmiClockIoctl]
      split
      · rfl
      · exact calls_copyReply _ _ _
    | getAttributes clockId => exact hclock (calls_onClock fun _ => calls_copyReply _ _ _) rfl
    | describeRates => exact hclock rfl rfl
    | rateGet clockId => exact hclock (calls_onClock fun _ => calls_copyReply _ _ _) rfl
    | rateSet clockId rate => exact hclock (calls_onClock fun _ => rfl) rfl
    | configGet clockId => exact hclock (calls_onClock fun _ => calls_copyReply _ _ _) rfl
    | nameGet clockId => exact hclock (calls_onClock fun _ => calls_copyReply _ _ _) rfl
    | other subcmd => exact hclock rfl rfl
  | power args k =>
    rcases args with _ | args
    · exact hpower rfl rfl
    cases args with
    | stateSet domainId powerState => exact stateSet_does s k domainId powerState since510
    | getCount => exact hpower (calls_copyReply _ _ _) rfl
    | getAttributes domainId =>
      refine hpower ?_ rfl
      dsimp only [hvisorScmiPowerIoctl]
      split
      · rfl
      · exact calls_onDomain _ _ _ _
    | stateGet domainId => exact hpower (calls_onDomain _ _ _ _) rfl
    | other subcmd => exact hpower rfl rfl

/-! ## 4. When the references stay balanced -/

/-- **An ioctl that keeps the balance**: an ON that takes a reference comes while ON is not
    the state asked for last, an OFF that drops one comes while it is, and the drop is not
    refused. -/
def KeepsBalance (since510 : Bool) (h : ScmiHistory) (io : ServerIoctl) : Prop :=
  match io.change since510 h.server with
  | .quiet => True
  | .get t => lastAccepted t h.accepted ≠ some true
  | .put t accepted => lastAccepted t h.accepted = some true ∧ accepted = true

/-- The count and the accepted requests behind a step. -/
theorem step_change {since510 : Bool} {h h' : ScmiHistory}
    (hs : (scmiServerMachine since510).step h io = some h') :
    (∀ t, refCount t h'.calls = refCount t h.calls + (io.change since510 h.server).delta t) ∧
      h'.accepted = h.accepted ++ (io.change since510 h.server).accepts := by
  obtain ⟨hcount, hacc⟩ := outcome_change since510 h.server io
  cases hs
  refine ⟨fun t => ?_, ?_⟩
  · show refCount t (h.calls ++ _) = _
    rw [refCount_append, hcount]
  · exact congrArg (h.accepted ++ ·) hacc

/-- **One step**: from balanced references, a step leaves them balanced exactly where it
    keeps the balance. -/
theorem balanced_step_iff {since510 : Bool} {h h' : ScmiHistory} (hbal : ∀ t, Balanced h t)
    (hs : (scmiServerMachine since510).step h io = some h') :
    (∀ t, Balanced h' t) ↔ KeepsBalance since510 h io := by
  obtain ⟨hcount, hacc⟩ := step_change hs
  unfold KeepsBalance
  cases hc : io.change since510 h.server with
  | quiet =>
    rw [hc] at hcount hacc
    refine iff_of_true (fun t => ?_) trivial
    have hct := hcount t
    rw [RefChange.delta, Int.add_zero] at hct
    rw [Balanced, hct, hacc, RefChange.accepts, List.append_nil]
    exact hbal t
  | get u =>
    rw [hc] at hcount hacc
    have hother : ∀ t, u ≠ t → Balanced h' t := by
      intro t ht
      have hct := hcount t
      rw [RefChange.delta, if_neg ht, Int.add_zero] at hct
      rw [Balanced, hct, hacc, RefChange.accepts, lastAccepted_snoc, if_neg ht]
      exact hbal t
    have hu : refCount u h'.calls = refCount u h.calls + 1 := by
      have hct := hcount u
      rwa [RefChange.delta, if_pos rfl] at hct
    have hlast : lastAccepted u h'.accepted = some true := by
      rw [hacc, RefChange.accepts, lastAccepted_snoc, if_pos rfl]
    obtain ⟨h01, hiff⟩ := hbal u
    constructor
    · intro hbal' hon
      have h1 := hiff.mpr hon
      obtain ⟨h01', _⟩ := hbal' u
      omega
    · intro hoff t
      by_cases ht : u = t
      · subst ht
        have h0 : refCount u h.calls = 0 := h01.resolve_right fun h1 => hoff (hiff.mp h1)
        have h1 : refCount u h'.calls = 1 := by omega
        exact ⟨.inr h1, iff_of_true h1 hlast⟩
      · exact hother t ht
  | put u acc =>
    rw [hc] at hcount hacc
    have hu : refCount u h'.calls = refCount u h.calls - 1 := by
      have hct := hcount u
      rwa [RefChange.delta, if_pos rfl] at hct
    obtain ⟨h01, hiff⟩ := hbal u
    constructor
    · intro hbal'
      obtain ⟨h01', hiff'⟩ := hbal' u
      have h1 : refCount u h.calls = 1 := by omega
      refine ⟨hiff.mp h1, ?_⟩
      cases acc with
      | true => rfl
      | false =>
        -- the drop is issued but the last accepted request is still the ON
        rw [hacc, RefChange.accepts, List.append_nil] at hiff'
        have h1' := hiff'.mpr (hiff.mp h1)
        omega
    · rintro ⟨hon, rfl⟩ t
      have h1 := hiff.mpr hon
      by_cases ht : u = t
      · subst ht
        have h0 : refCount u h'.calls = 0 := by omega
        have hlast : lastAccepted u h'.accepted ≠ some true := by
          rw [hacc, RefChange.accepts, lastAccepted_snoc, if_pos rfl]
          decide
        exact ⟨.inl h0, iff_of_false (by omega) hlast⟩
      · have hct := hcount t
        rw [RefChange.delta, if_neg ht, Int.add_zero] at hct
        rw [Balanced, hct, hacc, RefChange.accepts, lastAccepted_snoc, if_neg ht]
        exact hbal t

/-- **The references of a sequence of ioctls**: for every clock and every power domain the
    count is 0 or 1, and 1 exactly where the last accepted request asked for ON, in every
    state of the sequence, if and only if every ioctl of it keeps the balance. -/
theorem references_balanced_iff (since510 : Bool) (clocks domains : UInt32)
    (ios : List ServerIoctl) :
    (scmiServerMachine since510).Always (fun h => ∀ t, Balanced h t) (scmiLoaded clocks domains)
        ios ↔
      (scmiServerMachine since510).Throughout (KeepsBalance since510) (scmiLoaded clocks domains)
        ios := by
  refine Machine.always_iff (I := fun _ => True) ?_ trivial ?_ ios
  · intro h io h' _ hbal hs
    exact ⟨trivial, balanced_step_iff hbal hs⟩
  · intro t
    have hnone : lastAccepted t [] ≠ some true := fun h => by cases h
    exact ⟨.inl rfl, iff_of_false Int.zero_ne_one hnone⟩

/-- A kernel in which every call succeeds. -/
def clkFine : ClkAnswers := ⟨.valid, none, none, true, none, 0, true⟩

def pmFine : PmAnswers := ⟨.valid, none, 0, 0, true, true⟩

/-- `HVISOR_SCMI_CLOCK_CONFIG_SET` and `HVISOR_SCMI_POWER_STATE_SET` in such a kernel. -/
def setClock (clockId config : UInt32) : ServerIoctl :=
  .clock (some (.configSet clockId config)) clkFine

def setPower (domainId powerState : UInt32) : ServerIoctl :=
  .power (some (.stateSet domainId powerState)) pmFine

/-- **References are lost and left over.** ON, ON, OFF leaves a reference on the clock and
    on the power domain though OFF was accepted last; a single OFF drops a reference that
    the server does not hold. -/
theorem references_unbalanced :
    (∃ h, (scmiServerMachine true).run (scmiLoaded 1 1)
        [setClock 0 1, setClock 0 1, setClock 0 0] = some h ∧
      refCount (.clock 0) h.calls = 1 ∧ lastAccepted (.clock 0) h.accepted = some false) ∧
    (∃ h, (scmiServerMachine true).run (scmiLoaded 1 1)
        [setPower 0 scmiPowerStateGenericOn, setPower 0 scmiPowerStateGenericOn,
          setPower 0 scmiPowerStateGenericOff] = some h ∧
      refCount (.power 0) h.calls = 1 ∧ lastAccepted (.power 0) h.accepted = some false) ∧
    (∃ h, (scmiServerMachine true).run (scmiLoaded 1 1) [setClock 0 0] = some h ∧
      refCount (.clock 0) h.calls = -1) ∧
    (∃ h, (scmiServerMachine true).run (scmiLoaded 1 1)
        [setPower 0 scmiPowerStateGenericOff] = some h ∧
      refCount (.power 0) h.calls = -1) :=
  ⟨⟨_, rfl, by decide, by decide⟩, ⟨_, rfl, by decide, by decide⟩, ⟨_, rfl, by decide⟩,
    ⟨_, rfl, by decide⟩⟩

end HvisorTool
