/-
  File:      HvisorTool/Daemon/EventSlots.lean
  Subject:   THE SLOTS OF THE EVENT MONITOR over any sequence of `add_event` and `remove_event`.

  A slot that `remove_event` has cleared is not used again, since `events_num` only grows: the
  table holds the right events, and refuses one more as soon as it has taken `MAX_EVENTS`.

  * `EventRun`, `eventMachine`: the calls, with the history of what they did;
  * `Outstanding`: added and not removed since;
  * `EventsInv`: what the table has to do with the history, at every point of every run;
  * `event_slots_reusable_iff`: when the next event is accepted as it should be.
-/
import HvisorTool.Daemon.Resources
import HvisorTool.Library.Machine

namespace HvisorTool

open Library

/-! ## 1. Runs -/

/-- A call, with what the allocator and `epoll_ctl` answer. -/
inductive EventCall where
  | add (fd : Int) (handler : UInt64) (calloc : EventCalloc) (epollCtl : Bool)
  | remove (hevent : Option UInt64)

/-- What a call did. -/
inductive EventDone where
  | added (hevent : UInt64)
  | removed (hevent : UInt64)
  deriving DecidableEq, Repr

/-- The monitor, and the history from the first call on. -/
structure EventRun where
  monitor : EventMonitor
  history : List EventDone
  deriving DecidableEq, Repr

namespace EventRun

def start : EventRun := ⟨.empty, []⟩

/-- One call; there is no state behind a fault. -/
def step (s : EventRun) : EventCall → Option EventRun
  | .add fd handler calloc epollCtl =>
    match (s.monitor.addEvent fd handler calloc epollCtl).result with
    | .error _ => none
    | .ok (none, m) => some ⟨m, s.history⟩
    | .ok (some hevent, m) => some ⟨m, s.history ++ [.added hevent]⟩
  | .remove hevent =>
    match (s.monitor.removeEvent hevent).result with
    | .error _ => none
    | .ok m => some ⟨m, s.history ++ hevent.toList.map .removed⟩

/-- The calls of `add_event` that have succeeded. -/
def additions (s : EventRun) : Nat :=
  s.history.countP fun d => match d with
    | .added _ => true
    | .removed _ => false

end EventRun

def eventMachine : Machine EventRun EventCall := ⟨EventRun.step⟩

/-- The event has been added, and not removed since. -/
def Outstanding (history : List EventDone) (hevent : UInt64) : Prop :=
  ∃ before since, history = before ++ .added hevent :: since ∧ .removed hevent ∉ since

/-! ## 2. The history, call by call -/

section History

variable {history : List EventDone} {e hevent : UInt64}

theorem outstanding_nil : ¬ Outstanding [] e := by
  rintro ⟨before, since, h, -⟩
  exact List.append_ne_nil_of_right_ne_nil _ (List.cons_ne_nil _ _) h.symm

/-- A further entry of the history is the last one since the event was added, or the one by
    which it was. -/
theorem outstanding_append_singleton (d : EventDone) :
    Outstanding (history ++ [d]) e ↔ d = .added e ∨ d ≠ .removed e ∧ Outstanding history e := by
  constructor
  · rintro ⟨before, since, h, hsince⟩
    rcases List.eq_nil_or_concat' since with rfl | ⟨since, d', rfl⟩
    · obtain ⟨-, hd⟩ := List.append_inj' h rfl
      exact .inl (List.singleton_inj.mp hd)
    · rw [← List.cons_append, ← List.append_assoc] at h
      obtain ⟨hhistory, hd⟩ := List.append_inj' h rfl
      obtain rfl := List.singleton_inj.mp hd
      rw [List.mem_append, not_or] at hsince
      exact .inr ⟨fun heq => hsince.2 (List.mem_singleton.mpr heq.symm),
        before, since, hhistory, hsince.1⟩
  · rintro (rfl | ⟨hd, before, since, rfl, hsince⟩)
    · exact ⟨history, [], rfl, List.not_mem_nil⟩
    · refine ⟨before, since ++ [d], by rw [List.append_assoc, List.cons_append], ?_⟩
      rw [List.mem_append, not_or]
      exact ⟨hsince, fun hmem => hd (List.mem_singleton.mp hmem).symm⟩

theorem outstanding_added : Outstanding (history ++ [.added hevent]) e ↔
    e = hevent ∨ Outstanding history e := by
  rw [outstanding_append_singleton, EventDone.added.injEq, eq_comm]
  exact or_congr_right (and_iff_right nofun)

theorem outstanding_removed : Outstanding (history ++ [.removed hevent]) e ↔
    e ≠ hevent ∧ Outstanding history e := by
  have hnot : EventDone.removed hevent ≠ .added e := nofun
  rw [outstanding_append_singleton, or_iff_right hnot, ne_eq, EventDone.removed.injEq, eq_comm]

end History

/-! ## 3. The table against the history -/

/-- **What holds at every point of every run**: the table has the outstanding events, each once,
    and one slot for each event that was ever added. -/
structure EventsInv (s : EventRun) : Prop where
  once : s.monitor.registered.Nodup
  exact_iff : ∀ e, e ∈ s.monitor.registered ↔ Outstanding s.history e
  slots : s.monitor.events.length = s.additions

theorem eventsInv_start : EventsInv .start where
  once := List.nodup_nil
  exact_iff _ := iff_of_false List.not_mem_nil outstanding_nil
  slots := rfl

variable {s s' : EventRun}

/-- An event is added. -/
theorem EventsInv.added (h : EventsInv s) {m : EventMonitor} {hevent : UInt64}
    (hnew : hevent ∉ s.monitor.registered)
    (hevents : m.events = s.monitor.events ++ [some hevent]) :
    EventsInv ⟨m, s.history ++ [.added hevent]⟩ := by
  have hreg := EventMonitor.registered_append hevents
  constructor
  · rw [hreg, List.nodup_append_comm, List.singleton_append]
    exact List.nodup_cons.mpr ⟨hnew, h.once⟩
  · intro e
    rw [hreg, List.mem_append, List.mem_singleton, h.exact_iff e, outstanding_added, or_comm]
  · rw [hevents, List.length_append, h.slots, EventRun.additions, EventRun.additions,
      List.countP_append]
    rfl

/-- An event is removed, or a pointer that is no registered event. -/
theorem EventsInv.removed (h : EventsInv s) (hevent : UInt64) :
    EventsInv ⟨removeEvent s.monitor hevent, s.history ++ [.removed hevent]⟩ := by
  have hreg := EventMonitor.registered_removeEvent s.monitor hevent
  constructor
  · rw [hreg]
    exact h.once.erase hevent
  · intro e
    rw [hreg, h.once.mem_erase_iff, h.exact_iff e, outstanding_removed]
  · rw [length_removeEvent, h.slots, EventRun.additions, EventRun.additions, List.countP_append]
    rfl

theorem EventsInv.step (h : EventsInv s) (a : EventCall) (hs : s.step a = some s') :
    EventsInv s' := by
  cases a with
  | add fd handler calloc epollCtl =>
    rw [EventRun.step] at hs
    split at hs
    · cases hs
    · next m hadd =>
      cases hs
      obtain ⟨-, rfl⟩ | ⟨hevent, he, -⟩ := EventMonitor.addEvent_cases hadd
      · exact h
      · cases he
    · next hevent m hadd =>
      cases hs
      obtain ⟨he, -⟩ | ⟨hevent', he, hnew, hevents⟩ := EventMonitor.addEvent_cases hadd
      · cases he
      · cases he
        exact h.added hnew hevents
  | remove hevent =>
    cases hevent with
    | none =>
      cases hs
      rw [Option.toList_none, List.map_nil, List.append_nil]
      exact h
    | some hevent =>
      rw [EventRun.step, EventMonitor.result_removeEvent_some] at hs
      cases hs
      exact h.removed hevent

theorem eventsInv_run {calls : List EventCall} (h : eventMachine.run .start calls = some s) :
    EventsInv s :=
  (Machine.reach_of_run h).inv EventsInv eventsInv_start fun _ a _ hI _ hs => hI.step a hs

/-! ## 4. The next event -/

/-- What the table should be good for: it holds the outstanding events, each once, and takes one
    more while there are fewer than `MAX_EVENTS`. -/
structure SlotsReusable (s : EventRun) : Prop where
  once : s.monitor.registered.Nodup
  exact_iff : ∀ e, e ∈ s.monitor.registered ↔ Outstanding s.history e
  accepts : s.monitor.registered.length < maxEvents → ∀ fd handler calloc, 0 ≤ fd → handler ≠ 0 →
    (calloc.answer s.monitor.registered).isSome = true →
    ∃ hevent m, (s.monitor.addEvent fd handler calloc true).result = .ok (some hevent, m)

/-- An allocator with one block. -/
def oneBlock (a : UInt64) : EventCalloc where
  answer live := if a ∈ live then none else some a
  fresh := by
    intro live b h
    split at h
    · cases h
    · next hnot =>
      cases h
      exact hnot

/-- A few events never take all addresses. -/
theorem exists_notMem {l : List UInt64} (h : l.length < maxEvents) : ∃ a, a ∉ l := by
  by_contra hall
  have hsub : (List.range maxEvents).map UInt64.ofNat ⊆ l := fun a _ =>
    not_not.mp fun ha => hall ⟨a, ha⟩
  have hnodup : ((List.range maxEvents).map UInt64.ofNat).Nodup := by decide
  have hle := (hnodup.subperm hsub).length_le
  rw [List.length_map, List.length_range] at hle
  omega

/-- **The table is good for what it should be exactly until it has taken `MAX_EVENTS` events and
    one of them is removed.** -/
theorem event_slots_reusable_iff {calls : List EventCall}
    (h : eventMachine.run .start calls = some s) :
    SlotsReusable s ↔ s.additions < maxEvents ∨ s.monitor.registered.length = maxEvents := by
  have hinv := eventsInv_run h
  have hle : s.monitor.registered.length ≤ _ := List.reduceOption_length_le s.monitor.events
  have hbound := s.monitor.bound
  have hslots := hinv.slots
  constructor
  · intro hgood
    by_contra hnot
    obtain ⟨hmany, hnotfull⟩ := not_or.mp hnot
    have hfew : s.monitor.registered.length < maxEvents := by omega
    obtain ⟨a, ha⟩ := exists_notMem hfew
    have hcalloc : ((oneBlock a).answer s.monitor.registered).isSome = true := by
      have hanswer : (oneBlock a).answer s.monitor.registered = some a := if_neg ha
      rw [hanswer]
      rfl
    have hadd := hgood.accepts hfew 0 1 (oneBlock a) (Int.le_refl 0) (by decide) hcalloc
    have hroom := (EventMonitor.addEvent_registers_iff.mp hadd).1
    omega
  · intro hcond
    refine ⟨hinv.once, hinv.exact_iff, fun hfew fd handler calloc hfd hhandler hcalloc => ?_⟩
    refine EventMonitor.addEvent_registers_iff.mpr ⟨?_, hfd, hhandler, hcalloc, rfl⟩
    omega

/-- An event that comes and goes, so many times. -/
def comeAndGo (n : Nat) : List EventCall :=
  (List.replicate n [EventCall.add 5 1 (oneBlock 0x1000) true, .remove (some 0x1000)]).flatten

/-- Behind fifteen of them the table is as good as new. -/
theorem fifteen_events_reusable : ∃ s, eventMachine.run .start (comeAndGo 15) = some s ∧
    s.additions = 15 ∧ SlotsReusable s := by
  have hrun : (eventMachine.run .start (comeAndGo 15)).map (·.additions) = some 15 := by decide
  obtain ⟨s, hs, hadd⟩ := Option.map_eq_some_iff.mp hrun
  exact ⟨s, hs, hadd, (event_slots_reusable_iff hs).mpr (.inl (by rw [hadd]; decide))⟩

/-- Behind sixteen it is empty, and takes no event any more. -/
theorem sixteen_events_exhaust : ∃ s, eventMachine.run .start (comeAndGo 16) = some s ∧
    s.monitor.registered = [] ∧ ¬ SlotsReusable s := by
  have hrun : (eventMachine.run .start (comeAndGo 16)).map (·.monitor.events) =
      some (List.replicate 16 none) := by decide
  obtain ⟨s, hs, hevents⟩ := Option.map_eq_some_iff.mp hrun
  have hreg : s.monitor.registered = [] := by
    rw [EventMonitor.registered, hevents]
    rfl
  refine ⟨s, hs, hreg, fun hgood => ?_⟩
  have hadd := hgood.accepts (by rw [hreg]; decide) 5 1 (oneBlock 0x1000) (by decide) (by decide)
    (by rw [hreg]; rfl)
  have hroom := (EventMonitor.addEvent_registers_iff.mp hadd).1
  rw [hevents] at hroom
  exact absurd hroom (by decide)

end HvisorTool
