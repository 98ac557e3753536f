/-
  File:      HvisorTool/Daemon/Resources.lean
  Subject:   WHAT A DEVICE HOLDS: descriptors, events, blocks of the heap, and the worker with its
             lock; and `add_event` and `remove_event` with what they acquire and release.

  `Events.lean` has the two operations as far as a request sees them; here `add_event` also
  has its handler, the block it allocates, and its fault where there is none.

  * `Resource`, `Handles`: code with the log of what it takes and gives back;
  * `EventCalloc`: what `calloc` may answer for an event;
  * `EventMonitor.addEvent`, `EventMonitor.removeEvent`: the two operations;
  * `addEvent_cases`, `registered_removeEvent`: what they do to the table.
-/
import Mathlib.Data.List.ReduceOption
import HvisorTool.Daemon.Events
import HvisorTool.Library.Holdings

namespace HvisorTool

open Library

/-! ## 1. Resources -/

/-- The blocks of the heap that belong to one device; an event is named by its address. -/
inductive Block where
  | vdev
  | vqs
  | dev
  | event (hevent : UInt64)
  | inIov
  | outIov
  | clockIds
  | resetIds
  | powerIds
  deriving DecidableEq, Repr

inductive Resource where
  | fd (n : Int)
  /-- An event in the table of the monitor. -/
  | event (hevent : UInt64)
  | block (b : Block)
  | mutex
  | cond
  | thread
  deriving DecidableEq, Repr

/-- How code of the event monitor can end the process. -/
inductive EventFault where
  /-- A store through the null pointer. -/
  | segv
  deriving DecidableEq, Repr

/-- Code with the log of what it takes and gives back. -/
abbrev Handles (α : Type) := Traced (Handling Resource) EventFault α

/-- A call that opens a descriptor: its number, or -1. -/
def openFd {α : Type} (answer : Option Nat) (k : Int → Handles α) : Handles α :=
  match answer with
  | some n => (k n).tell (.acquire (.fd n))
  | none => k (-1)

/-- The descriptor that a field holds, if it is one. -/
def heldFd (fd : Int) : Multiset Resource := heldIf (0 ≤ fd) (.fd fd)

/-- `if (fd >= 0) close(fd);` -/
def closeFd {α : Type} (fd : Int) (x : Handles α) : Handles α := releaseIf (0 ≤ fd) (.fd fd) x

/-! ## 2. The event monitor -/

/-- What `calloc` answers for an event: no block at all, or one that is no registered event.
    Those are still allocated: an event is freed behind its `remove_event` only. -/
structure EventCalloc where
  answer : List UInt64 → Option UInt64
  fresh : ∀ live a, answer live = some a → a ∉ live

namespace EventMonitor

/-- The entries of `events` that are not `NULL`. -/
def registered (m : EventMonitor) : List UInt64 := m.events.reduceOption

/-- `events[events_num++] = hevent`. -/
def push (m : EventMonitor) (hevent : UInt64) (h : ¬ maxEvents ≤ m.events.length) :
    EventMonitor where
  events := m.events ++ [some hevent]
  bound := length_snoc_le h hevent

/-- `add_event`; `handler` is the address of the function, 0 for `NULL`. -/
def addEvent (m : EventMonitor) (fd : Int) (handler : UInt64) (calloc : EventCalloc)
    (epollCtl : Bool) : Handles (Option UInt64 × EventMonitor) :=
  if h : maxEvents ≤ m.events.length then .lift (.ok (none, m))
  else if fd < 0 ∨ handler = 0 then .lift (.ok (none, m))
  else
    match calloc.answer m.registered with
    -- the fields are set without a test
    | none => .lift (.error .segv)
    | some hevent =>
      .tell (.acquire (.block (.event hevent)))
        (if epollCtl then
          .tell (.acquire (.event hevent)) (.lift (.ok (some hevent, m.push hevent h)))
        else .tell (.release (.block (.event hevent))) (.lift (.ok (none, m))))

/-- `remove_event`, of `NULL` too. -/
def removeEvent (m : EventMonitor) : Option UInt64 → Handles EventMonitor
  | none => .lift (.ok m)
  | some hevent =>
    releaseIf (some hevent ∈ m.events) (.event hevent)
      (.lift (.ok (HvisorTool.removeEvent m hevent)))

variable {m m' : EventMonitor} {fd : Int} {handler hevent : UInt64} {calloc : EventCalloc}
  {epollCtl : Bool}

/-- **What `add_event` does to the table**: nothing, or one more event, that was not there. -/
theorem addEvent_cases {e : Option UInt64}
    (h : (m.addEvent fd handler calloc epollCtl).result = .ok (e, m')) :
    e = none ∧ m' = m ∨
      ∃ hevent, e = some hevent ∧ hevent ∉ m.registered ∧
        m'.events = m.events ++ [some hevent] := by
  unfold addEvent at h
  split at h
  · cases h
    exact .inl ⟨rfl, rfl⟩
  · split at h
    · cases h
      exact .inl ⟨rfl, rfl⟩
    · split at h
      · cases h
      · next hevent hcalloc =>
        split at h
        · cases h
          exact .inr ⟨hevent, rfl, calloc.fresh _ _ hcalloc, rfl⟩
        · cases h
          exact .inl ⟨rfl, rfl⟩

/-- **When `add_event` registers an event.** -/
theorem addEvent_registers_iff :
    (∃ hevent m', (m.addEvent fd handler calloc epollCtl).result = .ok (some hevent, m')) ↔
      m.events.length < maxEvents ∧ 0 ≤ fd ∧ handler ≠ 0 ∧
        (calloc.answer m.registered).isSome = true ∧ epollCtl = true := by
  unfold addEvent
  split
  · next hfull =>
    refine ⟨fun ⟨_, _, h⟩ => (by cases h), fun h => ?_⟩
    omega
  · next hroom =>
    split
    · next hinvalid =>
      refine ⟨fun ⟨_, _, h⟩ => (by cases h), fun h => ?_⟩
      rcases hinvalid with hfd | hhandler
      · omega
      · exact absurd hhandler h.2.2.1
    · next hvalid =>
      obtain ⟨hfd, hhandler⟩ := not_or.mp hvalid
      cases calloc.answer m.registered with
      | none => exact ⟨fun ⟨_, _, h⟩ => (by cases h), fun h => (by cases h.2.2.2.1)⟩
      | some hevent =>
        cases epollCtl with
        | false => exact ⟨fun ⟨_, _, h⟩ => (by cases h), fun h => (by cases h.2.2.2.2)⟩
        | true =>
          exact ⟨fun _ => ⟨by omega, by omega, hhandler, rfl, rfl⟩, fun _ => ⟨hevent, _, rfl⟩⟩

@[simp] theorem result_removeEvent_some (m : EventMonitor) (hevent : UInt64) :
    (m.removeEvent (some hevent)).result = .ok (HvisorTool.removeEvent m hevent) :=
  result_releaseIf ..

theorem registered_append (h : m'.events = m.events ++ [some hevent]) :
    m'.registered = m.registered ++ [hevent] := by
  rw [registered, registered, h, List.reduceOption_append]
  rfl

/-- The slot that is cleared is that of the event. -/
theorem reduceOption_clear (l : List (Option UInt64)) (hevent : UInt64) :
    (l.modify (l.idxOf (some hevent)) fun _ => none).reduceOption =
      l.reduceOption.erase hevent := by
  induction l with
  | nil => rfl
  | cons e l ih =>
    by_cases he : e = some hevent
    · subst he
      rw [List.idxOf_cons_self, List.modify_zero_cons, List.reduceOption_cons_of_none,
        List.reduceOption_cons_of_some, List.erase_cons_head]
    · rw [List.idxOf_cons_ne _ he, List.modify_succ_cons]
      cases e with
      | none => rw [List.reduceOption_cons_of_none, List.reduceOption_cons_of_none, ih]
      | some a =>
        have ha : a ≠ hevent := fun h => he (congrArg some h)
        rw [List.reduceOption_cons_of_some, List.reduceOption_cons_of_some, ih,
          List.erase_cons_tail (by simpa using ha)]

theorem registered_removeEvent (m : EventMonitor) (hevent : UInt64) :
    (HvisorTool.removeEvent m hevent).registered = m.registered.erase hevent :=
  reduceOption_clear m.events hevent

/-! ## 3. What `remove_event` gives back -/

/-- An event that is in the table gives up its place there. -/
theorem removeEvent_turns {e : Option UInt64}
    (h : ∀ hevent, e = some hevent → hevent ∈ m.registered) (F : Multiset Resource) :
    Turns (heldSome (e.map .event) + F) (m.removeEvent e) fun _ => F := by
  cases e with
  | none => exact .ok (zero_add F)
  | some hevent =>
    have hin : some hevent ∈ m.events := List.reduceOption_mem_iff.mp (h hevent rfl)
    have hremove : m.removeEvent (some hevent) =
        .tell (.release (.event hevent)) (.lift (.ok (HvisorTool.removeEvent m hevent))) :=
      if_pos hin
    rw [hremove]
    exact .release (.ok rfl)

end EventMonitor

end HvisorTool
