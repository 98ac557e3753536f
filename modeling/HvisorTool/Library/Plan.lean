/-
  File:      HvisorTool/Library/Plan.lean
  Subject:   RUNS THAT FOLLOW A PLAN: what a run is to do, step by step, and whether it goes on.

  The log of a run is compared with a plan through a view of its entries; entries that the view
  does not see do not count. A run follows a sequence of plans if its parts follow the parts.

  * `Plan`, `Plan.andThen`: entries, and whether what comes next is reached;
  * `FollowsPlan`: the log of a run is the plan, and the run goes on if the plan does;
  * `FollowsPlan.bind`: the rule for sequences.
-/
import HvisorTool.Library.Traced

namespace Library

universe u v

/-- What is to be logged, and whether the next plan is reached. -/
structure Plan (σ : Type v) where
  entries : List σ
  goesOn : Bool

namespace Plan

variable {σ : Type v}

def skip : Plan σ := ⟨[], true⟩

def stop : Plan σ := ⟨[], false⟩

/-- The second plan behind the first, if it is reached. -/
def andThen (p q : Plan σ) : Plan σ :=
  if p.goesOn then ⟨p.entries ++ q.entries, q.goesOn⟩ else ⟨p.entries, false⟩

theorem andThen_stops {p q : Plan σ} (h : p.goesOn = false) : p.andThen q = ⟨p.entries, false⟩ :=
  if_neg (by rw [h]; decide)

@[simp] theorem skip_andThen (q : Plan σ) : skip.andThen q = q := rfl

@[simp] theorem andThen_skip (p : Plan σ) : p.andThen skip = p := by
  obtain ⟨entries, goesOn⟩ := p
  cases goesOn <;> simp [andThen, skip]

end Plan

variable {ρ σ : Type v} {ε : Type u} {α β : Type v}

/-- **A run follows a plan.** `goes` tells which of its values lead on. -/
structure FollowsPlan (view : ρ → Option σ) (goes : α → Bool) (x : Traced ρ ε α) (p : Plan σ) :
    Prop where
  entries : x.log.filterMap view = p.entries
  goesOn : p.goesOn = true ↔ ∃ a, x.result = .ok a ∧ goes a = true

namespace FollowsPlan

variable {view : ρ → Option σ} {goes : α → Bool} {goes' : β → Bool} {a : α}

theorem lift_ok (h : goes a = true) : FollowsPlan view goes (.lift (.ok a) : Traced ρ ε α) .skip :=
  ⟨rfl, fun _ => ⟨a, rfl, h⟩, fun _ => rfl⟩

theorem lift_refused (h : goes a = false) :
    FollowsPlan view goes (.lift (.ok a) : Traced ρ ε α) .stop := by
  refine ⟨rfl, fun hgo => (by cases hgo), fun ⟨b, hb, hgo⟩ => ?_⟩
  cases hb
  rw [h] at hgo
  cases hgo

variable {x : Traced ρ ε α} {f : α → Traced ρ ε β}

/-- A run that fails without an entry. -/
theorem failed {e : ε} (hlog : x.log.filterMap view = [])
    (h : x.result = .error e) : FollowsPlan view goes x .stop := by
  refine ⟨hlog, fun hgo => (by cases hgo), fun ⟨a, ha, _⟩ => ?_⟩
  rw [h] at ha
  cases ha

/-- A run without an entry that returns. -/
theorem silent (hlog : x.log.filterMap view = []) (h : x.result = .ok a)
    (hgo : goes a = true) : FollowsPlan view goes x .skip :=
  ⟨hlog, fun _ => ⟨a, h, hgo⟩, fun _ => rfl⟩

variable {p q : Plan σ}

/-- **The rule for sequences**: the second part follows its plan where the first leads on to it,
    and logs nothing and ends where it does not. -/
theorem bind (hx : FollowsPlan view goes x p)
    (hgo : ∀ a, x.result = .ok a → goes a = true → FollowsPlan view goes' (f a) q)
    (hstop : ∀ a, x.result = .ok a → goes a = false → FollowsPlan view goes' (f a) .stop) :
    FollowsPlan view goes' (x.bind f) (p.andThen q) := by
  obtain ⟨log, result⟩ := x
  obtain ⟨hentries, hgoesOn⟩ := hx
  cases result with
  | error e =>
    have hp : p.goesOn = false := by
      refine Bool.eq_false_iff.mpr fun h => ?_
      obtain ⟨a, ha, -⟩ := hgoesOn.mp h
      cases ha
    rw [Plan.andThen_stops hp]
    refine ⟨hentries, fun h => (by cases h), fun ⟨a, ha, _⟩ => (by cases ha)⟩
  | ok a =>
    rw [Traced.ok_bind]
    cases ha : goes a with
    | false =>
      have hp : p.goesOn = false := by
        refine Bool.eq_false_iff.mpr fun h => ?_
        obtain ⟨b, hb, hgo'⟩ := hgoesOn.mp h
        cases hb
        rw [ha] at hgo'
        cases hgo'
      obtain ⟨hnone, hends⟩ := hstop a rfl ha
      rw [Plan.andThen_stops hp]
      refine ⟨?_, hends⟩
      show (log ++ (f a).log).filterMap view = p.entries
      rw [List.filterMap_append, hnone]
      exact (List.append_nil _).trans hentries
    | true =>
      obtain ⟨hrest, hends⟩ := hgo a rfl ha
      rw [Plan.andThen, if_pos (hgoesOn.mpr ⟨a, rfl, ha⟩)]
      refine ⟨?_, hends⟩
      show (log ++ (f a).log).filterMap view = p.entries ++ q.entries
      rw [List.filterMap_append, hrest]
      exact congrArg (· ++ q.entries) hentries

/-- A sequence behind code whose values all lead on. -/
theorem bind_all (hx : FollowsPlan view (fun _ => true) x p)
    (hf : ∀ a, x.result = .ok a → FollowsPlan view goes' (f a) q) :
    FollowsPlan view goes' (x.bind f) (p.andThen q) :=
  hx.bind (fun a ha _ => hf a ha) fun _ _ h => (by cases h)

/-- A sequence behind code without an entry. -/
theorem silent_bind (hlog : x.log.filterMap view = []) (h : x.result = .ok a)
    (hf : FollowsPlan view goes' (f a) p) : FollowsPlan view goes' (x.bind f) p := by
  have hsilent : FollowsPlan view (fun _ => true) x .skip := .silent hlog h rfl
  rw [← Plan.skip_andThen p]
  refine hsilent.bind_all fun b hb => ?_
  rw [h] at hb
  cases hb
  exact hf

/-- Code that fails without an entry ends the sequence. -/
theorem failed_bind {e : ε} (hlog : x.log.filterMap view = []) (h : x.result = .error e) :
    FollowsPlan view goes' (x.bind f) .stop := by
  have hfailed : FollowsPlan view (fun _ => true) x .stop := .failed hlog h
  refine hfailed.bind_all (q := .skip) fun b hb => ?_
  rw [h] at hb
  cases hb

/-- A value that is handed on in another form. -/
theorem map {g : α → β} (hx : FollowsPlan view goes x p)
    (hg : ∀ a, goes' (g a) = goes a) : FollowsPlan view goes' (x.bind fun a => .lift (.ok (g a))) p := by
  rw [← Plan.andThen_skip p]
  refine hx.bind (fun a _ h => ?_) fun a _ h => ?_
  · exact .lift_ok ((hg a).trans h)
  · exact .lift_refused ((hg a).trans h)

end FollowsPlan

end Library
