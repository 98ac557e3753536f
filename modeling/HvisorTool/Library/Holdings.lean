/-
  File:      HvisorTool/Library/Holdings.lean
  Subject:   CODE THAT ACQUIRES AND RELEASES: its log against what it holds before and after.

  Holdings are multisets, so the order in which things are released does not matter, and
  what is released twice has to be held twice.

  * `Handling`, `acquires`, `releases`: the entries of a log, and what they add up to;
  * `Turns P x Q`: who holds `P` before `x` holds `Q a` behind it, if `x` returns `a`;
    one rule for each way to build a computation, and the frame rule;
  * `Turns.settled`: code that starts and ends with nothing releases each thing as often as
    it acquires it.
-/
import Mathlib.Algebra.Order.Group.Multiset
import Mathlib.Tactic.Abel
import HvisorTool.Library.Traced

namespace Library

universe u v

/-- An entry of a log. -/
inductive Handling (ρ : Type v) where
  | acquire (r : ρ)
  | release (r : ρ)
  deriving DecidableEq, Repr

namespace Handling

variable {ρ : Type v}

def acquires : List (Handling ρ) → Multiset ρ
  | [] => 0
  | .acquire r :: log => {r} + acquires log
  | .release _ :: log => acquires log

def releases : List (Handling ρ) → Multiset ρ
  | [] => 0
  | .acquire _ :: log => releases log
  | .release r :: log => {r} + releases log

theorem acquires_append (log log' : List (Handling ρ)) :
    acquires (log ++ log') = acquires log + acquires log' := by
  induction log with
  | nil => exact (zero_add _).symm
  | cons h log ih =>
    cases h with
    | acquire r => rw [List.cons_append, acquires, acquires, ih, add_assoc]
    | release r => exact ih

theorem releases_append (log log' : List (Handling ρ)) :
    releases (log ++ log') = releases log + releases log' := by
  induction log with
  | nil => exact (zero_add _).symm
  | cons h log ih =>
    cases h with
    | acquire r => exact ih
    | release r => rw [List.cons_append, releases, releases, ih, add_assoc]

theorem mem_acquires {log : List (Handling ρ)} {r : ρ} : r ∈ acquires log ↔ .acquire r ∈ log := by
  induction log with
  | nil => simp [acquires]
  | cons h log ih => cases h <;> simp [acquires, ih]

variable [DecidableEq ρ]

theorem count_releases (log : List (Handling ρ)) (r : ρ) :
    (releases log).count r = log.count (.release r) := by
  induction log with
  | nil => rfl
  | cons h log ih =>
    cases h with
    | acquire s => rw [releases, ih, List.count_cons_of_ne (by simp)]
    | release s =>
      rw [releases, Multiset.count_add, ih]
      by_cases hs : s = r
      · subst hs
        rw [Multiset.count_singleton_self, List.count_cons_self, add_comm]
      · rw [Multiset.count_singleton, if_neg (Ne.symm hs), zero_add,
          List.count_cons_of_ne (by simpa using hs)]

end Handling

open Handling

section Turns

variable {ρ : Type v} {ε : Type u} {α β : Type v}

/-- Who holds `P` before `x` holds `Q a` behind it, if `x` returns `a`. -/
def Turns (P : Multiset ρ) (x : Traced (Handling ρ) ε α) (Q : α → Multiset ρ) : Prop :=
  ∀ a, x.result = .ok a → P + acquires x.log = releases x.log + Q a

/-- The release of what is held if the condition holds. -/
def releaseIf (c : Prop) [Decidable c] (r : ρ) (x : Traced (Handling ρ) ε α) :
    Traced (Handling ρ) ε α :=
  if c then x.tell (.release r) else x

/-- What is held if the condition holds. -/
def heldIf (c : Prop) [Decidable c] (r : ρ) : Multiset ρ := if c then {r} else 0

/-- The release of what is held, if anything is. -/
def releaseSome (r : Option ρ) (x : Traced (Handling ρ) ε α) : Traced (Handling ρ) ε α :=
  match r with
  | none => x
  | some r => x.tell (.release r)

def heldSome : Option ρ → Multiset ρ
  | none => 0
  | some r => {r}

@[simp] theorem mem_heldIf {c : Prop} [Decidable c] {r s : ρ} : s ∈ heldIf c r ↔ c ∧ s = r := by
  unfold heldIf
  split <;> simp [*]

@[simp] theorem mem_heldSome {r : Option ρ} {s : ρ} : s ∈ heldSome r ↔ r = some s := by
  cases r <;> simp [heldSome, eq_comm]

@[simp] theorem result_releaseIf (c : Prop) [Decidable c] (r : ρ) (x : Traced (Handling ρ) ε α) :
    (releaseIf c r x).result = x.result := by
  unfold releaseIf
  split <;> rfl

@[simp] theorem acquires_releaseIf (c : Prop) [Decidable c] (r : ρ)
    (x : Traced (Handling ρ) ε α) : acquires (releaseIf c r x).log = acquires x.log := by
  unfold releaseIf
  split <;> rfl

@[simp] theorem result_releaseSome (r : Option ρ) (x : Traced (Handling ρ) ε α) :
    (releaseSome r x).result = x.result := by
  cases r <;> rfl

@[simp] theorem acquires_releaseSome (r : Option ρ) (x : Traced (Handling ρ) ε α) :
    acquires (releaseSome r x).log = acquires x.log := by
  cases r <;> rfl

namespace Turns

variable {P P' F : Multiset ρ} {Q : α → Multiset ρ} {R : β → Multiset ρ} {r : ρ}
  {x : Traced (Handling ρ) ε α}

theorem of_eq (h : Turns P x Q) (heq : P' = P) : Turns P' x Q := heq ▸ h

theorem ok {a : α} (h : P = Q a) : Turns P (.lift (.ok a) : Traced (Handling ρ) ε α) Q := by
  intro b hb
  cases hb
  exact (add_zero P).trans (h.trans (zero_add _).symm)

theorem error {e : ε} : Turns P (.lift (.error e) : Traced (Handling ρ) ε α) Q :=
  fun _ h => by cases h

theorem acquire (h : Turns ({r} + P) x Q) : Turns P (x.tell (.acquire r)) Q := by
  intro a ha
  have heq := h a ha
  rw [Traced.log_tell, acquires, releases, ← heq]
  abel

theorem release (h : Turns P x Q) : Turns ({r} + P) (x.tell (.release r)) Q := by
  intro a ha
  have heq := h a ha
  rw [Traced.log_tell, acquires, releases, add_assoc, heq, add_assoc]

theorem releaseIf {c : Prop} [Decidable c] (h : Turns P x Q) :
    Turns (heldIf c r + P) (releaseIf c r x) Q := by
  unfold heldIf Library.releaseIf
  split
  · exact h.release
  · rwa [zero_add]

theorem releaseSome {r : Option ρ} (h : Turns P x Q) :
    Turns (heldSome r + P) (releaseSome r x) Q := by
  cases r with
  | none => exact h.of_eq (zero_add P)
  | some r => exact h.release

/-- The rule for sequences. -/
theorem bind {f : α → Traced (Handling ρ) ε β} (hx : Turns P x Q)
    (hf : ∀ a, x.result = .ok a → Turns (Q a) (f a) R) : Turns P (x.bind f) R := by
  obtain ⟨log, result⟩ := x
  intro b hb
  cases result with
  | error e => cases hb
  | ok a =>
    have hfirst := hx a rfl
    have hrest := hf a rfl b hb
    rw [Traced.ok_bind, acquires_append, releases_append, ← add_assoc, hfirst, add_assoc, hrest,
      add_assoc]

/-- The frame rule: what the code does not know of stays. -/
theorem frame (h : Turns P x Q) (F : Multiset ρ) : Turns (P + F) x fun a => Q a + F := by
  intro a ha
  rw [add_right_comm, h a ha, add_assoc]

/-- Code that starts and ends with nothing releases what it acquires. -/
theorem settled (h : Turns 0 x Q) {a : α} (ha : x.result = .ok a) (hQ : Q a = 0) :
    acquires x.log = releases x.log := by
  have heq := h a ha
  rwa [hQ, add_zero, zero_add] at heq

end Turns

end Turns

end Library
