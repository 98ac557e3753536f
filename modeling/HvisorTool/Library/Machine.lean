/-
  File:      HvisorTool/Library/Machine.lean
  Subject:   MACHINES WITH LABELLED STEPS: runs, reachable states, invariants.

  A machine is a partial step function: a label says which party moves and
  how the environment answers, so one state and one label give at most one
  successor. Every concurrent part of the development is such a machine.

  * `guarded`, `unguarded`: a step behind a guard;
  * `Machine.Path ok s₀ s`: `s` is reached from `s₀` by steps that all meet
    `ok` (a condition on the state before the step and its label);
  * `Machine.Path.inv`: the invariant rule, the one induction over runs;
  * `Machine.run`, `Machine.runWhile`: a list of labels executed, to exhibit a path;
  * `Machine.Always`, `Machine.Throughout`: what holds in every state and at every
    step of an executed list of labels; `always_iff`, `level_iff`: where the steps
    that break a property are exactly those that miss a condition.
-/
import Mathlib.Tactic.Common

namespace Library

universe u v

/-- A machine: one step for each label; `none` where the label is not enabled. -/
structure Machine (σ : Type u) (α : Type v) where
  step : σ → α → Option σ

section Guards

variable {σ : Type u} {c : Prop} [Decidable c] {s s' : σ}

/-- A step that is enabled where `c` holds. -/
theorem guarded (h : (if c then some s else none) = some s') : c ∧ s = s' := by
  obtain ⟨hc, he⟩ := Option.ite_none_right_eq_some.mp h
  exact ⟨hc, Option.some.inj he⟩

/-- A step that is enabled where `c` does not hold. -/
theorem unguarded (h : (if c then none else some s) = some s') : ¬ c ∧ s = s' := by
  obtain ⟨hc, he⟩ := Option.ite_none_left_eq_some.mp h
  exact ⟨hc, Option.some.inj he⟩

end Guards

namespace Machine

variable {σ : Type u} {α : Type v} (M : Machine σ α)

/-- States reached from `s₀` by steps that all meet `ok`. -/
inductive Path (ok : σ → α → Prop) (s₀ : σ) : σ → Prop where
  | start : Path ok s₀ s₀
  | step {s s' : σ} (a : α) (h : Path ok s₀ s) (hok : ok s a) (hs : M.step s a = some s') :
      Path ok s₀ s'

/-- Every step is allowed. -/
def anyStep : σ → α → Prop := fun _ _ => True

/-- States reached by any run. -/
def Reach (s₀ s : σ) : Prop := M.Path anyStep s₀ s

/-- Run a list of labels. -/
def run : σ → List α → Option σ
  | s, [] => some s
  | s, a :: as => (M.step s a).bind fun s' => run s' as

/-- Run a list of labels as long as each meets `ok`. -/
def runWhile (ok : σ → α → Prop) [∀ s a, Decidable (ok s a)] : σ → List α → Option σ
  | s, [] => some s
  | s, a :: as => if ok s a then (M.step s a).bind fun s' => runWhile ok s' as else none

variable {M} {ok : σ → α → Prop} {s₀ s s' : σ} {as : List α}

/-- **The invariant rule**: what holds at the start and is kept by every
    allowed step holds at every state of every allowed run. -/
theorem Path.inv (I : σ → Prop) (h0 : I s₀)
    (hstep : ∀ s a s', I s → ok s a → M.step s a = some s' → I s') (h : M.Path ok s₀ s) : I s := by
  induction h with
  | start => exact h0
  | step a _ hok hs ih => exact hstep _ a _ ih hok hs

/-- A run under a stronger condition is a run under a weaker one. -/
theorem Path.mono {ok' : σ → α → Prop} (hle : ∀ s a, ok s a → ok' s a)
    (h : M.Path ok s₀ s) : M.Path ok' s₀ s := by
  induction h with
  | start => exact .start
  | step a _ hok hs ih => exact .step a ih (hle _ _ hok) hs

/-- Two allowed runs in sequence. -/
theorem Path.trans {s₁ s₂ : σ} (h₁ : M.Path ok s₀ s₁) (h₂ : M.Path ok s₁ s₂) : M.Path ok s₀ s₂ := by
  induction h₂ with
  | start => exact h₁
  | step a _ hok hs ih => exact .step a ih hok hs

/-- An executed list of labels extends a run, if its labels are allowed in every state. -/
theorem run_path (h : M.Path ok s₀ s)
    (hok : ∀ a ∈ as, ∀ t, ok t a) (hr : M.run s as = some s') : M.Path ok s₀ s' := by
  induction as generalizing s with
  | nil =>
    cases hr
    exact h
  | cons a as ih =>
    obtain ⟨t, ht, hr'⟩ := Option.bind_eq_some_iff.mp hr
    exact ih (.step a h (hok a List.mem_cons_self s) ht)
      (fun b hb => hok b (List.mem_cons_of_mem _ hb)) hr'

/-- What an executed list of labels reaches is reachable. -/
theorem reach_of_run (hr : M.run s₀ as = some s) : M.Reach s₀ s :=
  run_path .start (fun _ _ _ => trivial) hr

/-- What an executed list of allowed labels reaches is reached by an allowed run. -/
theorem path_of_runWhile [∀ s a, Decidable (ok s a)]
    (hr : M.runWhile ok s as = some s') : M.Path ok s s' := by
  induction as generalizing s with
  | nil =>
    cases hr
    exact .start
  | cons a as ih =>
    rw [runWhile] at hr
    split at hr
    · next hok =>
      obtain ⟨t, ht, hr'⟩ := Option.bind_eq_some_iff.mp hr
      have hone : M.Path ok s t := .step a .start hok ht
      exact hone.trans (ih hr')
    · cases hr

/-! ## Every state and every step of a run -/

variable (M) in
/-- Every state that an executed list of labels passes through meets `P`. -/
def Always (P : σ → Prop) (s : σ) (as : List α) : Prop :=
  ∀ p t, p <+: as → M.run s p = some t → P t

variable (M) in
/-- Every step that an executed list of labels takes meets `ok`. -/
def Throughout (ok : σ → α → Prop) (s : σ) (as : List α) : Prop :=
  ∀ p a t t', p ++ [a] <+: as → M.run s p = some t → M.step t a = some t' → ok t a

theorem run_cons (s : σ) (a : α) (as : List α) :
    M.run s (a :: as) = (M.step s a).bind fun s' => M.run s' as := rfl

theorem always_cons {P : σ → Prop} {a : α} :
    M.Always P s (a :: as) ↔ P s ∧ ∀ s', M.step s a = some s' → M.Always P s' as := by
  constructor
  · intro h
    refine ⟨h [] s List.nil_prefix rfl, fun s' hs p t hp hr => ?_⟩
    refine h (a :: p) t (List.cons_prefix_cons.mpr ⟨rfl, hp⟩) ?_
    rw [run_cons, hs]
    exact hr
  · rintro ⟨h0, h⟩ p t hp hr
    cases p with
    | nil =>
      cases hr
      exact h0
    | cons b p =>
      obtain ⟨rfl, hp'⟩ := List.cons_prefix_cons.mp hp
      obtain ⟨s', hs, hr⟩ := Option.bind_eq_some_iff.mp hr
      exact h s' hs p t hp' hr

theorem throughout_cons {a : α} :
    M.Throughout ok s (a :: as) ↔ ∀ s', M.step s a = some s' → ok s a ∧ M.Throughout ok s' as := by
  constructor
  · intro h s' hs
    refine ⟨h [] a s s' ?_ rfl hs, fun p b t t' hp hr ht => ?_⟩
    · exact List.cons_prefix_cons.mpr ⟨rfl, List.nil_prefix⟩
    · refine h (a :: p) b t t' (List.cons_prefix_cons.mpr ⟨rfl, hp⟩) ?_ ht
      rw [run_cons, hs]
      exact hr
  · intro h p b t t' hp hr ht
    cases p with
    | nil =>
      cases hr
      obtain ⟨rfl, _⟩ := List.cons_prefix_cons.mp hp
      exact (h t' ht).1
    | cons c p =>
      obtain ⟨rfl, hp'⟩ := List.cons_prefix_cons.mp hp
      obtain ⟨s', hs, hr⟩ := Option.bind_eq_some_iff.mp hr
      exact (h s' hs).2 p b t t' hp' hr ht

/-- **Where a step keeps a property exactly when it meets a condition**, a run keeps the
    property throughout exactly when all its steps meet the condition. -/
theorem always_iff {I P : σ → Prop}
    (hstep : ∀ s a s', I s → P s → M.step s a = some s' → I s' ∧ (P s' ↔ ok s a)) (hI : I s)
    (hP : P s) (as : List α) : M.Always P s as ↔ M.Throughout ok s as := by
  induction as generalizing s with
  | nil =>
    constructor
    · intro _ p a t t' hp _ _
      exact absurd (List.prefix_nil.mp hp) (by simp)
    · intro _ p t hp hr
      rw [List.prefix_nil.mp hp] at hr
      cases hr
      exact hP
  | cons a as ih =>
    rw [always_cons, throughout_cons]
    constructor
    · rintro ⟨_, h⟩ s' hs
      obtain ⟨hI', hiff⟩ := hstep s a s' hI hP hs
      have hP' : P s' := h s' hs [] s' List.nil_prefix rfl
      exact ⟨hiff.mp hP', (ih hI' hP').mp (h s' hs)⟩
    · intro h
      refine ⟨hP, fun s' hs => ?_⟩
      obtain ⟨hI', hiff⟩ := hstep s a s' hI hP hs
      obtain ⟨hok, hrest⟩ := h s' hs
      exact (ih hI' (hiff.mpr hok)).mpr hrest

/-- **A level that no step lowers, and that exactly the steps missing a condition raise**,
    is where it was at the start exactly when all steps meet the condition. -/
theorem level_iff {I : σ → Prop} {level : σ → Nat}
    (hstep : ∀ s a s', I s → M.step s a = some s' →
      I s' ∧ level s ≤ level s' ∧ (level s' = level s ↔ ok s a)) (hI : I s) (hr : M.run s as = some s') :
    I s' ∧ level s ≤ level s' ∧ (level s' = level s ↔ M.Throughout ok s as) := by
  induction as generalizing s with
  | nil =>
    cases hr
    refine ⟨hI, Nat.le_refl _, iff_of_true rfl ?_⟩
    intro p a t t' hp _ _
    exact absurd (List.prefix_nil.mp hp) (by simp)
  | cons a as ih =>
    obtain ⟨t, ht, hr⟩ := Option.bind_eq_some_iff.mp hr
    obtain ⟨hIt, hle, hiff⟩ := hstep s a t hI ht
    obtain ⟨hI', hle', hiff'⟩ := ih hIt hr
    refine ⟨hI', Nat.le_trans hle hle', ?_⟩
    rw [throughout_cons]
    constructor
    · intro e u hu
      have eu : u = t := Option.some.inj (hu.symm.trans ht)
      subst eu
      exact ⟨hiff.mp (by omega), hiff'.mp (by omega)⟩
    · intro h
      obtain ⟨hok, hrest⟩ := h t ht
      exact (hiff'.mpr hrest).trans (hiff.mpr hok)

end Machine

end Library
