/-
  File:      HvisorTool/Library/Traced.lean
  Subject:   FALLIBLE CODE WITH A LOG: what it did up to where it ended.

  * `Traced`: the log, and the result; the log of a failure is kept;
  * `result_bind`: the log does not change the result;
  * `mem_log_bind`: what a sequence logs;
  * `Returns`: a computation that does not fail, and the rule for sequences;
  * `forItems`: a loop over a list, what it logs and when it returns.
-/
import HvisorTool.Library.Outcome

namespace Library

universe u v

/-- A computation with a log. -/
structure Traced (ρ : Type v) (ε : Type u) (α : Type v) where
  log : List ρ
  result : Except ε α

namespace Traced

variable {ρ : Type v} {ε : Type u} {α β : Type v}

/-- Code that logs nothing. -/
def lift (x : Except ε α) : Traced ρ ε α := ⟨[], x⟩

/-- The second part goes on behind the first one's log, if the first returns. -/
def bind (x : Traced ρ ε α) (f : α → Traced ρ ε β) : Traced ρ ε β :=
  match x.result with
  | .error e => ⟨x.log, .error e⟩
  | .ok a => ⟨x.log ++ (f a).log, (f a).result⟩

/-- An entry of the log, and the rest. -/
def tell (r : ρ) (x : Traced ρ ε α) : Traced ρ ε α := ⟨r :: x.log, x.result⟩

@[simp] theorem result_lift (x : Except ε α) : (lift x : Traced ρ ε α).result = x := rfl

@[simp] theorem log_lift (x : Except ε α) : (lift x : Traced ρ ε α).log = [] := rfl

@[simp] theorem result_tell (r : ρ) (x : Traced ρ ε α) : (x.tell r).result = x.result := rfl

@[simp] theorem log_tell (r : ρ) (x : Traced ρ ε α) : (x.tell r).log = r :: x.log := rfl

@[simp] theorem ok_bind (l : List ρ) (a : α) (f : α → Traced ρ ε β) :
    (⟨l, .ok a⟩ : Traced ρ ε α).bind f = ⟨l ++ (f a).log, (f a).result⟩ := rfl

@[simp] theorem error_bind (l : List ρ) (e : ε) (f : α → Traced ρ ε β) :
    (⟨l, .error e⟩ : Traced ρ ε α).bind f = ⟨l, .error e⟩ := rfl

@[simp] theorem lift_ok_bind (a : α) (f : α → Traced ρ ε β) :
    (lift (.ok a) : Traced ρ ε α).bind f = f a := rfl

@[simp] theorem result_bind (x : Traced ρ ε α) (f : α → Traced ρ ε β) :
    (x.bind f).result = x.result >>= fun a => (f a).result := by
  unfold bind
  split <;> rename_i h <;> rw [h] <;> rfl

variable {x : Traced ρ ε α} {f : α → Traced ρ ε β}

theorem mem_log_bind {r : ρ} :
    r ∈ (x.bind f).log ↔ r ∈ x.log ∨ ∃ a, x.result = .ok a ∧ r ∈ (f a).log := by
  unfold bind
  split
  · rename_i e h
    refine ⟨.inl, fun hr => hr.elim id fun ⟨a, ha, _⟩ => ?_⟩
    rw [h] at ha
    cases ha
  · rename_i a h
    rw [List.mem_append]
    refine or_congr_right ⟨fun hr => ⟨a, h, hr⟩, fun ⟨a', ha, hr⟩ => ?_⟩
    rw [h] at ha
    cases ha
    exact hr

/-- What holds of everything logged holds of what each part logs. -/
theorem forall_log_bind {p : ρ → Prop} :
    (∀ r ∈ (x.bind f).log, p r) ↔
      (∀ r ∈ x.log, p r) ∧ ∀ a, x.result = .ok a → ∀ r ∈ (f a).log, p r := by
  constructor
  · intro h
    exact ⟨fun r hr => h r (mem_log_bind.mpr (.inl hr)),
      fun a ha r hr => h r (mem_log_bind.mpr (.inr ⟨a, ha, hr⟩))⟩
  · rintro ⟨hx, hf⟩ r hr
    obtain hr | ⟨a, ha, hr⟩ := mem_log_bind.mp hr
    · exact hx r hr
    · exact hf a ha r hr

/-! ## Computations that return -/

/-- The computation does not fail. -/
def Returns (x : Traced ρ ε α) : Prop := ∃ a, x.result = .ok a

@[simp] theorem returns_ok (l : List ρ) (a : α) : (⟨l, .ok a⟩ : Traced ρ ε α).Returns ↔ True :=
  iff_true_intro ⟨a, rfl⟩

@[simp] theorem returns_error (l : List ρ) (e : ε) :
    (⟨l, .error e⟩ : Traced ρ ε α).Returns ↔ False :=
  iff_false_intro fun ⟨_, h⟩ => (by cases h)

@[simp] theorem returns_lift_ok (a : α) : (lift (.ok a) : Traced ρ ε α).Returns ↔ True :=
  returns_ok [] a

@[simp] theorem returns_lift_error (e : ε) : (lift (.error e) : Traced ρ ε α).Returns ↔ False :=
  returns_error [] e

@[simp] theorem returns_tell {r : ρ} : (x.tell r).Returns ↔ x.Returns := Iff.rfl

/-- A sequence returns if its parts do; the second part must not need a value to tell. -/
theorem returns_bind_iff {p q : Prop} (hx : x.Returns ↔ p)
    (hf : ∀ a, x.result = .ok a → ((f a).Returns ↔ q)) : (x.bind f).Returns ↔ p ∧ q := by
  obtain ⟨log, result⟩ := x
  rw [← hx]
  cases result with
  | error e => rw [error_bind, returns_error, returns_error, false_and]
  | ok a =>
    rw [returns_ok, true_and, ← hf a rfl]
    exact Iff.rfl

/-- A value that is handed on in another form. -/
@[simp] theorem returns_map (x : Traced ρ ε α) (g : α → β) :
    (x.bind fun a => lift (.ok (g a))).Returns ↔ x.Returns := by
  rw [returns_bind_iff Iff.rfl fun a _ => returns_lift_ok (g a), and_true]

/-! ## Loops over a list -/

universe w

variable {ι : Type w}

/-- The items one after the other, with their index. -/
def forItems (body : Nat → ι → α → Traced ρ ε α) : Nat → List ι → α → Traced ρ ε α
  | _, [], a => lift (.ok a)
  | i, item :: items, a => (body i item a).bind (forItems body (i + 1) items)

section Loop

variable {body : Nat → ι → α → Traced ρ ε α}

/-- What each pass logs, the loop logs at some index of the list. -/
theorem forItems_log {p : Nat → ρ → Prop} (hbody : ∀ i item a, ∀ r ∈ (body i item a).log, p i r)
    (i : Nat) (items : List ι) (a : α) :
    ∀ r ∈ (forItems body i items a).log, ∃ k < items.length, p (i + k) r := by
  induction items generalizing i a with
  | nil => exact fun r hr => (by cases hr)
  | cons item items ih =>
    intro r hr
    rcases mem_log_bind.mp hr with hr | ⟨a', -, hr⟩
    · exact ⟨0, Nat.zero_lt_succ _, hbody i item a r hr⟩
    · obtain ⟨k, hk, hp⟩ := ih (i + 1) a' r hr
      refine ⟨k + 1, Nat.succ_lt_succ hk, ?_⟩
      rwa [Nat.add_right_comm, Nat.add_assoc] at hp

/-- What each pass keeps, the loop keeps. -/
theorem forItems_preserves {P : α → Prop}
    (hbody : ∀ i item a a', P a → (body i item a).result = .ok a' → P a') {i : Nat} {items : List ι}
    {a a' : α} (ha : P a) (h : (forItems body i items a).result = .ok a') : P a' := by
  induction items generalizing i a with
  | nil =>
    cases h
    exact ha
  | cons item items ih =>
    rw [forItems, result_bind] at h
    obtain ⟨b, hb, h⟩ := bind_eq_ok.mp h
    exact ih (hbody i item a b ha hb) h

/-- A loop returns if every pass does. -/
theorem forItems_returns_iff {ok : ι → Prop} (hok : ∀ i item a, (body i item a).Returns ↔ ok item)
    (i : Nat) (items : List ι) (a : α) :
    (forItems body i items a).Returns ↔ ∀ item ∈ items, ok item := by
  induction items generalizing i a with
  | nil => simp [forItems, Returns]
  | cons item items ih =>
    rw [List.forall_mem_cons]
    exact returns_bind_iff (hok i item a) fun b _ => ih (i + 1) b

/-- **All that a loop logs**, if a pass logs the same whatever came before it: what the pass for
    an item logs, behind items that did not end the loop. -/
theorem forall_log_forItems_iff {ok : ι → Prop} {log : Nat → ι → List ρ} {p : ρ → Prop}
    (hok : ∀ i item a, (body i item a).Returns ↔ ok item)
    (hlog : ∀ i item a, (body i item a).log = log i item) (i : Nat) (items : List ι) (a : α) :
    (∀ r ∈ (forItems body i items a).log, p r) ↔
      ∀ k item, items[k]? = some item → (∀ before ∈ items.take k, ok before) →
        ∀ r ∈ log (i + k) item, p r := by
  induction items generalizing i a with
  | nil =>
    refine ⟨fun _ k item hk => (by cases hk), fun _ r hr => (by cases hr)⟩
  | cons item items ih =>
    rw [forItems, forall_log_bind, hlog]
    constructor
    · rintro ⟨hfirst, hrest⟩ k item' hk hbefore
      cases k with
      | zero =>
        cases hk
        exact hfirst
      | succ k =>
        rw [List.take_succ_cons, List.forall_mem_cons] at hbefore
        obtain ⟨b, hb⟩ := (hok i item a).mpr hbefore.1
        have hlater := (ih (i + 1) b).mp (hrest b hb) k item' hk hbefore.2
        rwa [Nat.add_right_comm, Nat.add_assoc] at hlater
    · intro h
      refine ⟨h 0 item rfl fun before hb => (by cases hb), fun b hb => ?_⟩
      refine (ih (i + 1) b).mpr fun k item' hk hbefore => ?_
      have hlater := h (k + 1) item' hk (List.forall_mem_cons.mpr
        ⟨(hok i item a).mp ⟨b, hb⟩, hbefore⟩)
      rwa [← Nat.add_assoc, Nat.add_right_comm] at hlater

end Loop

end Traced

end Library
