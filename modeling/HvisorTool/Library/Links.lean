/-
  File:      HvisorTool/Library/Links.lean
  Subject:   PLACES LINKED TO ONE ANOTHER: a walk that follows the links.

  * `Links`: every place has a successor or has none; `Links.after` is the place after so many
    links, `Links.Reaches` says that there are so many;
  * `Links.EndsWithin`, `Links.Cycles`: the walk comes to a place without a successor, or
    to a place it was at;
  * `Links.EndsWithin.not_cycles`: a walk that ends does not come to a place twice;
  * `Links.endsWithin_of_not_cycles`: one that does not, on `n` places, ends within `n`.
-/
import Mathlib.Data.Finset.Card

namespace Library

universe u

/-- Linked places. -/
structure Links (α : Type u) where
  more : α → Bool
  next : α → α

namespace Links

variable {α : Type u} (L : Links α)

/-- The place after `k` links. -/
def after (a : α) : Nat → α
  | 0 => a
  | k + 1 => L.next (after a k)

/-- There are `k` links to follow. -/
def Reaches (a : α) (k : Nat) : Prop := ∀ j < k, L.more (L.after a j) = true

/-- The walk ends at one of the first `n` places. -/
def EndsWithin (a : α) (n : Nat) : Prop :=
  ∃ k < n, L.Reaches a k ∧ L.more (L.after a k) = false

/-- The walk comes to a place it was at before. -/
def Cycles (a : α) : Prop :=
  ∃ i j, i < j ∧ L.Reaches a j ∧ L.after a i = L.after a j

variable {L}

theorem after_next (a : α) (k : Nat) : L.after (L.next a) k = L.after a (k + 1) := by
  induction k with
  | zero => rfl
  | succ k ih => exact congrArg L.next ih

theorem after_add (a : α) (i k : Nat) : L.after a (i + k) = L.after (L.after a i) k := by
  induction k with
  | zero => rfl
  | succ k ih => exact congrArg L.next ih

theorem reaches_zero (a : α) : L.Reaches a 0 := fun j hj => absurd hj (Nat.not_lt_zero j)

theorem reaches_succ {a : α} {k : Nat} :
    L.Reaches a (k + 1) ↔ L.more a = true ∧ L.Reaches (L.next a) k := by
  constructor
  · intro h
    refine ⟨h 0 (Nat.succ_pos k), fun j hj => ?_⟩
    rw [after_next]
    exact h (j + 1) (Nat.succ_lt_succ hj)
  · rintro ⟨hmore, hrest⟩ j hj
    cases j with
    | zero => exact hmore
    | succ j =>
      have hj := hrest j (Nat.lt_of_succ_lt_succ hj)
      rwa [after_next] at hj

theorem Reaches.mono {a : α} {j k : Nat} (h : L.Reaches a k) (hle : j ≤ k) : L.Reaches a j :=
  fun i hi => h i (Nat.lt_of_lt_of_le hi hle)

/-- The walk ends within `n` places, or there are `n` links. -/
theorem endsWithin_or_reaches (a : α) (n : Nat) : L.EndsWithin a n ∨ L.Reaches a n := by
  induction n with
  | zero => exact .inr (reaches_zero a)
  | succ n ih =>
    obtain ⟨k, hk, hend⟩ | hreach := ih
    · exact .inl ⟨k, Nat.lt_succ_of_lt hk, hend⟩
    · cases hmore : L.more (L.after a n) with
      | false => exact .inl ⟨n, Nat.lt_succ_self n, hreach, hmore⟩
      | true =>
        refine .inr fun j hj => ?_
        obtain hj | rfl := Nat.lt_succ_iff_lt_or_eq.mp hj
        · exact hreach j hj
        · exact hmore

/-- Behind the end the walk reaches nothing. -/
theorem Reaches.le_end {a : α} {k m : Nat} (h : L.Reaches a m) (hend : L.more (L.after a k) = false) :
    m ≤ k := by
  refine Nat.not_lt.mp fun hlt => ?_
  rw [h k hlt] at hend
  cases hend

/-- **A walk that ends does not come to a place twice.** -/
theorem EndsWithin.not_cycles {a : α} {n : Nat} (h : L.EndsWithin a n) : ¬ L.Cycles a := by
  obtain ⟨k, -, hreach, hend⟩ := h
  rintro ⟨i, j, hij, hj, heq⟩
  have hjk := hj.le_end hend
  -- from the two equal places on the walk goes the same way, and one way ends first
  have hsame : L.after a (i + (k - j)) = L.after a k := by
    rw [after_add, heq, ← after_add]
    congr 1
    omega
  have hmore := hreach (i + (k - j)) (by omega)
  rw [hsame, hend] at hmore
  cases hmore

/-- **A walk on `n` places that does not come to a place twice ends within `n`.** -/
theorem endsWithin_of_not_cycles {a : α} {n : Nat} (number : α → Nat)
    (hinj : Function.Injective number) (hlt : ∀ k, L.Reaches a k → number (L.after a k) < n)
    (h : ¬ L.Cycles a) : L.EndsWithin a n := by
  obtain hend | hreach := L.endsWithin_or_reaches a n
  · exact hend
  · -- `n` links join `n + 1` places
    have hmaps : ∀ k ∈ Finset.range (n + 1), number (L.after a k) ∈ Finset.range n := by
      intro k hk
      rw [Finset.mem_range] at hk ⊢
      exact hlt k (hreach.mono (Nat.le_of_lt_succ hk))
    obtain ⟨i, hi, j, hj, hne, heq⟩ := Finset.exists_ne_map_eq_of_card_lt_of_maps_to (by simp) hmaps
    rw [Finset.mem_range] at hi hj
    refine absurd ?_ h
    obtain hij | hji := Nat.lt_or_gt_of_ne hne
    · exact ⟨i, j, hij, hreach.mono (Nat.le_of_lt_succ hj), hinj heq⟩
    · exact ⟨j, i, hji, hreach.mono (Nat.le_of_lt_succ hi), hinj heq.symm⟩

end Links

end Library
