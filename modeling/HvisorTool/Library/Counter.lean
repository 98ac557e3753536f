/-
  File:      HvisorTool/Library/Counter.lean
  Subject:   FREE-RUNNING 16-BIT COUNTERS: two parties count events without
             bound and exchange the low 16 bits of their counts.

  The first lemmas take the unbounded counts and say what 16-bit arithmetic on their low words
  computes, as long as the counts lie less than 2^16 apart. The others see the low words only: a
  counter that passes from word to word sweeps one window after the other.

  * `InWindow a b e`: `e` is one of the words from `a` up to, not including, `b`;
  * `windows`, `travel`: the windows of a counter's steps, and how far it came;
  * `windows_countP`: a word is in exactly one of them or in none.
-/
import Mathlib.Algebra.Ring.Nat
import Mathlib.Tactic.Common

namespace Library

section Counts

variable {old e new : Nat}

/-- The wrapped difference of two counts is their distance. -/
theorem toNat_ofNat_sub (h : old ≤ new) (hlt : new - old < 2 ^ 16) :
    (UInt16.ofNat new - UInt16.ofNat old).toNat = new - old := by
  have e1 : (UInt16.ofNat new).toNat = new % 2 ^ 16 := UInt16.toNat_ofNat'
  have e2 : (UInt16.ofNat old).toNat = old % 2 ^ 16 := UInt16.toNat_ofNat'
  rw [UInt16.toNat_sub, e1, e2]
  omega

/-- Counts less than 2^16 apart are equal if their low words are. -/
theorem ofNat_eq_ofNat_iff (h : old ≤ new) (hlt : new - old < 2 ^ 16) :
    UInt16.ofNat new = UInt16.ofNat old ↔ new = old := by
  refine ⟨fun heq => ?_, congrArg _⟩
  have hz : (UInt16.ofNat new - UInt16.ofNat old).toNat = 0 := by
    rw [heq, UInt16.sub_self]
    rfl
  rw [toNat_ofNat_sub h hlt] at hz
  omega

/-- The step from `old` to `new` passes `e`, seen through the low words. -/
theorem ofNat_passes (h₁ : old ≤ e) (h₂ : e < new) (hlt : new - old < 2 ^ 16) :
    UInt16.ofNat new - UInt16.ofNat e - 1 < UInt16.ofNat new - UInt16.ofNat old := by
  have hdist : (UInt16.ofNat new - UInt16.ofNat e).toNat = new - e :=
    toNat_ofNat_sub (by omega) (by omega)
  have hone : (1 : UInt16).toNat = 1 := rfl
  rw [UInt16.lt_iff_toNat_lt, UInt16.toNat_sub, hdist, hone, toNat_ofNat_sub (by omega) hlt]
  omega

end Counts

/-! ## Windows -/

section Windows

variable {a b c e : UInt16}

/-- `e` lies in the window from `a` up to `b`, modulo 2^16. -/
def InWindow (a b e : UInt16) : Prop := ∃ k : Nat, k < (b - a).toNat ∧ e = a + UInt16.ofNat k

/-- The word is nearer to the start of the window than its end is. -/
theorem inWindow_iff : InWindow a b e ↔ (e - a).toNat < (b - a).toNat := by
  constructor
  · intro ⟨k, hk, he⟩
    have hlt : (b - a).toNat < 2 ^ 16 := (b - a).toNat_lt
    have hsub : e - a = UInt16.ofNat k := by rw [he, UInt16.add_comm, UInt16.add_sub_cancel]
    have hto : (UInt16.ofNat k).toNat = k := UInt16.toNat_ofNat_of_lt' (Nat.lt_trans hk hlt)
    rw [hsub, hto]
    exact hk
  · intro h
    refine ⟨(e - a).toNat, h, ?_⟩
    rw [UInt16.ofNat_toNat, UInt16.add_comm, UInt16.sub_add_cancel]

instance : Decidable (InWindow a b e) := decidable_of_iff _ inWindow_iff.symm

/-- The distances from one word to two others, and between those. -/
theorem toNat_sub_cases (a b e : UInt16) :
    ((b - e).toNat = (b - a).toNat - (e - a).toNat ∧ (e - a).toNat ≤ (b - a).toNat) ∨
      ((b - e).toNat = (b - a).toNat + 2 ^ 16 - (e - a).toNat ∧ (b - a).toNat < (e - a).toNat) := by
  have ha : a.toNat < 2 ^ 16 := a.toNat_lt
  have hb : b.toNat < 2 ^ 16 := b.toNat_lt
  have he : e.toNat < 2 ^ 16 := e.toNat_lt
  rw [UInt16.toNat_sub, UInt16.toNat_sub, UInt16.toNat_sub]
  omega

/-- **The wrapped comparison tells whether a step passes a word.** -/
theorem passes_iff : b - e - 1 < b - a ↔ InWindow a b e := by
  have hone : (1 : UInt16).toNat = 1 := rfl
  have hb : (b - a).toNat < 2 ^ 16 := (b - a).toNat_lt
  have he : (e - a).toNat < 2 ^ 16 := (e - a).toNat_lt
  rw [inWindow_iff, UInt16.lt_iff_toNat_lt, UInt16.toNat_sub, hone]
  obtain ⟨h, _⟩ | ⟨h, _⟩ := toNat_sub_cases a b e <;> rw [h] <;> omega

theorem not_inWindow_self : ¬ InWindow a a e := by
  rw [inWindow_iff, UInt16.sub_self]
  exact Nat.not_lt_zero _

/-- The windows that a counter sweeps, from word to word. -/
def windows : UInt16 → List UInt16 → List (UInt16 × UInt16)
  | _, [] => []
  | u, v :: vs => (u, v) :: windows v vs

/-- How far the counter comes. -/
def travel : UInt16 → List UInt16 → Nat
  | _, [] => 0
  | u, v :: vs => (v - u).toNat + travel v vs

/-- Where the counter ends. -/
def arrival : UInt16 → List UInt16 → UInt16
  | u, [] => u
  | _, v :: vs => arrival v vs

theorem windows_length (u : UInt16) (us : List UInt16) : (windows u us).length = us.length := by
  induction us generalizing u with
  | nil => rfl
  | cons v vs ih => simp [windows, ih]

/-- The windows lie one behind the other. -/
theorem windows_getD (u : UInt16) (us : List UInt16) {i : Nat} (hi : i < us.length) :
    (windows u us)[i]? = some ((u :: us).getD i 0, (u :: us).getD (i + 1) 0) := by
  induction us generalizing u i with
  | nil => exact absurd hi (Nat.not_lt_zero _)
  | cons v vs ih =>
    cases i with
    | zero => rfl
    | succ i => exact ih v (Nat.lt_of_succ_lt_succ hi)

theorem arrival_eq_getD (u : UInt16) (us : List UInt16) :
    arrival u us = (u :: us).getD us.length 0 := by
  induction us generalizing u with
  | nil => rfl
  | cons v vs ih => exact ih v

/-- A counter that came less than 2^16 far is that far from where it started. -/
theorem toNat_arrival_sub {u : UInt16} {us : List UInt16} (h : travel u us < 2 ^ 16) :
    (arrival u us - u).toNat = travel u us := by
  induction us generalizing u with
  | nil => rw [arrival, UInt16.sub_self]; rfl
  | cons v vs ih =>
    rw [travel] at h ⊢
    have hrest : (arrival v vs - v).toNat = travel v vs := ih (by omega)
    rw [arrival]
    obtain ⟨e, hle⟩ | ⟨e, hlt⟩ := toNat_sub_cases u (arrival v vs) v
    · omega
    · have hv : (v - u).toNat < 2 ^ 16 := (v - u).toNat_lt
      omega

/-- A window is its first part and its second, -/
theorem inWindow_split (h : (b - a).toNat + (c - b).toNat < 2 ^ 16) :
    InWindow a c e ↔ InWindow a b e ∨ InWindow b c e := by
  have hac := toNat_sub_cases a c b
  have hbe := toNat_sub_cases a e b
  have he : (e - a).toNat < 2 ^ 16 := (e - a).toNat_lt
  have hc : (c - a).toNat < 2 ^ 16 := (c - a).toNat_lt
  rw [inWindow_iff, inWindow_iff, inWindow_iff]
  omega

/-- and no word is in both. -/
theorem InWindow.not_behind (he : InWindow a b e) (h : (b - a).toNat + (c - b).toNat < 2 ^ 16) :
    ¬ InWindow b c e := by
  have hbe := toNat_sub_cases a e b
  rw [inWindow_iff] at he ⊢
  omega

/-- **A counter that comes less than 2^16 far passes a word once or never.** -/
theorem windows_countP {u : UInt16} {us : List UInt16} (h : travel u us < 2 ^ 16) :
    (windows u us).countP (fun w => decide (InWindow w.1 w.2 e)) =
      if InWindow u (arrival u us) e then 1 else 0 := by
  induction us generalizing u with
  | nil => rw [arrival, if_neg not_inWindow_self]; rfl
  | cons v vs ih =>
    rw [travel] at h
    have hrest := ih (u := v) (by omega)
    have hfar : (arrival v vs - v).toNat = travel v vs := toNat_arrival_sub (by omega)
    have hroom : (v - u).toNat + (arrival v vs - v).toNat < 2 ^ 16 := by omega
    have hsplit : InWindow u (arrival v vs) e ↔ InWindow u v e ∨ InWindow v (arrival v vs) e :=
      inWindow_split hroom
    rw [windows, List.countP_cons, hrest, arrival]
    by_cases hfst : InWindow u v e
    · have hsnd : ¬ InWindow v (arrival v vs) e := hfst.not_behind hroom
      simp [hsplit, hfst, hsnd]
    · simp [hsplit, hfst]

end Windows

end Library
