/-
  File:      HvisorTool/Library/Table.lean
  Subject:   TABLES: lists of records with a key, worked on through the first record of a key.

  This is how a linked list is used as a table: a search returns the first record with
  the key, and what is then changed or taken out is that record.

  * `find`, `update`, `remove`: the operations;
  * `find_update`: the record found behind a change;
  * `mem_update_iff`, `mem_remove_iff`: what a table holds behind them, where the keys are distinct;
  * `map_update`, `sum_remove`: what an update leaves, and a total over the records;
  * `find_congr`, `update_congr`, `remove_congr`: the operations on tables that agree.
-/
import Mathlib.Algebra.BigOperators.Group.List.Basic
import Mathlib.Algebra.Ring.Nat
import Mathlib.Data.List.Forall2

namespace Library

namespace Table

universe u v

variable {κ : Type u} {ρ : Type v} [DecidableEq κ] (key : ρ → κ)

/-- The first record with the key. -/
def find (k : κ) (l : List ρ) : Option ρ := l.find? fun r => key r = k

/-- The first record with the key, changed. -/
def update (k : κ) (f : ρ → ρ) : List ρ → List ρ
  | [] => []
  | r :: rs => if key r = k then f r :: rs else r :: update k f rs

/-- The table without the first record with the key. -/
def remove (k : κ) : List ρ → List ρ
  | [] => []
  | r :: rs => if key r = k then rs else r :: remove k rs

variable {key} {k k' : κ} {f : ρ → ρ} {l : List ρ} {r r' : ρ}

theorem find_cons : find key k (r :: l) = if key r = k then some r else find key k l := by
  by_cases h : key r = k <;> simp [find, h]

theorem mem_of_find (h : find key k l = some r) : r ∈ l := List.mem_of_find?_eq_some h

theorem key_of_find (h : find key k l = some r) : key r = k := by
  have := List.find?_some h
  exact of_decide_eq_true this

theorem find_eq_none_iff : find key k l = none ↔ k ∉ l.map key := by
  simp [find, List.find?_eq_none]

/-- Where the keys are distinct a record of the table is the one found by its key. -/
theorem find_of_mem (hn : (l.map key).Nodup) (h : r ∈ l) : find key (key r) l = some r := by
  induction l with
  | nil => cases h
  | cons r₀ l ih =>
    rw [List.map_cons, List.nodup_cons] at hn
    rw [find_cons]
    rcases List.mem_cons.mp h with rfl | h
    · rw [if_pos rfl]
    · have hne : key r₀ ≠ key r := fun e => hn.1 (e ▸ List.mem_map_of_mem h)
      rw [if_neg hne]
      exact ih hn.2 h

/-! ## Changing a record -/

theorem map_update {γ : Type*} {g : ρ → γ} (hg : ∀ r, g (f r) = g r) :
    (update key k f l).map g = l.map g := by
  induction l with
  | nil => rfl
  | cons r l ih =>
    rw [update]
    split
    · rw [List.map_cons, List.map_cons, hg]
    · rw [List.map_cons, List.map_cons, ih]

theorem keys_update (hf : ∀ r, key (f r) = key r) :
    (update key k f l).map key = l.map key := map_update hf

/-- The record found behind a change that keeps the keys. -/
theorem find_update (hf : ∀ r, key (f r) = key r) :
    find key k (update key k f l) = (find key k l).map f := by
  induction l with
  | nil => rfl
  | cons r l ih =>
    rw [update, find_cons]
    split
    · next hk => rw [find_cons, if_pos ((hf r).trans hk), Option.map_some]
    · next hk => rw [find_cons, if_neg hk, ih]

/-- A change of another record leaves what is found, up to that change. -/
theorem find_update_of_ne (hf : ∀ r, key (f r) = key r) (hne : k ≠ k') :
    find key k (update key k' f l) = find key k l := by
  induction l with
  | nil => rfl
  | cons r l ih =>
    rw [update, find_cons]
    split
    · next hk =>
      have hother : key r ≠ k := fun h => hne (h.symm.trans hk)
      rw [find_cons, if_neg (by rw [hf]; exact hother), if_neg hother]
    · rw [find_cons, ih]

/-- What is in a table with one record changed. -/
theorem mem_update_iff (hn : (l.map key).Nodup) :
    r' ∈ update key k f l ↔ (r' ∈ l ∧ key r' ≠ k) ∨ ∃ r ∈ l, key r = k ∧ r' = f r := by
  induction l with
  | nil => simp [update]
  | cons r₀ l ih =>
    rw [List.map_cons, List.nodup_cons] at hn
    have hin : ∀ r ∈ l, key r ≠ key r₀ := fun r hr e => hn.1 (e ▸ List.mem_map_of_mem hr)
    rw [update]
    split
    · next hk =>
      subst hk
      constructor
      · intro h
        rcases List.mem_cons.mp h with rfl | h
        · exact .inr ⟨r₀, List.mem_cons_self, rfl, rfl⟩
        · exact .inl ⟨List.mem_cons_of_mem _ h, hin r' h⟩
      · rintro (⟨h, hne⟩ | ⟨r, h, hr, rfl⟩)
        · rcases List.mem_cons.mp h with rfl | h
          · exact absurd rfl hne
          · exact List.mem_cons_of_mem _ h
        · rcases List.mem_cons.mp h with rfl | h
          · exact List.mem_cons_self
          · exact absurd hr (hin r h)
    · next hk =>
      rw [List.mem_cons, ih hn.2]
      constructor
      · rintro (rfl | ⟨h, hne⟩ | ⟨r, h, hr, rfl⟩)
        · exact .inl ⟨List.mem_cons_self, hk⟩
        · exact .inl ⟨List.mem_cons_of_mem _ h, hne⟩
        · exact .inr ⟨r, List.mem_cons_of_mem _ h, hr, rfl⟩
      · rintro (⟨h, hne⟩ | ⟨r, h, hr, rfl⟩)
        · rcases List.mem_cons.mp h with rfl | h
          · exact .inl rfl
          · exact .inr (.inl ⟨h, hne⟩)
        · rcases List.mem_cons.mp h with rfl | h
          · exact absurd hr hk
          · exact .inr (.inr ⟨r, h, hr, rfl⟩)

/-! ## Taking a record out -/

theorem remove_sublist : (remove key k l).Sublist l := by
  induction l with
  | nil => exact List.Sublist.refl _
  | cons r l ih =>
    rw [remove]
    split
    · exact List.sublist_cons_self r l
    · exact ih.cons_cons r

theorem nodup_remove (hn : (l.map key).Nodup) : ((remove key k l).map key).Nodup :=
  hn.sublist (remove_sublist.map key)

theorem mem_remove_iff (hn : (l.map key).Nodup) : r ∈ remove key k l ↔ r ∈ l ∧ key r ≠ k := by
  induction l with
  | nil => simp [remove]
  | cons r₀ l ih =>
    rw [List.map_cons, List.nodup_cons] at hn
    rw [remove]
    split
    · next hk =>
      subst hk
      constructor
      · intro h
        exact ⟨List.mem_cons_of_mem _ h, fun e => hn.1 (e ▸ List.mem_map_of_mem h)⟩
      · rintro ⟨h, hne⟩
        rcases List.mem_cons.mp h with rfl | h
        · exact absurd rfl hne
        · exact h
    · next hk =>
      rw [List.mem_cons, ih hn.2, List.mem_cons]
      constructor
      · rintro (rfl | ⟨h, hne⟩)
        · exact ⟨.inl rfl, hk⟩
        · exact ⟨.inr h, hne⟩
      · rintro ⟨rfl | h, hne⟩
        · exact .inl rfl
        · exact .inr ⟨h, hne⟩

/-- The record taken out is what a total loses. -/
theorem sum_remove {w : ρ → Nat} (h : find key k l = some r) :
    (l.map w).sum = w r + ((remove key k l).map w).sum := by
  induction l with
  | nil => cases h
  | cons r₀ l ih =>
    rw [find_cons] at h
    rw [remove]
    split at h
    · next hk =>
      cases h
      rw [if_pos hk, List.map_cons, List.sum_cons]
    · next hk =>
      rw [if_neg hk, List.map_cons, List.sum_cons, List.map_cons, List.sum_cons, ih h]
      omega

/-! ## Tables that read the same -/

section Congruence

/-- Tables that agree through `g` agree record by record. -/
theorem map_eq_iff_forall₂ {γ : Type*} {g : ρ → γ} {l' : List ρ} :
    l.map g = l'.map g ↔ List.Forall₂ (fun r r' => g r = g r') l l' := by
  rw [← List.forall₂_map_right_iff, ← List.forall₂_map_left_iff, List.forall₂_eq_eq_eq]

variable {γ : Type*} {g : ρ → γ} {l' : List ρ} (hl : l.map g = l'.map g)
  (hkey : ∀ r r', g r = g r' → key r = key r')

include hl hkey

theorem find_congr : (find key k l).map g = (find key k l').map g := by
  rw [map_eq_iff_forall₂] at hl
  induction hl with
  | nil => rfl
  | cons hr _ ih =>
    rw [find_cons, find_cons, hkey _ _ hr]
    split
    · rw [Option.map_some, Option.map_some, hr]
    · exact ih

theorem update_congr (hf : ∀ r r', g r = g r' → g (f r) = g (f r')) :
    (update key k f l).map g = (update key k f l').map g := by
  rw [map_eq_iff_forall₂] at hl
  induction hl with
  | nil => rfl
  | cons hr hrest ih =>
    rw [update, update, hkey _ _ hr]
    split
    · rw [List.map_cons, List.map_cons, hf _ _ hr, map_eq_iff_forall₂.mpr hrest]
    · rw [List.map_cons, List.map_cons, hr, ih]

theorem remove_congr : (remove key k l).map g = (remove key k l').map g := by
  rw [map_eq_iff_forall₂] at hl
  induction hl with
  | nil => rfl
  | cons hr hrest ih =>
    rw [remove, remove, hkey _ _ hr]
    split
    · exact map_eq_iff_forall₂.mpr hrest
    · rw [List.map_cons, List.map_cons, hr, ih]

end Congruence

end Table

end Library
