/-
  File:      HvisorTool/Library/Ring.lean
  Subject:   CIRCULAR BUFFERS with a front and a rear index.

  A ring of `cap` slots is read as the queue `ringContents` of the slots from
  the front on; its length is `ringCount`, so one slot always stays free.

  * `ringCount_bump`, `ringCount_drop`: the length after one entry is added
    (the ring not being full) or removed (the ring not being empty);
  * `ringContents_write`: a store to the free slot at the rear leaves the
    queue alone (nothing outstanding is overwritten);
  * `ringContents_push`, `ringContents_pop`: the queue after one entry is added or removed.
-/
import Mathlib.Tactic.Common
import Mathlib.Data.Nat.ModEq

namespace Library

universe u

variable {β : Type u} {cap front rear count : Nat}

/-- The number of entries between the front and the rear. -/
def ringCount (cap front rear : Nat) : Nat := (rear + cap - front) % cap

/-- The entries from the front on, oldest first. -/
def ringContents (slots : Nat → β) (cap front count : Nat) : List β :=
  (List.range count).map fun j => slots ((front + j) % cap)

/-! ## 1. How many entries there are -/

theorem mod_split (hf : front < cap) (hr : rear < cap) :
    (front ≤ rear ∧ ringCount cap front rear = rear - front) ∨
      (rear < front ∧ ringCount cap front rear = rear + cap - front) := by
  unfold ringCount
  rcases Nat.lt_or_ge rear front with h | h
  · exact Or.inr ⟨h, Nat.mod_eq_of_lt (by omega)⟩
  · have e : rear + cap - front = (rear - front) + cap := by omega
    refine Or.inl ⟨h, ?_⟩
    rw [e, Nat.add_mod_right, Nat.mod_eq_of_lt (by omega)]

/-- The successor index: one further, or back to zero behind the last slot. -/
theorem succ_mod_split (hr : rear < cap) :
    (rear + 1 < cap ∧ (rear + 1) % cap = rear + 1) ∨ (rear + 1 = cap ∧ (rear + 1) % cap = 0) := by
  rcases Nat.lt_or_ge (rear + 1) cap with h | h
  · exact Or.inl ⟨h, Nat.mod_eq_of_lt h⟩
  · have e : rear + 1 = cap := by omega
    exact Or.inr ⟨e, by rw [e, Nat.mod_self]⟩

theorem ringCount_lt (hf : front < cap) : ringCount cap front rear < cap :=
  Nat.mod_lt _ (by omega)

theorem ringCount_eq_zero (hf : front < cap) (hr : rear < cap) :
    ringCount cap front rear = 0 ↔ front = rear := by
  rcases mod_split hf hr with ⟨h, e⟩ | ⟨h, e⟩ <;> omega

/-- The rear lies behind the last entry. -/
theorem front_add_ringCount (hf : front < cap) (hr : rear < cap) :
    (front + ringCount cap front rear) % cap = rear := by
  rcases mod_split hf hr with ⟨h, e⟩ | ⟨h, e⟩
  · rw [e, Nat.add_sub_cancel' h, Nat.mod_eq_of_lt hr]
  · have e' : front + (rear + cap - front) = rear + cap := by omega
    rw [e, e', Nat.add_mod_right, Nat.mod_eq_of_lt hr]

/-- **One entry added to a ring that is not full.** -/
theorem ringCount_bump (hf : front < cap) (hr : rear < cap) (hfull : (rear + 1) % cap ≠ front) :
    ringCount cap front ((rear + 1) % cap) = ringCount cap front rear + 1 := by
  have hr' : (rear + 1) % cap < cap := Nat.mod_lt _ (by omega)
  rcases mod_split hf hr with ⟨h, e⟩ | ⟨h, e⟩ <;>
    rcases mod_split hf hr' with ⟨h', e'⟩ | ⟨h', e'⟩ <;>
    rcases succ_mod_split hr with ⟨h'', e''⟩ | ⟨h'', e''⟩ <;> omega

/-- **One entry removed from a ring that is not empty.** -/
theorem ringCount_drop (hf : front < cap) (hr : rear < cap) (hne : front ≠ rear) :
    ringCount cap ((front + 1) % cap) rear + 1 = ringCount cap front rear := by
  have hf' : (front + 1) % cap < cap := Nat.mod_lt _ (by omega)
  rcases mod_split hf hr with ⟨h, e⟩ | ⟨h, e⟩ <;>
    rcases mod_split hf' hr with ⟨h', e'⟩ | ⟨h', e'⟩ <;>
    rcases succ_mod_split hf with ⟨h'', e''⟩ | ⟨h'', e''⟩ <;> omega

/-! ## 2. The entries -/

@[simp] theorem ringContents_length (slots : Nat → β) :
    (ringContents slots cap front count).length = count := by
  simp [ringContents]

/-- Slots that lie a different number of steps behind the front, less than a
    full turn apart, are different. -/
theorem slot_ne (front : Nat) {i j : Nat} (hi : i < j) (hj : j < cap) :
    (front + i) % cap ≠ (front + j) % cap := by
  intro he
  have hij : i % cap = j % cap := Nat.ModEq.add_left_cancel' front he
  rw [Nat.mod_eq_of_lt (Nat.lt_trans hi hj), Nat.mod_eq_of_lt hj] at hij
  omega

/-- **The free slot at the rear holds no entry**: a store there changes none. -/
theorem ringContents_write (slots : Nat → β) (hf : front < cap) (hr : rear < cap) (x : β) :
    ringContents (Function.update slots rear x) cap front (ringCount cap front rear) =
      ringContents slots cap front (ringCount cap front rear) := by
  refine List.map_congr_left fun j hj => ?_
  have hne := slot_ne front (List.mem_range.mp hj) (ringCount_lt hf)
  rw [front_add_ringCount hf hr] at hne
  exact Function.update_of_ne hne x slots

/-- The queue with the entry at the rear counted in. -/
theorem ringContents_push (slots : Nat → β) :
    ringContents slots cap front (count + 1) =
      ringContents slots cap front count ++ [slots ((front + count) % cap)] := by
  simp [ringContents, List.range_succ]

/-- The queue with its oldest entry split off. -/
theorem ringContents_pop (slots : Nat → β) (hf : front < cap) :
    ringContents slots cap front (count + 1) =
      slots front :: ringContents slots cap ((front + 1) % cap) count := by
  simp only [ringContents, List.range_succ_eq_map, List.map_cons, List.map_map, Nat.add_zero,
    Nat.mod_eq_of_lt hf]
  congr 1
  refine List.map_congr_left fun j _ => ?_
  have e : front + (j + 1) = front + 1 + j := by omega
  simp only [Function.comp_apply, Nat.mod_add_mod, e]

end Library
