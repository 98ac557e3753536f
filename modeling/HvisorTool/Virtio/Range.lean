/-
  File:      HvisorTool/Virtio/Range.lean
  Subject:   ADDRESS RANGES of 64-bit base and length: the membership test of `in_range` and
             `get_virt_addr`, and the overlap test of the configuration checks.

  The first computes the end with wrap-around, the second saturates it.

  * `inRange_iff`: membership in exact arithmetic. A range that reaches the top
    of the address space has no member at all;
  * `rangesOverlap_of_inRange`: two ranges with a common member overlap, so
    ranges that passed the overlap test have none.
-/
import Mathlib.Algebra.Ring.Nat
import Mathlib.Tactic.Common

namespace HvisorTool

/-- `in_range`: `value >= lower && value < (lower + len)`. -/
def inRange (value lower len : UInt64) : Bool := decide (lower ≤ value) && decide (value < lower + len)

/-- `range_end`: the end of a range, `UINT64_MAX` where it would wrap. -/
def rangeEnd (base len : UInt64) : UInt64 :=
  if 0xFFFFFFFFFFFFFFFF - base < len then 0xFFFFFFFFFFFFFFFF else base + len

/-- `ranges_overlap`. -/
def rangesOverlap (baseA lenA baseB lenB : UInt64) : Bool :=
  if lenA = 0 ∨ lenB = 0 then false
  else decide (baseA < rangeEnd baseB lenB) && decide (baseB < rangeEnd baseA lenA)

/-- **Membership in exact arithmetic.** -/
theorem inRange_iff (value lower len : UInt64) :
    inRange value lower len = true ↔
      lower.toNat + len.toNat < 2 ^ 64 ∧ lower.toNat ≤ value.toNat ∧
        value.toNat < lower.toNat + len.toNat := by
  have hl := lower.toNat_lt
  have hn := len.toNat_lt
  simp only [inRange, Bool.and_eq_true, decide_eq_true_eq, UInt64.le_iff_toNat_le,
    UInt64.lt_iff_toNat_lt, UInt64.toNat_add]
  rcases Nat.lt_or_ge (lower.toNat + len.toNat) (2 ^ 64) with h | h
  · rw [Nat.mod_eq_of_lt h]
    exact ⟨fun ⟨h1, h2⟩ => ⟨h, h1, h2⟩, fun ⟨_, h1, h2⟩ => ⟨h1, h2⟩⟩
  · -- the end wraps below the start
    rw [Nat.mod_eq_sub_mod h, Nat.mod_eq_of_lt (by omega)]
    omega

/-- A member of a range lies below its saturated end. -/
theorem lt_rangeEnd_of_inRange {value lower len : UInt64} (h : inRange value lower len = true) :
    value.toNat < (rangeEnd lower len).toNat := by
  obtain ⟨hw, -, hv⟩ := (inRange_iff value lower len).mp h
  have hmax : lower ≤ 0xFFFFFFFFFFFFFFFF := by
    rw [UInt64.le_iff_toNat_le]
    exact Nat.le_of_lt_succ lower.toNat_lt
  unfold rangeEnd
  split
  · rename_i hsat
    rw [UInt64.lt_iff_toNat_lt, UInt64.toNat_sub_of_le _ _ hmax] at hsat
    have e : (0xFFFFFFFFFFFFFFFF : UInt64).toNat = 2 ^ 64 - 1 := rfl
    omega
  · rw [UInt64.toNat_add, Nat.mod_eq_of_lt hw]
    exact hv

/-- **Ranges with a common member overlap.** -/
theorem rangesOverlap_of_inRange {value a la b lb : UInt64} (ha : inRange value a la = true)
    (hb : inRange value b lb = true) : rangesOverlap a la b lb = true := by
  obtain ⟨-, hea, hva⟩ := (inRange_iff value a la).mp ha
  obtain ⟨-, heb, hvb⟩ := (inRange_iff value b lb).mp hb
  have hla : la ≠ 0 := by
    rintro rfl
    simp at hva
    omega
  have hlb : lb ≠ 0 := by
    rintro rfl
    simp at hvb
    omega
  have h1 := lt_rangeEnd_of_inRange ha
  have h2 := lt_rangeEnd_of_inRange hb
  simp only [rangesOverlap, hla, hlb, or_self, if_false, Bool.and_eq_true, decide_eq_true_eq,
    UInt64.lt_iff_toNat_lt]
  omega

theorem rangesOverlap_comm (a la b lb : UInt64) :
    rangesOverlap a la b lb = rangesOverlap b lb a la := by
  simp only [rangesOverlap, Bool.and_comm, or_comm]

end HvisorTool
