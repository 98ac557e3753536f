/-
  File:      HvisorTool/Library/Bits.lean
  Subject:   WORDS AS SETS OF BITS.

  * `bit`, `ext_bit`: the bits of a word, and equality bit by bit;
  * `Within x y`: every bit of `x` is in `y`;
  * `orAll`: the union of a list of words;
  * `halfWord`: a 32-bit value as one half of a word;
  * `toNat_and_not_mask`, `lt_roundUp_iff`: low bits cleared, and rounding up;
  * `oneBit`: a single bit of a 32-bit word, tested, set and cleared;
  * `wordByte`: the bytes of a 32-bit word.
-/
import Mathlib.Algebra.Group.Nat.Defs
import Mathlib.Tactic.Common

namespace Library

variable {x y z : UInt64}

/-- Bit `i` of a word. -/
def bit (x : UInt64) (i : Nat) : Bool := x.toBitVec.getLsbD i

theorem ext_bit (h : ∀ i < 64, bit x i = bit y i) : x = y :=
  UInt64.toBitVec_inj.mp (BitVec.eq_of_getLsbD_eq h)

variable {i k j : Nat}

theorem bit_of_ge (h : 64 ≤ i) : bit x i = false := BitVec.getLsbD_of_ge _ _ h

@[simp] theorem bit_zero (i : Nat) : bit 0 i = false := BitVec.getLsbD_zero

@[simp] theorem bit_or (i : Nat) : bit (x ||| y) i = (bit x i || bit y i) := BitVec.getLsbD_or

@[simp] theorem bit_and (i : Nat) : bit (x &&& y) i = (bit x i && bit y i) := BitVec.getLsbD_and

theorem bit_not (h : i < 64) : bit (~~~x) i = !bit x i := by
  have e := BitVec.getLsbD_not (x := x.toBitVec) (i := i)
  rw [decide_eq_true h, Bool.true_and] at e
  exact e

/-- The lower half of the word. -/
theorem bit_lower (i : Nat) : bit 0xffffffff i = decide (i < 32) := by
  by_cases h : i < 64
  · revert i
    decide
  · rw [bit_of_ge (by omega), decide_eq_false (by omega)]

theorem bit_shiftLeft (h : i < 64) : bit (x <<< 32) i = (decide (32 ≤ i) && bit x (i - 32)) := by
  have e : bit (x <<< 32) i = (x.toBitVec <<< 32).getLsbD i := rfl
  have hlow : (!decide (i < 32)) = decide (32 ≤ i) := by
    rw [← decide_not]
    exact decide_eq_decide.mpr Nat.not_lt
  rw [e, BitVec.getLsbD_shiftLeft, decide_eq_true h, Bool.true_and, hlow]
  rfl

/-- Every bit of `x` is a bit of `y`. -/
def Within (x y : UInt64) : Prop := x &&& ~~~y = 0

instance (x y : UInt64) : Decidable (Within x y) := inferInstanceAs (Decidable (_ = _))

theorem within_iff : Within x y ↔ ∀ i < 64, bit x i = true → bit y i = true := by
  unfold Within
  constructor
  · intro h i hi hx
    have e := congrArg (bit · i) h
    simp only [bit_and, bit_not hi, bit_zero, hx, Bool.true_and, Bool.not_eq_false'] at e
    exact e
  · intro h
    refine ext_bit fun i hi => ?_
    rw [bit_and, bit_not hi, bit_zero]
    cases hx : bit x i with
    | false => rfl
    | true => rw [h i hi hx]; rfl

theorem eq_iff_within : x = y ↔ Within x y ∧ Within y x := by
  constructor
  · rintro rfl
    exact ⟨within_iff.mpr fun _ _ h => h, within_iff.mpr fun _ _ h => h⟩
  · rintro ⟨h, h'⟩
    refine ext_bit fun i hi => ?_
    rw [Bool.eq_iff_iff]
    exact ⟨within_iff.mp h i hi, within_iff.mp h' i hi⟩

/-- Two unions with one word are the same if each of the other words is in both. -/
theorem or_eq_or_iff : x ||| y = x ||| z ↔ Within y (x ||| z) ∧ Within z (x ||| y) := by
  simp only [within_iff, bit_or, Bool.or_eq_true]
  constructor
  · intro h
    have hbit : ∀ i, (bit x i || bit y i) = (bit x i || bit z i) := by
      intro i
      rw [← bit_or, ← bit_or, h]
    refine ⟨fun i _ hy => ?_, fun i _ hz => ?_⟩
    · have e := hbit i
      rw [hy, Bool.or_true] at e
      exact Bool.or_eq_true_iff.mp e.symm
    · have e := hbit i
      rw [hz, Bool.or_true] at e
      exact Bool.or_eq_true_iff.mp e
  · rintro ⟨hy, hz⟩
    refine ext_bit fun i hi => ?_
    rw [bit_or, bit_or, Bool.eq_iff_iff, Bool.or_eq_true, Bool.or_eq_true]
    exact ⟨fun h => h.elim .inl (hy i hi), fun h => h.elim .inl (hz i hi)⟩

theorem within_or_and_iff : Within y (x ||| (y &&& z)) ↔ Within y (x ||| z) := by
  simp only [within_iff, bit_or, bit_and, Bool.or_eq_true, Bool.and_eq_true]
  exact forall₃_congr fun i _ hy => by rw [and_iff_right hy]

theorem within_or_of_disjoint (h : y &&& z = 0) : Within y (x ||| z) ↔ Within y x := by
  simp only [within_iff, bit_or, Bool.or_eq_true]
  refine forall₃_congr fun i _ hy => or_iff_left ?_
  intro hz
  have e := congrArg (bit · i) h
  simp only [bit_and, hy, hz, bit_zero, Bool.and_self, Bool.true_eq_false] at e

theorem and_within (x y : UInt64) : Within (x &&& y) x := by
  rw [within_iff]
  intro i _ h
  rw [bit_and] at h
  exact (Bool.and_eq_true_iff.mp h).1

theorem or_within_iff : Within (x ||| y) z ↔ Within x z ∧ Within y z := by
  simp only [within_iff, bit_or, Bool.or_eq_true]
  exact ⟨fun h => ⟨fun i hi hb => h i hi (.inl hb), fun i hi hb => h i hi (.inr hb)⟩,
    fun h i hi hb => hb.elim (h.1 i hi) (h.2 i hi)⟩

theorem within_or_right (h : Within x y) (z : UInt64) : Within x (z ||| y) := by
  rw [within_iff] at h ⊢
  intro i hi hx
  rw [bit_or, h i hi hx, Bool.or_true]

theorem or_and_word (x y z : UInt64) : (x ||| y) &&& z = (x &&& z) ||| (y &&& z) := by
  refine ext_bit fun i _ => ?_
  simp only [bit_and, bit_or]
  exact Bool.and_or_distrib_right ..

theorem and_ne_zero_of_within {m : UInt64} (h : Within x y) (hx : x &&& m ≠ 0) : y &&& m ≠ 0 := by
  intro hy
  refine hx (ext_bit fun i hi => ?_)
  have e := congrArg (bit · i) hy
  simp only [bit_and, bit_zero] at e ⊢
  cases hb : bit x i with
  | false => rfl
  | true =>
    rw [within_iff.mp h i hi hb] at e
    exact e

/-- The union of a list of words. -/
def orAll : List UInt64 → UInt64
  | [] => 0
  | x :: xs => x ||| orAll xs

theorem orAll_append (xs ys : List UInt64) : orAll (xs ++ ys) = orAll xs ||| orAll ys := by
  induction xs with
  | nil => exact UInt64.zero_or.symm
  | cons x xs ih => rw [List.cons_append, orAll, ih, orAll, UInt64.or_assoc]

theorem bit_orAll (xs : List UInt64) (i : Nat) : bit (orAll xs) i = xs.any (bit · i) := by
  induction xs with
  | nil => exact bit_zero i
  | cons x xs ih => rw [orAll, bit_or, ih, List.any_cons]

/-- **A union is within a word exactly when every member is.** -/
theorem orAll_within_iff {xs : List UInt64} : Within (orAll xs) y ↔ ∀ x ∈ xs, Within x y := by
  simp only [within_iff, bit_orAll, List.any_eq_true]
  exact ⟨fun h x hx i hi hb => h i hi ⟨x, hx, hb⟩, fun h i hi ⟨x, hx, hb⟩ => h x hx i hi hb⟩

theorem within_orAll {xs : List UInt64} (hx : x ∈ xs) : Within x (orAll xs) := by
  rw [within_iff]
  intro i _ hb
  rw [bit_orAll]
  exact List.any_eq_true.mpr ⟨x, hx, hb⟩

/-! ## The two halves of a word -/

/-- The bits of one half of a word. -/
def halfMask (high : Bool) : UInt64 := if high then 0xffffffff00000000 else 0xffffffff

/-- A 32-bit value as bits of its half. -/
def halfWord (high : Bool) (value : UInt64) : UInt64 :=
  if high then (value &&& 0xffffffff) <<< 32 else value &&& 0xffffffff

/-- A value shifted to its half and not cut to it. -/
def shiftedWord (high : Bool) (value : UInt64) : UInt64 := if high then value <<< 32 else value

/-- A value in its half is the shifted value cut to the half. -/
theorem halfWord_eq (high : Bool) (value : UInt64) :
    halfWord high value = shiftedWord high value &&& halfMask high := by
  cases high with
  | false => rfl
  | true =>
    refine ext_bit fun i hi => ?_
    have hmask : halfMask true = (0xffffffff : UInt64) <<< 32 := rfl
    have hlt : i - 32 < 32 := by omega
    simp only [halfWord, shiftedWord, hmask, if_true, bit_and, bit_shiftLeft hi, bit_lower, hlt,
      decide_true, Bool.and_true]
    cases decide (32 ≤ i) <;> simp

theorem halfWord_true (value : UInt64) : halfWord true value = value <<< 32 := by
  refine ext_bit fun i hi => ?_
  have hlt : i - 32 < 32 := by omega
  simp only [halfWord, if_true, bit_shiftLeft hi, bit_and, bit_lower, hlt, decide_true,
    Bool.and_true]

/-- A value of one half has no bit in the other. -/
theorem bit_halfWord {high : Bool} {value : UInt64} (hi : i < 64)
    (h : bit (halfWord high value) i = true) : high = decide (32 ≤ i) := by
  cases high with
  | true =>
    rw [halfWord_true, bit_shiftLeft hi] at h
    exact (Bool.and_eq_true_iff.mp h).1.symm
  | false =>
    have hlow : bit (value &&& 0xffffffff) i = true := h
    rw [bit_and, bit_lower] at hlow
    have hlt : i < 32 := of_decide_eq_true (Bool.and_eq_true_iff.mp hlow).2
    exact (decide_eq_false (by omega)).symm

/-- **The two halves are disjoint.** -/
theorem halfWord_disjoint (value x : UInt64) : halfWord true value &&& halfWord false x = 0 := by
  refine ext_bit fun i hi => ?_
  rw [bit_and, bit_zero, Bool.and_eq_false_iff]
  by_contra h
  rw [not_or, Bool.not_eq_false, Bool.not_eq_false] at h
  exact Bool.noConfusion ((bit_halfWord hi h.1).trans (bit_halfWord hi h.2).symm)

/-- A number of less than 64 bits as a word and back, with the bound as `omega` reads it. -/
theorem toNat_ofNat64 {n : Nat} (h : n < 2 ^ 64) : (UInt64.ofNat n).toNat = n :=
  UInt64.toNat_ofNat_of_lt' h

/-! ## Rounding up to a power of two -/

/-- What clearing the low `k` bits leaves. -/
theorem toNat_and_not_mask {m : UInt64} (hm : m.toNat = 2 ^ k - 1) (hk : k ≤ 64) :
    (x &&& ~~~m).toNat = x.toNat / 2 ^ k * 2 ^ k := by
  have hnot : (~~~m).toNat = 2 ^ 64 - (2 ^ k - 1 + 1) := by
    rw [UInt64.toNat_not, hm]
    have := Nat.two_pow_pos k
    simp only [UInt64.size]
    omega
  have hlt : 2 ^ k - 1 < 2 ^ 64 := by
    have := Nat.pow_le_pow_right (n := 2) (by decide) hk
    have := Nat.two_pow_pos k
    omega
  refine Nat.eq_of_testBit_eq fun i => ?_
  rw [UInt64.toNat_and, hnot, Nat.testBit_and, Nat.testBit_two_pow_sub_succ hlt,
    Nat.testBit_two_pow_sub_one, Nat.testBit_mul_two_pow, Nat.testBit_div_two_pow]
  by_cases hi : i < 64
  · by_cases hik : i < k
    · simp [hi, hik, Nat.not_le.mpr hik]
    · simp [hi, hik, Nat.not_lt.mp hik, Nat.sub_add_cancel]
  · have hx : x.toNat.testBit i = false := Nat.testBit_lt_two_pow
      (Nat.lt_of_lt_of_le x.toNat_lt (Nat.pow_le_pow_right (by decide) (Nat.not_lt.mp hi)))
    by_cases hik : i < k
    · simp [hi, hik, hx, Nat.not_le.mpr hik]
    · simp [hi, hx, Nat.not_lt.mp hik, Nat.sub_add_cancel]

/-- A number is less than itself rounded up exactly if it is not a multiple. -/
theorem lt_roundUp_iff {n p : Nat} (hp : 0 < p) : n < (n + p - 1) / p * p ↔ n % p ≠ 0 := by
  have hdiv := Nat.div_add_mod n p
  have hmod := Nat.mod_lt n hp
  by_cases hz : n % p = 0
  · have hq : (n + p - 1) / p = n / p := by
      refine Nat.div_eq_of_lt_le ?_ ?_
      · rw [Nat.mul_comm]; omega
      · rw [Nat.succ_mul, Nat.mul_comm]; omega
    rw [hq, Nat.mul_comm]
    omega
  · have hq : (n + p - 1) / p = n / p + 1 := by
      refine Nat.div_eq_of_lt_le ?_ ?_
      · rw [Nat.succ_mul, Nat.mul_comm]; omega
      · rw [Nat.succ_mul, Nat.succ_mul, Nat.mul_comm]; omega
    rw [hq, Nat.succ_mul, Nat.mul_comm]
    omega

/-- Rounding up does not make it less. -/
theorem le_roundUp {n p : Nat} (hp : 0 < p) : n ≤ (n + p - 1) / p * p := by
  have hdiv := Nat.div_add_mod (n + p - 1) p
  have hmod := Nat.mod_lt (n + p - 1) hp
  rw [Nat.mul_comm]
  omega

/-! ## Single bits of a 32-bit word -/

/-- `1 << k`. -/
def oneBit (k : Nat) : UInt32 := 1 <<< UInt32.ofNat k

theorem toBitVec_oneBit (h : k < 32) : (oneBit k).toBitVec = BitVec.twoPow 32 k := by
  revert k
  decide

theorem and_oneBit (x : UInt32) (h : k < 32) : (x &&& oneBit k != 0) = x.toBitVec.getLsbD k := by
  have hone : BitVec.twoPow 32 k ≠ 0#32 := by
    revert k
    decide
  have e : (x &&& oneBit k).toBitVec =
      if x.toBitVec.getLsbD k then BitVec.twoPow 32 k else 0#32 := by
    rw [UInt32.toBitVec_and, toBitVec_oneBit h, BitVec.and_twoPow]
  rw [Bool.eq_iff_iff, bne_iff_ne, ne_eq, ← UInt32.toBitVec_inj, e]
  cases x.toBitVec.getLsbD k with
  | true => simpa using hone
  | false => simp

/-- Bit `j` behind setting bit `k`. -/
theorem or_oneBit_and (x : UInt32) (hj : j < 32) (hk : k < 32) :
    ((x ||| oneBit k) &&& oneBit j != 0) = ((x &&& oneBit j != 0) || decide (j = k)) := by
  rw [and_oneBit _ hj, and_oneBit _ hj, UInt32.toBitVec_or, BitVec.getLsbD_or,
    toBitVec_oneBit hk, BitVec.getLsbD_twoPow, decide_eq_true hk, Bool.true_and]
  exact congrArg _ (decide_eq_decide.mpr eq_comm)

/-- Bit `j` behind clearing bit `k`. -/
theorem clear_oneBit_and (x : UInt32) (hj : j < 32) (hk : k < 32) :
    ((x &&& ~~~oneBit k) &&& oneBit j != 0) = ((x &&& oneBit j != 0) && decide (j ≠ k)) := by
  have hne : (!decide (k = j)) = decide (j ≠ k) := by
    rw [← decide_not]
    exact decide_eq_decide.mpr ne_comm
  rw [and_oneBit _ hj, and_oneBit _ hj, UInt32.toBitVec_and, BitVec.getLsbD_and,
    UInt32.toBitVec_not, BitVec.getLsbD_not, toBitVec_oneBit hk, BitVec.getLsbD_twoPow,
    decide_eq_true hj, decide_eq_true hk, Bool.true_and, Bool.true_and, hne]

/-! ## The bytes of a 32-bit word -/

/-- Byte `k` of a word, from the lowest on. -/
def wordByte (w : UInt32) (k : Nat) : UInt8 := (w >>> UInt32.ofNat (k * 8)).toUInt8

theorem toNat_byteShift (h : k < 4) : (UInt32.ofNat (k * 8)).toNat % 32 = k * 8 := by
  rw [UInt32.toNat_ofNat']
  omega

/-- Byte `k` behind a byte that was put in at place `j`. -/
theorem wordByte_or (w : UInt32) (b : UInt8) (hj : j < 4) (hk : k < 4) :
    wordByte (w ||| (b.toUInt32 <<< UInt32.ofNat (j * 8))) k =
      if k = j then wordByte w k ||| b else wordByte w k := by
  have hbits : ∀ i, 8 ≤ i → b.toNat.testBit i = false := fun i hi =>
    Nat.testBit_lt_two_pow (Nat.lt_of_lt_of_le b.toNat_lt (Nat.pow_le_pow_right (by decide) hi))
  unfold wordByte
  refine UInt8.toNat_inj.mp (Nat.eq_of_testBit_eq fun i => ?_)
  rw [UInt32.toNat_toUInt8, UInt32.toNat_shiftRight, UInt32.toNat_or, UInt32.toNat_shiftLeft,
    UInt8.toNat_toUInt32, toNat_byteShift hj, toNat_byteShift hk]
  by_cases hkj : k = j
  · subst hkj
    rw [if_pos rfl]
    simp only [UInt8.toNat_or, UInt32.toNat_toUInt8, UInt32.toNat_shiftRight, toNat_byteShift hk,
      Nat.testBit_mod_two_pow, Nat.testBit_shiftRight, Nat.testBit_or, Nat.testBit_shiftLeft]
    by_cases hi : i < 8
    · have hlow : k * 8 + i < 32 := by omega
      simp [hi, hlow]
    · simp [hi, hbits i (Nat.not_lt.mp hi)]
  · rw [if_neg hkj]
    simp only [UInt32.toNat_toUInt8, UInt32.toNat_shiftRight, toNat_byteShift hk,
      Nat.testBit_mod_two_pow, Nat.testBit_shiftRight, Nat.testBit_or, Nat.testBit_shiftLeft]
    by_cases hi : i < 8
    · by_cases hle : j * 8 ≤ k * 8 + i
      · simp [hbits (k * 8 + i - j * 8) (by omega)]
      · simp [hle]
    · simp [hi]

end Library
