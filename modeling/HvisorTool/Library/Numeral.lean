/-
  File:      HvisorTool/Library/Numeral.lean
  Subject:   INTEGERS IN C NOTATION, and the scan that `strtol` and its like make of a text
             in base 0.

  * `Unsigned`: decimal, octal and hexadecimal numerals, with the number each stands for;
  * `Written`: such a numeral behind white space and a sign;
  * `scan`: white space, sign, base and digits, taken off the front of a text;
  * `scan_iff`: the scan uses up a text exactly if it is written so, and finds its number.
-/
import Mathlib.Data.List.TakeWhile
import Mathlib.Tactic.Common

namespace Library

namespace Numeral

/-! ## 1. Digits -/

/-- The value of a digit; 16 for everything that is none. -/
def digitVal (c : Char) : Nat :=
  if '0' ≤ c ∧ c ≤ '9' then c.toNat - 48
  else if 'a' ≤ c ∧ c ≤ 'f' then c.toNat - 87
  else if 'A' ≤ c ∧ c ≤ 'F' then c.toNat - 55
  else 16

def isDigit (base : Nat) (c : Char) : Bool := digitVal c < base

/-- The number that digits stand for. -/
def value (base : Nat) (ds : List Char) : Nat := ds.foldl (fun n c => n * base + digitVal c) 0

/-- `isspace`. -/
def isSpace (c : Char) : Bool :=
  c == ' ' || c == '\t' || c == '\n' || c == '\x0b' || c == '\x0c' || c == '\r'

/-- The letter behind the 0 of a hexadecimal numeral. -/
def isHexMark (c : Char) : Bool := c == 'x' || c == 'X'

theorem value_zero_cons (base : Nat) (ds : List Char) : value base ('0' :: ds) = value base ds := by
  unfold value
  rw [List.foldl_cons, Nat.zero_mul]
  rfl

theorem not_isDigit_of_hexMark {base : Nat} {c : Char} (hbase : base ≤ 16) (h : isHexMark c = true) :
    isDigit base c = false := by
  have hval : digitVal c = 16 := by
    rcases Bool.or_eq_true_iff.mp h with hx | hx <;> rw [eq_of_beq hx] <;> rfl
  exact decide_eq_false (by omega)

theorem not_isDigit_of_isSpace {base : Nat} {c : Char} (hbase : base ≤ 16) (h : isSpace c = true) :
    isDigit base c = false := by
  have hval : digitVal c = 16 := by
    simp only [isSpace, Bool.or_eq_true, beq_iff_eq] at h
    rcases h with ((((rfl | rfl) | rfl) | rfl) | rfl) | rfl <;> decide
  exact decide_eq_false (by omega)

/-! ## 2. The notation -/

/-- Numerals without a sign. -/
inductive Unsigned : List Char → Nat → Prop where
  | dec (d : Char) (ds : List Char) : d ≠ '0' → (∀ c ∈ d :: ds, isDigit 10 c = true) →
      Unsigned (d :: ds) (value 10 (d :: ds))
  | oct (ds : List Char) : (∀ c ∈ ds, isDigit 8 c = true) → Unsigned ('0' :: ds) (value 8 ds)
  | hex (x : Char) (ds : List Char) : isHexMark x = true → ds ≠ [] →
      (∀ c ∈ ds, isDigit 16 c = true) → Unsigned ('0' :: x :: ds) (value 16 ds)

/-- The ways to write a sign. -/
inductive Signed : Bool → List Char → List Char → Prop where
  | none (n : List Char) : Signed false n n
  | plus (n : List Char) : Signed false n ('+' :: n)
  | minus (n : List Char) : Signed true n ('-' :: n)

/-- White space, a sign and a numeral. -/
def Written (s : List Char) (neg : Bool) (mag : Nat) : Prop :=
  ∃ w n t, s = w ++ t ∧ (∀ c ∈ w, isSpace c = true) ∧ Signed neg n t ∧ Unsigned n mag

/-- A numeral starts with a digit. -/
theorem Unsigned.head {n : List Char} {mag : Nat} (h : Unsigned n mag) :
    ∃ d ds, n = d :: ds ∧ isDigit 10 d = true := by
  cases h with
  | dec d ds _ hds => exact ⟨d, ds, rfl, hds d List.mem_cons_self⟩
  | oct ds _ => exact ⟨'0', ds, rfl, rfl⟩
  | hex x ds _ _ _ => exact ⟨'0', x :: ds, rfl, rfl⟩

/-! ## 3. The scan -/

def splitSign : List Char → Bool × List Char
  | [] => (false, [])
  | c :: s => if c = '-' then (true, s) else if c = '+' then (false, s) else (false, c :: s)

/-- The base behind a 0; a mark without a digit behind it does not count. -/
def splitZero : List Char → Nat × List Char
  | x :: d :: t => if isHexMark x && isDigit 16 d then (16, d :: t) else (8, '0' :: x :: d :: t)
  | s => (8, '0' :: s)

/-- The base, and the text from the first digit on. -/
def splitBase : List Char → Nat × List Char
  | [] => (10, [])
  | c :: s => if c = '0' then splitZero s else (10, c :: s)

/-- What is found at the front of a text, and what is left of it. -/
structure Scan where
  neg : Bool
  base : Nat
  digits : List Char
  rest : List Char
  deriving DecidableEq, Repr

def scan (s : List Char) : Scan :=
  let signed := splitSign (s.dropWhile isSpace)
  let based := splitBase signed.2
  { neg := signed.1, base := based.1
    digits := based.2.takeWhile (isDigit based.1), rest := based.2.dropWhile (isDigit based.1) }

/-- The number found. -/
def Scan.mag (r : Scan) : Nat := value r.base r.digits

/-- The scan found digits and used up the text. -/
def Scan.Whole (r : Scan) : Prop := r.digits ≠ [] ∧ r.rest = []

instance (r : Scan) : Decidable r.Whole := inferInstanceAs (Decidable (_ ∧ _))

theorem splitSign_signed (t : List Char) : Signed (splitSign t).1 (splitSign t).2 t := by
  cases t with
  | nil => exact .none []
  | cons c s =>
    by_cases hminus : c = '-'
    · rw [splitSign, if_pos hminus, hminus]
      exact .minus s
    · by_cases hplus : c = '+'
      · rw [splitSign, if_neg hminus, if_pos hplus, hplus]
        exact .plus s
      · rw [splitSign, if_neg hminus, if_neg hplus]
        exact .none _

/-- The sign before a digit is the one that is found. -/
theorem Signed.split {neg : Bool} {n t : List Char} (h : Signed neg n t)
    (hn : ∃ d ds, n = d :: ds ∧ isDigit 10 d = true) : splitSign t = (neg, n) := by
  cases h with
  | plus n | minus n => rfl
  | none n =>
    obtain ⟨d, ds, rfl, hd⟩ := hn
    have hminus : d ≠ '-' := by
      intro heq
      subst heq
      cases hd
    have hplus : d ≠ '+' := by
      intro heq
      subst heq
      cases hd
    rw [splitSign, if_neg hminus, if_neg hplus]

/-- The base of a numeral is found, with all its digits. -/
theorem Unsigned.split {n : List Char} {mag : Nat} (h : Unsigned n mag) :
    (∀ c ∈ (splitBase n).2, isDigit (splitBase n).1 c = true) ∧ (splitBase n).2 ≠ [] ∧
      mag = value (splitBase n).1 (splitBase n).2 := by
  cases h with
  | dec d ds hd hds =>
    rw [splitBase, if_neg hd]
    exact ⟨hds, List.cons_ne_nil _ _, rfl⟩
  | oct ds hds =>
    have hall : ∀ c ∈ '0' :: ds, isDigit 8 c = true := List.forall_mem_cons.mpr ⟨rfl, hds⟩
    have hsplit : splitBase ('0' :: ds) = (8, '0' :: ds) := by
      cases ds with
      | nil => rfl
      | cons x t =>
        cases t with
        | nil => rfl
        | cons d t =>
          have hmark : isHexMark x = false := by
            by_contra hx
            have hno := not_isDigit_of_hexMark (by decide : 8 ≤ 16) (Bool.of_not_eq_false hx)
            rw [hds x List.mem_cons_self] at hno
            cases hno
          simp [splitBase, splitZero, hmark]
    rw [hsplit]
    exact ⟨hall, List.cons_ne_nil _ _, (value_zero_cons 8 ds).symm⟩
  | hex x ds hx hne hds =>
    cases ds with
    | nil => exact absurd rfl hne
    | cons d t =>
      have hsplit : splitBase ('0' :: x :: d :: t) = (16, d :: t) := by
        simp [splitBase, splitZero, hx, hds d List.mem_cons_self]
      rw [hsplit]
      exact ⟨hds, List.cons_ne_nil _ _, rfl⟩

/-- Digits in the base found make up a numeral. -/
theorem unsigned_of_split {n : List Char} (hne : (splitBase n).2 ≠ [])
    (hall : ∀ c ∈ (splitBase n).2, isDigit (splitBase n).1 c = true) :
    Unsigned n (value (splitBase n).1 (splitBase n).2) := by
  cases n with
  | nil => exact absurd rfl hne
  | cons c s =>
    by_cases hzero : c = '0'
    swap
    · rw [splitBase, if_neg hzero] at hall ⊢
      exact .dec c s hzero hall
    subst hzero
    have hoct : (∀ c ∈ '0' :: s, isDigit 8 c = true) →
        Unsigned ('0' :: s) (value 8 ('0' :: s)) := by
      intro hds
      rw [value_zero_cons]
      exact .oct s fun c hc => hds c (List.mem_cons_of_mem _ hc)
    cases s with
    | nil => exact hoct hall
    | cons x t =>
      cases t with
      | nil => exact hoct hall
      | cons d t =>
        by_cases hmark : (isHexMark x && isDigit 16 d) = true
        · have hsplit : splitBase ('0' :: x :: d :: t) = (16, d :: t) := by
            simp only [splitBase, splitZero, hmark, if_true]
          rw [hsplit] at hall ⊢
          exact .hex x (d :: t) (Bool.and_eq_true_iff.mp hmark).1 (List.cons_ne_nil _ _) hall
        · have hsplit : splitBase ('0' :: x :: d :: t) = (8, '0' :: x :: d :: t) := by
            simp only [splitBase, splitZero, hmark, if_true, if_false, Bool.false_eq_true]
          rw [hsplit] at hall ⊢
          exact hoct hall

/-- **The scan uses up a text exactly if it is an integer in C notation**, and finds its sign
    and its number. -/
theorem scan_iff (s : List Char) (neg : Bool) (mag : Nat) :
    Written s neg mag ↔ (scan s).Whole ∧ (scan s).neg = neg ∧ (scan s).mag = mag := by
  constructor
  · intro h
    obtain ⟨w, n, t, rfl, hw, hsigned, hn⟩ := h
    -- what follows the white space is no white space
    have hdrop : (w ++ t).dropWhile isSpace = t := by
      rw [List.dropWhile_append_of_pos hw]
      have hhead : ∀ c u, t = c :: u → isSpace c = false := by
        intro c u ht
        by_contra hspace
        have hc := Bool.of_not_eq_false hspace
        obtain ⟨d, ds, hd, hdigit⟩ := hn.head
        cases hsigned with
        | none n =>
          rw [hd] at ht
          cases ht
          rw [not_isDigit_of_isSpace (by decide : 10 ≤ 16) hc] at hdigit
          cases hdigit
        | plus n =>
          cases ht
          cases hc
        | minus n =>
          cases ht
          cases hc
      cases t with
      | nil => rfl
      | cons c u => rw [List.dropWhile_cons_of_neg (by rw [hhead c u rfl]; decide)]
    obtain ⟨hall, hne, hmag⟩ := hn.split
    have hscan : scan (w ++ t) = ⟨neg, (splitBase n).1, (splitBase n).2, []⟩ := by
      unfold scan
      rw [hdrop, hsigned.split hn.head]
      dsimp only
      rw [List.takeWhile_eq_self_iff.mpr hall, List.dropWhile_eq_nil_iff.mpr hall]
    rw [hscan]
    exact ⟨⟨hne, rfl⟩, rfl, hmag.symm⟩
  · intro h
    obtain ⟨⟨hdigits, hrest⟩, hneg, hmag⟩ := h
    have hsplit : s.takeWhile isSpace ++ s.dropWhile isSpace = s := List.takeWhile_append_dropWhile
    have hspaces : ∀ c ∈ s.takeWhile isSpace, isSpace c = true := fun c hc =>
      List.mem_takeWhile_imp hc
    have hsigned := splitSign_signed (s.dropWhile isSpace)
    have hall : ∀ c ∈ (splitBase (splitSign (s.dropWhile isSpace)).2).2,
        isDigit (splitBase (splitSign (s.dropWhile isSpace)).2).1 c = true :=
      List.dropWhile_eq_nil_iff.mp hrest
    have htake : (scan s).digits = (splitBase (splitSign (s.dropWhile isSpace)).2).2 :=
      List.takeWhile_eq_self_iff.mpr hall
    have hmagnitude : (scan s).mag = value (splitBase (splitSign (s.dropWhile isSpace)).2).1
        (splitBase (splitSign (s.dropWhile isSpace)).2).2 := by
      rw [Scan.mag, htake]
      rfl
    rw [htake] at hdigits
    refine ⟨_, (splitSign (s.dropWhile isSpace)).2, _, hsplit.symm, hspaces, ?_, ?_⟩
    · rw [← hneg]
      exact hsigned
    · rw [← hmag, hmagnitude]
      exact unsigned_of_split hdigits hall

/-- A text stands for one number. -/
theorem Written.unique {s : List Char} {neg neg' : Bool} {mag mag' : Nat} (h : Written s neg mag)
    (h' : Written s neg' mag') : neg = neg' ∧ mag = mag' := by
  obtain ⟨-, hneg, hmag⟩ := (scan_iff s neg mag).mp h
  obtain ⟨-, hneg', hmag'⟩ := (scan_iff s neg' mag').mp h'
  exact ⟨hneg.symm.trans hneg', hmag.symm.trans hmag'⟩

end Numeral

end Library
