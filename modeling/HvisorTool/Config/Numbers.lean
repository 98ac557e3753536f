/-
  File:      HvisorTool/Config/Numbers.lean
  Subject:   NUMBERS OF A CONFIGURATION: `parse_json_number` and the functions that
             `DEFINE_PARSE_JSON_FUNC` makes of it.

  A number comes as a JSON number or as a string. Of the first the tool sees `valueint`; of the
  second, what `strtoumax` makes of it, which negates behind a minus sign without an error.

  * `strtoumax`, `parseJsonNumber`, `parseJsonFunc` and its members;
  * `Json.Denotes`: the integer that an item stands for; `NumberRead`: it is read exactly;
  * `config_number_read_iff`: which items are read exactly, for every target type.
-/
import HvisorTool.Config.Json
import HvisorTool.Library.Bits
import HvisorTool.Library.Numeral

namespace HvisorTool

open Library

/-! ## 1. `strtoumax` -/

/-- `UINTMAX_MAX`. -/
def uintmaxMax : Nat := 2 ^ 64 - 1

/-- What `strtoumax` returns, whether `errno` is `ERANGE`, and the text at `endptr`. -/
structure StrtoumaxResult where
  val : UInt64
  erange : Bool
  endptr : List Char
  deriving DecidableEq, Repr

/-- `strtoumax(str, &endptr, 0)`. -/
def strtoumax (str : List Char) : StrtoumaxResult :=
  let r := Numeral.scan str
  if r.digits = [] then ⟨0, false, str⟩
  else if r.mag > uintmaxMax then ⟨UInt64.ofNat uintmaxMax, true, r.rest⟩
  else ⟨if r.neg then 0 - UInt64.ofNat r.mag else UInt64.ofNat r.mag, false, r.rest⟩

/-! ## 2. `json_parse.c` -/

/-- `parse_json_number_string`; `none` is `return -1`. -/
def parseJsonNumberString (jsonStr : Json) : Option UInt64 :=
  match jsonStr.valuestring with
  | none => none
  | some str =>
    let r := strtoumax str
    if r.erange then none
    else if r.endptr = str then none
    else if r.endptr ≠ [] then none
    else some r.val

/-- `parse_json_number`. -/
def parseJsonNumber : Option Json → Option UInt64
  | none => none
  | some (.number q) =>
    if valueint q < 0 then none else some (UInt64.ofNat (valueint q).toNat)
  | some (.string s) => parseJsonNumberString (.string s)
  | some _ => none

/-- `DEFINE_PARSE_JSON_FUNC`: what is returned, and `*result` behind it; `none` is `NULL`. -/
def parseJsonFunc (maxVal : UInt64) (jsonItem : Option Json) (result : Option UInt64) :
    Int × Option UInt64 :=
  match result with
  | none => (-1, none)
  | some old =>
    match parseJsonNumber jsonItem with
    | none => (-1, some old)
    | some val => if val > maxVal then (-1, some old) else (0, some val)

def parseJsonSize : Option Json → Option UInt64 → Int × Option UInt64 :=
  parseJsonFunc 0xffffffffffffffff

def parseJsonAddress : Option Json → Option UInt64 → Int × Option UInt64 :=
  parseJsonFunc 0xffffffffffffffff

def parseJsonU64 : Option Json → Option UInt64 → Int × Option UInt64 :=
  parseJsonFunc 0xffffffffffffffff

def parseJsonU32 : Option Json → Option UInt64 → Int × Option UInt64 :=
  parseJsonFunc 0xffffffff

def parseJsonU8 : Option Json → Option UInt64 → Int × Option UInt64 :=
  parseJsonFunc 0xff

def parseJsonLinuxU64 : Option Json → Option UInt64 → Int × Option UInt64 :=
  parseJsonFunc 0xffffffffffffffff

def parseJsonLinuxU32 : Option Json → Option UInt64 → Int × Option UInt64 :=
  parseJsonFunc 0xffffffff

def parseJsonLinuxU8 : Option Json → Option UInt64 → Int × Option UInt64 :=
  parseJsonFunc 0xff

/-- The functions of the family. -/
inductive JsonTarget where
  | size | address | u64 | u32 | u8 | linuxU64 | linuxU32 | linuxU8
  deriving DecidableEq, Repr

namespace JsonTarget

def parse : JsonTarget → Option Json → Option UInt64 → Int × Option UInt64
  | .size => parseJsonSize
  | .address => parseJsonAddress
  | .u64 => parseJsonU64
  | .u32 => parseJsonU32
  | .u8 => parseJsonU8
  | .linuxU64 => parseJsonLinuxU64
  | .linuxU32 => parseJsonLinuxU32
  | .linuxU8 => parseJsonLinuxU8

/-- The greatest value of the target's type. -/
def max : JsonTarget → UInt64
  | .size | .address | .u64 | .linuxU64 => 0xffffffffffffffff
  | .u32 | .linuxU32 => 0xffffffff
  | .u8 | .linuxU8 => 0xff

theorem parse_eq (target : JsonTarget) : target.parse = parseJsonFunc target.max := by
  cases target <;> rfl

/-- What a caller finds in `*result` behind a return of 0. -/
def read (target : JsonTarget) (item : Option Json) : Option UInt64 :=
  match target.parse item (some 0) with
  | (0, result) => result
  | _ => none

end JsonTarget

/-! ## 3. What a string is read as -/

variable {str s : List Char} {q : ℚ}

theorem strtoumax_whole {neg : Bool} {mag : Nat} (h : Numeral.Written str neg mag)
    (hmag : mag ≤ uintmaxMax) :
    strtoumax str =
        ⟨if neg then 0 - UInt64.ofNat mag else UInt64.ofNat mag, false, []⟩ ∧ str ≠ [] := by
  obtain ⟨⟨hdigits, hrest⟩, hneg, hval⟩ := (Numeral.scan_iff str neg mag).mp h
  constructor
  · unfold strtoumax
    dsimp only
    rw [if_neg hdigits, hval, if_neg (Nat.not_lt.mpr hmag), hneg, hrest]
  · intro hnil
    subst hnil
    exact hdigits rfl

variable {val : UInt64} {item : Option Json}

/-- **A string is read if it is an integer in C notation of at most 64 bits**, and a minus sign
    negates it modulo 2^64. -/
theorem parseJsonNumberString_iff (hs : Json.valuestring (.string s) = some str) :
    parseJsonNumberString (.string s) = some val ↔
      ∃ neg mag, Numeral.Written str neg mag ∧ mag ≤ uintmaxMax ∧
        val = if neg then 0 - UInt64.ofNat mag else UInt64.ofNat mag := by
  have hparse : parseJsonNumberString (.string s) =
      (if (strtoumax str).erange then none
      else if (strtoumax str).endptr = str then none
      else if (strtoumax str).endptr ≠ [] then none
      else some (strtoumax str).val) := by
    unfold parseJsonNumberString
    rw [hs]
  rw [hparse]
  constructor
  · intro h
    split at h
    · cases h
    next hrange =>
    split at h
    · cases h
    next hmoved =>
    split at h
    · cases h
    next hend =>
    have hval := Option.some.inj h
    rw [not_not] at hend
    -- digits were found, and nothing is left
    have hdigits : (Numeral.scan str).digits ≠ [] := by
      intro hnone
      refine hmoved ?_
      unfold strtoumax
      dsimp only
      rw [if_pos hnone]
    unfold strtoumax at hrange hend hval
    dsimp only at hrange hend hval
    rw [if_neg hdigits] at hrange hend hval
    by_cases hbig : (Numeral.scan str).mag > uintmaxMax
    · rw [if_pos hbig] at hrange
      exact absurd rfl hrange
    rw [if_neg hbig] at hend hval
    have hwritten := (Numeral.scan_iff str _ _).mpr ⟨⟨hdigits, hend⟩, rfl, rfl⟩
    exact ⟨_, _, hwritten, Nat.not_lt.mp hbig, hval.symm⟩
  · intro h
    obtain ⟨neg, mag, hwritten, hmag, hval⟩ := h
    obtain ⟨hrun, hne⟩ := strtoumax_whole hwritten hmag
    rw [hrun, hval]
    simp [Ne.symm hne]

/-! ## 4. What an item stands for -/

/-- The integer that an item stands for. -/
def Json.Denotes : Option Json → Int → Prop
  | some (.number q), v => q = v
  | some (.string s), v => ∃ neg mag, Numeral.Written (s.takeWhile (· != '\x00')) neg mag ∧
      v = if neg then -(mag : Int) else mag
  | _, _ => False

/-- **An item is read exactly**: an integer of the type's range is stored, and everything else
    is refused and leaves the target as it was. -/
structure NumberRead (target : JsonTarget) (item : Option Json) : Prop where
  accepts : ∀ v : Int, Json.Denotes item v → 0 ≤ v → v ≤ target.max.toNat → ∀ old,
    target.parse item (some old) = (0, some (UInt64.ofNat v.toNat))
  refuses : (∀ v : Int, Json.Denotes item v → ¬ (0 ≤ v ∧ v ≤ target.max.toNat)) → ∀ old,
    target.parse item (some old) = (-1, some old)

/-- The items that are. -/
def NumberFits (max : UInt64) : Option Json → Prop
  | some (.number q) =>
    q ≤ -1 ∨ (∃ v : Int, q = v ∧ 0 ≤ v ∧ v ≤ intMax) ∨
      (max.toNat : Int) < intMax ∧ (max.toNat : ℚ) + 1 ≤ q
  | some (.string s) => ∀ mag, Numeral.Written (s.takeWhile (· != '\x00')) true mag →
      1 ≤ mag → mag < 2 ^ 64 → max.toNat < 2 ^ 64 - mag
  | _ => True

variable (target : JsonTarget)

theorem parse_refused (h : parseJsonNumber item = none) (old : UInt64) :
    target.parse item (some old) = (-1, some old) := by
  rw [target.parse_eq, parseJsonFunc, h]

theorem parse_value (h : parseJsonNumber item = some val) (old : UInt64) :
    target.parse item (some old) = if val > target.max then (-1, some old) else (0, some val) := by
  rw [target.parse_eq, parseJsonFunc, h]

/-- The value of an item that is read is stored if the type can hold it. -/
theorem parse_stored (h : parseJsonNumber item = some val) (hle : val.toNat ≤ target.max.toNat)
    (old : UInt64) : target.parse item (some old) = (0, some val) := by
  rw [parse_value target h, if_neg]
  exact fun hgt => absurd (UInt64.lt_iff_toNat_lt.mp hgt) (Nat.not_lt.mpr hle)

theorem parse_tooBig (h : parseJsonNumber item = some val) (hgt : target.max.toNat < val.toNat)
    (old : UInt64) : target.parse item (some old) = (-1, some old) := by
  rw [parse_value target h, if_pos (UInt64.lt_iff_toNat_lt.mpr hgt)]

/-- What is read is the number of the item, if the type can hold it. -/
theorem JsonTarget.read_eq_some {target : JsonTarget} :
    target.read item = some val ↔ parseJsonNumber item = some val ∧ val ≤ target.max := by
  unfold JsonTarget.read
  cases hparse : parseJsonNumber item with
  | none =>
    rw [parse_refused target hparse]
    simp
  | some v =>
    rw [parse_value target hparse]
    by_cases hmax : v > target.max
    · rw [if_pos hmax]
      constructor
      · intro h
        cases h
      · rintro ⟨h, hle⟩
        cases h
        exact absurd hle (UInt64.not_le.mpr hmax)
    · rw [if_neg hmax]
      constructor
      · intro h
        cases h
        exact ⟨rfl, UInt64.not_lt.mp hmax⟩
      · exact fun h => h.1

theorem JsonTarget.read_none : target.read none = none := by
  unfold JsonTarget.read
  rw [parse_refused target rfl]
  rfl

/-! ## 5. JSON numbers -/

theorem parseJsonNumber_negative (h : q ≤ -1) : parseJsonNumber (some (.number q)) = none := by
  simp [parseJsonNumber, valueint_neg_iff.mpr h]

/-- A number that is not refused as negative is read as its `valueint`. -/
theorem parseJsonNumber_number (h : ¬ q ≤ -1) :
    ∃ val : UInt64, parseJsonNumber (some (.number q)) = some val ∧
      (val.toNat : Int) = valueint q := by
  have hnonneg : ¬ valueint q < 0 := fun hneg => h (valueint_neg_iff.mp hneg)
  have hle : valueint q ≤ 2147483647 := valueint_le q
  refine ⟨UInt64.ofNat (valueint q).toNat, by simp only [parseJsonNumber, if_neg hnonneg], ?_⟩
  rw [toNat_ofNat64 (by omega)]
  omega

theorem number_read_of_fits
    (h : NumberFits target.max (some (.number q))) : NumberRead target (some (.number q)) := by
  rcases h with hneg | ⟨v, rfl, hnonneg, hle⟩ | ⟨hmax, hbig⟩
  · refine ⟨?_, fun _ old => parse_refused target (parseJsonNumber_negative hneg) old⟩
    intro v hv hnonneg
    have hq : (v : ℚ) ≤ -1 := by rw [← show q = v from hv]; exact hneg
    have hv' : v ≤ -1 := by exact_mod_cast hq
    omega
  · have hq : ¬ (v : ℚ) ≤ -1 := by
      intro hq
      have hv' : v ≤ -1 := by exact_mod_cast hq
      omega
    obtain ⟨val, hval, hnat⟩ := parseJsonNumber_number hq
    rw [valueint_intCast hnonneg hle] at hnat
    constructor
    · intro w hw _ hwmax old
      have hwv : v = w := Int.cast_injective (show (v : ℚ) = w from hw)
      subst hwv
      rw [parse_stored target hval (by omega), ← hnat, Int.toNat_natCast, UInt64.ofNat_toNat]
    · intro hnone old
      have hout := hnone v rfl
      exact parse_tooBig target hval (by omega) old
  · have hq : ¬ q ≤ -1 := by
      intro hq
      have : (0 : ℚ) ≤ target.max.toNat := Nat.cast_nonneg _
      linarith
    obtain ⟨val, hval, hnat⟩ := parseJsonNumber_number hq
    have hgt := (lt_valueint_iff target.max.toNat).mpr ⟨hmax, hbig⟩
    refine ⟨?_, fun _ old => parse_tooBig target hval (by omega) old⟩
    intro v hv _ hvmax
    have hle : (v : ℚ) ≤ target.max.toNat := by exact_mod_cast hvmax
    rw [← show q = v from hv] at hle
    linarith

theorem number_fits_of_read
    (h : NumberRead target (some (.number q))) : NumberFits target.max (some (.number q)) := by
  by_cases hq : q ≤ -1
  · exact .inl hq
  obtain ⟨val, hval, hnat⟩ := parseJsonNumber_number hq
  by_cases hgt : target.max.toNat < val.toNat
  · exact .inr (.inr ((lt_valueint_iff target.max.toNat).mp (by omega)))
  have hstored := parse_stored target hval (Nat.not_lt.mp hgt) 0
  -- what is stored must be an integer that the item stands for
  by_cases hdenotes : ∃ v : Int, q = v ∧ 0 ≤ v ∧ v ≤ target.max.toNat
  · obtain ⟨v, hv, hnonneg, hle⟩ := hdenotes
    have haccepted := h.accepts v hv hnonneg hle 0
    rw [hstored] at haccepted
    have hsame : val = UInt64.ofNat v.toNat := Option.some.inj (Prod.mk.inj haccepted).2
    have hlt := target.max.toNat_lt
    have hvnat : val.toNat = v.toNat := by
      rw [hsame, toNat_ofNat64 (by omega)]
    have hint := valueint_le q
    exact .inr (.inl ⟨v, hv, hnonneg, by omega⟩)
  · have hrefused := h.refuses (fun v hv hin => hdenotes ⟨v, hv, hin⟩) 0
    rw [hstored] at hrefused
    cases hrefused

/-! ## 6. Strings -/

/-- The number that a string of at most 64 bits is read as. -/
theorem parseJsonNumber_string {neg : Bool} {mag : Nat}
    (h : Numeral.Written (s.takeWhile (· != '\x00')) neg mag) (hmag : mag ≤ uintmaxMax) :
    ∃ val : UInt64, parseJsonNumber (some (.string s)) = some val ∧
      val.toNat = if neg ∧ 1 ≤ mag then 2 ^ 64 - mag else mag := by
  refine ⟨_, (parseJsonNumberString_iff rfl).mpr ⟨neg, mag, h, hmag, rfl⟩, ?_⟩
  unfold uintmaxMax at hmag
  have hnat : (UInt64.ofNat mag).toNat = mag := toNat_ofNat64 (by omega)
  cases neg with
  | false => simp [hnat]
  | true =>
    simp only [if_true, true_and, UInt64.toNat_sub, hnat, UInt64.toNat_zero]
    split <;> omega

theorem string_read_of_fits
    (h : NumberFits target.max (some (.string s))) : NumberRead target (some (.string s)) := by
  have hlt := target.max.toNat_lt
  constructor
  · intro v hv hnonneg hle old
    obtain ⟨neg, mag, hwritten, hval⟩ := hv
    -- behind a minus sign only 0 is in range
    have hmag : v = mag ∧ ¬ (neg ∧ 1 ≤ mag) := by
      cases neg <;> simp only [if_true, if_false, Bool.false_eq_true] at hval <;> simp <;> omega
    obtain ⟨val, hparse, hnat⟩ := parseJsonNumber_string hwritten (by unfold uintmaxMax; omega)
    rw [if_neg hmag.2] at hnat
    rw [parse_stored target hparse (by omega), hmag.1, Int.toNat_natCast, ← hnat,
      UInt64.ofNat_toNat]
  · intro hnone old
    cases hparse : parseJsonNumber (some (.string s)) with
    | none => exact parse_refused target hparse old
    | some val =>
      obtain ⟨neg, mag, hwritten, hmag, -⟩ := (parseJsonNumberString_iff rfl).mp hparse
      obtain ⟨val', hparse', hnat⟩ := parseJsonNumber_string hwritten hmag
      rw [hparse] at hparse'
      cases hparse'
      refine parse_tooBig target hparse ?_ old
      have hout := hnone _ ⟨neg, mag, hwritten, rfl⟩
      rw [hnat]
      cases neg with
      | false =>
        simp only [Bool.false_eq_true, false_and, if_false] at hout ⊢
        omega
      | true =>
        have hpos : 1 ≤ mag := by
          simp only [if_true] at hout
          omega
        rw [if_pos ⟨rfl, hpos⟩]
        unfold uintmaxMax at hmag
        exact h mag hwritten hpos (by omega)

theorem string_fits_of_read
    (h : NumberRead target (some (.string s))) : NumberFits target.max (some (.string s)) := by
  intro mag hwritten hpos hlt
  obtain ⟨val, hparse, hnat⟩ := parseJsonNumber_string hwritten (by unfold uintmaxMax; omega)
  rw [if_pos ⟨rfl, hpos⟩] at hnat
  rw [← hnat]
  refine Nat.not_le.mp fun hle => ?_
  -- a negative integer that fits as its two's complement is stored, and not refused
  have hrefused := h.refuses (fun v hv hin => by
    obtain ⟨neg, mag', hwritten', rfl⟩ := hv
    obtain ⟨rfl, rfl⟩ := hwritten.unique hwritten'
    simp only [if_true] at hin
    omega) 0
  rw [parse_stored target hparse hle] at hrefused
  cases hrefused

/-- An integer that an item stands for is read as itself, if what is read is below `INT_MAX`. -/
theorem Json.Denotes.parse_eq {n : Nat}
    (h : Json.Denotes item n) (hval : parseJsonNumber item = some val)
    (hlt : (val.toNat : Int) < intMax) : val.toNat = n := by
  rcases item with _ | (_ | b | q | s | items | members)
  case some.number =>
      have hq : q = ((n : Int) : ℚ) := h
      have hneg : ¬ q ≤ -1 := by
        rw [hq]
        intro hle
        have : (n : Int) ≤ -1 := by exact_mod_cast hle
        omega
      obtain ⟨val', hval', hnat⟩ := parseJsonNumber_number hneg
      rw [hval] at hval'
      cases hval'
      rw [hq] at hnat
      unfold HvisorTool.valueint at hnat
      rw [truncate_intCast] at hnat
      unfold intMin intMax at *
      omega
  case some.string =>
      obtain ⟨neg, mag, hwritten, hn⟩ := h
      obtain ⟨neg', mag', hwritten', hmag, -⟩ := (parseJsonNumberString_iff rfl).mp hval
      obtain ⟨rfl, rfl⟩ := hwritten.unique hwritten'
      obtain ⟨val', hval', hnat⟩ := parseJsonNumber_string hwritten hmag
      rw [hval] at hval'
      cases hval'
      cases neg <;> simp only [if_true, if_false, Bool.false_eq_true, true_and, false_and] at hn hnat
      · omega
      · rw [if_neg (by omega)] at hnat
        omega
  all_goals cases h

/-! ## 7. Every item -/

theorem other_read (hparse : parseJsonNumber item = none)
    (hdenotes : ∀ v, ¬ Json.Denotes item v) : NumberRead target item :=
  ⟨fun v hv => absurd hv (hdenotes v), fun _ old => parse_refused target hparse old⟩

/-- **Numbers are read exactly** up to two things: a JSON number is cut down to an `int`, so a
    fraction and a number above `INT_MAX` are read as another number unless the type is too
    small for it too; and a string with a minus sign is read modulo 2^64, unless the type is too
    small for what comes out. -/
theorem config_number_read_iff (target : JsonTarget) (item : Option Json) :
    NumberRead target item ↔ NumberFits target.max item := by
  rcases item with _ | (_ | b | q | s | items | members)
  case some.number =>
      exact ⟨number_fits_of_read target, number_read_of_fits target⟩
  case some.string =>
      exact ⟨string_fits_of_read target, string_read_of_fits target⟩
  all_goals exact ⟨fun _ => trivial, fun _ => other_read target rfl fun _ h => h⟩

/-- 2^31 is read as 2^31 - 1, and `"-1"` as 2^64 - 1. -/
theorem two_numbers_misread :
    parseJsonLinuxU64 (some (.number 2147483648)) (some 0) = (0, some 2147483647) ∧
      Json.Denotes (some (.number 2147483648)) 2147483648 ∧
      parseJsonLinuxU64 (some (.string ['-', '1'])) (some 0) = (0, some 0xffffffffffffffff) ∧
      Json.Denotes (some (.string ['-', '1'])) (-1) ∧
      ¬ NumberRead .linuxU64 (some (.number 2147483648)) ∧
      ¬ NumberRead .linuxU64 (some (.string ['-', '1'])) := by
  have hnumber : parseJsonLinuxU64 (some (.number 2147483648)) (some 0) =
      (0, some 2147483647) := by decide +kernel
  have hstring : parseJsonLinuxU64 (some (.string ['-', '1'])) (some 0) =
      (0, some 0xffffffffffffffff) := by decide +kernel
  have hwritten : Numeral.Written ['-', '1'] true 1 :=
    (Numeral.scan_iff _ _ _).mpr (by decide +kernel)
  refine ⟨hnumber, by norm_num [Json.Denotes], hstring, ⟨true, 1, hwritten, rfl⟩, ?_, ?_⟩
  · intro h
    have haccepted := h.accepts 2147483648 (by norm_num [Json.Denotes]) (by decide) (by decide) 0
    rw [show JsonTarget.linuxU64.parse = parseJsonLinuxU64 from rfl, hnumber] at haccepted
    exact absurd haccepted (by decide)
  · intro h
    have hfits := string_fits_of_read .linuxU64 h 1 hwritten (by decide) (by decide)
    exact absurd hfits (by decide)

end HvisorTool
