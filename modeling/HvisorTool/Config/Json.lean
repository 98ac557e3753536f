/-
  File:      HvisorTool/Config/Json.lean
  Subject:   JSON ITEMS as cJSON shows them to the tool.

  The parser itself is a submodule; an item is what it makes of a text. A number is the exact
  number that the text denotes, and `valueint` what the library keeps of it as an `int`. What the
  library finds in an item is an interface, with no law assumed of it.

  * `Json`, `Json.valuestring`, `Json.valueint`: items and their fields;
  * `CJson`: the accessors of the library, and its instance for items that are written out;
  * `Json.getObjectItem`, `Json.itemsOf`: an item by its name, and the items of an array;
  * `valueint_neg_iff`, `lt_valueint_iff`, `valueint_intCast`: what an `int` keeps of a number.
-/
import Mathlib.Data.List.TakeWhile
import Mathlib.Data.Rat.Floor
import Mathlib.Tactic.Linarith

namespace HvisorTool

/-- A JSON item. -/
inductive Json where
  | null
  | bool (b : Bool)
  | number (q : ℚ)
  | string (s : List Char)
  | array (items : List Json)
  | object (members : List (String × Json))

/-- `INT_MAX` and `INT_MIN`. -/
def intMax : Int := 2147483647

def intMin : Int := -2147483648

/-- A number without its fraction. -/
def truncate (q : ℚ) : Int := if 0 ≤ q then ⌊q⌋ else ⌈q⌉

/-- `valueint` of a number: truncated, and saturated to the range of `int`. -/
def valueint (q : ℚ) : Int := max intMin (min intMax (truncate q))

/-- What the library finds in an item. -/
class CJson where
  /-- `cJSON_GetObjectItem`; `none` is `NULL`. -/
  getObjectItem : Option Json → String → Option Json
  /-- What `cJSON_GetArraySize` counts and `cJSON_GetArrayItem` gives, in order. -/
  children : Json → List Json
  /-- `cJSON_IsArray`. -/
  isArray : Option Json → Bool
  /-- `valueint` of an item that is not a number. -/
  otherInt : Json → Int

namespace Json

/-- `valuestring`, up to its terminator; `none` is `NULL`. -/
def valuestring : Json → Option (List Char)
  | .string s => some (s.takeWhile (· != '\x00'))
  | _ => none

/-- The bytes of `valuestring`. -/
def bytes (s : List Char) : List UInt8 := s.flatMap String.utf8EncodeChar

/-- The comparison of names, which does not tell upper from lower case. -/
def sameName (a b : String) : Bool := a.toList.map Char.toLower == b.toList.map Char.toLower

section Accessors

variable [CJson]

/-- `valueint` of an item. -/
def valueint : Json → Int
  | .number q => HvisorTool.valueint q
  | json => CJson.otherInt json

def children (json : Json) : List Json := CJson.children json

def getObjectItem (item : Option Json) (name : String) : Option Json :=
  CJson.getObjectItem item name

/-- The items under a key; none without the key. -/
def itemsOf (object : Option Json) (name : String) : List Json :=
  match getObjectItem object name with
  | some json => json.children
  | none => []

def isArray (item : Option Json) : Bool := CJson.isArray item

end Accessors

end Json

/-- The accessors on items that are written out: 1 is stored for `true`, 0 for all else but
    numbers. -/
instance : CJson where
  getObjectItem
    | some (.object members), name => (members.find? fun m => Json.sameName m.1 name).map Prod.snd
    | _, _ => none
  children
    | .array items => items
    | .object members => members.map Prod.snd
    | _ => []
  isArray
    | some (.array _) => true
    | _ => false
  otherInt
    | .bool true => 1
    | _ => 0

/-! ## The bytes of a string -/

theorem utf8EncodeChar_ne_zero {c : Char} (h : c ≠ '\x00') : 0 ∉ String.utf8EncodeChar c := by
  have hval : c.val.toNat ≠ 0 := fun hzero => h (Char.ext (UInt32.toNat_inj.mp hzero))
  have hbyte : ∀ n, 0 < n → n < 256 → (0 : UInt8) ≠ UInt8.ofNat n := by
    intro n hpos hlt heq
    have hnat := congrArg UInt8.toNat heq
    rw [UInt8.toNat_ofNat_of_lt' hlt] at hnat
    exact absurd hnat.symm (Nat.pos_iff_ne_zero.mp hpos)
  unfold String.utf8EncodeChar
  dsimp only
  split_ifs <;> simp only [List.mem_cons, List.not_mem_nil, or_false, not_or] <;>
    repeat' apply And.intro
  all_goals exact hbyte _ (by omega) (by omega)

/-- A C string has no zero in it. -/
theorem Json.zero_notMem_bytes {json : Json} {s : List Char} (h : json.valuestring = some s) :
    0 ∉ Json.bytes s := by
  cases json <;> cases h
  intro hzero
  obtain ⟨c, hc, hbyte⟩ := List.mem_flatMap.mp hzero
  have hne := List.mem_takeWhile_imp hc
  exact utf8EncodeChar_ne_zero (by simpa using hne) hbyte

/-! ## What an `int` keeps of a number -/

theorem truncate_neg_iff {q : ℚ} : truncate q < 0 ↔ q ≤ -1 := by
  unfold truncate
  split
  · next hq =>
      have hfloor : 0 ≤ ⌊q⌋ := Int.floor_nonneg.mpr hq
      constructor
      · intro h
        omega
      · intro h
        linarith
  · have hceil : ⌈q⌉ < 0 ↔ ⌈q⌉ ≤ -1 := by omega
    rw [hceil, Int.ceil_le, Int.cast_neg, Int.cast_one]

theorem lt_truncate_iff {q : ℚ} (n : Nat) : (n : Int) < truncate q ↔ (n : ℚ) + 1 ≤ q := by
  unfold truncate
  split
  · rw [Int.lt_iff_add_one_le, Int.le_floor]
    push_cast
    exact Iff.rfl
  · next hq =>
      have hneg : q < 0 := not_le.mp hq
      have hceil : ⌈q⌉ ≤ 0 := Int.ceil_le.mpr (by rw [Int.cast_zero]; exact le_of_lt hneg)
      have hn : (0 : ℚ) ≤ n := Nat.cast_nonneg n
      constructor
      · intro h
        omega
      · intro h
        linarith

theorem truncate_intCast (v : Int) : truncate v = v := by
  unfold truncate
  split
  · exact Int.floor_intCast v
  · exact Int.ceil_intCast v

/-- A negative `valueint` is that of a number not above -1. -/
theorem valueint_neg_iff {q : ℚ} : valueint q < 0 ↔ q ≤ -1 := by
  rw [← truncate_neg_iff]
  unfold valueint intMin intMax
  omega

/-- A `valueint` above a bound is that of a number above it, unless the bound is `INT_MAX`. -/
theorem lt_valueint_iff {q : ℚ} (n : Nat) :
    (n : Int) < valueint q ↔ (n : Int) < intMax ∧ (n : ℚ) + 1 ≤ q := by
  rw [← lt_truncate_iff]
  unfold valueint intMin intMax
  omega

theorem valueint_le (q : ℚ) : valueint q ≤ intMax := by
  unfold valueint intMin intMax
  omega

/-- An integer of the range is kept. -/
theorem valueint_intCast {v : Int} (h : 0 ≤ v) (hv : v ≤ intMax) : valueint v = v := by
  unfold valueint intMin
  rw [truncate_intCast]
  omega

end HvisorTool
