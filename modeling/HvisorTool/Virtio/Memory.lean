/-
  File:      HvisorTool/Virtio/Memory.lean
  Subject:   GUEST MEMORY as the daemon sees it: bytes at host addresses.

  Words are little-endian. Host pointers are 64-bit addresses; 0 stands for `NULL`.

  * `readU16`, `readU32`, `readU64`: the fields of the structs that lie in it;
  * `le16`, `le32`, `le64`: the bytes of a word, and `readU32_of_bytes`: they read back;
  * `readBytes`, `bufMem`: a copy out of memory, and a buffer read as memory.
-/
import Mathlib.Algebra.Ring.Nat
import Mathlib.Tactic.Common

namespace HvisorTool

/-- Memory as the daemon sees it. -/
abbrev Mem := UInt64 → UInt8

def readU16 (mem : Mem) (a : UInt64) : UInt16 :=
  (mem a).toUInt16 ||| ((mem (a + 1)).toUInt16 <<< 8)

def readU32 (mem : Mem) (a : UInt64) : UInt32 :=
  (readU16 mem a).toUInt32 ||| ((readU16 mem (a + 2)).toUInt32 <<< 16)

def readU64 (mem : Mem) (a : UInt64) : UInt64 :=
  (readU32 mem a).toUInt64 ||| ((readU32 mem (a + 4)).toUInt64 <<< 32)

variable (mem : Mem) (a : UInt64)

theorem toNat_readU16 : (readU16 mem a).toNat = (mem a).toNat + 2 ^ 8 * (mem (a + 1)).toNat := by
  have h0 := (mem a).toNat_lt
  have h1 := (mem (a + 1)).toNat_lt
  have hs : ((mem (a + 1)).toUInt16 <<< 8).toNat = (mem (a + 1)).toNat <<< 8 := by
    rw [UInt16.toNat_shiftLeft, UInt8.toNat_toUInt16]
    refine Nat.mod_eq_of_lt ?_
    rw [Nat.shiftLeft_eq]
    change (mem (a + 1)).toNat * 2 ^ 8 < 2 ^ 16
    omega
  unfold readU16
  rw [UInt16.toNat_or, hs, UInt8.toNat_toUInt16, Nat.or_comm,
    ← Nat.shiftLeft_add_eq_or_of_lt h0, Nat.shiftLeft_eq]
  omega

theorem toNat_readU32 :
    (readU32 mem a).toNat = (readU16 mem a).toNat + 2 ^ 16 * (readU16 mem (a + 2)).toNat := by
  have h0 := (readU16 mem a).toNat_lt
  have h1 := (readU16 mem (a + 2)).toNat_lt
  have hs : ((readU16 mem (a + 2)).toUInt32 <<< 16).toNat = (readU16 mem (a + 2)).toNat <<< 16 := by
    rw [UInt32.toNat_shiftLeft, UInt16.toNat_toUInt32]
    refine Nat.mod_eq_of_lt ?_
    rw [Nat.shiftLeft_eq]
    change (readU16 mem (a + 2)).toNat * 2 ^ 16 < 2 ^ 32
    omega
  unfold readU32
  rw [UInt32.toNat_or, hs, UInt16.toNat_toUInt32, Nat.or_comm,
    ← Nat.shiftLeft_add_eq_or_of_lt h0, Nat.shiftLeft_eq]
  omega

theorem toNat_readU64 :
    (readU64 mem a).toNat = (readU32 mem a).toNat + 2 ^ 32 * (readU32 mem (a + 4)).toNat := by
  have h0 := (readU32 mem a).toNat_lt
  have h1 := (readU32 mem (a + 4)).toNat_lt
  have hs : ((readU32 mem (a + 4)).toUInt64 <<< 32).toNat = (readU32 mem (a + 4)).toNat <<< 32 := by
    rw [UInt64.toNat_shiftLeft, UInt32.toNat_toUInt64]
    refine Nat.mod_eq_of_lt ?_
    rw [Nat.shiftLeft_eq]
    change (readU32 mem (a + 4)).toNat * 2 ^ 32 < 2 ^ 64
    omega
  unfold readU64
  rw [UInt64.toNat_or, hs, UInt32.toNat_toUInt64, Nat.or_comm,
    ← Nat.shiftLeft_add_eq_or_of_lt h0, Nat.shiftLeft_eq]
  omega

/-- The bytes of a word, lowest first. -/
def le16 (x : UInt16) : List UInt8 := [x.toUInt8, (x >>> 8).toUInt8]

def le32 (x : UInt32) : List UInt8 := le16 x.toUInt16 ++ le16 (x >>> 16).toUInt16

def le64 (x : UInt64) : List UInt8 := le32 x.toUInt32 ++ le32 (x >>> 32).toUInt32

/-- `len` bytes from an address on. -/
def readBytes (mem : Mem) (a : UInt64) (len : Nat) : List UInt8 :=
  (List.range len).map fun k => mem (a + UInt64.ofNat k)

theorem readBytes_length (len : Nat) : (readBytes mem a len).length = len := by
  simp [readBytes]

/-- A copy from inside a buffer takes its bytes from there. -/
theorem readBytes_drop_take {off len total : Nat} (h : off + len ≤ total) :
    readBytes mem (a + UInt64.ofNat off) len = ((readBytes mem a total).drop off).take len := by
  apply List.ext_getElem
  · simp only [readBytes_length, List.length_take, List.length_drop]
    omega
  · intro k h1 h2
    simp [readBytes, UInt64.ofNat_add, UInt64.add_assoc]

/-- Bytes stored from an address on. -/
def writeBytes (mem : Mem) (a : UInt64) : List UInt8 → Mem
  | [] => mem
  | b :: bs => writeBytes (Function.update mem a b) (a + 1) bs

/-- The bytes stored are there, and all others are as they were. -/
theorem writeBytes_apply (p : UInt64) (bs : List UInt8) (h : bs.length ≤ 2 ^ 64) :
    writeBytes mem a bs p = (bs[(p - a).toNat]?).getD (mem p) := by
  induction bs generalizing mem a with
  | nil => rfl
  | cons b bs ih =>
    rw [List.length_cons] at h
    rw [writeBytes, ih _ _ (by omega)]
    by_cases hp : p = a
    · subst hp
      -- one step back from `p + 1` is the last address of all
      have hback : (p - (p + 1)).toNat = 2 ^ 64 - 1 := by
        rw [UInt64.toNat_sub, UInt64.toNat_add]
        have hlt := p.toNat_lt
        simp only [UInt64.reduceToNat]
        omega
      have hzero : (p - p).toNat = 0 := by
        rw [UInt64.sub_self]
        rfl
      rw [hback, hzero, List.getElem?_eq_none (by omega), Function.update_self]
      rfl
    · have hstep : (p - a).toNat = (p - (a + 1)).toNat + 1 := by
        have hne : p.toNat ≠ a.toNat := fun heq => hp (UInt64.toNat_inj.mp heq)
        have hlt := p.toNat_lt
        have hlt' := a.toNat_lt
        rw [UInt64.toNat_sub, UInt64.toNat_sub, UInt64.toNat_add]
        simp only [UInt64.reduceToNat]
        omega
      rw [hstep, List.getElem?_cons_succ, Function.update_of_ne hp]

/-- An address at which no byte is stored. -/
theorem writeBytes_outside {p : UInt64} {bs : List UInt8}
    (h : ∀ j < bs.length, p ≠ a + UInt64.ofNat j) : writeBytes mem a bs p = mem p := by
  induction bs generalizing mem a with
  | nil => rfl
  | cons b bs ih =>
    have hfirst : p ≠ a := by simpa using h 0 (Nat.zero_lt_succ _)
    rw [writeBytes, ih, Function.update_of_ne hfirst]
    intro j hj
    have hj' := h (j + 1) (Nat.succ_lt_succ hj)
    rwa [Nat.add_comm, UInt64.ofNat_add, ← UInt64.add_assoc] at hj'

/-- A byte buffer read as memory from address 0 on. -/
def bufMem (buf : List UInt8) : Mem := fun a => buf.getD a.toNat 0

/-- **The bytes of a word read back as the word.** -/
theorem readU32_of_bytes {mem : Mem} {a : UInt64} {x : UInt32}
    (h : readBytes mem a 4 = le32 x) : readU32 mem a = x := by
  have hbytes : [mem (a + 0), mem (a + 1), mem (a + 2), mem (a + 3)] =
      [x.toUInt16.toUInt8, (x.toUInt16 >>> 8).toUInt8, (x >>> 16).toUInt16.toUInt8,
        ((x >>> 16).toUInt16 >>> 8).toUInt8] := h
  rw [List.cons.injEq, List.cons.injEq, List.cons.injEq, List.cons.injEq] at hbytes
  obtain ⟨h0, h1, h2, h3, -⟩ := hbytes
  rw [UInt64.add_zero] at h0
  have e3 : a + 2 + 1 = a + 3 := UInt64.add_assoc a 2 1
  have hx := x.toNat_lt
  refine UInt32.toNat_inj.mp ?_
  rw [toNat_readU32, toNat_readU16, toNat_readU16, e3, h0, h1, h2, h3]
  simp only [UInt16.toNat_toUInt8, UInt32.toNat_toUInt16, UInt16.toNat_shiftRight,
    UInt32.toNat_shiftRight, Nat.shiftRight_eq_div_pow, UInt16.reduceToNat, UInt32.reduceToNat,
    Nat.reduceMod, Nat.reducePow]
  omega

end HvisorTool
