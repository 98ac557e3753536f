/-
  File:      HvisorTool/Scmi/ProtocolList.lean
  Subject:   THE LIST OF PROTOCOLS that `get_protocol_list` packs into words.

  `skip` comes as an unsigned word, is compared as one and goes on as an `int`. The ids are
  packed four to a word, each word cleared with its first id.

  * `unpackProtocol`, `Packed`: the ids in the slots, and `packed_packProtocols`: those that
    were packed;
  * `getProtocolList_packed`: the count and the slots for a `skip` of any size.
-/
import Mathlib.Data.List.Induction
import HvisorTool.Library.Bits
import HvisorTool.Scmi.Protocols

namespace HvisorTool

open Library

/-! ## 1. Ids in slots -/

/-- The id at a place of the slots: four to a word, the lowest byte first. -/
def unpackProtocol (slots : List UInt32) (i : Nat) : UInt8 :=
  wordByte (slots.getD (i / 4) 0) (i % 4)

def unpackProtocols (count : Nat) (slots : List UInt32) : List UInt8 :=
  (List.range count).map (unpackProtocol slots)

/-- The slots hold these ids, and zeros behind them. -/
structure Packed (ids : List UInt8) (slots : List UInt32) : Prop where
  length : slots.length = (ids.length + 3) / 4
  byte : ∀ i, unpackProtocol slots i = ids.getD i 0

theorem packed_nil : Packed [] [] := ⟨rfl, fun i => by simp [unpackProtocol, wordByte]⟩

/-- A word that is cleared holds no id. -/
theorem unpackProtocol_append_zero (slots : List UInt32) (i : Nat) :
    unpackProtocol (slots ++ [0]) i = unpackProtocol slots i := by
  have hget : (slots ++ [0]).getD (i / 4) 0 = slots.getD (i / 4) 0 := by
    simp only [List.getD_eq_getElem?_getD, List.getElem?_append]
    split
    · rfl
    · next hge =>
      rw [List.getElem?_eq_none (Nat.not_lt.mp hge)]
      cases i / 4 - slots.length with
      | zero | succ n => rfl
  rw [unpackProtocol, hget, unpackProtocol]

variable {slots : List UInt32}

/-- A word in which one more id was put. -/
theorem unpackProtocol_modify {n : Nat} (hn : n / 4 < slots.length) (pid : UInt8) (i : Nat) :
    unpackProtocol (slots.modify (n / 4) (· ||| (pid.toUInt32 <<< UInt32.ofNat (n % 4 * 8)))) i =
      if i = n then unpackProtocol slots i ||| pid else unpackProtocol slots i := by
  unfold unpackProtocol
  simp only [List.getD_eq_getElem?_getD, List.getElem?_modify]
  by_cases hq : n / 4 = i / 4
  · have hget : slots[i / 4]? = some slots[i / 4] := List.getElem?_eq_getElem (hq ▸ hn)
    rw [hget]
    simp only [if_pos hq]
    show wordByte (slots[i / 4] ||| _) (i % 4) = _
    rw [wordByte_or _ _ (Nat.mod_lt _ (by decide)) (Nat.mod_lt _ (by decide))]
    have hiff : i % 4 = n % 4 ↔ i = n := by omega
    simp only [hiff, Option.getD_some]
  · rw [if_neg (fun h => hq (by rw [h]))]
    simp [hq]

theorem length_packProtocol (slots : List UInt32) (i : Nat) (pid : UInt8) :
    (packProtocol slots i pid).length = if i % 4 = 0 then slots.length + 1 else slots.length := by
  unfold packProtocol
  dsimp only
  rw [List.length_modify]
  split
  · exact List.length_append
  · rfl

/-- One more id packed. -/
theorem Packed.pack {ids : List UInt8} (h : Packed ids slots) (pid : UInt8) :
    Packed (ids ++ [pid]) (packProtocol slots ids.length pid) := by
  have hlen := length_packProtocol slots ids.length pid
  have hslots := h.length
  refine ⟨?_, fun i => ?_⟩
  · rw [hlen, List.length_append, List.length_singleton]
    split <;> omega
  · unfold packProtocol
    dsimp only
    have hroom : ids.length / 4 < (if ids.length % 4 = 0 then slots ++ [0] else slots).length := by
      split
      · rw [List.length_append, List.length_singleton]
        omega
      · omega
    have hcleared : ∀ i, unpackProtocol (if ids.length % 4 = 0 then slots ++ [0] else slots) i =
        ids.getD i 0 := by
      intro i
      split
      · rw [unpackProtocol_append_zero, h.byte]
      · exact h.byte i
    rw [unpackProtocol_modify hroom, hcleared]
    simp only [List.getD_eq_getElem?_getD, List.getElem?_append]
    by_cases hi : i = ids.length
    · subst hi
      simp
    · rw [if_neg hi]
      by_cases hlt : i < ids.length
      · rw [if_pos hlt]
      · rw [if_neg hlt, List.getElem?_eq_none (Nat.not_lt.mp hlt), List.getElem?_eq_none]
        rw [List.length_singleton]
        omega

/-- **The loop of `get_protocol_list` packs every id at its place.** -/
theorem packed_packProtocols (entries : List ScmiDevProtocolEntry) :
    Packed (entries.map (·.protocolId))
      (entries.zipIdx.foldl (fun slots e => packProtocol slots e.2 e.1.protocolId) []) := by
  induction entries using List.reverseRecOn with
  | nil => exact packed_nil
  | append_singleton entries e ih =>
    rw [List.zipIdx_append, List.foldl_append, List.map_append]
    have hstep := ih.pack e.protocolId
    rw [List.length_map] at hstep
    show Packed _ (packProtocol _ (0 + entries.length) e.protocolId)
    rw [Nat.zero_add]
    exact hstep

/-- Unpacking gives back what was packed. -/
theorem Packed.unpack {ids : List UInt8} (h : Packed ids slots) :
    unpackProtocols ids.length slots = ids := by
  refine List.ext_getElem ?_ fun i h1 h2 => ?_
  · rw [unpackProtocols, List.length_map, List.length_range]
  · simp only [unpackProtocols, List.getElem_map, List.getElem_range]
    rw [h.byte, List.getD_eq_getElem?_getD, List.getElem?_eq_getElem h2, Option.getD_some]

/-! ## 2. `get_protocol_list` -/

/-- The arithmetic of `handle_base_protocol_list` on a table of at most 16 entries. -/
theorem protocolList_arith :
    ∀ total < 17, ∀ skip < total,
      ¬ Int32.ofNat total - (UInt32.ofNat skip).toInt32 ≤ 0 ∧
      Int32.ofNat total - (UInt32.ofNat skip).toInt32 = Int32.ofNat (total - skip) ∧
      (UInt32.ofNat total - UInt32.ofNat skip).toInt32 = Int32.ofNat (total - skip) ∧
      (UInt32.ofNat skip).toInt32.toNatClampNeg = skip := by
  decide

theorem protocolCount_arith :
    ∀ count < 17, (Int32.ofNat count).toNatClampNeg = count ∧
      (Int32.ofNat count).toUInt32.toNat = count ∧
      ((Int32.ofNat count + 3) / 4).toNatClampNeg = (count + 3) / 4 := by
  decide

/-- The ids a device has registered, in order. -/
def SCMIDev.protocolIds (dev : SCMIDev) : List UInt8 := dev.protocols.map (·.protocolId)

/-- What `get_protocol_list` returns for a `skip` of any size. -/
theorem getProtocolList_packed (dev : SCMIDev) (skip : UInt32) :
    ∃ slots, Packed (dev.protocolIds.drop skip.toNat) slots ∧
      getProtocolList dev skip.toInt32
        (if UInt32.ofNat dev.protocols.length > skip then
          (UInt32.ofNat dev.protocols.length - skip).toInt32 else 0) =
        (Int32.ofNat (dev.protocolIds.drop skip.toNat).length, slots) := by
  have hbound : dev.protocols.length ≤ 16 := dev.protocolsBound
  have htotal : (UInt32.ofNat dev.protocols.length).toNat = dev.protocols.length :=
    UInt32.toNat_ofNat_of_lt' (Nat.lt_of_le_of_lt hbound (by decide))
  have hlen : (dev.protocolIds.drop skip.toNat).length = dev.protocols.length - skip.toNat := by
    rw [List.length_drop, SCMIDev.protocolIds, List.length_map]
  unfold getProtocolList
  dsimp only
  rw [hlen]
  by_cases hgt : UInt32.ofNat dev.protocols.length > skip
  · have hlt : skip.toNat < dev.protocols.length := by
      have hlt := UInt32.lt_iff_toNat_lt.mp hgt
      rwa [htotal] at hlt
    obtain ⟨hpos, hrem, hmax, hskip⟩ :=
      protocolList_arith dev.protocols.length (by omega) skip.toNat hlt
    rw [UInt32.ofNat_toNat] at hpos hrem hmax hskip
    have hcount := (protocolCount_arith (dev.protocols.length - skip.toNat) (by omega)).1
    rw [if_pos hgt, if_neg hpos, hrem, hmax, hskip, if_neg (fun hlt => Int32.lt_irrefl hlt), hcount]
    refine ⟨_, ?_, rfl⟩
    have hall : (dev.protocols.drop skip.toNat).take (dev.protocols.length - skip.toNat) =
        dev.protocols.drop skip.toNat :=
      List.take_of_length_le (Nat.le_of_eq List.length_drop)
    rw [hall, SCMIDev.protocolIds, ← List.map_drop]
    exact packed_packProtocols _
  · have hge : dev.protocols.length ≤ skip.toNat := by
      have hge := UInt32.le_iff_toNat_le.mp (UInt32.not_lt.mp hgt)
      rwa [htotal] at hge
    have hnone : dev.protocolIds.drop skip.toNat = [] := by
      rw [← List.length_eq_zero_iff, hlen]
      omega
    rw [if_neg hgt, hnone, Nat.sub_eq_zero_of_le hge]
    refine ⟨[], packed_nil, ?_⟩
    by_cases hrem : Int32.ofNat dev.protocols.length - skip.toInt32 ≤ 0
    · rw [if_pos hrem]
      rfl
    · -- an index of 2^31 or more reads as a negative number, and the room left is 0
      have hnot : ¬ Int32.ofNat dev.protocols.length - skip.toInt32 < 0 :=
        fun hlt => hrem (Int32.le_of_lt hlt)
      rw [if_neg hrem, if_neg hnot]
      rfl

end HvisorTool
