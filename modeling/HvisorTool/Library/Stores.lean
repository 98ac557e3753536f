/-
  File:      HvisorTool/Library/Stores.lean
  Subject:   SINGLE STORES IN ORDER: what a memory holds behind them.

  * `after`: the memory behind a list of stores, each an address and a value;
  * `after_of_notMem`: what no store goes to stays;
  * `after_values_iff`: every store can be read back exactly if stores to one address agree;
  * `run`, `after_run`: the stores of a copy, and its values read back;
  * `after_perm`: stores that agree can be made in any order;
  * `copy`, `copy_append`, `map_copy`: a copy from some addresses to others, in parts, and read
    back.
-/
import Mathlib.Data.List.Nodup
import Mathlib.Logic.Function.Basic
import Mathlib.Tactic.Common

namespace Library

namespace Stores

universe u v

variable {α : Type u} {β : Type v} [DecidableEq α]

/-- The memory behind the stores. -/
def after (m : α → β) (l : List (α × β)) : α → β :=
  l.foldl (fun m s => Function.update m s.1 s.2) m

variable {m : α → β} {l l' : List (α × β)} {a : α} {b : β}

theorem after_cons (s : α × β) : after m (s :: l) = after (Function.update m s.1 s.2) l := rfl

theorem after_append : after m (l ++ l') = after (after m l) l' := List.foldl_append

/-- Nothing else changes. -/
theorem after_of_notMem (h : ∀ s ∈ l, s.1 ≠ a) : after m l a = m a := by
  induction l generalizing m with
  | nil => rfl
  | cons s l ih =>
    rw [after_cons, ih fun s hs => h s (List.mem_cons_of_mem _ hs),
      Function.update_of_ne (Ne.symm (h s List.mem_cons_self))]

/-- The value at an address that is stored to comes from a store. -/
theorem after_mem (h : ∃ s ∈ l, s.1 = a) : (a, after m l a) ∈ l := by
  induction l generalizing m with
  | nil =>
    obtain ⟨s, hs, -⟩ := h
    cases hs
  | cons s l ih =>
    rw [after_cons]
    by_cases hl : ∃ s ∈ l, s.1 = a
    · exact List.mem_cons_of_mem _ (ih hl)
    · have hnone : ∀ s ∈ l, s.1 ≠ a := fun s hs heq => hl ⟨s, hs, heq⟩
      obtain ⟨s', hs', ha⟩ := h
      rcases List.mem_cons.mp hs' with rfl | hs'
      · rw [after_of_notMem hnone, ← ha, Function.update_self]
        exact List.mem_cons_self
      · exact absurd ha (hnone s' hs')

/-- **Every store can be read back exactly if stores to one address agree.** -/
theorem after_values_iff :
    (∀ s ∈ l, after m l s.1 = s.2) ↔ ∀ s ∈ l, ∀ s' ∈ l, s.1 = s'.1 → s.2 = s'.2 := by
  constructor
  · intro h s hs s' hs' heq
    rw [← h s hs, ← h s' hs', heq]
  · intro h s hs
    have hmem : (s.1, after m l s.1) ∈ l := after_mem ⟨s, hs, rfl⟩
    exact h _ hmem s hs rfl

/-- The stores of a copy: value `j` to address `addr j`. -/
def run (addr : Nat → α) (bs : List β) : List (α × β) :=
  bs.zipIdx.map fun p => (addr p.2, p.1)

omit [DecidableEq α] in
theorem mem_run_iff {addr : Nat → α} {bs : List β} {s : α × β} :
    s ∈ run addr bs ↔ ∃ j, bs[j]? = some s.2 ∧ s.1 = addr j := by
  unfold run
  rw [List.mem_map]
  constructor
  · rintro ⟨⟨b, j⟩, hmem, rfl⟩
    exact ⟨j, List.mem_zipIdx_iff_getElem?.mp hmem, rfl⟩
  · rintro ⟨j, hget, haddr⟩
    refine ⟨(s.2, j), List.mem_zipIdx_iff_getElem?.mpr hget, ?_⟩
    rw [← haddr]

/-- A copy to distinct addresses can be read back. -/
theorem after_run {addr : Nat → α} {bs : List β} {j : Nat}
    (hinj : ∀ i < bs.length, addr i = addr j → i = j) (hj : bs[j]? = some b) :
    after m (run addr bs) (addr j) = b := by
  have hmem : (addr j, after m (run addr bs) (addr j)) ∈ run addr bs :=
    after_mem ⟨(addr j, b), mem_run_iff.mpr ⟨j, hj, rfl⟩, rfl⟩
  obtain ⟨i, hi, haddr⟩ := mem_run_iff.mp hmem
  have hlt := (List.getElem?_eq_some_iff.mp hi).1
  rw [hinj i hlt haddr.symm, hj] at hi
  exact (Option.some.inj hi).symm

omit [DecidableEq α] in
/-- A copy in two parts. -/
theorem run_append (addr : Nat → α) (bs bs' : List β) :
    run addr (bs ++ bs') = run addr bs ++ run (fun j => addr (bs.length + j)) bs' := by
  have hshift : bs'.zipIdx bs.length = bs'.zipIdx.map fun p => (p.1, bs.length + p.2) :=
    List.zipIdx_eq_map_add ..
  unfold run
  rw [List.zipIdx_append, List.map_append, Nat.zero_add, hshift, List.map_map]
  rfl

/-- **The order of stores does not matter if those to one address agree.** -/
theorem after_perm (hperm : l.Perm l') (hagree : ∀ s ∈ l, ∀ s' ∈ l, s.1 = s'.1 → s.2 = s'.2) :
    after m l = after m l' := by
  funext a
  by_cases hstored : ∃ s ∈ l, s.1 = a
  · have hmem : (a, after m l a) ∈ l := after_mem hstored
    have hstored' : ∃ s ∈ l', s.1 = a := by
      obtain ⟨s, hs, ha⟩ := hstored
      exact ⟨s, hperm.mem_iff.mp hs, ha⟩
    have hmem' : (a, after m l' a) ∈ l := hperm.mem_iff.mpr (after_mem hstored')
    exact hagree _ hmem _ hmem' rfl
  · have hnone : ∀ s ∈ l, s.1 ≠ a := fun s hs ha => hstored ⟨s, hs, ha⟩
    rw [after_of_notMem hnone, after_of_notMem fun s hs => hnone s (hperm.mem_iff.mpr hs)]

/-! ## Copies -/

/-- The memory behind a copy: what is at `src` goes to `dst`. -/
def copy (m : α → β) (dst src : List α) : α → β := after m (dst.zip (src.map m))

variable {dst dst' src src' : List α}

theorem copy_of_notMem (h : a ∉ dst) : copy m dst src a = m a :=
  after_of_notMem fun _ hs heq => h (heq ▸ (List.of_mem_zip hs).1)

/-- What was copied is at the new place. -/
theorem map_copy (hdst : dst.Nodup) (hlen : dst.length = src.length) :
    dst.map (copy m dst src) = src.map m := by
  have hfst : (dst.zip (src.map m)).map Prod.fst = dst :=
    List.map_fst_zip (by rw [List.length_map]; exact Nat.le_of_eq hlen)
  have hsnd : (dst.zip (src.map m)).map Prod.snd = src.map m :=
    List.map_snd_zip (by rw [List.length_map]; exact Nat.le_of_eq hlen.symm)
  have hstores : ((dst.zip (src.map m)).map Prod.fst).Nodup := by rwa [hfst]
  -- no two stores go to one address
  have hagree : ∀ s ∈ dst.zip (src.map m), ∀ s' ∈ dst.zip (src.map m), s.1 = s'.1 → s.2 = s'.2 :=
    fun s hs s' hs' heq => congrArg Prod.snd (List.inj_on_of_nodup_map hstores hs hs' heq)
  have hback := after_values_iff (m := m).mpr hagree
  calc dst.map (copy m dst src)
      = ((dst.zip (src.map m)).map Prod.fst).map (copy m dst src) := by rw [hfst]
    _ = (dst.zip (src.map m)).map fun s => copy m dst src s.1 := List.map_map
    _ = (dst.zip (src.map m)).map Prod.snd := List.map_congr_left hback
    _ = src.map m := hsnd

/-- **A copy in two parts**: the second one reads nothing that the first one has stored. -/
theorem copy_append (hlen : dst.length = src.length) (hsrc : ∀ a ∈ src', a ∉ dst) :
    copy m (dst ++ dst') (src ++ src') = copy (copy m dst src) dst' src' := by
  have hsame : src'.map (copy m dst src) = src'.map m :=
    List.map_congr_left fun a ha => copy_of_notMem (hsrc a ha)
  have hzip : (dst ++ dst').zip ((src ++ src').map m) =
      dst.zip (src.map m) ++ dst'.zip (src'.map m) := by
    rw [List.map_append, List.zip_append (by rw [List.length_map, hlen])]
  show after m ((dst ++ dst').zip ((src ++ src').map m)) =
    after (copy m dst src) (dst'.zip (src'.map (copy m dst src)))
  rw [hsame, hzip, after_append]
  rfl

end Stores

end Library
