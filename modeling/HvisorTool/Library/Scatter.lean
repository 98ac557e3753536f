/-
  File:      HvisorTool/Library/Scatter.lean
  Subject:   BYTES STORED INTO A LIST OF BUFFERS: which bytes they are, and how many of
             them fall into buffers that may be written.

  A byte is named by its buffer and its place there, so that a byte stored to twice counts
  once, and two buffers never share one.

  * `leadingBytes`, `scatter`: the bytes of one store, and of one that fills buffers in order;
  * `markedBytes`: the bytes of the buffers that are marked;
  * `card_scatter`: a store of `n` bytes stores `n`, as far as the buffers reach;
  * `le_card_landed_iff`: all of them fall into marked buffers if and only if they end
    before the first buffer that is not.
-/
import Mathlib.Algebra.BigOperators.Group.List.Basic
import Mathlib.Algebra.Ring.Nat
import Mathlib.Data.Finset.Prod

namespace Library

/-- A byte of a list of buffers: the buffer, and the place in it. -/
abbrev BufByte := Nat × Nat

/-- The first `n` bytes of buffer `i`. -/
def leadingBytes (i n : Nat) : Finset BufByte := {i} ×ˢ Finset.range n

/-- `n` bytes stored into buffers of these lengths, in order and from buffer `i` on. -/
def scatter : Nat → Nat → List Nat → Finset BufByte
  | _, _, [] => ∅
  | i, n, l :: ls => leadingBytes i (min n l) ∪ scatter (i + 1) (n - l) ls

/-- The bytes of the buffers that are marked, numbered from `i` on. -/
def markedBytes : Nat → List (Nat × Bool) → Finset BufByte
  | _, [] => ∅
  | i, b :: bs => (if b.2 then leadingBytes i b.1 else ∅) ∪ markedBytes (i + 1) bs

/-- The bytes before the first buffer that is not marked; an empty buffer is none. -/
def markedLead : List (Nat × Bool) → Nat
  | [] => 0
  | b :: bs => if b.2 = true ∨ b.1 = 0 then b.1 + markedLead bs else 0

/-- The bytes of a store that fall into marked buffers. -/
def landed (i n : Nat) (bs : List (Nat × Bool)) : Finset BufByte :=
  scatter i n (bs.map Prod.fst) ∩ markedBytes i bs

variable {p : BufByte}

@[simp] theorem mem_leadingBytes {i n : Nat} : p ∈ leadingBytes i n ↔ p.1 = i ∧ p.2 < n := by
  rw [leadingBytes, Finset.mem_product, Finset.mem_singleton, Finset.mem_range]

@[simp] theorem card_leadingBytes (i n : Nat) : (leadingBytes i n).card = n := by
  rw [leadingBytes, Finset.card_product, Finset.card_singleton, Finset.card_range, Nat.one_mul]

theorem le_of_mem_scatter {i n : Nat} {ls : List Nat} (h : p ∈ scatter i n ls) : i ≤ p.1 := by
  induction ls generalizing i n with
  | nil => exact absurd h (Finset.notMem_empty p)
  | cons l ls ih =>
    rcases Finset.mem_union.mp h with h | h
    · exact Nat.le_of_eq (mem_leadingBytes.mp h).1.symm
    · exact Nat.le_of_succ_le (ih h)

/-- No byte lies behind the last buffer. -/
theorem lt_of_mem_scatter {i n : Nat} {ls : List Nat} (h : p ∈ scatter i n ls) :
    p.1 < i + ls.length := by
  induction ls generalizing i n with
  | nil => exact absurd h (Finset.notMem_empty p)
  | cons l ls ih =>
    rw [List.length_cons]
    rcases Finset.mem_union.mp h with h | h
    · have hi := (mem_leadingBytes.mp h).1
      omega
    · have hlt := ih h
      omega

theorem le_of_mem_markedBytes {i : Nat} {bs : List (Nat × Bool)}
    (h : p ∈ markedBytes i bs) : i ≤ p.1 := by
  induction bs generalizing i with
  | nil => exact absurd h (Finset.notMem_empty p)
  | cons b bs ih =>
    rcases Finset.mem_union.mp h with h | h
    · split at h
      · exact Nat.le_of_eq (mem_leadingBytes.mp h).1.symm
      · exact absurd h (Finset.notMem_empty p)
    · exact Nat.le_of_succ_le (ih h)

/-- A store behind the first buffer does not see it. -/
theorem scatter_inter_cons (i n : Nat) (ls : List Nat) (b : Nat × Bool) (bs : List (Nat × Bool)) :
    scatter (i + 1) n ls ∩ markedBytes i (b :: bs) =
      scatter (i + 1) n ls ∩ markedBytes (i + 1) bs := by
  ext p
  rw [Finset.mem_inter, Finset.mem_inter]
  refine and_congr_right fun hp => ?_
  have hle := le_of_mem_scatter hp
  have hfirst : p ∉ (if b.2 then leadingBytes i b.1 else ∅) := by
    split
    · exact fun hmem => absurd (mem_leadingBytes.mp hmem).1 (by omega)
    · exact Finset.notMem_empty p
  rw [markedBytes, Finset.mem_union, or_iff_right hfirst]

theorem card_scatter (i n : Nat) (ls : List Nat) : (scatter i n ls).card = min n ls.sum := by
  induction ls generalizing i n with
  | nil => exact (Nat.min_zero n).symm
  | cons l ls ih =>
    have hdisj : Disjoint (leadingBytes i (min n l)) (scatter (i + 1) (n - l) ls) := by
      refine Finset.disjoint_left.mpr fun p hp hq => ?_
      have hi := (mem_leadingBytes.mp hp).1
      have hle := le_of_mem_scatter hq
      omega
    rw [scatter, Finset.card_union_of_disjoint hdisj, card_leadingBytes, ih, List.sum_cons]
    omega

/-- The bytes that land, buffer by buffer. -/
theorem card_landed_cons (i n : Nat) (b : Nat × Bool) (bs : List (Nat × Bool)) :
    (landed i n (b :: bs)).card =
      (if b.2 then min n b.1 else 0) + (landed (i + 1) (n - b.1) bs).card := by
  have hsplit : landed i n (b :: bs) =
      (if b.2 then leadingBytes i (min n b.1) else ∅) ∪ landed (i + 1) (n - b.1) bs := by
    ext p
    have hscatter : p ∈ scatter (i + 1) (n - b.1) (bs.map Prod.fst) → i + 1 ≤ p.1 :=
      le_of_mem_scatter
    have hmarked : p ∈ markedBytes (i + 1) bs → i + 1 ≤ p.1 := le_of_mem_markedBytes
    simp only [landed, List.map_cons, scatter, markedBytes, Finset.mem_inter, Finset.mem_union,
      mem_leadingBytes]
    cases b.2 with
    | false =>
      simp only [Bool.false_eq_true, if_false, Finset.notMem_empty, false_or]
      constructor
      · rintro ⟨h | h, hm⟩
        · have hle := hmarked hm
          omega
        · exact ⟨h, hm⟩
      · exact fun ⟨h, hm⟩ => ⟨.inr h, hm⟩
    | true =>
      simp only [if_true, mem_leadingBytes]
      constructor
      · rintro ⟨h | h, h' | h'⟩
        · exact .inl h
        · have hle := hmarked h'
          omega
        · have hle := hscatter h
          omega
        · exact .inr ⟨h, h'⟩
      · rintro (h | ⟨h, h'⟩)
        · exact ⟨.inl h, .inl ⟨h.1, by omega⟩⟩
        · exact ⟨.inr h, .inr h'⟩
  have hdisj : Disjoint (if b.2 then leadingBytes i (min n b.1) else ∅)
      (landed (i + 1) (n - b.1) bs) := by
    refine Finset.disjoint_left.mpr fun p hp hq => ?_
    have hle := le_of_mem_scatter (Finset.mem_inter.mp hq).1
    split at hp
    · have hi := (mem_leadingBytes.mp hp).1
      omega
    · exact absurd hp (Finset.notMem_empty p)
  rw [hsplit, Finset.card_union_of_disjoint hdisj]
  congr 1
  split
  · exact card_leadingBytes _ _
  · rfl

theorem card_landed_le (i n : Nat) (bs : List (Nat × Bool)) : (landed i n bs).card ≤ n := by
  have hsub : landed i n bs ⊆ scatter i n (bs.map Prod.fst) := Finset.inter_subset_left
  have hcard := Finset.card_le_card hsub
  rw [card_scatter] at hcard
  exact Nat.le_trans hcard (Nat.min_le_left _ _)

/-- **Every byte of a store lands in a marked buffer exactly if there is room for all of
    them before the first buffer that is not marked.** -/
theorem le_card_landed_iff (i n : Nat) (bs : List (Nat × Bool)) :
    n ≤ (landed i n bs).card ↔ n ≤ markedLead bs := by
  induction bs generalizing i n with
  | nil => exact Iff.rfl
  | cons b bs ih =>
    have hrest := ih (i + 1) (n - b.1)
    have hle := card_landed_le (i + 1) (n - b.1) bs
    rw [card_landed_cons, markedLead]
    cases b.2 with
    | true =>
      rw [if_pos rfl, if_pos (.inl rfl)]
      omega
    | false =>
      rw [if_neg Bool.false_ne_true]
      by_cases hb : b.1 = 0
      · rw [if_pos (.inr hb)]
        rw [hb] at hrest hle ⊢
        omega
      · rw [if_neg (fun h => h.elim Bool.false_ne_true hb)]
        omega

end Library
