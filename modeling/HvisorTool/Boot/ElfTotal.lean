/-
  File:      HvisorTool/Boot/ElfTotal.lean
  Subject:   THE SIZE THAT THE ELF LOADER REPORTS, as an exact integer.

  The loader keeps the least start and the greatest end of the segments in 64-bit words, with
  the greatest word as "none yet". Ends wrap, and so does the difference; the two can cancel.

  * `SpanOf`: what `min_paddr` and `max_end` are behind the loop;
  * `ExactTotal`: the size over exact integers;
  * `exactTotal_iff`: when the loader reports it.
-/
import HvisorTool.Boot.Elf

namespace HvisorTool

/-! ## 1. `min_paddr` and `max_end` -/

/-- The end of a segment in memory, as an exact integer. -/
def Phdr.endAddr (ph : Phdr) : Nat := ph.paddr.toNat + ph.memsz.toNat

/-- The least start and the greatest wrapped end, from a first pair on. -/
structure SpanOf (first : ElfSpan) (phs : List Phdr) (span : ElfSpan) : Prop where
  min_le_first : span.minPaddr.toNat ≤ first.minPaddr.toNat
  min_le : ∀ ph ∈ phs, span.minPaddr.toNat ≤ ph.paddr.toNat
  min_mem : span.minPaddr = first.minPaddr ∨ ∃ ph ∈ phs, span.minPaddr = ph.paddr
  first_le_max : first.maxEnd.toNat ≤ span.maxEnd.toNat
  le_max : ∀ ph ∈ phs, ph.endAddr % 2 ^ 64 ≤ span.maxEnd.toNat
  max_mem : span.maxEnd = first.maxEnd ∨ ∃ ph ∈ phs, span.maxEnd.toNat = ph.endAddr % 2 ^ 64

theorem spanOf_grow (first : ElfSpan) (ph : Phdr) : SpanOf first [ph] (first.grow ph) := by
  have hend : (ph.paddr + ph.memsz).toNat = ph.endAddr % 2 ^ 64 := UInt64.toNat_add _ _
  have hmin : (first.grow ph).minPaddr = ph.paddr ∧ ph.paddr.toNat < first.minPaddr.toNat ∨
      (first.grow ph).minPaddr = first.minPaddr ∧ first.minPaddr.toNat ≤ ph.paddr.toNat := by
    unfold ElfSpan.grow
    by_cases h : ph.paddr < first.minPaddr
    · exact .inl ⟨if_pos h, UInt64.lt_iff_toNat_lt.mp h⟩
    · exact .inr ⟨if_neg h, UInt64.le_iff_toNat_le.mp (UInt64.not_lt.mp h)⟩
  have hmax : (first.grow ph).maxEnd = ph.paddr + ph.memsz ∧
        first.maxEnd.toNat < ph.endAddr % 2 ^ 64 ∨
      (first.grow ph).maxEnd = first.maxEnd ∧ ph.endAddr % 2 ^ 64 ≤ first.maxEnd.toNat := by
    rw [← hend]
    unfold ElfSpan.grow
    by_cases h : ph.paddr + ph.memsz > first.maxEnd
    · exact .inl ⟨if_pos h, UInt64.lt_iff_toNat_lt.mp h⟩
    · exact .inr ⟨if_neg h, UInt64.le_iff_toNat_le.mp (UInt64.not_lt.mp h)⟩
  refine ⟨?_, List.forall_mem_singleton.mpr ?_, ?_, ?_, List.forall_mem_singleton.mpr ?_, ?_⟩
  · rcases hmin with ⟨h, hlt⟩ | ⟨h, hle⟩ <;> rw [h]
    exact Nat.le_of_lt hlt
  · rcases hmin with ⟨h, hlt⟩ | ⟨h, hle⟩ <;> rw [h]
    exact hle
  · rcases hmin with ⟨h, hlt⟩ | ⟨h, hle⟩
    · exact .inr ⟨ph, List.mem_singleton_self _, h⟩
    · exact .inl h
  · rcases hmax with ⟨h, hlt⟩ | ⟨h, hle⟩ <;> rw [h]
    rw [hend]
    exact Nat.le_of_lt hlt
  · rcases hmax with ⟨h, hlt⟩ | ⟨h, hle⟩ <;> rw [h]
    · rw [hend]
    · exact hle
  · rcases hmax with ⟨h, hlt⟩ | ⟨h, hle⟩
    · exact .inr ⟨ph, List.mem_singleton_self _, by rw [h, hend]⟩
    · exact .inl h

theorem SpanOf.trans {first span span' : ElfSpan} {phs phs' : List Phdr} (h : SpanOf first phs span)
    (h' : SpanOf span phs' span') : SpanOf first (phs ++ phs') span' := by
  refine ⟨Nat.le_trans h'.min_le_first h.min_le_first, ?_, ?_,
    Nat.le_trans h.first_le_max h'.first_le_max, ?_, ?_⟩
  · intro ph hph
    rcases List.mem_append.mp hph with hph | hph
    · exact Nat.le_trans h'.min_le_first (h.min_le ph hph)
    · exact h'.min_le ph hph
  · rcases h'.min_mem with heq | ⟨ph, hph, heq⟩
    · rw [heq]
      exact h.min_mem.imp id fun ⟨ph, hph, heq⟩ => ⟨ph, List.mem_append_left _ hph, heq⟩
    · exact .inr ⟨ph, List.mem_append_right _ hph, heq⟩
  · intro ph hph
    rcases List.mem_append.mp hph with hph | hph
    · exact Nat.le_trans (h.le_max ph hph) h'.first_le_max
    · exact h'.le_max ph hph
  · rcases h'.max_mem with heq | ⟨ph, hph, heq⟩
    · rw [heq]
      exact h.max_mem.imp id fun ⟨ph, hph, heq⟩ => ⟨ph, List.mem_append_left _ hph, heq⟩
    · exact .inr ⟨ph, List.mem_append_right _ hph, heq⟩

/-- **What the loop leaves in `min_paddr` and `max_end`.** -/
theorem spanOf_foldl (first : ElfSpan) (phs : List Phdr) :
    SpanOf first phs (phs.foldl ElfSpan.grow first) := by
  induction phs generalizing first with
  | nil =>
    exact ⟨Nat.le_refl _, fun _ h => (by cases h), .inl rfl, Nat.le_refl _,
      fun _ h => (by cases h), .inl rfl⟩
  | cons ph phs ih => exact (spanOf_grow first ph).trans (ih _)

/-! ## 2. The size -/

/-- The greatest end minus the least start, over exact integers; 0 where there is no segment. -/
def ExactTotal (phs : List Phdr) (total : Nat) : Prop :=
  phs = [] ∧ total = 0 ∨
    ∃ top ∈ phs, ∃ low ∈ phs,
      (∀ ph ∈ phs, ph.endAddr ≤ top.endAddr ∧ low.paddr.toNat ≤ ph.paddr.toNat) ∧
        total = top.endAddr - low.paddr.toNat

/-- No end wraps; or all do, over less than the whole range, and not all start at its end. -/
def TotalFits (phs : List Phdr) : Prop :=
  (∀ ph ∈ phs, ph.endAddr < 2 ^ 64) ∨
    (∀ ph ∈ phs, 2 ^ 64 ≤ ph.endAddr ∧ ∀ q ∈ phs, ph.endAddr < q.paddr.toNat + 2 ^ 64) ∧
      ∃ ph ∈ phs, ph.paddr ≠ uint64Max

/-- The least start and the greatest wrapped end of some segments are those of two of them. -/
theorem span_ends {phs : List Phdr} (hne : phs ≠ []) {span : ElfSpan} (h : SpanOf .start phs span) :
    (∃ low ∈ phs, span.minPaddr = low.paddr) ∧
      ∃ top ∈ phs, span.maxEnd.toNat = top.endAddr % 2 ^ 64 := by
  obtain ⟨any, hany⟩ := List.exists_mem_of_ne_nil phs hne
  constructor
  · rcases h.min_mem with heq | hmem
    · have hle := h.min_le any hany
      have hlt := UInt64.toNat_lt any.paddr
      have hstart : (ElfSpan.start.minPaddr).toNat = 2 ^ 64 - 1 := rfl
      rw [heq, hstart] at hle
      refine ⟨any, hany, UInt64.toNat_inj.mp ?_⟩
      rw [heq, hstart]
      omega
    · exact hmem
  · rcases h.max_mem with heq | hmem
    · have hle := h.le_max any hany
      have hstart : (ElfSpan.start.maxEnd).toNat = 0 := rfl
      rw [heq, hstart] at hle ⊢
      exact ⟨any, hany, by omega⟩
    · exact hmem

theorem toNat_total (span : ElfSpan) :
    span.minPaddr.toNat = 2 ^ 64 - 1 ∧ span.total.toNat = 0 ∨
      span.minPaddr.toNat < 2 ^ 64 - 1 ∧
        span.total.toNat = (2 ^ 64 - span.minPaddr.toNat + span.maxEnd.toNat) % 2 ^ 64 := by
  have hlt := UInt64.toNat_lt span.minPaddr
  have hmax : uint64Max.toNat = 2 ^ 64 - 1 := rfl
  unfold ElfSpan.total
  by_cases h : span.minPaddr = uint64Max
  · refine .inl ⟨by rw [h, hmax], ?_⟩
    rw [if_pos h]
    rfl
  · refine .inr ⟨?_, by rw [if_neg h, UInt64.toNat_sub]⟩
    have hne : span.minPaddr.toNat ≠ uint64Max.toNat := fun heq => h (UInt64.toNat_inj.mp heq)
    omega

theorem paddr_le_endAddr (ph : Phdr) : ph.paddr.toNat ≤ ph.endAddr := Nat.le_add_right _ _

theorem endAddr_lt (ph : Phdr) : ph.endAddr < 2 ^ 65 := by
  have hpaddr := UInt64.toNat_lt ph.paddr
  have hmemsz := UInt64.toNat_lt ph.memsz
  unfold Phdr.endAddr
  omega

/-- The segment that starts first, the one whose wrapped end is greatest, and the size computed
    from them. -/
structure EndsOf (phs : List Phdr) (low top : Phdr) (total : Nat) : Prop where
  low_mem : low ∈ phs
  top_mem : top ∈ phs
  low_le : ∀ ph ∈ phs, low.paddr.toNat ≤ ph.paddr.toNat
  le_top : ∀ ph ∈ phs, ph.endAddr % 2 ^ 64 ≤ top.endAddr % 2 ^ 64
  size : low.paddr.toNat = 2 ^ 64 - 1 ∧ total = 0 ∨
    low.paddr.toNat < 2 ^ 64 - 1 ∧
      total = (2 ^ 64 - low.paddr.toNat + top.endAddr % 2 ^ 64) % 2 ^ 64

theorem exists_endsOf {phs : List Phdr} (hne : phs ≠ []) :
    ∃ low top, EndsOf phs low top (phs.foldl ElfSpan.grow .start).total.toNat := by
  have hspan := spanOf_foldl .start phs
  obtain ⟨⟨low, hlow, hmin⟩, top, htop, hmax⟩ := span_ends hne hspan
  have hmin_le := hspan.min_le
  have hle_max := hspan.le_max
  have htotal := toNat_total (phs.foldl ElfSpan.grow .start)
  rw [hmin] at hmin_le
  rw [hmax] at hle_max
  rw [hmin, hmax] at htotal
  exact ⟨low, top, hlow, htop, hmin_le, hle_max, htotal⟩

namespace EndsOf

variable {phs : List Phdr} {low top : Phdr} {total : Nat} (h : EndsOf phs low top total)

include h

theorem fits_of_exact (hexact : ExactTotal phs total) : TotalFits phs := by
  rcases hexact with ⟨hempty, -⟩ | ⟨hi, hhi, lo, hlo, hall, heq⟩
  · exact absurd hempty (List.ne_nil_of_mem h.low_mem)
  have hsame : lo.paddr.toNat = low.paddr.toNat :=
    Nat.le_antisymm (hall low h.low_mem).2 (h.low_le lo hlo)
  rw [hsame] at heq
  have hsize := h.size
  by_cases hfit : ∀ ph ∈ phs, ph.endAddr < 2 ^ 64
  · exact .inl hfit
  -- some end wraps, so the greatest does
  have hwraps : 2 ^ 64 ≤ hi.endAddr := by
    by_contra hlt
    exact hfit fun ph hph => Nat.lt_of_le_of_lt (hall ph hph).1 (Nat.lt_of_not_le hlt)
  have hlowlt := UInt64.toNat_lt low.paddr
  have hspread : hi.endAddr < low.paddr.toNat + 2 ^ 64 := by
    rcases hsize with ⟨h1, h2⟩ | ⟨h1, h2⟩ <;> omega
  refine .inr ⟨fun ph hph => ⟨?_, fun q hq => ?_⟩, low, h.low_mem, ?_⟩
  · by_contra hlt
    have h1 := h.le_top ph hph
    have h2 := h.low_le ph hph
    have h3 := paddr_le_endAddr ph
    rw [Nat.mod_eq_of_lt (Nat.lt_of_not_le hlt)] at h1
    have h4 := Nat.mod_lt top.endAddr (Nat.two_pow_pos 64)
    rcases hsize with ⟨h5, h6⟩ | ⟨h5, h6⟩ <;> omega
  · have h1 := (hall ph hph).1
    have h2 := h.low_le q hq
    omega
  · intro hlast
    have hlastNat : low.paddr.toNat = 2 ^ 64 - 1 := by rw [hlast]; rfl
    rcases hsize with ⟨h1, h2⟩ | ⟨h1, h2⟩ <;> omega

/-- No end wraps. -/
theorem exact_of_below (hall : ∀ ph ∈ phs, ph.endAddr < 2 ^ 64) : ExactTotal phs total := by
  have htopmod := Nat.mod_eq_of_lt (hall top h.top_mem)
  refine .inr ⟨top, h.top_mem, low, h.low_mem, fun ph hph => ⟨?_, h.low_le ph hph⟩, ?_⟩
  · have h1 := h.le_top ph hph
    rwa [htopmod, Nat.mod_eq_of_lt (hall ph hph)] at h1
  · have htoplt := hall top h.top_mem
    have htople := paddr_le_endAddr top
    have hlowtop := h.low_le top h.top_mem
    have hsize := h.size
    rw [htopmod] at hsize
    rcases hsize with ⟨h1, h2⟩ | ⟨h1, h2⟩ <;> omega

/-- All ends wrap, over less than the whole range. -/
theorem exact_of_wrapped
    (hall : ∀ ph ∈ phs, 2 ^ 64 ≤ ph.endAddr ∧ ∀ q ∈ phs, ph.endAddr < q.paddr.toNat + 2 ^ 64)
    {other : Phdr} (hother : other ∈ phs) (hne : other.paddr ≠ uint64Max) :
    ExactTotal phs total := by
  have hsub : ∀ ph ∈ phs, ph.endAddr % 2 ^ 64 = ph.endAddr - 2 ^ 64 := fun ph hph => by
    have h1 := (hall ph hph).1
    have h2 := endAddr_lt ph
    omega
  have htop := (hall top h.top_mem).1
  refine .inr ⟨top, h.top_mem, low, h.low_mem, fun ph hph => ⟨?_, h.low_le ph hph⟩, ?_⟩
  · have h1 := h.le_top ph hph
    have h2 := (hall ph hph).1
    rw [hsub top h.top_mem, hsub ph hph] at h1
    omega
  · have h1 := (hall top h.top_mem).2 low h.low_mem
    have h2 := h.low_le other hother
    have h3 := UInt64.toNat_lt other.paddr
    have h4 : other.paddr.toNat ≠ 2 ^ 64 - 1 := fun heq => hne (UInt64.toNat_inj.mp heq)
    have hsize := h.size
    rw [hsub top h.top_mem] at hsize
    rcases hsize with ⟨h5, h6⟩ | ⟨h5, h6⟩ <;> omega

end EndsOf

/-- **The loader reports the exact size in these cases, and in no others.** -/
theorem exactTotal_iff (phs : List Phdr) :
    ExactTotal phs (phs.foldl ElfSpan.grow .start).total.toNat ↔ TotalFits phs := by
  by_cases hnil : phs = []
  · subst hnil
    exact ⟨fun _ => .inl fun _ h => (by cases h), fun _ => .inl ⟨rfl, rfl⟩⟩
  obtain ⟨low, top, hends⟩ := exists_endsOf hnil
  constructor
  · exact hends.fits_of_exact
  · rintro (hall | ⟨hall, other, hother, hne⟩)
    · exact hends.exact_of_below hall
    · exact hends.exact_of_wrapped hall hother hne

end HvisorTool
