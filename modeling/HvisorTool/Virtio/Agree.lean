/-
  File:      HvisorTool/Virtio/Agree.lean
  Subject:   THE TWO CHAIN WALKERS AGREE on well-formed chains.

  * `Linked`: a run of table entries linked by NEXT;
  * `WellFormedChain`: direct descriptors, and at most one indirect one, at the
    end, whose table is used up by its chain; with the list of its buffers;
  * `countLoop_linked`, `slotDesc_linked`, `chainItems_linked`, …: each loop goes
    through a linked run entry by entry;
  * `walkers_agree`: both walkers return the number of buffers, the two-pass one
    the list itself, the single-pass one its two halves;
  * `walkers_differ_on_huge_queue`: they differ on a queue size of 2^31, which
    the two-pass walker reads as a negative `int`.
-/
import HvisorTool.Virtio.Chain

namespace HvisorTool

open Library

/-! ## 1. Well-formed chains -/

/-- From `next` over the entries of a list, each linked to its successor, to `last`. -/
def Linked (mem : Mem) (table : UInt64) : UInt16 → List UInt16 → UInt16 → Prop
  | next, [], last => next = last
  | next, i :: is, last =>
    next = i ∧ (readDesc mem table i).hasNext = true ∧
      (readDesc mem table i).isIndirect = false ∧ Linked mem table (readDesc mem table i).next is last

/-- `WellFormedChain zm mem vq head total ds`: the chain at `head` is well formed,
    has `total` descriptors in the direct table, and its buffers are `ds`. -/
inductive WellFormedChain (zm : ZoneTable) (mem : Mem) (vq : VirtQueue) (head : UInt16) :
    Nat → List VirtqDesc → Prop where
  | direct (is : List UInt16) (last : UInt16)
      (link : Linked mem vq.descTable head is last)
      (ends : (readDesc mem vq.descTable last).hasNext = false ∧
        (readDesc mem vq.descTable last).isIndirect = false)
      (distinct : (is ++ [last]).Nodup)
      (range : ∀ i ∈ is ++ [last], i.toNat < vq.num.toNat)
      (mapped : ∀ i ∈ is ++ [last], vq.translate zm (readDesc mem vq.descTable i).addr ≠ 0) :
      WellFormedChain zm mem vq head (is.length + 1)
        ((is ++ [last]).map (readDesc mem vq.descTable))
  | indirect (is : List UInt16) (last : UInt16) (js : List UInt16) (stop : UInt16)
      (link : Linked mem vq.descTable head is last)
      (ends : (readDesc mem vq.descTable last).hasNext = false ∧
        (readDesc mem vq.descTable last).isIndirect = true)
      (distinct : (is ++ [last]).Nodup)
      (range : ∀ i ∈ is ++ [last], i.toNat < vq.num.toNat)
      (mapped : ∀ i ∈ is ++ [last], vq.translate zm (readDesc mem vq.descTable i).addr ≠ 0)
      (len : (readDesc mem vq.descTable last).len.toNat = 16 * (js.length + 1))
      (indLink : Linked mem (vq.translate zm (readDesc mem vq.descTable last).addr) 0 js stop)
      (indEnds : (readDesc mem (vq.translate zm (readDesc mem vq.descTable last).addr)
          stop).hasNext = false ∧
        (readDesc mem (vq.translate zm (readDesc mem vq.descTable last).addr)
          stop).isIndirect = false)
      (indRange : ∀ j ∈ js ++ [stop], j.toNat < js.length + 1)
      (indMapped : ∀ j ∈ js ++ [stop], vq.translate zm
        (readDesc mem (vq.translate zm (readDesc mem vq.descTable last).addr) j).addr ≠ 0) :
      WellFormedChain zm mem vq head (is.length + 1)
        (is.map (readDesc mem vq.descTable) ++
          (js ++ [stop]).map (readDesc mem (vq.translate zm (readDesc mem vq.descTable last).addr)))

section Loops

variable {zm : ZoneTable} {mem : Mem} {vq : VirtQueue}

/-! ## 2. The two-pass walker on linked runs -/

variable {is js : List UInt16} {next last : UInt16}

theorem countLoop_linked (h0 : vq.descTable ≠ 0) {i : Int}
    (hlink : Linked mem vq.descTable next is last) (hnum : i + is.length ≤ asInt vq.num.toUInt32)
    (fuel : Nat) (chainLen : UInt32) :
    countLoop mem vq (fuel + is.length) i next chainLen =
      countLoop mem vq fuel (i + is.length) last chainLen := by
  induction is generalizing next i with
  | nil =>
    cases hlink
    simp
  | cons a is ih =>
    obtain ⟨rfl, hn, hd, hlink⟩ := hlink
    rw [List.length_cons] at hnum ⊢
    push_cast at hnum ⊢
    rw [← Nat.add_assoc, countLoop, if_pos (by omega), if_neg h0]
    simp only [hn, hd, if_true, Bool.false_eq_true, if_false]
    rw [ih hlink (by omega)]
    congr 1
    omega

theorem slotDesc_linked (hlink : Linked mem vq.descTable next is last) {rest : List VirtqDesc}
    (hrest : ∀ j d, rest[j]? = some d → slotDesc zm mem vq j last = some d) :
    ∀ j d, (is.map (readDesc mem vq.descTable) ++ rest)[j]? = some d →
      slotDesc zm mem vq j next = some d := by
  induction is generalizing next with
  | nil =>
    cases hlink
    exact hrest
  | cons a is ih =>
    obtain ⟨rfl, hn, hd, hlink⟩ := hlink
    intro j d hj
    cases j with
    | zero =>
      rw [List.map_cons, List.cons_append, List.getElem?_cons_zero] at hj
      simp only [slotDesc, hd, Bool.false_eq_true, if_false]
      exact hj
    | succ j =>
      rw [List.map_cons, List.cons_append, List.getElem?_cons_succ] at hj
      simp only [slotDesc, hd, Bool.false_eq_true, if_false]
      exact ih hlink j d hj

theorem indSlot_linked {table : UInt64} (hlink : Linked mem table next js last) :
    ∀ j d, ((js ++ [last]).map (readDesc mem table))[j]? = some d →
      indSlot mem table j next = some d := by
  induction js generalizing next with
  | nil =>
    cases hlink
    intro j d hj
    cases j with
    | zero => exact hj
    | succ j => simp at hj
  | cons a js ih =>
    obtain ⟨rfl, hn, -, hlink⟩ := hlink
    intro j d hj
    cases j with
    | zero => exact hj
    | succ j =>
      rw [List.cons_append, List.map_cons, List.getElem?_cons_succ] at hj
      rw [indSlot, if_pos hn]
      exact ih hlink j d hj

variable {cap chainLen : Int} {copyFlags : Bool}

theorem descriptor2iov_within {i : Nat} (h : (i : Int) < cap) (d : VirtqDesc) (arr : IovArray) :
    descriptor2iov zm vq cap copyFlags i d arr =
      .ok (Function.update arr i (some (d.slot zm vq copyFlags))) := by
  unfold descriptor2iov
  rw [if_pos h]

/-- The inner loop goes through a linked run to its end, inside the array. -/
theorem copyIndirect_linked {table : UInt64} (h0 : table ≠ 0)
    (hlink : Linked mem table next js last) (hends : (readDesc mem table last).hasNext = false)
    {i fuel : Nat} (hcap : (i + js.length : Int) < cap) (hfuel : js.length < fuel) (tableLen : Int)
    (arr : IovArray) :
    ∃ arr', copyIndirect zm mem vq cap copyFlags table fuel i next tableLen arr =
      .ok (arr', i + js.length + 1, tableLen - (js.length + 1)) := by
  induction js generalizing next i fuel tableLen arr with
  | nil =>
    cases hlink
    obtain ⟨f, rfl⟩ : ∃ f, fuel = f + 1 := ⟨fuel - 1, by omega⟩
    rw [copyIndirect, if_neg h0]
    dsimp only
    rw [descriptor2iov_within (by simpa using hcap), ok_bind, hends]
    exact ⟨_, rfl⟩
  | cons a js ih =>
    obtain ⟨rfl, hn, -, hlink⟩ := hlink
    rw [List.length_cons] at hcap hfuel ⊢
    push_cast at hcap ⊢
    obtain ⟨f, rfl⟩ : ∃ f, fuel = f + 1 := ⟨fuel - 1, by omega⟩
    rw [copyIndirect, if_neg h0]
    dsimp only
    rw [descriptor2iov_within (by omega), ok_bind, if_pos hn]
    obtain ⟨arr', h⟩ := ih hlink (show ((i + 1 : Nat) + js.length : Int) < cap by omega)
      (show js.length < f by omega) (tableLen - 1) _
    refine ⟨arr', h.trans ?_⟩
    congr 3 <;> omega

/-- The outer loop goes through a linked run and on from behind it. -/
theorem copyLoop_linked (h0 : vq.descTable ≠ 0)
    (hlink : Linked mem vq.descTable next is last) {i fuel : Nat}
    (hlen : (i + is.length : Int) ≤ chainLen) (hcap : chainLen ≤ cap)
    (hrest : ∀ arr, ∃ arr', copyLoop zm mem vq cap copyFlags chainLen fuel (i + is.length) last arr =
      .ok arr') (arr : IovArray) :
    ∃ arr', copyLoop zm mem vq cap copyFlags chainLen (fuel + is.length) i next arr = .ok arr' := by
  induction is generalizing next i arr with
  | nil =>
    cases hlink
    exact hrest arr
  | cons a is ih =>
    obtain ⟨rfl, hn, hd, hlink⟩ := hlink
    rw [List.length_cons] at hlen hrest ⊢
    push_cast at hlen
    rw [← Nat.add_assoc, copyLoop, if_pos (by omega), if_neg h0]
    simp only [hd, Bool.false_eq_true, if_false]
    rw [descriptor2iov_within (by omega), ok_bind]
    refine ih hlink (by push_cast; omega) (fun arr => ?_) _
    have e : i + 1 + is.length = i + (is.length + 1) := by omega
    rw [e]
    exact hrest arr

/-! ## 3. The single-pass walker on linked runs -/

theorem chainItems_linked (h0 : vq.descTable ≠ 0) (hlink : Linked mem vq.descTable next is last)
    (iter : Nat) :
    chainItems zm mem vq (iter + is.length) next =
      (is.map (readDesc mem vq.descTable)).map .buffer ++ chainItems zm mem vq iter last := by
  induction is generalizing next with
  | nil =>
    cases hlink
    rfl
  | cons a is ih =>
    obtain ⟨rfl, hn, hd, hlink⟩ := hlink
    rw [List.length_cons, ← Nat.add_assoc, chainItems, if_neg h0]
    simp only [descItems, hd, hn, Bool.false_eq_true, if_false, if_true, List.map_cons]
    rw [ih hlink]
    rfl

theorem indirectItems_linked {table : UInt64} (h0 : table ≠ 0) {count : Nat}
    (hlink : Linked mem table next js last) (hends : (readDesc mem table last).hasNext = false)
    (hrange : ∀ j ∈ js ++ [last], j.toNat < count) :
    indirectItems mem table count (js.length + 1) next =
      ((js ++ [last]).map (readDesc mem table)).map .buffer := by
  induction js generalizing next with
  | nil =>
    cases hlink
    have hlt := hrange _ (List.mem_singleton.mpr rfl)
    rw [List.length_nil, indirectItems, if_neg (by omega), if_neg h0]
    simp [hends]
  | cons a js ih =>
    obtain ⟨rfl, hn, -, hlink⟩ := hlink
    have hlt := hrange _ List.mem_cons_self
    rw [List.length_cons, indirectItems, if_neg (by omega), if_neg h0]
    simp only [hn, if_true, List.cons_append, List.map_cons]
    rw [ih hlink fun j hj => hrange j (List.mem_cons_of_mem _ hj)]

end Loops

/-! ## 4. Well-formed chains through both walkers -/

namespace WellFormedChain

variable {zm : ZoneTable} {mem : Mem} {vq : VirtQueue} {head : UInt16} {total : Nat}
  {ds : List VirtqDesc}

theorem tableLen_eq {d : VirtqDesc} {n : Nat} (h : d.len.toNat = 16 * n) :
    d.tableLen.toNat = n := by
  have h16 : (16 : UInt32).toNat = 16 := rfl
  rw [VirtqDesc.tableLen, UInt32.toNat_div, h, h16, Nat.mul_div_cancel_left n (by decide)]

theorem total_le_length (h : WellFormedChain zm mem vq head total ds) : total ≤ ds.length := by
  cases h <;> simp

/-- The first pass counts the buffers. -/
theorem count (h : WellFormedChain zm mem vq head total ds) (h0 : vq.descTable ≠ 0)
    (hnum : (total : Int) ≤ asInt vq.num.toUInt32) {fuel : Nat} (hfuel : total ≤ fuel) :
    ∃ chainLen i, countLoop mem vq fuel 0 head 0 = .ok (chainLen, i) ∧
      chainLen + UInt32.ofInt (i + 1) = UInt32.ofNat ds.length := by
  cases h with
  | direct is last link ends =>
    push_cast at hnum
    obtain ⟨f, rfl⟩ : ∃ f, fuel = f + 1 + is.length := ⟨fuel - (is.length + 1), by omega⟩
    refine ⟨0, is.length, ?_, ?_⟩
    · rw [countLoop_linked h0 link (by omega), Int.zero_add, countLoop, if_pos (by omega),
        if_neg h0]
      simp only [ends.1, ends.2, Bool.false_eq_true, if_false]
    · have e : ((is.length : Int) + 1) = ((is.length + 1 : Nat) : Int) := by push_cast; rfl
      rw [e, ofInt_natCast, UInt32.zero_add]
      simp
  | indirect is last js stop link ends _ _ _ len =>
    push_cast at hnum
    obtain ⟨f, rfl⟩ : ∃ f, fuel = f + 1 + is.length := ⟨fuel - (is.length + 1), by omega⟩
    refine ⟨(readDesc mem vq.descTable last).tableLen, is.length - 1, ?_, ?_⟩
    · rw [countLoop_linked h0 link (by omega), Int.zero_add, countLoop, if_pos (by omega),
        if_neg h0]
      simp only [ends.1, ends.2, Bool.false_eq_true, if_false, if_true, UInt32.zero_add]
    · have e : ((is.length : Int) - 1 + 1) = (is.length : Nat) := by omega
      have ht : (readDesc mem vq.descTable last).tableLen = UInt32.ofNat (js.length + 1) := by
        rw [← tableLen_eq len, UInt32.ofNat_toNat]
      rw [e, ofInt_natCast, ht, ← UInt32.ofNat_add]
      congr 1
      simp
      omega

/-- The second pass gets through. -/
theorem copy (h : WellFormedChain zm mem vq head total ds) (h0 : vq.descTable ≠ 0) {cap : Int}
    (hcap : (ds.length : Int) ≤ cap) {fuel : Nat} (hfuel : ds.length + 2 ≤ fuel)
    (copyFlags : Bool) (arr : IovArray) :
    ∃ arr', copyLoop zm mem vq cap copyFlags ds.length fuel 0 head arr = .ok arr' := by
  cases h with
  | direct is last link ends =>
    simp only [List.length_map, List.length_append, List.length_singleton] at hcap hfuel ⊢
    obtain ⟨f, rfl⟩ : ∃ f, fuel = f + 1 + 1 + is.length := ⟨fuel - (is.length + 2), by omega⟩
    refine copyLoop_linked h0 link (by push_cast; omega) hcap (fun arr => ?_) arr
    rw [copyLoop, if_pos (by push_cast; omega), if_neg h0]
    simp only [ends.2, Bool.false_eq_true, if_false]
    rw [descriptor2iov_within (by push_cast at hcap ⊢; omega), ok_bind, copyLoop,
      if_neg (by push_cast; omega)]
    exact ⟨_, rfl⟩
  | indirect is last js stop link ends _ _ mapped len indLink indEnds =>
    simp only [List.length_map, List.length_append, List.length_singleton] at hcap hfuel ⊢
    obtain ⟨f, rfl⟩ : ∃ f, fuel = f + 1 + 1 + is.length := ⟨fuel - (is.length + 2), by omega⟩
    refine copyLoop_linked h0 link (by push_cast; omega) hcap (fun arr => ?_) arr
    rw [copyLoop, if_pos (by push_cast; omega), if_neg h0]
    simp only [ends.2, if_true, tableLen_eq len]
    obtain ⟨arr', hcopy⟩ := copyIndirect_linked (mapped last (by simp)) indLink indEnds.1
      (show ((0 + is.length : Nat) + js.length : Int) < cap by push_cast at hcap ⊢; omega)
      (show js.length < f + 1 by omega) (js.length + 1 : Nat) arr
    rw [hcopy, ok_bind]
    have hz : ((js.length + 1 : Nat) : Int) - (js.length + 1) = 0 := by push_cast; omega
    simp only [hz, ne_eq, not_true_eq_false, if_false]
    rw [copyLoop, if_neg (by push_cast; omega)]
    exact ⟨_, rfl⟩

/-- The slots are for the buffers, in order. -/
theorem slots (h : WellFormedChain zm mem vq head total ds) :
    ∀ j d, ds[j]? = some d → slotDesc zm mem vq j head = some d := by
  cases h with
  | direct is last link ends =>
    rw [List.map_append]
    refine slotDesc_linked link fun j d hj => ?_
    cases j with
    | zero =>
      simp only [slotDesc, ends.2, Bool.false_eq_true, if_false]
      exact hj
    | succ j => simp at hj
  | indirect is last js stop link ends _ _ _ _ indLink =>
    refine slotDesc_linked link fun j d hj => ?_
    rw [slotDesc_indirect ends.2]
    exact indSlot_linked indLink j d hj

/-- The items of the chain are its buffers. -/
theorem items (h : WellFormedChain zm mem vq head total ds) (h0 : vq.descTable ≠ 0)
    {num : Nat} (hnum : total ≤ num) : chainItems zm mem vq num head = ds.map .buffer := by
  cases h with
  | direct is last link ends =>
    obtain ⟨m, rfl⟩ : ∃ m, num = m + 1 + is.length := ⟨num - (is.length + 1), by omega⟩
    rw [chainItems_linked h0 link, chainItems, if_neg h0]
    simp [descItems, ends.1, ends.2]
  | indirect is last js stop link ends _ _ mapped len indLink indEnds indRange =>
    obtain ⟨m, rfl⟩ : ∃ m, num = m + 1 + is.length := ⟨num - (is.length + 1), by omega⟩
    rw [chainItems_linked h0 link, chainItems, if_neg h0]
    simp only [descItems, ends.1, ends.2, if_true, Bool.false_eq_true, if_false, tableLen_eq len]
    rw [indirectItems_linked (mapped last (by simp)) indLink indEnds.1 indRange, List.append_nil]
    exact List.map_append.symm

theorem translates (h : WellFormedChain zm mem vq head total ds) :
    ∀ d ∈ ds, vq.translate zm d.addr ≠ 0 := by
  cases h with
  | direct is last _ _ _ _ mapped =>
    rw [List.forall_mem_map]
    exact mapped
  | indirect is last js stop _ _ _ _ mapped _ _ _ _ indMapped =>
    rw [List.forall_mem_append, List.forall_mem_map, List.forall_mem_map]
    exact ⟨fun i hi => mapped i (List.mem_append_left _ hi), indMapped⟩

end WellFormedChain

/-- The chain at `head` is the next request of a queue that is set up. -/
structure NextRequest (mem : Mem) (vq : VirtQueue) (head : UInt16) : Prop where
  table : vq.descTable ≠ 0
  ring : vq.availRing ≠ 0
  new : vq.lastAvailIdx ≠ vq.availIdx mem
  head : vq.availHead mem = head

/-- **The two walkers agree on every well-formed chain.** Both return the number
    of its buffers and advance the index by one; the two-pass walker yields the
    buffers in chain order with their flags, the single-pass walker the readable
    ones and the writable ones, each in chain order. -/
theorem walkers_agree (zm : ZoneTable) (mem : Mem) (vq : VirtQueue) (cfg : VirtioBufConfig)
    (head : UInt16) (total : Nat) (ds : List VirtqDesc) (appendLen : UInt32)
    (hnew : NextRequest mem vq head) (hwf : WellFormedChain zm mem vq head total ds)
    (hnum : (total : Int) ≤ asInt vq.num.toUInt32)
    (hout : (ds.filter (!·.isWrite)).length ≤ cfg.maxOut)
    (hin : (ds.filter (·.isWrite)).length ≤ cfg.maxIn)
    (happend : ds.length + appendLen.toNat < 2 ^ 31) :
    (∀ fuel ≥ ds.length + 2, ∃ r,
      processDescriptorChain zm mem vq fuel appendLen true = .ok r ∧ r.ret = ds.length ∧
      r.descIdx = some head ∧ r.vq = vq.advance ∧
      ∀ j d, ds[j]? = some d → r.arr j = some ⟨d.iovec zm vq, some d.flags⟩) ∧
    ∃ req, processDescriptorChainBuf zm mem vq cfg head = .ok (req, vq.advance) ∧
      req.count = ds.length ∧
      req.outIov = (ds.filter (!·.isWrite)).map (·.iovec zm vq) ∧
      req.inIov = (ds.filter (·.isWrite)).map (·.iovec zm vq) := by
  have hlen : asInt (UInt32.ofNat ds.length) = ds.length := by
    rw [asInt_eq, UInt32.toNat_ofNat', Nat.mod_eq_of_lt (by omega), if_pos (by omega)]
  have hcap : asInt (UInt32.ofNat ds.length + appendLen) = ds.length + appendLen.toNat := by
    rw [asInt_eq, UInt32.toNat_add, UInt32.toNat_ofNat', Nat.mod_eq_of_lt (a := ds.length) (by omega),
      Nat.mod_eq_of_lt (by omega), if_pos happend]
    push_cast
    rfl
  refine ⟨fun fuel hfuel => ?_, ?_⟩
  · have htotal := hwf.total_le_length
    obtain ⟨chainLen, i, hcount, hsum⟩ := hwf.count hnew.table hnum (show total ≤ fuel by omega)
    obtain ⟨arr, hcopy⟩ := hwf.copy hnew.table
      (show (ds.length : Int) ≤ ds.length + appendLen.toNat by omega) hfuel true freshArray
    refine ⟨⟨ds.length, some head, arr, vq.advance⟩, ?_, rfl, rfl, rfl, fun j d hj => ?_⟩
    · rw [processDescriptorChain, if_neg hnew.ring, if_neg hnew.new, hnew.head]
      dsimp only
      rw [hcount, ok_bind]
      dsimp only
      rw [hsum, hlen, hcap, hcopy, ok_bind]
    · have hj' : ((0 : Nat) + j : Int) < ds.length := by
        have := (List.getElem?_eq_some_iff.mp hj).1
        omega
      have hs := (copyLoop_slots hcopy).fill j d hj' (hwf.slots j d hj)
      rwa [Nat.zero_add] at hs
  · have hnum' : total ≤ vq.num.toNat := by
      rw [asInt_eq, UInt64.toNat_toUInt32] at hnum
      split at hnum <;> omega
    refine ⟨VirtioRequest.empty.add zm vq ds, ?_, ?_, rfl, rfl⟩
    · refine processDescriptorChainBuf_ok_iff.mpr ⟨ds, hwf.items hnew.table hnum', hwf.translates,
        rfl, ⟨?_, ?_⟩, rfl⟩
      · simpa [VirtioRequest.add, VirtioRequest.empty] using hout
      · simpa [VirtioRequest.add, VirtioRequest.empty] using hin
    · rw [VirtioRequest.count_add]
      simp [VirtioRequest.count, VirtioRequest.empty]

/-! ## 5. A queue size that is no `int` -/

/-- Guest memory: two linked one-byte buffers in the direct table at 0x10000, and
    an available ring at 0x10100 with one request. -/
def twoBufferMem : Mem := fun a =>
  if a = 0x10001 then 0x10 else if a = 0x10008 then 1 else if a = 0x1000C then 1
  else if a = 0x1000E then 1 else if a = 0x10011 then 0x10 else if a = 0x10018 then 1
  else if a = 0x10102 then 1 else 0

/-- A queue on that memory. -/
def twoBufferQueue (num : UInt64) : VirtQueue :=
  { (default : VirtQueue) with num := num, descTable := 0x10000, availRing := 0x10100 }

theorem twoBuffer_next (num : UInt64) : NextRequest twoBufferMem (twoBufferQueue num) 0 where
  table := show (0x10000 : UInt64) ≠ 0 by decide
  ring := show (0x10100 : UInt64) ≠ 0 by decide
  new := show (0 : UInt16) ≠ readU16 twoBufferMem (0x10100 + 2) by decide
  head := by
    have hz : (0 : UInt64) &&& (num - 1) = 0 := UInt64.zero_and
    show readU16 twoBufferMem (0x10100 + 4 + 2 * ((0 : UInt16).toUInt64 &&& (num - 1))) = 0
    rw [show (0 : UInt16).toUInt64 = 0 from rfl, hz]
    decide

theorem twoBuffer_wellFormed (num : UInt64) (h : 2 ≤ num.toNat) :
    WellFormedChain onePage twoBufferMem (twoBufferQueue num) 0 2
      [⟨0x1000, 1, 1, 1⟩, ⟨0x1000, 1, 0, 0⟩] := by
  have hlink : Linked twoBufferMem 0x10000 0 [0] 1 := ⟨rfl, rfl, rfl, rfl⟩
  have hmem : ∀ i ∈ ([0] ++ [1] : List UInt16), i = 0 ∨ i = 1 := by
    intro i hi
    simpa using hi
  have hends : (readDesc twoBufferMem 0x10000 1).hasNext = false ∧
      (readDesc twoBufferMem 0x10000 1).isIndirect = false := by decide
  have hds : ([0] ++ [1] : List UInt16).map (readDesc twoBufferMem 0x10000) =
      [⟨0x1000, 1, 1, 1⟩, ⟨0x1000, 1, 0, 0⟩] := by decide
  rw [← hds]
  refine @WellFormedChain.direct _ _ (twoBufferQueue num) _ [0] 1 hlink hends (by decide) ?_ ?_
  · intro i hi
    rcases hmem i hi with rfl | rfl <;> exact Nat.lt_of_lt_of_le (by decide) h
  · intro i hi
    rcases hmem i hi with rfl | rfl
    · exact show getVirtAddr onePage (readDesc twoBufferMem 0x10000 0).addr 0 ≠ 0 by decide
    · exact show getVirtAddr onePage (readDesc twoBufferMem 0x10000 1).addr 0 ≠ 0 by decide

/-- **With a queue size of 2^31 the two-pass walker counts one buffer of a
    well-formed chain of two.** -/
theorem walkers_differ_on_huge_queue :
    NextRequest twoBufferMem (twoBufferQueue 0x80000000) 0 ∧
    (∃ ds, ds.length = 2 ∧
      WellFormedChain onePage twoBufferMem (twoBufferQueue 0x80000000) 0 2 ds) ∧
    ∃ r req vq', processDescriptorChain onePage twoBufferMem (twoBufferQueue 0x80000000) 4 0 true =
        .ok r ∧ r.ret = 1 ∧
      processDescriptorChainBuf onePage twoBufferMem (twoBufferQueue 0x80000000) ⟨2, 2⟩ 0 =
        .ok (req, vq') ∧ req.count = 2 :=
  ⟨twoBuffer_next _, ⟨_, rfl, twoBuffer_wellFormed _ (by decide)⟩, _,
    ⟨[⟨0x10000, 1⟩, ⟨0x10000, 1⟩], []⟩, _, rfl, rfl, rfl, rfl⟩

/-- With a queue size of 2 they agree on it. -/
theorem walkers_agree_twoBuffer :
    ∃ r req, processDescriptorChain onePage twoBufferMem (twoBufferQueue 2) 4 0 true = .ok r ∧
      r.ret = 2 ∧
      processDescriptorChainBuf onePage twoBufferMem (twoBufferQueue 2) ⟨2, 2⟩ 0 =
        .ok (req, (twoBufferQueue 2).advance) ∧ req.count = 2 := by
  obtain ⟨hchain, req, hbuf, hcount, -⟩ := walkers_agree onePage twoBufferMem (twoBufferQueue 2)
    ⟨2, 2⟩ 0 2 _ 0 (twoBuffer_next 2) (twoBuffer_wellFormed 2 (by decide)) (by decide) (by decide)
    (by decide) (by decide)
  obtain ⟨r, hr, hret, -⟩ := hchain 4 (by decide)
  exact ⟨r, req, hr, hret, hbuf, hcount⟩

end HvisorTool
