/-
  File:      HvisorTool/Virtio/ChainTotal.lean
  Subject:   WHEN `process_descriptor_chain` RETURNS, inside its arrays and with every slot
             of the announced length filled.

  Neither pass has a bound of its own: an indirect descriptor does not count against the size of the
  queue, and the inner loop of the second pass runs to the end of the chain in the table, whatever
  the table's length. Behind a table the second pass skips a slot, or ends.

  * `countLoop_skip`, `countLoop_total`: the first pass returns for every chain that
    announces a length;
  * `IndLength`: how many descriptors the chain in an indirect table has;
    `copyIndirect_length`, `copyIndirect_total`: the inner loop makes so many rounds;
  * `copyLoop_prefix`, `copyLoop_skip`: the second pass up to the first indirect descriptor;
  * `ChainFits`: the chains that both passes agree about;
  * `process_chain_total_iff`: the walker returns with its arrays filled exactly for these.
-/
import HvisorTool.Virtio.Agree

namespace HvisorTool

open Library

variable {zm : ZoneTable} {mem : Mem} {vq : VirtQueue} {head : UInt16} {cap chainLen : Int}
  {copyFlags : Bool}

/-! ## 1. The first pass -/

variable {k n m fuel : Nat} {next : UInt16} {arr arr' : IovArray} {appendLen : UInt32}

/-- One round of the first pass, at a descriptor with NEXT. -/
theorem countLoop_next (h0 : vq.descTable ≠ 0) (fuel : Nat)
    (hnext : (chainDesc mem vq head k).hasNext = true)
    (hlt : (directs mem vq head k : Int) < asInt vq.num.toUInt32) :
    countLoop mem vq (fuel + 1) (directs mem vq head k) (chainIndex mem vq head k)
        (UInt32.ofNat (tables mem vq head k)) =
      countLoop mem vq fuel (directs mem vq head (k + 1)) (chainIndex mem vq head (k + 1))
        (UInt32.ofNat (tables mem vq head (k + 1))) := by
  have hd : readDesc mem vq.descTable (chainIndex mem vq head k) = chainDesc mem vq head k := rfl
  have hidx : chainIndex mem vq head (k + 1) = (chainDesc mem vq head k).next := rfl
  rw [countLoop, if_pos hlt, if_neg h0, hd]
  dsimp only
  rw [if_pos hnext, hidx, directs, tables]
  cases (chainDesc mem vq head k).isIndirect
  · simp
  · simp [UInt32.ofNat_add]

/-- The rounds up to a descriptor of the chain. -/
theorem countLoop_skip (h0 : vq.descTable ≠ 0)
    (hprev : ∀ j < k, (chainDesc mem vq head j).hasNext = true ∧
      (directs mem vq head j : Int) < asInt vq.num.toUInt32) (fuel : Nat) :
    countLoop mem vq (fuel + k) 0 head 0 =
      countLoop mem vq fuel (directs mem vq head k) (chainIndex mem vq head k)
        (UInt32.ofNat (tables mem vq head k)) := by
  induction k generalizing fuel with
  | zero => rfl
  | succ k ih =>
    have hround := hprev k (Nat.lt_succ_self k)
    have hskip := ih (fun j hj => hprev j (Nat.lt_succ_of_lt hj)) (fuel + 1)
    rw [Nat.add_right_comm fuel 1 k] at hskip
    exact hskip.trans (countLoop_next h0 fuel hround.1 hround.2)

/-- **The first pass returns for every chain that announces a length.** -/
theorem countLoop_total (h0 : vq.descTable ≠ 0) (h : Announces mem vq head n) :
    ∃ k, ∀ fuel, k < fuel → ∃ chainLen i, countLoop mem vq fuel 0 head 0 = .ok (chainLen, i) ∧
      chainLen + UInt32.ofInt (i + 1) = UInt32.ofNat n := by
  obtain ⟨k, hprev, hend⟩ := h
  refine ⟨k, fun fuel hfuel => ?_⟩
  obtain ⟨f, rfl⟩ : ∃ f, fuel = f + 1 + k := ⟨fuel - k - 1, by omega⟩
  have hskip := countLoop_skip h0 hprev (f + 1)
  have hret : ∃ r, countLoop mem vq (f + 1 + k) 0 head 0 = .ok r := by
    rw [hskip, countLoop]
    obtain ⟨hge, -⟩ | ⟨hlt, hlast, -⟩ := hend
    · rw [if_neg (by omega)]
      exact ⟨_, rfl⟩
    · have hd : readDesc mem vq.descTable (chainIndex mem vq head k) = chainDesc mem vq head k := rfl
      rw [if_pos hlt, if_neg h0, hd]
      dsimp only
      rw [hlast]
      exact ⟨_, rfl⟩
  obtain ⟨⟨chainLen, i⟩, hret⟩ := hret
  obtain ⟨n', hann, hn'⟩ := countLoop_announces (k := 0) (fun j hj => absurd hj (Nat.not_lt_zero j)) hret
  exact ⟨chainLen, i, hret, by rw [hn', hann.unique ⟨k, hprev, hend⟩]⟩

/-! ## 2. The chain in an indirect table -/

/-- The chain in the table has so many descriptors. -/
def IndLength (mem : Mem) (table : UInt64) : Nat → UInt16 → Prop
  | 0, _ => False
  | m + 1, next =>
    if (readDesc mem table next).hasNext then IndLength mem table m (readDesc mem table next).next
    else m = 0

/-- The slots behind the table are for its descriptors. -/
theorem IndLength.slot {table : UInt64} (h : IndLength mem table m next)
    (j : Nat) : indSlot mem table j next ≠ none ↔ j < m := by
  induction m generalizing next j with
  | zero => cases h
  | succ m ih =>
    cases j with
    | zero => exact iff_of_true (fun hnone => by cases hnone) (Nat.succ_pos m)
    | succ j =>
      unfold IndLength at h
      rw [indSlot]
      split at h
      · next hnext =>
        rw [if_pos hnext, ih h j]
        omega
      · next hnext =>
        rw [if_neg hnext]
        exact iff_of_false (fun hne => hne rfl) (by omega)

/-- **The inner loop makes as many rounds as the chain in the table has descriptors**, each
    inside the array. -/
theorem copyIndirect_length {indTable : UInt64} {i i' : Nat}
    {tableLen tableLen' : Int}
    (h : copyIndirect zm mem vq cap copyFlags indTable fuel i next tableLen arr =
      .ok (arr', i', tableLen')) :
    indTable ≠ 0 ∧ ∃ m, IndLength mem indTable m next ∧ i' = i + m ∧ (i' : Int) ≤ cap := by
  induction fuel generalizing i next tableLen arr with
  | zero => cases h
  | succ fuel ih =>
    unfold copyIndirect at h
    split at h
    · cases h
    · next htable =>
      obtain ⟨arr₁, hstore, h⟩ := bind_eq_ok.mp h
      obtain ⟨hlt, -⟩ := descriptor2iov_ok hstore
      split at h
      · next hnext =>
        obtain ⟨-, m, hm, hi, hcap⟩ := ih h
        refine ⟨htable, m + 1, ?_, by omega, hcap⟩
        rw [IndLength, if_pos hnext]
        exact hm
      · next hnext =>
        cases h
        refine ⟨htable, 1, ?_, rfl, by omega⟩
        rw [IndLength, if_neg hnext]

/-- With room for them it makes them all. -/
theorem copyIndirect_total (vq : VirtQueue) (copyFlags : Bool) {indTable : UInt64}
    (h0 : indTable ≠ 0) {i : Nat} (hm : IndLength mem indTable m next) (hcap : (i + m : Int) ≤ cap)
    (hfuel : m ≤ fuel) (tableLen : Int) (arr : IovArray) :
    ∃ arr' tableLen', copyIndirect zm mem vq cap copyFlags indTable fuel i next tableLen arr =
      .ok (arr', i + m, tableLen') := by
  induction m generalizing i fuel next tableLen arr with
  | zero => cases hm
  | succ m ih =>
    obtain ⟨f, rfl⟩ : ∃ f, fuel = f + 1 := ⟨fuel - 1, by omega⟩
    push_cast at hcap
    rw [copyIndirect, if_neg h0]
    dsimp only
    rw [descriptor2iov_within (by omega), ok_bind]
    unfold IndLength at hm
    split at hm
    · next hnext =>
      rw [if_pos hnext]
      obtain ⟨arr', tableLen', hrest⟩ := ih hm (show ((i + 1 : Nat) + m : Int) ≤ cap by omega)
        (show m ≤ f by omega) (tableLen - 1) _
      refine ⟨arr', tableLen', hrest.trans ?_⟩
      rw [Nat.add_right_comm i 1 m]
      rfl
    · next hnext =>
      subst hm
      rw [if_neg hnext]
      exact ⟨_, _, rfl⟩

/-! ## 3. The second pass -/

section Copy

/-- One round of the second pass. -/
theorem copyLoop_round (h0 : vq.descTable ≠ 0) (hlt : (k : Int) < chainLen) (fuel : Nat)
    (arr : IovArray) :
    copyLoop zm mem vq cap copyFlags chainLen (fuel + 1) k (chainIndex mem vq head k) arr =
      if (chainDesc mem vq head k).isIndirect then
        copyIndirect zm mem vq cap copyFlags (vq.translate zm (chainDesc mem vq head k).addr) fuel k 0
          (chainDesc mem vq head k).tableLen.toNat arr >>= fun r =>
          if r.2.2 ≠ 0 then .ok r.1
          else copyLoop zm mem vq cap copyFlags chainLen fuel (r.2.1 + 1)
            (chainIndex mem vq head (k + 1)) r.1
      else descriptor2iov zm vq cap copyFlags k (chainDesc mem vq head k) arr >>= fun arr =>
        copyLoop zm mem vq cap copyFlags chainLen fuel (k + 1) (chainIndex mem vq head (k + 1)) arr := by
  rw [copyLoop, if_pos hlt, if_neg h0]
  rfl

/-- A pass that makes a round reads the table. -/
theorem copyLoop_table
    (hlt : (k : Int) < chainLen)
    (h : copyLoop zm mem vq cap copyFlags chainLen fuel k next arr = .ok arr') : vq.descTable ≠ 0 := by
  cases fuel with
  | zero => cases h
  | succ fuel =>
    intro h0
    rw [copyLoop, if_pos hlt, if_pos h0] at h
    cases h

/-- A pass that returns came by every descriptor of a direct run, inside the array. -/
theorem copyLoop_prefix
    (h : copyLoop zm mem vq cap copyFlags chainLen fuel 0 head arr = .ok arr')
    (hdirect : ∀ j < k, (chainDesc mem vq head j).isIndirect = false) (hlen : (k : Int) ≤ chainLen) :
    (0 < k → (k : Int) ≤ cap) ∧ ∃ fuel' arr₁,
      copyLoop zm mem vq cap copyFlags chainLen fuel' k (chainIndex mem vq head k) arr₁ = .ok arr' := by
  induction k with
  | zero => exact ⟨fun hpos => absurd hpos (Nat.lt_irrefl 0), fuel, arr, h⟩
  | succ k ih =>
    push_cast at hlen
    obtain ⟨-, fuel', arr₁, hat⟩ := ih (fun j hj => hdirect j (Nat.lt_succ_of_lt hj)) (by omega)
    have hlt : (k : Int) < chainLen := by omega
    cases fuel' with
    | zero => cases hat
    | succ fuel' =>
      rw [copyLoop_round (copyLoop_table hlt hat) hlt, hdirect k (Nat.lt_succ_self k)] at hat
      obtain ⟨arr₂, hstore, hat⟩ := bind_eq_ok.mp hat
      obtain ⟨hcap, -⟩ := descriptor2iov_ok hstore
      exact ⟨fun _ => by push_cast; omega, fuel', arr₂, hat⟩

/-- With room for them the pass comes by the descriptors of a direct run. -/
theorem copyLoop_skip (zm : ZoneTable) (copyFlags : Bool) (h0 : vq.descTable ≠ 0)
    (hdirect : ∀ j < k, (chainDesc mem vq head j).isIndirect = false) (hlen : (k : Int) ≤ chainLen)
    (hcap : (k : Int) ≤ cap) (fuel : Nat) (arr : IovArray) :
    ∃ arr₁, copyLoop zm mem vq cap copyFlags chainLen (fuel + k) 0 head arr =
      copyLoop zm mem vq cap copyFlags chainLen fuel k (chainIndex mem vq head k) arr₁ := by
  induction k generalizing fuel with
  | zero => exact ⟨arr, rfl⟩
  | succ k ih =>
    push_cast at hlen hcap
    obtain ⟨arr₁, hskip⟩ := ih (fun j hj => hdirect j (Nat.lt_succ_of_lt hj)) (by omega) (by omega)
      (fuel + 1)
    rw [copyLoop_round h0 (by omega), hdirect k (Nat.lt_succ_self k), if_neg Bool.false_ne_true,
      descriptor2iov_within (by omega), ok_bind, Nat.add_right_comm] at hskip
    exact ⟨_, hskip⟩

/-- Behind a direct run the slots are for the rest of the chain. -/
theorem slotDesc_behind (zm : ZoneTable)
    (hdirect : ∀ j < k, (chainDesc mem vq head j).isIndirect = false) (i : Nat) :
    slotDesc zm mem vq (k + i) head = slotDesc zm mem vq i (chainIndex mem vq head k) := by
  induction k generalizing i with
  | zero => rw [Nat.zero_add, chainIndex]
  | succ k ih =>
    have hrest := ih (fun j hj => hdirect j (Nat.lt_succ_of_lt hj)) (i + 1)
    have hk : (readDesc mem vq.descTable (chainIndex mem vq head k)).isIndirect = false :=
      hdirect k (Nat.lt_succ_self k)
    rw [Nat.add_right_comm, Nat.add_assoc, hrest, slotDesc]
    simp only [hk, Bool.false_eq_true, if_false]
    rfl

/-- A slot in a direct run is for its descriptor. -/
theorem slotDesc_direct (hdirect : ∀ j < k, (chainDesc mem vq head j).isIndirect = false) {i : Nat}
    (hi : i < k) : slotDesc zm mem vq i head ≠ none := by
  have hat := slotDesc_behind zm (fun j hj => hdirect j (Nat.lt_trans hj hi)) 0
  have hk : (readDesc mem vq.descTable (chainIndex mem vq head i)).isIndirect = false := hdirect i hi
  rw [Nat.add_zero] at hat
  rw [hat, slotDesc]
  simp [hk]

end Copy

/-! ## 4. The chains that both passes agree about -/

/-- The first indirect descriptor of the chain is the `k`-th. -/
def FirstTable (mem : Mem) (vq : VirtQueue) (head : UInt16) (k : Nat) : Prop :=
  (∀ j < k, (chainDesc mem vq head j).isIndirect = false) ∧
    (chainDesc mem vq head k).isIndirect = true

/-- **The chain announces `n` buffers and has them**: the length is an `int` for which, with
    what the caller appends, there is room; and the chain in the first indirect table that
    the second pass comes to, if any, is mapped, ends, fills the rest of the array, and stays
    inside it. -/
structure ChainFits (zm : ZoneTable) (mem : Mem) (vq : VirtQueue) (head : UInt16)
    (appendLen : UInt32) (n : Nat) : Prop where
  announced : Announces mem vq head n
  room : 0 < asInt (UInt32.ofNat n) → asInt (UInt32.ofNat n) ≤ asInt (UInt32.ofNat n + appendLen)
  table : ∀ k, FirstTable mem vq head k → (k : Int) < asInt (UInt32.ofNat n) →
    vq.translate zm (chainDesc mem vq head k).addr ≠ 0 ∧
      ∃ m, IndLength mem (vq.translate zm (chainDesc mem vq head k).addr) m 0 ∧
        asInt (UInt32.ofNat n) ≤ k + m ∧ (k + m : Int) ≤ asInt (UInt32.ofNat n + appendLen)

/-- The array up to `n` is direct, or there is a first table below. -/
theorem direct_or_firstTable (mem : Mem) (vq : VirtQueue) (head : UInt16) (n : Nat) :
    (∀ j < n, (chainDesc mem vq head j).isIndirect = false) ∨ ∃ k < n, FirstTable mem vq head k := by
  induction n with
  | zero => exact .inl fun j hj => absurd hj (Nat.not_lt_zero j)
  | succ n ih =>
    obtain hdirect | ⟨k, hk, hfirst⟩ := ih
    · cases hn : (chainDesc mem vq head n).isIndirect with
      | true => exact .inr ⟨n, Nat.lt_succ_self n, hdirect, hn⟩
      | false =>
        refine .inl fun j hj => ?_
        obtain hj | rfl := Nat.lt_succ_iff_lt_or_eq.mp hj
        · exact hdirect j hj
        · exact hn
    · exact .inr ⟨k, Nat.lt_succ_of_lt hk, hfirst⟩

/-- The slots from the first table on are for the descriptors of its chain. -/
theorem FirstTable.slot (h : FirstTable mem vq head k)
    (hm : IndLength mem (vq.translate zm (chainDesc mem vq head k).addr) m 0) (i : Nat) :
    slotDesc zm mem vq (k + i) head ≠ none ↔ i < m := by
  have hind : (readDesc mem vq.descTable (chainIndex mem vq head k)).isIndirect = true := h.2
  rw [slotDesc_behind zm h.1, slotDesc_indirect hind]
  exact hm.slot i

/-- Every slot of a chain that fits is for a descriptor. -/
theorem ChainFits.slot (h : ChainFits zm mem vq head appendLen n) {j : Nat}
    (hj : (j : Int) < asInt (UInt32.ofNat n)) : slotDesc zm mem vq j head ≠ none := by
  obtain hdirect | ⟨k, hk, hfirst⟩ := direct_or_firstTable mem vq head (j + 1)
  · exact slotDesc_direct hdirect (Nat.lt_succ_self j)
  · obtain ⟨-, m, hm, hlen, -⟩ := h.table k hfirst (by omega)
    obtain ⟨i, rfl⟩ : ∃ i, j = k + i := ⟨j - k, by omega⟩
    push_cast at hj
    exact (hfirst.slot hm i).mpr (by omega)

/-- Both passes read the table. -/
theorem passes_table {fuel' : Nat} {count : UInt32 × Int}
    (hcount : countLoop mem vq fuel 0 head 0 = .ok count) (hann : Announces mem vq head n)
    (hcopy : copyLoop zm mem vq cap copyFlags (asInt (UInt32.ofNat n)) fuel' 0 head arr = .ok arr') :
    vq.descTable ≠ 0 := by
  by_cases hnum : 0 < asInt vq.num.toUInt32
  · intro h0
    cases fuel with
    | zero => cases hcount
    | succ fuel =>
      rw [countLoop, if_pos hnum, if_pos h0] at hcount
      cases hcount
  · -- a queue of size zero: one descriptor is announced unseen, and copied
    have hone : Announces mem vq head 1 :=
      ⟨0, fun j hj => absurd hj (Nat.not_lt_zero j), .inl ⟨Int.not_lt.mp hnum, rfl⟩⟩
    obtain rfl := hann.unique hone
    exact copyLoop_table (k := 0) (by decide) hcopy

/-- **What the two passes need**: if they return with every slot filled, the chain fits. -/
theorem ChainFits.of_passes {fuel' : Nat} {count : UInt32 × Int}
    (hcount : countLoop mem vq fuel 0 head 0 = .ok count)
    (hann : Announces mem vq head n)
    (hcopy : copyLoop zm mem vq (asInt (UInt32.ofNat n + appendLen)) copyFlags
      (asInt (UInt32.ofNat n)) fuel' 0 head arr = .ok arr')
    (hslot : ∀ j : Nat, (j : Int) < asInt (UInt32.ofNat n) → slotDesc zm mem vq j head ≠ none) :
    ChainFits zm mem vq head appendLen n := by
  have h0 := passes_table hcount hann hcopy
  have htable : ∀ k, FirstTable mem vq head k → (k : Int) < asInt (UInt32.ofNat n) →
      vq.translate zm (chainDesc mem vq head k).addr ≠ 0 ∧
        ∃ m, IndLength mem (vq.translate zm (chainDesc mem vq head k).addr) m 0 ∧
          asInt (UInt32.ofNat n) ≤ k + m ∧ (k + m : Int) ≤ asInt (UInt32.ofNat n + appendLen) := by
    intro k hfirst hk
    obtain ⟨-, fuel₁, arr₁, hat⟩ := copyLoop_prefix hcopy hfirst.1 (Int.le_of_lt hk)
    cases fuel₁ with
    | zero => cases hat
    | succ fuel₁ =>
      rw [copyLoop_round h0 hk, if_pos hfirst.2] at hat
      obtain ⟨⟨arr₂, i', rest⟩, hin, -⟩ := bind_eq_ok.mp hat
      obtain ⟨hmapped, m, hm, rfl, hcap⟩ := copyIndirect_length hin
      refine ⟨hmapped, m, hm, Int.not_lt.mp fun hlt => ?_, by exact_mod_cast hcap⟩
      -- a slot behind the chain in the table would be below the length
      have hbehind := hslot (k + m) (by push_cast; exact hlt)
      exact absurd ((hfirst.slot hm m).mp hbehind) (Nat.lt_irrefl m)
  refine ⟨hann, fun hpos => ?_, htable⟩
  obtain ⟨N, hN⟩ : ∃ N : Nat, asInt (UInt32.ofNat n) = N :=
    ⟨(asInt (UInt32.ofNat n)).toNat, (Int.toNat_of_nonneg (Int.le_of_lt hpos)).symm⟩
  obtain hdirect | ⟨k, hk, hfirst⟩ := direct_or_firstTable mem vq head N
  · obtain ⟨hcap, -⟩ := copyLoop_prefix hcopy hdirect (Int.le_of_eq hN.symm)
    rw [hN]
    exact hcap (by omega)
  · obtain ⟨-, m, -, hlen, hcap⟩ := htable k hfirst (by omega)
    omega

/-- **A chain that fits is copied**, with enough fuel. -/
theorem ChainFits.copied (h : ChainFits zm mem vq head appendLen n) (h0 : vq.descTable ≠ 0)
    (copyFlags : Bool) :
    ∃ k, ∀ fuel, k < fuel → ∃ arr', copyLoop zm mem vq (asInt (UInt32.ofNat n + appendLen)) copyFlags
      (asInt (UInt32.ofNat n)) fuel 0 head freshArray = .ok arr' := by
  by_cases hpos : 0 < asInt (UInt32.ofNat n)
  · have hroom := h.room hpos
    obtain ⟨N, hN⟩ : ∃ N : Nat, asInt (UInt32.ofNat n) = N :=
      ⟨(asInt (UInt32.ofNat n)).toNat, (Int.toNat_of_nonneg (Int.le_of_lt hpos)).symm⟩
    obtain hdirect | ⟨k, hk, hfirst⟩ := direct_or_firstTable mem vq head N
    · refine ⟨N, fun fuel hfuel => ?_⟩
      obtain ⟨f, rfl⟩ : ∃ f, fuel = f + 1 + N := ⟨fuel - N - 1, by omega⟩
      obtain ⟨arr₁, hskip⟩ := copyLoop_skip zm copyFlags h0 hdirect
        (Int.le_of_eq hN.symm) (hN ▸ hroom) (f + 1) freshArray
      rw [hskip, copyLoop, if_neg (by omega)]
      exact ⟨_, rfl⟩
    · have hlt : (k : Int) < asInt (UInt32.ofNat n) := by omega
      obtain ⟨hmapped, m, hm, hlen, hcap⟩ := h.table k hfirst hlt
      refine ⟨k + m + 1, fun fuel hfuel => ?_⟩
      obtain ⟨f, rfl⟩ : ∃ f, fuel = f + m + 1 + 1 + k := ⟨fuel - k - m - 2, by omega⟩
      obtain ⟨arr₁, hskip⟩ := copyLoop_skip zm copyFlags h0 hfirst.1 (Int.le_of_lt hlt)
        (Int.le_trans (Int.le_of_lt hlt) hroom) (f + m + 1 + 1) freshArray
      obtain ⟨arr₂, rest, hin⟩ := copyIndirect_total vq copyFlags hmapped hm hcap
        (show m ≤ f + m + 1 by omega) (chainDesc mem vq head k).tableLen.toNat arr₁
      rw [hskip, copyLoop_round h0 hlt, if_pos hfirst.2, hin, ok_bind]
      dsimp only
      split
      · exact ⟨_, rfl⟩
      · rw [copyLoop, if_neg (by push_cast; omega)]
        exact ⟨_, rfl⟩
  · refine ⟨0, fun fuel hfuel => ?_⟩
    obtain ⟨f, rfl⟩ : ∃ f, fuel = f + 1 := ⟨fuel - 1, by omega⟩
    rw [copyLoop, if_neg (by simpa using hpos)]
    exact ⟨_, rfl⟩

/-! ## 5. When the walker returns -/

/-- **`process_descriptor_chain` returns, inside its arrays and with every slot below the
    returned length written, exactly** if no request is available, or the head starts a
    chain that fits the arrays its announced length makes. -/
theorem process_chain_total_iff (zm : ZoneTable) (mem : Mem) (vq : VirtQueue) (appendLen : UInt32)
    (copyFlags : Bool) :
    (∃ fuel r, processDescriptorChain zm mem vq fuel appendLen copyFlags = .ok r ∧
      ∀ j : Nat, (j : Int) < r.ret → r.arr j ≠ none) ↔
      vq.availRing ≠ 0 ∧ (vq.lastAvailIdx ≠ vq.availIdx mem →
        vq.descTable ≠ 0 ∧ ∃ n, ChainFits zm mem vq (vq.availHead mem) appendLen n) := by
  constructor
  · rintro ⟨fuel, r, h, hfilled⟩
    refine ⟨fun h0 => ?_, fun hnew => ?_⟩
    · rw [processDescriptorChain, if_pos h0] at h
      cases h
    · obtain ⟨-, -, -, -, -, -, hhole⟩ := processDescriptorChain_ok h hnew
      obtain ⟨n, count, arr, hann, hcount, hcopy, rfl⟩ := processDescriptorChain_passes h hnew
      refine ⟨passes_table hcount hann hcopy, n, .of_passes hcount hann hcopy fun j hj hnone => ?_⟩
      obtain ⟨k, hk, hempty⟩ := hhole j hj hnone
      exact hfilled k hk hempty
  · rintro ⟨hring, hnext⟩
    by_cases hnew : vq.lastAvailIdx = vq.availIdx mem
    · refine ⟨0, ⟨0, none, freshArray, vq⟩, ?_, fun j hj => absurd hj (by simp)⟩
      rw [processDescriptorChain, if_neg hring, if_pos hnew]
    · obtain ⟨h0, n, hfits⟩ := hnext hnew
      obtain ⟨k₁, hcount⟩ := countLoop_total h0 hfits.announced
      obtain ⟨k₂, hcopy⟩ := hfits.copied h0 copyFlags
      obtain ⟨chainLen, i, hcount, hn⟩ := hcount (k₁ + k₂ + 1) (by omega)
      obtain ⟨arr, hcopy⟩ := hcopy (k₁ + k₂ + 1) (by omega)
      have hret : processDescriptorChain zm mem vq (k₁ + k₂ + 1) appendLen copyFlags =
          .ok ⟨asInt (UInt32.ofNat n), some (vq.availHead mem), arr, vq.advance⟩ := by
        rw [processDescriptorChain, if_neg hring, if_neg hnew]
        dsimp only
        rw [hcount, ok_bind]
        dsimp only
        rw [hn, hcopy, ok_bind]
      refine ⟨_, _, hret, fun j hj => ?_⟩
      obtain ⟨n', hann, hret', -, -, hfill, -⟩ := processDescriptorChain_ok hret hnew
      obtain ⟨d, hd⟩ := Option.ne_none_iff_exists'.mp (hfits.slot hj)
      rw [hfill j d hj hd]
      exact Option.some_ne_none _

/-- Guest memory: one descriptor in the table at 0x10000, linked to itself and indirect with an
    empty table; and an available ring at 0x10100 with one request. -/
def endlessMem : Mem := fun a =>
  if a = 0x1000C then 5 else if a = 0x10102 then 1 else 0

/-- A queue of size one on that memory. -/
def endlessQueue : VirtQueue :=
  { (default : VirtQueue) with num := 1, descTable := 0x10000, availRing := 0x10100 }

theorem endless_countLoop (fuel : Nat) :
    countLoop endlessMem endlessQueue fuel 0 0 0 = .error .outOfFuel := by
  induction fuel with
  | zero => rfl
  | succ fuel ih => exact ih

/-- An indirect descriptor with NEXT that links to itself does not count against the size of
    the queue: the first pass does not end. -/
theorem endless_chain_never_returns :
    endlessQueue.lastAvailIdx ≠ endlessQueue.availIdx endlessMem ∧
      ¬ ∃ fuel r, processDescriptorChain onePage endlessMem endlessQueue fuel 0 true = .ok r := by
  refine ⟨by decide, fun ⟨fuel, r, hret⟩ => ?_⟩
  obtain ⟨n, count, arr, -, hcount, -, -⟩ := processDescriptorChain_passes hret (by decide)
  have hhead : endlessQueue.availHead endlessMem = 0 := by decide
  rw [hhead, endless_countLoop] at hcount
  cases hcount

end HvisorTool
