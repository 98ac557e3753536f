/-
  File:      HvisorTool/Virtio/ChainReads.lean
  Subject:   WHICH DESCRIPTORS `process_descriptor_chain_buf` READS, and what it makes of a
             chain that is malformed.

  The index of a direct descriptor is never compared with the size of the queue, the pointer to an
  indirect table is not checked, and both loops end with success when their rounds are used up.

  * `DescRead`, `tracedChainBuf`: the walker with its descriptor reads logged;
    `tracedChainBuf_call`: its result is that of the walker;
  * `BadLinks`, `Malformed`: an index out of range, a cycle, a table that is not mapped;
  * `Passes`: the buffers of the first descriptors translate and fit, so the walk goes on;
  * `tracedChain_reads`, `walkChain_ok`: the reads and the success, descriptor by descriptor;
  * `Guarded`: the chains on which the walker's checks suffice;
  * `chain_reads_iff`: on these alone the reads stay inside the tables and a malformed
    chain is refused.
-/
import HvisorTool.Library.Links
import HvisorTool.Library.Traced
import HvisorTool.Virtio.Agree
import HvisorTool.Virtio.Used

namespace HvisorTool

open Library

/-! ## 1. The walker and its reads -/

/-- A read of a descriptor: in the queue's table, or in an indirect table of so many
    entries. -/
inductive DescRead where
  | direct (index : UInt16)
  | indirect (table : UInt64) (count : Nat) (index : UInt16)
  deriving DecidableEq, Repr

/-- The read is inside its table, and there is a table. -/
def DescRead.InBounds (vq : VirtQueue) : DescRead → Prop
  | .direct index => vq.descTable ≠ 0 ∧ index.toNat < vq.num.toNat
  | .indirect table count index => table ≠ 0 ∧ index.toNat < count

section Walker

variable (zm : ZoneTable) (mem : Mem) (vq : VirtQueue) (cfg : VirtioBufConfig)

/-- `walkIndirect`, with its reads. -/
def tracedIndirect (table : UInt64) (count : Nat) :
    Nat → UInt16 → VirtioRequest → Traced DescRead ChainError VirtioRequest
  | 0, _, req => .lift (.ok req)
  | j + 1, next, req =>
    if next.toNat ≥ count then .lift (.error .fail)
    else .tell (.indirect table count next) <|
      if table = 0 then .lift (.error .segv)
      else
        let d := readDesc mem table next
        (Traced.lift (pushBuffer zm vq cfg d req)).bind fun req =>
          if d.hasNext then tracedIndirect table count j d.next req else .lift (.ok req)

/-- `walkDesc`, with its reads. -/
def tracedDesc (d : VirtqDesc) (req : VirtioRequest) : Traced DescRead ChainError VirtioRequest :=
  if d.isIndirect then
    tracedIndirect zm mem vq cfg (vq.translate zm d.addr) d.tableLen.toNat d.tableLen.toNat 0 req
  else .lift (pushBuffer zm vq cfg d req)

/-- `walkChain`, with its reads. -/
def tracedChain : Nat → UInt16 → VirtioRequest → Traced DescRead ChainError VirtioRequest
  | 0, _, req => .lift (.ok req)
  | iter + 1, next, req => .tell (.direct next) <|
      if vq.descTable = 0 then .lift (.error .segv)
      else
        let d := readDesc mem vq.descTable next
        (tracedDesc zm mem vq cfg d req).bind fun req =>
          if d.hasNext then tracedChain iter d.next req else .lift (.ok req)

/-- `process_descriptor_chain_buf` with its reads: the return value, and `*req` and the queue
    as the call leaves them. -/
def tracedChainBuf (head : UInt16) (old : VirtioRequest) :
    Traced DescRead ChainError (Int × VirtioRequest × VirtQueue) :=
  let walk := tracedChain zm mem vq cfg vq.num.toNat head .empty
  { log := walk.log
    result := match walk.result with
      | .ok req => .ok (req.count, req, vq.advance)
      | .error .fail => .ok (-1, old, vq)
      | .error e => .error e }

variable {zm mem vq cfg}

theorem tracedIndirect_result (table : UInt64) (count j : Nat) (next : UInt16)
    (req : VirtioRequest) :
    (tracedIndirect zm mem vq cfg table count j next req).result =
      walkIndirect zm mem vq cfg table count j next req := by
  induction j generalizing next req with
  | zero => rfl
  | succ j ih =>
    unfold tracedIndirect walkIndirect
    split
    · rfl
    · rw [Traced.result_tell]
      split
      · rfl
      · dsimp only
        rw [Traced.result_bind, Traced.result_lift]
        refine bind_congr fun req' => ?_
        split
        · exact ih _ _
        · rfl

theorem tracedDesc_result (d : VirtqDesc) (req : VirtioRequest) :
    (tracedDesc zm mem vq cfg d req).result = walkDesc zm mem vq cfg d req := by
  unfold tracedDesc walkDesc
  split
  · exact tracedIndirect_result ..
  · rfl

theorem tracedChain_result (iter : Nat) (next : UInt16) (req : VirtioRequest) :
    (tracedChain zm mem vq cfg iter next req).result = walkChain zm mem vq cfg iter next req := by
  induction iter generalizing next req with
  | zero => rfl
  | succ iter ih =>
    unfold tracedChain walkChain
    rw [Traced.result_tell]
    split
    · rfl
    · dsimp only
      rw [Traced.result_bind, tracedDesc_result]
      refine bind_congr fun req' => ?_
      split
      · exact ih _ _
      · rfl

/-- **The log does not change what the walker does**: it returns what the devices' call of
    it returns. -/
theorem tracedChainBuf_call (head : UInt16) :
    (tracedChainBuf zm mem vq cfg head .empty).result = chainBufCall zm mem vq cfg head := by
  unfold tracedChainBuf chainBufCall processDescriptorChainBuf
  dsimp only
  rw [tracedChain_result]
  cases walkChain zm mem vq cfg vq.num.toNat head .empty with
  | ok req => rfl
  | error e => cases e <;> rfl

end Walker

/-! ## 2. Malformed chains -/

/-- The links of a descriptor table. -/
def tableLinks (mem : Mem) (table : UInt64) : Links UInt16 where
  more i := (readDesc mem table i).hasNext
  next i := (readDesc mem table i).next

variable {table : UInt64}

theorem tableLinks_reaches_succ {mem : Mem} {next : UInt16} {k : Nat} :
    (tableLinks mem table).Reaches next (k + 1) ↔ (readDesc mem table next).hasNext = true ∧
      (tableLinks mem table).Reaches (readDesc mem table next).next k :=
  Links.reaches_succ

/-- The chain at `start` comes to an index outside of a table of `n` entries, or to a
    descriptor twice. -/
def BadLinks (mem : Mem) (table : UInt64) (n : Nat) (start : UInt16) : Prop :=
  (∃ k, (tableLinks mem table).Reaches start k ∧ n ≤ ((tableLinks mem table).after start k).toNat) ∨
    (tableLinks mem table).Cycles start

section Malformed

variable (zm : ZoneTable) (mem : Mem) (vq : VirtQueue) (head : UInt16)

/-- The `k`-th descriptor behind the head. -/
def directDesc (k : Nat) : VirtqDesc :=
  readDesc mem vq.descTable ((tableLinks mem vq.descTable).after head k)

/-- The table of an indirect descriptor is not mapped, or the chain in it is bad. A table
    without entries has no chain. -/
def BadTable (d : VirtqDesc) : Prop :=
  vq.translate zm d.addr = 0 ∨
    0 < d.tableLen.toNat ∧ BadLinks mem (vq.translate zm d.addr) d.tableLen.toNat 0

/-- **The chain is malformed**: an index out of range or a cycle, in the queue's table or in
    the table of an indirect descriptor of the chain, or such a table that is not mapped. -/
def Malformed : Prop :=
  BadLinks mem vq.descTable vq.num.toNat head ∨
    ∃ k, (tableLinks mem vq.descTable).Reaches head k ∧
      (directDesc mem vq head k).isIndirect = true ∧ BadTable zm mem vq (directDesc mem vq head k)

end Malformed

/-- A chain without bad links ends within its table. -/
theorem endsWithin_of_not_bad {mem : Mem} {n : Nat} {start : UInt16}
    (h : ¬ BadLinks mem table n start) : (tableLinks mem table).EndsWithin start n := by
  refine Links.endsWithin_of_not_cycles UInt16.toNat (fun _ _ => UInt16.toNat.inj)
    (fun k hk => Nat.not_le.mp fun hle => h (.inl ⟨k, hk, hle⟩)) fun hc => h (.inr hc)

/-- A chain that ends within its table and stays in it has no bad links. -/
theorem not_bad_of_endsWithin {mem : Mem} {n : Nat} {start : UInt16}
    (hend : (tableLinks mem table).EndsWithin start n)
    (hin : ∀ k < n, (tableLinks mem table).Reaches start k →
      ((tableLinks mem table).after start k).toNat < n) : ¬ BadLinks mem table n start := by
  rintro (⟨k, hk, hle⟩ | hc)
  · obtain ⟨e, he, -, hstop⟩ := hend
    have hlt := hin k (Nat.lt_of_le_of_lt (hk.le_end hstop) he) hk
    omega
  · exact hend.not_cycles hc

/-! ## 3. How far the walk goes -/

section Passes

variable (zm : ZoneTable) (mem : Mem) (vq : VirtQueue) (cfg : VirtioBufConfig)

/-- The items of the first `k` descriptors from `next` on. -/
def firstItems : Nat → UInt16 → List ChainItem
  | 0, _ => []
  | k + 1, next =>
    descItems zm mem vq (readDesc mem vq.descTable next) ++
      firstItems k (readDesc mem vq.descTable next).next

/-- **The walk goes by the first `k` descriptors**: they stand for buffers alone, each of
    which translates, and which fit behind what is in the arrays. -/
def Passes (req : VirtioRequest) (next : UInt16) (k : Nat) : Prop :=
  ∃ ds : List VirtqDesc, firstItems zm mem vq k next = ds.map ChainItem.buffer ∧
    (∀ d ∈ ds, vq.translate zm d.addr ≠ 0) ∧ (req.add zm vq ds).Within cfg

variable {zm mem vq cfg} {req : VirtioRequest} {next : UInt16} {k : Nat}

theorem passes_iff (hw : req.Within cfg) :
    Passes zm mem vq cfg req next k ↔
      ∃ req', (firstItems zm mem vq k next).foldlM (takeItem zm vq cfg) req = .ok req' := by
  constructor
  · rintro ⟨ds, hitems, htr, hfit⟩
    exact ⟨_, (takeItems_ok_iff hw).mpr ⟨ds, hitems, htr, rfl, hfit⟩⟩
  · rintro ⟨req', h⟩
    obtain ⟨ds, hitems, htr, rfl, hfit⟩ := (takeItems_ok_iff hw).mp h
    exact ⟨ds, hitems, htr, hfit⟩

theorem passes_zero (hw : req.Within cfg) (next : UInt16) : Passes zm mem vq cfg req next 0 :=
  (passes_iff hw).mpr ⟨req, rfl⟩

theorem walkDesc_within {d : VirtqDesc} {req' : VirtioRequest} (hw : req.Within cfg)
    (h : walkDesc zm mem vq cfg d req = .ok req') : req'.Within cfg := by
  rw [walkDesc_eq] at h
  obtain ⟨-, -, -, -, hfit⟩ := (takeItems_ok_iff hw).mp h
  exact hfit

/-- One descriptor, and the others behind it. -/
theorem passes_succ (hw : req.Within cfg) :
    Passes zm mem vq cfg req next (k + 1) ↔
      ∃ req', walkDesc zm mem vq cfg (readDesc mem vq.descTable next) req = .ok req' ∧
        Passes zm mem vq cfg req' (readDesc mem vq.descTable next).next k := by
  rw [passes_iff hw, firstItems]
  constructor
  · rintro ⟨r, h⟩
    rw [List.foldlM_append, ← walkDesc_eq] at h
    obtain ⟨req', hdesc, hrest⟩ := bind_eq_ok.mp h
    exact ⟨req', hdesc, (passes_iff (walkDesc_within hw hdesc)).mpr ⟨r, hrest⟩⟩
  · rintro ⟨req', hdesc, hrest⟩
    obtain ⟨r, hrest⟩ := (passes_iff (walkDesc_within hw hdesc)).mp hrest
    refine ⟨r, ?_⟩
    rw [List.foldlM_append, ← walkDesc_eq, hdesc]
    exact hrest

theorem directDesc_succ (mem : Mem) (vq : VirtQueue) (next : UInt16) (k : Nat) :
    directDesc mem vq next (k + 1) = directDesc mem vq (readDesc mem vq.descTable next).next k := by
  have hstep := Links.after_next (L := tableLinks mem vq.descTable) next k
  unfold directDesc
  rw [← hstep]
  rfl

/-- A descriptor that the walk goes by is walked from some request. -/
theorem Passes.walked (hw : req.Within cfg) (h : Passes zm mem vq cfg req next (k + 1)) :
    ∃ req₁ req₂, walkDesc zm mem vq cfg (directDesc mem vq next k) req₁ = .ok req₂ := by
  induction k generalizing req next with
  | zero =>
    obtain ⟨req', hdesc, -⟩ := (passes_succ hw).mp h
    exact ⟨req, req', hdesc⟩
  | succ k ih =>
    obtain ⟨req', hdesc, hrest⟩ := (passes_succ hw).mp h
    rw [directDesc_succ]
    exact ih (walkDesc_within hw hdesc) hrest

/-- **The walk succeeds if and only if it goes by every descriptor it comes to.** -/
theorem walkChain_ok (h0 : vq.descTable ≠ 0) (hw : req.Within cfg) (iter : Nat) (next : UInt16) :
    (∃ req', walkChain zm mem vq cfg iter next req = .ok req') ↔
      ∀ k < iter, (tableLinks mem vq.descTable).Reaches next k →
        Passes zm mem vq cfg req next (k + 1) := by
  induction iter generalizing next req with
  | zero => exact ⟨fun _ k hk => absurd hk (Nat.not_lt_zero k), fun _ => ⟨req, rfl⟩⟩
  | succ iter ih =>
    unfold walkChain
    rw [if_neg h0]
    dsimp only
    constructor
    · rintro ⟨r, h⟩ k hk hreach
      obtain ⟨req', hdesc, hrest⟩ := bind_eq_ok.mp h
      have hw' := walkDesc_within hw hdesc
      refine (passes_succ hw).mpr ⟨req', hdesc, ?_⟩
      cases k with
      | zero => exact passes_zero hw' _
      | succ k =>
        obtain ⟨hmore, hreach⟩ := tableLinks_reaches_succ.mp hreach
        rw [if_pos hmore] at hrest
        exact (ih hw' _).mp ⟨r, hrest⟩ k (Nat.lt_of_succ_lt_succ hk) hreach
    · intro h
      obtain ⟨req', hdesc, -⟩ := (passes_succ hw).mp (h 0 (Nat.succ_pos iter) (Links.reaches_zero _))
      rw [hdesc, ok_bind]
      split
      · next hmore =>
        refine (ih (walkDesc_within hw hdesc) _).mpr fun k hk hreach => ?_
        obtain ⟨req'', hdesc', hrest⟩ := (passes_succ hw).mp
          (h (k + 1) (Nat.succ_lt_succ hk) (tableLinks_reaches_succ.mpr ⟨hmore, hreach⟩))
        rw [hdesc] at hdesc'
        cases hdesc'
        exact hrest
      · exact ⟨req', rfl⟩

/-! ## 4. The reads, descriptor by descriptor -/

/-- The reads of one table are inside it if it is mapped; the loop itself checks the index. -/
theorem tracedIndirect_reads (table : UInt64) (count j : Nat) (next : UInt16)
    (req : VirtioRequest) :
    (∀ r ∈ (tracedIndirect zm mem vq cfg table count j next req).log, r.InBounds vq) ↔
      (0 < j → next.toNat < count → table ≠ 0) := by
  induction j generalizing next req with
  | zero => exact iff_of_true (fun r hr => by cases hr) fun h => absurd h (Nat.lt_irrefl 0)
  | succ j ih =>
    unfold tracedIndirect
    split
    · next hge =>
      exact iff_of_true (fun r hr => by cases hr) fun _ hlt => absurd hlt (Nat.not_lt.mpr hge)
    · next hlt =>
      rw [Traced.log_tell, List.forall_mem_cons]
      constructor
      · exact fun h _ _ => h.1.1
      · intro h
        have htable := h (Nat.succ_pos j) (Nat.not_le.mp hlt)
        refine ⟨⟨htable, Nat.not_le.mp hlt⟩, ?_⟩
        rw [if_neg htable, Traced.forall_log_bind]
        refine ⟨fun r hr => (by cases hr), fun req' _ => ?_⟩
        split
        · exact (ih _ _).mpr fun _ _ => htable
        · exact fun r hr => by cases hr

/-- The table of an indirect descriptor is mapped, if it has entries. -/
def MappedTable (zm : ZoneTable) (vq : VirtQueue) (d : VirtqDesc) : Prop :=
  d.isIndirect = true → 0 < d.tableLen.toNat → vq.translate zm d.addr ≠ 0

theorem tracedDesc_reads (d : VirtqDesc) (req : VirtioRequest) :
    (∀ r ∈ (tracedDesc zm mem vq cfg d req).log, r.InBounds vq) ↔ MappedTable zm vq d := by
  unfold tracedDesc MappedTable
  split
  · next hind =>
    rw [tracedIndirect_reads]
    exact ⟨fun h _ hlen => h hlen hlen, fun h hlen _ => h hind hlen⟩
  · next hind => exact iff_of_true (fun r hr => by cases hr) fun h => absurd h hind

/-- What the reads need of the `k`-th descriptor. -/
def ReadsInside (zm : ZoneTable) (mem : Mem) (vq : VirtQueue) (next : UInt16) (k : Nat) : Prop :=
  vq.descTable ≠ 0 ∧ ((tableLinks mem vq.descTable).after next k).toNat < vq.num.toNat ∧
    MappedTable zm vq (directDesc mem vq next k)

theorem readsInside_succ {zm : ZoneTable} :
    ReadsInside zm mem vq next (k + 1) ↔
      ReadsInside zm mem vq (readDesc mem vq.descTable next).next k := by
  have hstep := Links.after_next (L := tableLinks mem vq.descTable) next k
  unfold ReadsInside
  rw [directDesc_succ, ← hstep]
  rfl

/-- **The reads stay inside the tables if and only if they do at every descriptor that the
    walk comes to.** -/
theorem tracedChain_reads (hw : req.Within cfg) (iter : Nat) (next : UInt16) :
    (∀ r ∈ (tracedChain zm mem vq cfg iter next req).log, r.InBounds vq) ↔
      ∀ k < iter, (tableLinks mem vq.descTable).Reaches next k → Passes zm mem vq cfg req next k →
        ReadsInside zm mem vq next k := by
  induction iter generalizing next req with
  | zero => exact iff_of_true (fun r hr => by cases hr) fun k hk => absurd hk (Nat.not_lt_zero k)
  | succ iter ih =>
    unfold tracedChain
    rw [Traced.log_tell, List.forall_mem_cons]
    constructor
    · rintro ⟨⟨h0, hlt⟩, hreads⟩
      rw [if_neg h0, Traced.forall_log_bind] at hreads
      obtain ⟨hdesc, hrest⟩ := hreads
      intro k hk hreach hpass
      cases k with
      | zero => exact ⟨h0, hlt, (tracedDesc_reads _ _).mp hdesc⟩
      | succ k =>
        obtain ⟨req', hok, hpass⟩ := (passes_succ hw).mp hpass
        obtain ⟨hmore, hreach⟩ := tableLinks_reaches_succ.mp hreach
        have hrest := hrest req' (tracedDesc_result _ _ ▸ hok)
        rw [if_pos hmore] at hrest
        exact readsInside_succ.mpr ((ih (walkDesc_within hw hok) _).mp hrest k
          (Nat.lt_of_succ_lt_succ hk) hreach hpass)
    · intro h
      obtain ⟨h0, hlt, hmapped⟩ := h 0 (Nat.succ_pos iter) (Links.reaches_zero _) (passes_zero hw _)
      refine ⟨⟨h0, hlt⟩, ?_⟩
      rw [if_neg h0, Traced.forall_log_bind]
      refine ⟨(tracedDesc_reads _ _).mpr hmapped, fun req' hok => ?_⟩
      rw [tracedDesc_result] at hok
      split
      · next hmore =>
        refine (ih (walkDesc_within hw hok) _).mpr fun k hk hreach hpass => ?_
        exact readsInside_succ.mp (h (k + 1) (Nat.succ_lt_succ hk)
          (tableLinks_reaches_succ.mpr ⟨hmore, hreach⟩) ((passes_succ hw).mpr ⟨req', hok, hpass⟩))
      · exact fun r hr => by cases hr

variable {e : ChainError}

theorem pushBuffer_error {d : VirtqDesc}
    (h : pushBuffer zm vq cfg d req = .error e) : e = .fail := by
  unfold pushBuffer pushDescriptor at h
  dsimp only at h
  split at h
  · cases h
    rfl
  · split at h <;> split at h <;> cases h <;> rfl

/-- A walk of a table whose reads stay inside it does not fault. -/
theorem tracedIndirect_safe {table : UInt64} {count j : Nat}
    (hreads : ∀ r ∈ (tracedIndirect zm mem vq cfg table count j next req).log, r.InBounds vq)
    (h : walkIndirect zm mem vq cfg table count j next req = .error e) : e = .fail := by
  induction j generalizing next req with
  | zero => cases h
  | succ j ih =>
    unfold walkIndirect at h
    rw [tracedIndirect_reads] at hreads
    split at h
    · cases h
      rfl
    · next hlt =>
      have htable := hreads (Nat.succ_pos j) (Nat.not_le.mp hlt)
      rw [if_neg htable] at h
      obtain h | ⟨req', -, h⟩ := bind_eq_error.mp h
      · exact pushBuffer_error h
      · split at h
        · exact ih ((tracedIndirect_reads ..).mpr fun _ _ => htable) h
        · cases h

/-- **A walk whose reads stay inside the tables does not fault**: it returns or refuses. -/
theorem tracedChain_safe {iter : Nat}
    (hreads : ∀ r ∈ (tracedChain zm mem vq cfg iter next req).log, r.InBounds vq)
    (h : walkChain zm mem vq cfg iter next req = .error e) : e = .fail := by
  induction iter generalizing next req with
  | zero => cases h
  | succ iter ih =>
    unfold walkChain at h
    unfold tracedChain at hreads
    rw [Traced.log_tell, List.forall_mem_cons] at hreads
    obtain ⟨⟨h0, -⟩, hreads⟩ := hreads
    rw [if_neg h0] at h
    rw [if_neg h0, Traced.forall_log_bind] at hreads
    obtain ⟨hdesc, hrest⟩ := hreads
    obtain h | ⟨req', hok, h⟩ := bind_eq_error.mp h
    · unfold walkDesc at h
      unfold tracedDesc at hdesc
      split at h
      · next hind =>
        rw [if_pos hind] at hdesc
        exact tracedIndirect_safe hdesc h
      · exact pushBuffer_error h
    · have hrest := hrest req' (by rw [tracedDesc_result, hok])
      split at h
      · next hmore =>
        rw [if_pos hmore] at hrest
        exact ih hrest h
      · cases h

/-- A table that is walked to the end is not left. -/
theorem walkIndirect_inside {table : UInt64} {count j : Nat} {req' : VirtioRequest}
    (h : walkIndirect zm mem vq cfg table count j next req = .ok req') :
    ∀ k < j, (tableLinks mem table).Reaches next k →
      ((tableLinks mem table).after next k).toNat < count := by
  induction j generalizing next req with
  | zero => exact fun k hk => absurd hk (Nat.not_lt_zero k)
  | succ j ih =>
    unfold walkIndirect at h
    split at h
    · cases h
    · next hlt =>
      split at h
      · cases h
      · obtain ⟨req₁, -, h⟩ := bind_eq_ok.mp h
        intro k hk hreach
        cases k with
        | zero => exact Nat.not_le.mp hlt
        | succ k =>
          obtain ⟨hmore, hreach⟩ := tableLinks_reaches_succ.mp hreach
          rw [if_pos hmore] at h
          rw [← Links.after_next]
          exact ih h k (Nat.lt_of_succ_lt_succ hk) hreach

end Passes

/-! ## 5. When the checks suffice -/

/-- The chain ends within the size of the queue; every indirect table is mapped and has
    entries enough for its chain. -/
def ChainEnds (zm : ZoneTable) (mem : Mem) (vq : VirtQueue) (head : UInt16) : Prop :=
  (tableLinks mem vq.descTable).EndsWithin head vq.num.toNat ∧
    ∀ k < vq.num.toNat, (tableLinks mem vq.descTable).Reaches head k →
      (directDesc mem vq head k).isIndirect = true →
        vq.translate zm (directDesc mem vq head k).addr ≠ 0 ∧
          (0 < (directDesc mem vq head k).tableLen.toNat →
            (tableLinks mem (vq.translate zm (directDesc mem vq head k).addr)).EndsWithin 0
              (directDesc mem vq head k).tableLen.toNat)

/-- **The walker's checks suffice for the chain.** At each descriptor it comes to with the
    buffers before it translated and stored, the index is below the size of the queue and a
    table with entries is mapped; and if no buffer stops it, the chain ends. -/
structure Guarded (zm : ZoneTable) (mem : Mem) (vq : VirtQueue) (cfg : VirtioBufConfig)
    (head : UInt16) : Prop where
  reads : ∀ k < vq.num.toNat, (tableLinks mem vq.descTable).Reaches head k →
    Passes zm mem vq cfg .empty head k → ReadsInside zm mem vq head k
  ends : (∀ k < vq.num.toNat, (tableLinks mem vq.descTable).Reaches head k →
      Passes zm mem vq cfg .empty head (k + 1)) →
    ChainEnds zm mem vq head

section Guarded

variable {zm : ZoneTable} {mem : Mem} {vq : VirtQueue} {cfg : VirtioBufConfig} {head : UInt16}

/-- **A malformed chain on which the checks suffice stops the walk.** -/
theorem Guarded.not_malformed (h : Guarded zm mem vq cfg head) {req : VirtioRequest}
    (hok : walkChain zm mem vq cfg vq.num.toNat head .empty = .ok req) :
    ¬ Malformed zm mem vq head := by
  have hw := within_empty cfg
  have h0 : 0 < vq.num.toNat → vq.descTable ≠ 0 := fun hnum =>
    (h.reads 0 hnum (Links.reaches_zero _) (passes_zero hw head)).1
  have hpass : ∀ k < vq.num.toNat, (tableLinks mem vq.descTable).Reaches head k →
      Passes zm mem vq cfg .empty head (k + 1) := fun k hk =>
    (walkChain_ok (h0 (Nat.zero_lt_of_lt hk)) hw _ _).mp ⟨req, hok⟩ k hk
  obtain ⟨hend, htables⟩ := h.ends hpass
  -- the walk goes by every descriptor of the chain, so it read each
  have hinside : ∀ k < vq.num.toNat, (tableLinks mem vq.descTable).Reaches head k →
      ReadsInside zm mem vq head k := by
    intro k hk hreach
    refine h.reads k hk hreach ?_
    cases k with
    | zero => exact passes_zero hw head
    | succ k => exact hpass k (Nat.lt_of_succ_lt hk) (hreach.mono (Nat.le_succ k))
  rintro (hbad | ⟨k, hreach, hind, hbad⟩)
  · exact not_bad_of_endsWithin hend (fun k hk hreach => (hinside k hk hreach).2.1) hbad
  · obtain ⟨e, he, -, hstop⟩ := hend
    have hk := Nat.lt_of_le_of_lt (hreach.le_end hstop) he
    obtain ⟨hmapped, htable⟩ := htables k hk hreach hind
    obtain hnull | ⟨hlen, hbad⟩ := hbad
    · exact hmapped hnull
    · obtain ⟨req₁, req₂, hwalk⟩ := (hpass k hk hreach).walked hw
      rw [walkDesc, if_pos hind] at hwalk
      exact not_bad_of_endsWithin (htable hlen) (walkIndirect_inside hwalk) hbad

/-- A chain that is not malformed ends where the walk does. -/
theorem ends_of_not_malformed (h : ¬ Malformed zm mem vq head) : ChainEnds zm mem vq head := by
  refine ⟨endsWithin_of_not_bad fun hbad => h (.inl hbad), fun k _ hreach hind => ⟨?_, ?_⟩⟩
  · exact fun hnull => h (.inr ⟨k, hreach, hind, .inl hnull⟩)
  · exact fun hlen => endsWithin_of_not_bad fun hbad => h (.inr ⟨k, hreach, hind, .inr ⟨hlen, hbad⟩⟩)

end Guarded

/-- **Every descriptor read is inside its table and a malformed chain is refused, with the
    request and the queue as they were, exactly where the checks suffice.** -/
theorem chain_reads_iff (zm : ZoneTable) (mem : Mem) (vq : VirtQueue) (cfg : VirtioBufConfig)
    (head : UInt16) (old : VirtioRequest) :
    ((∀ r ∈ (tracedChainBuf zm mem vq cfg head old).log, r.InBounds vq) ∧
      (Malformed zm mem vq head →
        (tracedChainBuf zm mem vq cfg head old).result = .ok (-1, old, vq))) ↔
      Guarded zm mem vq cfg head := by
  have hw := within_empty cfg
  have hreads : (∀ r ∈ (tracedChain zm mem vq cfg vq.num.toNat head .empty).log, r.InBounds vq) ↔ _ :=
    tracedChain_reads hw vq.num.toNat head
  constructor
  · rintro ⟨hlog, hrefuse⟩
    refine ⟨hreads.mp hlog, fun hpass => ends_of_not_malformed fun hbad => ?_⟩
    -- the walk goes by every descriptor, so it is no refusal
    obtain ⟨req, hok⟩ : ∃ req, walkChain zm mem vq cfg vq.num.toNat head .empty = .ok req := by
      cases hnum : vq.num.toNat with
      | zero => exact ⟨_, rfl⟩
      | succ n =>
          have h0 := (hreads.mp hlog 0 (by omega) (Links.reaches_zero _) (passes_zero hw head)).1
          rw [← hnum]
          exact (walkChain_ok h0 hw _ _).mpr hpass
    have hresult := hrefuse hbad
    unfold tracedChainBuf at hresult
    dsimp only at hresult
    rw [tracedChain_result, hok] at hresult
    cases hresult
  · intro h
    have hlog := hreads.mpr h.reads
    refine ⟨hlog, fun hbad => ?_⟩
    unfold tracedChainBuf
    dsimp only
    rw [tracedChain_result]
    cases hwalk : walkChain zm mem vq cfg vq.num.toNat head .empty with
    | ok req => exact absurd hbad (h.not_malformed hwalk)
    | error e =>
        obtain rfl := tracedChain_safe hlog hwalk
        rfl

/-- Two linked buffers on a queue of size one: from the first, the chain goes on to an index
    out of range and the walker returns one buffer with success; from the second, the walker
    reads the descriptor outside of the table. -/
theorem out_of_range_accepted :
    Malformed onePage twoBufferMem (twoBufferQueue 1) 0 ∧
      (tracedChainBuf onePage twoBufferMem (twoBufferQueue 1) ⟨2, 2⟩ 0 .empty).result =
        .ok (1, ⟨[⟨0x10000, 1⟩], []⟩, (twoBufferQueue 1).advance) ∧
      .direct 1 ∈ (tracedChainBuf onePage twoBufferMem (twoBufferQueue 1) ⟨2, 2⟩ 1 .empty).log ∧
      ¬ (DescRead.direct 1).InBounds (twoBufferQueue 1) := by
  refine ⟨.inl (.inl ⟨1, ?_, by decide⟩), by decide, by decide, fun h => absurd h.2 (by decide)⟩
  intro j hj
  obtain rfl : j = 0 := by omega
  decide

end HvisorTool
