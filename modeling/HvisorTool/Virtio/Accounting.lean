/-
  File:      HvisorTool/Virtio/Accounting.lean
  Subject:   ONE AVAILABLE ENTRY, ONE USED ENTRY, for the block, SCMI and net handlers.

  All four call `process_descriptor_chain_buf`, which advances the index itself
  when it returns 0 or more, and advance it once more when it returned 0 or
  less. The two conventions agree except on a chain without any buffer.

  * `pass`: one pass of a handler, with the guest memory and the answers of its backend as input;
  * `Exact`: it consumed one available entry and contributed one used entry with
    its head (or gave the entry back, where the tap device had no packet);
  * `PassOk`: the rings are mapped, the chain has a buffer or an obstacle, the
    walk comes to no unmapped table, and the batch arrays have room;
  * `passes_exact_iff`: a pass is exact if and only if this holds; and over any
    run of such passes the used entries are the heads, in order.
-/
import HvisorTool.Library.Machine
import HvisorTool.Library.Outcome
import HvisorTool.Blk.Request
import HvisorTool.Net.Packets
import HvisorTool.Scmi.Request

namespace HvisorTool

open Library

/-! ## 1. What the chain walk leaves to its callers -/

section Walk

variable {zm : ZoneTable} {mem : Mem} {vq : VirtQueue} {cfg : VirtioBufConfig} {head : UInt16}

/-- The chain has nothing on it: no round of the walk, or tables of length 0 only. -/
def Hollow (zm : ZoneTable) (mem : Mem) (vq : VirtQueue) (head : UInt16) : Prop :=
  chainItems zm mem vq vq.num.toNat head = []

/-- Behind buffers that are all accepted the walk comes to a table at `NULL`. -/
def ReachesNullTable (zm : ZoneTable) (mem : Mem) (vq : VirtQueue) (cfg : VirtioBufConfig)
    (head : UInt16) : Prop :=
  ∃ (ds : List VirtqDesc) (rest : List ChainItem),
    chainItems zm mem vq vq.num.toNat head = ds.map ChainItem.buffer ++ .nullTable :: rest ∧
    (∀ d ∈ ds, vq.translate zm d.addr ≠ 0) ∧ (VirtioRequest.empty.add zm vq ds).Within cfg

/-- The queue behind a caller's test: `if (ret <= 0) vq->last_avail_idx++`. -/
def afterWalk (r : Int × VirtioRequest × VirtQueue) : VirtQueue :=
  if r.1 ≤ 0 then r.2.2.advance else r.2.2

theorem chainBufCall_null (h : ReachesNullTable zm mem vq cfg head) :
    chainBufCall zm mem vq cfg head = .error .segv := by
  have hseg := (takeItems_segv_iff (within_empty cfg)).mpr h
  have hproc : processDescriptorChainBuf zm mem vq cfg head = .error .segv := by
    rw [processDescriptorChainBuf, walkChain_eq, hseg]
    rfl
  rw [chainBufCall, hproc]

/-- The walk fails in no other way. -/
theorem takeItems_error {items : List ChainItem} {req : VirtioRequest} {e : ChainError}
    (hw : req.Within cfg) (h : items.foldlM (takeItem zm vq cfg) req = .error e) :
    e = .fail ∨ e = .segv := by
  obtain ⟨ds, rest, rfl, hrest⟩ := items_split items
  rw [takeItems_append hw] at h
  split at h
  · rcases hrest with rfl | ⟨r, rfl⟩ | ⟨r, rfl⟩ <;> cases h
    · exact Or.inr rfl
    · exact Or.inl rfl
  · cases h
    exact Or.inl rfl

/-- **What a caller finds**: a request of at least one buffer with the index advanced, -1 with the
    index as it was, or, for a hollow chain, 0 with the index advanced. -/
theorem chainBufCall_ok (h : ¬ ReachesNullTable zm mem vq cfg head) :
    ∃ r, chainBufCall zm mem vq cfg head = .ok r ∧
      ((1 ≤ r.1 ∧ r.1 = r.2.1.count ∧ r.2.1.Within cfg ∧ r.2.2 = vq.advance ∧
          ¬ Hollow zm mem vq head) ∨
        (r.1 = -1 ∧ r.2.2 = vq ∧ ¬ Hollow zm mem vq head) ∨
        (r.1 = 0 ∧ r.2.2 = vq.advance ∧ Hollow zm mem vq head)) := by
  cases hf : (chainItems zm mem vq vq.num.toNat head).foldlM (takeItem zm vq cfg) .empty with
  | ok req =>
    obtain ⟨ds, hitems, -, rfl, hw⟩ := (takeItems_ok_iff (within_empty cfg)).mp hf
    have hproc : processDescriptorChainBuf zm mem vq cfg head =
        .ok (VirtioRequest.empty.add zm vq ds, vq.advance) := by
      rw [processDescriptorChainBuf, walkChain_eq, hf]
      rfl
    have hcount : (VirtioRequest.empty.add zm vq ds).count = ds.length := by
      rw [VirtioRequest.count_add]
      exact Nat.zero_add _
    refine ⟨_, by rw [chainBufCall, hproc], ?_⟩
    by_cases hds : ds = []
    · subst hds
      exact Or.inr (Or.inr ⟨rfl, rfl, hitems⟩)
    · have hpos := List.length_pos_iff.mpr hds
      refine Or.inl ⟨?_, rfl, hw, rfl, ?_⟩
      · show (1 : Int) ≤ ((VirtioRequest.empty.add zm vq ds).count : Int)
        omega
      · intro hhollow
        rw [Hollow, hitems, List.map_eq_nil_iff] at hhollow
        exact hds hhollow
  | error e =>
    have hne : e = .fail := by
      rcases takeItems_error (within_empty cfg) hf with rfl | rfl
      · rfl
      · exact absurd ((takeItems_segv_iff (within_empty cfg)).mp hf) h
    subst hne
    have hproc : processDescriptorChainBuf zm mem vq cfg head = .error .fail := by
      rw [processDescriptorChainBuf, walkChain_eq, hf]
      rfl
    refine ⟨_, by rw [chainBufCall, hproc], Or.inr (Or.inl ⟨rfl, rfl, ?_⟩)⟩
    intro hhollow
    rw [Hollow] at hhollow
    rw [hhollow] at hf
    cases hf

variable {r : Int × VirtioRequest × VirtQueue}

/-- A walk that returns has refused the chain, or taken its buffers. -/
theorem chainBufCall_cases (h : chainBufCall zm mem vq cfg head = .ok r) :
    r = (-1, .empty, vq) ∨ ∃ (ds : List VirtqDesc) (req : VirtioRequest),
      chainItems zm mem vq vq.num.toNat head = ds.map ChainItem.buffer ∧
      (∀ d ∈ ds, vq.translate zm d.addr ≠ 0) ∧ req = VirtioRequest.empty.add zm vq ds ∧
      req.Within cfg ∧ r = ((req.count : Int), req, vq.advance) := by
  unfold chainBufCall at h
  cases hproc : processDescriptorChainBuf zm mem vq cfg head with
  | error e =>
    rw [hproc] at h
    cases e with
    | fail => exact .inl (Except.ok.inj h).symm
    | segv | overrun | outOfFuel => cases h
  | ok p =>
    obtain ⟨req, vq'⟩ := p
    rw [hproc] at h
    obtain ⟨ds, hitems, hmapped, hreq, hwithin, rfl⟩ := processDescriptorChainBuf_ok_iff.mp hproc
    exact .inr ⟨ds, _, hitems, hmapped, hreq, hwithin, (Except.ok.inj h).symm⟩

/-- What a walk that returns comes back with. -/
theorem chainBufCall_returns (h : chainBufCall zm mem vq cfg head = .ok r) :
    r.1 ≤ cfg.maxOut + cfg.maxIn ∧ (r.2.2 = vq ∨ r.2.2 = vq.advance) := by
  obtain rfl | ⟨-, req, -, -, -, ⟨hout, hin⟩, rfl⟩ := chainBufCall_cases h
  · exact ⟨show (-1 : Int) ≤ _ by omega, .inl rfl⟩
  · refine ⟨?_, .inr rfl⟩
    dsimp only [VirtioRequest.count]
    omega

/-- The size of the queue stays. -/
theorem chainBufCall_num (h : chainBufCall zm mem vq cfg head = .ok r) : r.2.2.num = vq.num := by
  rcases (chainBufCall_returns h).2 with hvq | hvq
  · rw [hvq]
  · rw [hvq]
    rfl

/-- A walk that does not return stops at a table at `NULL`. -/
theorem chainBufCall_stops (h : ∀ r, chainBufCall zm mem vq cfg head ≠ .ok r) :
    chainBufCall zm mem vq cfg head = .error .segv := by
  by_cases hnull : ReachesNullTable zm mem vq cfg head
  · exact chainBufCall_null hnull
  · obtain ⟨r, hr, -⟩ := chainBufCall_ok hnull
    exact absurd hr (h r)

/-- The entries of a request are mapped, and no longer than a descriptor can say. -/
theorem chainBufCall_entries (h : chainBufCall zm mem vq cfg head = .ok r) :
    ∀ v ∈ r.2.1.entries, v.iovBase ≠ 0 ∧ v.iovLen.toNat < 2 ^ 32 := by
  obtain rfl | ⟨ds, req, -, hmapped, rfl, -, rfl⟩ := chainBufCall_cases h
  · exact fun v hv => absurd hv List.not_mem_nil
  · intro v hv
    have hdesc : ∃ d ∈ ds, v = d.iovec zm vq := by
      rcases List.mem_append.mp hv with hv | hv <;> obtain ⟨d, hd, rfl⟩ := List.mem_map.mp hv <;>
        exact ⟨d, (List.mem_filter.mp hd).1, rfl⟩
    obtain ⟨d, hd, rfl⟩ := hdesc
    refine ⟨hmapped d hd, ?_⟩
    rw [VirtqDesc.iovec, UInt32.toNat_toUInt64]
    exact d.len.toNat_lt

theorem advance_ne_advance (vq : VirtQueue) : vq.advance.advance ≠ vq.advance := by
  intro h
  have hidx := congrArg VirtQueue.lastAvailIdx h
  simp [VirtQueue.advance] at hidx

end Walk

/-! ## 2. The passes -/

/-- The four handlers. -/
inductive Handler where
  | blk
  | scmi
  | netTx
  | netRx
  deriving DecidableEq, Repr

namespace Handler

/-- The capacities the handler gives to the chain walk. -/
def cfg : Handler → VirtioBufConfig
  | .blk => ⟨virtqueueBlkMaxSize, virtqueueBlkMaxSize⟩
  | .scmi => ⟨2, 2⟩
  | .netTx => ⟨virtqueueNetMaxSize - 1, 0⟩
  | .netRx => ⟨0, virtqueueNetMaxSize⟩

/-- The handler collects its completions for a batch. -/
def batches : Handler → Bool
  | .blk | .scmi => false
  | .netTx | .netRx => true

/-- The used ring with all that the handler has contributed. -/
def view (k : Handler) (q : CompletionQueue) : VirtqUsed := if k.batches then q.view else q.used

/-- The completion of a pass: posted at once, or collected. -/
def post (k : Handler) (q : CompletionQueue) (c : Completion) : Except ChainError CompletionQueue :=
  if k.batches then batchPush q c
  else if q.vq.usedRing = 0 then .error .segv
  else .ok { q with used := updateUsedRing q.vq.num q.used c }

/-- There is room for it. -/
def CanPost (k : Handler) (q : CompletionQueue) : Prop :=
  if k.batches then q.batch.length < virtqueueNetMaxSize else q.vq.usedRing ≠ 0

variable {k : Handler} {q q' : CompletionQueue} {c : Completion}

theorem post_ok (h : k.post q c = .ok q') :
    k.CanPost q ∧ q'.vq = q.vq ∧ k.view q' = updateUsedRing q.vq.num (k.view q) c := by
  unfold post batchPush at h
  unfold CanPost view
  cases hb : k.batches
  · simp only [hb, Bool.false_eq_true, if_false] at h ⊢
    split at h
    · cases h
    · rename_i hu
      cases h
      exact ⟨hu, rfl, rfl⟩
  · simp only [hb, if_true] at h ⊢
    split at h
    · rename_i hlen
      cases h
      refine ⟨hlen, rfl, ?_⟩
      rw [CompletionQueue.view, postAll_append]
      rfl
    · cases h

theorem post_of_canPost (h : k.CanPost q) (c : Completion) : ∃ q', k.post q c = .ok q' := by
  unfold CanPost at h
  unfold post batchPush
  cases hb : k.batches
  · simp only [hb, Bool.false_eq_true, if_false] at h ⊢
    rw [if_neg h]
    exact ⟨_, rfl⟩
  · simp only [hb, if_true] at h ⊢
    rw [if_pos h]
    exact ⟨_, rfl⟩

end Handler

/-- The backends of the devices. -/
structure Backends (σ : Type) where
  blk : BlkBackend σ
  scmi : ScmiBackend σ
  tap : TapBackend σ

/-- What a pass meets: guest memory, the backend's state, the answer of `readv`,
    the negotiated header format and the address of the padding. -/
structure PassInput (σ : Type) where
  mem : Mem
  dev : σ
  answer : ReadvResult
  version1 : Bool
  pad : UInt64

section Passes

variable {σ : Type} (be : Backends σ) (zm : ZoneTable)

/-- One pass of a handler; what it does to memory and backend is the next pass's input. -/
def pass (k : Handler) (i : PassInput σ) (q : CompletionQueue) :
    Except ChainError CompletionQueue :=
  match k with
  | .blk => (virtqBlkHandleOneRequest be.blk zm q i.mem i.dev).map (·.1)
  | .scmi => (scmiHandleOneRequest be.scmi zm q i.mem i.dev).map (·.1)
  | .netTx => (netTxHandleOneRequest be.tap zm i.version1 i.pad q i.mem i.dev).map (·.1)
  | .netRx => (netRxBody zm i.answer q i.mem).map (·.1)

/-- The pass gets a request, asks the tap device for a packet and there is none. -/
def Restores (k : Handler) (i : PassInput σ) (q : CompletionQueue) : Prop :=
  k = .netRx ∧ i.answer = .wouldBlock ∧
    ∃ r, chainBufCall zm i.mem q.vq k.cfg (q.vq.availHead i.mem) = .ok r ∧ 1 ≤ r.1

section Shapes

variable {be : Backends σ} {zm : ZoneTable} {i : PassInput σ} {q : CompletionQueue}
  {r : Int × VirtioRequest × VirtQueue}

theorem blkComplete_post (q : CompletionQueue) (idx : UInt16) (o : BlkOutcome σ) :
    (blkComplete q idx o).map (·.1) = Handler.blk.post q (idx, UInt32.ofNat (o.wlen + 1)) := by
  unfold blkComplete Handler.post
  by_cases h : q.vq.usedRing = 0 <;> simp [h, Handler.batches, Except.map]

theorem scmiComplete_post (q : CompletionQueue) (idx : UInt16) (o : ScmiOutcome σ) :
    (scmiComplete q idx o).map (·.1) = Handler.scmi.post q (idx, o.len) := by
  unfold scmiComplete Handler.post
  by_cases h : q.vq.usedRing = 0 <;> simp [h, Handler.batches, Except.map]

/-- What a handler returns beside the queue does not matter. -/
theorem batchPush_fst {τ : Type} (q : CompletionQueue) (c : Completion) (t : τ) :
    ((batchPush q c >>= fun q => .ok (q, t) : Except ChainError (CompletionQueue × τ)).map
      (·.1)) = batchPush q c := by
  cases batchPush q c <;> rfl

/-- A pass that gives nothing back ends in its completion. -/
theorem pass_posts {k : Handler} (ha : q.vq.availRing ≠ 0)
    (hr : chainBufCall zm i.mem q.vq k.cfg (q.vq.availHead i.mem) = .ok r)
    (hmax : k = .netRx → r.1 ≤ virtqueueNetMaxSize) (hgive : ¬ Restores zm k i q) :
    ∃ len, pass be zm k i q = k.post { q with vq := afterWalk r } (q.vq.availHead i.mem, len) := by
  obtain ⟨ret, req, vq⟩ := r
  have hle : ret < 1 ↔ ret ≤ 0 := by omega
  cases k with
  | blk =>
    change chainBufCall zm i.mem q.vq ⟨virtqueueBlkMaxSize, virtqueueBlkMaxSize⟩ _ = _ at hr
    simp only [pass, virtqBlkHandleOneRequest, if_neg ha, hr, ok_bind, afterWalk]
    split <;> exact ⟨_, blkComplete_post ..⟩
  | scmi =>
    change chainBufCall zm i.mem q.vq ⟨2, 2⟩ _ = _ at hr
    simp only [pass, scmiHandleOneRequest, if_neg ha, hr, ok_bind, afterWalk]
    split <;> exact ⟨_, scmiComplete_post ..⟩
  | netTx =>
    change chainBufCall zm i.mem q.vq ⟨virtqueueNetMaxSize - 1, 0⟩ _ = _ at hr
    simp only [pass, netTxHandleOneRequest, if_neg ha, hr, ok_bind, afterWalk, hle]
    split <;> exact ⟨_, batchPush_fst ..⟩
  | netRx =>
    have hreq := hr
    change chainBufCall zm i.mem q.vq ⟨0, virtqueueNetMaxSize⟩ _ = _ at hr
    have hgt : ¬ ret > virtqueueNetMaxSize := Int.not_lt.mpr (hmax rfl)
    simp only [pass, netRxBody, if_neg ha, hr, ok_bind, afterWalk, hle, hgt, or_false]
    by_cases h0 : ret ≤ 0
    · rw [if_pos h0, if_pos h0]
      exact ⟨_, batchPush_fst ..⟩
    · rw [if_neg h0, if_neg h0]
      cases hans : i.answer with
      | wouldBlock => exact absurd ⟨rfl, hans, _, hreq, Int.not_le.mp h0⟩ hgive
      | failed | packet len => exact ⟨_, batchPush_fst ..⟩

theorem netRx_restores (ha : q.vq.availRing ≠ 0)
    (hr : chainBufCall zm i.mem q.vq Handler.netRx.cfg (q.vq.availHead i.mem) = .ok r)
    (hmax : r.1 ≤ virtqueueNetMaxSize) (hans : i.answer = .wouldBlock) (h1 : 1 ≤ r.1) :
    pass be zm .netRx i q =
      .ok { q with vq := { r.2.2 with lastAvailIdx := r.2.2.lastAvailIdx - 1 } } := by
  obtain ⟨ret, req, vq⟩ := r
  change chainBufCall zm i.mem q.vq ⟨0, virtqueueNetMaxSize⟩ _ = _ at hr
  simp only at hmax h1
  have hgo : ¬ (ret < 1 ∨ ret > virtqueueNetMaxSize) := by omega
  simp only [pass, netRxBody, if_neg ha, hr, ok_bind, hgo, hans, if_false]
  rfl

end Shapes

/-! ## 3. Exact passes -/

/-- **The pass consumed one available entry and contributed one used entry with
    its head**; or it gave the entry back and contributed none. -/
def Exact (k : Handler) (i : PassInput σ) (q q' : CompletionQueue) : Prop :=
  (Restores zm k i q ∧ q'.vq = q.vq ∧ k.view q' = k.view q) ∨
    (¬ Restores zm k i q ∧ q'.vq = q.vq.advance ∧
      ∃ len, k.view q' = updateUsedRing q.vq.num (k.view q) (q.vq.availHead i.mem, len))

/-- What a pass needs: an available ring, a chain with something on it, no
    unmapped table on the way, and a place for the completion. -/
def PassOk (k : Handler) (i : PassInput σ) (q : CompletionQueue) : Prop :=
  q.vq.availRing ≠ 0 ∧ ¬ Hollow zm i.mem q.vq (q.vq.availHead i.mem) ∧
    ¬ ReachesNullTable zm i.mem q.vq k.cfg (q.vq.availHead i.mem) ∧
    (Restores zm k i q ∨ k.CanPost q)

section Exactness

variable {be : Backends σ} {zm : ZoneTable} {k : Handler} {i : PassInput σ} {q : CompletionQueue}

theorem advance_back (vq : VirtQueue) :
    { vq.advance with lastAvailIdx := vq.advance.lastAvailIdx - 1 } = vq := by
  have h : vq.lastAvailIdx + 1 - 1 = vq.lastAvailIdx := UInt16.add_sub_cancel ..
  simp only [VirtQueue.advance, h]

variable {r : Int × VirtioRequest × VirtQueue}

theorem afterWalk_cases {vq : VirtQueue}
    (h : (1 ≤ r.1 ∧ r.2.2 = vq.advance) ∨ (r.1 = -1 ∧ r.2.2 = vq)) : afterWalk r = vq.advance := by
  unfold afterWalk
  rcases h with ⟨h1, hv⟩ | ⟨h1, hv⟩
  · rw [if_neg (by omega), hv]
  · rw [if_pos (by omega), hv]

/-- The receive pass never gets more buffers than it has room for. -/
theorem netRx_ret_le (hr : chainBufCall zm i.mem q.vq k.cfg (q.vq.availHead i.mem) = .ok r)
    (hk : k = .netRx) : r.1 ≤ virtqueueNetMaxSize := by
  subst hk
  have hle : r.1 ≤ (0 : Nat) + virtqueueNetMaxSize := (chainBufCall_returns hr).1
  rwa [Int.natCast_zero, zero_add] at hle

theorem pass_exact_of_ok
    (h : PassOk zm k i q) : ∃ q', pass be zm k i q = .ok q' ∧ Exact zm k i q q' := by
  obtain ⟨ha, hhollow, hnull, hpost⟩ := h
  obtain ⟨r, hr, hcase⟩ := chainBufCall_ok hnull
  have hwalk : (1 ≤ r.1 ∧ r.2.2 = q.vq.advance) ∨ (r.1 = -1 ∧ r.2.2 = q.vq) := by
    rcases hcase with ⟨h1, -, -, hv, -⟩ | ⟨h1, hv, -⟩ | ⟨-, -, hh⟩
    · exact Or.inl ⟨h1, hv⟩
    · exact Or.inr ⟨h1, hv⟩
    · exact absurd hh hhollow
  have hmax := netRx_ret_le hr
  by_cases hgive : Restores zm k i q
  · obtain ⟨rfl, hans, r', hr', h1⟩ := hgive
    obtain rfl : r' = r := Except.ok.inj (hr'.symm.trans hr)
    have hv : r'.2.2 = q.vq.advance := by
      rcases hwalk with ⟨-, hv⟩ | ⟨hneg, -⟩
      · exact hv
      · omega
    refine ⟨_, netRx_restores ha hr (hmax rfl) hans h1, Or.inl ⟨⟨rfl, hans, r', hr, h1⟩, ?_, ?_⟩⟩
    · rw [hv]
      exact advance_back q.vq
    · rw [hv, advance_back]
  · obtain ⟨len, hpass⟩ : ∃ len, pass be zm k i q = _ := pass_posts ha hr hmax hgive
    rw [afterWalk_cases hwalk] at hpass
    have hcan : k.CanPost { q with vq := q.vq.advance } := hpost.resolve_left hgive
    obtain ⟨q', hq'⟩ := k.post_of_canPost hcan (q.vq.availHead i.mem, len)
    obtain ⟨-, hvq, hview⟩ := Handler.post_ok hq'
    exact ⟨q', hpass.trans hq', Or.inr ⟨hgive, hvq, len, hview⟩⟩

theorem pass_noRing (ha : q.vq.availRing = 0) : pass be zm k i q = .error .segv := by
  cases k <;>
    simp [pass, virtqBlkHandleOneRequest, scmiHandleOneRequest, netTxHandleOneRequest, netRxBody,
      ha, Except.map]

theorem pass_nullTable (ha : q.vq.availRing ≠ 0)
    (h : ReachesNullTable zm i.mem q.vq k.cfg (q.vq.availHead i.mem)) :
    pass be zm k i q = .error .segv := by
  have hcall := chainBufCall_null h
  cases k <;> simp only [Handler.cfg] at hcall
  all_goals
    simp only [pass, virtqBlkHandleOneRequest, scmiHandleOneRequest, netTxHandleOneRequest,
      netRxBody, if_neg ha, hcall]
    rfl

theorem passOk_of_exact {q' : CompletionQueue} (hpass : pass be zm k i q = .ok q')
    (hexact : Exact zm k i q q') : PassOk zm k i q := by
  have ha : q.vq.availRing ≠ 0 := by
    intro ha
    rw [pass_noRing ha] at hpass
    cases hpass
  have hnull : ¬ ReachesNullTable zm i.mem q.vq k.cfg (q.vq.availHead i.mem) := by
    intro h
    rw [pass_nullTable ha h] at hpass
    cases hpass
  obtain ⟨r, hr, hcase⟩ := chainBufCall_ok hnull
  by_cases hgive : Restores zm k i q
  · refine ⟨ha, ?_, hnull, Or.inl hgive⟩
    obtain ⟨-, -, r', hr', h1⟩ := hgive
    obtain rfl : r' = r := Except.ok.inj (hr'.symm.trans hr)
    rcases hcase with ⟨-, -, -, -, hh⟩ | ⟨-, -, hh⟩ | ⟨h0, -, -⟩
    · exact hh
    · exact hh
    · omega
  · obtain ⟨len, hpost⟩ : ∃ len, pass be zm k i q = _ := pass_posts ha hr (netRx_ret_le hr) hgive
    obtain ⟨hcan, hvq, -⟩ := Handler.post_ok (hpost.symm.trans hpass)
    rcases hexact with ⟨hg, -⟩ | ⟨-, hadv, -⟩
    · exact absurd hg hgive
    · have hh : ¬ Hollow zm i.mem q.vq (q.vq.availHead i.mem) := by
        intro hh
        obtain ⟨h0, hv⟩ : r.1 = 0 ∧ r.2.2 = q.vq.advance := by
          rcases hcase with ⟨-, -, -, -, hn⟩ | ⟨-, -, hn⟩ | ⟨h0, hv, -⟩
          · exact absurd hh hn
          · exact absurd hh hn
          · exact ⟨h0, hv⟩
        -- the walk has advanced the index, and the caller does so again
        have htwice : afterWalk r = q.vq.advance.advance := by
          rw [afterWalk, if_pos (by omega), hv]
        exact advance_ne_advance q.vq (htwice.symm.trans (hvq.symm.trans hadv))
      refine ⟨ha, hh, hnull, Or.inr ?_⟩
      have hsame : afterWalk r = q.vq.advance := hvq.symm.trans hadv
      rw [hsame] at hcan
      exact hcan

end Exactness

/-! ## 4. Runs of passes -/

/-- A queue, and the heads of the requests its index has moved over. -/
structure Ledger where
  q : CompletionQueue
  heads : List UInt16

/-- The queue behind a pass over the request with this head. -/
def Ledger.move (s : Ledger) (q' : CompletionQueue) (head : UInt16) : Ledger :=
  { q := q', heads := if q'.vq.lastAvailIdx = s.q.vq.lastAvailIdx then s.heads
                      else s.heads ++ [head] }

/-- The books balance as to a used ring: its new entries have the heads as their ids, in
    order, and the index has moved by as many. -/
def Balances (view : CompletionQueue → VirtqUsed) (s₀ s : Ledger) : Prop :=
  ∃ cs : List Completion, s.heads = s₀.heads ++ cs.map (·.1) ∧
    s.q.vq = { s₀.q.vq with lastAvailIdx := s₀.q.vq.lastAvailIdx + UInt16.ofNat cs.length } ∧
    view s.q = postAll s₀.q.vq.num (view s₀.q) cs

namespace Balances

variable {view : CompletionQueue → VirtqUsed} {s₀ s : Ledger} {q' : CompletionQueue} {head : UInt16}

theorem refl (view : CompletionQueue → VirtqUsed) (s : Ledger) : Balances view s s :=
  ⟨[], by simp, by simp, rfl⟩

/-- A pass that consumes nothing and posts nothing. -/
theorem same (h : Balances view s₀ s) (hvq : q'.vq = s.q.vq) (hview : view q' = view s.q)
    (head : UInt16) : Balances view s₀ (s.move q' head) := by
  obtain ⟨cs, hheads, hq, hused⟩ := h
  refine ⟨cs, ?_, hvq.trans hq, hview.trans hused⟩
  simp only [Ledger.move, hvq, if_true]
  exact hheads

theorem heads_advance (hvq : q'.vq = s.q.vq.advance) :
    (s.move q' head).heads = s.heads ++ [head] := by
  have hne : q'.vq.lastAvailIdx ≠ s.q.vq.lastAvailIdx := by
    rw [hvq]
    simp [VirtQueue.advance]
  simp only [Ledger.move, hne, if_false]

/-- A pass that consumes an entry and posts one for it. -/
theorem entry (h : Balances view s₀ s) {len : UInt32} (hvq : q'.vq = s.q.vq.advance)
    (hview : view q' = updateUsedRing s.q.vq.num (view s.q) (head, len)) :
    Balances view s₀ (s.move q' head) := by
  obtain ⟨cs, hheads, hq, hused⟩ := h
  have hnum : s.q.vq.num = s₀.q.vq.num := by rw [hq]
  refine ⟨cs ++ [(head, len)], ?_, ?_, ?_⟩
  · rw [heads_advance hvq, hheads, List.map_append, List.append_assoc]
    rfl
  · show q'.vq = _
    rw [hvq, hq, List.length_append, UInt16.ofNat_add, ← UInt16.add_assoc]
    rfl
  · show view q' = _
    rw [hview, postAll_append, ← hused, hnum]
    rfl

/-- A pass that consumes an entry and posts none is not in the books. -/
theorem not_lost (h : Balances view s₀ s) (hvq : q'.vq = s.q.vq.advance)
    (hview : view q' = view s.q) : ¬ Balances view s₀ (s.move q' head) := by
  rintro ⟨cs', hheads', -, hused'⟩
  obtain ⟨cs, hheads, -, hused⟩ := h
  have hlen := congrArg List.length ((heads_advance hvq).symm.trans hheads')
  rw [hheads] at hlen
  simp only [List.length_append, List.length_map, List.length_cons, List.length_nil] at hlen
  have hidx : (view s.q).idx = (view q').idx := by rw [hview]
  have hused'' : view q' = _ := hused'
  rw [hused, hused'', postAll_idx, postAll_idx, show cs'.length = cs.length + 1 by omega,
    UInt16.ofNat_add, ← UInt16.add_assoc] at hidx
  exact absurd hidx.symm (by simp)

end Balances

/-- A pass, or the posting of the collected batch. -/
inductive PassLabel (σ : Type) where
  | pass (i : PassInput σ)
  | flush

def ledgerStep (k : Handler) (s : Ledger) : PassLabel σ → Option Ledger
  | .pass i =>
    match pass be zm k i s.q with
    | .ok q' => some (s.move q' (s.q.vq.availHead i.mem))
    | .error _ => none
  | .flush =>
    if k.batches then
      some { s with q := { s.q with
        used := updateUsedRingBatch s.q.vq.num s.q.used s.q.batch, batch := [] } }
    else none

def ledgerMachine (k : Handler) : Machine Ledger (PassLabel σ) := ⟨ledgerStep be zm k⟩

/-- Every pass of the run meets its condition. -/
def passesOk (k : Handler) (s : Ledger) : PassLabel σ → Prop
  | .pass i => PassOk zm k i s.q
  | .flush => True

section Runs

variable {be : Backends σ} {zm : ZoneTable} {k : Handler}

theorem ledgerStep_balances {s₀ s s' : Ledger} {a : PassLabel σ} (h : Balances k.view s₀ s)
    (hok : passesOk zm k s a) (hs : ledgerStep be zm k s a = some s') :
    Balances k.view s₀ s' := by
  cases a with
  | flush =>
    obtain ⟨cs, hheads, hvq, hview⟩ := h
    simp only [ledgerStep] at hs
    split at hs
    · rename_i hb
      cases hs
      refine ⟨cs, hheads, hvq, ?_⟩
      rw [← hview]
      simp only [Handler.view, hb, if_true, CompletionQueue.view]
      exact updateUsedRingBatch_eq ..
    · cases hs
  | pass i =>
    obtain ⟨q', hpass, hexact⟩ : ∃ q', pass be zm k i s.q = .ok q' ∧ _ := pass_exact_of_ok hok
    simp only [ledgerStep, hpass] at hs
    cases hs
    rcases hexact with ⟨-, hvq', hview'⟩ | ⟨-, hvq', len, hview'⟩
    · exact h.same hvq' hview' _
    · exact h.entry hvq' hview'

/-- **Over a run of passes that meet the condition the books balance.** -/
theorem ledger_balances {s₀ s : Ledger}
    (h : (ledgerMachine be zm k).Path (passesOk zm k) s₀ s) : Balances k.view s₀ s := by
  refine Machine.Path.inv (Balances k.view s₀) (Balances.refl k.view s₀) ?_ h
  intro s a s' hI hok hs
  exact ledgerStep_balances hI hok hs

end Runs

/-- **A pass accounts for its request exactly when the condition holds**, for each
    of the four handlers; and over every run of such passes the used entries are
    the heads of the available entries, in order, as many as the index moved. -/
theorem passes_exact_iff (k : Handler) :
    (∀ (i : PassInput σ) (q : CompletionQueue),
      (∃ q', pass be zm k i q = .ok q' ∧ Exact zm k i q q') ↔ PassOk zm k i q) ∧
    (∀ s₀ s : Ledger, (ledgerMachine be zm k).Path (passesOk zm k) s₀ s →
      ∃ cs : List Completion, s.heads = s₀.heads ++ cs.map (·.1) ∧
        s.q.vq = { s₀.q.vq with lastAvailIdx := s₀.q.vq.lastAvailIdx + UInt16.ofNat cs.length } ∧
        k.view s.q = postAll s₀.q.vq.num (k.view s₀.q) cs ∧
        (k.view s.q).idx = (k.view s₀.q).idx + UInt16.ofNat cs.length) := by
  refine ⟨fun i q => ⟨fun ⟨q', hpass, hexact⟩ => passOk_of_exact hpass hexact, pass_exact_of_ok⟩,
    fun s₀ s h => ?_⟩
  obtain ⟨cs, hheads, hvq, hview⟩ := ledger_balances h
  refine ⟨cs, hheads, hvq, hview, ?_⟩
  rw [hview, postAll_idx]

end Passes

/-! ## 5. A chain without a buffer -/

/-- Backends that answer with nothing done. -/
def idleBackends : Backends Unit where
  blk := { preadv := fun _ mem _ _ => (.ok 0, mem), pwritev := fun s _ _ _ => (.ok 0, s),
           fdatasync := fun s => (.ok (), s) }
  scmi := { handleMessage := fun s mem _ _ _ => (0, 0, mem, s) }
  tap := { writev := fun s _ _ => (some 0, s) }

/-- Guest memory with one descriptor of the given length and flags, for the
    guest's first byte, and one request in the available ring. -/
def oneDescMem (len flags : UInt8) : Mem := fun a =>
  if a = 0x10001 then 0x10 else if a = 0x10008 then len else if a = 0x1000C then flags
  else if a = 0x10102 then 1 else 0

def oneDescInput (len flags : UInt8) : PassInput Unit :=
  { mem := oneDescMem len flags, dev := (), answer := .failed, version1 := true, pad := 0 }

/-- A queue of size 1 with its rings in that memory. -/
def oneDescQueue : CompletionQueue :=
  { vq := { (default : VirtQueue) with
            num := 1, descTable := 0x10000, availRing := 0x10100, usedRing := 0x10200 }
    used := { idx := 0, ring := fun _ => default }
    batch := [] }

/-- **An indirect table of length 0 is consumed twice**: each handler posts one
    used entry and moves the index by two. -/
theorem hollow_chain_skips (k : Handler) :
    ∃ q', pass idleBackends onePage k (oneDescInput 0 4) oneDescQueue = .ok q' ∧
      q'.vq.lastAvailIdx = oneDescQueue.vq.lastAvailIdx + 2 ∧
      (k.view q').idx = (k.view oneDescQueue).idx + 1 := by
  cases k <;> exact ⟨_, rfl, rfl, rfl⟩

theorem hollow_chain_skips_blk :
    ∃ q', pass idleBackends onePage .blk (oneDescInput 0 4) oneDescQueue = .ok q' ∧
      q'.vq.lastAvailIdx = oneDescQueue.vq.lastAvailIdx + 2 ∧
      q'.used.idx = oneDescQueue.used.idx + 1 :=
  hollow_chain_skips .blk

theorem oneDesc_passOk : PassOk onePage .blk (oneDescInput 1 0) oneDescQueue := by
  have hitems : chainItems onePage (oneDescMem 1 0) oneDescQueue.vq 1 0 =
      [.buffer ⟨0x1000, 1, 0, 0⟩] := by decide
  refine ⟨by decide, ?_, ?_, Or.inr (show (0x10200 : UInt64) ≠ 0 by decide)⟩
  · intro hhollow
    exact nomatch hitems.symm.trans hhollow
  · rintro ⟨ds, rest, h, -⟩
    have h' := hitems.symm.trans h
    cases ds with
    | nil => cases h'
    | cons d ds => cases ds <;> cases h'

/-- A chain of one buffer is accounted for. -/
theorem passes_exact_oneDesc :
    ∃ q', pass idleBackends onePage .blk (oneDescInput 1 0) oneDescQueue = .ok q' ∧
      Exact onePage .blk (oneDescInput 1 0) oneDescQueue q' :=
  ((passes_exact_iff idleBackends onePage .blk).1 _ _).mpr oneDesc_passOk

end HvisorTool
