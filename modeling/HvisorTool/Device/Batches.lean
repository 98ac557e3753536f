/-
  File:      HvisorTool/Device/Batches.lean
  Subject:   THE BATCH ARRAYS OF THE NET DEVICE: which guests make a handler store behind
             the end of `batch_indices` and `batch_lens`.

  Both handlers collect one completion a request in arrays of `VIRTQUEUE_NET_MAX_SIZE`
  entries and post them when a loop over the queue ends. That loop is bounded by
  `avail.idx != last_avail_idx` alone, and the guest writes `avail.idx`.

  * `Burst`: the looks of a loop that is shown request after request;
  * `Collects`: a loop body that makes one completion a request;
  * `Collects.overrun_iff`: its loop overruns the arrays exactly in a burst that is longer
    than they are;
  * `net_batches_in_bounds_iff`: both handlers, against every guest;
  * `net_batch_overrun`: a guest that makes 257 requests available.
-/
import HvisorTool.Device.Handlers
import HvisorTool.Net.Frames
import HvisorTool.Virtio.Accounting

namespace HvisorTool

open Library

/-! ## 1. The loops -/

section Loops

variable {δ : Type} {vq : VirtQueue}

/-- A round of `while (!virtqueue_is_empty(vq))`. -/
def busyRound (vq : VirtQueue) (body : Ring δ Bool) : Ring δ Bool := do
  let empty ← virtqueueIsEmpty vq
  if empty then pure false else body

theorem whileBusy_eq_loop (body : Ring δ Bool) (n : Nat) :
    whileBusy vq body n = loop .running (busyRound vq body) n := by
  induction n with
  | zero => rfl
  | succ n ih =>
    unfold whileBusy loop busyRound
    rw [bind_assoc, ih]
    refine bind_congr fun empty => ?_
    cases empty with
    | false | true => rfl

/-- A program that does not store behind the end of the arrays, and keeps what is said of
    the completions collected. -/
def InBounds (I : List Completion → Prop) {α : Type} (m : Ring δ α) : Prop :=
  Keeps (fun s => I s.batch) (fun e => e ≠ .elsewhere .overrun) m

namespace InBounds

variable {α : Type} {I : List Completion → Prop} {m : Ring δ α}

theorem ne (h : InBounds (fun _ => True) m) (s : RingState δ) :
    m s ≠ .error (.elsewhere .overrun) := by
  intro he
  have hk := h s trivial
  rw [he] at hk
  exact hk rfl

theorem batch (h : InBounds I m) {s s' : RingState δ} {a : α} (hs : I s.batch)
    (hm : m s = .ok (a, s')) : I s'.batch := by
  have hk := h s hs
  rw [hm] at hk
  exact hk

theorem deref (p : RingPart) : InBounds I (deref vq p : Ring δ Unit) := by
  unfold HvisorTool.deref
  split
  · exact Keeps.throw fun h => by cases h
  · exact Keeps.pure ()

theorem see : InBounds I (see vq : Ring δ (Sight × VirtQueue)) := by
  intro s hs
  unfold HvisorTool.see
  cases s.tape with
  | nil => exact fun h => by cases h
  | cons x tape => exact hs

theorem change {f : RingState δ → RingState δ} (hf : ∀ s, (f s).batch = s.batch) :
    InBounds I (modify f : Ring δ PUnit) :=
  Keeps.modify fun s hs => by rw [hf s]; exact hs

theorem virtqueueIsEmpty : InBounds I (virtqueueIsEmpty vq : Ring δ Bool) := by
  unfold HvisorTool.virtqueueIsEmpty
  split
  · exact Keeps.pure _
  · exact Keeps.bind (deref _) fun _ => Keeps.bind see fun _ => Keeps.pure _

theorem virtqueueEnableNotify : InBounds I (virtqueueEnableNotify vq : Ring δ Unit) :=
  Keeps.bind (Keeps.whenever fun _ => deref _) fun _ => deref _

theorem virtioInjectIrq : InBounds I (virtioInjectIrq vq : Ring δ Unit) := by
  refine Keeps.bind (deref _) fun _ => Keeps.bind see fun o =>
    Keeps.bind (change fun _ => rfl) fun _ => ?_
  split
  · exact Keeps.pure _
  · exact Keeps.bind (deref _) fun _ => Keeps.bind see fun _ =>
      Keeps.whenever fun _ => change fun _ => rfl

/-- Of a sequence, only a part that can overrun the arrays does. -/
theorem bind_overrun_iff {β : Type} {f : α → Ring δ β} (hf : ∀ a, InBounds (fun _ => True) (f a))
    {s : RingState δ} :
    (m >>= f) s = .error (.elsewhere .overrun) ↔ m s = .error (.elsewhere .overrun) := by
  cases hm : m s with
  | error e =>
    rw [bind_error hm]
    exact ⟨fun h => (by cases h; rfl), fun h => (by cases h; rfl)⟩
  | ok p =>
    rw [bind_ok hm]
    exact ⟨fun h => absurd h ((hf p.1).ne p.2), fun h => (by cases h)⟩

end InBounds

/-- A queue that shows a request. -/
theorem isEmpty_false_iff {s s' : RingState δ} :
    virtqueueIsEmpty vq s = .ok (false, s') ↔
      vq.availRing ≠ 0 ∧ ∃ x tape, s.tape = x :: tape ∧
        vq.availIdx x.mem ≠ s.lastAvailIdx ∧ s' = { s with tape := tape } := by
  constructor
  · intro h
    have ha : vq.availRing ≠ 0 := by
      intro ha
      unfold virtqueueIsEmpty at h
      rw [if_pos ha] at h
      cases h
    refine ⟨ha, ?_⟩
    cases htape : s.tape with
    | nil =>
      unfold virtqueueIsEmpty at h
      rw [if_neg ha, bind_ok (deref_ok .avail ha)] at h
      unfold see at h
      rw [bind_error (e := .running) (by rw [htape])] at h
      cases h
    | cons x tape =>
      rw [isEmpty_seen ha htape] at h
      obtain ⟨hx, hs'⟩ := Prod.mk.inj (Except.ok.inj h)
      exact ⟨x, tape, rfl, beq_eq_false_iff_ne.mp hx, hs'.symm⟩
  · rintro ⟨ha, x, tape, htape, hx, rfl⟩
    exact isEmpty_busy ha htape hx

/-- A step that comes behind a test of the queue, and is not made if it is empty. -/
theorem isEmpty_bind_overrun_iff {α : Type} {idle : Ring δ α} {m : Ring δ α}
    (hidle : InBounds (fun _ => True) idle) {s : RingState δ} :
    (virtqueueIsEmpty vq >>= fun empty => if empty then idle else m) s =
        .error (.elsewhere .overrun) ↔
      ∃ s', virtqueueIsEmpty vq s = .ok (false, s') ∧ m s' = .error (.elsewhere .overrun) := by
  cases hempty : virtqueueIsEmpty vq s with
  | error e =>
    rw [bind_error hempty]
    constructor
    · intro h
      cases h
      exact absurd hempty (InBounds.virtqueueIsEmpty.ne s)
    · rintro ⟨s', h, -⟩
      cases h
  | ok p =>
    obtain ⟨empty, s'⟩ := p
    rw [bind_ok hempty]
    cases empty with
    | false =>
      constructor
      · exact fun h => ⟨s', rfl, h⟩
      · rintro ⟨u, hu, h⟩
        cases hu
        exact h
    | true =>
      constructor
      · exact fun h => absurd h (hidle.ne s')
      · rintro ⟨u, hu, -⟩
        cases hu

/-- A round of the loop: the body overruns the arrays, or the rounds behind it do. -/
theorem whileBusy_overrun_iff {body : Ring δ Bool} {n : Nat} {s : RingState δ} :
    whileBusy vq body (n + 1) s = .error (.elsewhere .overrun) ↔
      ∃ s', virtqueueIsEmpty vq s = .ok (false, s') ∧
        (body s' = .error (.elsewhere .overrun) ∨ ∃ s'', body s' = .ok (true, s'') ∧
          whileBusy vq body n s'' = .error (.elsewhere .overrun)) := by
  refine (isEmpty_bind_overrun_iff (Keeps.pure ())).trans ?_
  refine exists_congr fun s' => and_congr_right fun _ => ?_
  cases hbody : body s' with
  | error e =>
    rw [bind_error hbody]
    constructor
    · exact fun h => .inl (by cases h; rfl)
    · rintro (h | ⟨s'', h, -⟩)
      · cases h
        rfl
      · cases h
  | ok p =>
    obtain ⟨more, s''⟩ := p
    rw [bind_ok hbody]
    cases more with
    | false =>
      constructor
      · intro h
        cases h
      · rintro (h | ⟨u, h, -⟩)
        · cases h
        · cases h
    | true =>
      constructor
      · exact fun h => .inr ⟨s'', rfl, h⟩
      · rintro (h | ⟨u, hu, h⟩)
        · cases h
        · cases hu
          exact h

end Loops

/-! ## 2. Bursts -/

/-- The walk of the request that a look shows. -/
def walkSeen (zm : ZoneTable) (cfg : VirtioBufConfig) (q : VirtQueue) (y : Sight) :
    Except ChainError (Int × VirtioRequest × VirtQueue) :=
  chainBufCall zm y.mem q cfg (q.availHead y.mem)

section Bursts

variable (zm : ZoneTable) (cfg : VirtioBufConfig) (goes stores : Int → Sight → Prop)

/-- The looks of a loop in which the guest shows `k` requests in a row behind which the loop
    goes on, and one more that is completed: each test finds `avail.idx` away from
    `last_avail_idx`, and each walk returns. -/
def Burst : Nat → VirtQueue → List Sight → Prop
  | 0, q, tape => ∃ x y rest r, tape = x :: y :: rest ∧ q.availIdx x.mem ≠ q.lastAvailIdx ∧
      walkSeen zm cfg q y = .ok r ∧ stores r.1 y
  | k + 1, q, tape => ∃ x y rest r, tape = x :: y :: rest ∧ q.availIdx x.mem ≠ q.lastAvailIdx ∧
      walkSeen zm cfg q y = .ok r ∧ goes r.1 y ∧ Burst k (afterWalk r) rest

/-- A loop body that stores one completion for each request of a kind, and goes on behind
    those of another. -/
structure Collects (vq : VirtQueue) (dev : NetDev) (body : Ring NetDev Bool) : Prop where
  room : ∀ s y tape r, s.dev = dev → s.tape = y :: tape →
    walkSeen zm cfg (s.queue vq) y = .ok r → stores r.1 y →
    s.batch.length < virtqueueNetMaxSize → ∃ more s', body s = .ok (more, s') ∧
      (more = true ↔ goes r.1 y) ∧ (more = true → s'.dev = dev ∧ s'.tape = tape ∧
        s'.batch.length = s.batch.length + 1 ∧ s'.queue vq = afterWalk r)
  full : ∀ s y tape r, s.dev = dev → s.tape = y :: tape →
    walkSeen zm cfg (s.queue vq) y = .ok r → stores r.1 y →
    virtqueueNetMaxSize ≤ s.batch.length → body s = .error (.elsewhere .overrun)
  other : ∀ s, s.dev = dev →
    (∀ y tape r, s.tape = y :: tape → walkSeen zm cfg (s.queue vq) y = .ok r → ¬ stores r.1 y) →
    body s ≠ .error (.elsewhere .overrun) ∧ ∀ s', body s ≠ .ok (true, s')
  stored : ∀ n y, goes n y → stores n y

variable {zm cfg goes stores} {vq : VirtQueue} {dev : NetDev} {body : Ring NetDev Bool}

namespace Collects

variable (h : Collects zm cfg goes stores vq dev body)
include h

/-- The first round of a loop that overruns the arrays: the request that its body completes,
    or goes on behind. -/
theorem first_round {n : Nat} {s : RingState NetDev} (hdev : s.dev = dev)
    (hn : whileBusy vq body n s = .error (.elsewhere .overrun)) :
    ∃ x y rest r, s.tape = x :: y :: rest ∧ vq.availIdx x.mem ≠ s.lastAvailIdx ∧
      walkSeen zm cfg (s.queue vq) y = .ok r ∧ stores r.1 y ∧
      (body { s with tape := y :: rest } = .error (.elsewhere .overrun) ∨
        ∃ s', body { s with tape := y :: rest } = .ok (true, s') ∧
          ∃ m, whileBusy vq body m s' = .error (.elsewhere .overrun)) := by
  cases n with
  | zero => cases hn
  | succ n =>
    obtain ⟨u, hempty, hround⟩ := whileBusy_overrun_iff.mp hn
    obtain ⟨-, x, tape, htape, hx, rfl⟩ := isEmpty_false_iff.mp hempty
    by_contra hnone
    -- otherwise the body neither overruns the arrays nor goes on
    obtain ⟨hne, hstop⟩ := h.other { s with tape := tape } hdev fun y rest r hrest hwalk hst => by
      dsimp only at hrest
      subst hrest
      exact hnone ⟨x, y, rest, r, htape, hx, hwalk, hst,
        hround.imp_right fun ⟨s', hs, hm⟩ => ⟨s', hs, n, hm⟩⟩
    rcases hround with hbody | ⟨s', hbody, -⟩
    · exact hne hbody
    · exact hstop s' hbody

/-- **The arrays are overrun exactly in a burst that is longer than what is left of them.** -/
theorem overrun_iff (ha : vq.availRing ≠ 0) (k : Nat) : ∀ s : RingState NetDev, s.dev = dev →
    s.batch.length + k = virtqueueNetMaxSize →
    ((∃ n, whileBusy vq body n s = .error (.elsewhere .overrun)) ↔
      Burst zm cfg goes stores k (s.queue vq) s.tape) := by
  induction k with
  | zero =>
    intro s hdev hlen
    constructor
    · rintro ⟨n, hn⟩
      obtain ⟨x, y, rest, r, htape, hx, hwalk, hst, -⟩ := h.first_round hdev hn
      exact ⟨x, y, rest, r, htape, hx, hwalk, hst⟩
    · rintro ⟨x, y, rest, r, htape, hx, hwalk, hst⟩
      refine ⟨1, whileBusy_overrun_iff.mpr
        ⟨_, isEmpty_false_iff.mpr ⟨ha, x, _, htape, hx, rfl⟩, .inl ?_⟩⟩
      exact h.full _ y rest r hdev rfl hwalk hst (Nat.le_of_eq hlen.symm)
  | succ k ih =>
    intro s hdev hlen
    have hroom : s.batch.length < virtqueueNetMaxSize := by omega
    constructor
    · rintro ⟨n, hn⟩
      obtain ⟨x, y, rest, r, htape, hx, hwalk, hst, hround⟩ := h.first_round hdev hn
      -- there is room, so the body returned and said to go on
      obtain ⟨more, u, hbody, hmore, hnext⟩ :=
        h.room { s with tape := y :: rest } y rest r hdev rfl hwalk hst hroom
      rw [hbody] at hround
      rcases hround with hround | ⟨s', hs, hlater⟩
      · cases hround
      · cases hs
        obtain ⟨hdev', htape', hlen', hq⟩ := hnext rfl
        have hleft : u.batch.length + k = virtqueueNetMaxSize := by
          rw [hlen']
          dsimp only
          omega
        have hburst := (ih u hdev' hleft).mp hlater
        rw [hq, htape'] at hburst
        exact ⟨x, y, rest, r, htape, hx, hwalk, hmore.mp rfl, hburst⟩
    · rintro ⟨x, y, rest, r, htape, hx, hwalk, hgoes, hburst⟩
      obtain ⟨more, u, hbody, hmore, hnext⟩ :=
        h.room { s with tape := y :: rest } y rest r hdev rfl hwalk (h.stored _ _ hgoes) hroom
      obtain rfl := hmore.mpr hgoes
      obtain ⟨hdev', htape', hlen', hq⟩ := hnext rfl
      have hleft : u.batch.length + k = virtqueueNetMaxSize := by
        rw [hlen']
        dsimp only
        omega
      rw [← hq, ← htape'] at hburst
      obtain ⟨n, hn⟩ := (ih u hdev' hleft).mpr hburst
      exact ⟨n + 1, whileBusy_overrun_iff.mpr
        ⟨_, isEmpty_false_iff.mpr ⟨ha, x, _, htape, hx, rfl⟩, .inr ⟨u, hbody, hn⟩⟩⟩

end Collects

end Bursts

/-! ## 3. The two loop bodies -/

section Bodies

variable {zm : ZoneTable} {vq : VirtQueue} {q : CompletionQueue} {cfg : VirtioBufConfig}
  {r : Int × VirtioRequest × VirtQueue} {τ δ α σ : Type} {y : Sight}

/-- What a handler returns beside the queue does not matter for a store into the arrays. -/
theorem push_room (c : Completion) (t : τ) (h : q.batch.length < virtqueueNetMaxSize) :
    (batchPush q c >>= fun q => (.ok (q, t) : Except ChainError (CompletionQueue × τ))) =
      .ok ({ q with batch := q.batch ++ [c] }, t) := by
  unfold batchPush
  rw [if_pos h]
  rfl

theorem push_full (c : Completion) (t : τ) (h : virtqueueNetMaxSize ≤ q.batch.length) :
    (batchPush q c >>= fun q => (.ok (q, t) : Except ChainError (CompletionQueue × τ))) =
      .error .overrun := by
  unfold batchPush
  rw [if_neg (Nat.not_lt.mpr h)]
  rfl

/-- Of the queue, a walk changes the index alone. -/
theorem queue_afterWalk {s s' : RingState δ}
    (h : walkSeen zm cfg (s.queue vq) y = .ok r)
    (hlast : s'.lastAvailIdx = (afterWalk r).lastAvailIdx)
    (hused : s'.lastUsedIdx = s.lastUsedIdx) :
    s'.queue vq = afterWalk r := by
  have hq : s'.queue vq = { s.queue vq with lastAvailIdx := (afterWalk r).lastAvailIdx } := by
    unfold RingState.queue
    rw [hlast, hused]
  rw [hq]
  unfold afterWalk
  rcases (chainBufCall_returns h).2 with hvq | hvq <;> rw [hvq] <;> split <;> rfl

/-- Without a descriptor table the walk does not return, in a queue that has a size. -/
theorem walk_table {mem : Mem} {head : UInt16} (h : chainBufCall zm mem vq cfg head = .ok r)
    (hnum : vq.num ≠ 0) : vq.descTable ≠ 0 := by
  intro hdesc
  obtain ⟨n, hn⟩ : ∃ n, vq.num.toNat = n + 1 := by
    have hpos : vq.num.toNat ≠ 0 := fun h0 => hnum (UInt64.toNat_inj.mp h0)
    exact ⟨vq.num.toNat - 1, by omega⟩
  have hnull : ReachesNullTable zm mem vq cfg head := by
    refine ⟨[], [], ?_, fun d hd => absurd hd List.not_mem_nil, ?_⟩
    · rw [hn, chainItems, if_pos hdesc]
      rfl
    · rw [VirtioRequest.add_nil]
      exact within_empty cfg
  rw [chainBufCall_null hnull] at h
  cases h

theorem derefChainBuf_ok {s : RingState δ} (ha : vq.availRing ≠ 0)
    (hd : vq.num ≠ 0 → vq.descTable ≠ 0) : derefChainBuf vq s = .ok ((), s) := by
  unfold derefChainBuf
  rw [bind_ok (deref_ok .avail ha)]
  unfold whenever
  by_cases hnum : vq.num = 0
  · rw [if_neg (not_not.mpr hnum)]
    rfl
  · rw [if_pos hnum]
    exact deref_ok .desc (hd hnum)

theorem derefChainBuf_stop {s : RingState δ} (ha : vq.availRing ≠ 0)
    (hd : ¬ (vq.num ≠ 0 → vq.descTable ≠ 0)) : derefChainBuf vq s = .error (.null .desc) := by
  obtain ⟨hnum, hdesc⟩ := Classical.not_imp.mp hd
  unfold derefChainBuf
  rw [bind_ok (deref_ok .avail ha)]
  unfold whenever
  rw [if_pos hnum]
  exact deref_null .desc (not_not.mp hdesc)

/-- The head of both bodies: they stop before they look at a request, or look at one. -/
theorem look_cases (k : Sight × VirtQueue → Ring NetDev α) (ha : vq.availRing ≠ 0)
    (s : RingState NetDev) :
    (∃ e, (derefChainBuf vq >>= fun _ => see vq >>= k) s = .error e ∧
        e ≠ .elsewhere .overrun ∧ ((vq.num ≠ 0 → vq.descTable ≠ 0) → s.tape = [])) ∨
      ∃ y tape, s.tape = y :: tape ∧ (derefChainBuf vq >>= fun _ => see vq >>= k) s =
        k (y, s.queue vq) { s with tape := tape } := by
  by_cases hd : vq.num ≠ 0 → vq.descTable ≠ 0
  · rw [bind_ok (derefChainBuf_ok ha hd)]
    cases htape : s.tape with
    | nil =>
      have hsee : see vq s = .error .running := by
        unfold see
        rw [htape]
      rw [bind_error hsee]
      exact .inl ⟨_, rfl, fun h => (by cases h), fun _ => rfl⟩
    | cons y tape =>
      rw [bind_ok (see_cons htape)]
      exact .inr ⟨y, tape, rfl, rfl⟩
  · rw [bind_error (derefChainBuf_stop ha hd)]
    exact .inl ⟨_, rfl, fun h => (by cases h), fun h => absurd h hd⟩

/-- A walk that returns was looked at. -/
theorem look_walked (k : Sight × VirtQueue → Ring NetDev α) (ha : vq.availRing ≠ 0)
    {s : RingState NetDev} {tape : List Sight} (htape : s.tape = y :: tape)
    (hwalk : walkSeen zm cfg (s.queue vq) y = .ok r) :
    (derefChainBuf vq >>= fun _ => see vq >>= k) s = k (y, s.queue vq) { s with tape := tape } := by
  have htable : (s.queue vq).num ≠ 0 → (s.queue vq).descTable ≠ 0 := walk_table hwalk
  rcases look_cases k ha s with ⟨e, -, -, hnil⟩ | ⟨y', tape', htape', hk⟩
  · rw [hnil htable] at htape
    cases htape
  · rw [htape] at htape'
    cases htape'
    exact hk

/-- A transmitted packet is completed, and the loop goes on, whatever the walk returns. -/
def TxAny (_ : Int) (_ : Sight) : Prop := True

/-- A receive buffer is completed unless it is fit for a packet and there is none. -/
def RxStores (n : Int) (y : Sight) : Prop := y.readv = .wouldBlock → n < 1

/-- The loop goes on behind a packet. -/
def RxGoes (n : Int) (y : Sight) : Prop := 1 ≤ n ∧ ∃ len, y.readv = .packet len ∧ len ≠ 0

theorem netTxHandle_walked (tap : TapBackend σ) (version1 : Bool) (pad : UInt64) {mem : Mem}
    (dev : σ) (ha : q.vq.availRing ≠ 0)
    (hwalk : chainBufCall zm mem q.vq Handler.netTx.cfg (q.vq.availHead mem) = .ok r) :
    ∃ c dev', netTxHandleOneRequest tap zm version1 pad q mem dev =
      batchPush { q with vq := afterWalk r } c >>= fun q => .ok (q, dev') :=
  ⟨_, _, netTxHandle_eq ha hwalk⟩

theorem netTxHandle_stops (tap : TapBackend σ) (version1 : Bool) (pad : UInt64) {mem : Mem}
    (dev : σ) (ha : q.vq.availRing ≠ 0)
    (hwalk : chainBufCall zm mem q.vq Handler.netTx.cfg (q.vq.availHead mem) = .error .segv) :
    netTxHandleOneRequest tap zm version1 pad q mem dev = .error .segv := by
  have hcall : chainBufCall zm mem q.vq ⟨virtqueueNetMaxSize - 1, 0⟩ (q.vq.availHead mem) =
      .error .segv := hwalk
  unfold netTxHandleOneRequest
  rw [if_neg ha]
  dsimp only
  rw [hcall]
  rfl

/-- The tap device as a pass finds it. -/
abbrev Sight.tap (y : Sight) : TapBackend Unit := ⟨fun _ _ _ => (y.writev, ())⟩

/-- The queue as a pass finds it. -/
abbrev RingState.seen (s : RingState δ) (vq : VirtQueue) (y : Sight) : CompletionQueue :=
  ⟨s.queue vq, readUsed y.mem (s.queue vq), s.batch⟩

/-- `virtq_tx_handle_one_request` with a valid tap descriptor looks at one request. -/
theorem netTxPass_looks (zm : ZoneTable) (vq : VirtQueue) (version1 : Bool)
    {s : RingState NetDev} (htap : s.dev.tapfd ≠ -1) :
    ∃ k : Sight × VirtQueue → Ring NetDev Bool,
      netTxPass zm version1 vq s = (derefChainBuf vq >>= fun _ => see vq >>= k) s ∧
      ∀ y tape, k (y, s.queue vq) { s with tape := tape } =
        match netTxHandleOneRequest y.tap zm version1 y.pad (s.seen vq y) y.mem () with
        | .ok r => .ok (true, { s with
            tape := tape, lastAvailIdx := r.1.vq.lastAvailIdx, batch := r.1.batch })
        | .error e => .error (.elsewhere e) := by
  unfold netTxPass
  rw [bind_ok rfl]
  unfold whenever
  rw [if_pos htap]
  simp only [bind_assoc]
  refine ⟨_, rfl, fun y tape => ?_⟩
  cases netTxHandleOneRequest y.tap zm version1 y.pad (s.seen vq y) y.mem () with
  | error e | ok r => rfl

theorem collects_netTxPass (version1 : Bool) (ha : vq.availRing ≠ 0) {dev : NetDev}
    (htap : dev.tapfd ≠ -1) :
    Collects zm Handler.netTx.cfg TxAny TxAny vq dev (netTxPass zm version1 vq) where
  room := by
    rintro s y tape r rfl htape hwalk - hroom
    obtain ⟨k, hpass, hk⟩ := netTxPass_looks zm vq version1 htap
    obtain ⟨c, u, hreq⟩ := netTxHandle_walked y.tap version1 y.pad (q := s.seen vq y) () ha hwalk
    rw [push_room c u hroom] at hreq
    rw [hpass, look_walked k ha htape hwalk, hk, hreq]
    exact ⟨true, _, rfl, ⟨fun _ => trivial, fun _ => rfl⟩,
      fun _ => ⟨rfl, rfl, List.length_append, queue_afterWalk hwalk rfl rfl⟩⟩
  full := by
    rintro s y tape r rfl htape hwalk - hfull
    obtain ⟨k, hpass, hk⟩ := netTxPass_looks zm vq version1 htap
    obtain ⟨c, u, hreq⟩ := netTxHandle_walked y.tap version1 y.pad (q := s.seen vq y) () ha hwalk
    rw [push_full c u hfull] at hreq
    rw [hpass, look_walked k ha htape hwalk, hk, hreq]
  other := by
    rintro s rfl hnone
    obtain ⟨k, hpass, hk⟩ := netTxPass_looks zm vq version1 htap
    rw [hpass]
    rcases look_cases k ha s with ⟨e, he, hne, -⟩ | ⟨y, tape, htape, hlook⟩
    · rw [he]
      exact ⟨fun h => hne (by cases h; rfl), fun s' h => by cases h⟩
    · have hwalk := chainBufCall_stops fun r hr => hnone y tape r htape hr trivial
      have hreq := netTxHandle_stops y.tap version1 y.pad (q := s.seen vq y) () ha hwalk
      rw [hlook, hk, hreq]
      exact ⟨fun h => (by cases h), fun s' h => by cases h⟩
  stored := fun _ _ h => h

/-- A receive buffer that is completed. -/
theorem netRxBody_walked (ha : q.vq.availRing ≠ 0)
    (hwalk : chainBufCall zm y.mem q.vq Handler.netRx.cfg (q.vq.availHead y.mem) = .ok r)
    (hst : RxStores r.1 y) :
    ∃ c next, (next = .loop ↔ RxGoes r.1 y) ∧ netRxBody zm y.readv q y.mem =
      batchPush { q with vq := afterWalk r } c >>= fun q => .ok (q, next) := by
  have hmax : r.1 ≤ (0 : Nat) + virtqueueNetMaxSize := (chainBufCall_returns hwalk).1
  obtain ⟨n, req, vq'⟩ := r
  dsimp only [RxStores, RxGoes] at hst hmax ⊢
  have hcall : chainBufCall zm y.mem q.vq ⟨0, virtqueueNetMaxSize⟩ (q.vq.availHead y.mem) =
      .ok (n, req, vq') := hwalk
  -- the walk never returns more buffers than it was given room for
  have hor : (n < 1 ∨ n > virtqueueNetMaxSize) ↔ n < 1 := by omega
  unfold netRxBody afterWalk
  rw [if_neg ha]
  dsimp only
  rw [hcall, ok_bind]
  simp only [hor]
  by_cases hn : n < 1
  · rw [if_pos hn, if_pos hn, if_pos (by omega : n ≤ 0)]
    refine ⟨_, .stop, ⟨fun h => (by cases h), fun h => absurd h.1 (by omega)⟩, rfl⟩
  · rw [if_neg hn, if_neg (by omega : ¬ n ≤ 0)]
    cases hans : y.readv with
    | wouldBlock => exact absurd (hst hans) hn
    | failed =>
      refine ⟨_, .stop, ⟨fun h => (by cases h), ?_⟩, rfl⟩
      rintro ⟨-, len, h, -⟩
      cases h
    | packet len =>
      refine ⟨_, _, ?_, rfl⟩
      by_cases hlen : len = 0
      · rw [if_pos hlen]
        refine ⟨fun h => (by cases h), ?_⟩
        rintro ⟨-, len', h, hpos⟩
        cases h
        exact absurd hlen hpos
      · rw [if_neg hlen]
        exact ⟨fun _ => ⟨by omega, len, rfl, hlen⟩, fun _ => rfl⟩

/-- One that is not. -/
theorem netRxBody_other (ha : q.vq.availRing ≠ 0)
    (hnone : ∀ r, chainBufCall zm y.mem q.vq Handler.netRx.cfg (q.vq.availHead y.mem) = .ok r →
      ¬ RxStores r.1 y) :
    netRxBody zm y.readv q y.mem = .error .segv ∨
      ∃ q', netRxBody zm y.readv q y.mem = .ok (q', .stop) := by
  unfold netRxBody
  rw [if_neg ha]
  dsimp only
  cases hwalk : chainBufCall zm y.mem q.vq ⟨0, virtqueueNetMaxSize⟩ (q.vq.availHead y.mem) with
  | error e =>
    have hseg := chainBufCall_stops (fun r hr => by cases hwalk.symm.trans hr)
    cases hwalk.symm.trans hseg
    exact .inl rfl
  | ok r =>
    have hmax : r.1 ≤ (0 : Nat) + virtqueueNetMaxSize := (chainBufCall_returns hwalk).1
    obtain ⟨hans, hn⟩ := Classical.not_imp.mp (hnone r hwalk)
    obtain ⟨n, req, vq'⟩ := r
    dsimp only at hn hmax
    rw [ok_bind]
    dsimp only
    rw [if_neg (by omega : ¬ (n < 1 ∨ n > virtqueueNetMaxSize)), hans]
    exact .inr ⟨_, rfl⟩

/-- The loop body of `virtio_net_event_handler` looks at one request. -/
theorem netRxPass_looks (zm : ZoneTable) (vq : VirtQueue) (s : RingState NetDev) :
    ∃ k : Sight × VirtQueue → Ring NetDev Bool,
      netRxPass zm vq s = (derefChainBuf vq >>= fun _ => see vq >>= k) s ∧
      ∀ y tape, k (y, s.queue vq) { s with tape := tape } =
        match netRxBody zm y.readv (s.seen vq y) y.mem with
        | .ok r => .ok (r.2 = .loop, { s with
            tape := tape
            lastAvailIdx := r.1.vq.lastAvailIdx
            batch := r.1.batch
            dev := if r.2 = .stopNotReady then { s.dev with rxReady := 0 } else s.dev })
        | .error e => .error (.elsewhere e) := by
  refine ⟨_, rfl, fun y tape => ?_⟩
  rw [bind_ok rfl]
  dsimp only
  cases netRxBody zm y.readv (s.seen vq y) y.mem with
  | error e | ok r => rfl

theorem collects_netRxPass (ha : vq.availRing ≠ 0) (dev : NetDev) :
    Collects zm Handler.netRx.cfg RxGoes RxStores vq dev (netRxPass zm vq) where
  room := by
    rintro s y tape r rfl htape hwalk hst hroom
    obtain ⟨k, hpass, hk⟩ := netRxPass_looks zm vq s
    obtain ⟨c, next, hnext, hreq⟩ := netRxBody_walked (q := s.seen vq y) ha hwalk hst
    rw [push_room c next hroom] at hreq
    rw [hpass, look_walked k ha htape hwalk, hk, hreq]
    refine ⟨_, _, rfl, decide_eq_true_iff.trans hnext, fun hgo => ?_⟩
    obtain rfl := of_decide_eq_true hgo
    exact ⟨rfl, rfl, List.length_append, queue_afterWalk hwalk rfl rfl⟩
  full := by
    rintro s y tape r rfl htape hwalk hst hfull
    obtain ⟨k, hpass, hk⟩ := netRxPass_looks zm vq s
    obtain ⟨c, next, -, hreq⟩ := netRxBody_walked (q := s.seen vq y) ha hwalk hst
    rw [push_full c next hfull] at hreq
    rw [hpass, look_walked k ha htape hwalk, hk, hreq]
  other := by
    rintro s rfl hnone
    obtain ⟨k, hpass, hk⟩ := netRxPass_looks zm vq s
    rw [hpass]
    rcases look_cases k ha s with ⟨e, he, hne, -⟩ | ⟨y, tape, htape, hlook⟩
    · rw [he]
      exact ⟨fun h => hne (by cases h; rfl), fun s' h => by cases h⟩
    · rw [hlook, hk]
      rcases netRxBody_other (q := s.seen vq y) ha
        (fun r hr => hnone y tape r htape hr) with hreq | ⟨q', hreq⟩
      all_goals
        rw [hreq]
        exact ⟨fun h => (by cases h), fun s' h => by cases h⟩
  stored := by
    rintro n y ⟨-, len, hans, -⟩ hblock
    rw [hans] at hblock
    cases hblock

end Bodies

/-! ## 4. The handlers -/

section Handlers

variable {zm : ZoneTable} {vq : VirtQueue}

/-- A round of the outer loop of `virtio_net_txq_notify_handler`: a drain, the batch posted,
    notification enabled, and the queue tested again. -/
def netTxDrain (zm : ZoneTable) (version1 : Bool) (vq : VirtQueue) (rounds : Nat) :
    Ring NetDev Bool := do
  whileBusy vq (netTxPass zm version1 vq) rounds
  postBatch vq (virtioInjectIrq vq)
  virtqueueEnableNotify vq
  let empty ← virtqueueIsEmpty vq
  if empty then pure false
  else do
    virtqueueDisableNotify vq
    pure true

variable (version1 : Bool)

theorem netTxLoop_eq_loop (rounds n : Nat) :
    netTxLoop zm version1 rounds vq n = loop .running (netTxDrain zm version1 vq rounds) n := by
  induction n with
  | zero => rfl
  | succ n ih =>
    unfold netTxLoop loop netTxDrain
    simp only [bind_assoc, ih]
    refine bind_congr fun _ => bind_congr fun _ => bind_congr fun _ => bind_congr fun empty => ?_
    cases empty with
    | false =>
      simp only [Bool.false_eq_true, if_false, bind_assoc, pure_bind, if_true]
      rfl
    | true => rfl

theorem grows_netTxDrain : Grows .running (netTxDrain zm version1 vq) := by
  have hloop : Grows .running (whileBusy vq (netTxPass zm version1 vq)) := by
    have heq : whileBusy vq (netTxPass zm version1 vq) =
        loop .running (busyRound vq (netTxPass zm version1 vq)) :=
      funext fun n => whileBusy_eq_loop _ n
    rw [heq]
    exact Grows.loop _
  exact hloop.bind _

variable {after : Ring NetDev Unit} {s' t : RingState NetDev}

theorem inBounds_postBatch (I : List Completion → Prop) (hnil : I [])
    (h : InBounds I after) : InBounds I (postBatch vq after) :=
  Keeps.getBind fun _ _ => Keeps.whenever fun _ => Keeps.bind (InBounds.deref _) fun _ =>
    Keeps.bind (Keeps.modify fun _ _ => hnil) fun _ => h

/-- The part of a drain behind the posting. -/
theorem inBounds_retest (I : List Completion → Prop) :
    InBounds I (do
      virtqueueEnableNotify vq
      let empty ← virtqueueIsEmpty vq
      if empty then pure false
      else do
        virtqueueDisableNotify vq
        pure true : Ring NetDev Bool) := by
  refine Keeps.bind InBounds.virtqueueEnableNotify fun _ =>
    Keeps.bind InBounds.virtqueueIsEmpty fun empty => ?_
  split
  · exact Keeps.pure _
  · exact Keeps.bind (InBounds.deref _) fun _ => Keeps.pure _

variable {s : RingState NetDev}

theorem netTxDrain_overrun_iff {version1 : Bool} {rounds : Nat} :
    netTxDrain zm version1 vq rounds s = .error (.elsewhere .overrun) ↔
      whileBusy vq (netTxPass zm version1 vq) rounds s = .error (.elsewhere .overrun) :=
  InBounds.bind_overrun_iff fun _ => Keeps.bind
    (inBounds_postBatch (fun _ => True) trivial InBounds.virtioInjectIrq) fun _ =>
      inBounds_retest fun _ => True

/-- Posted completions are gone from the arrays. -/
theorem postBatch_batch (h : InBounds (· = []) after) {u : Unit}
    (hs : postBatch vq after s = .ok (u, s')) : s'.batch = [] := by
  by_cases hb : s.batch = []
  · exact (inBounds_postBatch (· = []) rfl h).batch hb hs
  · unfold postBatch at hs
    rw [bind_ok rfl] at hs
    unfold whenever at hs
    rw [if_pos hb] at hs
    by_cases hused : vq.usedRing = 0
    · rw [bind_error (deref_null .used hused)] at hs
      cases hs
    · rw [bind_ok (deref_ok .used hused), bind_ok rfl] at hs
      exact h.batch rfl hs

/-- A drain starts with empty arrays. -/
theorem netTxDrain_batch {version1 more : Bool} {rounds : Nat}
    (h : netTxDrain zm version1 vq rounds s = .ok (more, s')) : s'.batch = [] := by
  unfold netTxDrain at h
  cases hloop : whileBusy vq (netTxPass zm version1 vq) rounds s with
  | error e =>
    rw [bind_error hloop] at h
    cases h
  | ok p =>
    rw [bind_ok hloop] at h
    cases hpost : postBatch vq (virtioInjectIrq vq) p.2 with
    | error e =>
      rw [bind_error hpost] at h
      cases h
    | ok p' =>
      rw [bind_ok hpost] at h
      exact (inBounds_retest (· = [])).batch (postBatch_batch InBounds.virtioInjectIrq hpost) h

/-- The states in which `virtio_net_txq_notify_handler` starts to drain the queue. -/
def TxDrains (zm : ZoneTable) (version1 : Bool) (vq : VirtQueue) (s t : RingState NetDev) : Prop :=
  vq.usedRing ≠ 0 ∧ Rounds (netTxDrain zm version1 vq) s t

theorem TxDrains.batch {version1 : Bool} (h : TxDrains zm version1 vq s t)
    (hs : s.batch = []) : t.batch = [] := by
  obtain ⟨-, hrounds⟩ := h
  cases hrounds with
  | start => exact hs
  | next _ n hn => exact netTxDrain_batch hn

/-- Without a tap device, nothing is stored in a drain. -/
theorem noTap_in_bounds (n : Nat) : ∀ s : RingState NetDev, s.dev.tapfd = -1 →
    whileBusy vq (netTxPass zm version1 vq) n s ≠ .error (.elsewhere .overrun) := by
  induction n with
  | zero =>
    intro s _ h
    cases h
  | succ n ih =>
    intro s htap h
    obtain ⟨s', hempty, hround⟩ := whileBusy_overrun_iff.mp h
    obtain ⟨-, x, tape, -, -, rfl⟩ := isEmpty_false_iff.mp hempty
    have hpass : netTxPass zm version1 vq { s with tape := tape } =
        .ok (true, { s with tape := tape }) := by
      unfold netTxPass
      rw [bind_ok rfl]
      unfold whenever
      rw [if_neg (not_not.mpr htap)]
      rfl
    rw [hpass] at hround
    rcases hround with hround | ⟨s'', hs, hlater⟩
    · cases hround
    · cases hs
      exact ih { s with tape := tape } htap hlater

theorem drain_overrun_iff (ht : t.batch = []) :
    (∃ n, whileBusy vq (netTxPass zm version1 vq) n t = .error (.elsewhere .overrun)) ↔
      vq.availRing ≠ 0 ∧ t.dev.tapfd ≠ -1 ∧
        Burst zm Handler.netTx.cfg TxAny TxAny virtqueueNetMaxSize (t.queue vq) t.tape := by
  have hlen : t.batch.length + virtqueueNetMaxSize = virtqueueNetMaxSize := by
    rw [ht]
    exact Nat.zero_add _
  constructor
  · rintro ⟨n, hn⟩
    have ha : vq.availRing ≠ 0 := by
      intro ha
      cases n with
      | zero => cases hn
      | succ n => exact (isEmpty_false_iff.mp (whileBusy_overrun_iff.mp hn).choose_spec.1).1 ha
    have htap : t.dev.tapfd ≠ -1 := fun htap => noTap_in_bounds version1 n t htap hn
    exact ⟨ha, htap, ((collects_netTxPass version1 ha htap).overrun_iff ha _ t rfl hlen).mp ⟨n, hn⟩⟩
  · rintro ⟨ha, htap, hburst⟩
    exact ((collects_netTxPass version1 ha htap).overrun_iff ha _ t rfl hlen).mpr hburst

theorem netTxq_overrun_iff (hs : s.batch = []) :
    (∃ rounds, virtioNetTxqNotifyHandler zm version1 rounds vq s = .error (.elsewhere .overrun)) ↔
      ∃ t, TxDrains zm version1 vq s t ∧ vq.availRing ≠ 0 ∧ t.dev.tapfd ≠ -1 ∧
        Burst zm Handler.netTx.cfg TxAny TxAny virtqueueNetMaxSize (t.queue vq) t.tape := by
  have hne : RingStop.elsewhere .overrun ≠ .running := fun h => by cases h
  constructor
  · rintro ⟨rounds, h⟩
    unfold virtioNetTxqNotifyHandler virtqueueDisableNotify at h
    by_cases hused : vq.usedRing = 0
    · rw [bind_error (deref_null .used hused)] at h
      cases h
    · rw [bind_ok (deref_ok .used hused), netTxLoop_eq_loop] at h
      obtain ⟨t, n, hrounds, hstop⟩ :=
        (loop_error_iff (grows_netTxDrain version1) hne).mp ⟨rounds, h⟩
      have hdrains : TxDrains zm version1 vq s t := ⟨hused, hrounds⟩
      exact ⟨t, hdrains, (drain_overrun_iff version1 (hdrains.batch hs)).mp
        ⟨n, netTxDrain_overrun_iff.mp hstop⟩⟩
  · rintro ⟨t, hdrains, hburst⟩
    obtain ⟨n, hn⟩ := (drain_overrun_iff version1 (hdrains.batch hs)).mpr hburst
    obtain ⟨rounds, h⟩ := (loop_error_iff (grows_netTxDrain version1) hne).mpr
      ⟨t, n, hdrains.2, netTxDrain_overrun_iff.mpr hn⟩
    refine ⟨rounds, ?_⟩
    unfold virtioNetTxqNotifyHandler virtqueueDisableNotify
    rw [bind_ok (deref_ok .used hdrains.1), netTxLoop_eq_loop]
    exact h

/-- The test before the loop of `virtio_net_event_handler` finds a request; its looks from
    there on are `tape`. -/
def RxDrains (ev : InputEvent) (type : VirtioDeviceType) (vq : VirtQueue) (s : RingState NetDev)
    (tape : List Sight) : Prop :=
  (ev.fd = s.dev.tapfd ∧ ev.epollin = true ∧ s.dev.tapfd ≠ -1 ∧ type = .net ∧ s.dev.rxReady ≠ 0) ∧
    vq.availRing ≠ 0 ∧ ∃ x, s.tape = x :: tape ∧ vq.availIdx x.mem ≠ s.lastAvailIdx

theorem netEvent_overrun_iff (ev : InputEvent) (type : VirtioDeviceType) (hs : s.batch = []) :
    (∃ rounds, virtioNetEventHandler zm rounds ev type vq s = .error (.elsewhere .overrun)) ↔
      ∃ tape, RxDrains ev type vq s tape ∧
        Burst zm Handler.netRx.cfg RxGoes RxStores virtqueueNetMaxSize (s.queue vq) tape := by
  have hlen : s.batch.length + virtqueueNetMaxSize = virtqueueNetMaxSize := by
    rw [hs]
    exact Nat.zero_add _
  have hinject : InBounds (fun _ => True) (virtioInjectIrq vq : Ring NetDev Unit) :=
    InBounds.virtioInjectIrq
  have hreceive : ∀ rounds, receive vq (netRxPass zm vq) (postBatch vq (pure ())) rounds s =
      .error (.elsewhere .overrun) ↔ ∃ s', virtqueueIsEmpty vq s = .ok (false, s') ∧
        whileBusy vq (netRxPass zm vq) rounds s' = .error (.elsewhere .overrun) := by
    intro rounds
    refine (isEmpty_bind_overrun_iff hinject).trans ?_
    exact exists_congr fun s' => and_congr_right fun _ => InBounds.bind_overrun_iff fun _ =>
      Keeps.bind (inBounds_postBatch (fun _ => True) trivial (Keeps.pure ())) fun _ => hinject
  constructor
  · rintro ⟨rounds, h⟩
    unfold virtioNetEventHandler at h
    rw [bind_ok rfl] at h
    unfold whenever at h
    split at h
    · next hgo =>
      obtain ⟨s', hempty, hn⟩ := (hreceive rounds).mp h
      obtain ⟨ha, x, tape, htape, hx, rfl⟩ := isEmpty_false_iff.mp hempty
      exact ⟨tape, ⟨hgo, ha, x, htape, hx⟩, ((collects_netRxPass ha s.dev).overrun_iff ha _
        { s with tape := tape } rfl hlen).mp ⟨rounds, hn⟩⟩
    · cases h
  · rintro ⟨tape, ⟨hgo, ha, x, htape, hx⟩, hburst⟩
    obtain ⟨rounds, hn⟩ := ((collects_netRxPass ha s.dev).overrun_iff ha _
      { s with tape := tape } rfl hlen).mpr hburst
    refine ⟨rounds, ?_⟩
    unfold virtioNetEventHandler
    rw [bind_ok rfl]
    unfold whenever
    rw [if_pos hgo]
    exact (hreceive rounds).mpr ⟨_, isEmpty_false_iff.mpr ⟨ha, x, tape, htape, hx, rfl⟩, hn⟩

end Handlers

/-- **The batch arrays hold exactly against a guest that makes no burst longer than they
    are**: whatever the guest shows at each look, no store of the transmit handler is behind
    the end of the arrays if and only if no drain of it is shown `VIRTQUEUE_NET_MAX_SIZE`
    requests in a row and one more; and no store of the event handler, if and only if its
    loop is not. -/
theorem net_batches_in_bounds_iff (zm : ZoneTable) (vq : VirtQueue) (s : RingState NetDev) :
    (∀ version1,
      (∀ rounds, virtioNetTxqNotifyHandler zm version1 rounds vq { s with batch := [] } ≠
          .error (.elsewhere .overrun)) ↔
        ∀ t, TxDrains zm version1 vq { s with batch := [] } t → vq.availRing ≠ 0 →
          t.dev.tapfd ≠ -1 →
            ¬ Burst zm Handler.netTx.cfg TxAny TxAny virtqueueNetMaxSize (t.queue vq) t.tape) ∧
    (∀ ev type,
      (∀ rounds, virtioNetEventHandler zm rounds ev type vq { s with batch := [] } ≠
          .error (.elsewhere .overrun)) ↔
        ∀ tape, RxDrains ev type vq s tape →
          ¬ Burst zm Handler.netRx.cfg RxGoes RxStores virtqueueNetMaxSize (s.queue vq) tape) := by
  refine ⟨fun version1 => ?_, fun ev type => ?_⟩
  · rw [← not_exists, netTxq_overrun_iff version1 rfl]
    simp only [not_exists, not_and]
  · rw [← not_exists, netEvent_overrun_iff ev type rfl]
    simp only [not_exists, not_and]
    rfl

/-! ## 5. A guest that makes 257 requests available -/

/-- A descriptor table with one buffer of 60 bytes in `onePage`, and `avail.idx` at 257. -/
def floodMem (flags : UInt8) : Mem := fun a => if a = 0x10103 then 1 else oneDescMem 60 flags a

/-- The guest shows it at every look, and there is always a packet. -/
def floodSight (flags : UInt8) : Sight :=
  { mem := floodMem flags, readv := .packet 60, writev := some 60, kernel := default
    finishReq := 0, pad := 0, fuel := 0 }

def floodState (flags : UInt8) (looks : Nat) : RingState NetDev :=
  { lastAvailIdx := 0, lastUsedIdx := 0, irq := .down, dev := ⟨3, 1⟩, batch := []
    tape := List.replicate looks (floodSight flags) }

/-- The queue behind `k` of its requests. -/
def floodQueue (k : Nat) : VirtQueue := { oneDescQueue.vq with lastAvailIdx := UInt16.ofNat k }

/-- Its walk does not depend on the index. -/
theorem floodQueue_walk (flags : UInt8) (cfg : VirtioBufConfig) (req : VirtioRequest) (k : Nat)
    (hhead : readU16 (floodMem flags) 0x10104 = 0)
    (hwalk : walkChain onePage (floodMem flags) oneDescQueue.vq cfg 1 0 .empty = .ok req) :
    walkSeen onePage cfg (floodQueue k) (floodSight flags) =
      .ok (req.count, req, (floodQueue k).advance) := by
  have hslot : (floodQueue k).availHead (floodMem flags) = 0 := by
    unfold VirtQueue.availHead floodQueue oneDescQueue
    simp only [UInt64.sub_self, UInt64.and_zero]
    exact hhead
  have hproc : processDescriptorChainBuf onePage (floodMem flags) (floodQueue k) cfg 0 =
      .ok (req, (floodQueue k).advance) := by
    have hsame : walkChain onePage (floodMem flags) (floodQueue k) cfg 1 0 .empty = .ok req := by
      rw [walkChain_eq] at hwalk ⊢
      exact hwalk
    unfold processDescriptorChainBuf
    exact (congrArg (· >>= _) hsame).trans rfl
  change chainBufCall onePage (floodMem flags) (floodQueue k) cfg
    ((floodQueue k).availHead (floodMem flags)) = _
  rw [hslot, chainBufCall, hproc]

theorem flood_burst {flags : UInt8} {cfg : VirtioBufConfig} {goes stores : Int → Sight → Prop}
    (hidx : ∀ k, (floodQueue k).availIdx (floodMem flags) = 257)
    (hwalk : ∀ k, ∃ r, walkSeen onePage cfg (floodQueue k) (floodSight flags) = .ok r ∧
      goes r.1 (floodSight flags) ∧ stores r.1 (floodSight flags) ∧
        afterWalk r = (floodQueue k).advance) (left : Nat) :
    ∀ k, k + left = 256 → Burst onePage cfg goes stores left (floodQueue k)
      (List.replicate (2 * (left + 1)) (floodSight flags)) := by
  have htest : ∀ k, k ≤ 256 → (floodQueue k).availIdx (floodMem flags) ≠
      (floodQueue k).lastAvailIdx := by
    intro k hk heq
    rw [hidx k] at heq
    have hnat := congrArg UInt16.toNat heq
    change 257 = (UInt16.ofNat k).toNat at hnat
    rw [UInt16.toNat_ofNat'] at hnat
    omega
  induction left with
  | zero =>
    intro k hk
    obtain ⟨r, hr, -, hst, -⟩ := hwalk k
    exact ⟨_, _, _, r, rfl, htest k (by omega), hr, hst⟩
  | succ left ih =>
    intro k hk
    obtain ⟨r, hr, hgo, -, hafter⟩ := hwalk k
    have hnext : (floodQueue k).advance = floodQueue (k + 1) := by
      unfold floodQueue VirtQueue.advance
      rw [UInt16.ofNat_add]
      rfl
    refine ⟨_, _, List.replicate (2 * (left + 1)) (floodSight flags), r, rfl,
      htest k (by omega), hr, hgo, ?_⟩
    rw [hafter, hnext]
    exact ih (k + 1) (by omega)

/-- **A guest that stores 257 in `avail.idx` makes both handlers store behind the end of
    the arrays**: with packets of one readable buffer each on the transmit queue, and with
    one writable buffer each and packets at the tap device on the receive queue. -/
theorem net_batch_overrun :
    (∃ rounds, virtioNetTxqNotifyHandler onePage true rounds oneDescQueue.vq (floodState 0 514) =
      .error (.elsewhere .overrun)) ∧
    (∃ rounds, virtioNetEventHandler onePage rounds ⟨3, true⟩ .net oneDescQueue.vq
      (floodState 2 515) = .error (.elsewhere .overrun)) := by
  constructor
  · refine (netTxq_overrun_iff true rfl).mpr ⟨_, ⟨by decide, .start⟩, by decide, by decide, ?_⟩
    refine flood_burst (fun k => ?_) (fun k => ?_) 256 0 rfl
    · change readU16 (floodMem 0) 0x10102 = 257
      decide
    · have hwalk := floodQueue_walk 0 Handler.netTx.cfg ⟨[⟨0x10000, 60⟩], []⟩ k (by decide)
        (by decide)
      exact ⟨_, hwalk, trivial, trivial, rfl⟩
  · refine (netEvent_overrun_iff ⟨3, true⟩ .net rfl).mpr
      ⟨List.replicate 514 (floodSight 2), ⟨by decide, by decide, _, rfl, by decide⟩, ?_⟩
    refine flood_burst (fun k => ?_) (fun k => ?_) 256 0 rfl
    · change readU16 (floodMem 2) 0x10102 = 257
      decide
    · have hwalk := floodQueue_walk 2 Handler.netRx.cfg ⟨[], [⟨0x10000, 60⟩]⟩ k (by decide)
        (by decide)
      exact ⟨_, hwalk, ⟨Int.le_refl 1, 60, rfl, by decide⟩, fun h => (by cases h), rfl⟩

end HvisorTool
