/-
  File:      HvisorTool/Virtio/ChainBuf.lean
  Subject:   THE SINGLE-PASS CHAIN WALKER `process_descriptor_chain_buf`.

  The walker follows a descriptor chain through the direct table and any
  indirect tables and sorts its buffers into the caller's two arrays.

  * `processDescriptorChainBuf`: the walker, loop by loop. `ChainError.fail` is
    the return of -1, `ChainError.segv` the access to a table at `NULL`;
  * `chainItems`: what the guest's chain holds, as a list read off memory alone:
    buffers, and the places where no walk can go on;
  * `walkChain_eq`: the walker takes the items of that list one by one, so
    every fact about it is a fact about the list;
  * `walkChain_ok_iff`: when it succeeds and what it yields.
-/
import HvisorTool.Virtio.Queue

namespace HvisorTool

/-- How a chain walker ends other than by a return with a request. -/
inductive ChainError where
  | fail
  | segv
  | overrun
  | outOfFuel
  deriving DecidableEq, Repr

/-- The capacities of `struct VirtioBufConfig`. -/
structure VirtioBufConfig where
  maxOut : Nat
  maxIn : Nat
  deriving DecidableEq, Repr

/-- `struct VirtioRequest`: the filled parts of the caller's arrays. -/
structure VirtioRequest where
  outIov : List Iovec
  inIov : List Iovec
  deriving DecidableEq, Repr

namespace VirtioRequest

def empty : VirtioRequest := ⟨[], []⟩

/-- `out_count + in_count`. -/
def count (req : VirtioRequest) : Nat := req.outIov.length + req.inIov.length

/-- The entries handed to the device. -/
def entries (req : VirtioRequest) : List Iovec := req.outIov ++ req.inIov

end VirtioRequest

/-! ## 1. The walker -/

/-- `push_descriptor`. -/
def pushDescriptor (flags : UInt16) (address : UInt64) (length : UInt32) (cfg : VirtioBufConfig)
    (req : VirtioRequest) : Except ChainError VirtioRequest :=
  if flags &&& 2 != 0 then
    if req.inIov.length ≥ cfg.maxIn then .error .fail
    else .ok { req with inIov := req.inIov ++ [⟨address, length.toUInt64⟩] }
  else
    if req.outIov.length ≥ cfg.maxOut then .error .fail
    else .ok { req with outIov := req.outIov ++ [⟨address, length.toUInt64⟩] }

section Walker

variable (zm : ZoneTable) (mem : Mem) (vq : VirtQueue) (cfg : VirtioBufConfig)

/-- A descriptor that is a buffer: translate its address and push it. -/
def pushBuffer (d : VirtqDesc) (req : VirtioRequest) : Except ChainError VirtioRequest :=
  let address := vq.translate zm d.addr
  if address = 0 then .error .fail else pushDescriptor d.flags address d.len cfg req

/-- The inner loop, with the rounds left: the entries of an indirect table. -/
def walkIndirect (table : UInt64) (count : Nat) :
    Nat → UInt16 → VirtioRequest → Except ChainError VirtioRequest
  | 0, _, req => .ok req
  | j + 1, next, req =>
    if next.toNat ≥ count then .error .fail
    else if table = 0 then .error .segv
    else do
      let d := readDesc mem table next
      let req ← pushBuffer zm vq cfg d req
      if d.hasNext then walkIndirect table count j d.next req else .ok req

/-- One descriptor of the direct table: its indirect table, or itself. -/
def walkDesc (d : VirtqDesc) (req : VirtioRequest) : Except ChainError VirtioRequest :=
  if d.isIndirect then
    walkIndirect zm mem vq cfg (vq.translate zm d.addr) d.tableLen.toNat d.tableLen.toNat 0 req
  else pushBuffer zm vq cfg d req

/-- The outer loop, with the rounds left: the direct chain. -/
def walkChain : Nat → UInt16 → VirtioRequest → Except ChainError VirtioRequest
  | 0, _, req => .ok req
  | iter + 1, next, req =>
    if vq.descTable = 0 then .error .segv
    else do
      let d := readDesc mem vq.descTable next
      let req ← walkDesc zm mem vq cfg d req
      if d.hasNext then walkChain iter d.next req else .ok req

/-- `process_descriptor_chain_buf`: the request and the queue with its index
    advanced; the return value is the request's count. -/
def processDescriptorChainBuf (descriptorHead : UInt16) :
    Except ChainError (VirtioRequest × VirtQueue) := do
  let req ← walkChain zm mem vq cfg vq.num.toNat descriptorHead .empty
  .ok (req, vq.advance)

end Walker

/-! ## 2. What the guest's chain holds -/

/-- A place on a chain: a buffer, a table that is not mapped, or an index
    outside its indirect table. -/
inductive ChainItem where
  | buffer (d : VirtqDesc)
  | nullTable
  | badNext
  deriving DecidableEq, Repr

section Items

variable (zm : ZoneTable) (mem : Mem) (vq : VirtQueue)

def indirectItems (table : UInt64) (count : Nat) : Nat → UInt16 → List ChainItem
  | 0, _ => []
  | j + 1, next =>
    if next.toNat ≥ count then [.badNext]
    else if table = 0 then [.nullTable]
    else
      let d := readDesc mem table next
      .buffer d :: if d.hasNext then indirectItems table count j d.next else []

/-- The items one descriptor of the direct table stands for. -/
def descItems (d : VirtqDesc) : List ChainItem :=
  if d.isIndirect then
    indirectItems mem (vq.translate zm d.addr) d.tableLen.toNat d.tableLen.toNat 0
  else [.buffer d]

/-- The items of a chain of at most so many direct descriptors. -/
def chainItems : Nat → UInt16 → List ChainItem
  | 0, _ => []
  | iter + 1, next =>
    if vq.descTable = 0 then [.nullTable]
    else
      let d := readDesc mem vq.descTable next
      descItems zm mem vq d ++ if d.hasNext then chainItems iter d.next else []

variable (cfg : VirtioBufConfig)

/-- One item taken. -/
def takeItem (req : VirtioRequest) : ChainItem → Except ChainError VirtioRequest
  | .buffer d => pushBuffer zm vq cfg d req
  | .nullTable => .error .segv
  | .badNext => .error .fail

variable {zm mem vq cfg}

theorem walkIndirect_eq (table : UInt64) (count j : Nat) (next : UInt16) (req : VirtioRequest) :
    walkIndirect zm mem vq cfg table count j next req =
      (indirectItems mem table count j next).foldlM (takeItem zm vq cfg) req := by
  induction j generalizing next req with
  | zero => rfl
  | succ j ih =>
    unfold walkIndirect indirectItems
    split
    · rfl
    · split
      · rfl
      · rw [List.foldlM_cons]
        refine bind_congr fun req' => ?_
        split
        · exact ih _ _
        · rfl

theorem walkDesc_eq (d : VirtqDesc) (req : VirtioRequest) :
    walkDesc zm mem vq cfg d req = (descItems zm mem vq d).foldlM (takeItem zm vq cfg) req := by
  unfold walkDesc descItems
  split
  · exact walkIndirect_eq ..
  · rw [List.foldlM_cons]
    exact (bind_pure _).symm

/-- **The walker takes the items of the chain one by one.** -/
theorem walkChain_eq (iter : Nat) (next : UInt16) (req : VirtioRequest) :
    walkChain zm mem vq cfg iter next req =
      (chainItems zm mem vq iter next).foldlM (takeItem zm vq cfg) req := by
  induction iter generalizing next req with
  | zero => rfl
  | succ iter ih =>
    unfold walkChain chainItems
    split
    · rfl
    · rw [List.foldlM_append, ← walkDesc_eq]
      refine bind_congr fun req' => ?_
      split
      · exact ih _ _
      · rfl

/-! ## 3. When the walk succeeds -/

/-- The entry of a buffer descriptor. -/
def VirtqDesc.iovec (zm : ZoneTable) (vq : VirtQueue) (d : VirtqDesc) : Iovec :=
  ⟨vq.translate zm d.addr, d.len.toUInt64⟩

/-- A request with the buffers of a list added. -/
def VirtioRequest.add (zm : ZoneTable) (vq : VirtQueue) (req : VirtioRequest)
    (ds : List VirtqDesc) : VirtioRequest :=
  { outIov := req.outIov ++ (ds.filter (!·.isWrite)).map (·.iovec zm vq)
    inIov := req.inIov ++ (ds.filter (·.isWrite)).map (·.iovec zm vq) }

/-- A request within the caller's capacities. -/
def VirtioRequest.Within (req : VirtioRequest) (cfg : VirtioBufConfig) : Prop :=
  req.outIov.length ≤ cfg.maxOut ∧ req.inIov.length ≤ cfg.maxIn

instance (req : VirtioRequest) (cfg : VirtioBufConfig) : Decidable (req.Within cfg) := by
  unfold VirtioRequest.Within
  infer_instance

theorem VirtioRequest.add_nil (req : VirtioRequest) : req.add zm vq [] = req := by
  simp [VirtioRequest.add]

theorem VirtioRequest.add_cons (req : VirtioRequest) (d : VirtqDesc) (ds : List VirtqDesc) :
    req.add zm vq (d :: ds) = (req.add zm vq [d]).add zm vq ds := by
  cases h : d.isWrite <;> simp [VirtioRequest.add, h]

theorem VirtioRequest.count_add (req : VirtioRequest) (ds : List VirtqDesc) :
    (req.add zm vq ds).count = req.count + ds.length := by
  induction ds generalizing req with
  | nil => rw [req.add_nil, List.length_nil, Nat.add_zero]
  | cons d ds ih =>
    have h1 : (req.add zm vq [d]).count = req.count + 1 := by
      cases h : d.isWrite <;> simp [VirtioRequest.add, VirtioRequest.count, h] <;> omega
    rw [req.add_cons, ih, h1, List.length_cons]
    omega

variable {req : VirtioRequest} {ds : List VirtqDesc}

/-- Capacities that suffice in the end suffice on the way. -/
theorem VirtioRequest.Within.of_add (h : (req.add zm vq ds).Within cfg) : req.Within cfg := by
  simp only [VirtioRequest.Within, VirtioRequest.add, List.length_append] at h
  exact ⟨by omega, by omega⟩

/-- The buffer goes to the array of its direction, if that has room. -/
theorem pushBuffer_eq {d : VirtqDesc} (hw : req.Within cfg) (h0 : vq.translate zm d.addr ≠ 0) :
    pushBuffer zm vq cfg d req =
      if (req.add zm vq [d]).Within cfg then .ok (req.add zm vq [d]) else .error .fail := by
  obtain ⟨ho, hi⟩ := hw
  have hflag : (d.flags &&& 2 != 0) = d.isWrite := rfl
  unfold pushBuffer pushDescriptor
  rw [if_neg h0, hflag]
  cases h : d.isWrite
  · have hout : req.outIov.length + 1 ≤ cfg.maxOut ↔ ¬ req.outIov.length ≥ cfg.maxOut := by omega
    by_cases hf : req.outIov.length ≥ cfg.maxOut <;>
      simp [VirtioRequest.Within, VirtioRequest.add, h, VirtqDesc.iovec, hi, hout, hf]
  · have hin : req.inIov.length + 1 ≤ cfg.maxIn ↔ ¬ req.inIov.length ≥ cfg.maxIn := by omega
    by_cases hf : req.inIov.length ≥ cfg.maxIn <;>
      simp [VirtioRequest.Within, VirtioRequest.add, h, VirtqDesc.iovec, ho, hin, hf]

/-- A run of buffers is taken whole if each translates and the capacities
    suffice for all; else the walk fails in it. -/
theorem takeBuffers_eq (hw : req.Within cfg) :
    (ds.map .buffer).foldlM (takeItem zm vq cfg) req =
      if (∀ d ∈ ds, vq.translate zm d.addr ≠ 0) ∧ (req.add zm vq ds).Within cfg then
        .ok (req.add zm vq ds)
      else .error .fail := by
  induction ds generalizing req with
  | nil =>
    rw [VirtioRequest.add_nil, if_pos ⟨nofun, hw⟩]
    rfl
  | cons d ds ih =>
    rw [List.map_cons, List.foldlM_cons, VirtioRequest.add_cons]
    show (pushBuffer zm vq cfg d req >>= _) = _
    by_cases h0 : vq.translate zm d.addr = 0
    · rw [pushBuffer, if_pos h0, if_neg fun h => h.1 d List.mem_cons_self h0]
      rfl
    · rw [pushBuffer_eq hw h0]
      by_cases hfit : (req.add zm vq [d]).Within cfg
      · rw [if_pos hfit]
        refine (ih hfit).trans ?_
        simp only [List.forall_mem_cons, ne_eq, h0, not_false_eq_true, true_and]
      · rw [if_neg hfit, if_neg fun h => hfit h.2.of_add]
        rfl

/-- A list of items starts with buffers, up to its end or its first obstacle. -/
theorem items_split (items : List ChainItem) :
    ∃ (ds : List VirtqDesc) (rest : List ChainItem), items = ds.map ChainItem.buffer ++ rest ∧
      (rest = [] ∨ (∃ r, rest = .nullTable :: r) ∨ ∃ r, rest = .badNext :: r) := by
  induction items with
  | nil => exact ⟨[], [], rfl, Or.inl rfl⟩
  | cons it items ih =>
    cases it with
    | nullTable => exact ⟨[], _, rfl, Or.inr (Or.inl ⟨items, rfl⟩)⟩
    | badNext => exact ⟨[], _, rfl, Or.inr (Or.inr ⟨items, rfl⟩)⟩
    | buffer d =>
      obtain ⟨ds, rest, rfl, h⟩ := ih
      exact ⟨d :: ds, rest, rfl, h⟩

/-- The buffers in front, then the rest. -/
theorem takeItems_append {rest : List ChainItem} (hw : req.Within cfg) :
    (ds.map ChainItem.buffer ++ rest).foldlM (takeItem zm vq cfg) req =
      if (∀ d ∈ ds, vq.translate zm d.addr ≠ 0) ∧ (req.add zm vq ds).Within cfg then
        rest.foldlM (takeItem zm vq cfg) (req.add zm vq ds)
      else .error .fail := by
  rw [List.foldlM_append, takeBuffers_eq hw]
  split <;> rfl

/-- **When the items are taken, and what they yield**: they are all buffers,
    each translates, and the capacities suffice. -/
theorem takeItems_ok_iff {items : List ChainItem} {req' : VirtioRequest} (hw : req.Within cfg) :
    items.foldlM (takeItem zm vq cfg) req = .ok req' ↔
      ∃ ds : List VirtqDesc, items = ds.map ChainItem.buffer ∧ (∀ d ∈ ds, vq.translate zm d.addr ≠ 0) ∧
        req' = req.add zm vq ds ∧ req'.Within cfg := by
  constructor
  · obtain ⟨ds, rest, rfl, hrest⟩ := items_split items
    rw [takeItems_append hw]
    split
    · rename_i h
      rcases hrest with rfl | ⟨r, rfl⟩ | ⟨r, rfl⟩
      · rintro ⟨⟩
        exact ⟨ds, List.append_nil _, h.1, rfl, h.2⟩
      · nofun
      · nofun
    · nofun
  · rintro ⟨ds, rfl, htr, rfl, hw'⟩
    rw [takeBuffers_eq hw, if_pos ⟨htr, hw'⟩]

/-- The walk ends in an access to an unmapped table exactly when it comes to one. -/
theorem takeItems_segv_iff {items : List ChainItem} (hw : req.Within cfg) :
    items.foldlM (takeItem zm vq cfg) req = .error .segv ↔
      ∃ (ds : List VirtqDesc) (rest : List ChainItem), items = ds.map ChainItem.buffer ++ .nullTable :: rest ∧
        (∀ d ∈ ds, vq.translate zm d.addr ≠ 0) ∧ (req.add zm vq ds).Within cfg := by
  constructor
  · obtain ⟨ds, rest, rfl, hrest⟩ := items_split items
    rw [takeItems_append hw]
    split
    · rename_i h
      rcases hrest with rfl | ⟨r, rfl⟩ | ⟨r, rfl⟩
      · nofun
      · exact fun _ => ⟨ds, r, rfl, h.1, h.2⟩
      · nofun
    · nofun
  · rintro ⟨ds, rest, rfl, htr, hw'⟩
    rw [takeItems_append hw, if_pos ⟨htr, hw'⟩]
    rfl

theorem within_empty (cfg : VirtioBufConfig) : VirtioRequest.empty.Within cfg :=
  ⟨Nat.zero_le _, Nat.zero_le _⟩

/-- **What `process_descriptor_chain_buf` returns**: the buffers of the chain, in
    order, sorted by direction, and the index advanced by one. -/
theorem processDescriptorChainBuf_ok_iff {head : UInt16} {vq' : VirtQueue} :
    processDescriptorChainBuf zm mem vq cfg head = .ok (req, vq') ↔
      ∃ ds : List VirtqDesc, chainItems zm mem vq vq.num.toNat head = ds.map ChainItem.buffer ∧
        (∀ d ∈ ds, vq.translate zm d.addr ≠ 0) ∧ req = VirtioRequest.empty.add zm vq ds ∧
        req.Within cfg ∧ vq' = vq.advance := by
  unfold processDescriptorChainBuf
  rw [walkChain_eq]
  constructor
  · intro h
    cases hf : (chainItems zm mem vq vq.num.toNat head).foldlM (takeItem zm vq cfg) .empty with
    | error e =>
      rw [hf] at h
      cases h
    | ok r =>
      rw [hf] at h
      cases h
      obtain ⟨ds, h1, h2, h3, h4⟩ := (takeItems_ok_iff (within_empty cfg)).mp hf
      exact ⟨ds, h1, h2, h3, h4, rfl⟩
  · rintro ⟨ds, h1, h2, h3, h4, rfl⟩
    rw [(takeItems_ok_iff (within_empty cfg)).mpr ⟨ds, h1, h2, h3, h4⟩]
    rfl

end Items

end HvisorTool
