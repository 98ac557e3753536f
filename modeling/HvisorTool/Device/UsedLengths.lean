/-
  File:      HvisorTool/Device/UsedLengths.lean
  Subject:   USED LENGTHS OF ALL DEVICES: whether a guest may trust the length of a used entry.

  * `Service`: the handlers of the five devices, with what they get from outside the guest;
  * `Service.entry`, `Service.stored`: the used entry of a request, and the bytes stored into
    the writable buffers of its chain;
  * `Service.Covers`: the requests whose length is right, said of the request;
  * `used_len_truthful_iff`: the length is at most the bytes stored for these requests, and
    for no others;
  * `used_len_untruthful`: requests of each device whose length is too large.
-/
import HvisorTool.Device.UsedEntries

namespace HvisorTool

open Library

/-! ## 1. The handlers -/

/-- The handlers that complete requests, with the answers of the kernel, the state of the
    device, and what `malloc` left in an array. -/
inductive Service (σ : Type) where
  | blk (be : BlkBackend σ) (img : σ)
  | netTx (tap : TapBackend σ) (version1 : Bool) (pad : UInt64) (dev : σ)
  | netRx (answer : ReadvResult)
  | consoleTx (fuel : Nat) (masterFd : Int)
  | consoleRx (fuel : Nat) (junk : Nat → Iovec) (answer : ReadvResult)
  | scmi (params : Option VirtioScmiInitParams) (kernel : List ScmiIoctl → ScmiKernel)
      (log : List ScmiIoctl)
  | gpu (fuel : Nat) (junk : Nat → Iovec) (env : GPUEnv) (dev : GPUState)

namespace Service

variable {σ : Type} (zm : ZoneTable) (q : CompletionQueue) (mem : Mem)

/-- The walk of the chain by the handlers that split it by direction. -/
def walk (h : Handler) : Except ChainError (Int × VirtioRequest × VirtQueue) :=
  chainBufCall zm mem q.vq h.cfg (q.vq.availHead mem)

/-- The walk of the chain by the console and GPU handlers. -/
def walkAll (fuel : Nat) : Except ChainError ChainResult :=
  processDescriptorChain zm mem q.vq fuel 0 true

/-- The used entry of the request at the head of the available ring, if one is added. -/
def entry : Service σ → Option VirtqUsedElem
  | .blk be img => entryOf Handler.blk.view q ((virtqBlkHandleOneRequest be zm q mem img).map (·.1))
  | .netTx tap version1 pad dev =>
    entryOf Handler.netTx.view q ((netTxHandleOneRequest tap zm version1 pad q mem dev).map (·.1))
  | .netRx answer => entryOf Handler.netRx.view q ((netRxBody zm answer q mem).map (·.1))
  | .consoleTx fuel masterFd =>
    entryOf CompletionQueue.used q (consoleTxHandleOneRequest zm fuel q mem masterFd)
  | .consoleRx fuel _ answer =>
    entryOf CompletionQueue.used q ((consoleRxBody zm fuel q mem answer).map (·.1))
  | .scmi params kernel log =>
    entryOf Handler.scmi.view q ((scmiHandleOneRequest (scmiBackend kernel) zm q mem
      (virtioScmiDoInit params, log)).map (·.1))
  | .gpu fuel junk env dev =>
    entryOf CompletionQueue.used q ((virtioGpuRequest zm mem fuel junk env q dev).map (·.1))

/-- The bytes that the device stores into the writable buffers of the chain. -/
def stored : Service σ → Finset BufByte
  | .blk be img =>
    match walk zm q mem .blk with
    | .ok (ret, vreq, _) => blkStored be mem img ret vreq
    | .error _ => ∅
  | .netTx .. => ∅
  | .netRx answer =>
    match walk zm q mem .netRx with
    | .ok (n, req, _) => netRxStored answer n req
    | .error _ => ∅
  | .consoleTx .. => ∅
  | .consoleRx fuel junk answer =>
    match walkAll zm q mem fuel with
    | .ok r => consoleRxStored answer junk r
    | .error _ => ∅
  | .scmi params kernel log =>
    match walk zm q mem .scmi with
    | .ok (ret, vreq, _) => scmiStored (kernel log) (virtioScmiDoInit params) mem ret vreq
    | .error _ => ∅
  | .gpu fuel junk env dev =>
    match walkAll zm q mem fuel, virtioGpuRequest zm mem fuel junk env q dev with
    | .ok r, .ok (_, _, copies) => copiedBytes copies ∩ markedBytes 0 (r.buffers junk)
    | _, _ => ∅

/-- What the kernel keeps to: it does not read more than it was given room for, and no more
    than 2 GiB at once. -/
def KernelOk : Service σ → Prop
  | .blk be _ => be.PreadvFits
  | .netRx answer => ∀ r len, walk zm q mem .netRx = .ok r → answer = .packet len →
      len ≤ (lengths r.2.1.inIov).sum
  | .consoleRx _ _ answer => ∀ len, answer = .packet len → len < 2 ^ 31
  | _ => True

/-- The requests whose length is right. A block request passes the checks, and is not a
    `GET_ID` without a buffer for the id; a packet to transmit is not sent, or has length 0
    in 32 bits; the characters received end before the first read-only buffer; an SCMI
    request does not ask for a name that is shorter than its field; the response to a GPU
    command ends before the first read-only buffer behind the command, and fits. -/
def Covers : Service σ → Prop
  | .blk _ _ => ∃ r, walk zm q mem .blk = .ok r ∧ BlkCovers mem r.1 r.2.1
  | .netTx tap version1 pad dev =>
    ∃ r, walk zm q mem .netTx = .ok r ∧ NetTxCovers tap version1 pad mem dev r.1 r.2.1
  | .netRx _ => True
  | .consoleTx .. => True
  | .consoleRx fuel junk answer => ∀ r len, walkAll zm q mem fuel = .ok r → answer = .packet len →
      len ≤ markedLead (r.buffers junk)
  | .scmi params _ _ => ∃ r, walk zm q mem .scmi = .ok r ∧ ScmiCovers params mem r.1 r.2.1
  | .gpu fuel junk env _ => ∀ r code, walkAll zm q mem fuel = .ok r →
      controlHeaderType env (r.iovs junk) = .ok (some code) →
        gpuResponseSize code ≤ markedLead (r.buffers junk).tail

end Service

/-! ## 2. Every request -/

section Requests

variable {σ : Type} {zm : ZoneTable} {q : CompletionQueue} {mem : Mem} {e : VirtqUsedElem}

theorem exists_walk_iff {α : Type} {x : Except ChainError α} {r : α} {P : α → Prop}
    (h : x = .ok r) : (∃ r, x = .ok r ∧ P r) ↔ P r := by
  constructor
  · intro hex
    obtain ⟨r', hr', hP⟩ := hex
    cases h.symm.trans hr'
    exact hP
  · exact fun hP => ⟨r, h, hP⟩

theorem blk_truthful_iff {be : BlkBackend σ} {img : σ} (hfits : be.PreadvFits)
    (he : (Service.blk be img).entry zm q mem = some e) :
    e.len.toNat ≤ ((Service.blk be img).stored zm q mem).card ↔
      (Service.blk be img).Covers zm q mem := by
  obtain ⟨r, hwalk, hlen⟩ := blk_entry he
  have hw : Service.walk zm q mem .blk = .ok r := hwalk
  unfold Service.stored Service.Covers
  dsimp only
  rw [exists_walk_iff hw, hw, hlen]
  exact blk_len_le_iff hfits fun v hv => (chainBufCall_entries hwalk v hv).1

theorem netTx_truthful_iff {tap : TapBackend σ} {version1 : Bool} {pad : UInt64} {dev : σ}
    (he : (Service.netTx tap version1 pad dev).entry zm q mem = some e) :
    e.len.toNat ≤ ((Service.netTx tap version1 pad dev).stored zm q mem).card ↔
      (Service.netTx tap version1 pad dev).Covers zm q mem := by
  obtain ⟨r, hwalk, hlen⟩ := netTx_entry he
  have hw : Service.walk zm q mem .netTx = .ok r := hwalk
  unfold Service.stored Service.Covers
  dsimp only
  rw [exists_walk_iff hw, hlen]
  exact netTx_len_le_iff

theorem netRx_truthful {answer : ReadvResult}
    (hk : (Service.netRx answer : Service σ).KernelOk zm q mem)
    (he : (Service.netRx answer : Service σ).entry zm q mem = some e) :
    e.len.toNat ≤ ((Service.netRx answer : Service σ).stored zm q mem).card := by
  obtain ⟨r, hwalk, hlen⟩ := netRx_entry he
  have hw : Service.walk zm q mem .netRx = .ok r := hwalk
  unfold Service.stored
  dsimp only
  rcases hlen with hzero | ⟨hn, len, rfl, hlen⟩
  · rw [hzero]
    exact Nat.zero_le _
  · rw [hw, hlen]
    exact netRx_len_le hn (hk r len hw rfl)

theorem consoleRx_truthful_iff {fuel : Nat} {junk : Nat → Iovec} {answer : ReadvResult}
    (hk : (Service.consoleRx fuel junk answer : Service σ).KernelOk zm q mem)
    (he : (Service.consoleRx fuel junk answer : Service σ).entry zm q mem = some e) :
    e.len.toNat ≤ ((Service.consoleRx fuel junk answer : Service σ).stored zm q mem).card ↔
      (Service.consoleRx fuel junk answer : Service σ).Covers zm q mem := by
  obtain ⟨r, len, hwalk, rfl, hlen⟩ := consoleRx_entry he
  have hw : Service.walkAll zm q mem fuel = .ok r := hwalk
  have hsize : len < UInt32.size := Nat.lt_trans (hk len rfl) (by decide)
  unfold Service.stored Service.Covers
  dsimp only
  rw [hw, hlen, UInt32.toNat_ofNat_of_lt' hsize]
  refine (le_card_landed_iff 0 len (r.buffers junk)).trans ⟨fun h r' len' hr' hlen' => ?_,
    fun h => h r len rfl rfl⟩
  cases hr'
  cases hlen'
  exact h

theorem scmi_truthful_iff {params : Option VirtioScmiInitParams}
    {kernel : List ScmiIoctl → ScmiKernel} {log : List ScmiIoctl}
    (he : (Service.scmi params kernel log : Service σ).entry zm q mem = some e) :
    e.len.toNat ≤ ((Service.scmi params kernel log : Service σ).stored zm q mem).card ↔
      (Service.scmi params kernel log : Service σ).Covers zm q mem := by
  obtain ⟨r, hwalk, hlen⟩ := scmi_entry he
  have hw : Service.walk zm q mem .scmi = .ok r := hwalk
  unfold Service.stored Service.Covers
  dsimp only
  rw [exists_walk_iff hw, hw, hlen]
  exact scmi_len_le_iff (chainBufCall_entries hwalk)

theorem gpu_truthful_iff {fuel : Nat} {junk : Nat → Iovec} {env : GPUEnv} {dev : GPUState}
    (he : (Service.gpu fuel junk env dev : Service σ).entry zm q mem = some e) :
    e.len.toNat ≤ ((Service.gpu fuel junk env dev : Service σ).stored zm q mem).card ↔
      (Service.gpu fuel junk env dev : Service σ).Covers zm q mem := by
  obtain ⟨r, code, q', dev', copies, hwalk, hcode, hrun, hcopies, hlen⟩ := gpu_entry he
  have hw : Service.walkAll zm q mem fuel = .ok r := hwalk
  unfold Service.stored Service.Covers
  dsimp only
  rw [hw, hrun, hlen, UInt32.toNat_ofNat_of_lt' (gpuResponseSize_lt code)]
  dsimp only
  rw [hcopies, gpuStored_eq]
  refine (le_card_landed_iff 1 _ _).trans ⟨fun h r' code' hr' hcode' => ?_,
    fun h => h r code rfl hcode⟩
  cases hr'
  cases hcode.symm.trans hcode'
  exact h

end Requests

/-- **Used lengths are right for the requests that `Covers` names, and for no others**: for
    every handler and every request that gets a used entry, malformed ones included, the
    length of the entry is at most the number of bytes stored into the writable buffers of
    the chain if and only if the request is one of them. -/
theorem used_len_truthful_iff {σ : Type} (k : Service σ) (zm : ZoneTable) (q : CompletionQueue)
    (mem : Mem) (hk : k.KernelOk zm q mem) (e : VirtqUsedElem) (he : k.entry zm q mem = some e) :
    e.len.toNat ≤ (k.stored zm q mem).card ↔ k.Covers zm q mem := by
  cases k with
  | blk be img => exact blk_truthful_iff hk he
  | netTx tap version1 pad dev => exact netTx_truthful_iff he
  | netRx answer => exact ⟨fun _ => trivial, fun _ => netRx_truthful hk he⟩
  | consoleTx fuel masterFd =>
      refine ⟨fun _ => trivial, fun _ => ?_⟩
      rw [consoleTx_entry he]
      exact Nat.zero_le _
  | consoleRx fuel junk answer => exact consoleRx_truthful_iff hk he
  | scmi params kernel log => exact scmi_truthful_iff he
  | gpu fuel junk env dev => exact gpu_truthful_iff he

/-- A packet of 60 bytes into one buffer of 60 bytes. -/
theorem used_len_truthful_packet :
    ∃ e, (Service.netRx (.packet 60) : Service Unit).entry onePage oneDescQueue (oneDescMem 60 2) =
        some e ∧ e.len = 60 ∧
      e.len.toNat ≤ ((Service.netRx (.packet 60) : Service Unit).stored onePage oneDescQueue
        (oneDescMem 60 2)).card := by
  have hwalk : Service.walk onePage oneDescQueue (oneDescMem 60 2) .netRx =
      .ok (1, ⟨[], [⟨0x10000, 60⟩]⟩, oneDescQueue.vq.advance) := by decide
  have hk : (Service.netRx (.packet 60) : Service Unit).KernelOk onePage oneDescQueue
      (oneDescMem 60 2) := by
    intro r len hr hlen
    cases hwalk.symm.trans hr
    cases hlen
    decide
  have he : (Service.netRx (.packet 60) : Service Unit).entry onePage oneDescQueue
      (oneDescMem 60 2) = some ⟨0, 60⟩ := by decide
  exact ⟨_, he, rfl, (used_len_truthful_iff _ _ _ _ hk _ he).mpr trivial⟩

/-! ## 3. Lengths that are too large -/

/-- A request with a used entry whose length is larger than the number of bytes stored. -/
def Overstated (k : Service Unit) (q : CompletionQueue) (mem : Mem) (len : UInt32) (bytes : Nat) :
    Prop :=
  ∃ e, k.entry onePage q mem = some e ∧ e.len = len ∧ (k.stored onePage q mem).card = bytes ∧
    bytes < len.toNat

/-- A `GET_ID` with no writable buffer beside the status byte. -/
def getIdMem : Mem := Function.update (commandMem 0x8 0 16 1) 0x10202 0

/-- A guest with one reset domain. -/
def oneReset : VirtioScmiInitParams :=
  { clockIds := .null, resetIds := ⟨some [7], 1, rfl⟩, powerIds := .null }

/-- **Lengths that are too large**: a block request that is one readable byte, and the
    `GET_ID` of a lone status byte; a packet that is transmitted; characters received into
    a read-only buffer; the attributes of a reset domain; a GPU command without a buffer
    for the response. -/
theorem used_len_untruthful :
    Overstated (.blk idleBackends.blk ()) oneDescQueue (oneDescMem 1 0) 1 0 ∧
    Overstated (.blk idleBackends.blk ()) commandQueue getIdMem 2 1 ∧
    Overstated (.netTx idleBackends.tap true 0 ()) oneDescQueue (oneDescMem 60 0) 60 0 ∧
    Overstated (.consoleRx 4 (fun _ => ⟨0, 0⟩) (.packet 5)) oneDescQueue (oneDescMem 60 0) 5 0 ∧
    Overstated (.scmi (some oneReset) (fun _ _ => none) []) commandQueue
      (commandMem 0x3 0x58 8 64) 32 23 ∧
    Overstated (.gpu 4 (fun _ => ⟨0, 0⟩) (driverEnv drmFine (commandHeader 0x106))
      (initGpuDev ⟨1024, 768⟩)) oneDescQueue (oneDescMem 24 0) 24 0 := by
  refine ⟨⟨⟨0, 1⟩, ?_, rfl, ?_, by decide⟩, ⟨⟨0, 2⟩, ?_, rfl, ?_, by decide⟩,
    ⟨⟨0, 60⟩, ?_, rfl, ?_, by decide⟩, ⟨⟨0, 5⟩, ?_, rfl, ?_, by decide⟩,
    ⟨⟨0, 32⟩, ?_, rfl, ?_, by decide⟩, ⟨⟨0, 24⟩, ?_, rfl, ?_, by decide⟩⟩
  all_goals decide +kernel

end HvisorTool
