/-
  File:      HvisorTool/Scmi/Answers.lean
  Subject:   WHICH SCMI COMMANDS ARE ANSWERED: the used entry and the response that a
             guest finds behind `virtq_tx_handle_one_request`.

  A handler reports an error in one of two ways: as a status inside a response, or as a
  return code. The queue makes an empty completion of the second.

  * `readU32_apply`: the stores of a response, read back as words of memory;
  * `protocols_virtioScmiDoInit`: the protocols of a configured device;
  * `ScmiCommand`: a command as the guest lays it out in its descriptors;
  * `Answered`: the length, the header and the status of an answer;
  * `scmi_answered_iff`: which commands are answered.
-/
import HvisorTool.Scmi.Responses

namespace HvisorTool

/-! ## 1. The response in memory -/

/-- The memory behind a response, byte by byte. -/
theorem apply_eq {ctx : ScmiRespCtx} {cap : Nat} (hcap : cap ≤ 2 ^ 64)
    (hst : ∀ st ∈ ctx.stores, st.Within cap) (mem : Mem) {i : Nat} (hi : i < 2 ^ 64) :
    ctx.apply mem (ctx.iov.iovBase + UInt64.ofNat i) =
      (respByte ctx.stores i).getD (mem (ctx.iov.iovBase + UInt64.ofNat i)) := by
  obtain ⟨iov, written, capacity, stores⟩ := ctx
  unfold ScmiRespCtx.apply
  dsimp only at hst ⊢
  induction stores generalizing mem with
  | nil => rfl
  | cons st rest ih =>
    rw [List.foldl_cons, ih _ (fun s hs => hst s (List.mem_cons_of_mem _ hs)), respByte,
      Option.getD_or]
    congr 1
    obtain ⟨off, hptr, hfit⟩ := hst st List.mem_cons_self
    have hbase := iov.iovBase.toNat_lt
    have hdiff : (iov.iovBase + UInt64.ofNat i - (iov.iovBase + UInt64.ofNat off)).toNat =
        (2 ^ 64 + i - off) % 2 ^ 64 := by
      rw [UInt64.toNat_sub, UInt64.toNat_add, UInt64.toNat_add, UInt64.toNat_ofNat',
        UInt64.toNat_ofNat']
      omega
    rw [RespStore.byteAt, hptr]
    dsimp only
    rw [writeBytes_apply _ _ _ _ (by omega), hdiff]
    by_cases hle : off ≤ i
    · rw [if_pos hle]
      congr 2
      omega
    · rw [if_neg hle, List.getElem?_eq_none (by omega)]

/-- A word stored is read back. -/
theorem readU32_apply {ctx : ScmiRespCtx} {cap : Nat} (hcap : cap ≤ 2 ^ 64)
    (hst : ∀ st ∈ ctx.stores, st.Within cap) (mem : Mem) {off : Nat} (hoff : off + 4 ≤ 2 ^ 64)
    {w : UInt32} (hw : ∀ i < 4, respByte ctx.stores (off + i) = (le32 w)[i]?) :
    readU32 (ctx.apply mem) (ctx.iov.iovBase + UInt64.ofNat off) = w := by
  refine readU32_of_bytes (List.ext_getElem ?_ fun k h1 h2 => ?_)
  · rw [readBytes_length, length_le32]
  · rw [length_le32] at h2
    have hk : (le32 w)[k]? = some (le32 w)[k] := List.getElem?_eq_getElem _
    simp only [readBytes, List.getElem_map, List.getElem_range]
    rw [UInt64.add_assoc, ← UInt64.ofNat_add, apply_eq hcap hst mem (by omega), hw k h2, hk]
    rfl

/-! ## 2. The protocols of a device -/

theorem count_scmiCopyIdArray (src : IdArray) : (scmiCopyIdArray src).count = src.count := by
  unfold scmiCopyIdArray
  split
  · next hzero => exact hzero.symm
  · rfl

/-- **The protocols registered**: the base protocol, and those of which the configuration
    has an id. -/
theorem protocols_virtioScmiDoInit (p : VirtioScmiInitParams) :
    (virtioScmiDoInit (some p)).protocols = ⟨scmiProtoIdBase, .base⟩ ::
      ([ScmiDomain.clock, .power, .reset].filter fun d => 0 < (p.idsOf d).count).map fun d =>
        ⟨d.protocolId, .domain d⟩ := by
  have hclock := count_scmiCopyIdArray p.clockIds
  have hpower := count_scmiCopyIdArray p.powerIds
  have hreset := count_scmiCopyIdArray p.resetIds
  by_cases hc : 0 < p.clockIds.count <;> by_cases hp : 0 < p.powerIds.count <;>
    by_cases hr : 0 < p.resetIds.count <;>
    simp [virtioScmiDoInit, VirtioScmiInitParams.idsOf, scmiDevRegisterProtocol, scmiDevCreate,
      hclock, hpower, hreset, hc, hp, hr, ScmiDomain.protocolId, scmiProtoIdBase,
      ScmiHandler.protocolId, scmiMaxProtocols]

/-- A protocol of a configuration. -/
def Registered (params : Option VirtioScmiInitParams) (protocolId : UInt8) : Prop :=
  ∃ p, params = some p ∧
    (protocolId = scmiProtoIdBase ∨ ∃ d, protocolId = d.protocolId ∧ 0 < (p.idsOf d).count)

theorem serves_iff (params : Option VirtioScmiInitParams) (pid : UInt8) :
    (virtioScmiDoInit params).Serves pid ↔ Registered params pid := by
  cases params with
  | none =>
    constructor
    · rintro ⟨e, he, -⟩
      exact absurd he List.not_mem_nil
    · rintro ⟨p, hp, -⟩
      cases hp
  | some p =>
    have hall : ∀ d : ScmiDomain, d ∈ [ScmiDomain.clock, .power, .reset] := by
      intro d
      cases d <;> decide
    unfold SCMIDev.Serves
    rw [protocols_virtioScmiDoInit]
    constructor
    · rintro ⟨e, he, rfl⟩
      rcases List.mem_cons.mp he with rfl | he
      · exact ⟨p, rfl, .inl rfl⟩
      · obtain ⟨d, hd, rfl⟩ := List.mem_map.mp he
        exact ⟨p, rfl, .inr ⟨d, rfl, of_decide_eq_true (List.mem_filter.mp hd).2⟩⟩
    · rintro ⟨p', hp, hpid⟩
      cases hp
      rcases hpid with rfl | ⟨d, rfl, hcount⟩
      · exact ⟨_, List.mem_cons_self, rfl⟩
      · have hd : d ∈ [ScmiDomain.clock, .power, .reset].filter fun d => 0 < (p.idsOf d).count :=
          List.mem_filter.mpr ⟨hall d, decide_eq_true hcount⟩
        exact ⟨_, List.mem_cons_of_mem _ (List.mem_map.mpr ⟨d, hd, rfl⟩), rfl⟩

/-! ## 3. A command -/

/-- A command at the head of the available ring, in a queue that is set up: its chain has
    one readable buffer, of a size that is accepted, with a header of type
    `SCMI_MSG_TYPE_COMMAND`, and one writable buffer with room for a header and a status;
    both are mapped. -/
structure ScmiCommand (zm : ZoneTable) (mem : Mem) (q : CompletionQueue) (req resp : VirtqDesc) :
    Prop where
  avail : q.vq.availRing ≠ 0
  used : q.vq.usedRing ≠ 0
  chain : ∃ ds : List VirtqDesc,
    chainItems zm mem q.vq q.vq.num.toNat (q.vq.availHead mem) = ds.map ChainItem.buffer ∧
      ds.filter (!·.isWrite) = [req] ∧ ds.filter (·.isWrite) = [resp]
  reqMapped : q.vq.translate zm req.addr ≠ 0
  respMapped : q.vq.translate zm resp.addr ≠ 0
  reqLeast : 4 ≤ req.len.toNat
  reqMost : req.len.toNat ≤ scmiMaxBufferSize.toNat
  respLeast : 8 ≤ resp.len.toNat
  command : (scmiMsgHeader (readU32 mem (q.vq.translate zm req.addr))).msgType = 0

section Command

variable {zm : ZoneTable} {mem : Mem} {q : CompletionQueue} {req resp : VirtqDesc}

/-- The walk finds the two buffers. -/
theorem ScmiCommand.walk (h : ScmiCommand zm mem q req resp) :
    chainBufCall zm mem q.vq ⟨2, 2⟩ (q.vq.availHead mem) =
      .ok (2, ⟨[req.iovec zm q.vq], [resp.iovec zm q.vq]⟩, q.vq.advance) := by
  obtain ⟨ds, hitems, hout, hin⟩ := h.chain
  have hmapped : ∀ d ∈ ds, q.vq.translate zm d.addr ≠ 0 := by
    intro d hd
    cases hw : d.isWrite with
    | false =>
      have hmem : d ∈ ds.filter (!·.isWrite) := List.mem_filter.mpr ⟨hd, by rw [hw]; rfl⟩
      rw [hout] at hmem
      rw [List.mem_singleton.mp hmem]
      exact h.reqMapped
    | true =>
      have hmem : d ∈ ds.filter (·.isWrite) := List.mem_filter.mpr ⟨hd, hw⟩
      rw [hin] at hmem
      rw [List.mem_singleton.mp hmem]
      exact h.respMapped
  have hreq : VirtioRequest.empty.add zm q.vq ds = ⟨[req.iovec zm q.vq], [resp.iovec zm q.vq]⟩ := by
    rw [VirtioRequest.add, hout, hin]
    rfl
  have hok : processDescriptorChainBuf zm mem q.vq ⟨2, 2⟩ (q.vq.availHead mem) =
      .ok (⟨[req.iovec zm q.vq], [resp.iovec zm q.vq]⟩, q.vq.advance) :=
    processDescriptorChainBuf_ok_iff.mpr
      ⟨ds, hitems, hmapped, hreq.symm, ⟨Nat.le_succ 1, Nat.le_succ 1⟩, rfl⟩
  unfold chainBufCall
  rw [hok]
  rfl

/-- The message of a command, as `scmi_handle_message` gets it. -/
def commandRun (kernel : ScmiKernel) (zm : ZoneTable) (mem : Mem) (q : CompletionQueue)
    (req resp : VirtqDesc) (dev : SCMIDev) : ScmiRun :=
  let hdr := scmiMsgHeader (readU32 mem (q.vq.translate zm req.addr))
  scmiHandleMessage kernel mem dev hdr.msgId.toUInt8 hdr.token.toUInt16 (req.iovec zm q.vq)
    (scmiRespCtxInit (resp.iovec zm q.vq)) hdr.protocolId.toUInt8

/-- **How a command is completed**: with the bytes written if its handler returns 0, and
    with length 0 if it returns an error. -/
theorem ScmiCommand.handle (h : ScmiCommand zm mem q req resp)
    (kernel : List ScmiIoctl → ScmiKernel) (dev : SCMIDev) (log : List ScmiIoctl) :
    ∃ q' o, scmiHandleOneRequest (scmiBackend kernel) zm q mem (dev, log) = .ok (q', o) ∧
      q'.used = updateUsedRing q.vq.num q.used (q.vq.availHead mem, o.len) ∧
      o.mem = (commandRun (kernel log) zm mem q req resp dev).ctx.apply mem ∧
      o.len = if (commandRun (kernel log) zm mem q req resp dev).ret ≠ 0 then 0
        else UInt32.ofNat (commandRun (kernel log) zm mem q req resp dev).ctx.written := by
  have hbad : ¬ ((req.iovec zm q.vq).iovLen < 4 ∨ (req.iovec zm q.vq).iovBase = 0 ∨
      (req.iovec zm q.vq).iovLen > scmiMaxBufferSize) := by
    have hlen : (req.iovec zm q.vq).iovLen.toNat = req.len.toNat := UInt32.toNat_toUInt64 _
    rintro (hless | hnull | hmore)
    · have hlt := UInt64.lt_iff_toNat_lt.mp hless
      have hleast := h.reqLeast
      rw [hlen] at hlt
      exact absurd hlt (Nat.not_lt.mpr hleast)
    · exact h.reqMapped hnull
    · have hlt := UInt64.lt_iff_toNat_lt.mp hmore
      rw [hlen] at hlt
      exact absurd hlt (Nat.not_lt.mpr h.reqMost)
  obtain ⟨run, hrun⟩ : ∃ run, commandRun (kernel log) zm mem q req resp dev = run := ⟨_, rfl⟩
  have hserve : scmiServe (scmiBackend kernel) mem (dev, log)
      ⟨[req.iovec zm q.vq], [resp.iovec zm q.vq]⟩ =
        if run.ret ≠ 0 then ⟨minusEinval, 0, run.ctx.apply mem, (dev, log ++ run.ioctls)⟩
        else
          ⟨0, (UInt64.ofNat run.ctx.written).toUInt32, run.ctx.apply mem,
            (dev, log ++ run.ioctls)⟩ := by
    unfold scmiServe
    dsimp only
    rw [if_neg hbad, if_neg (fun hne => hne h.command), ← hrun]
    rfl
  have hwalk : scmiHandleOneRequest (scmiBackend kernel) zm q mem (dev, log) =
      scmiComplete { q with vq := q.vq.advance } (q.vq.availHead mem)
        (scmiServe (scmiBackend kernel) mem (dev, log)
          ⟨[req.iovec zm q.vq], [resp.iovec zm q.vq]⟩) := by
    unfold scmiHandleOneRequest
    rw [if_neg h.avail]
    dsimp only
    rw [h.walk]
    rfl
  have hused : ({ q with vq := q.vq.advance } : CompletionQueue).vq.usedRing ≠ 0 := h.used
  rw [hrun]
  refine ⟨_, _, (hwalk.trans (if_neg hused)), rfl, ?_, ?_⟩
  · rw [hserve]
    split <;> rfl
  · rw [hserve]
    split
    · rfl
    · exact UInt64.toUInt32_ofNat' _

end Command

/-! ## 4. The answer -/

/-- The buffers are too small for the message: the request for its payload struct, or the
    response for the payload of the answer. -/
def BadSizes (protocolId msgId : UInt8) (reqLen cap : Nat) : Prop :=
  ∃ req resp, answerSizes protocolId msgId = some (req, resp) ∧
    (reqLen < req ∨ cap < resp ∨ cap < sizeofScmiResponse + answerSize protocolId msgId)

/-- A status that tells the guest what is wrong: `SCMI_ERR_SUPPORT` for a protocol or
    message that is not there; `SCMI_ERR_PARAMS` or `SCMI_ERR_RANGE` for sizes, where it
    is not `SCMI_ERR_ENTRY` for an index without entry. -/
structure StatusTells (params : Option VirtioScmiInitParams) (protocolId msgId : UInt8)
    (reqLen cap : Nat) (noEntry : Prop) (status : ScmiStatus) : Prop where
  support : ¬ Registered params protocolId ∨ answerSizes protocolId msgId = none →
    status = .errSupport
  sizes : BadSizes protocolId msgId reqLen cap →
    status = .errParams ∨ status = .errRange ∨ (status = .errEntry ∧ noEntry)

/-- An answer: a used length that covers header and status, the header of the request, and
    a status. -/
structure Answered (params : Option VirtioScmiInitParams) (zm : ZoneTable) (mem : Mem)
    (vq : VirtQueue) (req resp : VirtqDesc) (hdr : ScmiMsgHeader) (len : UInt32) (mem' : Mem) :
    Prop where
  length : 8 ≤ len.toNat
  header : scmiMsgHeader (readU32 mem' (vq.translate zm resp.addr)) = hdr
  status : ∃ status : ScmiStatus,
    readU32 mem' (vq.translate zm resp.addr + 4) = UInt32.ofInt status.code ∧
      StatusTells params hdr.protocolId.toUInt8 hdr.msgId.toUInt8 req.len.toNat resp.len.toNat
        (NoEntry (configuredIds params) mem (req.iovec zm vq) hdr.protocolId.toUInt8
          hdr.msgId.toUInt8) status

/-- The fields of a header are small. -/
theorem scmiMsgHeader_narrow (w : UInt32) :
    (scmiMsgHeader w).msgId.toUInt8.toUInt32 = (scmiMsgHeader w).msgId ∧
      (scmiMsgHeader w).protocolId.toUInt8.toUInt32 = (scmiMsgHeader w).protocolId ∧
      (scmiMsgHeader w).token.toUInt16.toUInt32 = (scmiMsgHeader w).token ∧
      (scmiMsgHeader w).token.toUInt16.toNat < 2 ^ 10 := by
  have h8 : ∀ x : UInt32, (x &&& 0xFF).toUInt8.toUInt32 = x &&& 0xFF := by
    intro x
    have hmask : (x &&& 0xFF).toNat ≤ 255 := by
      rw [UInt32.toNat_and]
      exact Nat.and_le_right
    refine UInt32.toNat_inj.mp ?_
    rw [UInt8.toNat_toUInt32, UInt32.toNat_toUInt8]
    omega
  have h10 : ((w >>> 18) &&& 0x3FF).toNat ≤ 1023 := by
    rw [UInt32.toNat_and]
    exact Nat.and_le_right
  have htoken : ((w >>> 18) &&& 0x3FF).toUInt16.toNat = ((w >>> 18) &&& 0x3FF).toNat := by
    rw [UInt32.toNat_toUInt16]
    omega
  refine ⟨h8 w, h8 (w >>> 10), UInt32.toNat_inj.mp ?_, ?_⟩
  · rw [UInt16.toNat_toUInt32]
    exact htoken
  · show ((w >>> 18) &&& 0x3FF).toUInt16.toNat < 2 ^ 10
    rw [htoken]
    omega

variable {pid mid : UInt8}

/-- The list of protocols is answered only where the longest one has room. -/
theorem protocolList_sizes (h : answerLayout pid mid = some .protocolList) :
    answerSizes pid mid = some (8, sizeofScmiResponse + sizeofProtocolList) := by
  unfold answerLayout at h
  split at h <;> cases h
  next hpid hmid =>
    unfold answerSizes
    rw [hpid]
    show baseSizes mid.toNat = _
    rw [hmid]
    rfl

theorem answerLayout_small {l : AnswerLayout}
    (h : answerLayout pid mid = some l) : l.size ≤ 68 := by
  unfold answerLayout at h
  split at h <;> cases h <;> decide

/-- A complete payload has room where the buffers are large enough. -/
theorem room_of_complete {reqLen cap size : Nat} {l : AnswerLayout} {byte : Nat → Option UInt8}
    (henough : Enough pid mid reqLen cap) (hl : answerLayout pid mid = some l)
    (hcomplete : l.Complete byte size) (hcap : sizeofScmiResponse + size ≤ cap) :
    sizeofScmiResponse + answerSize pid mid ≤ cap := by
  rw [answerSize_eq hl]
  cases l with
  | struct n =>
    obtain ⟨rfl, -⟩ := hcomplete
    exact hcap
  | cString n start =>
    obtain ⟨rfl, -⟩ := hcomplete
    exact hcap
  | protocolList =>
    rw [Enough, protocolList_sizes hl] at henough
    exact henough.2

/-- What a response tells, where the buffers are large enough for one. -/
theorem statusTells_of_room {params : Option VirtioScmiInitParams} {reqLen cap : Nat}
    {noEntry : Prop} {status : ScmiStatus} (hreg : Registered params pid)
    (henough : Enough pid mid reqLen cap) (hwhy : Refusal cap pid mid noEntry status) :
    StatusTells params pid mid reqLen cap noEntry status := by
  unfold Enough at henough
  split at henough
  · next req resp hsizes =>
    refine ⟨fun hbad => ?_, fun hbad => ?_⟩
    · rcases hbad with hnot | hnone
      · exact absurd hreg hnot
      · rw [hsizes] at hnone
        cases hnone
    · obtain ⟨req', resp', hsizes', hshort⟩ := hbad
      rw [hsizes] at hsizes'
      cases hsizes'
      rcases hwhy with hroom | hstatus
      · omega
      · exact hstatus
  · cases henough

section Answer

variable {params : Option VirtioScmiInitParams} {kernel : ScmiKernel} {zm : ZoneTable} {mem : Mem}
  {q : CompletionQueue} {req resp : VirtqDesc} {hdr : ScmiMsgHeader} {run : ScmiRun}

/-- A response of a handler that returned 0, as the guest finds it. -/
theorem answered_of_shape {enough : Prop}
    (hshape : ScmiShape enough (NoEntry (configuredIds params) mem (req.iovec zm q.vq)
        hdr.protocolId.toUInt8 hdr.msgId.toUInt8) kernel (scmiRespCtxInit (resp.iovec zm q.vq))
      hdr.protocolId.toUInt8 hdr.msgId.toUInt8 hdr.token.toUInt16 run)
    (hhdr : hdr = scmiMsgHeader (readU32 mem (q.vq.translate zm req.addr)))
    (hcommand : hdr.msgType = 0)
    (hreg : Registered params hdr.protocolId.toUInt8)
    (henough : Enough hdr.protocolId.toUInt8 hdr.msgId.toUInt8 req.len.toNat resp.len.toNat)
    (hret : run.ret = 0) :
    Answered params zm mem q.vq req resp hdr (UInt32.ofNat run.ctx.written)
      (run.ctx.apply mem) := by
  have hlen : (scmiRespCtxInit (resp.iovec zm q.vq)).capacity = resp.len.toNat :=
    UInt32.toNat_toUInt64 _
  have hsmall : (scmiRespCtxInit (resp.iovec zm q.vq)).capacity ≤ 2 ^ 64 := by
    have hlt := resp.len.toNat_lt
    omega
  obtain ⟨hid, hpid, htoken, hten⟩ :=
    scmiMsgHeader_narrow (readU32 mem (q.vq.translate zm req.addr))
  rw [← hhdr] at hid hpid htoken hten
  obtain ⟨-, status, hword, hstatus, hrest⟩ := hshape.response hret
  rw [hlen] at hrest
  have hbase : run.ctx.iov.iovBase = q.vq.translate zm resp.addr := by
    rw [hshape.iov_eq]
    rfl
  refine ⟨?_, ?_, status, ?_, ?_⟩
  · -- at most 68 bytes follow: the length does not wrap
    have hsize : sizeofScmiResponse = 8 := rfl
    rw [UInt32.toNat_ofNat']
    rcases hrest with ⟨-, -, hw, -⟩ | ⟨-, size, l, -, hw, hl, hcomplete, -⟩
    · omega
    · have hle := hcomplete.size_le
      have hmax := answerLayout_small hl
      omega
  · have hread := readU32_apply hsmall hshape.within mem (show 0 + 4 ≤ 2 ^ 64 by decide)
      (fun i hi => (congrArg _ (Nat.zero_add i)).trans (hword i hi))
    have hzero : UInt64.ofNat 0 = 0 := rfl
    rw [hbase, hzero, UInt64.add_zero] at hread
    rw [hread, (scmiMsgHeader_build _ _ hten).1, hid, hpid, htoken, ← hcommand]
  · have hread := readU32_apply hsmall hshape.within mem (show 4 + 4 ≤ 2 ^ 64 by decide) hstatus
    rw [hbase] at hread
    exact hread
  · rcases hrest with ⟨-, -, -, hwhy⟩ | ⟨-, size, l, hcap, -, hl, hcomplete, -⟩
    · exact statusTells_of_room hreg henough hwhy
    · exact statusTells_of_room hreg henough (.inl (room_of_complete henough hl hcomplete hcap))

end Answer

/-- **A command is answered exactly if its protocol is registered, its message known, and
    its buffers as large as the handler asks**: otherwise the handler reports the error by
    its return code, and the guest gets a completion of length 0 without a response. -/
theorem scmi_answered_iff (params : Option VirtioScmiInitParams)
    (kernel : List ScmiIoctl → ScmiKernel) (log : List ScmiIoctl) (zm : ZoneTable) (mem : Mem)
    (q : CompletionQueue) (req resp : VirtqDesc) (h : ScmiCommand zm mem q req resp) :
    let hdr := scmiMsgHeader (readU32 mem (q.vq.translate zm req.addr))
    (∃ q' o, scmiHandleOneRequest (scmiBackend kernel) zm q mem (virtioScmiDoInit params, log) =
        .ok (q', o) ∧
      q'.used = updateUsedRing q.vq.num q.used (q.vq.availHead mem, o.len) ∧
      Answered params zm mem q.vq req resp hdr o.len o.mem) ↔
    Registered params hdr.protocolId.toUInt8 ∧
      Enough hdr.protocolId.toUInt8 hdr.msgId.toUInt8 req.len.toNat resp.len.toNat := by
  intro hdr
  have hcap : (resp.iovec zm q.vq).iovLen.toNat = resp.len.toNat := UInt32.toNat_toUInt64 _
  have hreq : (req.iovec zm q.vq).iovLen.toNat = req.len.toNat := UInt32.toNat_toUInt64 _
  have hshape := configured_shape params (kernel log) mem hdr.protocolId.toUInt8
    hdr.msgId.toUInt8 hdr.token.toUInt16 (req.iovec zm q.vq) (resp.iovec zm q.vq)
  rw [hreq, hcap, serves_iff] at hshape
  obtain ⟨q₁, o₁, hok, hused, hmem, hlen⟩ := h.handle kernel (virtioScmiDoInit params) log
  constructor
  · rintro ⟨q', o, hok', -, hans⟩
    rw [hok] at hok'
    cases hok'
    by_cases hret : (commandRun (kernel log) zm mem q req resp (virtioScmiDoInit params)).ret = 0
    · obtain ⟨⟨hreg, -, henough⟩, -⟩ := hshape.response hret
      exact ⟨hreg, henough⟩
    · rw [if_pos hret] at hlen
      have hlong := hans.length
      rw [hlen] at hlong
      exact absurd hlong (by decide)
  · rintro ⟨hreg, henough⟩
    have hret : (commandRun (kernel log) zm mem q req resp (virtioScmiDoInit params)).ret = 0 :=
      hshape.ret_eq_zero ⟨hreg, h.respMapped, henough⟩
    rw [if_neg (fun hne => hne hret)] at hlen
    refine ⟨q₁, o₁, hok, hused, ?_⟩
    rw [hmem, hlen]
    exact answered_of_shape hshape rfl h.command hreg henough hret

/-! ## 5. Commands that are not answered -/

/-- Guest memory with one command under token 5, its message id and the second byte of its
    header (the protocol id in steps of 4) given, and the lengths of its buffers. -/
def commandMem (msgId protocol reqLen respLen : UInt8) : Mem := fun a =>
  -- the two descriptors, linked
  if a = 0x10001 then 0x12 else if a = 0x10008 then reqLen else if a = 0x1000C then 1
  else if a = 0x1000E then 1 else if a = 0x10011 then 0x13 else if a = 0x10018 then respLen
  else if a = 0x1001C then 2
  -- `avail.idx`, and the header
  else if a = 0x10102 then 1 else if a = 0x10200 then msgId else if a = 0x10201 then protocol
  else if a = 0x10202 then 0x14 else 0

/-- A queue of size 2 with its rings in that memory. -/
def commandQueue : CompletionQueue :=
  { vq := { (default : VirtQueue) with
            num := 2, descTable := 0x10000, availRing := 0x10100, usedRing := 0x10180 }
    used := { idx := 0, ring := fun _ => default }
    batch := [] }

/-- The used length of a command to a guest with two clocks, where the kernel answers. -/
def usedLength (msgId protocol reqLen respLen : UInt8) : Option UInt32 :=
  match scmiHandleOneRequest (scmiBackend fun _ _ => some clock200) onePage commandQueue
      (commandMem msgId protocol reqLen respLen) (virtioScmiDoInit (some twoClocks), []) with
  | .ok (_, o) => some o.len
  | .error _ => none

theorem commandMem_command {msgId protocol reqLen respLen : UInt8}
    (hhead : commandQueue.vq.availHead (commandMem msgId protocol reqLen respLen) = 0)
    (hitems : chainItems onePage (commandMem msgId protocol reqLen respLen) commandQueue.vq 2 0 =
      [.buffer ⟨0x1200, reqLen.toUInt32, 1, 1⟩, .buffer ⟨0x1300, respLen.toUInt32, 2, 0⟩])
    (hreq : 4 ≤ reqLen.toNat) (hresp : 8 ≤ respLen.toNat)
    (htype : (scmiMsgHeader (readU32 (commandMem msgId protocol reqLen respLen) 0x10200)).msgType =
      0) :
    ScmiCommand onePage (commandMem msgId protocol reqLen respLen) commandQueue
      ⟨0x1200, reqLen.toUInt32, 1, 1⟩ ⟨0x1300, respLen.toUInt32, 2, 0⟩ := by
  have hlt := reqLen.toNat_lt
  have hchain : chainItems onePage (commandMem msgId protocol reqLen respLen) commandQueue.vq
      commandQueue.vq.num.toNat
      (commandQueue.vq.availHead (commandMem msgId protocol reqLen respLen)) =
        [⟨0x1200, reqLen.toUInt32, 1, 1⟩, ⟨0x1300, respLen.toUInt32, 2, 0⟩].map
          ChainItem.buffer := by
    rw [hhead]
    exact hitems
  have haddr : commandQueue.vq.translate onePage 0x1200 = 0x10200 := by decide
  have haddr' : commandQueue.vq.translate onePage 0x1300 ≠ 0 := by decide
  have hread : VirtqDesc.isWrite ⟨0x1200, reqLen.toUInt32, 1, 1⟩ = false :=
    show ((1 : UInt16) &&& 2 != 0) = false by decide
  have hwrite : VirtqDesc.isWrite ⟨0x1300, respLen.toUInt32, 2, 0⟩ = true :=
    show ((2 : UInt16) &&& 2 != 0) = true by decide
  refine ⟨by decide, by decide, ⟨_, hchain, ?_, ?_⟩, haddr ▸ by decide, haddr', ?_, ?_, ?_, ?_⟩
  · simp [hread, hwrite]
  · simp [hread, hwrite]
  · rw [UInt8.toNat_toUInt32]
    exact hreq
  · rw [UInt8.toNat_toUInt32]
    exact Nat.le_of_lt (Nat.lt_trans hlt (by decide))
  · rw [UInt8.toNat_toUInt32]
    exact hresp
  · rw [haddr]
    exact htype

/-- A command that is completed with length 0. -/
def Unanswered (msgId protocol reqLen respLen : UInt8) : Prop :=
  (∃ req resp,
    ScmiCommand onePage (commandMem msgId protocol reqLen respLen) commandQueue req resp) ∧
  usedLength msgId protocol reqLen respLen = some 0

/-- **Commands without an answer**: to a protocol that is not registered (the reset
    protocol, of which the guest has no id), with a message that is not known, with a
    payload too short for its message, with a response too short for a query, and a list
    of protocols with room for its one word but not for the longest list. -/
theorem scmi_unanswered :
    Unanswered 0x0 0x58 4 64 ∧ Unanswered 0x2 0x40 4 64 ∧ Unanswered 0x6 0x50 4 64 ∧
      Unanswered 0x0 0x40 4 8 ∧ Unanswered 0x6 0x40 8 16 := by
  refine ⟨?_, ?_, ?_, ?_, ?_⟩
  all_goals
    refine ⟨⟨_, _, commandMem_command ?_ ?_ ?_ ?_ ?_⟩, ?_⟩ <;> decide

/-- `RATE_GET` of the first clock, with room for the rate, is answered. -/
theorem scmi_answered_rateGet :
    ∃ req resp, ScmiCommand onePage (commandMem 0x6 0x50 8 16) commandQueue req resp ∧
      ∃ q' o, scmiHandleOneRequest (scmiBackend fun _ _ => some clock200) onePage commandQueue
          (commandMem 0x6 0x50 8 16) (virtioScmiDoInit (some twoClocks), []) = .ok (q', o) ∧
        Answered (some twoClocks) onePage (commandMem 0x6 0x50 8 16) commandQueue.vq req resp
          ⟨6, 0, 0x14, 5⟩ o.len o.mem := by
  have hcmd := @commandMem_command 0x6 0x50 8 16 (by decide) (by decide) (by decide) (by decide)
    (by decide)
  refine ⟨_, _, hcmd, ?_⟩
  obtain ⟨q', o, hok, -, hans⟩ := (scmi_answered_iff (some twoClocks) (fun _ _ => some clock200) []
    onePage _ commandQueue _ _ hcmd).mpr
      ⟨⟨twoClocks, rfl, .inr ⟨.clock, by decide, by decide⟩⟩, show 8 ≤ 8 ∧ 8 ≤ 16 by decide⟩
  have hhdr : scmiMsgHeader (readU32 (commandMem 0x6 0x50 8 16)
      (commandQueue.vq.translate onePage 0x1200)) = ⟨6, 0, 0x14, 5⟩ := by decide
  rw [hhdr] at hans
  exact ⟨q', o, hok, hans⟩

end HvisorTool
