/-
  File:      HvisorTool/Scmi/Request.lean
  Subject:   ONE SCMI REQUEST: `virtq_tx_handle_one_request` of the SCMI device.

  The protocol handlers behind `scmi_handle_message` are a parameter: a `ScmiBackend` says what a
  message answers, how many bytes it wrote and what it did to memory and to the device.

  * `scmiServe`: the checks and the message, up to the completion;
  * `scmiHandleOneRequest`: the whole pass.
-/
import HvisorTool.Virtio.Used

namespace HvisorTool

/-- `SCMI_MAX_BUFFER_SIZE`. -/
def scmiMaxBufferSize : UInt64 := 1024 * 1024

/-- The fields of `struct scmi_msg_header` that the handler reads. -/
structure ScmiMsgHeader where
  msgId : UInt32
  msgType : UInt32
  protocolId : UInt32
  token : UInt32
  deriving DecidableEq, Repr

/-- The packed header word. -/
def scmiMsgHeader (word : UInt32) : ScmiMsgHeader :=
  { msgId := word &&& 0xFF
    msgType := (word >>> 8) &&& 0x3
    protocolId := (word >>> 10) &&& 0xFF
    token := (word >>> 18) &&& 0x3FF }

/-- `scmi_handle_message`: its return value, `ctx.written`, memory and device. -/
structure ScmiBackend (σ : Type) where
  handleMessage : σ → Mem → ScmiMsgHeader → Iovec → Iovec → Int × UInt64 × Mem × σ

/-- What a request ends with: the handler's return value, the used length, and
    the state the message left. -/
structure ScmiOutcome (σ : Type) where
  ret : Int
  len : UInt32
  mem : Mem
  dev : σ

section Request

variable {σ : Type} (be : ScmiBackend σ) (zm : ZoneTable)

/-- `-EINVAL`. -/
def minusEinval : Int := -22

/-- The request behind a successful chain walk, up to its completion. -/
def scmiServe (mem : Mem) (dev : σ) (vreq : VirtioRequest) : ScmiOutcome σ :=
  let reject : ScmiOutcome σ := ⟨minusEinval, 0, mem, dev⟩
  match vreq.outIov, vreq.inIov with
  | [reqIov], [respIov] =>
    if reqIov.iovLen < 4 ∨ reqIov.iovBase = 0 ∨ reqIov.iovLen > scmiMaxBufferSize then reject
    else
      let hdr := scmiMsgHeader (readU32 mem reqIov.iovBase)
      -- `SCMI_MSG_TYPE_COMMAND`
      if hdr.msgType ≠ 0 then reject
      else
        match be.handleMessage dev mem hdr reqIov respIov with
        | (r, written, mem, dev) =>
          if r ≠ 0 then ⟨minusEinval, 0, mem, dev⟩ else ⟨0, written.toUInt32, mem, dev⟩
  | _, _ => reject

/-- `update_used_ring(vq, desc_idx, len)` at the end of the pass. -/
def scmiComplete (q : CompletionQueue) (idx : UInt16) (o : ScmiOutcome σ) :
    Except ChainError (CompletionQueue × ScmiOutcome σ) :=
  if q.vq.usedRing = 0 then .error .segv
  else .ok ({ q with used := updateUsedRing q.vq.num q.used (idx, o.len) }, o)

/-- `virtq_tx_handle_one_request`. -/
def scmiHandleOneRequest (q : CompletionQueue) (mem : Mem) (dev : σ) :
    Except ChainError (CompletionQueue × ScmiOutcome σ) :=
  if q.vq.availRing = 0 then .error .segv
  else do
    let descIdx := q.vq.availHead mem
    let (ret, vreq, vq) ← chainBufCall zm mem q.vq ⟨2, 2⟩ descIdx
    if ret ≤ 0 then
      -- consume the request and report a zero-length completion
      scmiComplete { q with vq := vq.advance } descIdx ⟨minusEinval, 0, mem, dev⟩
    else scmiComplete { q with vq := vq } descIdx (scmiServe be mem dev vreq)

end Request

end HvisorTool
