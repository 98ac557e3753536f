/-
  File:      HvisorTool/Scmi/Protocols.lean
  Subject:   THE SCMI PROTOCOLS: the handlers of the base, clock, power and reset protocols
             and their dispatch by `scmi_handle_message`.

  The handlers fall into three families. A query is answered from the device alone. A
  message about one clock or domain carries an index into an id list: it is checked, may
  be refused, and is answered by the handler or by the kernel. A refusal answers with a
  status and reads nothing. What the base protocol does on its own keeps its own body.

  * `handleQuery`, `handleDomainMessage`, `respond`: the families;
  * `handleClockVersion` … `handleResetNotify`: the handlers, under the source's names;
  * `scmiHandleMessage`: the dispatch;
  * `scmiBackend`: the protocols as the backend of `virtq_tx_handle_one_request`.
-/
import HvisorTool.Scmi.Core

namespace HvisorTool

/-! ## 1. The families -/

/-- The payload of an answer: the size reserved for it, whether the handler looks at the
    pointer it got, and its fields with their offsets. -/
structure RespPayload where
  size : Nat
  checked : Bool
  fields : List (Nat × List UInt8)

/-- A response of a header and a status. -/
def respond (ctx : ScmiRespCtx) (protocolId msgId : UInt8) (token : UInt16) (status : ScmiStatus) :
    ScmiRun :=
  match scmiMakeResponse ctx protocolId msgId token status with
  | (ret, ctx) => ⟨ret, ctx, []⟩

/-- A response of status `SCMI_SUCCESS` with a payload. -/
def respondWith (ctx : ScmiRespCtx) (protocolId msgId : UInt8) (token : UInt16) (p : RespPayload) :
    ScmiRun :=
  match scmiMakeResponse ctx protocolId msgId token .success with
  | (_, ctx) =>
    match scmiRespWrite ctx p.size with
    | (ptr, ctx) =>
      if p.checked ∧ ptr = none then ⟨ScmiStatus.errParams.code, ctx, []⟩
      else ⟨0, ctx.store ptr p.fields, []⟩

/-- A query: a request of a header only, answered from the device. -/
def handleQuery (protocolId msgId : UInt8) (p : RespPayload) (token : UInt16) (reqIov : Iovec)
    (ctx : ScmiRespCtx) : ScmiRun :=
  let ret := scmiValidateRequest reqIov.iovLen.toNat sizeofScmiRequest ctx.capacity
    (sizeofScmiResponse + p.size)
  if ret ≠ .success then ⟨ret.code, ctx, []⟩ else respondWith ctx protocolId msgId token p

/-- The 32-bit member at an offset of the request's payload. -/
def payloadU32 (mem : Mem) (reqIov : Iovec) (offset : Nat) : UInt32 :=
  readU32 mem (reqIov.iovBase + UInt64.ofNat (sizeofScmiRequest + offset))

/-- How a message about one clock or domain is answered: by the handler, or by an ioctl
    whose arguments are filled from the payload and the physical id. -/
inductive DomainAction where
  | here (reply : UInt32 → RespPayload)
  | kernel (subcmd : UInt32) (args : (Nat → UInt32) → UInt32 → ScmiArgs)
      (reply : Option (ScmiReply → RespPayload))

/-- A message about one clock or domain: its payload struct, where the index is in it,
    what is refused once the index is valid (from the payload and the response capacity),
    and the action. -/
structure DomainMessage where
  domain : ScmiDomain
  msgId : UInt8
  payloadSize : Nat
  idOffset : Nat
  refuse : (Nat → UInt32) → Nat → Option ScmiStatus
  action : DomainAction

/-- Handling a message about one clock or domain. -/
def handleDomainMessage (m : DomainMessage) (kernel : ScmiKernel) (mem : Mem) (dev : SCMIDev)
    (token : UInt16) (reqIov : Iovec) (ctx : ScmiRespCtx) : ScmiRun :=
  let pid := m.domain.protocolId
  let payload := payloadU32 mem reqIov
  if reqIov.iovLen.toNat < sizeofScmiRequest + m.payloadSize then
    ⟨ScmiStatus.errParams.code, ctx, []⟩
  else
    match dev.physId m.domain (payload m.idOffset) with
    | none => respond ctx pid m.msgId token .errEntry
    | some physId =>
      match m.refuse payload ctx.capacity with
      | some status => respond ctx pid m.msgId token status
      | none =>
        match m.action with
        | .here reply => respondWith ctx pid m.msgId token (reply physId)
        | .kernel subcmd args reply =>
          match hvisorScmiIoctlCmd kernel m.domain (args payload physId) subcmd with
          | (io, .error _) => { respond ctx pid m.msgId token .errGeneric with ioctls := [io] }
          | (io, .ok r) =>
            match reply with
            | none => { respond ctx pid m.msgId token .success with ioctls := [io] }
            | some reply =>
              { respondWith ctx pid m.msgId token (reply r) with ioctls := [io] }

/-- Nothing is refused. -/
def refuseNone : (Nat → UInt32) → Nat → Option ScmiStatus := fun _ _ => none

/-- `SCMI_ERR_RANGE` where the response has no room for a payload of `size` bytes. -/
def refuseShort (size : Nat) : (Nat → UInt32) → Nat → Option ScmiStatus := fun _ capacity =>
  if capacity < sizeofScmiResponse + size then some .errRange else none

/-- `strncpy(dst, src, n)`: the bytes stored. -/
def strncpy (n : Nat) (src : List UInt8) : List UInt8 :=
  let text := (src.takeWhile (· ≠ 0)).take n
  text ++ List.replicate (n - text.length) 0

/-- The bytes of a text. -/
def asciiBytes (text : List Char) : List UInt8 := text.map fun c => c.toNat.toUInt8

/-! ## 2. The clock protocol -/

/-- `handle_clock_version`. -/
def handleClockVersion : UInt16 → Iovec → ScmiRespCtx → ScmiRun :=
  handleQuery ScmiDomain.clock.protocolId 0x0 ⟨4, true, [(0, le32 0x30000)]⟩

/-- `handle_clock_protocol_attributes`. -/
def handleClockProtocolAttributes (dev : SCMIDev) : UInt16 → Iovec → ScmiRespCtx → ScmiRun :=
  handleQuery ScmiDomain.clock.protocolId 0x1
    ⟨4, false, [(0, le16 dev.clockIds.count.toUInt16), (2, [1]), (3, [0])]⟩

/-- `handle_clock_clock_attributes`. -/
def handleClockClockAttributes : DomainMessage :=
  { domain := .clock, msgId := 0x3, payloadSize := 4, idOffset := 0
    refuse := refuseShort 20
    action := .kernel 0x02 (fun _ physId => .clockAttr physId) (some fun r =>
      let enabled : UInt32 := if r.enabled ≠ 0 then 1 else 0
      let parent : UInt32 := if r.parentId ≠ 0xFFFFFFFF then (1 : UInt32) <<< 28 else 0
      ⟨20, false, [(0, le32 (enabled ||| parent)), (4, strncpy 15 r.clockName), (19, [0])]⟩) }

/-- `handle_clock_describe_rates`: one range of rates, whatever the clock. -/
def handleClockDescribeRates : DomainMessage :=
  { domain := .clock, msgId := 0x4, payloadSize := 8, idOffset := 0
    refuse := fun payload capacity =>
      if capacity < sizeofScmiResponse + 28 then some .errRange
      else if payload 4 > 0 then some .errRange
      else none
    action := .here fun _ =>
      ⟨28, false, [(0, le32 (((1 : UInt32) <<< 12) ||| 3)), (4, le64 0), (12, le64 10000000000),
        (20, le64 1)]⟩ }

/-- `handle_clock_rate_get`. -/
def handleClockRateGet : DomainMessage :=
  { domain := .clock, msgId := 0x6, payloadSize := 4, idOffset := 0
    refuse := refuseShort 8
    action := .kernel 0x04 (fun _ physId => .clockRateInfo physId) (some fun r =>
      ⟨8, true, [(0, le32 r.rate.toUInt32), (4, le32 (r.rate >>> 32).toUInt32)]⟩) }

/-- `handle_clock_rate_set`: the index is the second member of the payload. -/
def handleClockRateSet : DomainMessage :=
  { domain := .clock, msgId := 0x5, payloadSize := 16, idOffset := 4
    refuse := fun payload _ => if payload 0 &&& 0x1 ≠ 0 then some .errSupport else none
    action := .kernel 0x05
      (fun payload physId =>
        let requestedRate := ((payload 12).toUInt64 <<< 32) ||| (payload 8).toUInt64
        .clockRateSetInfo physId (payload 0) requestedRate)
      none }

/-- `handle_clock_config_get`. -/
def handleClockConfigGet : DomainMessage :=
  { domain := .clock, msgId := 0x8, payloadSize := 8, idOffset := 0
    refuse := fun payload capacity =>
      if payload 4 &&& 0xFF ≠ 0 then some .errParams
      else if capacity < sizeofScmiResponse + 12 then some .errRange
      else none
    action := .kernel 0x06
      (fun payload physId => .clockConfigInfo physId (some (payload 4)) none)
      (some fun r =>
        ⟨12, true, [(0, le32 0), (4, le32 r.config), (8, le32 r.extendedConfigVal)]⟩) }

/-- `handle_clock_config_set`. -/
def handleClockConfigSet : DomainMessage :=
  { domain := .clock, msgId := 0x7, payloadSize := 8, idOffset := 0
    refuse := refuseNone
    action := .kernel 0x07
      (fun payload physId => .clockConfigInfo physId none (some (payload 4))) none }

/-- `handle_clock_name_get`. -/
def handleClockNameGet : DomainMessage :=
  { domain := .clock, msgId := 0x9, payloadSize := 4, idOffset := 0
    refuse := refuseShort 68
    action := .kernel 0x08 (fun _ physId => .clockNameInfo physId) (some fun r =>
      ⟨68, false, [(0, le32 0), (4, strncpy 63 r.name), (67, [0])]⟩) }

/-! ## 3. The power protocol -/

/-- `handle_power_version`. -/
def handlePowerVersion : UInt16 → Iovec → ScmiRespCtx → ScmiRun :=
  handleQuery ScmiDomain.power.protocolId 0x0 ⟨4, true, [(0, le32 0x20000)]⟩

/-- `handle_power_protocol_attributes`. -/
def handlePowerProtocolAttributes (dev : SCMIDev) : UInt16 → Iovec → ScmiRespCtx → ScmiRun :=
  handleQuery ScmiDomain.power.protocolId 0x1 ⟨4, true, [(0, le32 (dev.powerIds.count &&& 0xFFFF))]⟩

/-- `handle_power_domain_attributes`. -/
def handlePowerDomainAttributes : DomainMessage :=
  { domain := .power, msgId := 0x3, payloadSize := 4, idOffset := 0
    refuse := refuseShort 20
    action := .kernel 0x02 (fun _ physId => .powerAttr physId) (some fun r =>
      ⟨20, false, [(0, le32 ((1 : UInt32) <<< 29)), (4, strncpy 15 r.powerName), (19, [0])]⟩) }

/-- `handle_power_state_set`: the index is the second member of the payload. -/
def handlePowerStateSet : DomainMessage :=
  { domain := .power, msgId := 0x4, payloadSize := 12, idOffset := 4
    refuse := fun payload _ => if payload 0 &&& 0x1 ≠ 0 then some .errSupport else none
    action := .kernel 0x03 (fun payload physId => .powerStateInfo physId (some (payload 8))) none }

/-- `handle_power_state_get`. -/
def handlePowerStateGet : DomainMessage :=
  { domain := .power, msgId := 0x5, payloadSize := 4, idOffset := 0
    refuse := refuseShort 4
    action := .kernel 0x04 (fun _ physId => .powerStateInfo physId none) (some fun r =>
      ⟨4, true, [(0, le32 r.powerState)]⟩) }

/-- `handle_power_state_notify`. -/
def handlePowerStateNotify (token : UInt16) (ctx : ScmiRespCtx) : ScmiRun :=
  respond ctx ScmiDomain.power.protocolId 0x6 token .errSupport

/-! ## 4. The reset protocol -/

/-- `handle_reset_version`. -/
def handleResetVersion : UInt16 → Iovec → ScmiRespCtx → ScmiRun :=
  handleQuery ScmiDomain.reset.protocolId 0x0 ⟨4, true, [(0, le32 0x20000)]⟩

/-- `handle_reset_protocol_attributes`. -/
def handleResetProtocolAttributes (dev : SCMIDev) : UInt16 → Iovec → ScmiRespCtx → ScmiRun :=
  handleQuery ScmiDomain.reset.protocolId 0x1 ⟨4, true, [(0, le32 (dev.resetIds.count &&& 0xFFFF))]⟩

/-- `snprintf(reset_name, 15, "rst_%u", phys_id)`: the bytes stored. -/
def resetName (physId : UInt32) : List UInt8 :=
  (asciiBytes (['r', 's', 't', '_'] ++ Nat.toDigits 10 physId.toNat)).take 14 ++ [0]

/-- `handle_reset_attributes`: answered without the kernel. -/
def handleResetAttributes : DomainMessage :=
  { domain := .reset, msgId := 0x3, payloadSize := 4, idOffset := 0
    refuse := refuseShort 24
    action := .here fun physId =>
      ⟨24, false, [(0, le32 0), (4, le32 100), (8, resetName physId), (23, [0])]⟩ }

/-- `handle_reset`. -/
def handleReset : DomainMessage :=
  { domain := .reset, msgId := 0x4, payloadSize := 12, idOffset := 0
    refuse := fun payload _ => if payload 4 &&& ((1 : UInt32) <<< 2) ≠ 0 then some .errSupport else none
    action := .kernel 0x02 (fun payload physId => .resetInfo physId (payload 4) (payload 8)) none }

/-- `handle_reset_notify`. -/
def handleResetNotify (token : UInt16) (ctx : ScmiRespCtx) : ScmiRun :=
  respond ctx ScmiDomain.reset.protocolId 0x5 token .errSupport

/-! ## 5. The base protocol -/

/-- `handle_base_version`. -/
def handleBaseVersion : UInt16 → Iovec → ScmiRespCtx → ScmiRun :=
  handleQuery scmiProtoIdBase 0x0 ⟨4, true, [(0, le32 0x20001)]⟩

/-- `handle_base_attributes`. -/
def handleBaseAttributes (dev : SCMIDev) : UInt16 → Iovec → ScmiRespCtx → ScmiRun :=
  handleQuery scmiProtoIdBase 0x1
    ⟨4, true, [(0, [dev.protocols.length.toUInt8]), (1, [1]), (2, le16 0)]⟩

/-- `handle_base_vendor`. -/
def handleBaseVendor (subVendor : Bool) : UInt16 → Iovec → ScmiRespCtx → ScmiRun :=
  handleQuery scmiProtoIdBase (if subVendor then 0x4 else 0x3)
    ⟨16, true, [(0, strncpy 16 (asciiBytes
      (if subVendor then ['S', 'U', 'B', '_', 'H', 'V', 'I', 'S'] else ['H', 'V', 'I', 'S'])))]⟩

/-- `handle_base_impl_version`. -/
def handleBaseImplVersion : UInt16 → Iovec → ScmiRespCtx → ScmiRun :=
  handleQuery scmiProtoIdBase 0x5 ⟨4, true, [(0, le32 0x1)]⟩

/-- One id packed into the slots, four to a word. -/
def packProtocol (slots : List UInt32) (i : Nat) (pid : UInt8) : List UInt32 :=
  let slots := if i % 4 = 0 then slots ++ [0] else slots
  slots.modify (i / 4) (· ||| (pid.toUInt32 <<< UInt32.ofNat (i % 4 * 8)))

/-- `get_protocol_list`: the count, and the slots filled. -/
def getProtocolList (dev : SCMIDev) (skip max : Int32) : Int32 × List UInt32 :=
  let remaining := Int32.ofNat dev.protocols.length - skip
  if remaining ≤ 0 then (0, [])
  else
    let count := if remaining < max then remaining else max
    let ids := (dev.protocols.drop skip.toNatClampNeg).take count.toNatClampNeg
    (count, (ids.zipIdx.foldl (fun slots e => packProtocol slots e.2 e.1.protocolId) []))

/-- `sizeof(struct scmi_msg_resp_base_protocol_list)`. -/
def sizeofProtocolList : Nat := 20

/-- `handle_base_protocol_list`: the space of the whole struct is reserved, and given
    back down to the words filled. -/
def handleBaseProtocolList (mem : Mem) (dev : SCMIDev) (token : UInt16) (reqIov : Iovec)
    (ctx : ScmiRespCtx) : ScmiRun :=
  let ret := scmiValidateRequest reqIov.iovLen.toNat (sizeofScmiRequest + 4) ctx.capacity
    (sizeofScmiResponse + 8)
  if ret ≠ .success then ⟨ret.code, ctx, []⟩
  else
    let skip := payloadU32 mem reqIov 0
    match scmiRespWrite (scmiMakeResponse ctx scmiProtoIdBase 0x6 token .success).2
        sizeofProtocolList with
    | (none, ctx) => ⟨ScmiStatus.errParams.code, ctx, []⟩
    | (some ptr, ctx) =>
      let total := UInt32.ofNat dev.protocols.length
      let maxProtos : Int32 := if total > skip then (total - skip).toInt32 else 0
      match getProtocolList dev skip.toInt32 maxProtos with
      | (count, slots) =>
        let ctx := ctx.store (some ptr) [(0, le32 count.toUInt32), (4, slots.flatMap le32)]
        let actual := 4 + ((count + 3) / 4).toNatClampNeg * 4
        ⟨0, { ctx with written := sizeofScmiResponse + actual }, []⟩

/-- `handle_base_discover_agent`. -/
def handleBaseDiscoverAgent (mem : Mem) (token : UInt16) (reqIov : Iovec) (ctx : ScmiRespCtx) :
    ScmiRun :=
  let ret := scmiValidateRequest reqIov.iovLen.toNat (sizeofScmiRequest + 4) ctx.capacity
    (sizeofScmiResponse + 16)
  if ret ≠ .success then ⟨ret.code, ctx, []⟩
  else
    let agentId := payloadU32 mem reqIov 0
    if agentId ≠ 0xFFFFFFFF ∧ agentId ≠ 0 then
      respond ctx scmiProtoIdBase 0x7 token .errEntry
    else
      let name :=
        if agentId = 0xFFFFFFFF then ['O', 'S', 'P', 'M']
        else ['p', 'l', 'a', 't', 'f', 'o', 'r', 'm']
      respondWith ctx scmiProtoIdBase 0x7 token ⟨16, true, [(0, strncpy 16 (asciiBytes name))]⟩

/-- `handle_base_error_notify`. -/
def handleBaseErrorNotify (token : UInt16) (reqIov : Iovec) (ctx : ScmiRespCtx) : ScmiRun :=
  let ret := scmiValidateRequest reqIov.iovLen.toNat (sizeofScmiRequest + 4) ctx.capacity 0
  if ret ≠ .success then ⟨ret.code, ctx, []⟩
  else respond ctx scmiProtoIdBase 0x8 token .success

/-! ## 6. The dispatch -/

section Dispatch

variable (kernel : ScmiKernel) (mem : Mem) (dev : SCMIDev) (msgId : UInt8) (token : UInt16)
  (reqIov : Iovec) (ctx : ScmiRespCtx)

/-- The default of each protocol. -/
def unsupportedMessage : ScmiRun := ⟨ScmiStatus.errSupport.code, ctx, []⟩

/-- The check at the head of each protocol. -/
def checkedResponse (run : ScmiRun) : ScmiRun :=
  if ctx.capacity < sizeofScmiResponse ∨ ctx.iov.iovBase = 0 then
    ⟨ScmiStatus.errParams.code, ctx, []⟩
  else run

/-- `virtio_scmi_clock_handle_req`. -/
def virtioScmiClockHandleReq : ScmiRun :=
  checkedResponse ctx <|
    match msgId.toNat with
    | 0x0 => handleClockVersion token reqIov ctx
    | 0x1 => handleClockProtocolAttributes dev token reqIov ctx
    | 0x3 => handleDomainMessage handleClockClockAttributes kernel mem dev token reqIov ctx
    | 0x4 => handleDomainMessage handleClockDescribeRates kernel mem dev token reqIov ctx
    | 0x5 => handleDomainMessage handleClockRateSet kernel mem dev token reqIov ctx
    | 0x6 => handleDomainMessage handleClockRateGet kernel mem dev token reqIov ctx
    | 0x7 => handleDomainMessage handleClockConfigSet kernel mem dev token reqIov ctx
    | 0x8 => handleDomainMessage handleClockConfigGet kernel mem dev token reqIov ctx
    | 0x9 => handleDomainMessage handleClockNameGet kernel mem dev token reqIov ctx
    | _ => unsupportedMessage ctx

/-- `virtio_scmi_power_handle_req`. -/
def virtioScmiPowerHandleReq : ScmiRun :=
  checkedResponse ctx <|
    match msgId.toNat with
    | 0x0 => handlePowerVersion token reqIov ctx
    | 0x1 => handlePowerProtocolAttributes dev token reqIov ctx
    | 0x2 => respond ctx ScmiDomain.power.protocolId msgId token .errSupport
    | 0x3 => handleDomainMessage handlePowerDomainAttributes kernel mem dev token reqIov ctx
    | 0x4 => handleDomainMessage handlePowerStateSet kernel mem dev token reqIov ctx
    | 0x5 => handleDomainMessage handlePowerStateGet kernel mem dev token reqIov ctx
    | 0x6 => handlePowerStateNotify token ctx
    | _ => unsupportedMessage ctx

/-- `virtio_scmi_reset_handle_req`. -/
def virtioScmiResetHandleReq : ScmiRun :=
  checkedResponse ctx <|
    match msgId.toNat with
    | 0x0 => handleResetVersion token reqIov ctx
    | 0x1 => handleResetProtocolAttributes dev token reqIov ctx
    | 0x3 => handleDomainMessage handleResetAttributes kernel mem dev token reqIov ctx
    | 0x4 => handleDomainMessage handleReset kernel mem dev token reqIov ctx
    | 0x5 => handleResetNotify token ctx
    | _ => unsupportedMessage ctx

/-- `virtio_scmi_base_handle_req`. -/
def virtioScmiBaseHandleReq : ScmiRun :=
  checkedResponse ctx <|
    match msgId.toNat with
    | 0x0 => handleBaseVersion token reqIov ctx
    | 0x1 => handleBaseAttributes dev token reqIov ctx
    | 0x8 => handleBaseErrorNotify token reqIov ctx
    | 0x3 => handleBaseVendor false token reqIov ctx
    | 0x4 => handleBaseVendor true token reqIov ctx
    | 0x5 => handleBaseImplVersion token reqIov ctx
    | 0x6 => handleBaseProtocolList mem dev token reqIov ctx
    | 0x7 => handleBaseDiscoverAgent mem token reqIov ctx
    | _ => unsupportedMessage ctx

/-- The handler called. -/
def ScmiHandler.handleReq : ScmiHandler → ScmiRun
  | .base => virtioScmiBaseHandleReq mem dev msgId token reqIov ctx
  | .domain .clock => virtioScmiClockHandleReq kernel mem dev msgId token reqIov ctx
  | .domain .power => virtioScmiPowerHandleReq kernel mem dev msgId token reqIov ctx
  | .domain .reset => virtioScmiResetHandleReq kernel mem dev msgId token reqIov ctx

/-- `scmi_handle_message`. -/
def scmiHandleMessage (protocolId : UInt8) : ScmiRun :=
  match dev.protocols.find? (·.protocolId = protocolId) with
  | some e => e.handler.handleReq kernel mem dev msgId token reqIov ctx
  | none => ⟨ScmiStatus.errSupport.code, ctx, []⟩

end Dispatch

/-- The protocols as a backend: the device, and the ioctls issued so far. What the kernel
    answers may depend on them. -/
def scmiBackend (kernel : List ScmiIoctl → ScmiKernel) :
    ScmiBackend (SCMIDev × List ScmiIoctl) :=
  { handleMessage := fun (dev, log) mem hdr reqIov respIov =>
      let run := scmiHandleMessage (kernel log) mem dev hdr.msgId.toUInt8 hdr.token.toUInt16 reqIov
        (scmiRespCtxInit respIov) hdr.protocolId.toUInt8
      (run.ret, UInt64.ofNat run.ctx.written, run.ctx.apply mem, (dev, log ++ run.ioctls)) }

end HvisorTool
