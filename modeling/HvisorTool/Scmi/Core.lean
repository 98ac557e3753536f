/-
  File:      HvisorTool/Scmi/Core.lean
  Subject:   THE SCMI CORE: the response buffer, the device with its id lists and its table
             of protocols, and the call into the kernel module.

  A response is what was stored and where: each store keeps the pointer it went through,
  as an offset in the response buffer, so that a store through a pointer that
  `scmi_resp_write` refused is a store all the same.

  * `ScmiRespCtx`, `scmiRespWrite`, `scmiMakeResponse`: the response under construction;
  * `IdArray`: an id list with its count; `physId_eq`: what an index gives;
  * `SCMIDev`, `scmiDevRegisterProtocol`, `virtioScmiDoInit`: the device as created;
  * `ScmiIoctl`, `hvisorScmiIoctlCmd`: the call into the kernel.
-/
import HvisorTool.Blk.Request
import HvisorTool.Scmi.Request

namespace HvisorTool

/-! ## 1. The response -/

/-- `enum scmi_error_codes`, as far as the handlers use it. -/
inductive ScmiStatus where
  | success
  | errSupport
  | errParams
  | errEntry
  | errRange
  | errGeneric
  deriving DecidableEq, Repr

def ScmiStatus.code : ScmiStatus → Int
  | .success => 0
  | .errSupport => -1
  | .errParams => -2
  | .errEntry => -4
  | .errRange => -5
  | .errGeneric => -8

/-- `sizeof(struct scmi_request)` and `sizeof(struct scmi_response)`. -/
def sizeofScmiRequest : Nat := 4

def sizeofScmiResponse : Nat := 8

/-- A store into the response: the pointer as an offset in the buffer (`none` is
    `NULL`), and the bytes. -/
structure RespStore where
  ptr : Option Nat
  bytes : List UInt8
  deriving DecidableEq, Repr

/-- `struct scmi_resp_ctx`, with the stores made so far. -/
structure ScmiRespCtx where
  iov : Iovec
  written : Nat
  capacity : Nat
  stores : List RespStore
  deriving DecidableEq, Repr

/-- `scmi_resp_ctx_init`. -/
def scmiRespCtxInit (respIov : Iovec) : ScmiRespCtx :=
  { iov := respIov, written := 0, capacity := respIov.iovLen.toNat, stores := [] }

/-- `scmi_resp_write`: the pointer to the space reserved. -/
def scmiRespWrite (ctx : ScmiRespCtx) (size : Nat) : Option Nat × ScmiRespCtx :=
  if ctx.written + size > ctx.capacity then (none, ctx)
  else (some ctx.written, { ctx with written := ctx.written + size })

/-- Fields stored through a pointer, each at its offset. -/
def ScmiRespCtx.store (ctx : ScmiRespCtx) (ptr : Option Nat) (fields : List (Nat × List UInt8)) :
    ScmiRespCtx :=
  { ctx with stores := ctx.stores ++ fields.map fun f => ⟨ptr.map (· + f.1), f.2⟩ }

/-- `scmi_build_header`: the packed word, of type `SCMI_MSG_TYPE_COMMAND`. -/
def scmiBuildHeader (protocolId msgId : UInt8) (token : UInt16) : UInt32 :=
  msgId.toUInt32 ||| (protocolId.toUInt32 <<< 10) ||| ((token.toUInt32 &&& 0x3FF) <<< 18)

/-- `scmi_make_response`. -/
def scmiMakeResponse (ctx : ScmiRespCtx) (protocolId msgId : UInt8) (token : UInt16)
    (status : ScmiStatus) : Int × ScmiRespCtx :=
  if ctx.capacity < sizeofScmiResponse then (ScmiStatus.errParams.code, ctx)
  else
    let word := le32 (scmiBuildHeader protocolId msgId token)
    (0, { ctx.store (some 0) [(0, word), (4, le32 (UInt32.ofInt status.code))] with
          written := sizeofScmiResponse })

/-- `scmi_validate_request`. -/
def scmiValidateRequest (reqSize minReqSize respSize minRespSize : Nat) : ScmiStatus :=
  if reqSize < minReqSize then .errParams
  else if respSize < minRespSize then .errParams
  else .success

/-- The memory behind a response: its stores, in order. -/
def ScmiRespCtx.apply (ctx : ScmiRespCtx) (mem : Mem) : Mem :=
  ctx.stores.foldl
    (fun mem s =>
      match s.ptr with
      | some off => writeBytes mem (ctx.iov.iovBase + UInt64.ofNat off) s.bytes
      | none => mem)
    mem

/-! ## 2. The id lists -/

/-- A `uint32_t *ids` with its count; `NULL` where the protocol is not supported. -/
structure IdArray where
  ids : Option (List UInt32)
  count : UInt32
  sized : (ids.getD []).length = count.toNat

namespace IdArray

/-- The ids in order. -/
def list (a : IdArray) : List UInt32 := a.ids.getD []

/-- `{ NULL, 0 }`. -/
def null : IdArray := ⟨none, 0, rfl⟩

/-- `clk_phys_id`, `pwr_phys_id` and `rst_phys_id`: `none` where `*valid` is false. -/
def physId (a : IdArray) (id : UInt32) : Option UInt32 :=
  match a.ids with
  | none => none
  | some ids => if id ≥ a.count then none else ids[id.toNat]?

/-- **An index gives the entry of the list at it**, and nothing outside the list. -/
theorem physId_eq (a : IdArray) (id : UInt32) : a.physId id = a.list[id.toNat]? := by
  obtain ⟨ids, count, sized⟩ := a
  unfold physId list
  cases ids with
  | none => rfl
  | some ids =>
    have hlen : ids.length = count.toNat := sized
    change (if id ≥ count then none else ids[id.toNat]?) = ids[id.toNat]?
    split
    · next hge =>
      have hout : ids.length ≤ id.toNat := hlen ▸ UInt32.le_iff_toNat_le.mp hge
      rw [List.getElem?_eq_none hout]
    · rfl

end IdArray

/-- The three lists of a device, and the three ioctls. -/
inductive ScmiDomain where
  | clock
  | reset
  | power
  deriving DecidableEq, Repr

/-- `SCMI_PROTO_ID_BASE`. -/
def scmiProtoIdBase : UInt8 := 0x10

/-- `SCMI_PROTO_ID_CLOCK`, `SCMI_PROTO_ID_RESET` and `SCMI_PROTO_ID_POWER`. -/
def ScmiDomain.protocolId : ScmiDomain → UInt8
  | .clock => 0x14
  | .reset => 0x16
  | .power => 0x11

/-! ## 3. The device -/

/-- The handlers a protocol can be registered with. -/
inductive ScmiHandler where
  | base
  | domain (d : ScmiDomain)
  deriving DecidableEq, Repr

/-- The protocol id each handler is registered under. -/
def ScmiHandler.protocolId : ScmiHandler → UInt8
  | .base => scmiProtoIdBase
  | .domain d => d.protocolId

/-- `struct scmi_dev_protocol_entry`. -/
structure ScmiDevProtocolEntry where
  protocolId : UInt8
  handler : ScmiHandler
  deriving DecidableEq, Repr

/-- `SCMI_MAX_PROTOCOLS`. -/
def scmiMaxProtocols : Nat := 16

/-- `SCMIDev`; `protocol_count` is the length of the table. -/
structure SCMIDev where
  clockIds : IdArray
  resetIds : IdArray
  powerIds : IdArray
  protocols : List ScmiDevProtocolEntry
  protocolsBound : protocols.length ≤ scmiMaxProtocols

def SCMIDev.idsOf (dev : SCMIDev) : ScmiDomain → IdArray
  | .clock => dev.clockIds
  | .reset => dev.resetIds
  | .power => dev.powerIds

/-- `clk_phys_id`. -/
def clkPhysId (dev : SCMIDev) (clkId : UInt32) : Option UInt32 := dev.clockIds.physId clkId

/-- `rst_phys_id`. -/
def rstPhysId (dev : SCMIDev) (rstId : UInt32) : Option UInt32 := dev.resetIds.physId rstId

/-- `pwr_phys_id`. -/
def pwrPhysId (dev : SCMIDev) (domId : UInt32) : Option UInt32 := dev.powerIds.physId domId

/-- The helper that each protocol's handlers call. -/
def SCMIDev.physId (dev : SCMIDev) : ScmiDomain → UInt32 → Option UInt32
  | .clock => clkPhysId dev
  | .reset => rstPhysId dev
  | .power => pwrPhysId dev

theorem SCMIDev.physId_eq (dev : SCMIDev) (d : ScmiDomain) (id : UInt32) :
    dev.physId d id = (dev.idsOf d).list[id.toNat]? := by
  cases d with
  | clock => exact dev.clockIds.physId_eq id
  | reset => exact dev.resetIds.physId_eq id
  | power => exact dev.powerIds.physId_eq id

/-- `scmi_dev_register_protocol`. -/
def scmiDevRegisterProtocol (dev : SCMIDev) (protocolId : UInt8) (handler : ScmiHandler) :
    Int × SCMIDev :=
  if hfull : dev.protocols.length ≥ scmiMaxProtocols then (-1, dev)
  else if dev.protocols.any (·.protocolId = protocolId) then (0, dev)
  else
    (0, { dev with
          protocols := dev.protocols ++ [⟨protocolId, handler⟩]
          protocolsBound := by
            rw [List.length_append]
            exact Nat.lt_of_not_le hfull })

/-- `struct virtio_scmi_init_params`. -/
structure VirtioScmiInitParams where
  clockIds : IdArray
  resetIds : IdArray
  powerIds : IdArray

def VirtioScmiInitParams.idsOf (p : VirtioScmiInitParams) : ScmiDomain → IdArray
  | .clock => p.clockIds
  | .reset => p.resetIds
  | .power => p.powerIds

/-- `scmi_copy_id_array`, where the allocation succeeds. -/
def scmiCopyIdArray (src : IdArray) : IdArray := if src.count = 0 then .null else src

/-- `scmi_dev_create`. -/
def scmiDevCreate : SCMIDev := ⟨.null, .null, .null, [], Nat.zero_le _⟩

/-- `virtio_scmi_do_init`, where the allocations succeed. -/
def virtioScmiDoInit (params : Option VirtioScmiInitParams) : SCMIDev :=
  match params with
  | none => scmiDevCreate
  | some p =>
    let register (h : ScmiHandler) (dev : SCMIDev) : SCMIDev :=
      (scmiDevRegisterProtocol dev h.protocolId h).2
    let dev : SCMIDev :=
      { scmiDevCreate with
        clockIds := scmiCopyIdArray p.clockIds
        resetIds := scmiCopyIdArray p.resetIds
        powerIds := scmiCopyIdArray p.powerIds }
    let dev := register .base dev
    let dev := if dev.clockIds.count > 0 then register (.domain .clock) dev else dev
    let dev := if dev.powerIds.count > 0 then register (.domain .power) dev else dev
    if dev.resetIds.count > 0 then register (.domain .reset) dev else dev

theorem list_scmiCopyIdArray (src : IdArray) : (scmiCopyIdArray src).list = src.list := by
  unfold scmiCopyIdArray
  split
  · next hzero =>
    have hlen : src.list.length = 0 := by
      rw [IdArray.list, src.sized, hzero]
      rfl
    rw [List.length_eq_zero_iff.mp hlen]
    rfl
  · rfl

theorem idsOf_register (dev : SCMIDev) (pid : UInt8) (h : ScmiHandler) (d : ScmiDomain) :
    (scmiDevRegisterProtocol dev pid h).2.idsOf d = dev.idsOf d := by
  unfold scmiDevRegisterProtocol
  split
  · rfl
  · split
    · rfl
    · cases d <;> rfl

/-- Every entry of the table is a handler under its own protocol id. -/
def SCMIDev.Matched (dev : SCMIDev) : Prop :=
  ∀ e ∈ dev.protocols, e.protocolId = e.handler.protocolId

theorem matched_register {dev : SCMIDev} (hm : dev.Matched) (h : ScmiHandler) :
    (scmiDevRegisterProtocol dev h.protocolId h).2.Matched := by
  unfold scmiDevRegisterProtocol
  split
  · exact hm
  · split
    · exact hm
    · intro e he
      rcases List.mem_append.mp he with hin | hnew
      · exact hm e hin
      · rw [List.mem_singleton.mp hnew]

/-- **The device as created**: the ids are those of the parameters, and every protocol is
    served by its own handler. -/
theorem virtioScmiDoInit_spec (p : VirtioScmiInitParams) :
    (∀ d, ((virtioScmiDoInit (some p)).idsOf d).list = (p.idsOf d).list) ∧
      (virtioScmiDoInit (some p)).Matched := by
  -- a property of devices that registering a handler keeps, also under a condition
  have hstep : ∀ (P : SCMIDev → Prop) (h : ScmiHandler) (c : Prop) [Decidable c] (dev : SCMIDev),
      (∀ dev, P dev → P (scmiDevRegisterProtocol dev h.protocolId h).2) → P dev →
        P (if c then (scmiDevRegisterProtocol dev h.protocolId h).2 else dev) := by
    intro P h c _ dev hkeep hdev
    split
    · exact hkeep dev hdev
    · exact hdev
  let P : SCMIDev → Prop := fun dev =>
    (∀ d, (dev.idsOf d).list = (p.idsOf d).list) ∧ dev.Matched
  have hkeep : ∀ h dev, P dev → P (scmiDevRegisterProtocol dev h.protocolId h).2 := by
    rintro h dev ⟨hids, hm⟩
    refine ⟨fun d => ?_, matched_register hm h⟩
    rw [idsOf_register, hids d]
  refine hstep P (.domain .reset) _ _ (hkeep _) (hstep P (.domain .power) _ _ (hkeep _)
    (hstep P (.domain .clock) _ _ (hkeep _) (hkeep .base _ ⟨fun d => ?_, ?_⟩)))
  · cases d with
    | clock => exact list_scmiCopyIdArray p.clockIds
    | reset => exact list_scmiCopyIdArray p.resetIds
    | power => exact list_scmiCopyIdArray p.powerIds
  · intro e he
    exact absurd he List.not_mem_nil

/-! ## 4. The call into the kernel -/

/-- What a handler fills into `hvisor_scmi_clock_args`, `hvisor_scmi_reset_args` or
    `hvisor_scmi_power_args`; a member it leaves unset is `none`. -/
inductive ScmiArgs where
  | clockAttr (clockId : UInt32)
  | clockRateInfo (clockId : UInt32)
  | clockRateSetInfo (clockId flags : UInt32) (rate : UInt64)
  | clockConfigInfo (clockId : UInt32) (flags config : Option UInt32)
  | clockNameInfo (clockId : UInt32)
  | resetInfo (domainId flags resetState : UInt32)
  | powerAttr (domainId : UInt32)
  | powerStateInfo (domainId : UInt32) (powerState : Option UInt32)
  deriving DecidableEq, Repr

/-- The id in the arguments. -/
def ScmiArgs.id : ScmiArgs → UInt32
  | .clockAttr id | .clockRateInfo id | .clockRateSetInfo id _ _ | .clockConfigInfo id _ _
  | .clockNameInfo id | .resetInfo id _ _ | .powerAttr id | .powerStateInfo id _ => id

/-- One ioctl: `HVISOR_SCMI_CLOCK_IOCTL`, `HVISOR_SCMI_RESET_IOCTL` or
    `HVISOR_SCMI_POWER_IOCTL` with its arguments. -/
structure ScmiIoctl where
  cmd : ScmiDomain
  subcmd : UInt32
  dataLen : UInt32
  args : ScmiArgs
  deriving DecidableEq, Repr

/-- What the kernel leaves in the arguments, for the members that a handler reads. -/
structure ScmiReply where
  enabled : UInt32
  parentId : UInt32
  clockName : List UInt8
  rate : UInt64
  config : UInt32
  extendedConfigVal : UInt32
  name : List UInt8
  powerName : List UInt8
  powerState : UInt32
  deriving DecidableEq, Repr

/-- The kernel's answer to an ioctl: `none` where `ioctl` returns a negative value. -/
abbrev ScmiKernel := ScmiIoctl → Option ScmiReply

/-- `sizeof` of the arguments of an ioctl. -/
def sizeofScmiArgs : ScmiDomain → UInt32
  | .clock => 88
  | .reset => 20
  | .power => 80

/-- `-EIO`. -/
def minusEio : Int := -5

/-- `hvisor_scmi_ioctl_cmd`: the ioctl issued, and its return value or what the kernel
    left in the arguments. -/
def hvisorScmiIoctlCmd (kernel : ScmiKernel) (ioctlCmd : ScmiDomain) (args : ScmiArgs)
    (subcmd : UInt32) : ScmiIoctl × Except Int ScmiReply :=
  let io : ScmiIoctl := ⟨ioctlCmd, subcmd, sizeofScmiArgs ioctlCmd - 8, args⟩
  match kernel io with
  | none => (io, .error minusEio)
  | some reply => (io, .ok reply)

/-- What handling a message comes to: the return value, the response and the ioctls
    issued. -/
structure ScmiRun where
  ret : Int
  ctx : ScmiRespCtx
  ioctls : List ScmiIoctl
  deriving DecidableEq, Repr

end HvisorTool
