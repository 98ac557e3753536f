/-
  File:      HvisorTool/Mmio/Regs.lean
  Subject:   THE REGISTER FILE OF A DEVICE: `virtio_mmio_read`, `virtio_mmio_write`,
             `virtio_dev_reset`, and how a device is made (`init_virtio_queue`, `init_mmio_regs`,
             `create_virtio_device_unpublished`).

  Every function returns, next to its result, the list of the indices `i` at which it touches
  `vdev->vqs[i]`, in order. In C an index outside the array reads or writes whatever lies there;
  here such an access yields a default queue or changes nothing, and the list still shows it.

  * `VirtIODevice δ`: the device; `δ` is the type of its private part (`vdev->dev`), its queues are
    a list of the length that `init_virtio_queue` allows;
  * `DeviceHook`: what a device's own operation may do to the shared part: move the two ring indices
    of its queues, change the interrupt line, `activated` and its private part, and nothing else;
  * `MmioAccess`, `mmioAccess`: one guest access.
-/
import HvisorTool.Irq.Line
import HvisorTool.Virtio.Queue

namespace HvisorTool

/-- `VIRTIO_MAX_VQUEUES`. -/
def virtioMaxVqueues : Nat := 4

/-- `VIRT_MAGIC`: "virt". -/
def virtMagic : UInt64 := 0x74726976

/-- `VIRT_VERSION`. -/
def virtVersion : UInt64 := 2

/-- `VIRT_VENDOR`: "HVIS". -/
def virtVendor : UInt64 := 0x48564953

/-- `VirtioDeviceType`. -/
inductive VirtioDeviceType where
  | none
  | net
  | block
  | console
  | gpu
  | scmi
  deriving DecidableEq, Repr

/-- The number of a device type in the `DEVICE_ID` register. -/
def VirtioDeviceType.id : VirtioDeviceType → UInt32
  | .none => 0
  | .net => 1
  | .block => 2
  | .console => 3
  | .gpu => 16
  | .scmi => 32

/-- `VirtMmioRegs`, without `interrupt_status`, which is part of `IrqLine`. -/
structure VirtMmioRegs where
  deviceId : UInt32
  devFeatureSel : UInt32
  drvFeatureSel : UInt32
  queueSel : UInt32
  status : UInt32
  generation : UInt32
  devFeature : UInt64
  drvFeature : UInt64
  deriving DecidableEq, Repr, Inhabited

/-- What a device is created with and keeps: its zone, interrupt, register range and
    type. -/
structure DeviceIdentity where
  zoneId : UInt32
  irqId : UInt32
  baseAddr : UInt64
  len : UInt64
  type : VirtioDeviceType
  deriving DecidableEq, Repr

/-- `struct VirtIODevice`. The queues are as many as `init_virtio_queue` admits. -/
structure VirtIODevice (δ : Type) extends DeviceIdentity where
  regs : VirtMmioRegs
  irq : IrqLine
  vqs : List VirtQueue
  dev : δ
  activated : Bool
  vqsBound : 0 < vqs.length ∧ vqs.length ≤ virtioMaxVqueues

/-- The part of a queue that the driver sets up through the registers; a device
    only moves the two ring indices. -/
def VirtQueue.setup (vq : VirtQueue) : VirtQueue :=
  { vq with lastAvailIdx := 0, lastUsedIdx := 0 }

/-- An operation of the device behind the register file. -/
structure DeviceHook (δ : Type) where
  run : VirtIODevice δ → VirtIODevice δ
  identity : ∀ d, (run d).toDeviceIdentity = d.toDeviceIdentity
  regs : ∀ d, (run d).regs = d.regs
  vqs : ∀ d, (run d).vqs.map VirtQueue.setup = d.vqs.map VirtQueue.setup

/-- `struct virtio_device_ops`. `config` is the private part read as configuration
    space. -/
structure VirtioDeviceOps (δ : Type) where
  features : UInt64
  numQueues : UInt32
  queueMaxSize : UInt32
  config : δ → UInt64 → UInt64
  reset : Option (DeviceHook δ)
  statusChanged : Option (UInt32 → DeviceHook δ)
  notifyHandlers : Nat → Option (DeviceHook δ)

variable {δ : Type}

/-! ## 1. Queues of a device -/

/-- `virtqueue_reset`: everything but the handler, the device and the maximum size. -/
def virtqueueReset (vq : VirtQueue) (idx : Nat) : VirtQueue :=
  { zoneId := vq.zoneId, vqIdx := .ofNat idx, num := 0, queueNumMax := vq.queueNumMax,
    descTableAddr := 0, availAddr := 0, usedAddr := 0, descTable := 0, availRing := 0,
    usedRing := 0, lastAvailIdx := 0, lastUsedIdx := 0, ready := 0, eventIdxEnabled := 0 }

/-- `virtqueue_set_desc_table`. -/
def virtqueueSetDescTable (zm : ZoneTable) (vq : VirtQueue) : VirtQueue :=
  { vq with descTable := vq.translate zm vq.descTableAddr }

/-- `virtqueue_set_avail`. -/
def virtqueueSetAvail (zm : ZoneTable) (vq : VirtQueue) : VirtQueue :=
  { vq with availRing := vq.translate zm vq.availAddr }

/-- `virtqueue_set_used`. -/
def virtqueueSetUsed (zm : ZoneTable) (vq : VirtQueue) : VirtQueue :=
  { vq with usedRing := vq.translate zm vq.usedAddr }

namespace VirtIODevice

/-- `vqs[i]`. -/
def vq (d : VirtIODevice δ) (i : Int) : VirtQueue :=
  if 0 ≤ i then d.vqs.getD i.toNat default else default

/-- An assignment to fields of `vqs[i]`. -/
def modifyVq (d : VirtIODevice δ) (i : Int) (f : VirtQueue → VirtQueue) : VirtIODevice δ :=
  { d with
    vqs := if 0 ≤ i then d.vqs.modify i.toNat f else d.vqs
    vqsBound := by
      split
      · rw [List.length_modify]
        exact d.vqsBound
      · exact d.vqsBound }

/-- A loop over all queues. -/
def mapVqs (d : VirtIODevice δ) (f : Nat → VirtQueue → VirtQueue) : VirtIODevice δ :=
  { d with
    vqs := d.vqs.mapIdx f
    vqsBound := by
      rw [List.length_mapIdx]
      exact d.vqsBound }

/-- `regs.queue_sel` as an index. -/
def sel (d : VirtIODevice δ) : Int := d.regs.queueSel.toNat

/-- The indices a loop over all queues touches. -/
def allIdx (d : VirtIODevice δ) : List Int := (List.range d.vqs.length).map Int.ofNat

end VirtIODevice

/-- The device's operation, if it has one. -/
def runHook (h : Option (DeviceHook δ)) (d : VirtIODevice δ) : VirtIODevice δ :=
  match h with
  | some h => h.run d
  | none => d

/-! ## 2. Creation -/

/-- `init_virtio_queue`: the queues of a new device. -/
def initVirtioQueue (ops : VirtioDeviceOps δ) (zoneId : UInt32) : List VirtQueue :=
  (List.range ops.numQueues.toNat).map fun i =>
    { virtqueueReset default i with queueNumMax := ops.queueMaxSize, zoneId := zoneId }

theorem length_initVirtioQueue (ops : VirtioDeviceOps δ) (zoneId : UInt32) :
    (initVirtioQueue ops zoneId).length = ops.numQueues.toNat := by
  simp [initVirtioQueue]

/-- `init_mmio_regs`, with the feature word that creation adds. -/
def initMmioRegs (type : VirtioDeviceType) (features : UInt64) : VirtMmioRegs :=
  { deviceId := type.id, devFeatureSel := 0, drvFeatureSel := 0, queueSel := 0, status := 0,
    generation := 0, devFeature := features, drvFeature := 0 }

/-- `device_ops_table`, as `lookup_ops` reads it. -/
abbrev OpsTable (δ : Type) := VirtioDeviceType → Option (VirtioDeviceOps δ)

/-- `create_virtio_device_unpublished`. `init` is the private part that `ops->init`
    leaves, if it succeeds. -/
def createVirtioDeviceUnpublished (lookupOps : OpsTable δ)
    (id : DeviceIdentity) (init : Option δ) : Option (VirtIODevice δ) :=
  match lookupOps id.type, init with
  | some ops, some dev =>
    if h : 0 < ops.numQueues.toNat ∧ ops.numQueues.toNat ≤ virtioMaxVqueues then
      some { toDeviceIdentity := id, regs := initMmioRegs id.type ops.features,
             irq := IrqLine.down, vqs := initVirtioQueue ops id.zoneId, dev := dev,
             activated := false,
             vqsBound := by rw [length_initVirtioQueue]; exact h }
    else none
  | _, _ => none

/-! ## 3. Registers -/

/-- The registers that `virtio_mmio_read` or `virtio_mmio_write` name. -/
inductive MmioReg where
  | magicValue
  | version
  | deviceId
  | vendorId
  | deviceFeatures
  | deviceFeaturesSel
  | driverFeatures
  | driverFeaturesSel
  | queueSel
  | queueNumMax
  | queueNum
  | queueReady
  | queueNotify
  | interruptStatus
  | interruptAck
  | status
  | queueDescLow
  | queueDescHigh
  | queueAvailLow
  | queueAvailHigh
  | queueUsedLow
  | queueUsedHigh
  | configGeneration
  deriving DecidableEq, Repr

/-- The register at an offset below `VIRTIO_MMIO_CONFIG`. -/
def mmioReg (offset : UInt64) : Option MmioReg :=
  match offset.toNat with
  | 0x000 => some .magicValue
  | 0x004 => some .version
  | 0x008 => some .deviceId
  | 0x00c => some .vendorId
  | 0x010 => some .deviceFeatures
  | 0x014 => some .deviceFeaturesSel
  | 0x020 => some .driverFeatures
  | 0x024 => some .driverFeaturesSel
  | 0x030 => some .queueSel
  | 0x034 => some .queueNumMax
  | 0x038 => some .queueNum
  | 0x044 => some .queueReady
  | 0x050 => some .queueNotify
  | 0x060 => some .interruptStatus
  | 0x064 => some .interruptAck
  | 0x070 => some .status
  | 0x080 => some .queueDescLow
  | 0x084 => some .queueDescHigh
  | 0x090 => some .queueAvailLow
  | 0x094 => some .queueAvailHigh
  | 0x0a0 => some .queueUsedLow
  | 0x0a4 => some .queueUsedHigh
  | 0x0fc => some .configGeneration
  | _ => none

/-- `VIRTIO_MMIO_CONFIG`. -/
def mmioConfig : UInt64 := 0x100

/-- The `switch` of `virtio_mmio_read`. -/
def readReg (d : VirtIODevice δ) : MmioReg → UInt64 × List Int
  | .magicValue => (virtMagic, [])
  | .version => (virtVersion, [])
  | .deviceId => (d.regs.deviceId.toUInt64, [])
  | .vendorId => (virtVendor, [])
  | .deviceFeatures =>
    (if d.regs.devFeatureSel != 0 then d.regs.devFeature >>> 32 else d.regs.devFeature, [])
  | .queueNumMax =>
    if d.vqs.length ≤ d.regs.queueSel.toNat then (0, [])
    else ((d.vq d.sel).queueNumMax.toUInt64, [d.sel])
  | .queueReady => ((d.vq d.sel).ready.toUInt64, [d.sel])
  | .interruptStatus => (d.irq.interruptStatus.toUInt64, [])
  | .status => (d.regs.status.toUInt64, [])
  | .configGeneration => (d.regs.generation.toUInt64, [])
  | .deviceFeaturesSel | .driverFeatures | .driverFeaturesSel | .queueSel | .queueNum
  | .queueNotify | .interruptAck | .queueDescLow | .queueDescHigh | .queueAvailLow
  | .queueAvailHigh | .queueUsedLow | .queueUsedHigh => (0, [])

/-- `virtio_mmio_read`. The configuration space is read before the size is checked. -/
def virtioMmioRead (ops : VirtioDeviceOps δ) (d : VirtIODevice δ) (offset : UInt64)
    (size : UInt32) : UInt64 × List Int :=
  if mmioConfig ≤ offset then (ops.config d.dev (offset - mmioConfig), [])
  else if size ≠ 4 then (0, [])
  else
    match mmioReg offset with
    | some r => readReg d r
    | none => (0, [])

/-- `VIRTIO_RING_F_EVENT_IDX` as a mask. -/
def ringFEventIdx : UInt64 := 0x20000000

/-- `virtio_dev_reset`. The index of the first access is `queue_sel` put into an `int`. -/
def virtioDevReset (ops : VirtioDeviceOps δ) (d : VirtIODevice δ) (ret : Int) :
    VirtIODevice δ × List Int :=
  let idx := asInt d.regs.queueSel
  let d := { d with irq := d.irq.reset ret, regs := { d.regs with status := 0 } }
  let d := d.modifyVq idx fun vq => { vq with ready := 0 }
  let d := runHook ops.reset d
  ({ d.mapVqs (fun i vq => virtqueueReset vq i) with activated := false }, idx :: d.allIdx)

/-- An assignment to the selected queue. -/
def writeSelected (d : VirtIODevice δ) (f : VirtQueue → VirtQueue) : VirtIODevice δ × List Int :=
  (d.modifyVq d.sel f, [d.sel])

/-- The feature word after a `DRIVER_FEATURES` write: one half is or-ed in. -/
def VirtMmioRegs.acceptFeatures (regs : VirtMmioRegs) (value : UInt64) : UInt64 :=
  if regs.drvFeatureSel != 0 then regs.drvFeature ||| (value <<< 32)
  else regs.drvFeature ||| value

/-- The `DRIVER_FEATURES` write. The event index is switched on for every queue once
    its bit is in the word. -/
def writeDriverFeatures (d : VirtIODevice δ) (value : UInt64) : VirtIODevice δ × List Int :=
  let d := { d with regs := { d.regs with drvFeature := d.regs.acceptFeatures value } }
  if d.regs.drvFeature &&& ringFEventIdx != 0 then
    (d.mapVqs fun _ vq => { vq with eventIdxEnabled := 1 }, d.allIdx)
  else (d, [])

/-- The `STATUS` write. -/
def writeStatus (ops : VirtioDeviceOps δ) (d : VirtIODevice δ) (value : UInt64) (ret : Int) :
    VirtIODevice δ × List Int :=
  let d := { d with regs := { d.regs with status := value.toUInt32 } }
  let r := if value.toUInt32 = 0 then virtioDevReset ops d ret else (d, [])
  (runHook (ops.statusChanged.map (· value.toUInt32)) r.1, r.2)

/-- The `QUEUE_NOTIFY` write. -/
def writeQueueNotify (ops : VirtioDeviceOps δ) (d : VirtIODevice δ) (value : UInt64) :
    VirtIODevice δ × List Int :=
  if value.toNat < d.vqs.length then
    (runHook (ops.notifyHandlers value.toNat) d, [(value.toNat : Int)])
  else (d, [])

/-- The `switch` of `virtio_mmio_write`. `ret` is what `virtio_deassert_line_locked`
    returns if the write calls it. -/
def writeReg (ops : VirtioDeviceOps δ) (zm : ZoneTable) (d : VirtIODevice δ) (value : UInt64)
    (ret : Int) : MmioReg → VirtIODevice δ × List Int
  | .deviceFeaturesSel =>
    ({ d with regs := { d.regs with devFeatureSel := if value != 0 then 1 else 0 } }, [])
  | .driverFeatures => writeDriverFeatures d value
  | .driverFeaturesSel =>
    ({ d with regs := { d.regs with drvFeatureSel := if value != 0 then 1 else 0 } }, [])
  | .queueSel => ({ d with regs := { d.regs with queueSel := value.toUInt32 } }, [])
  | .queueNum => writeSelected d fun vq => { vq with num := value }
  | .queueReady => writeSelected d fun vq => { vq with ready := value.toUInt8 }
  | .queueNotify => writeQueueNotify ops d value
  | .interruptAck => ({ d with irq := d.irq.ack value ret }, [])
  | .status => writeStatus ops d value ret
  | .queueDescLow =>
    writeSelected d fun vq =>
      { vq with descTableAddr := vq.descTableAddr ||| (value &&& 0xffffffff) }
  | .queueDescHigh =>
    writeSelected d fun vq =>
      virtqueueSetDescTable zm
        { vq with descTableAddr := vq.descTableAddr ||| (value <<< 32) }
  | .queueAvailLow =>
    writeSelected d fun vq => { vq with availAddr := vq.availAddr ||| (value &&& 0xffffffff) }
  | .queueAvailHigh =>
    writeSelected d fun vq =>
      virtqueueSetAvail zm { vq with availAddr := vq.availAddr ||| (value <<< 32) }
  | .queueUsedLow =>
    writeSelected d fun vq => { vq with usedAddr := vq.usedAddr ||| (value &&& 0xffffffff) }
  | .queueUsedHigh =>
    writeSelected d fun vq =>
      virtqueueSetUsed zm { vq with usedAddr := vq.usedAddr ||| (value <<< 32) }
  | .magicValue | .version | .deviceId | .vendorId | .deviceFeatures | .queueNumMax
  | .interruptStatus | .configGeneration => (d, [])

/-- `virtio_mmio_write`. -/
def virtioMmioWrite (ops : VirtioDeviceOps δ) (zm : ZoneTable) (d : VirtIODevice δ)
    (offset value : UInt64) (size : UInt32) (ret : Int) : VirtIODevice δ × List Int :=
  if mmioConfig ≤ offset then (d, [])
  else if size ≠ 4 then (d, [])
  else
    match mmioReg offset with
    | some r => writeReg ops zm d value ret r
    | none => (d, [])

/-- One access of the guest. -/
inductive MmioAccess where
  | read (offset : UInt64) (size : UInt32)
  | write (offset value : UInt64) (size : UInt32) (ret : Int)
  deriving DecidableEq, Repr

/-- The device after one access, and the queue indices it touched. -/
def mmioAccess (ops : VirtioDeviceOps δ) (zm : ZoneTable) (d : VirtIODevice δ) :
    MmioAccess → VirtIODevice δ × List Int
  | .read offset size => (d, (virtioMmioRead ops d offset size).2)
  | .write offset value size ret => virtioMmioWrite ops zm d offset value size ret

/-- The queue indices that a sequence of accesses touches. -/
def touchedVqs (ops : VirtioDeviceOps δ) (zm : ZoneTable) :
    VirtIODevice δ → List MmioAccess → List Int
  | _, [] => []
  | d, a :: as => (mmioAccess ops zm d a).2 ++ touchedVqs ops zm (mmioAccess ops zm d a).1 as

end HvisorTool
