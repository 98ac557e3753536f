/-
  File:      HvisorTool/Daemon/Start.lean
  Subject:   THE DAEMON'S DEVICE TABLE: how a configuration becomes published
             devices (`virtio_start_from_json`, `virtio_add_from_json`) and how
             a guest's request finds its device (`virtio_handle_req`).

  A configuration is what `parse_virtio_config` returns; which JSON texts it accepts is not
  modelled, so any configuration may come. What the kernel answers to `mmap` and what a device's
  `init` returns are part of the request. Published devices are a list, `vdevs_num` is its length.

  * `validateVirtioConfigDevices`, `createVirtioConfigDevices`, `publishVirtioDevices`: the three
    stages, with the loops over zones and devices run over the devices in order;
  * `virtioHandleReq`: the dispatch;
  * `tableMachine`: requests to add devices and guest requests in any order.
-/
import HvisorTool.Bridge.Handshake
import HvisorTool.Mmio.Regs

namespace HvisorTool

open Library

variable {δ : Type}

/-- `MAX_DEVS`. -/
def maxDevs : Nat := 8

/-! ## 1. Configurations -/

/-- `VirtioDeviceConfig`; its parameters are only read by the device's `init`. -/
structure VirtioDeviceConfig where
  enabled : Bool
  type : VirtioDeviceType
  zoneId : UInt32
  addr : UInt64
  len : UInt64
  irq : UInt32
  deriving DecidableEq, Repr

/-- The identity of the device that a configuration asks for. -/
def VirtioDeviceConfig.identity (c : VirtioDeviceConfig) : DeviceIdentity :=
  { zoneId := c.zoneId, irqId := c.irq, baseAddr := c.addr, len := c.len, type := c.type }

/-- `VirtioZoneConfig`, with the bound that `parse_virtio_zone_config` checks. -/
structure VirtioZoneConfig where
  zoneId : UInt32
  memoryRegions : List VirtioMemoryRegionConfig
  devices : List VirtioDeviceConfig
  zoneBound : zoneId.toNat < maxZones

/-- `VirtioConfig`. -/
abbrev VirtioConfig := List VirtioZoneConfig

/-- The devices of a configuration, in the order of the loops over it. -/
def configDevices (cfg : VirtioConfig) : List VirtioDeviceConfig := cfg.flatMap (·.devices)

/-- What the daemon keeps between requests. -/
structure Daemon (δ : Type) where
  zoneMem : ZoneTable
  vdevs : List (VirtIODevice δ)
  mmioAddrs : List UInt64

/-- A request to add the devices of a file: the parsed configuration, if there is one,
    and how `mmap` and the devices' `init` operations answer. -/
structure AddRequest (δ : Type) where
  config : Option VirtioConfig
  mmap : (z : ZoneMem) → (mem : VirtioMemoryRegionConfig) → Option (Mapping z mem)
  init : Nat → Option δ

/-! ## 2. Adding devices -/

/-- Two devices of one zone whose register ranges overlap. -/
def DeviceIdentity.conflicts (new old : DeviceIdentity) : Bool :=
  old.zoneId == new.zoneId && rangesOverlap new.baseAddr new.len old.baseAddr old.len

/-- The loops of `validate_virtio_config_devices`: `previous` are the devices of the
    configuration before this one, `total` counts published and enabled devices. -/
def validateDevices (published : List DeviceIdentity) :
    (previous : List VirtioDeviceConfig) → (total : Nat) → List VirtioDeviceConfig → Bool
  | _, _, [] => true
  | previous, total, dev :: devs =>
    if !dev.enabled then validateDevices published (previous ++ [dev]) total devs
    else if maxDevs < total + 1 then false
    else if published.any (dev.identity.conflicts ·) then false
    else if previous.any (fun p => p.enabled && dev.identity.conflicts p.identity) then false
    else validateDevices published (previous ++ [dev]) (total + 1) devs

/-- `validate_virtio_config_devices`. -/
def validateVirtioConfigDevices (vdevs : List (VirtIODevice δ)) (cfg : VirtioConfig) : Bool :=
  validateDevices (vdevs.map (·.toDeviceIdentity)) [] vdevs.length (configDevices cfg)

/-- The loop over zones in `virtio_start_from_json`. A region mapped before a failure
    stays mapped. -/
def mmapZones
    (mmap : (z : ZoneMem) → (mem : VirtioMemoryRegionConfig) → Option (Mapping z mem)) :
    VirtioConfig → ZoneTable → Int × ZoneTable
  | [], zm => (0, zm)
  | z :: zs, zm =>
    let r := mmapVirtioZoneMemory mmap z.memoryRegions (zm ⟨z.zoneId.toNat, z.zoneBound⟩)
    let zm := fun i => if i = ⟨z.zoneId.toNat, z.zoneBound⟩ then r.2 else zm i
    if r.1 = 0 then mmapZones mmap zs zm else (-1, zm)

/-- The creation loop of `create_virtio_config_devices`, from the `count`-th new device
    on; `none` where it destroys what it made. -/
def createDevices (lookupOps : OpsTable δ)
    (init : Nat → Option δ) : (count : Nat) → List VirtioDeviceConfig →
      Option (List (VirtIODevice δ))
  | _, [] => some []
  | count, dev :: devs =>
    if !dev.enabled then createDevices lookupOps init count devs
    else
      match createVirtioDeviceUnpublished lookupOps dev.identity (init count) with
      | none => none
      | some vdev =>
        if count = maxDevs then none
        else (createDevices lookupOps init (count + 1) devs).map (vdev :: ·)

/-- `publish_virtio_devices`. -/
def publishVirtioDevices (vdevs new : List (VirtIODevice δ)) : Option (List (VirtIODevice δ)) :=
  if new.length = 0 then some vdevs
  else if maxDevs - vdevs.length < new.length then none
  else some (vdevs ++ new)

/-- `create_virtio_config_devices`. -/
def createVirtioConfigDevices (lookupOps : OpsTable δ)
    (init : Nat → Option δ) (vdevs : List (VirtIODevice δ)) (cfg : VirtioConfig) :
    Option (List (VirtIODevice δ)) :=
  (createDevices lookupOps init 0 (configDevices cfg)).bind (publishVirtioDevices vdevs)

/-- `virtio_start_from_json`. -/
def virtioStartFromJson (lookupOps : OpsTable δ)
    (s : Daemon δ) (req : AddRequest δ) : Int × Daemon δ :=
  match req.config with
  | none => (-1, s)
  | some cfg =>
    if validateVirtioConfigDevices s.vdevs cfg then
      let r := mmapZones req.mmap cfg s.zoneMem
      let s := { s with zoneMem := r.2 }
      if r.1 = 0 then
        match createVirtioConfigDevices lookupOps req.init s.vdevs cfg with
        | some vdevs => (0, { s with vdevs := vdevs })
        | none => (-1, s)
      else (-1, s)
    else (-1, s)

/-- `virtio_add_from_json`. -/
def virtioAddFromJson (lookupOps : OpsTable δ)
    (s : Daemon δ) (req : AddRequest δ) : Int × Daemon δ :=
  let r := virtioStartFromJson lookupOps s req
  if r.1 = 0 then (0, { r.2 with mmioAddrs := r.2.vdevs.map (·.baseAddr) }) else r

/-! ## 3. Dispatch -/

/-- The test of `virtio_handle_req`. -/
def DeviceIdentity.serves (d : DeviceIdentity) (srcZone : UInt32) (address : UInt64) : Bool :=
  srcZone == d.zoneId && inRange address d.baseAddr d.len

/-- The slot of the device that a request is for. -/
def findVdev (vdevs : List (VirtIODevice δ)) (srcZone : UInt32) (address : UInt64) :
    Option Nat :=
  vdevs.findIdx? (·.serves srcZone address)

/-- What `virtio_handle_req` returns, the table it leaves, and the value it hands to
    `virtio_finish_cfg_req`, if it calls it. -/
structure HandleResult (δ : Type) where
  ret : Int
  vdevs : List (VirtIODevice δ)
  cfgValue : Option UInt64

/-- The access that a request makes on its device, and the value read. -/
def serveReq (lookupOps : OpsTable δ) (zm : ZoneTable)
    (req : DeviceReq) (ret : Int) (d : VirtIODevice δ) : VirtIODevice δ × UInt64 :=
  match lookupOps d.type with
  | none => (d, 0)
  | some ops =>
    let offs := req.address - d.baseAddr
    if req.isWrite != 0 then
      ((virtioMmioWrite ops zm d offs req.value req.size.toUInt32 ret).1, 0)
    else (d, (virtioMmioRead ops d offs req.size.toUInt32).1)

/-- `virtio_handle_req`. -/
def virtioHandleReq (lookupOps : OpsTable δ)
    (zm : ZoneTable) (vdevs : List (VirtIODevice δ)) (req : DeviceReq) (ret : Int) :
    HandleResult δ :=
  match findVdev vdevs req.srcZone req.address with
  | none => { ret := -1, vdevs := vdevs, cfgValue := some 0 }
  | some i =>
    { ret := 0
      vdevs := vdevs.modify i fun d => (serveReq lookupOps zm req ret d).1
      cfgValue :=
        if req.needInterrupt != 0 then none
        else (vdevs[i]?).map fun d => (serveReq lookupOps zm req ret d).2 }

/-! ## 4. The daemon as a machine -/

inductive TableAction (δ : Type) where
  | start (req : AddRequest δ)
  /-- A request to the control server. -/
  | add (req : AddRequest δ)
  /-- A guest's access; `ret` is what taking the interrupt line down returns. -/
  | guest (req : DeviceReq) (ret : Int)

def tableStep (lookupOps : OpsTable δ) (s : Daemon δ) :
    TableAction δ → Option (Daemon δ)
  | .start req => some (virtioStartFromJson lookupOps s req).2
  | .add req => some (virtioAddFromJson lookupOps s req).2
  | .guest req ret =>
    some { s with vdevs := (virtioHandleReq lookupOps s.zoneMem s.vdevs req ret).vdevs }

def tableMachine (lookupOps : OpsTable δ) :
    Machine (Daemon δ) (TableAction δ) := ⟨tableStep lookupOps⟩

/-- A daemon with no devices and no mapped memory. -/
def daemonStart : Daemon δ :=
  { zoneMem := fun _ => .empty, vdevs := [], mmioAddrs := [] }

end HvisorTool
