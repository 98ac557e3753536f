/-
  File:      HvisorTool/Config/ZoneConfig.lean
  Subject:   THE CONFIGURATION OF A ZONE (`zone_config_t`), as the hypervisor gets it.

  The arrays have the sizes of the struct. `arch_config` is left out: the tool fills it in and
  hands it on.

  * `MemoryRegion`, `IvcConfig`, `PciConfig`, `HvPciDevConfig`: the elements;
  * `ZoneConfig`: the struct; `ZoneConfig.zero`: cleared by `memset`.
-/
import HvisorTool.Config.Numbers
import HvisorTool.Virtio.ZoneMem

namespace HvisorTool

/-- `MEM_TYPE_RAM`, `MEM_TYPE_IO` and `MEM_TYPE_VIRTIO`. -/
inductive MemType where
  | ram | io | virtio
  deriving DecidableEq, Repr

/-- `struct memory_region`. -/
structure MemoryRegion where
  type : MemType
  physicalStart : UInt64
  virtualStart : UInt64
  size : UInt64
  deriving DecidableEq, Repr

/-- `struct ivc_config`. -/
structure IvcConfig where
  ivcId : UInt32
  peerId : UInt32
  controlTableIpa : UInt64
  sharedMemIpa : UInt64
  rwSecSize : UInt32
  outSecSize : UInt32
  interruptNum : UInt32
  maxPeers : UInt32
  deriving DecidableEq, Repr

/-- `struct pci_config`. -/
structure PciConfig where
  ecamBase : UInt64
  ecamSize : UInt64
  ioBase : UInt64
  ioSize : UInt64
  pciIoBase : UInt64
  mem32Base : UInt64
  mem32Size : UInt64
  pciMem32Base : UInt64
  mem64Base : UInt64
  mem64Size : UInt64
  pciMem64Base : UInt64
  busRangeBegin : UInt32
  busRangeEnd : UInt32
  domain : UInt8
  deriving DecidableEq, Repr

/-- `struct hv_pci_dev_config`. -/
structure HvPciDevConfig where
  domain : UInt8
  bus : UInt8
  device : UInt8
  function : UInt8
  vBus : UInt8
  vDevice : UInt8
  vFunction : UInt8
  devType : UInt32
  deriving DecidableEq, Repr

def configMaxInterrupts : Nat := 1024

def configInterruptsBitmapBitsPerWord : Nat := 32

def configMaxIvcConfigs : Nat := 2

def configNameMaxlen : Nat := 32

def configPciBusMaxnum : Nat := 4

def configMaxPciDev : Nat := 32

/-- `struct zone_config`, without `arch_config`. -/
structure ZoneConfig where
  zoneId : UInt32
  cpus : UInt64
  numMemoryRegions : UInt32
  memoryRegions : Vector MemoryRegion configMaxMemoryRegions
  interruptsBitmap : Vector UInt32 (configMaxInterrupts / configInterruptsBitmapBitsPerWord)
  numIvcConfigs : UInt32
  ivcConfigs : Vector IvcConfig configMaxIvcConfigs
  entryPoint : UInt64
  kernelLoadPaddr : UInt64
  kernelSize : UInt64
  dtbLoadPaddr : UInt64
  dtbSize : UInt64
  name : Vector UInt8 configNameMaxlen
  numPciBus : UInt64
  pciConfig : Vector PciConfig configPciBusMaxnum
  numPciDevs : UInt64
  allocPciDevs : Vector HvPciDevConfig configMaxPciDev

def MemoryRegion.zero : MemoryRegion := ⟨.ram, 0, 0, 0⟩

def IvcConfig.zero : IvcConfig := ⟨0, 0, 0, 0, 0, 0, 0, 0⟩

def PciConfig.zero : PciConfig := ⟨0, 0, 0, 0, 0, 0, 0, 0, 0, 0, 0, 0, 0, 0⟩

def HvPciDevConfig.zero : HvPciDevConfig := ⟨0, 0, 0, 0, 0, 0, 0, 0⟩

/-- The struct that `zone_start` clears. -/
def ZoneConfig.zero : ZoneConfig where
  zoneId := 0
  cpus := 0
  numMemoryRegions := 0
  memoryRegions := .replicate _ .zero
  interruptsBitmap := .replicate _ 0
  numIvcConfigs := 0
  ivcConfigs := .replicate _ .zero
  entryPoint := 0
  kernelLoadPaddr := 0
  kernelSize := 0
  dtbLoadPaddr := 0
  dtbSize := 0
  name := .replicate _ 0
  numPciBus := 0
  pciConfig := .replicate _ .zero
  numPciDevs := 0
  allocPciDevs := .replicate _ .zero

end HvisorTool
