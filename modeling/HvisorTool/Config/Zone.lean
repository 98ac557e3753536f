/-
  File:      HvisorTool/Config/Zone.lean
  Subject:   A ZONE'S ARRAYS FROM ITS JSON DESCRIPTION: the loops of `zone_start_from_json` and
             `parse_pci_config`.

  Every store to an element of an array of the configuration and every shift is logged, whether
  or not it is in range. A store behind the end of an array is lost here; what it really
  overwrites is not modelled.

  * `ZoneEvent`, `ZoneFault`, `Zoning`: what is logged, and how the code can end early;
  * `parseFields`: a chain of `parse_json_*` calls on the fields of an element;
  * `parseCpus`, `parseRegion`, `parseInterrupt`, `parseIvc`, `parsePciBus`, `parsePciDev`:
    the bodies of the loops; `parsePciConfig`.
-/
import HvisorTool.Boot.Elf
import HvisorTool.Config.ZoneConfig

namespace HvisorTool

open Library

variable [CJson]

/-! ## 1. Events -/

/-- The arrays of `zone_config_t`. -/
inductive ConfigArray where
  | memoryRegions | interruptsBitmap | ivcConfigs | pciConfig | allocPciDevs
  deriving DecidableEq, Repr

def ConfigArray.capacity : ConfigArray → Nat
  | .memoryRegions => configMaxMemoryRegions
  | .interruptsBitmap => configMaxInterrupts / configInterruptsBitmapBitsPerWord
  | .ivcConfigs => configMaxIvcConfigs
  | .pciConfig => configPciBusMaxnum
  | .allocPciDevs => configMaxPciDev

/-- What the code does on its way. -/
inductive ZoneEvent where
  /-- `1ULL << amount`. -/
  | shift (amount : Int)
  /-- A store to an element of an array. -/
  | store (array : ConfigArray) (index : Nat)
  /-- A load into physical memory, or a read for it. -/
  | load (event : LoadEvent)
  /-- `HVISOR_SET_BOOT_MODE`. -/
  | setBootMode (zoneId : UInt32) (multibootInfoPaddr : UInt64)
  /-- `HVISOR_ZONE_START`. -/
  | zoneStart (config : ZoneConfig)

/-- How the code can end early. -/
inductive ZoneFault where
  /-- `return -1`. -/
  | fails
  /-- A null pointer. -/
  | segv
  /-- A fault of `read_file` or of a load. -/
  | file (fault : FileFault)
  deriving DecidableEq, Repr

abbrev Zoning (α : Type) := Traced ZoneEvent ZoneFault α

/-- `goto err_out`. -/
def Zoning.fails {α : Type} : Zoning α := .lift (.error .fails)

/-- An access through a null pointer. -/
def Zoning.segv {α : Type} : Zoning α := .lift (.error .segv)

/-- A test of the code. -/
def Zoning.require (ok : Bool) : Zoning Unit := if ok then .lift (.ok ()) else Zoning.fails

/-- Loads, as part of this code. -/
def Loading.zoning {α : Type} (x : Loading α) : Zoning α :=
  ⟨x.log.map .load, x.result.mapError .file⟩

/-! ## 2. Fields -/

/-- A field of an element: its key, the function that parses it and where the value goes. -/
structure Field (α : Type) where
  key : String
  target : JsonTarget
  set : UInt64 → α → α

/-- What the field's function stores; `none` where it does not return 0. -/
def Field.read {α : Type} (f : Field α) (json : Json) : Option UInt64 :=
  f.target.read (Json.getObjectItem (some json) f.key)

/-- A chain of `parse_json_*` calls, each on a field of element `i`. -/
def parseFields {α : Type} (array : ConfigArray) (i : Nat) (json : Json) :
    List (Field α) → α → Zoning α
  | [], a => .lift (.ok a)
  | f :: fs, a =>
    match f.read json with
    | none => Zoning.fails
    | some v => .tell (.store array i) (parseFields array i json fs (f.set v a))

/-- `GET_OBJECT_ITEM(json, key)->valueint`, stored to a field of element `i`. -/
def parseValueint (array : ConfigArray) (i : Nat) (json : Json) (key : String) : Zoning UInt32 :=
  match Json.getObjectItem (some json) key with
  | none => Zoning.segv
  | some item => .tell (.store array i) (.lift (.ok (UInt32.ofInt item.valueint)))

/-! ## 3. Processors, memory regions and interrupts -/

/-- The loop over `cpus`. -/
def parseCpu (_ : Nat) (json : Json) (cpus : UInt64) : Zoning UInt64 :=
  .tell (.shift json.valueint) (.lift (.ok (cpus ||| 1 <<< UInt64.ofInt json.valueint)))

def regionFields : List (Field MemoryRegion) :=
  [⟨"physical_start", .linuxU64, fun v r => { r with physicalStart := v }⟩,
    ⟨"virtual_start", .linuxU64, fun v r => { r with virtualStart := v }⟩,
    ⟨"size", .linuxU64, fun v r => { r with size := v }⟩]

/-- The names of the types. -/
def memType (typeStr : List Char) : Option MemType :=
  if typeStr = "ram".toList then some .ram
  else if typeStr = "io".toList then some .io
  else if typeStr = "virtio".toList then some .virtio
  else none

def parseRegion (i : Nat) (json : Json) (config : ZoneConfig) : Zoning ZoneConfig :=
  (parseFields .memoryRegions i json regionFields (config.memoryRegions.getD i .zero)).bind
    fun region =>
      match Json.getObjectItem (some json) "type" with
      | none => Zoning.segv
      | some typeJson =>
        match typeJson.valuestring with
        | none => Zoning.segv
        | some typeStr =>
          match memType typeStr with
          | none => Zoning.fails
          | some type =>
            .tell (.store .memoryRegions i) (.lift (.ok { config with
              memoryRegions := config.memoryRegions.setIfInBounds i
                { region with type := type } }))

/-- The word of an interrupt with its bit. -/
def setInterrupt (bitmap : Vector UInt32 (configMaxInterrupts / configInterruptsBitmapBitsPerWord))
    (irq : Nat) : Vector UInt32 (configMaxInterrupts / configInterruptsBitmapBitsPerWord) :=
  bitmap.setIfInBounds (irq / configInterruptsBitmapBitsPerWord)
    (bitmap.getD (irq / configInterruptsBitmapBitsPerWord) 0 |||
      oneBit (irq % configInterruptsBitmapBitsPerWord))

def parseInterrupt (_ : Nat) (json : Json) (config : ZoneConfig) : Zoning ZoneConfig :=
  match JsonTarget.read .size (some json) with
  | none => Zoning.fails
  | some irq =>
    if irq.toNat ≥ configMaxInterrupts then Zoning.fails
    else
      .tell (.store .interruptsBitmap (irq.toNat / configInterruptsBitmapBitsPerWord))
        (.lift (.ok { config with
          interruptsBitmap := setInterrupt config.interruptsBitmap irq.toNat }))

/-! ## 4. Inter-zone communication -/

def ivcFields : List (Field IvcConfig) :=
  [⟨"shared_mem_ipa", .linuxU64, fun v c => { c with sharedMemIpa := v }⟩,
    ⟨"control_table_ipa", .linuxU64, fun v c => { c with controlTableIpa := v }⟩,
    ⟨"rw_sec_size", .linuxU32, fun v c => { c with rwSecSize := v.toUInt32 }⟩,
    ⟨"out_sec_size", .linuxU32, fun v c => { c with outSecSize := v.toUInt32 }⟩]

def parseIvc (i : Nat) (json : Json) (config : ZoneConfig) : Zoning ZoneConfig :=
  (parseValueint .ivcConfigs i json "ivc_id").bind fun ivcId =>
    (parseValueint .ivcConfigs i json "peer_id").bind fun peerId =>
      (parseFields .ivcConfigs i json ivcFields
        { config.ivcConfigs.getD i .zero with ivcId := ivcId, peerId := peerId }).bind fun ivc =>
        (parseValueint .ivcConfigs i json "interrupt_num").bind fun interruptNum =>
          (parseValueint .ivcConfigs i json "max_peers").bind fun maxPeers =>
            .lift (.ok { config with
              ivcConfigs := config.ivcConfigs.setIfInBounds i
                { ivc with interruptNum := interruptNum, maxPeers := maxPeers } })

/-! ## 5. `parse_pci_config` -/

def pciConfigFields : List (Field PciConfig) :=
  [⟨"ecam_base", .linuxU64, fun v c => { c with ecamBase := v }⟩,
    ⟨"ecam_size", .linuxU64, fun v c => { c with ecamSize := v }⟩,
    ⟨"io_base", .linuxU64, fun v c => { c with ioBase := v }⟩,
    ⟨"io_size", .linuxU64, fun v c => { c with ioSize := v }⟩,
    ⟨"pci_io_base", .linuxU64, fun v c => { c with pciIoBase := v }⟩,
    ⟨"mem32_base", .linuxU64, fun v c => { c with mem32Base := v }⟩,
    ⟨"mem32_size", .linuxU64, fun v c => { c with mem32Size := v }⟩,
    ⟨"pci_mem32_base", .linuxU64, fun v c => { c with pciMem32Base := v }⟩,
    ⟨"mem64_base", .linuxU64, fun v c => { c with mem64Base := v }⟩,
    ⟨"mem64_size", .linuxU64, fun v c => { c with mem64Size := v }⟩,
    ⟨"pci_mem64_base", .linuxU64, fun v c => { c with pciMem64Base := v }⟩,
    ⟨"bus_range_begin", .linuxU32, fun v c => { c with busRangeBegin := v.toUInt32 }⟩,
    ⟨"bus_range_end", .linuxU32, fun v c => { c with busRangeEnd := v.toUInt32 }⟩,
    ⟨"domain", .linuxU8, fun v c => { c with domain := v.toUInt8 }⟩]

/-- All keys are looked up before the first field is parsed. -/
def parsePciBus (i : Nat) (json : Json) (config : ZoneConfig) : Zoning ZoneConfig :=
  (Zoning.require (pciConfigFields.all fun f =>
    (Json.getObjectItem (some json) f.key).isSome)).bind fun _ =>
      (parseFields .pciConfig i json pciConfigFields (config.pciConfig.getD i .zero)).bind fun bus =>
        .lift (.ok { config with pciConfig := config.pciConfig.setIfInBounds i bus })

def pciDevFields : List (Field HvPciDevConfig) :=
  [⟨"domain", .linuxU8, fun v c => { c with domain := v.toUInt8 }⟩,
    ⟨"bus", .linuxU8, fun v c => { c with bus := v.toUInt8 }⟩,
    ⟨"device", .linuxU8, fun v c => { c with device := v.toUInt8 }⟩,
    ⟨"function", .linuxU8, fun v c => { c with function := v.toUInt8 }⟩,
    ⟨"v_bus", .linuxU8, fun v c => { c with vBus := v.toUInt8 }⟩,
    ⟨"v_device", .linuxU8, fun v c => { c with vDevice := v.toUInt8 }⟩,
    ⟨"v_function", .linuxU8, fun v c => { c with vFunction := v.toUInt8 }⟩,
    ⟨"dev_type", .linuxU32, fun v c => { c with devType := v.toUInt32 }⟩]

def parsePciDev (i : Nat) (json : Json) (config : ZoneConfig) : Zoning ZoneConfig :=
  (parseFields .allocPciDevs i json pciDevFields (config.allocPciDevs.getD i .zero)).bind fun dev =>
    .lift (.ok { config with allocPciDevs := config.allocPciDevs.setIfInBounds i dev })

/-- The buses, the first half of `parse_pci_config`. -/
def parsePciBuses (root : Option Json) (config : ZoneConfig) : Zoning ZoneConfig :=
  (Zoning.require (Json.getObjectItem root "pci_config").isSome).bind fun _ =>
    (Zoning.require ((Json.itemsOf root "pci_config").length ≤ configPciBusMaxnum)).bind fun _ =>
      .forItems parsePciBus 0 (Json.itemsOf root "pci_config")
        { config with numPciBus := UInt64.ofNat (Json.itemsOf root "pci_config").length }

/-- The devices, the second half. -/
def parsePciDevs (root : Option Json) (config : ZoneConfig) : Zoning ZoneConfig :=
  .forItems parsePciDev 0 (Json.itemsOf root "alloc_pci_devs")
    { config with numPciDevs := UInt64.ofNat (Json.itemsOf root "alloc_pci_devs").length }

def parsePciConfig (root : Option Json) (config : ZoneConfig) : Zoning ZoneConfig :=
  (parsePciBuses root config).bind (parsePciDevs root)

end HvisorTool
