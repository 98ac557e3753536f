/-
  File:      HvisorTool/Config/ZoneStart.lean
  Subject:   `zone_start_from_json`: from a JSON description to `HVISOR_ZONE_START`.

  Of `arch_config` only what decides about success is kept: which fields must be there, and
  the images that x86_64 loads on the way.

  * `ZoneEnv`: the architecture, and what the system answers;
  * `bootModeIsMultiboot2`, `loadZone`, `parseModules`, `parseArchConfig`: what happens between
    the parsing of the arrays;
  * `parseZone`, `startZone`, `zoneStartFromJson`.
-/
import HvisorTool.Boot.Multiboot
import HvisorTool.Config.Zone

namespace HvisorTool

open Library

variable [CJson]

/-! ## 1. The environment -/

inductive Arch where
  | arm64 | riscv64 | loongarch64 | x8664
  deriving DecidableEq, Repr

/-- What the code meets besides the description. -/
structure ZoneEnv where
  arch : Arch
  /-- Files, and the answers for the multiboot loader. -/
  boot : BootEnv
  kernel : LoadAnswer
  dtb : LoadAnswer
  /-- `access(path, R_OK)`. -/
  accessible : List Char → Bool
  modules : Nat → LoadAnswer
  bootImage : LoadAnswer
  setup : LoadAnswer
  cmdline : LoadAnswer
  initrd : LoadAnswer
  /-- The device can be opened. -/
  opens : Bool
  /-- `HVISOR_GET_ECAM_BASE`; `none` if it fails. -/
  ecamBase : Option UInt64
  /-- `HVISOR_SET_BOOT_MODE` succeeds. -/
  bootModeSet : Bool
  /-- What `HVISOR_ZONE_START` returns. -/
  started : Int

/-- The JSON file of a zone. -/
inductive ZoneFile where
  /-- It cannot be opened. -/
  | missing
  /-- Nothing can be read from it. -/
  | unread
  /-- What the parser makes of its text; `none` if it is no JSON. -/
  | text (root : Option Json)

/-- The items that must be there. -/
structure ZoneItems where
  zoneId : Json
  cpus : Json
  name : Json
  memoryRegions : Json
  kernelFilepath : Json
  dtbFilepath : Json
  kernelLoadPaddr : Json
  dtbLoadPaddr : Json
  entryPoint : Json
  interrupts : Json
  ivcConfigs : Json

def zoneItems (root : Option Json) : Option ZoneItems := do
  let zoneId ← Json.getObjectItem root "zone_id"
  let cpus ← Json.getObjectItem root "cpus"
  let name ← Json.getObjectItem root "name"
  let memoryRegions ← Json.getObjectItem root "memory_regions"
  let kernelFilepath ← Json.getObjectItem root "kernel_filepath"
  let dtbFilepath ← Json.getObjectItem root "dtb_filepath"
  let kernelLoadPaddr ← Json.getObjectItem root "kernel_load_paddr"
  let dtbLoadPaddr ← Json.getObjectItem root "dtb_load_paddr"
  let entryPoint ← Json.getObjectItem root "entry_point"
  let interrupts ← Json.getObjectItem root "interrupts"
  let ivcConfigs ← Json.getObjectItem root "ivc_configs"
  return ⟨zoneId, cpus, name, memoryRegions, kernelFilepath, dtbFilepath, kernelLoadPaddr,
    dtbLoadPaddr, entryPoint, interrupts, ivcConfigs⟩

/-! ## 2. Images -/

def multiboot2Enabled (root : Option Json) : Bool :=
  match Json.getObjectItem root "multiboot_enabled" with
  | some (.bool b) => b
  | _ => false

def bootModeIsMultiboot2 (root : Option Json) : Bool :=
  match Json.getObjectItem root "boot_protocol" with
  | some (.string s) => (Json.string s).valuestring = some "multiboot2".toList
  | _ => multiboot2Enabled root

section Stages

variable (env : ZoneEnv)

/-- `load_image_to_memory(json->valuestring, loadPaddr)`. -/
def loadItem (answer : LoadAnswer) (json : Json) (loadPaddr : UInt64) : Zoning UInt64 :=
  match json.valuestring with
  | none => Zoning.segv
  | some path => (loadPath env.boot answer path loadPaddr).zoning

/-- The kernel: as the boot mode has it, or as one image. With a boot mode, also the address
    for `HVISOR_SET_BOOT_MODE`. -/
def loadZoneKernel (root : Option Json) (items : ZoneItems) (config : ZoneConfig) :
    Zoning (UInt64 × Option UInt64) :=
  if bootModeIsMultiboot2 root then
    if env.arch = .x8664 then
      (multiboot2PrepareZone env.boot
          (config.memoryRegions.toList.take config.numMemoryRegions.toNat) root).zoning.bind
        fun info =>
          match info with
          | none => Zoning.fails
          | some info => .lift (.ok (info.kernelSize, some info.multibootInfoPaddr))
    else Zoning.fails
  else
    (loadItem env env.kernel items.kernelFilepath config.kernelLoadPaddr).bind fun size =>
      .lift (.ok (size, none))

/-- The device tree, which x86_64 does without. -/
def loadDtb (items : ZoneItems) (config : ZoneConfig) : Zoning UInt64 :=
  if env.arch = .x8664 then .lift (.ok config.dtbSize)
  else loadItem env env.dtb items.dtbFilepath config.dtbLoadPaddr

/-- The body of the loop of `parse_modules`. -/
def parseModule (i : Nat) (json : Json) (_ : Unit) : Zoning Unit :=
  match stringItem (some json) "name", stringItem (some json) "filepath",
    stringItem (some json) "load_paddr" with
  | some _, some path, some _ =>
    (Zoning.require (env.accessible path)).bind fun _ =>
      match JsonTarget.read .address (Json.getObjectItem (some json) "load_paddr") with
      | none => Zoning.fails
      | some loadPaddr =>
        (loadPath env.boot (env.modules i) path loadPaddr).zoning.bind fun _ => .lift (.ok ())
  | _, _, _ => Zoning.fails

def parseModules (root : Option Json) : Zoning Unit :=
  if Json.isArray (Json.getObjectItem root "modules") then
    .forItems (parseModule env) 0 (Json.itemsOf root "modules") ()
  else .lift (.ok ())

/-! ## 3. `parse_arch_config` -/

/-- All of these fields are there and can be parsed. -/
def parseArchFields (arch : Json) (keys : List String) : Zoning Unit :=
  Zoning.require (keys.all fun key =>
    (JsonTarget.read .linuxU64 (Json.getObjectItem (some arch) key)).isSome)

def parseGic (arch : Json) (gicVersion : List Char) : Zoning Unit :=
  if gicVersion = "v2".toList then
    parseArchFields arch ["gicd_base", "gicd_size", "gicc_base", "gicc_size", "gicc_offset",
      "gich_base", "gich_size", "gicv_base", "gicv_size"]
  else if gicVersion = "v3".toList then
    (parseArchFields arch ["gicd_base", "gicd_size", "gicr_base", "gicr_size"]).bind fun _ =>
      if (Json.getObjectItem (some arch) "gits_base").isSome ∧
          (Json.getObjectItem (some arch) "gits_size").isSome then
        parseArchFields arch ["gits_base", "gits_size"]
      else .lift (.ok ())
  else Zoning.fails

def parseArm64 (arch : Json) : Zoning Unit :=
  match Json.getObjectItem (some arch) "gic_version" with
  | none => Zoning.fails
  | some gicVersionJson =>
    match gicVersionJson.valuestring with
    | none => Zoning.segv
    | some gicVersion =>
      (parseGic arch gicVersion).bind fun _ =>
        if (Json.getObjectItem (some arch) "memory_map_addr").isSome then
          parseArchFields arch ["memory_map_addr", "memory_map_size", "sys_map_addr"]
        else .lift (.ok ())

/-- An image that is loaded if its path is there: `keys` must be parsed first, the last of them
    being its address. -/
def parseArchImage (answer : LoadAnswer) (arch : Json) (pathKey : String) (keys : List String)
    (addressKey : String) : Zoning Unit :=
  match Json.getObjectItem (some arch) pathKey with
  | none => .lift (.ok ())
  | some pathJson =>
    (parseArchFields arch (keys ++ [addressKey])).bind fun _ =>
      (loadItem env answer pathJson
        ((JsonTarget.read .linuxU64 (Json.getObjectItem (some arch) addressKey)).getD 0)).bind
          fun _ => .lift (.ok ())

/-- `load_str_to_memory(json->valuestring, loadPaddr)`. -/
def loadStrItem (answer : LoadAnswer) (json : Json) (loadPaddr : UInt64) : Zoning UInt64 :=
  match json.valuestring with
  | none => Zoning.segv
  | some s =>
    (loadBufferToMemory env.boot.page answer none true (Json.bytes s ++ [0]) loadPaddr).zoning

/-- The command line of x86_64, a string. -/
def parseArchCmdline (arch : Json) : Zoning Unit :=
  match Json.getObjectItem (some arch) "cmdline" with
  | none => .lift (.ok ())
  | some cmdlineJson =>
    (parseArchFields arch ["cmdline_load_gpa", "cmdline_load_hpa"]).bind fun _ =>
      (loadStrItem env env.cmdline cmdlineJson
        ((JsonTarget.read .linuxU64 (Json.getObjectItem (some arch) "cmdline_load_hpa")).getD
          0)).bind fun _ => .lift (.ok ())

def parseX8664 (root : Option Json) (arch : Json) : Zoning Unit :=
  (parseArchFields arch (["ioapic_base", "ioapic_size"] ++
    if bootModeIsMultiboot2 root then [] else ["kernel_entry_gpa"])).bind fun _ =>
      (if bootModeIsMultiboot2 root then .lift (.ok ())
      else parseArchImage env env.bootImage arch "boot_filepath" [] "boot_load_paddr").bind fun _ =>
        (parseArchImage env env.setup arch "setup_filepath" ["setup_load_gpa"]
          "setup_load_hpa").bind fun _ =>
          (parseArchCmdline env arch).bind fun _ =>
            (parseArchImage env env.initrd arch "initrd_filepath" ["initrd_load_gpa"]
              "initrd_load_hpa").bind fun _ =>
              parseArchFields arch ["rsdp_memory_region_id", "acpi_memory_region_id",
                "uefi_memory_region_id", "screen_base"]

/-- `parse_arch_config`, which LoongArch does not call. -/
def parseArchConfig (root : Option Json) : Zoning Unit :=
  if env.arch = .loongarch64 then .lift (.ok ())
  else
    match archConfig root with
    | none => Zoning.fails
    | some arch =>
      match env.arch with
      | .arm64 => parseArm64 arch
      | .riscv64 => parseArchFields arch ["plic_base", "plic_size", "aplic_base", "aplic_size"]
      | .x8664 => parseX8664 env root arch
      | .loongarch64 => .lift (.ok ())

/-! ## 4. `zone_start_from_json` -/

def parseIvcConfigs (items : ZoneItems) (config : ZoneConfig) : Zoning ZoneConfig :=
  (Zoning.require (items.ivcConfigs.children.length ≤ configMaxIvcConfigs)).bind fun _ =>
    .forItems parseIvc 0 items.ivcConfigs.children
      { config with numIvcConfigs := UInt32.ofNat items.ivcConfigs.children.length }

/-- `entry_point`, `kernel_load_paddr` and `dtb_load_paddr`. -/
def parseEntries (items : ZoneItems) (config : ZoneConfig) : Zoning ZoneConfig :=
  match JsonTarget.read .linuxU64 (some items.entryPoint),
    JsonTarget.read .linuxU64 (some items.kernelLoadPaddr),
    JsonTarget.read .linuxU64 (some items.dtbLoadPaddr) with
  | some entryPoint, some kernelLoadPaddr, some dtbLoadPaddr =>
    .lift (.ok { config with
      entryPoint := entryPoint, kernelLoadPaddr := kernelLoadPaddr, dtbLoadPaddr := dtbLoadPaddr })
  | _, _, _ => Zoning.fails

/-- The arrays of `zone_start_from_json` itself. -/
def parseArrays (items : ZoneItems) (config : ZoneConfig) : Zoning ZoneConfig :=
  (Zoning.require (items.memoryRegions.children.length ≤ configMaxMemoryRegions ∧
    items.interrupts.children.length ≤ configMaxInterrupts)).bind fun _ =>
      (Traced.forItems parseRegion 0 items.memoryRegions.children
        { config with numMemoryRegions := UInt32.ofNat items.memoryRegions.children.length }).bind
        fun config =>
          (Traced.forItems parseInterrupt 0 items.interrupts.children
            { config with interruptsBitmap := .replicate _ 0 }).bind fun config =>
              parseIvcConfigs items config

/-- `strncpy(config->name, bytes, CONFIG_NAME_MAXLEN)`. -/
def copyName (bytes : List UInt8) : Vector UInt8 configNameMaxlen := .ofFn fun i => bytes.getD i 0

def parseName (items : ZoneItems) (config : ZoneConfig) : Zoning ZoneConfig :=
  match items.name.valuestring with
  | none => Zoning.segv
  | some name =>
    if (Json.bytes name).length > configNameMaxlen then Zoning.fails
    else .lift (.ok { config with name := copyName (Json.bytes name) })

/-- The images, between the arrays and the name; `kernel_size` and `dtb_size`. -/
def loadZone (root : Option Json) (items : ZoneItems) (config : ZoneConfig) :
    Zoning (ZoneConfig × Option UInt64) :=
  (loadZoneKernel env root items config).bind fun kernel =>
    (loadDtb env items config).bind fun dtbSize =>
      (parseModules env root).bind fun _ =>
        .lift (.ok ({ config with kernelSize := kernel.1, dtbSize := dtbSize }, kernel.2))

/-- All that is parsed and loaded before `parse_pci_config`. -/
def parseZone (root : Option Json) (items : ZoneItems) (config : ZoneConfig) :
    Zoning (ZoneConfig × Option UInt64) :=
  (Traced.forItems parseCpu 0 items.cpus.children config.cpus).bind fun cpus =>
    (parseArrays items { config with zoneId := UInt32.ofInt items.zoneId.valueint, cpus := cpus }).bind
      fun config =>
        (parseEntries items config).bind fun config =>
          (loadZone env root items config).bind fun loaded =>
            (parseName items loaded.1).bind fun config =>
              (parseArchConfig env root).bind fun _ => .lift (.ok (config, loaded.2))

/-- `zone_apply_dynamic_ecam`. -/
def zoneApplyDynamicEcam (config : ZoneConfig) : Zoning ZoneConfig :=
  if config.numPciBus = 0 then .lift (.ok config)
  else
    match env.ecamBase with
    | none => Zoning.fails
    | some ecamBase =>
      if ecamBase = 0 ∨ (config.pciConfig.getD 0 .zero).ecamBase = ecamBase then .lift (.ok config)
      else
        .tell (.store .pciConfig 0) (.lift (.ok { config with
          pciConfig := config.pciConfig.setIfInBounds 0
            { config.pciConfig.getD 0 .zero with ecamBase := ecamBase } }))

/-- `boot_mode_apply`. -/
def bootModeApply (config : ZoneConfig) (multibootInfoPaddr : Option UInt64) : Zoning Unit :=
  match multibootInfoPaddr with
  | none => .lift (.ok ())
  | some paddr => .tell (.setBootMode config.zoneId paddr) (Zoning.require env.bootModeSet)

/-- From the open device on. -/
def startZone (config : ZoneConfig) (multibootInfoPaddr : Option UInt64) : Zoning Int :=
  (if env.opens then .lift (.ok ()) else .lift (.error (.file .exit)) : Zoning Unit).bind fun _ =>
    (zoneApplyDynamicEcam env config).bind fun config =>
      (bootModeApply env config multibootInfoPaddr).bind fun _ =>
        .tell (.zoneStart config) (.lift (.ok env.started))

/-- `zone_start_from_json`; a value is what `HVISOR_ZONE_START` returns. -/
def zoneStartFromJson (file : ZoneFile) (config : ZoneConfig) : Zoning Int :=
  match file with
  | .missing => .lift (.error (.file .exit))
  | .unread => Zoning.fails
  | .text root =>
    match zoneItems root with
    | none => Zoning.fails
    | some items =>
      (parseZone env root items config).bind fun zone =>
        (parsePciConfig root zone.1).bind fun config => startZone env config zone.2

end Stages

end HvisorTool
