/-
  File:      HvisorTool/Boot/Multiboot.lean
  Subject:   THE MULTIBOOT2 LOADER (`multiboot2_prepare_zone` on x86_64): an ELF kernel, a boot
             image, a command line and an initramfs, each at a guest address.

  One offset from guest to host addresses is taken from the memory map and added to each of
  them. Files come by their path; what the driver answers is part of the environment.

  * `gpaToHpaOffset`: the offset, from the first RAM region;
  * `loadKernel`, `loadBootImage`, `loadCmdline`, `loadInitramfs`: the four payloads;
  * `multiboot2PrepareZone`: one behind the other; `none` is `return -1`.
-/
import HvisorTool.Boot.Elf
import HvisorTool.Config.ZoneConfig

namespace HvisorTool

open Library

variable [CJson]

/-- What the loader meets besides the configuration. -/
structure BootEnv where
  page : PageSize
  files : List Char → InputFile
  kernel : ElfEnv
  bootImage : LoadAnswer
  cmdline : LoadAnswer
  initramfs : LoadAnswer

/-- What the loader stores in the configuration and in `*multiboot_info_paddr`; `none` where it
    leaves a field alone. -/
structure MultibootInfo where
  kernelSize : UInt64
  kernelEntryGpa : UInt64
  multibootInfoPaddr : UInt64
  cmdlineLoadGpa : Option UInt64
  initrdLoadGpa : Option UInt64
  initrdSize : Option UInt64
  deriving DecidableEq, Repr

/-- The rest, behind code that may `return -1`. -/
def Loading.orReturn {α β : Type} (x : Loading (Option α)) (f : α → Loading (Option β)) :
    Loading (Option β) :=
  x.bind fun r =>
    match r with
    | none => .lift (.ok none)
    | some a => f a

/-- `gpa_to_hpa_offset`: of the first RAM region, where the loop breaks. -/
def gpaToHpaOffset : List MemoryRegion → UInt64
  | [] => 0
  | r :: rs => if r.type = .ram then r.physicalStart - r.virtualStart else gpaToHpaOffset rs

/-- A number that may be missing. -/
def parseOptional (item : Option Json) (default : UInt64) : Option UInt64 :=
  match item with
  | none => some default
  | some json => JsonTarget.read .linuxU64 (some json)

/-- The string under a key; `none` without a `valuestring`. -/
def stringItem (object : Option Json) (name : String) : Option (List Char) :=
  (Json.getObjectItem object name).bind Json.valuestring

section Multiboot

variable (env : BootEnv) (root : Option Json) (offset : UInt64)

/-- `load_image_to_memory` of a file by its path. -/
def loadPath (answer : LoadAnswer) (path : List Char) (loadPaddr : UInt64) : Loading UInt64 :=
  loadImageToMemory env.page answer (String.ofList path) (env.files path) loadPaddr

def loadKernel : Loading (Option ElfInfo) :=
  match stringItem root "kernel_filepath" with
  | none => .lift (.ok none)
  | some path => loadElfKernel env.kernel env.page offset (env.files path)

/-- `*multiboot_info_paddr`. -/
def multibootInfoPaddr : Option UInt64 :=
  parseOptional (Json.getObjectItem root "multiboot_info_paddr") 0x9000000

def archConfig : Option Json := Json.getObjectItem root "arch_config"

def loadBootImage : Loading (Option Unit) :=
  match stringItem (archConfig root) "boot_filepath",
    Json.getObjectItem (archConfig root) "boot_load_paddr" with
  | some path, some paddrJson =>
    match JsonTarget.read .linuxU64 (some paddrJson) with
    | none => .lift (.ok none)
    | some bootLoadPaddr =>
      (loadPath env env.bootImage path (bootLoadPaddr + offset)).bind fun _ =>
        .lift (.ok (some ()))
  | _, _ => .lift (.ok (some ()))

/-- `cmdline`. -/
def kernelCmdline : List Char := (stringItem root "kernel_cmdline").getD []

/-- The command line, and `cmdline_load_gpa` if it is stored. -/
def loadCmdline (infoPaddr : UInt64) : Loading (Option (Option UInt64)) :=
  match parseOptional (Json.getObjectItem (archConfig root) "cmdline_load_gpa") infoPaddr with
  | none => .lift (.ok none)
  | some cmdlineGpa =>
    if kernelCmdline root = [] then .lift (.ok (some none))
    else
      (loadBufferToMemory env.page env.cmdline none true (Json.bytes (kernelCmdline root) ++ [0])
        (cmdlineGpa + offset)).bind fun _ => .lift (.ok (some (some cmdlineGpa)))

/-- The initramfs, and `initrd_load_gpa` and `initrd_size` if they are stored. -/
def loadInitramfs : Loading (Option (Option (UInt64 × UInt64))) :=
  match stringItem root "initramfs_filepath", Json.getObjectItem root "initramfs_load_gpa" with
  | some path, some gpaJson =>
    if path = "null".toList then .lift (.ok (some none))
    else
      match JsonTarget.read .linuxU64 (some gpaJson) with
      | none => .lift (.ok none)
      | some initramfsGpa =>
        (loadPath env env.initramfs path (initramfsGpa + offset)).bind fun size =>
          .lift (.ok (some (some (initramfsGpa, size))))
  | _, _ => .lift (.ok (some none))

end Multiboot

/-- `multiboot2_prepare_zone`; `none` is `return -1`. -/
def multiboot2PrepareZone (env : BootEnv) (regions : List MemoryRegion) (root : Option Json) :
    Loading (Option MultibootInfo) :=
  (loadKernel env root (gpaToHpaOffset regions)).orReturn fun elf =>
    Loading.orReturn (.lift (.ok (multibootInfoPaddr root))) fun infoPaddr =>
      (loadBootImage env root (gpaToHpaOffset regions)).orReturn fun _ =>
        (loadCmdline env root (gpaToHpaOffset regions) infoPaddr).orReturn fun cmdlineGpa =>
          (loadInitramfs env root (gpaToHpaOffset regions)).orReturn fun initrd =>
            .lift (.ok (some
              { kernelSize := elf.totalSize
                kernelEntryGpa := elf.entryPoint
                multibootInfoPaddr := infoPaddr
                cmdlineLoadGpa := cmdlineGpa
                initrdLoadGpa := initrd.map Prod.fst
                initrdSize := initrd.map Prod.snd }))

end HvisorTool
