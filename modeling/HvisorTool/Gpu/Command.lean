/-
  File:      HvisorTool/Gpu/Command.lean
  Subject:   THE COMMANDS OF THE GPU DEVICE: resources, scanouts and frame buffers.

  The device keeps a list of resources (pictures with a backing store in guest memory),
  an array of scanouts (outputs, each with a frame buffer), and a total of the memory the
  resources stand for. A command is a struct in the buffers of its chain; the worker reads
  its header, then the struct of its type, and answers with a response type.

  * `GPUState`: the part of `GPUDev` that commands work on;
  * `GPUEnv`: what a command reads from outside: guest memory at each of its reads, the
    allocator's and the DRM device's answers;
  * `virtioGpuResourceCreate2d`, …: the handlers, under the source's names. A division by
    zero and an access through `NULL` are faults of their own (`GPUFault`);
  * `virtioGpuSimpleProcessCmd`: the dispatcher;
  * `gpuMachine`: commands and device resets in sequence, with the calls to the DRM device.
-/
import HvisorTool.Gpu.Mapping
import HvisorTool.Library.Bits
import HvisorTool.Library.Machine
import HvisorTool.Library.Table

namespace HvisorTool

open Library

/-! ## 1. The device -/

/-- `HVISOR_VIRTIO_GPU_MAX_SCANOUTS`. -/
def hvisorVirtioGpuMaxScanouts : Nat := 1

/-- An index of `scanouts`. -/
abbrev ScanoutId := Fin hvisorVirtioGpuMaxScanouts

def firstScanout : ScanoutId := ⟨0, Nat.zero_lt_one⟩

/-- `VIRTIO_GPU_MAX_HOSTMEM`. -/
def virtioGpuMaxHostmem : UInt64 := 536870912

/-- `struct virtio_gpu_rect`. -/
structure VirtioGpuRect where
  x : UInt32
  y : UInt32
  width : UInt32
  height : UInt32
  deriving DecidableEq, Repr

/-- `GPUSimpleResource`; `none` is an `iov` of `NULL`. -/
structure GPUSimpleResource where
  resourceId : UInt32
  width : UInt32
  height : UInt32
  format : UInt32
  iov : Option (List Iovec)
  iovCnt : Nat
  hostmem : UInt64
  scanoutBitmask : UInt32
  transferRect : VirtioGpuRect
  transferOffset : UInt64
  deriving DecidableEq, Repr

/-- `GPUFrameBuffer`; `fbAddr` is 0 for `NULL`. -/
structure GPUFrameBuffer where
  fbId : UInt32
  format : UInt32
  bytesPp : UInt32
  width : UInt32
  height : UInt32
  stride : UInt32
  offset : UInt32
  drmDumbSize : UInt32
  drmDumbHandle : UInt32
  fbAddr : UInt64
  enabled : Bool
  deriving DecidableEq, Repr

/-- `GPUFrameBuffer fb = {0}`. -/
def GPUFrameBuffer.zero : GPUFrameBuffer := ⟨0, 0, 0, 0, 0, 0, 0, 0, 0, 0, false⟩

/-- `GPUScanout`, without its cursor and the DRM objects it is drawn through. -/
structure GPUScanout where
  width : UInt32
  height : UInt32
  x : UInt32
  y : UInt32
  resourceId : UInt32
  frameBuffer : GPUFrameBuffer
  deriving DecidableEq, Repr

/-- `GPURequestedState`, the size. -/
structure GPURequestedState where
  width : UInt32
  height : UInt32
  deriving DecidableEq, Repr

/-- The part of `GPUDev` that commands work on. -/
structure GPUState where
  scanouts : ScanoutId → GPUScanout
  requestedStates : ScanoutId → GPURequestedState
  resourceList : List GPUSimpleResource
  scanoutsNum : Nat
  hostmem : UInt64
  enabledScanoutBitmask : UInt32
  /-- No loop or check against `scanouts_num` leaves the array. -/
  scanoutsNum_le : scanoutsNum ≤ hvisorVirtioGpuMaxScanouts

/-- `1 << i`. -/
def scanoutBit (i : ScanoutId) : UInt32 := oneBit i.val

/-- `res->scanout_bitmask & (1 << i)`. -/
def GPUSimpleResource.onScanout (res : GPUSimpleResource) (i : ScanoutId) : Bool :=
  res.scanoutBitmask &&& scanoutBit i != 0

/-- `res->scanout_bitmask &= ~(1 << i)`. -/
def GPUSimpleResource.unbind (i : ScanoutId) (res : GPUSimpleResource) : GPUSimpleResource :=
  { res with scanoutBitmask := res.scanoutBitmask &&& ~~~scanoutBit i }

/-- `res->scanout_bitmask |= (1 << i)`. -/
def GPUSimpleResource.bind (i : ScanoutId) (res : GPUSimpleResource) : GPUSimpleResource :=
  { res with scanoutBitmask := res.scanoutBitmask ||| scanoutBit i }

/-- `init_gpu_dev`. The scanouts are zeroed but for the default size of the first. -/
def initGpuDev (requested : GPURequestedState) : GPUState :=
  { scanouts := fun i => if i.val = 0 then ⟨1280, 800, 0, 0, 0, .zero⟩ else ⟨0, 0, 0, 0, 0, .zero⟩
    requestedStates := fun i => if i.val = 0 then requested else ⟨0, 0⟩
    resourceList := []
    scanoutsNum := 1
    hostmem := 0
    enabledScanoutBitmask := 1
    scanoutsNum_le := by decide }

/-- `virtio_gpu_init`: the first scanout takes the size of the connector's first mode. -/
def virtioGpuInit (mode : GPURequestedState) (dev : GPUState) : GPUState :=
  { dev with
    scanouts := fun i =>
      if i.val = 0 then { dev.scanouts i with width := mode.width, height := mode.height }
      else dev.scanouts i }

/-- `virtio_gpu_reset`. -/
def virtioGpuReset (dev : GPUState) : GPUState :=
  { dev with
    scanouts := fun i =>
      if i.val < dev.scanoutsNum then
        { dev.scanouts i with resourceId := 0, width := 0, height := 0, x := 0, y := 0 }
      else dev.scanouts i }

/-! ## 2. What a command meets outside the device -/

/-- `struct drm_mode_create_dumb`, as `DRM_IOCTL_MODE_CREATE_DUMB` fills it. -/
structure DrmDumb where
  handle : UInt32
  pitch : UInt32
  size : UInt64
  deriving DecidableEq, Repr

/-- The answers of the DRM device to the calls for a scanout: `none` for an error, and 0 for a
    mapping at `NULL`. `setCrtc` is whether `drmModeSetCrtc` succeeds; no branch of the code
    depends on it. -/
structure DrmAnswers where
  createDumb : Option DrmDumb
  mapDumb : Option UInt64
  addFB : Option UInt32
  mmap : UInt64
  setCrtc : Bool
  deriving DecidableEq, Repr

/-- What a command reads from outside the device. The guest may write between its reads. -/
structure GPUEnv where
  zones : ZoneTable
  zoneId : UInt32
  hdrMem : Mem
  cmdMem : Mem
  entriesMem : Mem
  imageMem : Mem
  callocOk : Bool
  reallocOk : Nat → Bool
  drm : ScanoutId → DrmAnswers

/-- A copy into a frame buffer. -/
structure FbCopy where
  dstOffset : UInt32
  bytes : List UInt8
  deriving DecidableEq, Repr

/-- The calls to the DRM device: those that took effect, and every `drmModeSetCrtc` with the
    copies before it. Whether the picture is on the screen after that one is its answer. -/
inductive DrmCall where
  | createDumb (width height bpp handle : UInt32)
  | addFB (width height pitch handle fbId : UInt32)
  | setCrtc (scanout : ScanoutId) (fbId : UInt32) (copies : List FbCopy)
  | rmFB (fbId : UInt32)
  | destroyDumb (handle : UInt32)
  deriving DecidableEq, Repr

/-- How processing a command can end the daemon. -/
inductive GPUFault where
  | access (e : ChainError)
  | divByZero
  deriving DecidableEq, Repr

/-- The values of `enum virtio_gpu_ctrl_type` that commands set as `error`. -/
inductive GPUError where
  | unspec
  | invalidScanoutId
  | invalidResourceId
  | invalidParameter
  deriving DecidableEq, Repr

/-- The response types. -/
inductive GPUResponseType where
  | okNodata
  | okDisplayInfo
  | err (e : GPUError)
  deriving DecidableEq, Repr

def GPUResponseType.code : GPUResponseType → UInt32
  | .okNodata => 0x1100
  | .okDisplayInfo => 0x1101
  | .err .unspec => 0x1200
  | .err .invalidScanoutId => 0x1202
  | .err .invalidResourceId => 0x1203
  | .err .invalidParameter => 0x1205

/-- What a handler leaves: the device, `gcmd->error` and its calls to the DRM device. -/
structure GPUResult where
  dev : GPUState
  error : Option GPUError
  calls : List DrmCall

/-- A return with no error set. -/
def GPUState.done (dev : GPUState) : GPUResult := ⟨dev, none, []⟩

/-- A return with an error set and nothing changed. -/
def GPUState.fails (dev : GPUState) (e : GPUError) : GPUResult := ⟨dev, some e, []⟩

/-- A copy from guest memory, its faults as faults of the command. -/
def accessing {α : Type} : Except ChainError α → Except GPUFault α
  | .ok a => .ok a
  | .error e => .error (.access e)

theorem accessing_ok {α : Type} {x : Except ChainError α} {a : α} (h : accessing x = .ok a) :
    x = .ok a := by
  cases x with
  | ok b =>
    cases h
    rfl
  | error e => cases h

/-- `VIRTIO_GPU_FILL_CMD`: `none` is its early return. -/
def virtioGpuFillCmd {α : Type} (mem : Mem) (iov : List Iovec) (size : Nat) (read : Mem → α) :
    Except GPUFault (Option α) := do
  let buf ← accessing (iovToBufFull mem iov 0 size)
  .ok (if buf.length ≠ size then none else some (read (bufMem buf)))

/-- A handler from its `VIRTIO_GPU_FILL_CMD` on. -/
def fillThen {α : Type} (mem : Mem) (iov : List Iovec) (size : Nat) (read : Mem → α)
    (dev : GPUState) (act : α → Except GPUFault GPUResult) : Except GPUFault GPUResult := do
  match ← virtioGpuFillCmd mem iov size read with
  | none => .ok dev.done
  | some cmd => act cmd

def VirtioGpuRect.read (mem : Mem) (a : UInt64) : VirtioGpuRect :=
  ⟨readU32 mem a, readU32 mem (a + 4), readU32 mem (a + 8), readU32 mem (a + 12)⟩

/-- The check of a rectangle against a size that `resource_flush` and `transfer_to_host_2d`
    share; the sums wrap. -/
def VirtioGpuRect.outside (r : VirtioGpuRect) (width height : UInt32) : Bool :=
  r.x > width || r.y > height || r.width > width || r.height > height ||
    r.x + r.width > width || r.y + r.height > height

/-! ## 3. Resources -/

/-- `virtio_gpu_find_resource`. -/
def virtioGpuFindResource (dev : GPUState) (resourceId : UInt32) : Option GPUSimpleResource :=
  Table.find GPUSimpleResource.resourceId resourceId dev.resourceList

/-- A store through the pointer that `virtio_gpu_find_resource` returned. -/
def GPUState.modifyResource (dev : GPUState) (resourceId : UInt32)
    (f : GPUSimpleResource → GPUSimpleResource) : GPUState :=
  { dev with
    resourceList := Table.update GPUSimpleResource.resourceId resourceId f dev.resourceList }

/-- `!res->iov || res->hostmem <= 0`. -/
def GPUSimpleResource.unbacked (res : GPUSimpleResource) : Bool :=
  res.iov.isNone || res.hostmem == 0

/-- `virtio_gpu_check_resource`: the resource, or the error it sets. -/
def virtioGpuCheckResource (dev : GPUState) (resourceId : UInt32) :
    Except GPUError GPUSimpleResource :=
  match virtioGpuFindResource dev resourceId with
  | none => .error .invalidResourceId
  | some res => if res.unbacked then .error .unspec else .ok res

/-- `calc_image_hostmem`. -/
def calcImageHostmem (bitsPerPixel width height : UInt32) : UInt32 :=
  let stride := ((width * bitsPerPixel + 0x1f) >>> 5) * 4
  height * stride

/-- `struct virtio_gpu_resource_create_2d`, behind its header. -/
structure ResourceCreate2d where
  resourceId : UInt32
  format : UInt32
  width : UInt32
  height : UInt32
  deriving DecidableEq, Repr

def ResourceCreate2d.read (mem : Mem) : ResourceCreate2d :=
  ⟨readU32 mem 24, readU32 mem 28, readU32 mem 32, readU32 mem 36⟩

/-- The resource that `create_2d` asks for. -/
def ResourceCreate2d.resource (c : ResourceCreate2d) : GPUSimpleResource :=
  { resourceId := c.resourceId, width := c.width, height := c.height, format := c.format
    iov := none, iovCnt := 0
    hostmem := (calcImageHostmem 32 c.width c.height).toUInt64
    scanoutBitmask := 0, transferRect := ⟨0, 0, 0, 0⟩, transferOffset := 0 }

/-- The body of `virtio_gpu_resource_create_2d`. A resource that does not fit is dropped
    with no error set; a failed `calloc` is written through. -/
def resourceCreate2d (env : GPUEnv) (dev : GPUState) (c : ResourceCreate2d) :
    Except GPUFault GPUResult :=
  if c.resourceId = 0 then .ok (dev.fails .invalidResourceId)
  else
    match virtioGpuFindResource dev c.resourceId with
    | some _ => .ok (dev.fails .invalidResourceId)
    | none =>
      if !env.callocOk then .error (.access .segv)
      else if c.resource.hostmem + dev.hostmem ≥ virtioGpuMaxHostmem then .ok dev.done
      else
        .ok { dev with
          resourceList := c.resource :: dev.resourceList
          hostmem := dev.hostmem + c.resource.hostmem : GPUState }.done

/-- `virtio_gpu_resource_create_2d`. -/
def virtioGpuResourceCreate2d (env : GPUEnv) (iov : List Iovec) (dev : GPUState) :
    Except GPUFault GPUResult :=
  fillThen env.cmdMem iov 40 ResourceCreate2d.read dev (resourceCreate2d env dev)

/-- `virtio_gpu_disable_scanout`. -/
def virtioGpuDisableScanout (dev : GPUState) (i : ScanoutId) : GPUState :=
  let scanout := dev.scanouts i
  if scanout.resourceId = 0 then dev
  else
    { dev.modifyResource scanout.resourceId (.unbind i) with
      scanouts := Function.update dev.scanouts i
        { scanout with resourceId := 0, width := 0, height := 0 } }

/-- The loop of `virtio_gpu_resource_destory`. Disabling a scanout clears its own bit
    only, so the mask at the start tells which scanouts are disabled. -/
def disableScanouts (res : GPUSimpleResource) (dev : GPUState) : GPUState :=
  (List.finRange hvisorVirtioGpuMaxScanouts).foldl
    (fun dev i => if res.onScanout i then virtioGpuDisableScanout dev i else dev) dev

/-- `virtio_gpu_resource_destory`. -/
def virtioGpuResourceDestory (dev : GPUState) (res : GPUSimpleResource) : GPUState :=
  let dev := if res.scanoutBitmask ≠ 0 then disableScanouts res dev else dev
  { dev with
    resourceList := Table.remove GPUSimpleResource.resourceId res.resourceId dev.resourceList
    hostmem := dev.hostmem - res.hostmem }

/-- The body of `virtio_gpu_resource_unref`. -/
def resourceUnref (dev : GPUState) (resourceId : UInt32) : Except GPUFault GPUResult :=
  match virtioGpuFindResource dev resourceId with
  | none => .ok (dev.fails .invalidResourceId)
  | some res => .ok (virtioGpuResourceDestory dev res).done

/-- `virtio_gpu_resource_unref`. -/
def virtioGpuResourceUnref (env : GPUEnv) (iov : List Iovec) (dev : GPUState) :
    Except GPUFault GPUResult :=
  fillThen env.cmdMem iov 32 (readU32 · 24) dev (resourceUnref dev)

/-! ## 4. Backing store and transfers -/

/-- `struct virtio_gpu_resource_attach_backing`, behind its header. -/
structure ResourceAttachBacking where
  resourceId : UInt32
  nrEntries : UInt32
  deriving DecidableEq, Repr

def ResourceAttachBacking.read (mem : Mem) : ResourceAttachBacking :=
  ⟨readU32 mem 24, readU32 mem 28⟩

/-- The body of `virtio_gpu_resource_attach_backing`. With no entries the mapping is left
    at `NULL`, and a mapping that fails is set back to it with `iov_cnt` as it was. -/
def resourceAttachBacking (env : GPUEnv) (iov : List Iovec) (dev : GPUState)
    (c : ResourceAttachBacking) : Except GPUFault GPUResult :=
  match virtioGpuFindResource dev c.resourceId with
  | none => .ok (dev.fails .invalidResourceId)
  | some res =>
    if res.iov.isSome then .ok (dev.fails .unspec)
    else do
      match ← accessing (createMappingIov env.zones env.entriesMem env.zoneId iov c.nrEntries 32
          env.reallocOk) with
      | none => .ok (dev.fails .unspec)
      | some entries =>
        .ok (dev.modifyResource c.resourceId fun res =>
          { res with
            iov := if entries = [] then none else some entries
            iovCnt := entries.length }).done

/-- `virtio_gpu_resource_attach_backing`. -/
def virtioGpuResourceAttachBacking (env : GPUEnv) (iov : List Iovec) (dev : GPUState) :
    Except GPUFault GPUResult :=
  fillThen env.cmdMem iov 32 ResourceAttachBacking.read dev (resourceAttachBacking env iov dev)

/-- `virtio_gpu_cleanup_mapping`. -/
def virtioGpuCleanupMapping (res : GPUSimpleResource) : GPUSimpleResource :=
  { res with iov := none, iovCnt := 0 }

/-- The body of `virtio_gpu_resource_detach_backing`. -/
def resourceDetachBacking (dev : GPUState) (resourceId : UInt32) : Except GPUFault GPUResult :=
  match virtioGpuCheckResource dev resourceId with
  | .error e => .ok (dev.fails e)
  | .ok _ => .ok (dev.modifyResource resourceId virtioGpuCleanupMapping).done

/-- `virtio_gpu_resource_detach_backing`. -/
def virtioGpuResourceDetachBacking (env : GPUEnv) (iov : List Iovec) (dev : GPUState) :
    Except GPUFault GPUResult :=
  fillThen env.cmdMem iov 32 (readU32 · 24) dev (resourceDetachBacking dev)

/-- `struct virtio_gpu_transfer_to_host_2d`, behind its header. -/
structure TransferToHost2d where
  r : VirtioGpuRect
  offset : UInt64
  resourceId : UInt32
  deriving DecidableEq, Repr

def TransferToHost2d.read (mem : Mem) : TransferToHost2d :=
  ⟨.read mem 24, readU64 mem 40, readU32 mem 48⟩

/-- The body of `virtio_gpu_transfer_to_host_2d`: the copy itself waits for a flush. -/
def transferToHost2d (dev : GPUState) (c : TransferToHost2d) : Except GPUFault GPUResult :=
  match virtioGpuCheckResource dev c.resourceId with
  | .error e => .ok (dev.fails e)
  | .ok res =>
    if c.r.outside res.width res.height then .ok (dev.fails .invalidParameter)
    else
      .ok (dev.modifyResource c.resourceId fun res =>
        { res with transferRect := c.r, transferOffset := c.offset }).done

/-- `virtio_gpu_transfer_to_host_2d`. -/
def virtioGpuTransferToHost2d (env : GPUEnv) (iov : List Iovec) (dev : GPUState) :
    Except GPUFault GPUResult :=
  fillThen env.cmdMem iov 56 TransferToHost2d.read dev (transferToHost2d dev)

/-! ## 5. Scanouts -/

/-- `res->hostmem / res->height`, kept in 32 bits. -/
def rowStride (res : GPUSimpleResource) : Except GPUFault UInt32 :=
  if res.height = 0 then .error .divByZero
  else .ok (res.hostmem / res.height.toUInt64).toUInt32

/-- `struct virtio_gpu_set_scanout`, behind its header. -/
structure SetScanout where
  r : VirtioGpuRect
  scanoutId : UInt32
  resourceId : UInt32
  deriving DecidableEq, Repr

def SetScanout.read (mem : Mem) : SetScanout := ⟨.read mem 24, readU32 mem 40, readU32 mem 44⟩

/-- `virtio_gpu_update_scanout`: the resource bound before is looked up by its id. -/
def virtioGpuUpdateScanout (dev : GPUState) (i : ScanoutId) (fb : GPUFrameBuffer)
    (res : GPUSimpleResource) (r : VirtioGpuRect) : GPUState :=
  { (dev.modifyResource (dev.scanouts i).resourceId (.unbind i)).modifyResource
      res.resourceId (.bind i) with
    scanouts := Function.update dev.scanouts i
      { resourceId := res.resourceId, x := r.x, y := r.y, width := r.width, height := r.height
        frameBuffer := fb } }

/-- The check of `virtio_gpu_do_set_scanout`; `r->y` is compared with the width. -/
def VirtioGpuRect.offScanout (r : VirtioGpuRect) (width height : UInt32) : Bool :=
  r.x > width || r.y > width || r.width < 16 || r.height < 16 || r.width > width ||
    r.height > height || r.x + r.width > width || r.y + r.height > height

/-- `virtio_gpu_do_set_scanout`. -/
def virtioGpuDoSetScanout (dev : GPUState) (i : ScanoutId) (fb : GPUFrameBuffer)
    (res : GPUSimpleResource) (r : VirtioGpuRect) : GPUResult :=
  if r.offScanout fb.width fb.height then dev.fails .invalidParameter
  else (virtioGpuUpdateScanout dev i fb res r).done

/-- The frame buffer that `set_scanout` describes for a resource. -/
def scanoutFrameBuffer (res : GPUSimpleResource) (stride : UInt32) (r : VirtioGpuRect) :
    GPUFrameBuffer :=
  { GPUFrameBuffer.zero with
    format := res.format, bytesPp := 4, width := res.width, height := res.height, stride := stride
    offset := r.x * 4 + r.y * stride }

/-- The body of `virtio_gpu_set_scanout`. -/
def setScanout (dev : GPUState) (c : SetScanout) : Except GPUFault GPUResult :=
  if h : c.scanoutId.toNat < dev.scanoutsNum then
    match virtioGpuCheckResource dev c.resourceId with
    | .error e => .ok (dev.fails e)
    | .ok res => do
        let stride ← rowStride res
        .ok (virtioGpuDoSetScanout dev ⟨c.scanoutId.toNat, h.trans_le dev.scanoutsNum_le⟩
          (scanoutFrameBuffer res stride c.r) res c.r)
  else .ok (dev.fails .invalidScanoutId)

/-- `virtio_gpu_set_scanout`. -/
def virtioGpuSetScanout (env : GPUEnv) (iov : List Iovec) (dev : GPUState) :
    Except GPUFault GPUResult :=
  fillThen env.cmdMem iov 48 SetScanout.read dev (setScanout dev)

/-! ## 6. Frame buffers -/

/-- `virtio_gpu_remove_drm_framebuffer`. In its first branch the source logs with a format that
    lacks its argument; the model takes that call to return, as every other log call. -/
def virtioGpuRemoveDrmFramebuffer (fb : GPUFrameBuffer) : GPUFrameBuffer × List DrmCall :=
  if !fb.enabled || fb.fbAddr == 0 then (fb, [])
  else
    ({ fb with fbId := 0, drmDumbHandle := 0, drmDumbSize := 0, fbAddr := 0, enabled := false },
      [.rmFB fb.fbId, .destroyDumb fb.drmDumbHandle])

/-- `virtio_gpu_create_drm_framebuffer`: the frame buffer, the error it sets, its calls. -/
def virtioGpuCreateDrmFramebuffer (drm : DrmAnswers) (fb : GPUFrameBuffer) :
    GPUFrameBuffer × Option GPUError × List DrmCall :=
  if fb.enabled then (fb, none, [])
  else
    match drm.createDumb with
    | none => (fb, some .unspec, [])
    | some dumb =>
      let created := DrmCall.createDumb fb.width fb.height (fb.bytesPp * 8) dumb.handle
      match drm.mapDumb with
      | none =>
        let removed := virtioGpuRemoveDrmFramebuffer fb
        (removed.1, some .unspec, created :: removed.2)
      | some _ =>
        match drm.addFB with
        | none => (fb, some .unspec, [created])
        | some fbId =>
          let added := DrmCall.addFB fb.width fb.height dumb.pitch dumb.handle fbId
          if drm.mmap = 0 then
            let removed := virtioGpuRemoveDrmFramebuffer fb
            (removed.1, some .unspec, created :: added :: removed.2)
          else
            ({ fb with
                fbId := fbId, drmDumbHandle := dumb.handle
                drmDumbSize := dumb.size.toUInt32, fbAddr := drm.mmap, enabled := true },
              none, [created, added])

/-- `MAP_FAILED`, which is not `NULL`. -/
def mapFailed : UInt64 := 0xffffffffffffffff

/-- One `iov_to_buf` into the frame buffer. -/
def copyToFb (env : GPUEnv) (fb : GPUFrameBuffer) (res : GPUSimpleResource)
    (srcOffset dstOffset len : UInt32) : Except GPUFault FbCopy := do
  let bytes ← accessing (iovToBufFull env.imageMem (res.iov.getD []) srcOffset.toNat len.toNat)
  if fb.fbAddr = mapFailed ∧ bytes ≠ [] then .error (.access .segv)
  else .ok ⟨dstOffset, bytes⟩

/-- The copies of `virtio_gpu_copy_and_flush`: row by row, or the whole rectangle at once. -/
def copyRect (env : GPUEnv) (fb : GPUFrameBuffer) (res : GPUSimpleResource) (stride : UInt32) :
    Except GPUFault (List FbCopy) :=
  let rect := res.transferRect
  if rect.x ≠ 0 ∨ rect.width ≠ res.width then
    (List.range rect.height.toNat).mapM fun h =>
      copyToFb env fb res (res.transferOffset.toUInt32 + stride * UInt32.ofNat h)
        ((rect.y + UInt32.ofNat h) * stride + rect.x * 32) (rect.width * 32)
  else do
    let copy ← copyToFb env fb res res.transferOffset.toUInt32 (rect.y * stride + rect.x * 32)
      (stride * rect.height)
    .ok [copy]

/-- `virtio_gpu_copy_and_flush`: the error it sets and its calls. The answer of
    `drmModeSetCrtc` is dropped. -/
def virtioGpuCopyAndFlush (env : GPUEnv) (i : ScanoutId) (fb : GPUFrameBuffer)
    (res : GPUSimpleResource) : Except GPUFault (Option GPUError × List DrmCall) :=
  if res.unbacked then .ok (some .unspec, [])
  else if !fb.enabled || fb.fbAddr == 0 then .ok (some .unspec, [])
  else do
    let stride ← rowStride res
    let copies ← copyRect env fb res stride
    .ok (none, [.setCrtc i fb.fbId copies])

/-- `scanouts[i].frame_buffer`, replaced. -/
def GPUState.setFrameBuffer (dev : GPUState) (i : ScanoutId) (fb : GPUFrameBuffer) : GPUState :=
  { dev with
    scanouts := Function.update dev.scanouts i { dev.scanouts i with frameBuffer := fb } }

/-- One pass of the loop of `virtio_gpu_resource_flush`; `false` is its `return`. An error
    stays set until the command ends. -/
def flushScanout (env : GPUEnv) (res : GPUSimpleResource) (i : ScanoutId) (r : GPUResult) :
    Except GPUFault (GPUResult × Bool) :=
  if !res.onScanout i then .ok (r, true)
  else
    let made := virtioGpuCreateDrmFramebuffer (env.drm i) (r.dev.scanouts i).frameBuffer
    let r' : GPUResult := ⟨r.dev.setFrameBuffer i made.1, made.2.1.or r.error, r.calls ++ made.2.2⟩
    if !(r.dev.scanouts i).frameBuffer.enabled && r'.error.isSome then .ok (r', false)
    else do
      let drawn ← virtioGpuCopyAndFlush env i made.1 res
      .ok (⟨r'.dev, drawn.1.or r'.error, r'.calls ++ drawn.2⟩, true)

/-- The loop of `virtio_gpu_resource_flush`. -/
def flushScanouts (env : GPUEnv) (res : GPUSimpleResource) :
    List ScanoutId → GPUResult → Except GPUFault GPUResult
  | [], r => .ok r
  | i :: is, r => do
      let (r, goOn) ← flushScanout env res i r
      if goOn then flushScanouts env res is r else .ok r

/-- `struct virtio_gpu_resource_flush`, behind its header. -/
structure ResourceFlush where
  r : VirtioGpuRect
  resourceId : UInt32
  deriving DecidableEq, Repr

def ResourceFlush.read (mem : Mem) : ResourceFlush := ⟨.read mem 24, readU32 mem 40⟩

/-- The body of `virtio_gpu_resource_flush`. -/
def resourceFlush (env : GPUEnv) (dev : GPUState) (c : ResourceFlush) :
    Except GPUFault GPUResult :=
  match virtioGpuCheckResource dev c.resourceId with
  | .error e => .ok (dev.fails e)
  | .ok res =>
    if c.r.outside res.width res.height then .ok (dev.fails .invalidParameter)
    else flushScanouts env res (List.finRange hvisorVirtioGpuMaxScanouts) dev.done

/-- `virtio_gpu_resource_flush`. -/
def virtioGpuResourceFlush (env : GPUEnv) (iov : List Iovec) (dev : GPUState) :
    Except GPUFault GPUResult :=
  fillThen env.cmdMem iov 48 ResourceFlush.read dev (resourceFlush env dev)

/-- The DRM side of `virtio_gpu_close`: the frame buffer of each scanout is removed. -/
def virtioGpuClose (dev : GPUState) : List DrmCall :=
  (List.finRange hvisorVirtioGpuMaxScanouts).flatMap fun i =>
    if i.val < dev.scanoutsNum then (virtioGpuRemoveDrmFramebuffer (dev.scanouts i).frameBuffer).2
    else []

/-! ## 7. The dispatcher -/

/-- A response: its type, and what follows the header. -/
structure GPUResponse where
  type : GPUResponseType
  data : List UInt8
  deriving DecidableEq, Repr

/-- The struct that is copied to the guest; the rest of the header is 0. -/
def GPUResponse.bytes (resp : GPUResponse) : List UInt8 :=
  le32 resp.type.code ++ List.replicate 20 0 ++ resp.data

/-- `display_info.pmodes[i]`. -/
def displayMode (dev : GPUState) (i : Nat) : List UInt8 :=
  if h : i < hvisorVirtioGpuMaxScanouts then
    if dev.enabledScanoutBitmask &&& scanoutBit ⟨i, h⟩ ≠ 0 then
      le32 0 ++ le32 0 ++ le32 (dev.requestedStates ⟨i, h⟩).width ++
        le32 (dev.requestedStates ⟨i, h⟩).height ++ le32 1 ++ le32 0
    else List.replicate 24 0
  else List.replicate 24 0

/-- `virtio_gpu_get_display_info`: a response with `VIRTIO_GPU_MAX_SCANOUTS` modes. -/
def virtioGpuGetDisplayInfo (dev : GPUState) : GPUResponse :=
  ⟨.okDisplayInfo, (List.range 16).flatMap (displayMode dev)⟩

/-- `virtio_gpu_get_edid` does nothing. -/
def virtioGpuGetEdid (dev : GPUState) : GPUResult := dev.done

/-- What processing a command leaves; no response where the header cannot be read. -/
structure GPUOutcome where
  dev : GPUState
  resp : Option GPUResponse
  calls : List DrmCall

/-- The response without data that ends most commands. -/
def GPUResult.respond (r : GPUResult) : GPUOutcome :=
  ⟨r.dev, some ⟨match r.error with
    | none => .okNodata
    | some e => .err e, []⟩, r.calls⟩

/-- The command types that the dispatcher knows. -/
inductive GPUCommandType where
  | getDisplayInfo
  | getEdid
  | resourceCreate2d
  | resourceUnref
  | resourceFlush
  | transferToHost2d
  | setScanout
  | resourceAttachBacking
  | resourceDetachBacking
  deriving DecidableEq, Repr

/-- The values of `enum virtio_gpu_ctrl_type` for them. -/
def GPUCommandType.ofCode (code : UInt32) : Option GPUCommandType :=
  if code = 0x100 then some .getDisplayInfo
  else if code = 0x101 then some .resourceCreate2d
  else if code = 0x102 then some .resourceUnref
  else if code = 0x103 then some .setScanout
  else if code = 0x104 then some .resourceFlush
  else if code = 0x105 then some .transferToHost2d
  else if code = 0x106 then some .resourceAttachBacking
  else if code = 0x107 then some .resourceDetachBacking
  else if code = 0x10a then some .getEdid
  else none

/-- The handler of a type; `get_display_info` has none that sets an error. -/
def GPUCommandType.handler (env : GPUEnv) (iov : List Iovec) (dev : GPUState) :
    GPUCommandType → Except GPUFault GPUOutcome
  | .getDisplayInfo => .ok ⟨dev, some (virtioGpuGetDisplayInfo dev), []⟩
  | .getEdid => .ok (virtioGpuGetEdid dev).respond
  | .resourceCreate2d => (virtioGpuResourceCreate2d env iov dev).map GPUResult.respond
  | .resourceUnref => (virtioGpuResourceUnref env iov dev).map GPUResult.respond
  | .resourceFlush => (virtioGpuResourceFlush env iov dev).map GPUResult.respond
  | .transferToHost2d => (virtioGpuTransferToHost2d env iov dev).map GPUResult.respond
  | .setScanout => (virtioGpuSetScanout env iov dev).map GPUResult.respond
  | .resourceAttachBacking => (virtioGpuResourceAttachBacking env iov dev).map GPUResult.respond
  | .resourceDetachBacking => (virtioGpuResourceDetachBacking env iov dev).map GPUResult.respond

/-- `gcmd->control_header.type`, as far as the header can be read. -/
def controlHeaderType (env : GPUEnv) (iov : List Iovec) : Except GPUFault (Option UInt32) :=
  virtioGpuFillCmd env.hdrMem iov 24 (readU32 · 0)

/-- `virtio_gpu_simple_process_cmd`. -/
def virtioGpuSimpleProcessCmd (env : GPUEnv) (iov : List Iovec) (dev : GPUState) :
    Except GPUFault GPUOutcome := do
  match ← controlHeaderType env iov with
  | none => .ok ⟨dev, none, []⟩
  | some code =>
    match GPUCommandType.ofCode code with
    | none => .ok (dev.fails .unspec).respond
    | some type => type.handler env iov dev

/-! ## 8. Sequences of commands and resets -/

/-- A device with the calls it made to the DRM device so far. -/
structure GPUHistory where
  dev : GPUState
  calls : List DrmCall

/-- A command of the guest, or a device reset while no command is at work. -/
inductive GPUStep where
  | command (env : GPUEnv) (iov : List Iovec)
  | reset

/-- **Commands and resets**; a fault ends the sequence. -/
def gpuMachine : Machine GPUHistory GPUStep where
  step s
    | .command env iov =>
      match virtioGpuSimpleProcessCmd env iov s.dev with
      | .ok o => some ⟨o.dev, s.calls ++ o.calls⟩
      | .error _ => none
    | .reset => some ⟨virtioGpuReset s.dev, s.calls⟩

/-- A newly initialised device: the size asked for, and the mode of the connector. -/
def gpuStart (requested mode : GPURequestedState) : GPUHistory :=
  ⟨virtioGpuInit mode (initGpuDev requested), []⟩

/-! ## 9. The commands of a driver -/

/-- Memory with some bytes at 0x10000. -/
def guestHolds (bytes : List UInt8) : Mem := fun a => bytes.getD (a - 0x10000).toNat 0

/-- Where a command's struct lies in one buffer and no allocation fails. -/
def driverEnv (drm : DrmAnswers) (bytes : List UInt8) : GPUEnv :=
  { zones := onePage, zoneId := 1
    hdrMem := guestHolds bytes, cmdMem := guestHolds bytes, entriesMem := guestHolds bytes
    imageMem := fun _ => 0, callocOk := true, reallocOk := fun _ => true, drm := fun _ => drm }

def driverIov (bytes : List UInt8) : List Iovec := [⟨0x10000, UInt64.ofNat bytes.length⟩]

def driverCommand (drm : DrmAnswers) (bytes : List UInt8) : GPUStep :=
  .command (driverEnv drm bytes) (driverIov bytes)

def commandHeader (code : UInt32) : List UInt8 := le32 code ++ List.replicate 20 0

def createCommand (id width height : UInt32) : List UInt8 :=
  commandHeader 0x101 ++ le32 id ++ le32 1 ++ le32 width ++ le32 height

def unrefCommand (id : UInt32) : List UInt8 := commandHeader 0x102 ++ le32 id ++ le32 0

/-- The whole of a picture on the first scanout. -/
def setScanoutCommand (id width height : UInt32) : List UInt8 :=
  commandHeader 0x103 ++ le32 0 ++ le32 0 ++ le32 width ++ le32 height ++ le32 0 ++ le32 id

def flushCommand (id width height : UInt32) : List UInt8 :=
  commandHeader 0x104 ++ le32 0 ++ le32 0 ++ le32 width ++ le32 height ++ le32 id ++ le32 0

/-- One piece of backing store at the start of guest memory. -/
def attachCommand (id len : UInt32) : List UInt8 :=
  commandHeader 0x106 ++ le32 id ++ le32 1 ++ le64 0x1000 ++ le32 len ++ le32 0

/-- A DRM device on which every call succeeds. -/
def drmFine : DrmAnswers := ⟨some ⟨1, 64, 1024⟩, some 0x1000, some 7, 0x70000000, true⟩

end HvisorTool
