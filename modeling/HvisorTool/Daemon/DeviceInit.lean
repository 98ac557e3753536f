/-
  File:      HvisorTool/Daemon/DeviceInit.lean
  Subject:   THE CREATION OF A DEVICE, CALL BY CALL: `create_virtio_device_unpublished` with the
             `init` and the `close` of the block, net, console and SCMI device.

  Every call that can fail has its answer in a record; the log has what each call acquires and
  releases. A device structure has the fields that `close` looks at. A function that acquires
  takes the rest of its caller as `k`.

  * `Vdev`, `Ops`, `createVirtioDeviceUnpublished`: the creation, for any device;
  * `virtioBlkOps`, `virtioNetOps`, `virtioConsoleOps`, `virtioScmiOps`: the devices;
  * `CreateRequest`, `create`: a device of any type.
-/
import HvisorTool.Daemon.Resources
import HvisorTool.Scmi.Core

namespace HvisorTool

open Library

namespace Creation

/-- `EINVAL`, `ENOMEM` and `EIO`. -/
def einval : Int := 22

def enomem : Int := 12

def eio : Int := 5

/-! ## 1. The creation -/

/-- `VirtIODevice` while it is created: `vdev->dev`, and whether `vdev->vqs` is there. -/
structure Vdev (δ : Type) where
  dev : Option δ
  vqs : Bool
  deriving DecidableEq, Repr

/-- The members of `struct virtio_device_ops` that a creation uses. -/
structure Ops (δ : Type) where
  numQueues : Nat
  init : Vdev δ → EventMonitor → Handles (Int × Vdev δ × EventMonitor)
  close : Vdev δ → EventMonitor → Handles EventMonitor

variable {δ : Type}

/-- `init_virtio_queue`. -/
def initVirtioQueue (ops : Ops δ) (vdev : Vdev δ) (calloc : Bool) : Handles (Int × Vdev δ) :=
  if ops.numQueues = 0 ∨ ops.numQueues > virtioMaxVqueues then .lift (.ok (-einval, vdev))
  else if !calloc then .lift (.ok (-enomem, vdev))
  else .tell (.acquire (.block .vqs)) (.lift (.ok (0, { vdev with vqs := true })))

/-- The label `err`. -/
def createErr (ops : Ops δ) (vdev : Vdev δ) (m : EventMonitor) :
    Handles (Option (Vdev δ) × EventMonitor) :=
  (ops.close vdev m).bind fun m => .lift (.ok (none, m))

/-- `create_virtio_device_unpublished`, from the allocation of the device on. -/
def createVirtioDeviceUnpublished (ops : Ops δ) (vdevCalloc vqsCalloc : Bool) (m : EventMonitor) :
    Handles (Option (Vdev δ) × EventMonitor) :=
  if !vdevCalloc then .lift (.ok (none, m))
  else
    .tell (.acquire (.block .vdev))
      ((initVirtioQueue ops ⟨none, false⟩ vqsCalloc).bind fun queues =>
        if queues.1 ≠ 0 then createErr ops queues.2 m
        else
          (ops.init queues.2 m).bind fun made =>
            if made.1 ≠ 0 then createErr ops made.2.1 made.2.2
            else .lift (.ok (some made.2.1, made.2.2)))

/-- The last lines of every `close`: `free(vdev->vqs); free(vdev);` -/
def freeVdev (vdev : Vdev δ) (m : EventMonitor) : Handles EventMonitor :=
  releaseIf (vdev.vqs = true) (.block .vqs) (.tell (.release (.block .vdev)) (.lift (.ok m)))

/-! ## 2. The block device -/

/-- The fields of `BlkDev` that `virtio_blk_close` looks at. -/
structure BlkDev where
  imgFd : Int
  threadStarted : Bool
  mutexInitialized : Bool
  condInitialized : Bool
  deriving DecidableEq, Repr

structure BlkAnswers where
  calloc : Bool
  mutexInit : Bool
  condInit : Bool
  openImg : Option Nat
  /-- `st.st_size`. -/
  fstat : Option UInt64
  blkGetSize64 : Option UInt64
  pthreadCreate : Bool
  deriving DecidableEq, Repr

/-- `init_blk_dev`: whether it returns the device, and `vdev->dev`. -/
def initBlkDev {α : Type} (ans : BlkAnswers) (k : Bool → Option BlkDev → Handles α) : Handles α :=
  if !ans.calloc then k false none
  else
    .tell (.acquire (.block .dev))
      (if !ans.mutexInit then .tell (.release (.block .dev)) (k false none)
      else
        .tell (.acquire .mutex)
          (if !ans.condInit then
            .tell (.release .mutex) (.tell (.release (.block .dev)) (k false none))
          else .tell (.acquire .cond) (k true (some ⟨-1, false, true, true⟩))))

/-- `virtio_blk_init`: what it returns, and the device. -/
def virtioBlkInit {α : Type} (ans : BlkAnswers) (dev : Option BlkDev)
    (k : Int → Option BlkDev → Handles α) : Handles α :=
  match dev with
  | none => k (-1) none
  | some dev =>
    openFd ans.openImg fun fd =>
      if fd = -1 then k (-1) (some { dev with imgFd := fd })
      else
        match ans.fstat with
        | none => k (-1) (some { dev with imgFd := fd })
        | some stSize =>
          -- `st_size` may be 0 for real block devices
          if stSize / sectorBsize = 0 then
            match ans.blkGetSize64 with
            | some _ => k 0 (some { dev with imgFd := fd })
            | none => k (-1) (some { dev with imgFd := fd })
          else k 0 (some { dev with imgFd := fd })

/-- `start_blk_worker`. -/
def startBlkWorker {α : Type} (ans : BlkAnswers) (dev : Option BlkDev)
    (k : Int → Option BlkDev → Handles α) : Handles α :=
  match dev with
  | none => .lift (.error .segv)
  | some dev =>
    if dev.threadStarted then k 0 (some dev)
    else if !ans.pthreadCreate then k (-1) (some dev)
    else .tell (.acquire .thread) (k 0 (some { dev with threadStarted := true }))

/-- `virtio_blk_do_init`; `params` tells whether there are any. -/
def virtioBlkDoInit (params : Bool) (ans : BlkAnswers) (vdev : Vdev BlkDev) (m : EventMonitor) :
    Handles (Int × Vdev BlkDev × EventMonitor) :=
  if !params then .lift (.ok (-einval, vdev, m))
  else
    initBlkDev ans fun made dev =>
      if !made then .lift (.ok (-enomem, ⟨dev, vdev.vqs⟩, m))
      else
        virtioBlkInit ans dev fun ret dev =>
          if ret ≠ 0 then .lift (.ok (-eio, ⟨dev, vdev.vqs⟩, m))
          else
            startBlkWorker ans dev fun ret dev =>
              .lift (.ok (if ret ≠ 0 then -eio else 0, ⟨dev, vdev.vqs⟩, m))

/-- `virtio_blk_close`. -/
def virtioBlkClose (vdev : Vdev BlkDev) (m : EventMonitor) : Handles EventMonitor :=
  match vdev.dev with
  | none => freeVdev vdev m
  | some dev =>
    releaseIf (dev.threadStarted = true) .thread
      (releaseIf (dev.condInitialized = true) .cond
        (releaseIf (dev.mutexInitialized = true) .mutex
          (closeFd dev.imgFd (.tell (.release (.block .dev)) (freeVdev vdev m)))))

def virtioBlkOps (params : Bool) (ans : BlkAnswers) : Ops BlkDev :=
  ⟨1, virtioBlkDoInit params ans, virtioBlkClose⟩

/-! ## 3. The net device -/

/-- The fields of `NetDev` that `virtio_net_close` looks at; a pointer that is `NULL` is
    `false` or `none`. -/
structure NetDev where
  tapfd : Int
  event : Option UInt64
  inIov : Bool
  outIov : Bool
  deriving DecidableEq, Repr

/-- What the calls that make a descriptor non-blocking answer. -/
structure FcntlAnswers where
  getfl : Bool
  setfl : Bool
  deriving DecidableEq, Repr

/-- `set_nonblocking`. -/
def setNonblocking (ans : FcntlAnswers) : Int :=
  if !ans.getfl then -1 else if !ans.setfl then -1 else 0

structure NetAnswers where
  calloc : Bool
  openTun : Option Nat
  tunSetIff : Bool
  fcntl : FcntlAnswers
  eventCalloc : EventCalloc
  epollCtl : Bool
  mallocIn : Bool
  mallocOut : Bool

/-- The address of `virtio_net_event_handler` or `virtio_console_event_handler`. -/
structure Handler where
  address : UInt64
  notNull : address ≠ 0

/-- `open_tap`. -/
def openTap {α : Type} (ans : NetAnswers) (k : Int → Handles α) : Handles α :=
  openFd ans.openTun fun tunfd =>
    if tunfd < 0 then k (-1)
    else if !ans.tunSetIff then .tell (.release (.fd tunfd)) (k (-1))
    else k tunfd

/-- A block that is allocated if the answer says so. -/
def mallocBlock {α : Type} (answer : Bool) (b : Block) (k : Bool → Handles α) : Handles α :=
  if answer then .tell (.acquire (.block b)) (k true) else k false

/-- `virtio_net_init`. -/
def virtioNetInit (handler : Handler) (ans : NetAnswers) (vqs : Bool) (m : EventMonitor) :
    Handles (Int × Vdev NetDev × EventMonitor) :=
  openTap ans fun tapfd =>
    if tapfd = -1 then .lift (.ok (-1, ⟨some ⟨tapfd, none, false, false⟩, vqs⟩, m))
    else if setNonblocking ans.fcntl < 0 then
      .lift (.ok (-1, ⟨some ⟨tapfd, none, false, false⟩, vqs⟩, m))
    else
      (m.addEvent tapfd handler.address ans.eventCalloc ans.epollCtl).bind fun added =>
        if added.1 = none then .lift (.ok (-1, ⟨some ⟨tapfd, none, false, false⟩, vqs⟩, added.2))
        else
          mallocBlock ans.mallocIn .inIov fun inIov =>
            mallocBlock ans.mallocOut .outIov fun outIov =>
              .lift (.ok (if !inIov || !outIov then -1 else 0,
                ⟨some ⟨tapfd, added.1, inIov, outIov⟩, vqs⟩, added.2))

/-- `virtio_net_do_init`, with `init_net_dev`. -/
def virtioNetDoInit (handler : Handler) (params : Bool) (ans : NetAnswers) (vdev : Vdev NetDev)
    (m : EventMonitor) : Handles (Int × Vdev NetDev × EventMonitor) :=
  if !params then .lift (.ok (-einval, vdev, m))
  else if !ans.calloc then .lift (.ok (-enomem, { vdev with dev := none }, m))
  else .tell (.acquire (.block .dev)) (virtioNetInit handler ans vdev.vqs m)

/-- `virtio_net_close`. -/
def virtioNetClose (vdev : Vdev NetDev) (m : EventMonitor) : Handles EventMonitor :=
  match vdev.dev with
  | none => freeVdev vdev m
  | some dev =>
    closeFd dev.tapfd
      ((m.removeEvent dev.event).bind fun m =>
        releaseSome (dev.event.map fun hevent => .block (.event hevent))
          (releaseIf (dev.inIov = true) (.block .inIov)
            (releaseIf (dev.outIov = true) (.block .outIov)
              (.tell (.release (.block .dev)) (freeVdev vdev m)))))

def virtioNetOps (handler : Handler) (params : Bool) (ans : NetAnswers) : Ops NetDev :=
  ⟨2, virtioNetDoInit handler params ans, virtioNetClose⟩

/-! ## 4. The console device -/

/-- The fields of `ConsoleDev` that `virtio_console_close` looks at. -/
structure ConsoleDev where
  masterFd : Int
  slaveKeepaliveFd : Int
  event : Option UInt64
  deriving DecidableEq, Repr

structure ConsoleAnswers where
  malloc : Bool
  openpt : Option Nat
  grantpt : Bool
  unlockpt : Bool
  ptsname : Bool
  openSlave : Option Nat
  fcntl : FcntlAnswers
  eventCalloc : EventCalloc
  epollCtl : Bool
  /-- The kernel gives out no number that is open. -/
  fresh : ∀ n, openpt = some n → openSlave ≠ some n

/-- `virtio_console_init`, on the device as `init_console_dev` leaves it. -/
def virtioConsoleInit (handler : Handler) (ans : ConsoleAnswers) (vqs : Bool) (m : EventMonitor) :
    Handles (Int × Vdev ConsoleDev × EventMonitor) :=
  let fresh : ConsoleDev := ⟨-1, -1, none⟩
  openFd ans.openpt fun masterFd =>
    if masterFd < 0 then .lift (.ok (-1, ⟨some fresh, vqs⟩, m))
    else if !ans.grantpt then
      .tell (.release (.fd masterFd)) (.lift (.ok (-1, ⟨some fresh, vqs⟩, m)))
    else if !ans.unlockpt then
      .tell (.release (.fd masterFd)) (.lift (.ok (-1, ⟨some fresh, vqs⟩, m)))
    else
      -- from here on the structure has the descriptor, and it is closed all the same
      let dev := { fresh with masterFd := masterFd }
      if !ans.ptsname then
        .tell (.release (.fd masterFd)) (.lift (.ok (-1, ⟨some dev, vqs⟩, m)))
      else
        openFd ans.openSlave fun slaveFd =>
          if slaveFd < 0 then
            .tell (.release (.fd masterFd)) (.lift (.ok (-1, ⟨some dev, vqs⟩, m)))
          else
            let dev := { dev with slaveKeepaliveFd := slaveFd }
            if setNonblocking ans.fcntl < 0 then .lift (.ok (-1, ⟨some dev, vqs⟩, m))
            else
              (m.addEvent dev.masterFd handler.address ans.eventCalloc ans.epollCtl).bind
                fun added =>
                  .lift (.ok (if added.1 = none then -1 else 0,
                    ⟨some { dev with event := added.1 }, vqs⟩, added.2))

/-- `virtio_console_do_init`, with `init_console_dev`. -/
def virtioConsoleDoInit (handler : Handler) (ans : ConsoleAnswers) (vdev : Vdev ConsoleDev)
    (m : EventMonitor) : Handles (Int × Vdev ConsoleDev × EventMonitor) :=
  if !ans.malloc then .lift (.ok (-enomem, { vdev with dev := none }, m))
  else .tell (.acquire (.block .dev)) (virtioConsoleInit handler ans vdev.vqs m)

/-- `virtio_console_close`. -/
def virtioConsoleClose (vdev : Vdev ConsoleDev) (m : EventMonitor) : Handles EventMonitor :=
  match vdev.dev with
  | none => freeVdev vdev m
  | some dev =>
    closeFd dev.masterFd
      (closeFd dev.slaveKeepaliveFd
        ((m.removeEvent dev.event).bind fun m =>
          releaseSome (dev.event.map fun hevent => .block (.event hevent))
            (.tell (.release (.block .dev)) (freeVdev vdev m))))

def virtioConsoleOps (handler : Handler) (ans : ConsoleAnswers) : Ops ConsoleDev :=
  ⟨2, virtioConsoleDoInit handler ans, virtioConsoleClose⟩

/-! ## 5. The SCMI device -/

/-- The pointers of `SCMIDev`; those that are `NULL` are `false`. -/
structure SCMIDev where
  clockIds : Bool
  resetIds : Bool
  powerIds : Bool
  deriving DecidableEq, Repr

structure ScmiAnswers where
  calloc : Bool
  clockCalloc : Bool
  resetCalloc : Bool
  powerCalloc : Bool
  deriving DecidableEq, Repr

/-- `scmi_copy_id_array`: the answer, and whether `*dst` is set. -/
def scmiCopyIdArray {α : Type} (b : Block) (src : IdArray) (calloc : Bool)
    (k : Int → Bool → Handles α) : Handles α :=
  if src.count = 0 then k 0 false
  else if !calloc then k (-enomem) false
  else .tell (.acquire (.block b)) (k 0 true)

/-- `virtio_scmi_do_init`; the protocols it registers are those of `Scmi/Core.lean`. -/
def virtioScmiDoInit (params : Option VirtioScmiInitParams) (ans : ScmiAnswers)
    (vdev : Vdev SCMIDev) (m : EventMonitor) : Handles (Int × Vdev SCMIDev × EventMonitor) :=
  if !ans.calloc then .lift (.ok (-enomem, vdev, m))
  else
    .tell (.acquire (.block .dev))
      (match params with
      | none => .lift (.ok (0, { vdev with dev := some ⟨false, false, false⟩ }, m))
      | some p =>
        scmiCopyIdArray .clockIds p.clockIds ans.clockCalloc fun ret clockIds =>
          if ret ≠ 0 then
            .lift (.ok (-enomem, { vdev with dev := some ⟨clockIds, false, false⟩ }, m))
          else
            scmiCopyIdArray .resetIds p.resetIds ans.resetCalloc fun ret resetIds =>
              if ret ≠ 0 then
                .lift (.ok (-enomem, { vdev with dev := some ⟨clockIds, resetIds, false⟩ }, m))
              else
                scmiCopyIdArray .powerIds p.powerIds ans.powerCalloc fun ret powerIds =>
                  .lift (.ok (if ret ≠ 0 then -enomem else 0,
                    { vdev with dev := some ⟨clockIds, resetIds, powerIds⟩ }, m)))

/-- `virtio_scmi_close`, with `scmi_dev_free`. -/
def virtioScmiClose (vdev : Vdev SCMIDev) (m : EventMonitor) : Handles EventMonitor :=
  match vdev.dev with
  | none => freeVdev vdev m
  | some dev =>
    releaseIf (dev.clockIds = true) (.block .clockIds)
      (releaseIf (dev.resetIds = true) (.block .resetIds)
        (releaseIf (dev.powerIds = true) (.block .powerIds)
          (.tell (.release (.block .dev)) (freeVdev vdev m))))

def virtioScmiOps (params : Option VirtioScmiInitParams) (ans : ScmiAnswers) : Ops SCMIDev :=
  ⟨2, virtioScmiDoInit params ans, virtioScmiClose⟩

/-! ## 6. Any device -/

/-- A device type, with its parameters and the answers its `init` gets. -/
inductive DeviceRequest where
  | blk (params : Bool) (ans : BlkAnswers)
  | net (handler : Handler) (params : Bool) (ans : NetAnswers)
  | console (handler : Handler) (ans : ConsoleAnswers)
  | scmi (params : Option VirtioScmiInitParams) (ans : ScmiAnswers)

/-- A creation: the two allocations before `ops->init`, and the device. -/
structure CreateRequest where
  vdevCalloc : Bool
  vqsCalloc : Bool
  device : DeviceRequest

/-- What the caller sees of a creation: whether there is a device. -/
def created (x : Handles (Option (Vdev δ) × EventMonitor)) : Handles (Bool × EventMonitor) :=
  x.bind fun r => .lift (.ok (r.1.isSome, r.2))

/-- `create_virtio_device_unpublished` with the entry of `device_ops_table` for the type. -/
def create (r : CreateRequest) (m : EventMonitor) : Handles (Bool × EventMonitor) :=
  match r.device with
  | .blk params ans => created
      (createVirtioDeviceUnpublished (virtioBlkOps params ans) r.vdevCalloc r.vqsCalloc m)
  | .net handler params ans => created
      (createVirtioDeviceUnpublished (virtioNetOps handler params ans) r.vdevCalloc r.vqsCalloc m)
  | .console handler ans => created
      (createVirtioDeviceUnpublished (virtioConsoleOps handler ans) r.vdevCalloc r.vqsCalloc m)
  | .scmi params ans => created
      (createVirtioDeviceUnpublished (virtioScmiOps params ans) r.vdevCalloc r.vqsCalloc m)

end Creation

end HvisorTool
