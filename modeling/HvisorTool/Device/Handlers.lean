/-
  File:      HvisorTool/Device/Handlers.lean
  Subject:   THE HANDLERS OF THE NET, CONSOLE, SCMI AND GPU DEVICES: what each does on a
             notification of the guest or on input from its backend.

  Each handler is a program on the rings of its queue. The passes over one request are those of the
  device modules; here they stand in the loops of the source, with their accesses to the rings.

  * `virtioNetTxqNotifyHandler`, …: the handlers, under the source's names;
  * `RingKind`, `RingKind.handler`, `RingKind.onInput`: the devices, and their tables;
  * `RingKind.ops`: the operations behind the register file;
  * `ringStep`, `ringMachine`: a device under accesses of the guest and input.
-/
import HvisorTool.Device.Rings
import HvisorTool.Library.Machine
import HvisorTool.Scmi.Protocols

namespace HvisorTool

open Library

/-! ## 1. Loops that devices share -/

section Loops

variable {δ : Type}

/-- The receive handlers: the first notification makes the queue ready. -/
def rxqNotify (ready : δ → Int) (setReady : δ → δ) (vq : VirtQueue) : Ring δ Unit := do
  let s ← get
  whenever (ready s.dev ≤ 0) do
    modify fun s => { s with dev := setReady s.dev }
    virtqueueDisableNotify vq

/-- The transmit handlers of the console and SCMI devices: suppress, drain, re-enable,
    until the queue is empty, and one interrupt at the end. -/
def drainThenInject (vq : VirtQueue) (pass : Ring δ Bool) (rounds : Nat) : Ring δ Unit := do
  whileBusy vq
    (do
      virtqueueDisableNotify vq
      whileBusy vq pass rounds
      virtqueueEnableNotify vq
      pure true)
    rounds
  virtioInjectIrq vq

/-- The event handlers: input goes into the requests of the queue, and an interrupt is due
    also where there is no request for it. `post` comes behind the loop. -/
def receive (vq : VirtQueue) (pass : Ring δ Bool) (post : Ring δ Unit) (rounds : Nat) :
    Ring δ Unit := do
  let empty ← virtqueueIsEmpty vq
  if empty then virtioInjectIrq vq
  else do
    whileBusy vq pass rounds
    post
    virtioInjectIrq vq

/-- The two handlers of the GPU device drain once. -/
def drainOnce (vq : VirtQueue) (pass : Ring δ Bool) (rounds : Nat) : Ring δ Unit := do
  virtqueueDisableNotify vq
  whileBusy vq pass rounds
  virtqueueEnableNotify vq

end Loops

/-! ## 2. The net device -/

/-- The fields of `NetDev` that the handlers use. -/
structure NetDev where
  tapfd : Int
  rxReady : Int
  deriving DecidableEq, Repr

/-- `virtio_net_rxq_notify_handler`. -/
def virtioNetRxqNotifyHandler (vq : VirtQueue) : Ring NetDev Unit :=
  rxqNotify NetDev.rxReady (fun net => { net with rxReady := 1 }) vq

/-- `virtq_tx_handle_one_request` of the net device. -/
def netTxPass (zm : ZoneTable) (version1 : Bool) (vq : VirtQueue) : Ring NetDev Bool := do
  let s ← get
  whenever (s.dev.tapfd ≠ -1) do
    derefChainBuf vq
    let o ← see vq
    let tap : TapBackend Unit := ⟨fun _ _ _ => (o.1.writev, ())⟩
    let r ← orStop (netTxHandleOneRequest tap zm version1 o.1.pad
      ⟨o.2, readUsed o.1.mem o.2, s.batch⟩ o.1.mem ())
    modify fun s => { s with lastAvailIdx := r.1.vq.lastAvailIdx, batch := r.1.batch }
  pure true

/-- The collected completions posted: an access to the used ring if there are any. -/
def postBatch (vq : VirtQueue) (after : Ring NetDev Unit) : Ring NetDev Unit := do
  let s ← get
  whenever (s.batch ≠ []) do
    deref vq .used
    modify fun s => { s with batch := [] }
    after

/-- The outer loop of `virtio_net_txq_notify_handler`. -/
def netTxLoop (zm : ZoneTable) (version1 : Bool) (rounds : Nat) (vq : VirtQueue) :
    Nat → Ring NetDev Unit
  | 0 => throw .running
  | n + 1 => do
      whileBusy vq (netTxPass zm version1 vq) rounds
      postBatch vq (virtioInjectIrq vq)
      virtqueueEnableNotify vq
      let empty ← virtqueueIsEmpty vq
      if empty then pure ()
      else do
        virtqueueDisableNotify vq
        netTxLoop zm version1 rounds vq n

/-- `virtio_net_txq_notify_handler`. -/
def virtioNetTxqNotifyHandler (zm : ZoneTable) (version1 : Bool) (rounds : Nat) (vq : VirtQueue) :
    Ring NetDev Unit := do
  virtqueueDisableNotify vq
  netTxLoop zm version1 rounds vq rounds

/-- The body of the loop of `virtio_net_event_handler`. -/
def netRxPass (zm : ZoneTable) (vq : VirtQueue) : Ring NetDev Bool := do
  derefChainBuf vq
  let o ← see vq
  let s ← get
  let r ← orStop (netRxBody zm o.1.readv ⟨o.2, readUsed o.1.mem o.2, s.batch⟩ o.1.mem)
  modify fun s =>
    { s with
      lastAvailIdx := r.1.vq.lastAvailIdx
      batch := r.1.batch
      dev := if r.2 = .stopNotReady then { s.dev with rxReady := 0 } else s.dev }
  pure (r.2 = .loop)

/-- An event of the event monitor: the descriptor, and whether it can be read. -/
structure InputEvent where
  fd : Int
  epollin : Bool
  deriving DecidableEq, Repr

/-- `virtio_net_event_handler`. Packets are dropped until the queue is ready. -/
def virtioNetEventHandler (zm : ZoneTable) (rounds : Nat) (ev : InputEvent)
    (type : VirtioDeviceType) (vq : VirtQueue) : Ring NetDev Unit := do
  let s ← get
  whenever (ev.fd = s.dev.tapfd ∧ ev.epollin = true ∧ s.dev.tapfd ≠ -1 ∧ type = .net ∧
      s.dev.rxReady ≠ 0)
    (receive vq (netRxPass zm vq) (postBatch vq (pure ())) rounds)

/-! ## 3. The console device -/

/-- The fields of `ConsoleDev` that the handlers use. -/
structure ConsoleDev where
  masterFd : Int
  rxReady : Int
  deriving DecidableEq, Repr

/-- `virtio_console_rxq_notify_handler`. -/
def virtioConsoleRxqNotifyHandler (vq : VirtQueue) : Ring ConsoleDev Unit :=
  rxqNotify ConsoleDev.rxReady (fun dev => { dev with rxReady := 1 }) vq

/-- `virtq_tx_handle_one_request` of the console device. -/
def consoleTxPass (zm : ZoneTable) (vq : VirtQueue) : Ring ConsoleDev Bool := do
  let s ← get
  whenever (0 < s.dev.masterFd) do
    let r ← chainPass zm vq false
    whenever (1 ≤ r.ret) (deref vq .used)
  pure true

/-- `virtio_console_txq_notify_handler`. -/
def virtioConsoleTxqNotifyHandler (zm : ZoneTable) (rounds : Nat) (vq : VirtQueue) :
    Ring ConsoleDev Unit :=
  drainThenInject vq (consoleTxPass zm vq) rounds

/-- The body of the loop of `virtio_console_event_handler`. A request that `readv` has
    nothing for goes back. -/
def consoleRxPass (zm : ZoneTable) (vq : VirtQueue) : Ring ConsoleDev Bool := do
  let r ← chainPass zm vq false
  if r.ret < 1 then pure false
  else do
    let o ← see vq
    match o.1.readv with
    | .packet _ => do
        deref vq .used
        pure true
    | _ => do
        modify fun s => { s with lastAvailIdx := s.lastAvailIdx - 1 }
        pure false

/-- `virtio_console_event_handler`. -/
def virtioConsoleEventHandler (zm : ZoneTable) (rounds : Nat) (ev : InputEvent)
    (type : VirtioDeviceType) (vq : VirtQueue) : Ring ConsoleDev Unit := do
  let s ← get
  whenever (ev.fd = s.dev.masterFd ∧ ev.epollin = true ∧ 0 < s.dev.masterFd ∧ type = .console ∧
      0 < s.dev.rxReady)
    (receive vq (consoleRxPass zm vq) (pure ()) rounds)

/-! ## 4. The SCMI device -/

/-- `virtq_tx_handle_one_request` of the SCMI device; it goes on unless the request
    failed. Every way through it ends with an entry in the used ring. -/
def scmiTxPass (zm : ZoneTable) (vq : VirtQueue) : Ring (SCMIDev × List ScmiIoctl) Bool := do
  derefChainBuf vq
  let o ← see vq
  let s ← get
  let r ← orStop (scmiHandleOneRequest (scmiBackend fun _ => o.1.kernel) zm
    ⟨o.2, readUsed o.1.mem o.2, []⟩ o.1.mem s.dev)
  deref vq .used
  modify fun s => { s with lastAvailIdx := r.1.vq.lastAvailIdx, dev := r.2.dev }
  pure (decide (0 ≤ r.2.ret))

/-- `virtio_scmi_txq_notify_handler`. -/
def virtioScmiTxqNotifyHandler (zm : ZoneTable) (rounds : Nat) (vq : VirtQueue) :
    Ring (SCMIDev × List ScmiIoctl) Unit :=
  drainThenInject vq (scmiTxPass zm vq) rounds

/-! ## 5. The GPU device -/

/-- `GPUCommand`, as a notification leaves it. -/
structure GPUCommand where
  respIov : IovArray
  respIovCnt : Int
  respIdx : UInt16
  fromQueue : Nat

/-- The command queue of `GPUDev`. -/
structure GPUDev where
  commandQueue : List GPUCommand

/-- `virtio_gpu_handle_single_request`. -/
def virtioGpuHandleSingleRequest (zm : ZoneTable) (fromQueue : Nat) (vq : VirtQueue) :
    Ring GPUDev Bool := do
  let r ← chainPass zm vq true
  whenever (1 ≤ r.ret)
    (modify fun s =>
      { s with dev.commandQueue := s.dev.commandQueue ++
          [⟨r.arr, r.ret, r.descIdx.getD 0, fromQueue⟩] })
  pure true

/-- `virtio_gpu_ctrl_notify_handler`: the interrupt is left to the worker thread. -/
def virtioGpuCtrlNotifyHandler (zm : ZoneTable) (rounds : Nat) (vq : VirtQueue) :
    Ring GPUDev Unit :=
  drainOnce vq (virtioGpuHandleSingleRequest zm 0 vq) rounds

/-- `virtio_gpu_cursor_notify_handler`. -/
def virtioGpuCursorNotifyHandler (zm : ZoneTable) (rounds : Nat) (vq : VirtQueue) :
    Ring GPUDev Unit := do
  drainOnce vq (virtioGpuHandleSingleRequest zm 1 vq) rounds
  virtioInjectIrq vq

/-! ## 6. Devices -/

/-- The devices whose handlers run where the guest's access or the event is handled. -/
inductive RingKind where
  | net
  | console
  | scmi
  | gpu
  deriving DecidableEq, Repr

namespace RingKind

/-- The private part. -/
abbrev Dev : RingKind → Type
  | net => NetDev
  | console => ConsoleDev
  | scmi => SCMIDev × List ScmiIoctl
  | gpu => GPUDev

/-- `SUPPORTED_FEATURES`; the GPU device takes the number of a bit for its mask. -/
def features : RingKind → UInt64
  | net => 0x100010020
  | console => 0x100000001
  | scmi => 0x100000000
  | gpu => 0x10000001c

def queueMaxSize : RingKind → UInt32
  | net => 256
  | console => 64
  | scmi => 64
  | gpu => 256

/-- `VIRTIO_F_VERSION_1` among the features that the driver accepted. -/
def version1 (drvFeature : UInt64) : Bool := drvFeature &&& 0x100000000 != 0

/-- `ops->notify_handlers`, from the accepted features on. -/
def handler (k : RingKind) (zm : ZoneTable) (rounds : Nat) (i : Nat) :
    Option (UInt64 → VirtQueue → Ring k.Dev Unit) :=
  match k, i with
  | net, 0 => some fun _ vq => virtioNetRxqNotifyHandler vq
  | net, 1 => some fun drv vq => virtioNetTxqNotifyHandler zm (version1 drv) rounds vq
  | console, 0 => some fun _ vq => virtioConsoleRxqNotifyHandler vq
  | console, 1 => some fun _ vq => virtioConsoleTxqNotifyHandler zm rounds vq
  | scmi, 0 => some fun _ vq => virtioScmiTxqNotifyHandler zm rounds vq
  | gpu, 0 => some fun _ vq => virtioGpuCtrlNotifyHandler zm rounds vq
  | gpu, 1 => some fun _ vq => virtioGpuCursorNotifyHandler zm rounds vq
  | _, _ => none

/-- The handler of the device's events, which runs on the receive queue. -/
def onInput (k : RingKind) (zm : ZoneTable) (rounds : Nat) (ev : InputEvent)
    (type : VirtioDeviceType) (vq : VirtQueue) : Ring k.Dev Unit :=
  match k with
  | net => virtioNetEventHandler zm rounds ev type vq
  | console => virtioConsoleEventHandler zm rounds ev type vq
  | scmi => pure ()
  | gpu => pure ()

end RingKind

/-! ## 7. Steps -/

section Steps

variable {δ : Type}

/-- What a run of a handler comes with: how often its loops may go round, and the tape. -/
structure RingEnv where
  rounds : Nat
  tape : List Sight

/-- Where a handler of queue `i` starts. -/
def VirtIODevice.ringState (d : VirtIODevice δ) (i : Nat) (tape : List Sight) : RingState δ :=
  { lastAvailIdx := (d.vq i).lastAvailIdx, lastUsedIdx := (d.vq i).lastUsedIdx, irq := d.irq,
    dev := d.dev, batch := [], tape := tape }

/-- What it leaves. -/
def VirtIODevice.afterRing (d : VirtIODevice δ) (i : Nat) (s : RingState δ) : VirtIODevice δ :=
  { d.modifyVq i fun vq =>
      { vq with lastAvailIdx := s.lastAvailIdx, lastUsedIdx := s.lastUsedIdx } with
    irq := s.irq, dev := s.dev }

/-- A handler run on queue `i`. -/
def runRing (d : VirtIODevice δ) (i : Nat) (env : RingEnv) (m : VirtQueue → Ring δ Unit) :
    Except RingStop (VirtIODevice δ) :=
  match m (d.vq i) (d.ringState i env.tape) with
  | .ok (_, s) => .ok (d.afterRing i s)
  | .error e => .error e

theorem setup_afterRing (d : VirtIODevice δ) (i : Nat) (s : RingState δ) :
    (d.afterRing i s).vqs.map VirtQueue.setup = d.vqs.map VirtQueue.setup := by
  change (if 0 ≤ (i : Int) then d.vqs.modify (i : Int).toNat _ else d.vqs).map _ = _
  rw [if_pos (Int.natCast_nonneg i), Int.toNat_natCast]
  refine List.ext_getElem? fun j => ?_
  rw [List.getElem?_map, List.getElem?_map, List.getElem?_modify]
  cases d.vqs[j]? with
  | none => rfl
  | some vq =>
    refine congrArg some ?_
    change VirtQueue.setup (if i = j then _ else vq) = vq.setup
    split <;> rfl

/-- A handler as an operation behind the register file; where it stops, nothing is said
    of the device. -/
def ringHook (i : Nat) (env : RingEnv) (m : VirtIODevice δ → VirtQueue → Ring δ Unit) :
    DeviceHook δ :=
  { run := fun d =>
      match runRing d i env (m d) with
      | .ok d' => d'
      | .error _ => d
    identity := fun d => by
      unfold runRing
      cases m d (d.vq i) (d.ringState i env.tape) <;> rfl
    regs := fun d => by
      unfold runRing
      cases m d (d.vq i) (d.ringState i env.tape) <;> rfl
    vqs := fun d => by
      unfold runRing
      cases m d (d.vq i) (d.ringState i env.tape) with
      | ok r => exact setup_afterRing d i r.2
      | error e => rfl }

/-- An operation on the private part. -/
def devHook (f : δ → δ) : DeviceHook δ :=
  { run := fun d => { d with dev := f d.dev }, identity := fun _ => rfl, regs := fun _ => rfl,
    vqs := fun _ => rfl }

end Steps

namespace RingKind

/-- `virtio_net_reset`; the other devices leave what the handlers use as it is. -/
def reset (k : RingKind) : k.Dev → k.Dev :=
  match k with
  | net => fun net => { net with rxReady := 0 }
  | console => id
  | scmi => id
  | gpu => id

/-- `net_on_status`. -/
def statusChanged (k : RingKind) : Option (UInt32 → DeviceHook k.Dev) :=
  match k with
  | net => some fun status => devHook fun net => if status = 0 then { net with rxReady := 0 } else net
  | console => none
  | scmi => none
  | gpu => none

/-- `virtio_net_ops`, `virtio_console_ops`, `virtio_scmi_ops` and `virtio_gpu_ops`. -/
def ops (k : RingKind) (config : k.Dev → UInt64 → UInt64) (zm : ZoneTable) (env : RingEnv) :
    VirtioDeviceOps k.Dev :=
  { features := k.features
    numQueues := 2
    queueMaxSize := k.queueMaxSize
    config := config
    reset := some (devHook k.reset)
    statusChanged := k.statusChanged
    notifyHandlers := fun i =>
      (k.handler zm env.rounds i).map fun h => ringHook i env fun d => h d.regs.drvFeature }

end RingKind

/-- An access of the guest, or an event of the backend. -/
inductive RingStep where
  | access (a : MmioAccess)
  | input (ev : InputEvent)
  deriving DecidableEq, Repr

/-- The queue, of `n`, that an access notifies. -/
def notifiedQueue (n : Nat) : MmioAccess → Option Nat
  | .read _ _ => none
  | .write offset value size _ =>
    if selectedReg offset size = some .queueNotify ∧ value.toNat < n then some value.toNat
    else none

section Machine

variable (k : RingKind) (config : k.Dev → UInt64 → UInt64) (zm : ZoneTable)

/-- The run of the handler that a step calls, if it calls one. -/
def calledHandler (env : RingEnv) (d : VirtIODevice k.Dev) :
    RingStep → Option (Except RingStop (VirtIODevice k.Dev))
  | .access a => do
      let i ← notifiedQueue d.vqs.length a
      let h ← k.handler zm env.rounds i
      some (runRing d i env (h d.regs.drvFeature))
  | .input ev => some (runRing d 0 env (k.onInput zm env.rounds ev d.type))

/-- One step. It ends where the handler it calls stops. -/
def ringStep (env : RingEnv) (d : VirtIODevice k.Dev) (s : RingStep) :
    Except RingStop (VirtIODevice k.Dev) :=
  match calledHandler k zm env d s with
  | some (.error e) => .error e
  | _ =>
    match s with
    | .access a => .ok (mmioAccess (k.ops config zm env) zm d a).1
    | .input ev => .ok ((ringHook 0 env fun d => k.onInput zm env.rounds ev d.type).run d)

/-- The device under accesses and events, each with what its handler sees. -/
def ringMachine : Machine (VirtIODevice k.Dev) (RingStep × RingEnv) :=
  { step := fun d l => (ringStep k config zm l.2 d l.1).toOption }

end Machine

end HvisorTool
