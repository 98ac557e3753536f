/-
  File:      HvisorTool/Bridge/Handshake.lean
  Subject:   THE REQUEST SIDE OF THE VIRTIO BRIDGE as a machine: the hypervisor that produces
             requests and the daemon that consumes them (`consume_pending_requests`,
             `handle_virtio_requests`, the end of `virtio_start`).

  The two parties share `struct virtio_bridge` and one eventfd. Every access to shared memory is one
  step, the steps are sequentially consistent, and a label says which party moves. The hypervisor is
  not part of the repository: its steps are the protocol the daemon is written against (wait for
  room, write the slot, move `req_rear`, read `need_wakeup`, kick if it read 1).

  * `BridgeState`: the shared fields, the eventfd counter, both program points, the daemon's local
    `req_front` and poll counter, and two logs: `produced` (requests in the order of their rear
    updates) and `handled` (requests in the order `virtio_handle_req` got them);
  * `bridgeMachine loongarch`: the machine; the flag selects the branch of the
    conditional compilation in `handle_virtio_requests`;
  * `steadyStart`, `bootStart`: a daemon about to drain for the first time, and
    a daemon that has not published `mmio_avail` yet.
-/
import HvisorTool.Library.Machine
import HvisorTool.Library.Ring

namespace HvisorTool

open Library

/-- `MAX_REQ`: the slots of the request ring and of the response ring. -/
def maxReq : Nat := 32

/-- `MAX_POLL_COUNT` of `consume_pending_requests`. -/
def maxPollCount : Nat := 10000000

/-- `struct device_req`, without its padding. -/
structure DeviceReq where
  srcCpu : UInt64
  address : UInt64
  size : UInt64
  value : UInt64
  srcZone : UInt32
  isWrite : UInt8
  needInterrupt : UInt8
  deriving DecidableEq, Repr, Inhabited

/-- The request side of `struct virtio_bridge`. -/
structure VirtioBridge where
  reqFront : Nat
  reqRear : Nat
  reqList : Nat → DeviceReq
  mmioAvail : Bool
  needWakeup : Bool

/-- What `HVISOR_INIT_VIRTIO` leaves: a zeroed page. -/
def VirtioBridge.zero : VirtioBridge :=
  { reqFront := 0, reqRear := 0, reqList := fun _ => default, mmioAvail := false,
    needWakeup := false }

/-- `is_queue_full`. -/
def isQueueFull (front rear size : Nat) : Bool := (rear + 1) &&& (size - 1) == front

/-- The index update of both rings: `(x + 1) & (MAX_REQ - 1)`. -/
def ringNext (x : Nat) : Nat := (x + 1) &&& (maxReq - 1)

theorem ringNext_eq (x : Nat) : ringNext x = (x + 1) % maxReq :=
  Nat.and_two_pow_sub_one_eq_mod (x + 1) 5

theorem ringNext_lt (x : Nat) : ringNext x < maxReq := by
  rw [ringNext_eq]
  exact Nat.mod_lt _ (by decide)

theorem isQueueFull_iff (front rear : Nat) :
    isQueueFull front rear maxReq = true ↔ (rear + 1) % maxReq = front := by
  have e : (rear + 1) &&& (maxReq - 1) = (rear + 1) % maxReq := ringNext_eq rear
  simp only [isQueueFull, beq_iff_eq, e]

/-! ## 1. The parties -/

/-- Where the hypervisor stands in handling one request. -/
inductive ProducerPc where
  | idle
  | room (r : DeviceReq)
  | write (r : DeviceReq)
  | bump (r : DeviceReq)
  | readFlag
  | kick (wake : Bool)
  deriving DecidableEq, Repr

/-- Where the daemon's main thread stands. `publish` and `arm` are the end of
    `virtio_start` and the start of `handle_virtio_requests`; `blocked` and
    `readEvent` are its event loop; the others are `consume_pending_requests`. -/
inductive DaemonPc where
  | publish
  | arm
  | blocked
  | readEvent
  | loadFront
  | clearFlag
  | poll
  | handle
  | storeFront
  | setFlag
  | recheck
  | unsetFlag
  deriving DecidableEq, Repr

structure BridgeState where
  bridge : VirtioBridge
  eventfd : Nat
  producer : ProducerPc
  daemon : DaemonPc
  reqFront : Nat
  pollCount : Nat
  produced : List DeviceReq
  handled : List DeviceReq

/-- A label: a new request reaches the hypervisor, or one party makes its next step. -/
inductive BridgeAction where
  | submit (r : DeviceReq)
  | producer
  | daemon
  deriving DecidableEq, Repr

/-! ## 2. The steps -/

/-- The hypervisor's next step. -/
def producerStep (s : BridgeState) : Option BridgeState :=
  match s.producer with
  | .idle => none
  | .room r =>
    -- wait until the ring is not full
    if isQueueFull s.bridge.reqFront s.bridge.reqRear maxReq then some s
    else some { s with producer := .write r }
  | .write r =>
    some { s with
      bridge := { s.bridge with reqList := Function.update s.bridge.reqList s.bridge.reqRear r }
      producer := .bump r }
  | .bump r =>
    some { s with
      bridge := { s.bridge with reqRear := ringNext s.bridge.reqRear }
      produced := s.produced ++ [r]
      producer := .readFlag }
  | .readFlag => some { s with producer := .kick s.bridge.needWakeup }
  | .kick wake =>
    some { s with eventfd := if wake then s.eventfd + 1 else s.eventfd, producer := .idle }

/-- The daemon's next step. -/
def daemonStep (loongarch : Bool) (s : BridgeState) : Option BridgeState :=
  match s.daemon with
  | .publish =>
    some { s with
      bridge := { s.bridge with mmioAvail := true }
      daemon := if loongarch then .loadFront else .arm }
  | .arm => some { s with bridge := { s.bridge with needWakeup := true }, daemon := .blocked }
  | .blocked => if 0 < s.eventfd then some { s with daemon := .readEvent } else none
  | .readEvent => some { s with eventfd := 0, daemon := .loadFront }
  | .loadFront =>
    some { s with reqFront := s.bridge.reqFront, pollCount := 0, daemon := .clearFlag }
  | .clearFlag => some { s with bridge := { s.bridge with needWakeup := false }, daemon := .poll }
  | .poll =>
    if s.reqFront ≠ s.bridge.reqRear then some { s with pollCount := 0, daemon := .handle }
    else if s.pollCount + 1 < maxPollCount then some { s with pollCount := s.pollCount + 1 }
    else some { s with pollCount := 0, daemon := .setFlag }
  | .handle =>
    some { s with
      handled := s.handled ++ [s.bridge.reqList s.reqFront]
      reqFront := ringNext s.reqFront
      daemon := .storeFront }
  | .storeFront =>
    some { s with bridge := { s.bridge with reqFront := s.reqFront }, daemon := .poll }
  | .setFlag => some { s with bridge := { s.bridge with needWakeup := true }, daemon := .recheck }
  | .recheck =>
    if s.reqFront = s.bridge.reqRear then some { s with daemon := .blocked }
    else some { s with daemon := .unsetFlag }
  | .unsetFlag => some { s with bridge := { s.bridge with needWakeup := false }, daemon := .poll }

/-- One step of the bridge. The hypervisor takes a request only once `mmio_avail` is set. -/
def bridgeStep (loongarch : Bool) (s : BridgeState) : BridgeAction → Option BridgeState
  | .submit r =>
    if s.producer = .idle ∧ s.bridge.mmioAvail = true then some { s with producer := .room r }
    else none
  | .producer => producerStep s
  | .daemon => daemonStep loongarch s

theorem bridgeStep_submit {loongarch : Bool} {s s' : BridgeState} {r : DeviceReq}
    (hs : bridgeStep loongarch s (.submit r) = some s') :
    s.producer = .idle ∧ s' = { s with producer := .room r } := by
  simp only [bridgeStep] at hs
  split at hs
  · rename_i h
    cases hs
    exact ⟨h.1, rfl⟩
  · cases hs

def bridgeMachine (loongarch : Bool) : Machine BridgeState BridgeAction := ⟨bridgeStep loongarch⟩

/-- A published bridge, the daemon about to call `consume_pending_requests`. -/
def steadyStart : BridgeState :=
  { bridge := { VirtioBridge.zero with mmioAvail := true }, eventfd := 0, producer := .idle,
    daemon := .loadFront, reqFront := 0, pollCount := 0, produced := [], handled := [] }

/-- The zeroed bridge, the daemon about to publish it. -/
def bootStart : BridgeState :=
  { steadyStart with bridge := VirtioBridge.zero, daemon := .publish }

/-! ## 3. What is outstanding -/

/-- The hypervisor is between its rear update and the end of its kick. -/
def ProducerPc.between : ProducerPc → Bool
  | .readFlag => true
  | .kick _ => true
  | _ => false

/-- The position of the next request to hand to `virtio_handle_req`: the shared
    front, or the local one while it is not stored yet. -/
def BridgeState.next (s : BridgeState) : Nat :=
  if s.daemon = .storeFront then s.reqFront else s.bridge.reqFront

/-- The requests in the ring that are not handled yet, oldest first. -/
def BridgeState.pending (s : BridgeState) : List DeviceReq :=
  ringContents s.bridge.reqList maxReq s.next (ringCount maxReq s.next s.bridge.reqRear)

/-- **The state in which a request hangs**: the daemon sleeps, nothing will wake
    it, and the ring is not empty. -/
def Stranded (s : BridgeState) : Prop :=
  s.daemon = .blocked ∧ s.eventfd = 0 ∧ s.bridge.reqFront ≠ s.bridge.reqRear ∧
    s.producer.between = false

end HvisorTool
