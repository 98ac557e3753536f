/-
  File:      HvisorTool/Daemon/Events.lean
  Subject:   THE EVENT MONITOR: `add_event` and `remove_event`, and the devices whose
             `init` registers an event.

  The table `events` is a list as long as `events_num`. An event is named by its
  address. `remove_event` clears the slot and leaves `events_num` as it is, so a slot
  once taken is never free again.

  * `addEvent`, `removeEvent`: the two operations;
  * `AddFault`: where they, an `init` or a `close` are undefined;
  * `deviceInit`, `closeDevice`: the `init` of each device as far as the event monitor sees
    it, and what takes a device back;
  * `Marks`, `deviceInit_quiet`, `deviceInit_ok`: exactly when it cannot be taken back.
-/
import HvisorTool.Library.Outcome
import HvisorTool.Mmio.Regs

namespace HvisorTool

open Library

/-- `MAX_EVENTS`. -/
def maxEvents : Nat := 16

/-- The first `events_num` slots of `events`; a cleared slot is `none`. -/
structure EventMonitor where
  events : List (Option UInt64)
  bound : events.length ≤ maxEvents
  deriving DecidableEq, Repr

namespace EventMonitor

def empty : EventMonitor := { events := [], bound := Nat.zero_le _ }

/-- The slots that `add_event` may still take. -/
def freeSlots (m : EventMonitor) : Nat := maxEvents - m.events.length

theorem freeSlots_eq_iff (m m' : EventMonitor) :
    m.freeSlots = m'.freeSlots ↔ m.events.length = m'.events.length := by
  have h := m.bound
  have h' := m'.bound
  unfold freeSlots
  omega

end EventMonitor

/-- Where adding a device is undefined. -/
inductive AddFault where
  /-- `add_event` stores to the block that `calloc` did not give. -/
  | nullEvent
  /-- `virtio_gpu_init` looks at a connector that `drmModeGetConnector` did not give. -/
  | nullConnector
  /-- `virtio_gpu_init` looks at the last connector behind `drmModeFreeConnector`. -/
  | freedConnector
  /-- `virtio_gpu_remove_drm_framebuffer` logs `%s` without an argument. -/
  | missingArgument
  deriving DecidableEq, Repr

theorem length_snoc_le {m : EventMonitor} (h : ¬ maxEvents ≤ m.events.length) (hevent : UInt64) :
    (m.events ++ [some hevent]).length ≤ maxEvents := by
  rw [List.length_append, List.length_singleton]
  omega

/-- `add_event`, with the block that `calloc` gives and what `epoll_ctl` answers; both
    callers give a handler. -/
def addEvent (m : EventMonitor) (fd : Int) (block : Option UInt64) (epollCtl : Bool) :
    Except AddFault (Option UInt64 × EventMonitor) :=
  if h : maxEvents ≤ m.events.length then .ok (none, m)
  else if fd < 0 then .ok (none, m)
  else
    match block with
    | none => .error .nullEvent
    | some hevent =>
      if epollCtl then
        .ok (some hevent,
          { events := m.events ++ [some hevent], bound := length_snoc_le h hevent })
      else .ok (none, m)

/-- `remove_event`: the first slot that holds the event is cleared. -/
def removeEvent (m : EventMonitor) (hevent : UInt64) : EventMonitor :=
  { events := m.events.modify (m.events.idxOf (some hevent)) fun _ => none
    bound := by
      rw [List.length_modify]
      exact m.bound }

/-- What a device's `close` does to the monitor. -/
def closeEvent (m : EventMonitor) : Option UInt64 → EventMonitor
  | some hevent => removeEvent m hevent
  | none => m

@[simp] theorem length_removeEvent (m : EventMonitor) (hevent : UInt64) :
    (removeEvent m hevent).events.length = m.events.length :=
  List.length_modify ..

@[simp] theorem length_closeEvent (m : EventMonitor) (e : Option UInt64) :
    (closeEvent m e).events.length = m.events.length := by
  cases e with
  | none => rfl
  | some hevent => exact length_removeEvent ..

/-! ## The devices that register -/

/-- How the system answers the creation of a device. -/
structure InitAnswer (δ : Type) where
  /-- The private part. -/
  dev : δ
  /-- The device, its queues and its private part are allocated. -/
  allocated : Bool
  /-- Every other call before the registration succeeds: the tap device, the terminal, the
      image, the display and its resources. -/
  opens : Bool
  fd : Int
  block : Option UInt64
  epollCtl : Bool
  /-- What `drmModeGetConnector` gives in turn: a connector, and whether it is connected. -/
  connectors : List (Option Bool)
  /-- Every call behind: the two arrays of the net device, the encoder and the CRTC. -/
  completes : Bool

/-- What `init` leaves: the private part if it succeeded, the event it registered, and
    the monitor. -/
structure InitResult (δ : Type) where
  dev : Option δ
  event : Option UInt64
  monitor : EventMonitor

/-- The loop over connectors in `virtio_gpu_init`, and the look at the last one behind it;
    `freed` says that this one was freed. -/
def findConnector (freed : Bool) : List (Option Bool) → Except AddFault Bool
  | [] => if freed then .error .freedConnector else .ok false
  | none :: _ => .error .nullConnector
  | some true :: _ => .ok true
  | some false :: rest => findConnector true rest

variable {δ : Type}

/-- The `init` of the device type: `virtio_net_do_init`, `virtio_console_do_init`,
    `virtio_gpu_init`, and those of the other devices, which have no event. -/
def deviceInit (type : VirtioDeviceType) (ans : InitAnswer δ) (m : EventMonitor) :
    Except AddFault (InitResult δ) :=
  if !(ans.allocated && ans.opens) then .ok ⟨none, none, m⟩
  else
    match type with
    | .net => (addEvent m ans.fd ans.block ans.epollCtl).map fun r =>
      ⟨if r.1.isSome && ans.completes then some ans.dev else none, r.1, r.2⟩
    | .console => (addEvent m ans.fd ans.block ans.epollCtl).map fun r =>
      ⟨if r.1.isSome then some ans.dev else none, r.1, r.2⟩
    | .gpu => (findConnector false ans.connectors).map fun found =>
      ⟨if found && ans.completes then some ans.dev else none, none, m⟩
    | _ => .ok ⟨some ans.dev, none, m⟩

/-- `ops->close` on a device that was never published. A GPU device with its private part has
    a scanout, and no frame buffer on it yet. -/
def closeDevice (type : VirtioDeviceType) (allocated : Bool) (event : Option UInt64)
    (m : EventMonitor) : Except AddFault EventMonitor :=
  if type = .gpu ∧ allocated = true then .error .missingArgument else .ok (closeEvent m event)

/-- The device type has an event. -/
def VirtioDeviceType.hasEvent : VirtioDeviceType → Bool
  | .net | .console => true
  | _ => false

/-- The device's `init` gets as far as the block of its event, and has none or registers it. -/
def Registers (type : VirtioDeviceType) (ans : InitAnswer δ) (m : EventMonitor) : Prop :=
  type.hasEvent = true ∧ ans.opens = true ∧ m.events.length < maxEvents ∧ 0 ≤ ans.fd ∧
    (ans.block = none ∨ ans.epollCtl = true)

/-- **The device cannot be taken back**: it registers, or it is a GPU device. -/
def Marks (type : VirtioDeviceType) (ans : InitAnswer δ) (m : EventMonitor) : Prop :=
  ans.allocated = true ∧ (type = .gpu ∨ Registers type ans m)

variable {m m' : EventMonitor} {fd : Int} {block : Option UInt64} {epollCtl : Bool}
  {type : VirtioDeviceType} {ans : InitAnswer δ}

theorem addEvent_refused
    (h : ¬ (m.events.length < maxEvents ∧ 0 ≤ fd ∧ (block = none ∨ epollCtl = true))) :
    addEvent m fd block epollCtl = .ok (none, m) := by
  unfold addEvent
  split
  · rfl
  next hlen =>
  split
  · rfl
  next hfd =>
  cases block with
  | none => exact absurd ⟨by omega, by omega, .inl rfl⟩ h
  | some hevent =>
    dsimp only
    split
    · next hctl => exact absurd ⟨by omega, by omega, .inr hctl⟩ h
    · rfl

/-- **What `add_event` does to the table**: nothing, or it takes a slot, and that where it
    gets as far as a block. -/
theorem addEvent_ok {e : Option UInt64} (h : addEvent m fd block epollCtl = .ok (e, m')) :
    m.events.length ≤ m'.events.length ∧
      (m.events.length < maxEvents → 0 ≤ fd → (block = none ∨ epollCtl = true) →
        m.events.length < m'.events.length) := by
  unfold addEvent at h
  split at h
  · cases h
    exact ⟨Nat.le_refl _, fun hlen => by omega⟩
  split at h
  · cases h
    exact ⟨Nat.le_refl _, fun _ hfd => by omega⟩
  cases block with
  | none => cases h
  | some hevent =>
    dsimp only at h
    split at h
    · cases h
      simp
    · next hctl =>
      cases h
      exact ⟨Nat.le_refl _, fun _ _ hreg => by simp [hctl] at hreg⟩

/-- **An `init` of a device that can be taken back leaves the monitor alone**, and succeeds
    for one without an event that got what it opened. -/
theorem deviceInit_quiet (h : ¬ Marks type ans m) :
    deviceInit type ans m = .ok
      ⟨if ans.allocated && ans.opens && !type.hasEvent then some ans.dev else none, none, m⟩ := by
  unfold deviceInit
  by_cases hopen : (ans.allocated && ans.opens) = true
  · obtain ⟨ha, ho⟩ := Bool.and_eq_true_iff.mp hopen
    have hadd : type.hasEvent = true → addEvent m ans.fd ans.block ans.epollCtl = .ok (none, m) :=
      fun ht => addEvent_refused fun hr => h ⟨ha, .inr ⟨ht, ho, hr⟩⟩
    rw [hopen]
    cases type with
    | net | console =>
      simp only [Bool.not_true, Bool.false_eq_true, if_false, hadd rfl]
      rfl
    | gpu => exact absurd ⟨ha, .inl rfl⟩ h
    | none | block | scmi => rfl
  · rw [Bool.eq_false_iff.mpr hopen]
    rfl

/-- **An `init` that returns frees no slot**, and takes one where it registers. -/
theorem deviceInit_ok {r : InitResult δ} (h : deviceInit type ans m = .ok r) :
    m.events.length ≤ r.monitor.events.length ∧
      (Marks type ans m → type ≠ .gpu → m.events.length < r.monitor.events.length) := by
  unfold deviceInit at h
  split at h
  · next hopen =>
    cases h
    refine ⟨Nat.le_refl _, fun hm hg => ?_⟩
    obtain ⟨ha, rfl | ⟨-, ho, -⟩⟩ := hm
    · exact absurd rfl hg
    · simp [ha, ho] at hopen
  · cases type with
    | net | console =>
      obtain ⟨⟨e, m'⟩, hadd, rfl⟩ := map_eq_ok.mp h
      obtain ⟨hle, hlt⟩ := addEvent_ok hadd
      refine ⟨hle, fun hm _ => ?_⟩
      obtain ⟨-, hg | ⟨-, -, hlen, hfd, hreg⟩⟩ := hm
      · cases hg
      · exact hlt hlen hfd hreg
    | gpu =>
      obtain ⟨found, -, rfl⟩ := map_eq_ok.mp h
      exact ⟨Nat.le_refl _, fun _ hg => absurd rfl hg⟩
    | none | block | scmi =>
      cases h
      refine ⟨Nat.le_refl _, fun hm _ => ?_⟩
      obtain ⟨-, hg | ⟨ht, -⟩⟩ := hm
      · cases hg
      · cases ht

/-- A device that is closed gives no slot back, and is not a GPU device with its private part. -/
theorem closeDevice_ok {allocated : Bool} {event : Option UInt64}
    (h : closeDevice type allocated event m = .ok m') :
    ¬ (type = .gpu ∧ allocated = true) ∧ m'.events.length = m.events.length := by
  unfold closeDevice at h
  split at h
  · cases h
  · next hg =>
    cases h
    exact ⟨hg, length_closeEvent ..⟩

end HvisorTool
