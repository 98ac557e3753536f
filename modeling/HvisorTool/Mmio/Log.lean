/-
  File:      HvisorTool/Mmio/Log.lean
  Subject:   THE REGISTER FILE AS A FUNCTION OF WHAT THE GUEST WROTE.

  After any sequence of accesses the registers follow from the writes alone, and so does
  what the driver set up of each queue: the writes that hit it since the last reset, in
  order, applied to a fresh queue. What the device does in its hooks plays no part.

  * `afterAccesses`: a sequence of accesses;
  * `queueLog`: the writes to the registers of one queue since the last reset;
  * `core_afterAccesses`: the queue is the replay of its log.
-/
import HvisorTool.Mmio.Index

namespace HvisorTool

variable {δ : Type}

/-- The device after a sequence of accesses. -/
def afterAccesses (ops : VirtioDeviceOps δ) (zm : ZoneTable) (d : VirtIODevice δ)
    (as : List MmioAccess) : VirtIODevice δ :=
  as.foldl (fun d a => (mmioAccess ops zm d a).1) d

/-! ## 1. Queues -/

/-- What the driver set up of a queue, without the event-index mode, which is not set
    through the queue's own registers. -/
def VirtQueue.core (vq : VirtQueue) : VirtQueue := { vq.setup with eventIdxEnabled := 0 }

/-- The registers that are kept in the selected queue. -/
def MmioReg.ofQueue : MmioReg → Bool
  | .queueNum | .queueReady | .queueDescLow | .queueDescHigh | .queueAvailLow
  | .queueAvailHigh | .queueUsedLow | .queueUsedHigh => true
  | _ => false

/-- A write to such a register, as a change of the queue. -/
def queueWrite (zm : ZoneTable) (value : UInt64) (vq : VirtQueue) : MmioReg → VirtQueue
  | .queueNum => { vq with num := value }
  | .queueReady => { vq with ready := value.toUInt8 }
  | .queueDescLow => { vq with descTableAddr := vq.descTableAddr ||| (value &&& 0xffffffff) }
  | .queueDescHigh =>
    virtqueueSetDescTable zm { vq with descTableAddr := vq.descTableAddr ||| (value <<< 32) }
  | .queueAvailLow => { vq with availAddr := vq.availAddr ||| (value &&& 0xffffffff) }
  | .queueAvailHigh =>
    virtqueueSetAvail zm { vq with availAddr := vq.availAddr ||| (value <<< 32) }
  | .queueUsedLow => { vq with usedAddr := vq.usedAddr ||| (value &&& 0xffffffff) }
  | .queueUsedHigh =>
    virtqueueSetUsed zm { vq with usedAddr := vq.usedAddr ||| (value <<< 32) }
  | _ => vq

theorem writeReg_ofQueue (ops : VirtioDeviceOps δ) (zm : ZoneTable) (d : VirtIODevice δ)
    (value : UInt64) (ret : Int) {r : MmioReg} (hr : r.ofQueue = true) :
    writeReg ops zm d value ret r = writeSelected d (queueWrite zm value · r) := by
  cases r <;> first | rfl | cases hr

theorem core_queueWrite (zm : ZoneTable) (value : UInt64) (vq : VirtQueue) (r : MmioReg) :
    (queueWrite zm value vq r).core = queueWrite zm value vq.core r := by
  cases r <;> rfl

/-- The core of queue `i`, if there is such a queue. -/
def VirtIODevice.core (d : VirtIODevice δ) (i : Nat) : Option VirtQueue :=
  (d.vqs[i]?).map VirtQueue.core

theorem core_runHook (h : Option (DeviceHook δ)) (d : VirtIODevice δ) (i : Nat) :
    (runHook h d).core i = d.core i := by
  cases h with
  | none => rfl
  | some h =>
    have hset : ((h.run d).vqs[i]?).map VirtQueue.setup = (d.vqs[i]?).map VirtQueue.setup := by
      rw [← List.getElem?_map, ← List.getElem?_map, h.vqs d]
    have hcore : ∀ o : Option VirtQueue, o.map VirtQueue.core =
        (o.map VirtQueue.setup).map VirtQueue.core := by
      intro o
      rw [Option.map_map]
      rfl
    unfold VirtIODevice.core runHook
    rw [hcore, hcore (d.vqs[i]?), hset]

theorem core_modifyVq (d : VirtIODevice δ) (j : Nat) (f : VirtQueue → VirtQueue) (i : Nat) :
    (d.modifyVq j f).core i = if j = i then (d.vqs[i]?).map (VirtQueue.core ∘ f) else d.core i := by
  unfold VirtIODevice.core VirtIODevice.modifyVq
  simp only [Int.natCast_nonneg, if_true, Int.toNat_natCast, List.getElem?_modify]
  by_cases hj : j = i
  · simp only [hj, if_true]
    exact Option.map_map ..
  · simp only [hj, if_false]
    exact congrArg _ Option.map_id'

theorem core_mapVqs (d : VirtIODevice δ) (f : Nat → VirtQueue → VirtQueue) (i : Nat) :
    (d.mapVqs f).core i = (d.vqs[i]?).map fun vq => (f i vq).core := by
  unfold VirtIODevice.core VirtIODevice.mapVqs
  rw [List.getElem?_mapIdx, Option.map_map]
  rfl

/-- A queue of zone `zoneId` that nothing was written to. -/
def freshQueue (zoneId queueNumMax : UInt32) (i : Nat) : VirtQueue :=
  { virtqueueReset default i with queueNumMax := queueNumMax, zoneId := zoneId }

/-- A reset looks at a queue's core only, whatever the device's own reset does. -/
theorem core_virtioDevReset (ops : VirtioDeviceOps δ) (d : VirtIODevice δ) (ret : Int) (i : Nat) :
    (virtioDevReset ops d ret).1.core i = (d.core i).map (virtqueueReset · i) := by
  have hready : ∀ (d : VirtIODevice δ) (j : Int),
      ((d.modifyVq j fun vq => { vq with ready := 0 }).core i).map (virtqueueReset · i) =
        (d.core i).map (virtqueueReset · i) := by
    intro d j
    rcases Int.lt_or_le j 0 with hneg | hpos
    · unfold VirtIODevice.modifyVq VirtIODevice.core
      simp only [if_neg (Int.not_le.mpr hneg)]
    · obtain ⟨k, rfl⟩ := Int.eq_ofNat_of_zero_le hpos
      rw [core_modifyVq]
      split
      · unfold VirtIODevice.core
        rw [Option.map_map, Option.map_map]
        rfl
      · rfl
  have hmap : ∀ d' : VirtIODevice δ, (d'.mapVqs fun i vq => virtqueueReset vq i).core i =
      (d'.core i).map (virtqueueReset · i) := by
    intro d'
    rw [core_mapVqs]
    unfold VirtIODevice.core
    rw [Option.map_map]
    rfl
  calc (virtioDevReset ops d ret).1.core i
      = ((runHook ops.reset (VirtIODevice.modifyVq
          { d with irq := d.irq.reset ret, regs := { d.regs with status := 0 } }
          (asInt d.regs.queueSel) fun vq => { vq with ready := 0 })).core i).map
            (virtqueueReset · i) := hmap _
    _ = (d.core i).map (virtqueueReset · i) := by
        rw [core_runHook, hready]
        rfl

/-- **What a write does to the core of queue `i`**: it changes it if it is selected, or
    resets it, or leaves it alone. -/
theorem core_writeReg (ops : VirtioDeviceOps δ) (zm : ZoneTable) (d : VirtIODevice δ)
    (value : UInt64) (ret : Int) (r : MmioReg) (i : Nat) :
    (writeReg ops zm d value ret r).1.core i =
      if r.ofQueue = true then
        if d.regs.queueSel.toNat = i then (d.core i).map (queueWrite zm value · r) else d.core i
      else if r = .status ∧ value.toUInt32 = 0 then (d.core i).map (virtqueueReset · i)
      else d.core i := by
  by_cases hq : r.ofQueue = true
  · rw [if_pos hq, writeReg_ofQueue ops zm d value ret hq]
    unfold writeSelected VirtIODevice.sel
    rw [core_modifyVq]
    split
    · unfold VirtIODevice.core
      rw [Option.map_map]
      refine congrArg (Option.map · d.vqs[i]?) (funext fun vq => ?_)
      exact core_queueWrite zm value vq r
    · rfl
  · rw [if_neg hq]
    cases r with
    | queueNum | queueReady | queueDescLow | queueDescHigh | queueAvailLow | queueAvailHigh
    | queueUsedLow | queueUsedHigh => exact absurd rfl hq
    | driverFeatures =>
      simp only [writeReg, writeDriverFeatures, reduceCtorEq, false_and, if_false]
      split
      · exact core_mapVqs ..
      · rfl
    | queueNotify =>
      simp only [writeReg, writeQueueNotify, reduceCtorEq, false_and, if_false]
      split
      · exact core_runHook ..
      · rfl
    | status =>
      simp only [writeReg, writeStatus, core_runHook, true_and]
      split
      · exact core_virtioDevReset ..
      · rfl
    | _ => simp [writeReg, VirtIODevice.core]

/-! ## 2. The log of a queue -/

/-- The selected queue, and the writes that hit queue `i` since the last reset. -/
structure QueueLog where
  sel : UInt32
  writes : List (MmioReg × UInt64)

/-- The log of queue `i` after one more access. -/
def QueueLog.after (i : Nat) (l : QueueLog) : MmioAccess → QueueLog
  | .read _ _ => l
  | .write offset value size _ =>
    match selectedReg offset size with
    | none => l
    | some r =>
      if r.ofQueue then
        if l.sel.toNat = i then { l with writes := l.writes ++ [(r, value)] } else l
      else if r = .queueSel then { l with sel := value.toUInt32 }
      else if r = .status ∧ value.toUInt32 = 0 then { l with writes := [] }
      else l

/-- The log of queue `i` after a sequence of accesses to a new device. -/
def queueLog (i : Nat) (as : List MmioAccess) : List (MmioReg × UInt64) :=
  (as.foldl (QueueLog.after i) ⟨0, []⟩).writes

/-- The writes of a log applied to a queue. -/
def replay (zm : ZoneTable) (vq : VirtQueue) (writes : List (MmioReg × UInt64)) : VirtQueue :=
  writes.foldl (fun vq w => queueWrite zm w.2 vq w.1) vq

theorem replay_concat (zm : ZoneTable) (vq : VirtQueue) (writes : List (MmioReg × UInt64))
    (w : MmioReg × UInt64) :
    replay zm vq (writes ++ [w]) = queueWrite zm w.2 (replay zm vq writes) w.1 := by
  unfold replay
  rw [List.foldl_append]
  rfl

/-- A reset gives back the queue that the log started from. -/
theorem virtqueueReset_replay (zm : ZoneTable) (vq : VirtQueue) (writes : List (MmioReg × UInt64))
    (i : Nat) : virtqueueReset (replay zm vq writes) i = virtqueueReset vq i := by
  induction writes generalizing vq with
  | nil => rfl
  | cons w writes ih =>
    have hw : virtqueueReset (queueWrite zm w.2 vq w.1) i = virtqueueReset vq i := by
      cases w.1 <;> rfl
    exact (ih _).trans hw

/-- The device is where the log of queue `i` says. -/
structure Follows (zm : ZoneTable) (zoneId queueNumMax : UInt32) (i : Nat) (d : VirtIODevice δ)
    (l : QueueLog) : Prop where
  sel : d.regs.queueSel = l.sel
  core : ∀ vq, d.core i = some vq → vq = replay zm (freshQueue zoneId queueNumMax i) l.writes

variable {zm : ZoneTable} {zoneId queueNumMax : UInt32} {i : Nat} {d : VirtIODevice δ}
  {l : QueueLog} {ops : VirtioDeviceOps δ}

/-- A move that leaves the queue and its writes as they are. -/
theorem Follows.keep {d' : VirtIODevice δ} {l' : QueueLog} (h : Follows zm zoneId queueNumMax i d l)
    (hsel : d'.regs.queueSel = l'.sel) (hwrites : l'.writes = l.writes)
    (hcore : d'.core i = d.core i) : Follows zm zoneId queueNumMax i d' l' := by
  refine ⟨hsel, ?_⟩
  intro vq hvq
  rw [hcore] at hvq
  rw [hwrites]
  exact h.core vq hvq

/-- One access moves the device and the log alike. -/
theorem Follows.access (h : Follows zm zoneId queueNumMax i d l) (ops : VirtioDeviceOps δ)
    (a : MmioAccess) : Follows zm zoneId queueNumMax i (mmioAccess ops zm d a).1 (l.after i a) := by
  cases a with
  | read offset size => exact h
  | write offset value size ret =>
    simp only [mmioAccess, virtioMmioWrite_eq, QueueLog.after]
    cases selectedReg offset size with
    | none => exact h
    | some r =>
      dsimp only
      have hregs := regs_writeReg ops zm d value ret r
      have hsel := congrArg VirtMmioRegs.queueSel hregs
      rw [queueSel_regsAfter] at hsel
      have hcore := core_writeReg ops zm d value ret r i
      by_cases hq : r.ofQueue = true
      · have hne : r ≠ .queueSel := fun he => by rw [he] at hq; cases hq
        rw [if_neg hne] at hsel
        rw [if_pos hq, h.sel] at hcore
        rw [if_pos hq]
        by_cases hi : l.sel.toNat = i
        · rw [if_pos hi] at hcore ⊢
          refine ⟨hsel.trans h.sel, ?_⟩
          intro vq hvq
          rw [hcore] at hvq
          obtain ⟨vq₀, hvq₀, rfl⟩ := Option.map_eq_some_iff.mp hvq
          rw [replay_concat, ← h.core vq₀ hvq₀]
        · rw [if_neg hi] at hcore ⊢
          exact h.keep (hsel.trans h.sel) rfl hcore
      · rw [if_neg hq] at hcore ⊢
        by_cases hs : r = .queueSel
        · rw [if_pos hs] at hsel ⊢
          rw [if_neg fun hst => by rw [hs] at hst; cases hst.1] at hcore
          exact h.keep hsel rfl hcore
        · rw [if_neg hs] at hsel ⊢
          by_cases hr : r = .status ∧ value.toUInt32 = 0
          · rw [if_pos hr] at hcore ⊢
            refine ⟨hsel.trans h.sel, ?_⟩
            intro vq hvq
            rw [hcore] at hvq
            obtain ⟨vq₀, hvq₀, rfl⟩ := Option.map_eq_some_iff.mp hvq
            rw [h.core vq₀ hvq₀, virtqueueReset_replay]
            rfl
          · rw [if_neg hr] at hcore ⊢
            exact h.keep (hsel.trans h.sel) rfl hcore

/-- What the device does by itself moves neither. -/
theorem Follows.hook (h : Follows zm zoneId queueNumMax i d l)
    (work : DeviceHook δ) : Follows zm zoneId queueNumMax i (work.run d) l := by
  have hsel := congrArg VirtMmioRegs.queueSel (work.regs d)
  exact h.keep (hsel.trans h.sel) rfl (core_runHook (some work) d i)

/-- A queue of the device is the replay of its log. -/
theorem Follows.core_eq (h : Follows zm zoneId queueNumMax i d l) {vq : VirtQueue}
    (hvq : d.vqs[i]? = some vq) :
    vq.core = replay zm (freshQueue zoneId queueNumMax i) l.writes := by
  refine h.core vq.core ?_
  unfold VirtIODevice.core
  rw [hvq]
  rfl

theorem Follows.accesses (h : Follows zm zoneId queueNumMax i d l) (ops : VirtioDeviceOps δ)
    (as : List MmioAccess) :
    Follows zm zoneId queueNumMax i (afterAccesses ops zm d as)
      (as.foldl (QueueLog.after i) l) := by
  induction as generalizing d l with
  | nil => exact h
  | cons a as ih => exact ih (h.access ops a)

/-! ## 3. A new device -/

/-- The device is one that `create_virtio_device_unpublished` made with these
    operations. -/
def Created (ops : VirtioDeviceOps δ) (d : VirtIODevice δ) : Prop :=
  ∃ lookupOps id init, lookupOps id.type = some ops ∧
    createVirtioDeviceUnpublished lookupOps id init = some d

theorem created_cases (h : Created ops d) :
    d.regs = initMmioRegs d.type ops.features ∧ d.vqs = initVirtioQueue ops d.zoneId := by
  obtain ⟨lookupOps, id, init, hops, hd⟩ := h
  unfold createVirtioDeviceUnpublished at hd
  rw [hops] at hd
  cases init with
  | none => cases hd
  | some dev =>
    dsimp only at hd
    split at hd
    · cases hd
      exact ⟨rfl, rfl⟩
    · cases hd

theorem follows_created (h : Created ops d) (zm : ZoneTable) (i : Nat) :
    Follows zm d.zoneId ops.queueMaxSize i d ⟨0, []⟩ := by
  obtain ⟨hregs, hvqs⟩ := created_cases h
  refine ⟨by rw [hregs]; rfl, ?_⟩
  intro vq hvq
  unfold VirtIODevice.core at hvq
  rw [hvqs, initVirtioQueue, List.getElem?_map] at hvq
  obtain ⟨vq₁, hvq₁, rfl⟩ := Option.map_eq_some_iff.mp hvq
  obtain ⟨j, hj, rfl⟩ := Option.map_eq_some_iff.mp hvq₁
  obtain ⟨hlt, hji⟩ := List.getElem?_eq_some_iff.mp hj
  rw [List.getElem_range] at hji
  rw [← hji]
  rfl

/-- **What the driver set up of a queue is the replay of the queue's log**, after any
    accesses to a new device. -/
theorem core_afterAccesses (h : Created ops d) (zm : ZoneTable) (as : List MmioAccess)
    {vq : VirtQueue} (hvq : (afterAccesses ops zm d as).vqs[i]? = some vq) :
    vq.core = replay zm (freshQueue d.zoneId ops.queueMaxSize i) (queueLog i as) :=
  ((follows_created h zm i).accesses ops as).core_eq hvq

/-- A new block device in zone 1, with one queue and no operations of its own. -/
def bareDevice : VirtIODevice Unit :=
  { toDeviceIdentity := ⟨1, 79, 0xa003c00, 0x200, .block⟩
    regs := initMmioRegs .block 0
    irq := IrqLine.down
    vqs := initVirtioQueue bareOps 1
    dev := ()
    activated := false
    vqsBound := by decide }

theorem created_bareDevice : Created bareOps bareDevice :=
  ⟨fun _ => some bareOps, ⟨1, 79, 0xa003c00, 0x200, .block⟩, some (), rfl, rfl⟩

end HvisorTool
