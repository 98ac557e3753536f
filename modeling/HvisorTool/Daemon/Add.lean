/-
  File:      HvisorTool/Daemon/Add.lean
  Subject:   A REQUEST TO ADD DEVICES, FROM THE FILE TO THE ANSWER: `read_file`,
             `virtio_start_from_json` and `virtio_add_from_json` with what they do to the
             process and to the event monitor, and what a failed request leaves behind.

  `Start.lean` has the stages on the device table and the memory map; here a request also says how
  the file's system calls and each device's `init` answer, and the state also has the event monitor
  and whether the process still runs (`read_file` ends it with `exit`, and a fault ends it too).

  * `handleAdd`: the request; `handleAdd_refines`: one that is answered is `virtioAddFromJson`
    on the table and the map;
  * `Unchanged`: what a failed request should leave;
  * `Traceless`: the condition under which it does, on the request and the state before it;
  * `failed_add_unchanged_iff`: exactly then.
-/
import HvisorTool.Boot.ReadFile
import HvisorTool.Daemon.Events
import HvisorTool.Daemon.Table
import HvisorTool.Virtio.ZoneMap

namespace HvisorTool

open Library

variable {δ : Type}

/-! ## 1. The request -/

/-- The daemon with its event monitor. -/
structure DaemonProc (δ : Type) extends Daemon δ where
  running : Bool
  monitor : EventMonitor

/-- The file of a request; `parse` is the JSON parser together with `parse_virtio_config`. -/
structure FileAnswer where
  page : PageSize
  file : InputFile
  parse : List UInt8 → Option VirtioConfig

/-- The configuration that `virtio_start_from_json` goes on with, if there is one. -/
def FileAnswer.config (f : FileAnswer) : Except FileFault (Option VirtioConfig) :=
  (readJsonText f.page f.file).map fun text => text.bind fun buffer => f.parse (cString buffer)

/-- A request to the control server, with the answers of the system. -/
structure AddInput (δ : Type) where
  file : FileAnswer
  mmap : (z : ZoneMem) → (mem : VirtioMemoryRegionConfig) → Option (Mapping z mem)
  answers : Nat → InitAnswer δ

/-- A device that is created and not published, and the event it registered. -/
abbrev NewDevice (δ : Type) := VirtIODevice δ × Option UInt64

/-- `create_virtio_device_unpublished` gets as far as `ops->init`. -/
def reachesInit (lookupOps : OpsTable δ) (type : VirtioDeviceType) : Bool :=
  match lookupOps type with
  | some ops => decide (0 < ops.numQueues.toNat ∧ ops.numQueues.toNat ≤ virtioMaxVqueues)
  | none => false

/-- What `ops->init` leaves, if it is called. -/
def runInit (lookupOps : OpsTable δ) (type : VirtioDeviceType)
    (ans : InitAnswer δ) (m : EventMonitor) : Except AddFault (InitResult δ) :=
  if reachesInit lookupOps type then deviceInit type ans m else .ok ⟨none, none, m⟩

/-- `create_virtio_device_unpublished` with the event monitor: where `init` fails,
    `ops->close` runs. -/
def createDevice (lookupOps : OpsTable δ) (id : DeviceIdentity)
    (ans : InitAnswer δ) (m : EventMonitor) :
    Except AddFault (Option (NewDevice δ) × EventMonitor) := do
  let r ← runInit lookupOps id.type ans m
  match createVirtioDeviceUnpublished lookupOps id r.dev with
  | some vdev => .ok (some (vdev, r.event), r.monitor)
  | none =>
    let allocated := reachesInit lookupOps id.type && ans.allocated
    (closeDevice id.type allocated r.event r.monitor).map fun m => (none, m)

/-- `destroy_unpublished_virtio_device` on all new devices. -/
def destroyAll (m : EventMonitor) (new : List (NewDevice δ)) : Except AddFault EventMonitor :=
  new.foldlM (fun m d => closeDevice d.1.type true d.2 m) m

/-- The creation loop of `create_virtio_config_devices`; `new` are the devices made so
    far. -/
def createLoop (lookupOps : OpsTable δ)
    (answers : Nat → InitAnswer δ) : List (NewDevice δ) → List VirtioDeviceConfig →
      EventMonitor → Except AddFault (Option (List (NewDevice δ)) × EventMonitor)
  | new, [], m => .ok (some new, m)
  | new, dev :: devs, m =>
    if !dev.enabled then createLoop lookupOps answers new devs m
    else do
      match ← createDevice lookupOps dev.identity (answers new.length) m with
      | (none, m) => (destroyAll m new).map fun m => (none, m)
      | (some d, m) =>
        if new.length = maxDevs then do
          let m ← closeDevice d.1.type true d.2 m
          (destroyAll m new).map fun m => (none, m)
        else createLoop lookupOps answers (new ++ [d]) devs m

/-- `create_virtio_config_devices`: the table, if it succeeds, and the monitor. -/
def createAndPublish (lookupOps : OpsTable δ)
    (answers : Nat → InitAnswer δ) (vdevs : List (VirtIODevice δ)) (cfg : VirtioConfig)
    (m : EventMonitor) : Except AddFault (Option (List (VirtIODevice δ)) × EventMonitor) := do
  match ← createLoop lookupOps answers [] (configDevices cfg) m with
  | (none, m) => .ok (none, m)
  | (some new, m) =>
    match publishVirtioDevices vdevs (new.map (·.1)) with
    | some vdevs => .ok (some vdevs, m)
    | none => (destroyAll m new).map fun m => (none, m)

/-- What the client sees: the status of the answer, or none at all. -/
inductive AddOutcome where
  | fileFault (f : FileFault)
  | deviceFault (f : AddFault)
  | answered (status : Int)
  deriving DecidableEq, Repr

/-- `virtio_add_from_json` from the configuration on. -/
def addConfig (lookupOps : OpsTable δ) (s : DaemonProc δ)
    (req : AddInput δ) (cfg : VirtioConfig) : AddOutcome × DaemonProc δ :=
  if validateVirtioConfigDevices s.vdevs cfg then
    let r := mmapZones req.mmap cfg s.zoneMem
    let s := { s with zoneMem := r.2 }
    if r.1 = 0 then
      match createAndPublish lookupOps req.answers s.vdevs cfg s.monitor with
      | .error f => (.deviceFault f, { s with running := false })
      | .ok (some vdevs, m) =>
        (.answered 0, { s with
          vdevs := vdevs, monitor := m, mmioAddrs := vdevs.map (·.baseAddr) })
      | .ok (none, m) => (.answered (-1), { s with monitor := m })
    else (.answered (-1), s)
  else (.answered (-1), s)

/-- The request: `handle_control_client` with `virtio_add_from_json`. -/
def handleAdd (lookupOps : OpsTable δ) (s : DaemonProc δ)
    (req : AddInput δ) : AddOutcome × DaemonProc δ :=
  match req.file.config with
  | .error f => (.fileFault f, { s with running := false })
  | .ok none => (.answered (-1), s)
  | .ok (some cfg) => addConfig lookupOps s req cfg

section Loop

variable {lookupOps : OpsTable δ} {answers : Nat → InitAnswer δ}
  {id : DeviceIdentity} {ans : InitAnswer δ} {new : List (NewDevice δ)} {dev : VirtioDeviceConfig}
  {devs : List VirtioDeviceConfig} {vdevs : List (VirtIODevice δ)} {cfg : VirtioConfig}
  {m m' : EventMonitor}

/-- How a creation that returns ends: with the device, or with it taken back. -/
theorem createDevice_ok {o : Option (NewDevice δ)}
    (h : createDevice lookupOps id ans m = .ok (o, m')) :
    ∃ r, runInit lookupOps id.type ans m = .ok r ∧
      ((∃ vdev, createVirtioDeviceUnpublished lookupOps id r.dev = some vdev ∧
          o = some (vdev, r.event) ∧ m' = r.monitor) ∨
        (createVirtioDeviceUnpublished lookupOps id r.dev = none ∧ o = none ∧
          closeDevice id.type (reachesInit lookupOps id.type && ans.allocated) r.event
            r.monitor = .ok m')) := by
  obtain ⟨r, hrun, h⟩ := bind_eq_ok.mp h
  refine ⟨r, hrun, ?_⟩
  cases hv : createVirtioDeviceUnpublished lookupOps id r.dev with
  | some vdev =>
    rw [hv] at h
    cases h
    exact .inl ⟨vdev, rfl, rfl, rfl⟩
  | none =>
    rw [hv] at h
    obtain ⟨m₁, hclose, hm⟩ := map_eq_ok.mp h
    cases hm
    exact .inr ⟨rfl, rfl, hclose⟩

theorem createLoop_disabled (hen : dev.enabled = false) (devs : List VirtioDeviceConfig) :
    createLoop lookupOps answers new (dev :: devs) m = createLoop lookupOps answers new devs m := by
  rw [createLoop, hen]
  rfl

/-- **How the loop goes on at an enabled device, if it returns**: what was made is taken back,
    the last device too where there is no room for it; or the loop goes on with it. -/
theorem createLoop_cases {r : Option (List (NewDevice δ))} (hen : dev.enabled = true)
    (h : createLoop lookupOps answers new (dev :: devs) m = .ok (r, m')) :
    ∃ o m₁, createDevice lookupOps dev.identity (answers new.length) m = .ok (o, m₁) ∧
      ((r = none ∧ ∃ m₂, destroyAll m₂ new = .ok m' ∧
          (o = none ∧ m₂ = m₁ ∨
            ∃ d, o = some d ∧ new.length = maxDevs ∧ closeDevice d.1.type true d.2 m₁ = .ok m₂)) ∨
        ∃ d, o = some d ∧ new.length ≠ maxDevs ∧
          createLoop lookupOps answers (new ++ [d]) devs m₁ = .ok (r, m')) := by
  rw [createLoop, if_neg (by simp [hen])] at h
  obtain ⟨⟨o, m₁⟩, hc, h⟩ := bind_eq_ok.mp h
  refine ⟨o, m₁, hc, ?_⟩
  cases o with
  | none =>
    obtain ⟨m₂, hdestroy, hm⟩ := map_eq_ok.mp h
    cases hm
    exact .inl ⟨rfl, m₁, hdestroy, .inl ⟨rfl, rfl⟩⟩
  | some d =>
    dsimp only at h
    split at h
    · next hfull =>
      obtain ⟨m₂, hclose, h⟩ := bind_eq_ok.mp h
      obtain ⟨m₃, hdestroy, hm⟩ := map_eq_ok.mp h
      cases hm
      exact .inl ⟨rfl, m₂, hdestroy, .inr ⟨d, rfl, hfull, hclose⟩⟩
    · next hfull => exact .inr ⟨d, rfl, hfull, h⟩

/-- How creating and publishing ends, if it returns. -/
theorem createAndPublish_ok {r : Option (List (VirtIODevice δ))}
    (h : createAndPublish lookupOps answers vdevs cfg m = .ok (r, m')) :
    ∃ made m₁, createLoop lookupOps answers [] (configDevices cfg) m = .ok (made, m₁) ∧
      r = made.bind (fun new => publishVirtioDevices vdevs (new.map (·.1))) ∧
      (m' = m₁ ∧ (made = none ∨ r ≠ none) ∨
        r = none ∧ ∃ new, made = some new ∧ destroyAll m₁ new = .ok m') := by
  obtain ⟨⟨made, m₁⟩, hloop, h⟩ := bind_eq_ok.mp h
  refine ⟨made, m₁, hloop, ?_⟩
  cases made with
  | none =>
    cases h
    exact ⟨rfl, .inl ⟨rfl, .inl rfl⟩⟩
  | some new =>
    rw [Option.bind_some]
    cases hpub : publishVirtioDevices vdevs (new.map (·.1)) with
    | some vdevs' =>
      dsimp only at h
      rw [hpub] at h
      cases h
      exact ⟨rfl, .inl ⟨rfl, .inr (Option.some_ne_none _)⟩⟩
    | none =>
      dsimp only at h
      rw [hpub] at h
      obtain ⟨m₂, hdestroy, hm⟩ := map_eq_ok.mp h
      cases hm
      exact ⟨rfl, .inr ⟨rfl, new, rfl, hdestroy⟩⟩

end Loop

/-! ## 2. The device table sees `virtio_add_from_json` -/

section Refinement

variable (lookupOps : OpsTable δ)
  (answers : Nat → InitAnswer δ)

/-- The creation loop reads the answers of the devices from `count` on only. -/
theorem createDevices_congr {init init' : Nat → Option δ} {count : Nat}
    (h : ∀ k, count ≤ k → init k = init' k) (devs : List VirtioDeviceConfig) :
    createDevices lookupOps init count devs = createDevices lookupOps init' count devs := by
  induction devs generalizing count with
  | nil => rfl
  | cons dev devs ih =>
    have htail := ih fun k hk => h k (Nat.le_of_succ_le hk)
    simp only [createDevices, h count (Nat.le_refl _), htail, ih h]

/-- The loop creates what `createDevices` creates, for the `init` results that the
    monitor leads to. -/
theorem createLoop_refines {new : List (NewDevice δ)} {devs : List VirtioDeviceConfig}
    {m m' : EventMonitor} {r : Option (List (NewDevice δ))}
    (h : createLoop lookupOps answers new devs m = .ok (r, m')) :
    ∃ init : Nat → Option δ, r.map (List.map (·.1)) =
      (createDevices lookupOps init new.length devs).map (new.map (·.1) ++ ·) := by
  induction devs generalizing new m with
  | nil =>
    cases h
    exact ⟨fun _ => none, by simp [createDevices]⟩
  | cons dev devs ih =>
    cases hen : dev.enabled with
    | false =>
      rw [createLoop_disabled hen] at h
      obtain ⟨init, hinit⟩ := ih h
      exact ⟨init, by simpa [createDevices, hen] using hinit⟩
    | true =>
      obtain ⟨o, m₁, hc, hrest⟩ := createLoop_cases hen h
      obtain ⟨dev₀, hv⟩ : ∃ dev₀, o.map (·.1) =
          createVirtioDeviceUnpublished lookupOps dev.identity dev₀ := by
        obtain ⟨res, -, ⟨vdev, hv, rfl, -⟩ | ⟨hv, rfl, -⟩⟩ := createDevice_ok hc
        all_goals exact ⟨res.dev, hv.symm⟩
      rcases hrest with ⟨rfl, m₂, -, ⟨rfl, -⟩ | ⟨d, rfl, hfull, -⟩⟩ | ⟨d, rfl, hfull, h⟩
      · exact ⟨fun _ => dev₀, by simp [createDevices, hen, ← hv]⟩
      · exact ⟨fun _ => dev₀, by simp [createDevices, hen, ← hv, hfull]⟩
      · obtain ⟨init, hinit⟩ := ih h
        refine ⟨fun k => if k = new.length then dev₀ else init k, ?_⟩
        have hlater : createDevices lookupOps
            (fun k => if k = new.length then dev₀ else init k) (new.length + 1) devs =
              createDevices lookupOps init (new.length + 1) devs :=
          createDevices_congr lookupOps (fun k hk => if_neg (by omega)) devs
        rw [List.length_append, List.length_singleton] at hinit
        rw [hinit]
        simp [createDevices, hen, ← hv, hfull, hlater, Function.comp_def]

theorem createAndPublish_refines {vdevs : List (VirtIODevice δ)} {cfg : VirtioConfig}
    {m m' : EventMonitor} {r : Option (List (VirtIODevice δ))}
    (h : createAndPublish lookupOps answers vdevs cfg m = .ok (r, m')) :
    ∃ init : Nat → Option δ, r = createVirtioConfigDevices lookupOps init vdevs cfg := by
  obtain ⟨made, m₁, hloop, rfl, -⟩ := createAndPublish_ok h
  obtain ⟨init, hinit⟩ := createLoop_refines lookupOps answers hloop
  have hmade : made.map (List.map (·.1)) =
      createDevices lookupOps init 0 (configDevices cfg) := by simpa using hinit
  refine ⟨init, ?_⟩
  rw [createVirtioConfigDevices, ← hmade, Option.bind_map]
  rfl

/-- **On the table and the map a request that is answered is `virtio_add_from_json`**, for some
    answers of the devices' `init`: every path that comes to a reply, with each failure and
    its clean-up. -/
theorem handleAdd_refines (s : DaemonProc δ) (req : AddInput δ) {status : Int}
    (h : (handleAdd lookupOps s req).1 = .answered status) :
    ∃ config init, req.file.config = .ok config ∧
      virtioAddFromJson lookupOps s.toDaemon ⟨config, req.mmap, init⟩ =
        (status, (handleAdd lookupOps s req).2.toDaemon) := by
  unfold handleAdd at h ⊢
  rcases hcfg : req.file.config with f | _ | cfg
  · rw [hcfg] at h
    cases h
  · rw [hcfg] at h
    cases h
    exact ⟨none, fun _ => none, rfl, rfl⟩
  · rw [hcfg] at h
    dsimp only at h ⊢
    unfold addConfig at h ⊢
    by_cases hval : validateVirtioConfigDevices s.vdevs cfg = true
    · by_cases hmap : (mmapZones req.mmap cfg s.zoneMem).1 = 0
      · simp only [hval, hmap, if_true] at h ⊢
        rcases hc : createAndPublish lookupOps req.answers s.vdevs cfg s.monitor with f | ⟨r, m⟩
        · rw [hc] at h
          cases h
        · obtain ⟨init, hinit⟩ := createAndPublish_refines lookupOps req.answers hc
          refine ⟨some cfg, init, rfl, ?_⟩
          rw [hc] at h
          simp only [virtioAddFromJson, virtioStartFromJson, hval, hmap, if_true, ← hinit]
          cases r with
          | some vdevs =>
            cases h
            rfl
          | none =>
            cases h
            rfl
      · refine ⟨some cfg, fun _ => none, rfl, ?_⟩
        simp only [hval, hmap, if_true, if_false] at h ⊢
        cases h
        simp [virtioAddFromJson, virtioStartFromJson, hval, hmap]
    · refine ⟨some cfg, fun _ => none, rfl, ?_⟩
      simp only [hval] at h ⊢
      cases h
      simp [virtioAddFromJson, virtioStartFromJson, hval]

end Refinement

/-! ## 3. What the mapping of memory leaves -/

section Regions

variable (mmap : (z : ZoneMem) → (mem : VirtioMemoryRegionConfig) → Option (Mapping z mem))

/-- The region is in the zone's map already. -/
def isMapped (z : ZoneMem) (mem : VirtioMemoryRegionConfig) : Bool :=
  findZoneMemoryRegionLocked mem z.regions == .mapped

/-- The region can be added to the zone's map. -/
def CanMap (z : ZoneMem) (mem : VirtioMemoryRegionConfig) : Prop :=
  findZoneMemoryRegionLocked mem z.regions = .free ∧ mem.size ≠ 0 ∧
    z.regions.length < configMaxMemoryRegions ∧ (mmap z mem).isSome = true

/-- The zone of a configuration as an index of `zone_mem`. -/
def VirtioZoneConfig.zone (c : VirtioZoneConfig) : Fin maxZones := ⟨c.zoneId.toNat, c.zoneBound⟩

/-- The regions of a configuration with their zones, in the order of the loops. -/
def configRegions (cfg : VirtioConfig) : List (Fin maxZones × VirtioMemoryRegionConfig) :=
  cfg.flatMap fun c => c.memoryRegions.map fun mem => (c.zone, mem)

/-- The first region of a configuration that is not mapped yet. -/
def firstUnmapped (zm : ZoneTable) (cfg : VirtioConfig) :
    Option (Fin maxZones × VirtioMemoryRegionConfig) :=
  (configRegions cfg).find? fun p => !isMapped (zm p.1) p.2

variable {zm : ZoneTable} {cfg : VirtioConfig} {z : ZoneMem} {mem : VirtioMemoryRegionConfig}
  {mems : List VirtioMemoryRegionConfig} {i : Fin maxZones}

theorem mmapVirtioZoneMemory_mapped (h : isMapped z mem = true)
    (mems : List VirtioMemoryRegionConfig) :
    mmapVirtioZoneMemory mmap (mem :: mems) z = mmapVirtioZoneMemory mmap mems z := by
  have hf : findZoneMemoryRegionLocked mem z.regions = .mapped := beq_iff_eq.mp h
  rw [mmapVirtioZoneMemory]
  split
  · rfl
  · next hc => cases hf.symm.trans hc
  · next hc => cases hf.symm.trans hc

/-- A call whose regions are all mapped does nothing. -/
theorem mmapVirtioZoneMemory_all (h : mems.find? (fun mem => !isMapped z mem) = none) :
    mmapVirtioZoneMemory mmap mems z = (0, z) := by
  induction mems with
  | nil => rfl
  | cons mem mems ih =>
    cases hm : isMapped z mem with
    | true =>
      rw [List.find?_cons, hm] at h
      rw [mmapVirtioZoneMemory_mapped mmap hm]
      exact ih h
    | false =>
      rw [List.find?_cons, hm] at h
      cases h

/-- A call comes to its first region that is not mapped with the map as it was. -/
theorem mmapVirtioZoneMemory_skip (h : mems.find? (fun mem => !isMapped z mem) = some mem) :
    isMapped z mem = false ∧ ∃ rest,
      mmapVirtioZoneMemory mmap mems z = mmapVirtioZoneMemory mmap (mem :: rest) z := by
  refine ⟨by simpa using List.find?_some h, ?_⟩
  induction mems with
  | nil => cases h
  | cons mem' mems ih =>
    cases hm : isMapped z mem' with
    | true =>
      rw [List.find?_cons, hm] at h
      obtain ⟨rest, hrest⟩ := ih h
      exact ⟨rest, (mmapVirtioZoneMemory_mapped mmap hm mems).trans hrest⟩
    | false =>
      rw [List.find?_cons, hm] at h
      cases h
      exact ⟨mems, rfl⟩

/-- A region that is not mapped and cannot be: the call fails there. -/
theorem mmapVirtioZoneMemory_refused (hm : isMapped z mem = false) (h : ¬ CanMap mmap z mem)
    (mems : List VirtioMemoryRegionConfig) :
    mmapVirtioZoneMemory mmap (mem :: mems) z = (-1, z) := by
  rw [mmapVirtioZoneMemory]
  split
  · next hc => exact absurd (beq_iff_eq.mpr hc) (Bool.eq_false_iff.mp hm)
  · rfl
  · next hf =>
    split
    · rfl
    · next hsize =>
      split
      · next hroom =>
        split
        · rfl
        · next m hmap => exact absurd ⟨hf, hsize, hroom, by rw [hmap]; rfl⟩ h
      · rfl

/-- A region that can be mapped is there after the call, whatever comes behind it. -/
theorem mmapVirtioZoneMemory_adds (h : CanMap mmap z mem) (mems : List VirtioMemoryRegionConfig) :
    z.regions.length < (mmapVirtioZoneMemory mmap (mem :: mems) z).2.regions.length := by
  obtain ⟨hf, hsize, hroom, hmap⟩ := h
  obtain ⟨m, hm⟩ := Option.isSome_iff_exists.mp hmap
  rw [mmapVirtioZoneMemory]
  split
  · next hc => cases hf.symm.trans hc
  · next hc => cases hf.symm.trans hc
  · rw [if_neg hsize, dif_pos hroom, hm]
    dsimp only
    rw [if_neg fun hne => hne rfl]
    obtain ⟨new, hnew, -⟩ := mmapVirtioZoneMemory_grows mmap mems (z.push mem m hf hroom)
    rw [hnew, ZoneMem.push, List.length_append, List.length_append, List.length_singleton]
    omega

/-- One round of the loop over zones. -/
theorem mmapZones_cons (c : VirtioZoneConfig) (cfg : VirtioConfig) (zm : ZoneTable) :
    mmapZones mmap (c :: cfg) zm =
      if (mmapVirtioZoneMemory mmap c.memoryRegions (zm c.zone)).1 = 0 then
        mmapZones mmap cfg (Function.update zm c.zone
          (mmapVirtioZoneMemory mmap c.memoryRegions (zm c.zone)).2)
      else (-1, Function.update zm c.zone
        (mmapVirtioZoneMemory mmap c.memoryRegions (zm c.zone)).2) := by
  have hupd : (fun i => if i = c.zone then
      (mmapVirtioZoneMemory mmap c.memoryRegions (zm c.zone)).2 else zm i) =
        Function.update zm c.zone (mmapVirtioZoneMemory mmap c.memoryRegions (zm c.zone)).2 := by
    funext i
    rw [Function.update_apply]
  rw [← hupd]
  rfl

theorem grown_update {j : Fin maxZones} (h : (zm j).regions <+: z.regions) :
    Grown zm (Function.update zm j z) := by
  intro i
  rw [Function.update_apply]
  split
  · next hi => rw [hi]; exact h
  · exact List.prefix_refl _

/-- The loop over zones only adds to the map. -/
theorem mmapZones_grown (cfg : VirtioConfig) (zm : ZoneTable) :
    Grown zm (mmapZones mmap cfg zm).2 := by
  induction cfg generalizing zm with
  | nil => exact fun _ => List.prefix_refl _
  | cons c cfg ih =>
    obtain ⟨new, hnew, -⟩ := mmapVirtioZoneMemory_grows mmap c.memoryRegions (zm c.zone)
    have hstep := grown_update ⟨new, hnew.symm⟩
    rw [mmapZones_cons]
    split
    · exact fun i => (hstep i).trans (ih _ i)
    · exact hstep

theorem firstUnmapped_cons (zm : ZoneTable) (c : VirtioZoneConfig) (cfg : VirtioConfig) :
    firstUnmapped zm (c :: cfg) =
      ((c.memoryRegions.find? fun mem => !isMapped (zm c.zone) mem).map fun mem =>
        (c.zone, mem)).or (firstUnmapped zm cfg) := by
  rw [firstUnmapped, configRegions, List.flatMap_cons, List.find?_append, List.find?_map]
  rfl

/-- A zone whose regions are all mapped is passed over. -/
theorem mmapZones_skip {c : VirtioZoneConfig}
    (h : (c.memoryRegions.find? fun mem => !isMapped (zm c.zone) mem) = none)
    (cfg : VirtioConfig) : mmapZones mmap (c :: cfg) zm = mmapZones mmap cfg zm := by
  rw [mmapZones_cons, mmapVirtioZoneMemory_all mmap h, if_pos rfl, Function.update_eq_self]

/-- **A configuration whose regions are all mapped leaves the map as it is.** -/
theorem mmapZones_all (h : firstUnmapped zm cfg = none) : mmapZones mmap cfg zm = (0, zm) := by
  induction cfg with
  | nil => rfl
  | cons c cfg ih =>
    rw [firstUnmapped_cons, Option.or_eq_none_iff, Option.map_eq_none_iff] at h
    rw [mmapZones_skip mmap h.1]
    exact ih h.2

/-- A configuration comes to its first new region with the map as it was. -/
theorem mmapZones_reach (h : firstUnmapped zm cfg = some (i, mem)) :
    isMapped (zm i) mem = false ∧ ∃ c cfg' rest, c.zone = i ∧
      mmapVirtioZoneMemory mmap c.memoryRegions (zm i) =
        mmapVirtioZoneMemory mmap (mem :: rest) (zm i) ∧
      mmapZones mmap cfg zm = mmapZones mmap (c :: cfg') zm := by
  induction cfg with
  | nil => cases h
  | cons c cfg ih =>
    rw [firstUnmapped_cons] at h
    cases hz : c.memoryRegions.find? fun mem => !isMapped (zm c.zone) mem with
    | none =>
      rw [hz] at h
      rw [mmapZones_skip mmap hz]
      exact ih h
    | some mem' =>
      rw [hz] at h
      cases h
      obtain ⟨hm, rest, hrest⟩ := mmapVirtioZoneMemory_skip mmap hz
      exact ⟨hm, c, cfg, rest, rfl, hrest, rfl⟩

/-- **A configuration whose first new region cannot be mapped fails there**, with the map
    as it was. -/
theorem mmapZones_refused (h : firstUnmapped zm cfg = some (i, mem))
    (hcan : ¬ CanMap mmap (zm i) mem) : mmapZones mmap cfg zm = (-1, zm) := by
  obtain ⟨hm, c, cfg', rest, rfl, hrest, hcfg⟩ := mmapZones_reach mmap h
  rw [hcfg, mmapZones_cons, hrest, mmapVirtioZoneMemory_refused mmap hm hcan,
    Function.update_eq_self]
  rfl

/-- **A first new region that can be mapped stays in the map**, whether or not the
    request succeeds. -/
theorem mmapZones_adds (h : firstUnmapped zm cfg = some (i, mem)) (hcan : CanMap mmap (zm i) mem) :
    (zm i).regions.length < ((mmapZones mmap cfg zm).2 i).regions.length := by
  obtain ⟨-, c, cfg', rest, rfl, hrest, hcfg⟩ := mmapZones_reach mmap h
  have hadd := mmapVirtioZoneMemory_adds mmap hcan rest
  rw [hcfg, mmapZones_cons, hrest]
  split
  · have hmore := mmapZones_grown mmap cfg'
      (Function.update zm c.zone (mmapVirtioZoneMemory mmap (mem :: rest) (zm c.zone)).2) c.zone
    rw [Function.update_self] at hmore
    exact hadd.trans_le hmore.length_le
  · dsimp only
    rw [Function.update_self]
    exact hadd

end Regions

/-! ## 4. What the creation of devices leaves -/

section Devices

variable (lookupOps : OpsTable δ)
  (answers : Nat → InitAnswer δ)

/-- The creation of the device cannot be taken back. -/
def LeavesMark (type : VirtioDeviceType) (ans : InitAnswer δ) (m : EventMonitor) : Prop :=
  reachesInit lookupOps type = true ∧ Marks type ans m

/-- The device is created without an event. -/
def CreatedQuietly (type : VirtioDeviceType) (ans : InitAnswer δ) : Prop :=
  reachesInit lookupOps type = true ∧ (ans.allocated && ans.opens) = true ∧ type.hasEvent = false

/-- From the `count`-th device on, all that the creation loop makes can be taken back: it
    ends, or fails, before a device that cannot. -/
def QuietDevices (m : EventMonitor) : (count : Nat) → List VirtioDeviceConfig → Prop
  | _, [] => True
  | count, dev :: devs =>
    if dev.enabled then
      ¬ LeavesMark lookupOps dev.type (answers count) m ∧
        (CreatedQuietly lookupOps dev.type (answers count) → count ≠ maxDevs →
          QuietDevices m (count + 1) devs)
    else QuietDevices m count devs

/-- A new device without an event, and not a GPU device. -/
def QuietDevice (d : NewDevice δ) : Prop := d.2 = none ∧ d.1.type ≠ .gpu

variable {lookupOps answers} {id : DeviceIdentity} {vdevs : List (VirtIODevice δ)}

/-- `create_virtio_device_unpublished` succeeds where `ops->init` is reached and does. -/
theorem createVirtioDeviceUnpublished_isSome (id : DeviceIdentity) (init : Option δ) :
    (createVirtioDeviceUnpublished lookupOps id init).isSome =
      (reachesInit lookupOps id.type && init.isSome) := by
  unfold createVirtioDeviceUnpublished reachesInit
  cases lookupOps id.type with
  | none => rfl
  | some ops =>
    cases init with
    | none => simp
    | some dev =>
      dsimp only
      split
      · next hq => simp [hq]
      · next hq => simp [hq]

variable {ans : InitAnswer δ} {m m' : EventMonitor} {devs : List VirtioDeviceConfig}
  {new : List (NewDevice δ)}

/-- A device that can be taken back leaves the monitor alone. -/
theorem runInit_quiet {type : VirtioDeviceType} (h : ¬ LeavesMark lookupOps type ans m) :
    ∃ dev, runInit lookupOps type ans m = .ok ⟨dev, none, m⟩ ∧
      ((reachesInit lookupOps type && dev.isSome) = true ↔ CreatedQuietly lookupOps type ans) := by
  unfold runInit CreatedQuietly
  by_cases hr : reachesInit lookupOps type = true
  · rw [if_pos hr, deviceInit_quiet fun hmark => h ⟨hr, hmark⟩]
    refine ⟨_, rfl, ?_⟩
    cases ans.allocated && ans.opens <;> cases type.hasEvent <;> simp [hr]
  · rw [if_neg hr]
    exact ⟨none, rfl, by simp [hr]⟩

theorem createDevice_quiet (id : DeviceIdentity) (h : ¬ LeavesMark lookupOps id.type ans m) :
    (CreatedQuietly lookupOps id.type ans ∧
        ∃ d, QuietDevice d ∧ createDevice lookupOps id ans m = .ok (some d, m)) ∨
      (¬ CreatedQuietly lookupOps id.type ans ∧
        createDevice lookupOps id ans m = .ok (none, m)) := by
  obtain ⟨dev, hrun, hiff⟩ := runInit_quiet h
  rw [← createVirtioDeviceUnpublished_isSome id] at hiff
  have hgpu : ¬ (id.type = .gpu ∧ (reachesInit lookupOps id.type && ans.allocated) = true) := by
    rintro ⟨hg, ha⟩
    obtain ⟨hr, ha⟩ := Bool.and_eq_true_iff.mp ha
    exact h ⟨hr, ha, .inl hg⟩
  unfold createDevice
  rw [hrun, ok_bind]
  dsimp only
  cases hv : createVirtioDeviceUnpublished lookupOps id dev with
  | none =>
    rw [hv] at hiff
    refine .inr ⟨fun hc => Bool.false_ne_true (hiff.mpr hc), ?_⟩
    rw [closeDevice, if_neg hgpu]
    rfl
  | some vdev =>
    rw [hv] at hiff
    have hcr := hiff.mp rfl
    refine .inl ⟨hcr, (vdev, none), ⟨rfl, fun hg => hgpu ⟨?_, ?_⟩⟩, rfl⟩
    · rw [← hg, ← identity_create hv]
    · rw [hcr.1, (Bool.and_eq_true_iff.mp hcr.2.1).1]
      rfl

/-- **A creation that returns frees no slot**; where it leaves a mark, the slot is taken for
    good, or there is a GPU device. -/
theorem createDevice_marks {o : Option (NewDevice δ)}
    (h : createDevice lookupOps id ans m = .ok (o, m')) :
    m.events.length ≤ m'.events.length ∧
      (LeavesMark lookupOps id.type ans m →
        m.events.length < m'.events.length ∨ ∃ d, o = some d ∧ d.1.type = .gpu) := by
  obtain ⟨r, hrun, hend⟩ := createDevice_ok h
  have hinit : m.events.length ≤ r.monitor.events.length ∧
      (LeavesMark lookupOps id.type ans m → id.type ≠ .gpu →
        m.events.length < r.monitor.events.length) := by
    unfold runInit at hrun
    split at hrun
    · exact ⟨(deviceInit_ok hrun).1, fun hmark => (deviceInit_ok hrun).2 hmark.2⟩
    · next hr =>
      cases hrun
      exact ⟨Nat.le_refl _, fun hmark => absurd hmark.1 hr⟩
  rcases hend with ⟨vdev, hv, rfl, rfl⟩ | ⟨-, rfl, hclose⟩
  · refine ⟨hinit.1, fun hmark => ?_⟩
    by_cases hg : id.type = .gpu
    · exact .inr ⟨_, rfl, by rw [← hg, ← identity_create hv]⟩
    · exact .inl (hinit.2 hmark hg)
  · obtain ⟨hg, hlen⟩ := closeDevice_ok hclose
    rw [hlen]
    refine ⟨hinit.1, fun hmark => .inl (hinit.2 hmark fun hgpu => hg ⟨hgpu, ?_⟩)⟩
    rw [hmark.1, hmark.2.1]
    rfl

/-- What is destroyed gives no slot back, and has no GPU device in it. -/
theorem destroyAll_ok (h : destroyAll m new = .ok m') :
    m'.events.length = m.events.length ∧ ∀ d ∈ new, d.1.type ≠ .gpu := by
  induction new generalizing m with
  | nil =>
    cases h
    exact ⟨rfl, fun d hd => absurd hd List.not_mem_nil⟩
  | cons d new ih =>
    rw [destroyAll, List.foldlM_cons] at h
    obtain ⟨m₁, hclose, h⟩ := bind_eq_ok.mp h
    obtain ⟨hg, hlen⟩ := closeDevice_ok hclose
    obtain ⟨hlen', hgs⟩ := ih h
    refine ⟨hlen'.trans hlen, fun d' hd' => ?_⟩
    rcases List.mem_cons.mp hd' with rfl | hd'
    · exact fun hgpu => hg ⟨hgpu, rfl⟩
    · exact hgs d' hd'

theorem closeDevice_quiet {d : NewDevice δ} (h : QuietDevice d) (m : EventMonitor) :
    closeDevice d.1.type true d.2 m = .ok m := by
  rw [closeDevice, if_neg fun hg => h.2 hg.1, h.1]
  rfl

theorem destroyAll_quiet (h : ∀ d ∈ new, QuietDevice d) (m : EventMonitor) :
    destroyAll m new = .ok m := by
  induction new with
  | nil => rfl
  | cons d new ih =>
    rw [destroyAll, List.foldlM_cons, closeDevice_quiet (h d List.mem_cons_self), ok_bind]
    exact ih fun d hd => h d (List.mem_cons_of_mem _ hd)

/-- **A loop over quiet devices returns with the monitor as it is**, and what it created can
    be taken back. -/
theorem createLoop_quiet (hnew : ∀ d ∈ new, QuietDevice d)
    (h : QuietDevices lookupOps answers m new.length devs) :
    ∃ r, createLoop lookupOps answers new devs m = .ok (r, m) ∧
      ∀ new', r = some new' → ∀ d ∈ new', QuietDevice d := by
  induction devs generalizing new with
  | nil =>
    refine ⟨some new, rfl, fun new' e => ?_⟩
    cases e
    exact hnew
  | cons dev devs ih =>
    rw [QuietDevices] at h
    by_cases hen : dev.enabled = true
    · rw [if_pos hen] at h
      obtain ⟨hmark, hrest⟩ := h
      have hback : (destroyAll m new).map (fun m => ((none : Option (List (NewDevice δ))), m)) =
          .ok (none, m) := by
        rw [destroyAll_quiet hnew]
        rfl
      rw [createLoop, if_neg (by simp [hen])]
      rcases createDevice_quiet dev.identity hmark with ⟨hcr, d, hd, hc⟩ | ⟨-, hc⟩
      · rw [hc, ok_bind]
        dsimp only
        by_cases hfull : new.length = maxDevs
        · rw [if_pos hfull, closeDevice_quiet hd, ok_bind, hback]
          exact ⟨none, rfl, fun new' e => by cases e⟩
        · rw [if_neg hfull]
          refine ih ?_ ?_
          · intro d' hd'
            rcases List.mem_append.mp hd' with hd' | hd'
            · exact hnew d' hd'
            · rw [List.mem_singleton.mp hd']
              exact hd
          · rw [List.length_append, List.length_singleton]
            exact hrest hcr hfull
      · rw [hc, ok_bind]
        dsimp only
        rw [hback]
        exact ⟨none, rfl, fun new' e => by cases e⟩
    · rw [if_neg hen] at h
      rw [createLoop_disabled (Bool.eq_false_iff.mpr hen)]
      exact ih hnew h

variable {r : Option (List (NewDevice δ))}

/-- A loop that returns frees no slot, and a GPU device among those made so far is among
    those it made. -/
theorem createLoop_keeps (h : createLoop lookupOps answers new devs m = .ok (r, m')) :
    m.events.length ≤ m'.events.length ∧
      ∀ d ∈ new, d.1.type = .gpu → ∃ new', r = some new' ∧ d ∈ new' := by
  induction devs generalizing new m with
  | nil =>
    cases h
    exact ⟨Nat.le_refl _, fun d hd _ => ⟨new, rfl, hd⟩⟩
  | cons dev devs ih =>
    cases hen : dev.enabled with
    | false =>
      rw [createLoop_disabled hen] at h
      exact ih h
    | true =>
      obtain ⟨o, m₁, hc, hrest⟩ := createLoop_cases hen h
      have hle := (createDevice_marks hc).1
      rcases hrest with ⟨-, m₂, hdestroy, hlast⟩ | ⟨d, rfl, -, h⟩
      · obtain ⟨hlen, hgs⟩ := destroyAll_ok hdestroy
        refine ⟨?_, fun d hd hg => absurd hg (hgs d hd)⟩
        rcases hlast with ⟨-, rfl⟩ | ⟨d, -, -, hclose⟩
        · omega
        · have := (closeDevice_ok hclose).2
          omega
      · obtain ⟨hle', hkeep⟩ := ih h
        exact ⟨hle.trans hle', fun d' hd' => hkeep d' (List.mem_append_left _ hd')⟩

/-- **A loop that is not quiet and returns has taken a slot, or made a GPU device.** -/
theorem createLoop_loud (hloud : ¬ QuietDevices lookupOps answers m new.length devs)
    (h : createLoop lookupOps answers new devs m = .ok (r, m')) :
    m.events.length < m'.events.length ∨ ∃ new', r = some new' ∧ ∃ d ∈ new', d.1.type = .gpu := by
  induction devs generalizing new with
  | nil => exact absurd trivial hloud
  | cons dev devs ih =>
    rw [QuietDevices] at hloud
    by_cases hen : dev.enabled = true
    · rw [if_pos hen] at hloud
      obtain ⟨o, m₁, hc, hrest⟩ := createLoop_cases hen h
      by_cases hmark : LeavesMark lookupOps dev.type (answers new.length) m
      · -- the mark is made at this device, and nothing behind it takes it back
        have hmade := (createDevice_marks hc).2 hmark
        rcases hrest with ⟨-, m₂, hdestroy, hlast⟩ | ⟨d, rfl, -, h⟩
        · have hlen := (destroyAll_ok hdestroy).1
          rcases hlast with ⟨rfl, rfl⟩ | ⟨d, rfl, -, hclose⟩
          · rcases hmade with hlt | ⟨d, ho, -⟩
            · exact .inl (hlt.trans_eq hlen.symm)
            · cases ho
          · obtain ⟨hg, hlen'⟩ := closeDevice_ok hclose
            rcases hmade with hlt | ⟨d', ho, hgpu⟩
            · exact .inl (by omega)
            · cases ho
              exact absurd ⟨hgpu, rfl⟩ hg
        · obtain ⟨hle, hkeep⟩ := createLoop_keeps h
          rcases hmade with hlt | ⟨d', ho, hgpu⟩
          · exact .inl (hlt.trans_le hle)
          · cases ho
            obtain ⟨new', hr, hd⟩ := hkeep d (List.mem_append_right _ List.mem_cons_self) hgpu
            exact .inr ⟨new', hr, d, hd, hgpu⟩
      · have hlater : CreatedQuietly lookupOps dev.type (answers new.length) ∧
            new.length ≠ maxDevs ∧ ¬ QuietDevices lookupOps answers m (new.length + 1) devs := by
          by_contra hno
          exact hloud ⟨hmark, fun hcr hfull => by_contra fun hq => hno ⟨hcr, hfull, hq⟩⟩
        obtain ⟨hcr, hfull, hq⟩ := hlater
        rcases createDevice_quiet dev.identity hmark with ⟨-, d, -, hc'⟩ | ⟨hncr, -⟩
        · cases hc.symm.trans hc'
          rcases hrest with ⟨-, m₂, -, ⟨ho, -⟩ | ⟨-, -, hfull', -⟩⟩ | ⟨d, ho, -, h⟩
          · cases ho
          · exact absurd hfull' hfull
          · cases ho
            refine ih ?_ h
            rw [List.length_append, List.length_singleton]
            exact hq
        · exact absurd hcr hncr
    · rw [if_neg hen] at hloud
      rw [createLoop_disabled (Bool.eq_false_iff.mpr hen)] at h
      exact ih hloud h

theorem createAndPublish_quiet (vdevs : List (VirtIODevice δ)) {cfg : VirtioConfig}
    (h : QuietDevices lookupOps answers m 0 (configDevices cfg)) :
    ∃ r, createAndPublish lookupOps answers vdevs cfg m = .ok (r, m) := by
  have hnil : ∀ d ∈ ([] : List (NewDevice δ)), QuietDevice d :=
    fun d hd => absurd hd List.not_mem_nil
  obtain ⟨made, hloop, hquiet⟩ := createLoop_quiet hnil h
  unfold createAndPublish
  rw [hloop, ok_bind]
  cases made with
  | none => exact ⟨none, rfl⟩
  | some new =>
    dsimp only
    split
    · exact ⟨_, rfl⟩
    · rw [destroyAll_quiet (hquiet new rfl)]
      exact ⟨none, rfl⟩

/-- **A failure behind devices that are not quiet has taken a slot.** -/
theorem createAndPublish_loud {cfg : VirtioConfig}
    (hloud : ¬ QuietDevices lookupOps answers m 0 (configDevices cfg))
    (h : createAndPublish lookupOps answers vdevs cfg m = .ok (none, m')) :
    m.events.length < m'.events.length := by
  obtain ⟨made, m₁, hloop, -, hend⟩ := createAndPublish_ok h
  have hmade : m.events.length < m₁.events.length ∨
      ∃ new', made = some new' ∧ ∃ d ∈ new', d.1.type = .gpu := createLoop_loud hloud hloop
  rcases hend with ⟨rfl, rfl | hsome⟩ | ⟨-, new, rfl, hdestroy⟩
  · rcases hmade with hlt | ⟨new', hnone, -⟩
    · exact hlt
    · cases hnone
  · exact absurd rfl hsome
  · obtain ⟨hlen, hgs⟩ := destroyAll_ok hdestroy
    rcases hmade with hlt | ⟨new', hnew, d, hd, hgpu⟩
    · exact hlt.trans_eq hlen.symm
    · cases hnew
      exact absurd hgpu (hgs d hd)

end Devices

/-! ## 5. A failed request -/

/-- What a failed request should leave: the process, its devices, its memory map, the
    free slots of the monitor and the addresses given to the kernel. -/
structure Unchanged (s s' : DaemonProc δ) : Prop where
  running : s'.running = s.running
  vdevs : s'.vdevs = s.vdevs
  zoneMem : s'.zoneMem = s.zoneMem
  freeSlots : s'.monitor.freeSlots = s.monitor.freeSlots
  mmioAddrs : s'.mmioAddrs = s.mmioAddrs

theorem Unchanged.refl (s : DaemonProc δ) : Unchanged s s := ⟨rfl, rfl, rfl, rfl, rfl⟩

/-- A configuration that can be put in place up to its first failure without a trace:
    either its first new region cannot be mapped, or it has no new region and its
    devices can be taken back. -/
def TracelessConfig (lookupOps : OpsTable δ) (s : DaemonProc δ)
    (req : AddInput δ) (cfg : VirtioConfig) : Prop :=
  match firstUnmapped s.zoneMem cfg with
  | some (i, mem) => ¬ CanMap req.mmap (s.zoneMem i) mem
  | none => QuietDevices lookupOps req.answers s.monitor 0 (configDevices cfg)

/-- The file can be read and its text terminated, and a configuration that passes validation
    leaves no trace. -/
def Traceless (lookupOps : OpsTable δ) (s : DaemonProc δ) (req : AddInput δ) : Prop :=
  ∃ config, req.file.config = .ok config ∧
    ∀ cfg, config = some cfg → validateVirtioConfigDevices s.vdevs cfg = true →
      TracelessConfig lookupOps s req cfg

section Failed

variable {lookupOps : OpsTable δ} {s : DaemonProc δ}
  {req : AddInput δ} {cfg : VirtioConfig}

theorem handleAdd_fileFault {f : FileFault} (h : req.file.config = .error f) :
    handleAdd lookupOps s req = (.fileFault f, { s with running := false }) := by
  simp [handleAdd, h]

theorem handleAdd_config (h : req.file.config = .ok (some cfg)) :
    handleAdd lookupOps s req = addConfig lookupOps s req cfg := by
  simp [handleAdd, h]

theorem addConfig_valid_zoneMem (hval : validateVirtioConfigDevices s.vdevs cfg = true) :
    (addConfig lookupOps s req cfg).2.zoneMem = (mmapZones req.mmap cfg s.zoneMem).2 := by
  unfold addConfig
  rw [if_pos hval]
  dsimp only
  split
  · split <;> rfl
  · rfl

/-- Without a new region, a request that fails ends the process, or differs from none in the
    monitor only. -/
theorem addConfig_noRegion (hval : validateVirtioConfigDevices s.vdevs cfg = true)
    (hfirst : firstUnmapped s.zoneMem cfg = none)
    (hfail : (addConfig lookupOps s req cfg).1 ≠ .answered 0) :
    (∃ f, createAndPublish lookupOps req.answers s.vdevs cfg s.monitor = .error f ∧
        (addConfig lookupOps s req cfg).2 = { s with running := false }) ∨
      ∃ m, createAndPublish lookupOps req.answers s.vdevs cfg s.monitor = .ok (none, m) ∧
        (addConfig lookupOps s req cfg).2 = { s with monitor := m } := by
  unfold addConfig at hfail ⊢
  rw [if_pos hval, mmapZones_all req.mmap hfirst] at hfail ⊢
  dsimp only at hfail ⊢
  rw [if_pos rfl] at hfail ⊢
  split at hfail
  · next f hc => exact .inl ⟨f, hc, rfl⟩
  · exact absurd rfl hfail
  · next m hc => exact .inr ⟨m, hc, rfl⟩

theorem addConfig_traceless (hval : validateVirtioConfigDevices s.vdevs cfg = true)
    (h : TracelessConfig lookupOps s req cfg)
    (hfail : (addConfig lookupOps s req cfg).1 ≠ .answered 0) :
    (addConfig lookupOps s req cfg).2 = s := by
  unfold TracelessConfig at h
  cases hfirst : firstUnmapped s.zoneMem cfg with
  | none =>
    rw [hfirst] at h
    obtain ⟨r, hquiet⟩ := createAndPublish_quiet s.vdevs h
    rcases addConfig_noRegion hval hfirst hfail with ⟨f, hc, -⟩ | ⟨m, hc, hs⟩
    · cases hc.symm.trans hquiet
    · cases hc.symm.trans hquiet
      exact hs
  | some p =>
    -- the first new region cannot be mapped
    rw [hfirst] at h
    unfold addConfig
    rw [if_pos hval, mmapZones_refused req.mmap hfirst h]
    rfl

/-- The condition is enough, whether the request fails at its regions or at its devices. -/
theorem handleAdd_traceless (h : Traceless lookupOps s req)
    (hfail : (handleAdd lookupOps s req).1 ≠ .answered 0) : (handleAdd lookupOps s req).2 = s := by
  obtain ⟨config, hcfg, hconfig⟩ := h
  cases config with
  | none => simp [handleAdd, hcfg]
  | some cfg =>
    rw [handleAdd_config hcfg] at hfail ⊢
    by_cases hval : validateVirtioConfigDevices s.vdevs cfg = true
    · exact addConfig_traceless hval (hconfig cfg rfl hval) hfail
    · simp [addConfig, hval]

theorem tracelessConfig_of_unchanged (hval : validateVirtioConfigDevices s.vdevs cfg = true)
    (hrun : s.running = true) (hfail : (addConfig lookupOps s req cfg).1 ≠ .answered 0)
    (h : Unchanged s (addConfig lookupOps s req cfg).2) : TracelessConfig lookupOps s req cfg := by
  unfold TracelessConfig
  cases hfirst : firstUnmapped s.zoneMem cfg with
  | none =>
    rcases addConfig_noRegion hval hfirst hfail with ⟨f, -, hs⟩ | ⟨m, hc, hs⟩
    · have hstop := h.running
      rw [hs, hrun] at hstop
      cases hstop
    · have hslots := h.freeSlots
      rw [hs, EventMonitor.freeSlots_eq_iff] at hslots
      by_contra hloud
      exact absurd hslots (createAndPublish_loud hloud hc).ne'
  | some p =>
    intro hcan
    have hgrown := mmapZones_adds req.mmap hfirst hcan
    have hzm := h.zoneMem
    rw [addConfig_valid_zoneMem hval] at hzm
    rw [hzm] at hgrown
    exact absurd hgrown (Nat.lt_irrefl _)

/-- The condition is needed: each way to break it shows in the state. -/
theorem traceless_of_unchanged (hrun : s.running = true)
    (hfail : (handleAdd lookupOps s req).1 ≠ .answered 0)
    (h : Unchanged s (handleAdd lookupOps s req).2) : Traceless lookupOps s req := by
  cases hcfg : req.file.config with
  | error f =>
    have hstop := h.running
    rw [handleAdd_fileFault hcfg, hrun] at hstop
    cases hstop
  | ok config =>
    refine ⟨config, hcfg, ?_⟩
    intro cfg hsome hval
    rw [hsome] at hcfg
    rw [handleAdd_config hcfg] at h hfail
    exact tracelessConfig_of_unchanged hval hrun hfail h

end Failed

/-- **A failed request leaves the daemon as it was exactly where the condition holds**:
    the file can be read and its text terminated, and what it asks for fails before a region
    is mapped, before a slot of the event monitor is taken or found without memory for its
    event, and before a GPU device has its private part. The state is then the one before the
    request, so every later request is answered as if this one had not been made. -/
theorem failed_add_unchanged_iff (lookupOps : OpsTable δ)
    (s : DaemonProc δ) (req : AddInput δ) (hrun : s.running = true)
    (hfail : (handleAdd lookupOps s req).1 ≠ .answered 0) :
    (Unchanged s (handleAdd lookupOps s req).2 ↔ Traceless lookupOps s req) ∧
      (Traceless lookupOps s req → (handleAdd lookupOps s req).2 = s) := by
  refine ⟨⟨traceless_of_unchanged hrun hfail, ?_⟩, fun h => handleAdd_traceless h hfail⟩
  intro h
  rw [handleAdd_traceless h hfail]
  exact Unchanged.refl s

/-! ## 6. Failures on a daemon that just started -/

/-- A daemon that just started. -/
def procStart : DaemonProc Unit :=
  { daemonStart with running := true, monitor := .empty }

theorem zoneOne_lt : (1 : UInt32).toNat < maxZones := by decide

/-- A configuration of zone 1. -/
def zoneOneConfig (memoryRegions : List VirtioMemoryRegionConfig) (types : List VirtioDeviceType) :
    VirtioConfig :=
  [{ zoneId := 1
     memoryRegions := memoryRegions
     devices := types.mapIdx fun i type =>
       { enabled := true, type := type, zoneId := 1, addr := UInt64.ofNat (0xa003c00 + 0x200 * i),
         len := 0x200, irq := UInt32.ofNat (78 + i) }
     zoneBound := zoneOne_lt }]

/-- A file of one blank, that every call succeeds on. -/
def blankFile : InputFile := wholeFile ⟨1, by decide⟩ [0x20] (by decide)

/-- A request for zone 1; what the parser makes of the text is given. `epollCtl` says whether
    the event of each device can be registered. There is no display. -/
def addRequest (memoryRegions : List VirtioMemoryRegionConfig) (types : List VirtioDeviceType)
    (epollCtl : Nat → Bool) : AddInput Unit where
  file := ⟨.fourKiB, blankFile, fun _ => some (zoneOneConfig memoryRegions types)⟩
  mmap := mmapAt 0x10000
  answers := fun i =>
    { dev := (), allocated := true, opens := true, fd := 5, block := some (UInt64.ofNat (0x100 + i)),
      epollCtl := epollCtl i, connectors := [], completes := true }

theorem addRequest_config (memoryRegions : List VirtioMemoryRegionConfig)
    (types : List VirtioDeviceType) (epollCtl : Nat → Bool) :
    (addRequest memoryRegions types epollCtl).file.config =
      .ok (some (zoneOneConfig memoryRegions types)) := by
  have hread : readFile .fourKiB blankFile =
      .ok (some (paddedBuffer .fourKiB blankFile.stSize [0x20]), 1) := readFile_ok rfl rfl rfl rfl
  have hroom : (1 : UInt64).toNat < (paddedBuffer .fourKiB blankFile.stSize [0x20]).length := by
    rw [length_paddedBuffer .fourKiB (by decide)]
    decide
  unfold FileAnswer.config readJsonText
  show (readFile .fourKiB blankFile >>= _).map _ = _
  rw [hread, ok_bind]
  dsimp only
  rw [terminateText, if_pos hroom]
  rfl

theorem handleAdd_refines_console : ∃ (req : AddInput Unit) (config : Option VirtioConfig)
    (init : Nat → Option Unit), config.isSome = true ∧ req.file.config = .ok config ∧
      virtioAddFromJson (fun _ => some bareOps) procStart.toDaemon ⟨config, req.mmap, init⟩ =
        (0, (handleAdd (fun _ => some bareOps) procStart req).2.toDaemon) := by
  have hcfg := addRequest_config [] [.console] fun _ => true
  have hok : (handleAdd (fun _ => some bareOps) procStart
      (addRequest [] [.console] fun _ => true)).1 = .answered 0 := by
    rw [handleAdd_config hcfg]
    decide
  obtain ⟨config, init, hconfig, h⟩ := handleAdd_refines (fun _ => some bareOps) procStart
    (addRequest [] [.console] fun _ => true) hok
  refine ⟨_, config, init, ?_, hconfig, h⟩
  cases hcfg.symm.trans hconfig
  rfl

/-- A console device whose event cannot be registered: the request fails and leaves no
    trace. -/
theorem failed_add_unchanged_console :
    (handleAdd (fun _ => some bareOps) procStart (addRequest [] [.console] fun _ => false)).2 =
      procStart := by
  have hcfg := addRequest_config [] [.console] fun _ => false
  have hfail : (handleAdd (fun _ => some bareOps) procStart
      (addRequest [] [.console] fun _ => false)).1 ≠ .answered 0 := by
    rw [handleAdd_config hcfg]
    decide
  refine (failed_add_unchanged_iff (fun _ => some bareOps) procStart _ rfl hfail).2
    ⟨_, hcfg, fun cfg he _ => ?_⟩
  cases he
  refine ⟨?_, fun h => absurd h.2.2 (by decide)⟩
  rintro ⟨-, -, hgpu | ⟨-, -, -, -, hnone | hctl⟩⟩
  · cases hgpu
  · cases hnone
  · cases hctl

/-- A file that does not exist ends the daemon; a region before an empty one stays
    mapped; the slot of a console device before a device that fails stays taken; and where
    there is no display, a GPU device is closed into a log call without its argument. -/
theorem failed_add_leaves_traces :
    (∀ req : AddInput Unit, req.file.file.opens = false →
        (handleAdd (fun _ => some bareOps) procStart req).2.running = false) ∧
      (let r := handleAdd (fun _ => some bareOps) procStart
          (addRequest [⟨0, 0x1000, 0x1000⟩, ⟨0, 0, 0⟩] [] fun _ => true);
        r.1 = .answered (-1) ∧ (r.2.zoneMem ⟨1, by decide⟩).regions.length = 1) ∧
      (let r := handleAdd (fun _ => some bareOps) procStart
          (addRequest [] [.console, .console] (· = 0));
        r.1 = .answered (-1) ∧ r.2.monitor.freeSlots = 15) ∧
      (handleAdd (fun _ => some bareOps) procStart (addRequest [] [.gpu] fun _ => true)).1 =
        .deviceFault .missingArgument := by
  refine ⟨fun req hopen => ?_, ?_, ?_, ?_⟩
  · have hexit : req.file.config = .error .exit := by
      simp [FileAnswer.config, readJsonText, readFile, hopen]
      rfl
    rw [handleAdd_fileFault hexit]
  all_goals
    rw [handleAdd_config (addRequest_config ..)]
    decide

end HvisorTool
