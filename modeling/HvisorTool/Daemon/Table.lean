/-
  File:      HvisorTool/Daemon/Table.lean
  Subject:   AT MOST ONE DEVICE ANSWERS A REQUEST: the validation compares ranges
             with saturating ends, the dispatch tests them with a wrapping sum,
             and between the two lies the publication.

  * `Unclashing`: no two devices of a list conflict; `slot_unique`: then no
    request is served by two of them;
  * `validateDevices_spec`, `createDevices_identities`: what is published is what
    was validated, against the table and against itself;
  * `tableInv_step`, `identities_step`: a step keeps the invariant, and only ever
    appends to the table;
  * `device_table_dispatch`: the law for every run.
-/
import HvisorTool.Daemon.Start
import HvisorTool.Mmio.Index
import Mathlib.Data.List.Find

namespace HvisorTool

open Library

variable {δ : Type}

/-! ## 1. Guest accesses keep a device's identity -/

@[simp] theorem identity_runHook (h : Option (DeviceHook δ)) (d : VirtIODevice δ) :
    (runHook h d).toDeviceIdentity = d.toDeviceIdentity := by
  cases h with
  | none => rfl
  | some h => exact h.identity d

theorem identity_writeReg (ops : VirtioDeviceOps δ) (zm : ZoneTable) (d : VirtIODevice δ)
    (value : UInt64) (ret : Int) (r : MmioReg) :
    (writeReg ops zm d value ret r).1.toDeviceIdentity = d.toDeviceIdentity :=
  writeReg_keeps (fun d => d.toDeviceIdentity) (fun _ _ _ _ => rfl) identity_runHook
    (fun _ _ _ => rfl) (fun _ _ => rfl) ops zm d value ret r

theorem identity_serveReq (lookupOps : OpsTable δ)
    (zm : ZoneTable) (req : DeviceReq) (ret : Int) (d : VirtIODevice δ) :
    (serveReq lookupOps zm req ret d).1.toDeviceIdentity = d.toDeviceIdentity := by
  unfold serveReq
  split
  · rfl
  · dsimp only
    split
    · rw [virtioMmioWrite_eq]
      split
      · exact identity_writeReg ..
      · rfl
    · rfl

/-- The identities of the published devices, slot by slot. -/
def identities (vdevs : List (VirtIODevice δ)) : List DeviceIdentity :=
  vdevs.map (·.toDeviceIdentity)

theorem identities_handleReq (lookupOps : OpsTable δ)
    (zm : ZoneTable) (vdevs : List (VirtIODevice δ)) (req : DeviceReq) (ret : Int) :
    identities (virtioHandleReq lookupOps zm vdevs req ret).vdevs = identities vdevs := by
  unfold virtioHandleReq
  split
  · rfl
  · next i _ =>
    apply List.ext_getElem?
    intro k
    simp only [identities, List.getElem?_map, List.getElem?_modify]
    split
    · cases vdevs[k]? with
      | none => rfl
      | some d => exact congrArg some (identity_serveReq ..)
    · simp

/-! ## 2. Lists of devices that do not conflict -/

/-- No device conflicts with one before it. -/
def Unclashing (ids : List DeviceIdentity) : Prop :=
  ids.Pairwise fun old new => new.conflicts old = false

/-- Two devices that serve one request conflict. -/
theorem conflicts_of_serves {a b : DeviceIdentity} {srcZone : UInt32} {address : UInt64}
    (ha : a.serves srcZone address = true) (hb : b.serves srcZone address = true) :
    b.conflicts a = true := by
  simp only [DeviceIdentity.serves, Bool.and_eq_true, beq_iff_eq] at ha hb
  simp only [DeviceIdentity.conflicts, Bool.and_eq_true, beq_iff_eq]
  exact ⟨ha.1.symm.trans hb.1, rangesOverlap_of_inRange hb.2 ha.2⟩

variable {ids published : List DeviceIdentity} {previous devs : List VirtioDeviceConfig}
  {lookupOps : OpsTable δ}

/-- **At most one slot serves a request.** -/
theorem slot_unique (h : Unclashing ids) {srcZone : UInt32} {address : UInt64} {i j : Nat}
    {a b : DeviceIdentity} (hi : ids[i]? = some a) (hj : ids[j]? = some b)
    (ha : a.serves srcZone address = true) (hb : b.serves srcZone address = true) : i = j := by
  have hlt : ∀ {i j : Nat} {a b : DeviceIdentity}, ids[i]? = some a → ids[j]? = some b →
      a.serves srcZone address = true → b.serves srcZone address = true → ¬ i < j := by
    intro i j a b hi hj ha hb hij
    obtain ⟨hil, ei⟩ := List.getElem?_eq_some_iff.mp hi
    obtain ⟨hjl, ej⟩ := List.getElem?_eq_some_iff.mp hj
    have hn : b.conflicts a = false := by
      rw [← ei, ← ej]
      exact List.pairwise_iff_getElem.mp h i j hil hjl hij
    rw [conflicts_of_serves ha hb] at hn
    cases hn
  have h1 : ¬ i < j := hlt hi hj ha hb
  have h2 : ¬ j < i := hlt hj hi hb ha
  omega

/-- So the first slot that serves a request is any slot that does. -/
theorem findIdx_serves_iff (h : Unclashing ids) (srcZone : UInt32) (address : UInt64) (i : Nat) :
    ids.findIdx? (·.serves srcZone address) = some i ↔
      ∃ a, ids[i]? = some a ∧ a.serves srcZone address = true := by
  rw [List.findIdx?_eq_some_iff_getElem]
  constructor
  · intro hf
    obtain ⟨hi, ha, -⟩ := hf
    exact ⟨ids[i], List.getElem?_eq_getElem hi, ha⟩
  · intro hs
    obtain ⟨a, hi, ha⟩ := hs
    obtain ⟨hil, ei⟩ := List.getElem?_eq_some_iff.mp hi
    refine ⟨hil, by rw [ei]; exact ha, ?_⟩
    intro j hji hb
    have hj : ids[j]? = some ids[j] := List.getElem?_eq_getElem (by omega)
    have hij : i = j := slot_unique h hi hj ha hb
    omega

theorem findVdev_eq (vdevs : List (VirtIODevice δ)) (srcZone : UInt32) (address : UInt64) :
    findVdev vdevs srcZone address = (identities vdevs).findIdx? (·.serves srcZone address) := by
  unfold findVdev identities
  rw [List.findIdx?_map]
  rfl

/-! ## 3. What is published was validated -/

/-- The identities that a list of configurations asks for. -/
def enabledIdentities (devs : List VirtioDeviceConfig) : List DeviceIdentity :=
  (devs.filter (·.enabled)).map (·.identity)

theorem enabledIdentities_append (devs devs' : List VirtioDeviceConfig) :
    enabledIdentities (devs ++ devs') = enabledIdentities devs ++ enabledIdentities devs' := by
  simp [enabledIdentities]

variable {dev : VirtioDeviceConfig}

theorem enabledIdentities_cons_disabled (h : dev.enabled = false) (devs : List VirtioDeviceConfig) :
    enabledIdentities (dev :: devs) = enabledIdentities devs := by
  simp [enabledIdentities, h]

theorem enabledIdentities_cons (h : dev.enabled = true) (devs : List VirtioDeviceConfig) :
    enabledIdentities (dev :: devs) = dev.identity :: enabledIdentities devs := by
  simp [enabledIdentities, h]

/-- Unclashing, of a list put behind another. -/
theorem unclashing_append {ids' : List DeviceIdentity} (h : Unclashing ids) (h' : Unclashing ids')
    (hc : ∀ new ∈ ids', ∀ old ∈ ids, new.conflicts old = false) : Unclashing (ids ++ ids') :=
  List.pairwise_append.mpr ⟨h, h', fun old ho new hn => hc new hn old ho⟩

/-- An enabled device passes the validation if there is room for it, it conflicts with no
    published device and no earlier one of the configuration, and the rest passes. -/
theorem validateDevices_cons {total : Nat} (hen : dev.enabled = true)
    (h : validateDevices published previous total (dev :: devs) = true) :
    total + 1 ≤ maxDevs ∧
      (∀ old ∈ published ++ enabledIdentities previous, dev.identity.conflicts old = false) ∧
      validateDevices published (previous ++ [dev]) (total + 1) devs = true := by
  rw [validateDevices, hen] at h
  simp only [Bool.not_true, Bool.false_eq_true, if_false] at h
  split at h
  · cases h
  next hroom =>
  split at h
  · cases h
  next hpub =>
  split at h
  · cases h
  next hprev =>
  refine ⟨by omega, fun old ho => Bool.eq_false_iff.mpr fun hc => ?_, h⟩
  rcases List.mem_append.mp ho with hp | hp
  · exact hpub (List.any_eq_true.mpr ⟨old, hp, hc⟩)
  · obtain ⟨p, hmem, rfl⟩ := List.mem_map.mp hp
    obtain ⟨hmem, hpen⟩ := List.mem_filter.mp hmem
    exact hprev (List.any_eq_true.mpr ⟨p, hmem, Bool.and_eq_true_iff.mpr ⟨hpen, hc⟩⟩)

/-- What holds of the devices that pass the loops of the validation: they fit in the table, and none
    conflicts with a published device, an earlier one of the configuration or one another. -/
theorem validateDevices_spec {total : Nat} (ht : total ≤ maxDevs)
    (h : validateDevices published previous total devs = true) :
    total + (enabledIdentities devs).length ≤ maxDevs ∧
      (∀ new ∈ enabledIdentities devs,
        ∀ old ∈ published ++ enabledIdentities previous, new.conflicts old = false) ∧
      Unclashing (enabledIdentities devs) := by
  induction devs generalizing previous total with
  | nil => exact ⟨ht, nofun, .nil⟩
  | cons dev devs ih =>
    by_cases hen : dev.enabled = true
    · obtain ⟨hroom, hdev, hrest⟩ := validateDevices_cons hen h
      obtain ⟨hlen, hold, hnew⟩ := ih hroom hrest
      rw [enabledIdentities_append, enabledIdentities_cons hen, ← List.append_assoc] at hold
      rw [enabledIdentities_cons hen]
      refine ⟨?_, ?_, ?_⟩
      · rw [List.length_cons]
        omega
      · intro new hn old ho
        rcases List.mem_cons.mp hn with rfl | hn
        · exact hdev old ho
        · exact hold new hn old (List.mem_append_left _ ho)
      · refine List.pairwise_cons.mpr ⟨fun new hn => hold new hn _ ?_, hnew⟩
        exact List.mem_append_right _ List.mem_cons_self
    · have hdis : dev.enabled = false := Bool.eq_false_iff.mpr hen
      rw [validateDevices, hdis] at h
      obtain ⟨hlen, hold, hnew⟩ := ih ht h
      rw [enabledIdentities_append, enabledIdentities_cons_disabled hdis,
        ← List.append_assoc] at hold
      rw [enabledIdentities_cons_disabled hdis]
      exact ⟨hlen, fun new hn old ho => hold new hn old (List.mem_append_left _ ho), hnew⟩

theorem identity_create {id : DeviceIdentity} {init : Option δ} {d : VirtIODevice δ}
    (h : createVirtioDeviceUnpublished lookupOps id init = some d) : d.toDeviceIdentity = id := by
  unfold createVirtioDeviceUnpublished at h
  split at h
  · split at h
    · cases h
      rfl
    · cases h
  · cases h

/-- The new devices are those asked for, in order. -/
theorem createDevices_identities {init : Nat → Option δ} {count : Nat} {new : List (VirtIODevice δ)}
    (h : createDevices lookupOps init count devs = some new) :
    identities new = enabledIdentities devs := by
  induction devs generalizing count new with
  | nil =>
    cases h
    rfl
  | cons dev devs ih =>
    rw [createDevices] at h
    by_cases hen : dev.enabled = true
    · rw [hen] at h
      simp only [Bool.not_true, Bool.false_eq_true, if_false] at h
      split at h
      · cases h
      · next vdev hvdev =>
        split at h
        · cases h
        · obtain ⟨rest, hrest, e⟩ := Option.map_eq_some_iff.mp h
          subst e
          rw [enabledIdentities_cons hen, ← ih hrest, ← identity_create hvdev]
          rfl
    · have hdis : dev.enabled = false := Bool.eq_false_iff.mpr hen
      rw [hdis] at h
      rw [enabledIdentities_cons_disabled hdis]
      exact ih h

/-! ## 4. Steps of the daemon -/

/-- The invariant of the table. -/
structure TableInv (vdevs : List (VirtIODevice δ)) : Prop where
  bound : vdevs.length ≤ maxDevs
  unclashing : Unclashing (identities vdevs)

section Steps

variable {s s' : Daemon δ}

/-- A request to add devices leaves the table or appends devices that were validated against it. -/
theorem startFromJson_cases (req : AddRequest δ) :
    (virtioStartFromJson lookupOps s req).2.vdevs = s.vdevs ∨
      ∃ cfg new, validateVirtioConfigDevices s.vdevs cfg = true ∧
        identities new = enabledIdentities (configDevices cfg) ∧
        (virtioStartFromJson lookupOps s req).2.vdevs = s.vdevs ++ new := by
  unfold virtioStartFromJson
  split
  · exact .inl rfl
  · next cfg _ =>
    split
    · next hval =>
      dsimp only
      split
      · split
        · next vdevs hcreate =>
          obtain ⟨new, hnew, hpub⟩ := Option.bind_eq_some_iff.mp hcreate
          unfold publishVirtioDevices at hpub
          split at hpub
          · cases hpub
            exact .inl rfl
          · split at hpub
            · cases hpub
            · cases hpub
              exact .inr ⟨cfg, new, hval, createDevices_identities hnew, rfl⟩
        · exact .inl rfl
      · exact .inl rfl
    · exact .inl rfl

/-- **Publishing validated devices keeps the invariant.** -/
theorem TableInv.publish {vdevs new : List (VirtIODevice δ)} (h : TableInv vdevs)
    {cfg : VirtioConfig} (hval : validateVirtioConfigDevices vdevs cfg = true)
    (hnew : identities new = enabledIdentities (configDevices cfg)) : TableInv (vdevs ++ new) := by
  obtain ⟨hlen, hold, hpair⟩ := validateDevices_spec h.bound hval
  have hcount : new.length = (enabledIdentities (configDevices cfg)).length := by
    rw [← hnew]
    exact (List.length_map _).symm
  have hids : identities (vdevs ++ new) =
      identities vdevs ++ enabledIdentities (configDevices cfg) := by
    rw [← hnew]
    exact List.map_append
  refine ⟨?_, ?_⟩
  · rw [List.length_append, hcount]
    exact hlen
  · rw [hids]
    exact unclashing_append h.unclashing hpair fun new hn old ho =>
      hold new hn old (List.mem_append_left _ ho)

theorem addFromJson_vdevs (req : AddRequest δ) :
    (virtioAddFromJson lookupOps s req).2.vdevs =
      (virtioStartFromJson lookupOps s req).2.vdevs := by
  unfold virtioAddFromJson
  dsimp only
  split <;> rfl

variable {a : TableAction δ}

/-- What a step does to the table: slots keep their devices' identities; at most,
    validated devices are appended. -/
theorem tableStep_cases (hs : tableStep lookupOps s a = some s') :
    identities s'.vdevs = identities s.vdevs ∨
      ∃ cfg new, validateVirtioConfigDevices s.vdevs cfg = true ∧
        identities new = enabledIdentities (configDevices cfg) ∧ s'.vdevs = s.vdevs ++ new := by
  cases a with
  | start req =>
    cases hs
    exact (startFromJson_cases req).imp (congrArg identities) id
  | add req =>
    cases hs
    rw [addFromJson_vdevs]
    exact (startFromJson_cases req).imp (congrArg identities) id
  | guest req ret =>
    cases hs
    exact .inl (identities_handleReq ..)

theorem tableInv_step (h : TableInv s.vdevs)
    (hs : tableStep lookupOps s a = some s') : TableInv s'.vdevs := by
  rcases tableStep_cases hs with e | ⟨cfg, new, hval, hnew, e⟩
  · have hlen : s'.vdevs.length = s.vdevs.length := by
      have hl : (identities s'.vdevs).length = (identities s.vdevs).length := by rw [e]
      simpa only [identities, List.length_map] using hl
    exact ⟨by rw [hlen]; exact h.bound, by rw [e]; exact h.unclashing⟩
  · rw [e]
    exact h.publish hval hnew

theorem identities_step (hs : tableStep lookupOps s a = some s') :
    identities s.vdevs <+: identities s'.vdevs := by
  rcases tableStep_cases hs with e | ⟨cfg, new, -, -, e⟩
  · exact ⟨[], by rw [e, List.append_nil]⟩
  · rw [e]
    exact ⟨identities new, List.map_append.symm⟩

end Steps

/-! ## 5. Runs -/

section Runs

variable {s s' : Daemon δ}

/-- A run keeps the invariant. -/
theorem tableInv_run (hinv : TableInv s.vdevs) (h : (tableMachine lookupOps).Reach s s') :
    TableInv s'.vdevs :=
  h.inv (fun t => TableInv t.vdevs) hinv fun _ _ _ hi _ hs => tableInv_step hi hs

/-- A run only appends to the table. -/
theorem identities_reach (h : (tableMachine lookupOps).Reach s s') :
    identities s.vdevs <+: identities s'.vdevs :=
  h.inv (fun t => identities s.vdevs <+: identities t.vdevs) (List.prefix_refl _)
    fun _ _ _ hi _ hs => hi.trans (identities_step hs)

variable {vdevs vdevs' : List (VirtIODevice δ)}

/-- The slot a request goes to does not change while the table grows. -/
theorem findVdev_of_prefix (h : TableInv vdevs) (h' : TableInv vdevs')
    (hp : identities vdevs <+: identities vdevs') (srcZone : UInt32) (address : UInt64) {i : Nat}
    (hi : i < vdevs.length) :
    findVdev vdevs' srcZone address = some i ↔ findVdev vdevs srcZone address = some i := by
  obtain ⟨ext, hext⟩ := hp
  have hlen : i < (identities vdevs).length := by
    rw [identities, List.length_map]
    exact hi
  have hslot : (identities vdevs')[i]? = (identities vdevs)[i]? := by
    rw [← hext]
    exact List.getElem?_append_left hlen
  rw [findVdev_eq, findVdev_eq, findIdx_serves_iff h'.unclashing,
    findIdx_serves_iff h.unclashing, hslot]

/-- At most one slot of a table serves a request. -/
theorem TableInv.slot_unique (h : TableInv vdevs) {srcZone : UInt32} {address : UInt64} {i j : Nat}
    {d d' : VirtIODevice δ} (hi : vdevs[i]? = some d) (hj : vdevs[j]? = some d')
    (hd : d.serves srcZone address = true) (hd' : d'.serves srcZone address = true) : i = j := by
  have hi' : (identities vdevs)[i]? = some d.toDeviceIdentity := by
    rw [identities, List.getElem?_map, hi]
    rfl
  have hj' : (identities vdevs)[j]? = some d'.toDeviceIdentity := by
    rw [identities, List.getElem?_map, hj]
    rfl
  exact HvisorTool.slot_unique h.unclashing hi' hj' hd hd'

/-- The device found does not depend on the order of the table. -/
theorem TableInv.find_perm (h : TableInv vdevs) (hperm : vdevs'.Perm vdevs) (srcZone : UInt32)
    (address : UInt64) :
    vdevs'.find? (·.serves srcZone address) = vdevs.find? (·.serves srcZone address) := by
  refine (List.find?_eq_find?_of_perm hperm.symm ?_).symm
  intro d hd d' hd'
  obtain ⟨i, hi⟩ := List.mem_iff_getElem?.mp hd.1
  obtain ⟨j, hj⟩ := List.mem_iff_getElem?.mp hd'.1
  have hij : i = j := h.slot_unique hi hj hd.2 hd'.2
  rw [hij, hj] at hi
  cases hi
  rfl

/-- **The device table**: after any sequence of requests to add devices, successful or
    not, and of guest accesses, the table is within its bound; no request of any zone to
    any address is served by two slots; the device that is found does not depend on the
    order of the table; and whatever is added later, every device keeps its slot and
    identity and is found for the same requests. -/
theorem device_table_dispatch (lookupOps : OpsTable δ)
    (s : Daemon δ) (h : (tableMachine lookupOps).Reach daemonStart s) :
    s.vdevs.length ≤ maxDevs ∧
    (∀ (srcZone : UInt32) (address : UInt64) (i j : Nat) (d d' : VirtIODevice δ),
      s.vdevs[i]? = some d → s.vdevs[j]? = some d' →
      d.serves srcZone address = true → d'.serves srcZone address = true → i = j) ∧
    (∀ (srcZone : UInt32) (address : UInt64) (vdevs' : List (VirtIODevice δ)),
      vdevs'.Perm s.vdevs →
      vdevs'.find? (·.serves srcZone address) = s.vdevs.find? (·.serves srcZone address)) ∧
    (∀ s', (tableMachine lookupOps).Reach s s' →
      identities s.vdevs <+: identities s'.vdevs ∧
      ∀ srcZone address i, i < s.vdevs.length →
        (findVdev s'.vdevs srcZone address = some i ↔
          findVdev s.vdevs srcZone address = some i)) := by
  have hempty : TableInv (daemonStart : Daemon δ).vdevs := ⟨Nat.zero_le _, List.Pairwise.nil⟩
  have hinv : TableInv s.vdevs := tableInv_run hempty h
  refine ⟨hinv.bound, ?_, ?_, ?_⟩
  · intro srcZone address i j d d' hi hj hd hd'
    exact hinv.slot_unique hi hj hd hd'
  · intro srcZone address vdevs' hperm
    exact hinv.find_perm hperm srcZone address
  · intro s' hr
    have hp : identities s.vdevs <+: identities s'.vdevs := identities_reach hr
    have hinv' : TableInv s'.vdevs := tableInv_run hinv hr
    exact ⟨hp, fun srcZone address i hi => findVdev_of_prefix hinv hinv' hp srcZone address hi⟩

end Runs

/-- Two block devices in zone 1 with adjacent ranges, and one in between that is
    disabled. -/
def twoBlockDevices : AddRequest Unit where
  config := some [
    { zoneId := 1
      memoryRegions := []
      devices := [
        { enabled := true, type := .block, zoneId := 1, addr := 0xa003c00, len := 0x200,
          irq := 78 },
        { enabled := false, type := .none, zoneId := 1, addr := 0, len := 0, irq := 0 },
        { enabled := true, type := .block, zoneId := 1, addr := 0xa003e00, len := 0x200,
          irq := 79 }]
      zoneBound := by decide }]
  mmap := fun _ _ => none
  init := fun _ => some ()

/-- The daemon after that request. -/
def twoBlockDaemon : Daemon Unit :=
  (virtioStartFromJson (fun _ => some bareOps) daemonStart twoBlockDevices).2

/-- The second request for the same devices is refused, and the address where the two
    ranges meet belongs to the second device before and after it. -/
theorem device_table_dispatch_twoBlock :
    (virtioAddFromJson (fun _ => some bareOps) twoBlockDaemon twoBlockDevices).1 = -1 ∧
      findVdev twoBlockDaemon.vdevs 1 0xa003e00 = some 1 ∧
      findVdev (virtioAddFromJson (fun _ => some bareOps) twoBlockDaemon twoBlockDevices).2.vdevs
        1 0xa003e00 = some 1 := by
  have hr : (tableMachine fun _ => some bareOps).Reach daemonStart twoBlockDaemon :=
    Machine.Path.step (.start twoBlockDevices) .start trivial rfl
  have hr' : (tableMachine fun _ => some bareOps).Reach twoBlockDaemon
      (virtioAddFromJson (fun _ => some bareOps) twoBlockDaemon twoBlockDevices).2 :=
    Machine.Path.step (.add twoBlockDevices) .start trivial rfl
  have hfind : findVdev twoBlockDaemon.vdevs 1 0xa003e00 = some 1 := by decide
  obtain ⟨-, -, -, hlater⟩ := device_table_dispatch (fun _ => some bareOps) _ hr
  have hsame := (hlater _ hr').2 1 0xa003e00 1 (by decide)
  exact ⟨by decide, hfind, hsame.mpr hfind⟩

end HvisorTool
