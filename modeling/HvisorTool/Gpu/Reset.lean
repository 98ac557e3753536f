/-
  File:      HvisorTool/Gpu/Reset.lean
  Subject:   WHAT A DEVICE RESET LEAVES of the resource table.

  A driver that comes back behind a reset creates its resources anew. The commands on the
  table answer from the list of resources, the memory total and the number of scanouts;
  what the scanouts show has no influence on them.

  * `SameTable`: two devices that answer alike, and `sameTable_command`: one command on both;
  * `responseTypes`: the answers to a sequence of commands;
  * `gpu_reset_fresh_iff`: behind a reset the device answers every such sequence as a new
    one does exactly where the history before it left no resource.
-/
import HvisorTool.Gpu.Scanouts

namespace HvisorTool

open Library

/-! ## 1. Answers -/

/-- The types of command that work on the table: create, unref, attach, detach, transfer and
    set_scanout. -/
def GPUCommandType.onTable : GPUCommandType → Bool
  | .resourceCreate2d | .resourceUnref | .resourceAttachBacking | .resourceDetachBacking
  | .transferToHost2d | .setScanout => true
  | .getDisplayInfo | .getEdid | .resourceFlush => false

/-- A command, by what it reads and the buffers of its chain. -/
abbrev GPUInput := GPUEnv × List Iovec

/-- A command on the table, by the type in its header. -/
def OnTable (c : GPUInput) : Prop :=
  ∃ code type, controlHeaderType c.1 c.2 = .ok (some code) ∧
    GPUCommandType.ofCode code = some type ∧ type.onTable = true

/-- The response types that a sequence of commands gets; a fault ends it. -/
def responseTypes : GPUState → List GPUInput → List (Except GPUFault (Option GPUResponseType))
  | _, [] => []
  | dev, c :: cs =>
    match virtioGpuSimpleProcessCmd c.1 c.2 dev with
    | .ok o => .ok (o.resp.map GPUResponse.type) :: responseTypes o.dev cs
    | .error e => [.error e]

/-! ## 2. Devices that answer alike -/

/-- The same resources, up to the scanouts they are on, and the same memory total. -/
structure SameTable (dev dev' : GPUState) : Prop where
  list : dev.resourceList.map GPUSimpleResource.core = dev'.resourceList.map GPUSimpleResource.core
  hostmem : dev.hostmem = dev'.hostmem
  scanoutsNum : dev.scanoutsNum = dev'.scanoutsNum

/-- Both fault alike, or both return what is related. -/
inductive Alike {α : Type} (R : α → α → Prop) : Except GPUFault α → Except GPUFault α → Prop where
  | ok {a b : α} (h : R a b) : Alike R (.ok a) (.ok b)
  | error (e : GPUFault) : Alike R (.error e) (.error e)

/-- The same error set, on tables that are the same. -/
def SameResult (r r' : GPUResult) : Prop := r.error = r'.error ∧ SameTable r.dev r'.dev

theorem Alike.bind {α β : Type} {R : β → β → Prop} {x : Except GPUFault α}
    {f f' : α → Except GPUFault β} (h : ∀ a, Alike R (f a) (f' a)) :
    Alike R (x >>= f) (x >>= f') := by
  cases x with
  | ok a => exact h a
  | error e => exact .error e

section Handlers

variable {env : GPUEnv} {iov : List Iovec} {dev dev' : GPUState} (h : SameTable dev dev')

include h

theorem SameTable.fails (e : GPUError) :
    Alike SameResult (.ok (dev.fails e)) (.ok (dev'.fails e)) :=
  .ok ⟨rfl, h⟩

theorem SameTable.done : Alike SameResult (.ok dev.done) (.ok dev'.done) := .ok ⟨rfl, h⟩

theorem SameTable.find (id : UInt32) :
    (virtioGpuFindResource dev id = none ∧ virtioGpuFindResource dev' id = none) ∨
      ∃ res res', virtioGpuFindResource dev id = some res ∧
        virtioGpuFindResource dev' id = some res' ∧ res.core = res'.core := by
  have e := Table.find_congr (k := id) h.list (fun _ _ hc => (fields_of_core hc).1)
  unfold virtioGpuFindResource
  cases hf : Table.find GPUSimpleResource.resourceId id dev.resourceList with
  | none =>
    rw [hf, Option.map_none] at e
    exact .inl ⟨rfl, Option.map_eq_none_iff.mp e.symm⟩
  | some res =>
    rw [hf, Option.map_some] at e
    obtain ⟨res', hf', hc⟩ := Option.map_eq_some_iff.mp e.symm
    exact .inr ⟨res, res', rfl, hf', hc.symm⟩

theorem SameTable.check (id : UInt32) :
    (∃ e, virtioGpuCheckResource dev id = .error e ∧ virtioGpuCheckResource dev' id = .error e) ∨
      ∃ res res', virtioGpuCheckResource dev id = .ok res ∧
        virtioGpuCheckResource dev' id = .ok res' ∧ res.core = res'.core := by
  unfold virtioGpuCheckResource
  rcases h.find id with ⟨e, e'⟩ | ⟨res, res', e, e', hc⟩
  · rw [e, e']
    exact .inl ⟨_, rfl, rfl⟩
  · rw [e, e']
    have hb : res'.unbacked = res.unbacked := by
      obtain ⟨-, -, -, hiov, -, hmem⟩ := fields_of_core hc
      unfold GPUSimpleResource.unbacked
      rw [hiov, hmem]
    dsimp only
    rw [hb]
    split
    · exact .inl ⟨_, rfl, rfl⟩
    · exact .inr ⟨res, res', rfl, rfl, hc⟩

theorem SameTable.modify (id : UInt32) {f : GPUSimpleResource → GPUSimpleResource}
    (hf : ∀ r r', r.core = r'.core → (f r).core = (f r').core) :
    SameTable (dev.modifyResource id f) (dev'.modifyResource id f) :=
  ⟨Table.update_congr h.list (fun _ _ hc => (fields_of_core hc).1) hf, h.hostmem, h.scanoutsNum⟩

theorem SameTable.resourceCreate2d (c : ResourceCreate2d) :
    Alike SameResult (resourceCreate2d env dev c) (resourceCreate2d env dev' c) := by
  unfold HvisorTool.resourceCreate2d
  split
  · exact h.fails _
  · rcases h.find c.resourceId with ⟨e, e'⟩ | ⟨res, res', e, e', -⟩
    · rw [e, e', h.hostmem]
      dsimp only
      split
      · exact .error _
      · split
        · exact h.done
        · refine .ok ⟨rfl, ?_, ?_, h.scanoutsNum⟩
          · show c.resource.core :: dev.resourceList.map GPUSimpleResource.core =
              c.resource.core :: dev'.resourceList.map GPUSimpleResource.core
            rw [h.list]
          · rfl
    · rw [e, e']
      exact h.fails _

theorem SameTable.resourceUnref (id : UInt32) :
    Alike SameResult (resourceUnref dev id) (resourceUnref dev' id) := by
  unfold HvisorTool.resourceUnref
  rcases h.find id with ⟨e, e'⟩ | ⟨res, res', e, e', hc⟩
  · rw [e, e']
    exact h.fails _
  · rw [e, e']
    obtain ⟨hid, -, -, -, -, hmem⟩ := fields_of_core hc
    obtain ⟨hl, hh, hn⟩ := resourceDestory_frame dev res
    obtain ⟨hl', hh', hn'⟩ := resourceDestory_frame dev' res'
    refine .ok ⟨rfl, ?_, ?_, ?_⟩
    · show (virtioGpuResourceDestory dev res).resourceList.map GPUSimpleResource.core =
        (virtioGpuResourceDestory dev' res').resourceList.map GPUSimpleResource.core
      rw [hl, hl', hid]
      exact Table.remove_congr h.list fun _ _ hc => (fields_of_core hc).1
    · show (virtioGpuResourceDestory dev res).hostmem = (virtioGpuResourceDestory dev' res').hostmem
      rw [hh, hh', hmem, h.hostmem]
    · show (virtioGpuResourceDestory dev res).scanoutsNum =
        (virtioGpuResourceDestory dev' res').scanoutsNum
      rw [hn, hn', h.scanoutsNum]

theorem SameTable.resourceAttachBacking (c : ResourceAttachBacking) :
    Alike SameResult (resourceAttachBacking env iov dev c)
      (resourceAttachBacking env iov dev' c) := by
  unfold HvisorTool.resourceAttachBacking
  rcases h.find c.resourceId with ⟨e, e'⟩ | ⟨res, res', e, e', hc⟩
  · rw [e, e']
    exact h.fails _
  · rw [e, e']
    obtain ⟨-, -, -, hiov, -, -⟩ := fields_of_core hc
    dsimp only
    rw [hiov]
    split
    · exact h.fails _
    · refine Alike.bind fun entries => ?_
      cases entries with
      | none => exact h.fails _
      | some entries =>
        refine .ok ⟨rfl, h.modify c.resourceId fun r r' hr => ?_⟩
        unfold GPUSimpleResource.core at hr ⊢
        rw [GPUSimpleResource.mk.injEq] at hr ⊢
        exact ⟨hr.1, hr.2.1, hr.2.2.1, hr.2.2.2.1, rfl, rfl, hr.2.2.2.2.2.2⟩

theorem SameTable.resourceDetachBacking (id : UInt32) :
    Alike SameResult (resourceDetachBacking dev id) (resourceDetachBacking dev' id) := by
  unfold HvisorTool.resourceDetachBacking
  rcases h.check id with ⟨err, e, e'⟩ | ⟨res, res', e, e', -⟩
  · rw [e, e']
    exact h.fails _
  · rw [e, e']
    refine .ok ⟨rfl, h.modify id fun r r' hr => ?_⟩
    unfold virtioGpuCleanupMapping GPUSimpleResource.core at *
    rw [GPUSimpleResource.mk.injEq] at hr ⊢
    exact ⟨hr.1, hr.2.1, hr.2.2.1, hr.2.2.2.1, rfl, rfl, hr.2.2.2.2.2.2⟩

theorem SameTable.transferToHost2d (c : TransferToHost2d) :
    Alike SameResult (transferToHost2d dev c) (transferToHost2d dev' c) := by
  unfold HvisorTool.transferToHost2d
  rcases h.check c.resourceId with ⟨err, e, e'⟩ | ⟨res, res', e, e', hc⟩
  · rw [e, e']
    exact h.fails _
  · rw [e, e']
    obtain ⟨-, hw, hh, -, -, -⟩ := fields_of_core hc
    dsimp only
    rw [hw, hh]
    split
    · exact h.fails _
    · refine .ok ⟨rfl, h.modify c.resourceId fun r r' hr => ?_⟩
      unfold GPUSimpleResource.core at hr ⊢
      rw [GPUSimpleResource.mk.injEq] at hr ⊢
      exact ⟨hr.1, hr.2.1, hr.2.2.1, hr.2.2.2.1, hr.2.2.2.2.1, hr.2.2.2.2.2.1,
        hr.2.2.2.2.2.2.1, rfl, rfl, rfl⟩

/-- What `set_scanout` answers does not depend on what the scanouts show. -/
theorem SameTable.setScanout (c : SetScanout) :
    Alike SameResult (setScanout dev c) (setScanout dev' c) := by
  unfold HvisorTool.setScanout
  by_cases hid : c.scanoutId.toNat < dev.scanoutsNum
  · have hid' : c.scanoutId.toNat < dev'.scanoutsNum := h.scanoutsNum ▸ hid
    rw [dif_pos hid, dif_pos hid']
    rcases h.check c.resourceId with ⟨err, e, e'⟩ | ⟨res, res', e, e', hc⟩
    · rw [e, e']
      exact h.fails _
    · rw [e, e']
      obtain ⟨-, hw, hh, -, -, hmem⟩ := fields_of_core hc
      have hstride : rowStride res = rowStride res' := by
        unfold rowStride
        rw [hh, hmem]
      dsimp only
      rw [hstride]
      refine Alike.bind fun stride => ?_
      unfold virtioGpuDoSetScanout
      have hsize : (scanoutFrameBuffer res stride c.r).width =
          (scanoutFrameBuffer res' stride c.r).width ∧
          (scanoutFrameBuffer res stride c.r).height =
            (scanoutFrameBuffer res' stride c.r).height := ⟨hw, hh⟩
      rw [hsize.1, hsize.2]
      split
      · exact h.fails _
      · refine .ok ⟨rfl, ?_, h.hostmem, h.scanoutsNum⟩
        exact (updateScanout_frame dev _ _ res c.r).trans
          (h.list.trans (updateScanout_frame dev' _ _ res' c.r).symm)
  · have hid' : ¬ c.scanoutId.toNat < dev'.scanoutsNum := h.scanoutsNum ▸ hid
    rw [dif_neg hid, dif_neg hid']
    exact h.fails _

/-- The same response type, on tables that are the same. -/
theorem SameTable.fillThen {α : Type} {mem : Mem} {size : Nat} {read : Mem → α}
    {act act' : α → Except GPUFault GPUResult} (hact : ∀ c, Alike SameResult (act c) (act' c)) :
    Alike (fun o o' : GPUOutcome =>
        o.resp.map GPUResponse.type = o'.resp.map GPUResponse.type ∧ SameTable o.dev o'.dev)
      ((fillThen mem iov size read dev act).map GPUResult.respond)
      ((fillThen mem iov size read dev' act').map GPUResult.respond) := by
  have hfill : Alike SameResult (HvisorTool.fillThen mem iov size read dev act)
      (HvisorTool.fillThen mem iov size read dev' act') := by
    refine Alike.bind fun o => ?_
    cases o with
    | none => exact h.done
    | some c => exact hact c
  generalize HvisorTool.fillThen mem iov size read dev act = x at hfill ⊢
  generalize HvisorTool.fillThen mem iov size read dev' act' = y at hfill ⊢
  cases hfill with
  | ok hr =>
    refine .ok ⟨?_, hr.2⟩
    show some _ = some _
    rw [hr.1]
  | error e => exact .error e

/-- **One command on the table answers alike on both devices**, and leaves them alike. -/
theorem sameTable_command {c : GPUInput} (hc : OnTable c) :
    Alike (fun o o' : GPUOutcome =>
        o.resp.map GPUResponse.type = o'.resp.map GPUResponse.type ∧ SameTable o.dev o'.dev)
      (virtioGpuSimpleProcessCmd c.1 c.2 dev) (virtioGpuSimpleProcessCmd c.1 c.2 dev') := by
  obtain ⟨code, type, hcode, htype, hon⟩ := hc
  unfold virtioGpuSimpleProcessCmd
  rw [hcode, ok_bind, ok_bind]
  dsimp only
  rw [htype]
  cases type with
  | getDisplayInfo | getEdid | resourceFlush => cases hon
  | resourceCreate2d => exact h.fillThen h.resourceCreate2d
  | resourceUnref => exact h.fillThen h.resourceUnref
  | transferToHost2d => exact h.fillThen h.transferToHost2d
  | setScanout => exact h.fillThen h.setScanout
  | resourceAttachBacking => exact h.fillThen h.resourceAttachBacking
  | resourceDetachBacking => exact h.fillThen h.resourceDetachBacking

end Handlers

theorem responseTypes_congr {dev dev' : GPUState} (h : SameTable dev dev') (cs : List GPUInput)
    (hcs : ∀ c ∈ cs, OnTable c) : responseTypes dev cs = responseTypes dev' cs := by
  induction cs generalizing dev dev' with
  | nil => rfl
  | cons c cs ih =>
    have hone := sameTable_command h (hcs c List.mem_cons_self)
    rw [responseTypes, responseTypes]
    generalize virtioGpuSimpleProcessCmd c.1 c.2 dev = x at hone ⊢
    generalize virtioGpuSimpleProcessCmd c.1 c.2 dev' = y at hone ⊢
    cases hone with
    | ok hr =>
      dsimp only
      rw [hr.1, ih hr.2 fun c' hc' => hcs c' (List.mem_cons_of_mem _ hc')]
    | error e => rfl

/-! ## 3. A resource that is left -/

theorem iovToBufFull_one (mem : Mem) {v : Iovec} {need : Nat} (hbase : v.iovBase ≠ 0)
    (hlen : need ≤ v.iovLen.toNat) :
    iovToBufFull mem [v] 0 need = .ok (readBytes mem v.iovBase need) := by
  unfold iovToBufFull
  by_cases h0 : need = 0
  · subst h0
    rfl
  · have hpos : 0 < v.iovLen.toNat := by omega
    have hmin : min (v.iovLen.toNat - 0) (need - ([] : List UInt8).length) = need := by
      rw [Nat.sub_zero, List.length_nil, Nat.sub_zero, Nat.min_eq_right hlen]
    have hloop : iovToBufLoop mem need [v] 0 [] = .ok (0, readBytes mem v.iovBase need) := by
      unfold iovToBufLoop
      rw [if_pos (.inr (Nat.pos_of_ne_zero h0)), if_pos hpos]
      dsimp only
      rw [hmin, if_neg fun hn => hbase hn.1]
      unfold iovToBufLoop
      rw [List.nil_append]
      show Except.ok (0, readBytes mem (v.iovBase + 0) need) = _
      rw [UInt64.add_zero]
    rw [hloop]
    rfl

theorem readBytes_guestHolds (bytes : List UInt8) {n : Nat} (hn : n ≤ bytes.length)
    (hlen : bytes.length < 2 ^ 64) : readBytes (guestHolds bytes) 0x10000 n = bytes.take n := by
  apply List.ext_getElem
  · rw [readBytes_length, List.length_take, Nat.min_eq_left hn]
  · intro k h1 h2
    have hk : k < n := by
      rw [readBytes_length] at h1
      exact h1
    have hsub : (0x10000 + UInt64.ofNat k - 0x10000 : UInt64) = UInt64.ofNat k := by
      rw [UInt64.add_comm, UInt64.add_sub_cancel]
    have htoNat : (UInt64.ofNat k).toNat = k := UInt64.toNat_ofNat_of_lt' (by
      show k < 2 ^ 64
      omega)
    simp only [readBytes, guestHolds, List.getElem_map, List.getElem_range, List.getElem_take, hsub,
      htoNat]
    rw [List.getD_eq_getElem?_getD, List.getElem?_eq_getElem (by omega), Option.getD_some]

/-- What a driver's command reads as. -/
theorem fillCmd_driver {α : Type} (bytes : List UInt8) (size : Nat) (read : Mem → α)
    (hsize : size ≤ bytes.length) (hlen : bytes.length < 2 ^ 64) :
    virtioGpuFillCmd (guestHolds bytes) (driverIov bytes) size read =
      .ok (some (read (bufMem (bytes.take size)))) := by
  have htoNat : (UInt64.ofNat bytes.length).toNat = bytes.length := UInt64.toNat_ofNat_of_lt' hlen
  unfold virtioGpuFillCmd driverIov
  rw [iovToBufFull_one _ (by show (0x10000 : UInt64) ≠ 0; decide)
    (show size ≤ (UInt64.ofNat bytes.length).toNat by rw [htoNat]; exact hsize),
    readBytes_guestHolds bytes hsize hlen]
  show Except.ok (if (bytes.take size).length ≠ size then none else some _) = _
  rw [List.length_take, Nat.min_eq_left hsize, if_neg (not_not.mpr rfl)]

theorem length_createCommand (id width height : UInt32) :
    (createCommand id width height).length = 40 := rfl

theorem controlHeaderType_create (drm : DrmAnswers) (id width height : UInt32) :
    controlHeaderType (driverEnv drm (createCommand id width height))
      (driverIov (createCommand id width height)) = .ok (some 0x101) := by
  have h := fillCmd_driver (createCommand id width height) 24 (readU32 · 0)
    (by rw [length_createCommand]; decide) (by rw [length_createCommand]; decide)
  rw [readU32_of_bytes (x := 0x101) rfl] at h
  exact h

/-- A driver's `create_2d` is one on the table. -/
theorem onTable_create (drm : DrmAnswers) (id width height : UInt32) :
    OnTable (driverEnv drm (createCommand id width height),
      driverIov (createCommand id width height)) :=
  ⟨0x101, .resourceCreate2d, controlHeaderType_create drm id width height, rfl, rfl⟩

/-- What a driver's `create_2d` does. -/
theorem simpleProcessCmd_create (drm : DrmAnswers) (id width height : UInt32) (dev : GPUState) :
    virtioGpuSimpleProcessCmd (driverEnv drm (createCommand id width height))
        (driverIov (createCommand id width height)) dev =
      (resourceCreate2d (driverEnv drm (createCommand id width height)) dev
        ⟨id, 1, width, height⟩).map GPUResult.respond := by
  have hfill := fillCmd_driver (createCommand id width height) 40 ResourceCreate2d.read
    (by rw [length_createCommand]) (by rw [length_createCommand]; decide)
  have hread : ResourceCreate2d.read (bufMem ((createCommand id width height).take 40)) =
      ⟨id, 1, width, height⟩ := by
    unfold ResourceCreate2d.read
    rw [readU32_of_bytes (x := id) rfl, readU32_of_bytes (x := 1) rfl,
      readU32_of_bytes (x := width) rfl, readU32_of_bytes (x := height) rfl]
  rw [hread] at hfill
  have hcode : GPUCommandType.ofCode 0x101 = some .resourceCreate2d := rfl
  unfold virtioGpuSimpleProcessCmd
  rw [controlHeaderType_create, ok_bind]
  dsimp only
  rw [hcode]
  dsimp only [GPUCommandType.handler]
  unfold virtioGpuResourceCreate2d fillThen
  have hmem : (driverEnv drm (createCommand id width height)).cmdMem =
      guestHolds (createCommand id width height) := rfl
  rw [hmem, hfill, ok_bind]

/-- An id in use is refused. -/
theorem create_refused {drm : DrmAnswers} {dev : GPUState} {r : GPUSimpleResource}
    (ht : GPUTableOk dev) (hr : r ∈ dev.resourceList) :
    responseTypes dev [(driverEnv drm (createCommand r.resourceId 0 0),
      driverIov (createCommand r.resourceId 0 0))] = [.ok (some (.err .invalidResourceId))] := by
  have hfind : virtioGpuFindResource dev r.resourceId = some r := Table.find_of_mem ht.nodup hr
  unfold responseTypes
  dsimp only
  rw [simpleProcessCmd_create]
  unfold HvisorTool.resourceCreate2d
  rw [if_neg (ht.nonzero r hr)]
  dsimp only
  rw [hfind]
  rfl

/-- A picture with no pixels fits on every device that does not have its id. -/
theorem create_accepted {drm : DrmAnswers} {dev : GPUState} {id : UInt32} (hid : id ≠ 0)
    (hnew : virtioGpuFindResource dev id = none) :
    responseTypes dev [(driverEnv drm (createCommand id 0 0), driverIov (createCommand id 0 0))] =
      [.ok (some .okNodata)] := by
  have hdone : ∃ dev' : GPUState, resourceCreate2d (driverEnv drm (createCommand id 0 0)) dev
      ⟨id, 1, 0, 0⟩ = .ok dev'.done := by
    have halloc : ¬ (!(driverEnv drm (createCommand id 0 0)).callocOk) = true := by
      show ¬ (!true) = true
      decide
    unfold HvisorTool.resourceCreate2d
    rw [if_neg hid]
    dsimp only
    rw [hnew]
    dsimp only
    rw [if_neg halloc]
    split <;> exact ⟨_, rfl⟩
  obtain ⟨dev', hdone⟩ := hdone
  unfold responseTypes
  dsimp only
  rw [simpleProcessCmd_create, hdone]
  rfl

/-! ## 4. Behind a reset -/

/-- **Behind a reset the device answers every sequence of commands on the table as a new one
    does exactly where the history before it left no resource.** -/
theorem gpu_reset_fresh_iff (requested mode : GPURequestedState) {hist : List GPUStep}
    {s : GPUHistory} (hrun : gpuMachine.run (gpuStart requested mode) hist = some s) :
    (∀ cs, (∀ c ∈ cs, OnTable c) →
        responseTypes (virtioGpuReset s.dev) cs = responseTypes (gpuStart requested mode).dev cs) ↔
      s.dev.resourceList = [] := by
  have hreach := Machine.reach_of_run hrun
  have ht : GPUTableOk s.dev := gpuTableOk_reach hreach
  constructor
  · intro hall
    cases hl : s.dev.resourceList with
    | nil => rfl
    | cons r rs =>
        -- the id of a resource that is left is refused, and a new device takes it
        have hr : r ∈ s.dev.resourceList := hl ▸ List.mem_cons_self
        have hcmd := hall [(driverEnv drmFine (createCommand r.resourceId 0 0),
          driverIov (createCommand r.resourceId 0 0))] fun c hc => by
            rw [List.mem_singleton.mp hc]
            exact onTable_create drmFine r.resourceId 0 0
        have hreset : GPUTableOk (virtioGpuReset s.dev) := ht.of_core rfl rfl
        rw [create_refused hreset hr, create_accepted (ht.nonzero r hr) rfl] at hcmd
        cases hcmd
  · intro hnil cs hcs
    refine responseTypes_congr ⟨?_, ?_, ?_⟩ cs hcs
    · show s.dev.resourceList.map GPUSimpleResource.core = []
      rw [hnil]
      rfl
    · have hzero : s.dev.hostmem.toNat = 0 := by
        rw [ht.total, hnil]
        rfl
      exact UInt64.toNat_inj.mp hzero
    · have hsound : GPUSound s :=
        Machine.Path.inv GPUSound (gpuSound_start requested mode)
          (fun _ _ _ hI _ hs => hI.step hs) hreach
      exact hsound.scanouts

/-- A driver that takes back what it created. -/
theorem gpu_reset_fresh_cleared :
    ∃ s, gpuMachine.run (gpuStart ⟨1280, 800⟩ ⟨1280, 800⟩)
        [driverCommand drmFine (createCommand 1 16 16), driverCommand drmFine (unrefCommand 1)] =
          some s ∧
      ∀ cs, (∀ c ∈ cs, OnTable c) →
        responseTypes (virtioGpuReset s.dev) cs =
          responseTypes (gpuStart ⟨1280, 800⟩ ⟨1280, 800⟩).dev cs := by
  have hrun : (gpuMachine.run (gpuStart ⟨1280, 800⟩ ⟨1280, 800⟩)
      [driverCommand drmFine (createCommand 1 16 16),
        driverCommand drmFine (unrefCommand 1)]).map (fun s => s.dev.resourceList) = some [] := by
    decide
  obtain ⟨s, hs, hnil⟩ := Option.map_eq_some_iff.mp hrun
  exact ⟨s, hs, (gpu_reset_fresh_iff _ _ hs).mpr hnil⟩

/-- **A driver that comes back behind a reset is refused the id it used before.** -/
theorem gpu_reset_keeps_ids :
    ∃ s, gpuMachine.run (gpuStart ⟨1280, 800⟩ ⟨1280, 800⟩)
        [driverCommand drmFine (createCommand 1 16 16)] = some s ∧
      responseTypes (virtioGpuReset s.dev)
          [(driverEnv drmFine (createCommand 1 16 16), driverIov (createCommand 1 16 16))] =
        [.ok (some (.err .invalidResourceId))] ∧
      responseTypes (gpuStart ⟨1280, 800⟩ ⟨1280, 800⟩).dev
          [(driverEnv drmFine (createCommand 1 16 16), driverIov (createCommand 1 16 16))] =
        [.ok (some .okNodata)] := by
  have hrun : (gpuMachine.run (gpuStart ⟨1280, 800⟩ ⟨1280, 800⟩)
      [driverCommand drmFine (createCommand 1 16 16)]).map
        (fun s => responseTypes (virtioGpuReset s.dev)
          [(driverEnv drmFine (createCommand 1 16 16), driverIov (createCommand 1 16 16))]) =
      some [.ok (some (.err .invalidResourceId))] := by
    decide
  obtain ⟨s, hs, hresp⟩ := Option.map_eq_some_iff.mp hrun
  exact ⟨s, hs, hresp, by decide⟩

end HvisorTool
