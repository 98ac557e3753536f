/-
  File:      HvisorTool/Gpu/Resources.lean
  Subject:   THE RESOURCE TABLE of the GPU device over every sequence of commands and resets.

  * `GPUChange`: what a command can do to the device, said once. The results on sequences
    of commands are read off it;
  * `GPUTableOk`: ids are distinct and not 0, the memory total is the sum over the table and below
    its bound, a resource with no mapping counts none, and one with memory has rows;
  * `gpu_resource_table`: the table is so in every state reached, and no command divides by
    zero there.
-/
import HvisorTool.Gpu.Command

namespace HvisorTool

open Library

/-! ## 1. What a command can do -/

/-- A store into a resource that leaves its identity, its size and its scanouts alone, and
    a mapping of `NULL` with no entries. -/
structure StoreOk (f : GPUSimpleResource → GPUSimpleResource) : Prop where
  resourceId : ∀ r, (f r).resourceId = r.resourceId
  height : ∀ r, (f r).height = r.height
  hostmem : ∀ r, (f r).hostmem = r.hostmem
  scanoutBitmask : ∀ r, (f r).scanoutBitmask = r.scanoutBitmask
  unmapped : ∀ r, (r.iov = none → r.iovCnt = 0) → (f r).iov = none → (f r).iovCnt = 0

/-- What a command on the table can do to the device. -/
inductive TableChange (dev : GPUState) : GPUState → Prop where
  | same : TableChange dev dev
  | create (c : ResourceCreate2d) (hid : c.resourceId ≠ 0)
      (hnew : virtioGpuFindResource dev c.resourceId = none)
      (hfit : ¬ c.resource.hostmem + dev.hostmem ≥ virtioGpuMaxHostmem) :
      TableChange dev
        { dev with
          resourceList := c.resource :: dev.resourceList
          hostmem := dev.hostmem + c.resource.hostmem }
  | destroy (res : GPUSimpleResource) (id : UInt32)
      (hfind : virtioGpuFindResource dev id = some res) :
      TableChange dev (virtioGpuResourceDestory dev res)
  | store (id : UInt32) (f : GPUSimpleResource → GPUSimpleResource) (hf : StoreOk f) :
      TableChange dev (dev.modifyResource id f)

/-- Where the checks of `set_scanout` pass. -/
structure SetScanout.Accepted (c : SetScanout) (dev : GPUState) (i : ScanoutId)
    (res : GPUSimpleResource) : Prop where
  scanout : i.val = c.scanoutId.toNat
  inUse : i.val < dev.scanoutsNum
  backed : virtioGpuCheckResource dev c.resourceId = .ok res
  inside : c.r.offScanout res.width res.height = false

/-- Where the checks of `resource_flush` pass. -/
structure ResourceFlush.Accepted (c : ResourceFlush) (dev : GPUState)
    (res : GPUSimpleResource) : Prop where
  backed : virtioGpuCheckResource dev c.resourceId = .ok res
  inside : c.r.outside res.width res.height = false

/-- What a command can do to the device, and the calls it makes to the DRM device. -/
inductive GPUChange (env : GPUEnv) (dev : GPUState) : GPUState → List DrmCall → Prop where
  | table {dev' : GPUState} (h : TableChange dev dev') : GPUChange env dev dev' []
  | bind (c : SetScanout) (i : ScanoutId) (res : GPUSimpleResource) (stride : UInt32)
      (hc : c.Accepted dev i res) :
      GPUChange env dev
        (virtioGpuUpdateScanout dev i (scanoutFrameBuffer res stride c.r) res c.r) []
  | flush (c : ResourceFlush) (res : GPUSimpleResource) (o : GPUResult) (hc : c.Accepted dev res)
      (hflush : flushScanouts env res (List.finRange hvisorVirtioGpuMaxScanouts) dev.done = .ok o) :
      GPUChange env dev o.dev o.calls

variable {env : GPUEnv} {iov : List Iovec} {dev : GPUState} {α : Type} {r : GPUResult} {id : UInt32}
  {res : GPUSimpleResource} {c : ResourceCreate2d} {o : GPUOutcome} {read : Mem → α}
  {act : α → Except GPUFault GPUResult} {f : GPUSimpleResource → GPUSimpleResource}
  {dev' : GPUState} {s s' : GPUHistory}

/-- A handler either returns at its `VIRTIO_GPU_FILL_CMD` or acts on the command it read. -/
theorem fillThen_ok {mem : Mem} {size : Nat} (h : fillThen mem iov size read dev act = .ok r) :
    (r = dev.done ∧ virtioGpuFillCmd mem iov size read = .ok none) ∨
      ∃ c, virtioGpuFillCmd mem iov size read = .ok (some c) ∧ act c = .ok r := by
  obtain ⟨o, ho, h⟩ := bind_eq_ok.mp h
  cases o with
  | none =>
    cases h
    exact .inl ⟨rfl, ho⟩
  | some c => exact .inr ⟨c, ho, h⟩

theorem virtioGpuCheckResource_ok (h : virtioGpuCheckResource dev id = .ok res) :
    virtioGpuFindResource dev id = some res ∧ res.unbacked = false := by
  unfold virtioGpuCheckResource at h
  split at h
  · cases h
  · next res' hfind =>
    split at h
    · cases h
    · next hb =>
      cases h
      exact ⟨hfind, Bool.not_eq_true _ ▸ hb⟩

/-- What the handlers of commands on the table do: no call to the DRM device. -/
def OnlyTable (dev : GPUState) (r : GPUResult) : Prop := TableChange dev r.dev ∧ r.calls = []

theorem onlyTable_done (dev : GPUState) : OnlyTable dev dev.done := ⟨.same, rfl⟩

theorem onlyTable_fails (dev : GPUState) (e : GPUError) : OnlyTable dev (dev.fails e) :=
  ⟨.same, rfl⟩

/-- `create_2d`: refused, for an id that is 0 or taken; dropped for want of memory, with no
    error; or done. -/
theorem resourceCreate2d_cases (h : resourceCreate2d env dev c = .ok r) :
    ((∃ e, r = dev.fails e) ∧
        (c.resourceId = 0 ∨ ∃ res, virtioGpuFindResource dev c.resourceId = some res)) ∨
      (c.resourceId ≠ 0 ∧ virtioGpuFindResource dev c.resourceId = none ∧
        ((c.resource.hostmem + dev.hostmem ≥ virtioGpuMaxHostmem ∧ r = dev.done) ∨
          (¬ c.resource.hostmem + dev.hostmem ≥ virtioGpuMaxHostmem ∧
            r = { dev with
              resourceList := c.resource :: dev.resourceList
              hostmem := dev.hostmem + c.resource.hostmem : GPUState }.done))) := by
  unfold resourceCreate2d at h
  split at h
  · next hid =>
    cases h
    exact .inl ⟨⟨_, rfl⟩, .inl hid⟩
  · next hid =>
    split at h
    · next res hfind =>
      cases h
      exact .inl ⟨⟨_, rfl⟩, .inr ⟨res, hfind⟩⟩
    · next hnew =>
      split at h
      · cases h
      · split at h
        · next hover =>
          cases h
          exact .inr ⟨hid, hnew, .inl ⟨hover, rfl⟩⟩
        · next hfit =>
          cases h
          exact .inr ⟨hid, hnew, .inr ⟨hfit, rfl⟩⟩

theorem resourceCreate2d_ok (h : resourceCreate2d env dev c = .ok r) : OnlyTable dev r := by
  rcases resourceCreate2d_cases h with ⟨⟨e, rfl⟩, -⟩ | ⟨hid, hnew, ⟨-, rfl⟩ | ⟨hfit, rfl⟩⟩
  · exact onlyTable_fails dev e
  · exact onlyTable_done dev
  · exact ⟨.create c hid hnew hfit, rfl⟩

theorem resourceUnref_cases (h : resourceUnref dev id = .ok r) :
    (∃ e, r = dev.fails e) ∨
      ∃ res, virtioGpuFindResource dev id = some res ∧ r = (virtioGpuResourceDestory dev res).done := by
  unfold resourceUnref at h
  split at h
  · cases h
    exact .inl ⟨_, rfl⟩
  · next res hfind =>
    cases h
    exact .inr ⟨res, hfind, rfl⟩

theorem resourceUnref_ok (h : resourceUnref dev id = .ok r) : OnlyTable dev r := by
  rcases resourceUnref_cases h with ⟨e, rfl⟩ | ⟨res, hfind, rfl⟩
  · exact onlyTable_fails dev e
  · exact ⟨.destroy res id hfind, rfl⟩

theorem resourceAttachBacking_cases {c : ResourceAttachBacking}
    (h : resourceAttachBacking env iov dev c = .ok r) :
    ((∃ e, r = dev.fails e) ∧
        ∀ res, virtioGpuFindResource dev c.resourceId = some res → res.iov = none → ∀ entries,
          accessing (createMappingIov env.zones env.entriesMem env.zoneId iov c.nrEntries 32
            env.reallocOk) ≠ .ok (some entries)) ∨
      ∃ res entries, virtioGpuFindResource dev c.resourceId = some res ∧ res.iov = none ∧
        accessing (createMappingIov env.zones env.entriesMem env.zoneId iov c.nrEntries 32
          env.reallocOk) = .ok (some entries) ∧
        r = (dev.modifyResource c.resourceId fun res =>
          { res with
            iov := if entries = [] then none else some entries
            iovCnt := entries.length }).done := by
  unfold resourceAttachBacking at h
  cases hfind : virtioGpuFindResource dev c.resourceId with
  | none =>
    rw [hfind] at h
    cases h
    exact .inl ⟨⟨_, rfl⟩, fun _ hres => by cases hres⟩
  | some res =>
    rw [hfind] at h
    dsimp only at h
    split at h
    · next hiov =>
      cases h
      refine .inl ⟨⟨_, rfl⟩, fun res' hres' hnone => ?_⟩
      cases hres'
      rw [hnone] at hiov
      cases hiov
    · next hiov =>
      obtain ⟨o, hmap, h⟩ := bind_eq_ok.mp h
      cases o with
      | none =>
        cases h
        refine .inl ⟨⟨_, rfl⟩, fun _ _ _ entries => ?_⟩
        rw [hmap]
        intro e
        cases e
      | some entries =>
        cases h
        exact .inr ⟨res, entries, rfl, Option.not_isSome_iff_eq_none.mp hiov, hmap, rfl⟩

theorem resourceAttachBacking_ok {c : ResourceAttachBacking}
    (h : resourceAttachBacking env iov dev c = .ok r) : OnlyTable dev r := by
  rcases resourceAttachBacking_cases h with ⟨⟨e, rfl⟩, -⟩ | ⟨res, entries, -, -, -, rfl⟩
  · exact onlyTable_fails dev e
  · refine ⟨.store c.resourceId _ ⟨fun _ => rfl, fun _ => rfl, fun _ => rfl, fun _ => rfl, ?_⟩, rfl⟩
    intro res _ hnone
    dsimp only at hnone ⊢
    split at hnone
    · next he => rw [he, List.length_nil]
    · cases hnone

theorem resourceDetachBacking_cases (h : resourceDetachBacking dev id = .ok r) :
    (∃ e, r = dev.fails e) ∨
      ∃ res, virtioGpuCheckResource dev id = .ok res ∧
        r = (dev.modifyResource id virtioGpuCleanupMapping).done := by
  unfold resourceDetachBacking at h
  split at h
  · cases h
    exact .inl ⟨_, rfl⟩
  · next res hcheck =>
    cases h
    exact .inr ⟨res, hcheck, rfl⟩

theorem resourceDetachBacking_ok (h : resourceDetachBacking dev id = .ok r) : OnlyTable dev r := by
  rcases resourceDetachBacking_cases h with ⟨e, rfl⟩ | ⟨res, -, rfl⟩
  · exact onlyTable_fails dev e
  · exact ⟨.store id _
      ⟨fun _ => rfl, fun _ => rfl, fun _ => rfl, fun _ => rfl, fun _ _ _ => rfl⟩, rfl⟩

theorem transferToHost2d_cases {c : TransferToHost2d} (h : transferToHost2d dev c = .ok r) :
    (∃ e, r = dev.fails e) ∨
      ∃ res, virtioGpuCheckResource dev c.resourceId = .ok res ∧
        r = (dev.modifyResource c.resourceId fun res =>
          { res with transferRect := c.r, transferOffset := c.offset }).done := by
  unfold transferToHost2d at h
  split at h
  · cases h
    exact .inl ⟨_, rfl⟩
  · next res hcheck =>
    split at h
    · cases h
      exact .inl ⟨_, rfl⟩
    · cases h
      exact .inr ⟨res, hcheck, rfl⟩

theorem transferToHost2d_ok {c : TransferToHost2d}
    (h : transferToHost2d dev c = .ok r) : OnlyTable dev r := by
  rcases transferToHost2d_cases h with ⟨e, rfl⟩ | ⟨res, -, rfl⟩
  · exact onlyTable_fails dev e
  · exact ⟨.store c.resourceId _
      ⟨fun _ => rfl, fun _ => rfl, fun _ => rfl, fun _ => rfl, fun _ hm => hm⟩, rfl⟩

/-- `set_scanout` changes the device exactly where its checks pass. -/
theorem setScanout_ok {c : SetScanout} (h : setScanout dev c = .ok r) :
    ((∃ e, r = dev.fails e) ∧ ∀ i res, ¬ c.Accepted dev i res) ∨
      ∃ i res stride, c.Accepted dev i res ∧
        r = (virtioGpuUpdateScanout dev i (scanoutFrameBuffer res stride c.r) res c.r).done := by
  unfold setScanout at h
  split at h
  · next hid =>
    split at h
    · next e hcheck =>
      cases h
      refine .inl ⟨⟨_, rfl⟩, fun i res ha => ?_⟩
      have hb := ha.backed
      rw [hcheck] at hb
      cases hb
    · next res hcheck =>
      obtain ⟨stride, -, h⟩ := bind_eq_ok.mp h
      unfold virtioGpuDoSetScanout at h
      split at h
      · next hout =>
        cases h
        refine .inl ⟨⟨_, rfl⟩, fun i res' ha => ?_⟩
        have hb := ha.backed
        rw [hcheck] at hb
        cases hb
        have hin : c.r.offScanout res.width res.height = true := hout
        rw [ha.inside] at hin
        cases hin
      · next hin =>
        cases h
        exact .inr ⟨_, res, stride, ⟨rfl, hid, hcheck, Bool.not_eq_true _ ▸ hin⟩, rfl⟩
  · next hid =>
    cases h
    refine .inl ⟨⟨_, rfl⟩, fun i res ha => hid ?_⟩
    rw [← ha.scanout]
    exact ha.inUse

/-- `resource_flush` goes into its loop exactly where its checks pass. -/
theorem resourceFlush_ok {c : ResourceFlush} (h : resourceFlush env dev c = .ok r) :
    ((∃ e, r = dev.fails e) ∧ ∀ res, ¬ c.Accepted dev res) ∨
      ∃ res, c.Accepted dev res ∧
        flushScanouts env res (List.finRange hvisorVirtioGpuMaxScanouts) dev.done = .ok r := by
  unfold resourceFlush at h
  split at h
  · next e hcheck =>
    cases h
    refine .inl ⟨⟨_, rfl⟩, fun res ha => ?_⟩
    have hb := ha.backed
    rw [hcheck] at hb
    cases hb
  · next res hcheck =>
    split at h
    · next hout =>
      cases h
      refine .inl ⟨⟨_, rfl⟩, fun res' ha => ?_⟩
      have hb := ha.backed
      rw [hcheck] at hb
      cases hb
      rw [ha.inside] at hout
      cases hout
    · next hin => exact .inr ⟨res, ⟨hcheck, Bool.not_eq_true _ ▸ hin⟩, h⟩

/-- The types of command that work on the scanouts. -/
def GPUCommandType.onScanouts : GPUCommandType → Bool
  | .setScanout | .resourceFlush => true
  | _ => false

/-- A handler on the table, behind its `VIRTIO_GPU_FILL_CMD` and with the response. -/
theorem onlyTable_fillThen {mem : Mem} {size : Nat} (hact : ∀ c r, act c = .ok r → OnlyTable dev r)
    (h : (fillThen mem iov size read dev act).map GPUResult.respond = .ok o) :
    TableChange dev o.dev ∧ o.calls = [] := by
  obtain ⟨r, hr, rfl⟩ := map_eq_ok.mp h
  obtain ⟨rfl, -⟩ | ⟨c, -, hc⟩ := fillThen_ok hr
  · exact onlyTable_done dev
  · exact hact c r hc

/-- Every type but `set_scanout` and `resource_flush` works on the table only. -/
theorem handler_onlyTable {type : GPUCommandType} (ht : type.onScanouts = false)
    (h : type.handler env iov dev = .ok o) : TableChange dev o.dev ∧ o.calls = [] := by
  cases type with
  | getDisplayInfo | getEdid =>
    cases h
    exact ⟨.same, rfl⟩
  | resourceCreate2d => exact onlyTable_fillThen (fun _ _ => resourceCreate2d_ok) h
  | resourceUnref => exact onlyTable_fillThen (fun _ _ => resourceUnref_ok) h
  | transferToHost2d => exact onlyTable_fillThen (fun _ _ => transferToHost2d_ok) h
  | resourceAttachBacking => exact onlyTable_fillThen (fun _ _ => resourceAttachBacking_ok) h
  | resourceDetachBacking => exact onlyTable_fillThen (fun _ _ => resourceDetachBacking_ok) h
  | setScanout | resourceFlush => cases ht

theorem change_handler {type : GPUCommandType}
    (h : type.handler env iov dev = .ok o) : GPUChange env dev o.dev o.calls := by
  have htable : ∀ {o : GPUOutcome}, TableChange dev o.dev ∧ o.calls = [] →
      GPUChange env dev o.dev o.calls := by
    rintro o ⟨hd, hc⟩
    rw [hc]
    exact .table hd
  cases ht : type.onScanouts with
  | false => exact htable (handler_onlyTable ht h)
  | true =>
    cases type with
    | setScanout =>
      obtain ⟨r, hr, rfl⟩ := map_eq_ok.mp h
      obtain ⟨rfl, -⟩ | ⟨c, -, hc⟩ := fillThen_ok hr
      · exact .table .same
      · obtain ⟨⟨e, rfl⟩, -⟩ | ⟨i, res, stride, ha, rfl⟩ := setScanout_ok hc
        · exact .table .same
        · exact .bind c i res stride ha
    | resourceFlush =>
      obtain ⟨r, hr, rfl⟩ := map_eq_ok.mp h
      obtain ⟨rfl, -⟩ | ⟨c, -, hc⟩ := fillThen_ok hr
      · exact .table .same
      · obtain ⟨⟨e, rfl⟩, -⟩ | ⟨res, ha, hflush⟩ := resourceFlush_ok hc
        · exact .table .same
        · exact .flush c res r ha hflush
    | _ => cases ht

/-- How a command is dispatched. -/
theorem simpleProcessCmd_ok (h : virtioGpuSimpleProcessCmd env iov dev = .ok o) :
    (o.dev = dev ∧ o.calls = [] ∧
        ∀ code, controlHeaderType env iov = .ok (some code) → GPUCommandType.ofCode code = none) ∨
      ∃ code type, controlHeaderType env iov = .ok (some code) ∧
        GPUCommandType.ofCode code = some type ∧ type.handler env iov dev = .ok o := by
  obtain ⟨hdr, hhdr, h⟩ := bind_eq_ok.mp h
  cases hdr with
  | none =>
    cases h
    refine .inl ⟨rfl, rfl, fun code hc => ?_⟩
    rw [hhdr] at hc
    cases hc
  | some code =>
    dsimp only at h
    split at h
    · next hcode =>
      cases h
      refine .inl ⟨rfl, rfl, fun code' hc => ?_⟩
      rw [hhdr] at hc
      cases hc
      exact hcode
    · next type hcode => exact .inr ⟨code, type, hhdr, hcode, h⟩

/-- **Every command does one of the changes.** -/
theorem change_command (h : virtioGpuSimpleProcessCmd env iov dev = .ok o) :
    GPUChange env dev o.dev o.calls := by
  obtain ⟨hd, hc, -⟩ | ⟨code, type, -, -, h⟩ := simpleProcessCmd_ok h
  · rw [hd, hc]
    exact .table .same
  · exact change_handler h

/-! ## 2. What the changes leave alone -/

/-- A resource up to the scanouts it is on. -/
def GPUSimpleResource.core (res : GPUSimpleResource) : GPUSimpleResource :=
  { res with scanoutBitmask := 0 }

/-- The fields of a resource that a table is read by. -/
theorem fields_of_core {r r' : GPUSimpleResource} (h : r.core = r'.core) :
    r.resourceId = r'.resourceId ∧ r.width = r'.width ∧ r.height = r'.height ∧ r.iov = r'.iov ∧
      r.iovCnt = r'.iovCnt ∧ r.hostmem = r'.hostmem := by
  unfold GPUSimpleResource.core at h
  rw [GPUSimpleResource.mk.injEq] at h
  exact ⟨h.1, h.2.1, h.2.2.1, h.2.2.2.2.1, h.2.2.2.2.2.1, h.2.2.2.2.2.2.1⟩

theorem core_unbind (i : ScanoutId) (res : GPUSimpleResource) :
    (res.unbind i).core = res.core := rfl

theorem core_bind (i : ScanoutId) (res : GPUSimpleResource) : (res.bind i).core = res.core := rfl

theorem core_modifyResource (hf : ∀ r, (f r).core = r.core) :
    (dev.modifyResource id f).resourceList.map GPUSimpleResource.core =
      dev.resourceList.map GPUSimpleResource.core :=
  Table.map_update hf

theorem disableScanout_frame (dev : GPUState) (i : ScanoutId) :
    (virtioGpuDisableScanout dev i).resourceList.map GPUSimpleResource.core =
        dev.resourceList.map GPUSimpleResource.core ∧
      (virtioGpuDisableScanout dev i).hostmem = dev.hostmem ∧
      (virtioGpuDisableScanout dev i).scanoutsNum = dev.scanoutsNum := by
  unfold virtioGpuDisableScanout
  dsimp only
  split
  · exact ⟨rfl, rfl, rfl⟩
  · exact ⟨core_modifyResource (core_unbind i), rfl, rfl⟩

theorem disableScanouts_frame (res : GPUSimpleResource) (dev : GPUState) :
    (disableScanouts res dev).resourceList.map GPUSimpleResource.core =
        dev.resourceList.map GPUSimpleResource.core ∧
      (disableScanouts res dev).hostmem = dev.hostmem ∧
      (disableScanouts res dev).scanoutsNum = dev.scanoutsNum := by
  unfold disableScanouts
  -- the loop, from any index on
  induction List.finRange hvisorVirtioGpuMaxScanouts generalizing dev with
  | nil => exact ⟨rfl, rfl, rfl⟩
  | cons i is ih =>
    rw [List.foldl_cons]
    obtain ⟨hl, hh, hn⟩ := ih (if res.onScanout i then virtioGpuDisableScanout dev i else dev)
    rw [hl, hh, hn]
    split
    · exact disableScanout_frame dev i
    · exact ⟨rfl, rfl, rfl⟩

/-- A resource destroyed is one taken out of the table and of the total. -/
theorem resourceDestory_frame (dev : GPUState) (res : GPUSimpleResource) :
    (virtioGpuResourceDestory dev res).resourceList.map GPUSimpleResource.core =
        (Table.remove GPUSimpleResource.resourceId res.resourceId dev.resourceList).map
          GPUSimpleResource.core ∧
      (virtioGpuResourceDestory dev res).hostmem = dev.hostmem - res.hostmem ∧
      (virtioGpuResourceDestory dev res).scanoutsNum = dev.scanoutsNum := by
  have hkey : ∀ r r' : GPUSimpleResource, r.core = r'.core → r.resourceId = r'.resourceId :=
    fun _ _ h => (fields_of_core h).1
  unfold virtioGpuResourceDestory
  dsimp only
  split
  · obtain ⟨hl, hh, hn⟩ := disableScanouts_frame res dev
    exact ⟨Table.remove_congr hl hkey, by rw [hh], hn⟩
  · exact ⟨rfl, rfl, rfl⟩

theorem updateScanout_frame (dev : GPUState) (i : ScanoutId) (fb : GPUFrameBuffer)
    (res : GPUSimpleResource) (r : VirtioGpuRect) :
    (virtioGpuUpdateScanout dev i fb res r).resourceList.map GPUSimpleResource.core =
      dev.resourceList.map GPUSimpleResource.core :=
  (core_modifyResource (core_bind i)).trans (core_modifyResource (core_unbind i))

/-- A flush leaves everything but the frame buffers. -/
structure OnlyFrameBuffers (dev dev' : GPUState) : Prop where
  resourceList : dev'.resourceList = dev.resourceList
  hostmem : dev'.hostmem = dev.hostmem
  scanoutsNum : dev'.scanoutsNum = dev.scanoutsNum
  resourceId : ∀ i, (dev'.scanouts i).resourceId = (dev.scanouts i).resourceId

theorem OnlyFrameBuffers.trans {dev₁ dev₂ dev₃ : GPUState} (h : OnlyFrameBuffers dev₁ dev₂)
    (h' : OnlyFrameBuffers dev₂ dev₃) : OnlyFrameBuffers dev₁ dev₃ where
  resourceList := h'.resourceList.trans h.resourceList
  hostmem := h'.hostmem.trans h.hostmem
  scanoutsNum := h'.scanoutsNum.trans h.scanoutsNum
  resourceId i := (h'.resourceId i).trans (h.resourceId i)

theorem onlyFrameBuffers_set (dev : GPUState) (i : ScanoutId) (fb : GPUFrameBuffer) :
    OnlyFrameBuffers dev (dev.setFrameBuffer i fb) where
  resourceList := rfl
  hostmem := rfl
  scanoutsNum := rfl
  resourceId j := by
    by_cases hj : j = i
    · subst hj
      simp [GPUState.setFrameBuffer]
    · simp [GPUState.setFrameBuffer, Function.update_of_ne hj]

theorem onlyFrameBuffers_refl (dev : GPUState) : OnlyFrameBuffers dev dev :=
  ⟨rfl, rfl, rfl, fun _ => rfl⟩

theorem flushScanout_frame {i : ScanoutId} {o : GPUResult × Bool}
    (h : flushScanout env res i r = .ok o) : OnlyFrameBuffers r.dev o.1.dev := by
  unfold flushScanout at h
  split at h
  · cases h
    exact onlyFrameBuffers_refl _
  · dsimp only at h
    split at h
    · cases h
      exact onlyFrameBuffers_set _ _ _
    · obtain ⟨drawn, hdrawn, h⟩ := bind_eq_ok.mp h
      cases h
      exact onlyFrameBuffers_set _ _ _

theorem flushScanouts_frame {is : List ScanoutId} {o : GPUResult}
    (h : flushScanouts env res is r = .ok o) : OnlyFrameBuffers r.dev o.dev := by
  induction is generalizing r with
  | nil =>
    cases h
    exact onlyFrameBuffers_refl _
  | cons i is ih =>
    obtain ⟨⟨r', goOn⟩, hr, h⟩ := bind_eq_ok.mp h
    have hframe : OnlyFrameBuffers r.dev r'.dev := flushScanout_frame hr
    cases goOn with
    | true => exact hframe.trans (ih h)
    | false =>
      cases h
      exact hframe

/-! ## 3. The table -/

/-- The resource table, and the memory total beside it. -/
structure GPUTableOk (dev : GPUState) : Prop where
  nodup : (dev.resourceList.map GPUSimpleResource.resourceId).Nodup
  nonzero : ∀ r ∈ dev.resourceList, r.resourceId ≠ 0
  total : dev.hostmem.toNat = (dev.resourceList.map fun r => r.hostmem.toNat).sum
  below : dev.hostmem < virtioGpuMaxHostmem
  unmapped : ∀ r ∈ dev.resourceList, r.iov = none → r.iovCnt = 0
  rows : ∀ r ∈ dev.resourceList, r.hostmem ≠ 0 → r.height ≠ 0

/-- The table is read without the scanouts. -/
theorem GPUTableOk.of_core (h : GPUTableOk dev)
    (hl : dev'.resourceList.map GPUSimpleResource.core =
      dev.resourceList.map GPUSimpleResource.core)
    (hh : dev'.hostmem = dev.hostmem) : GPUTableOk dev' := by
  have hmem : ∀ r' ∈ dev'.resourceList, ∃ r ∈ dev.resourceList, r.core = r'.core := by
    intro r' hr'
    have : r'.core ∈ dev.resourceList.map GPUSimpleResource.core := hl ▸ List.mem_map_of_mem hr'
    exact List.mem_map.mp this
  have hids := congrArg (List.map GPUSimpleResource.resourceId) hl
  have hmems := congrArg (List.map fun r : GPUSimpleResource => r.hostmem.toNat) hl
  rw [List.map_map, List.map_map] at hids hmems
  refine ⟨?_, ?_, ?_, hh ▸ h.below, ?_, ?_⟩
  · exact hids ▸ h.nodup
  · intro r' hr'
    obtain ⟨r, hr, e⟩ := hmem r' hr'
    exact (fields_of_core e).1 ▸ h.nonzero r hr
  · rw [hh, h.total]
    exact congrArg List.sum hmems.symm
  · intro r' hr' hi
    obtain ⟨r, hr, e⟩ := hmem r' hr'
    obtain ⟨-, -, -, hiov, hcnt, -⟩ := fields_of_core e
    exact hcnt ▸ h.unmapped r hr (hiov.trans hi)
  · intro r' hr' hm
    obtain ⟨r, hr, e⟩ := hmem r' hr'
    obtain ⟨-, -, hheight, -, -, hhost⟩ := fields_of_core e
    exact hheight ▸ h.rows r hr (hhost ▸ hm)

theorem GPUTableOk.modify (h : GPUTableOk dev)
    (hf : StoreOk f) : GPUTableOk (dev.modifyResource id f) := by
  have hmem : ∀ r' ∈ (dev.modifyResource id f).resourceList,
      r' ∈ dev.resourceList ∨ ∃ r ∈ dev.resourceList, r' = f r := by
    intro r' hr'
    rcases (Table.mem_update_iff h.nodup).mp hr' with ⟨hr, _⟩ | ⟨r, hr, _, e⟩
    · exact .inl hr
    · exact .inr ⟨r, hr, e⟩
  refine ⟨?_, ?_, ?_, h.below, ?_, ?_⟩
  · have hids : (dev.modifyResource id f).resourceList.map GPUSimpleResource.resourceId =
        dev.resourceList.map GPUSimpleResource.resourceId := Table.keys_update hf.resourceId
    rw [hids]
    exact h.nodup
  · intro r' hr'
    rcases hmem r' hr' with hr | ⟨r, hr, rfl⟩
    · exact h.nonzero r' hr
    · rw [hf.resourceId]
      exact h.nonzero r hr
  · have hsum : ∀ r, (f r).hostmem.toNat = r.hostmem.toNat := fun r => by rw [hf.hostmem]
    have e : (dev.modifyResource id f).resourceList.map (fun r => r.hostmem.toNat) =
        dev.resourceList.map fun r => r.hostmem.toNat := Table.map_update hsum
    rw [e]
    exact h.total
  · intro r' hr'
    rcases hmem r' hr' with hr | ⟨r, hr, rfl⟩
    · exact h.unmapped r' hr
    · exact hf.unmapped r (h.unmapped r hr)
  · intro r' hr'
    rcases hmem r' hr' with hr | ⟨r, hr, rfl⟩
    · exact h.rows r' hr
    · rw [hf.hostmem, hf.height]
      exact h.rows r hr

theorem hostmem_resource_lt (c : ResourceCreate2d) : c.resource.hostmem.toNat < 2 ^ 32 := by
  have e : c.resource.hostmem = (calcImageHostmem 32 c.width c.height).toUInt64 := rfl
  rw [e, UInt32.toNat_toUInt64]
  exact UInt32.toNat_lt _

/-- A picture with no rows takes no memory. -/
theorem height_ne_zero_of_hostmem (h : c.resource.hostmem ≠ 0) : c.resource.height ≠ 0 := by
  intro h0
  refine h ?_
  have hheight : c.height = 0 := h0
  show (calcImageHostmem 32 c.width c.height).toUInt64 = 0
  rw [hheight, calcImageHostmem, UInt32.zero_mul]
  rfl

theorem GPUTableOk.create (h : GPUTableOk dev) (hid : c.resourceId ≠ 0)
    (hnew : virtioGpuFindResource dev c.resourceId = none)
    (hfit : ¬ c.resource.hostmem + dev.hostmem ≥ virtioGpuMaxHostmem) :
    GPUTableOk
      { dev with
        resourceList := c.resource :: dev.resourceList
        hostmem := dev.hostmem + c.resource.hostmem } := by
  have hadd : (dev.hostmem + c.resource.hostmem).toNat =
      dev.hostmem.toNat + c.resource.hostmem.toNat := by
    have hc := hostmem_resource_lt c
    have hb : dev.hostmem.toNat < 536870912 := UInt64.lt_iff_toNat_lt.mp h.below
    rw [UInt64.toNat_add]
    exact Nat.mod_eq_of_lt (by omega)
  refine ⟨?_, ?_, ?_, ?_, ?_, ?_⟩
  · rw [List.map_cons, List.nodup_cons]
    exact ⟨Table.find_eq_none_iff.mp hnew, h.nodup⟩
  · intro r hr
    rcases List.mem_cons.mp hr with rfl | hr
    · exact hid
    · exact h.nonzero r hr
  · rw [List.map_cons, List.sum_cons, hadd, h.total, Nat.add_comm]
  · rw [UInt64.add_comm]
    exact UInt64.not_le.mp hfit
  · intro r hr
    rcases List.mem_cons.mp hr with rfl | hr
    · exact fun _ => rfl
    · exact h.unmapped r hr
  · intro r hr
    rcases List.mem_cons.mp hr with rfl | hr
    · exact height_ne_zero_of_hostmem
    · exact h.rows r hr

theorem GPUTableOk.destroy (h : GPUTableOk dev) (hfind : virtioGpuFindResource dev id = some res) :
    GPUTableOk (virtioGpuResourceDestory dev res) := by
  have hid : res.resourceId = id := Table.key_of_find hfind
  have hsum : dev.hostmem.toNat = res.hostmem.toNat +
      ((Table.remove GPUSimpleResource.resourceId res.resourceId dev.resourceList).map
        fun r => r.hostmem.toNat).sum := by
    rw [h.total, hid]
    exact Table.sum_remove hfind
  have hsub : (dev.hostmem - res.hostmem).toNat = dev.hostmem.toNat - res.hostmem.toNat :=
    UInt64.toNat_sub_of_le _ _ (UInt64.le_iff_toNat_le.mpr (by omega))
  have hin : ∀ r ∈ Table.remove GPUSimpleResource.resourceId res.resourceId dev.resourceList,
      r ∈ dev.resourceList := fun r hr => Table.remove_sublist.subset hr
  -- the table with the resource taken out, the scanouts apart
  have hout : GPUTableOk
      { dev with
        resourceList := Table.remove GPUSimpleResource.resourceId res.resourceId dev.resourceList
        hostmem := dev.hostmem - res.hostmem } := by
    refine ⟨Table.nodup_remove h.nodup, fun r hr => h.nonzero r (hin r hr), ?_, ?_,
      fun r hr => h.unmapped r (hin r hr), fun r hr => h.rows r (hin r hr)⟩
    · dsimp only
      rw [hsub]
      omega
    · have hb := UInt64.lt_iff_toNat_lt.mp h.below
      rw [UInt64.lt_iff_toNat_lt, hsub]
      omega
  obtain ⟨hl, hh, -⟩ := resourceDestory_frame dev res
  exact hout.of_core hl hh

theorem GPUTableOk.tableChange (h : GPUTableOk dev)
    (hc : TableChange dev dev') : GPUTableOk dev' := by
  cases hc with
  | same => exact h
  | create c hid hnew hfit => exact h.create hid hnew hfit
  | destroy res id hfind => exact h.destroy hfind
  | store id f hf => exact h.modify hf

theorem GPUTableOk.change (h : GPUTableOk dev) {calls : List DrmCall}
    (hc : GPUChange env dev dev' calls) : GPUTableOk dev' := by
  cases hc with
  | table hc => exact h.tableChange hc
  | bind c i res stride ha => exact h.of_core (updateScanout_frame dev i _ res c.r) rfl
  | flush c res o ha hflush =>
    have hframe : OnlyFrameBuffers dev o.dev := flushScanouts_frame hflush
    exact h.of_core (by rw [hframe.resourceList]) hframe.hostmem

theorem gpuTableOk_start (requested mode : GPURequestedState) :
    GPUTableOk (gpuStart requested mode).dev :=
  ⟨List.nodup_nil, fun _ h => absurd h List.not_mem_nil, rfl,
    show (0 : UInt64) < virtioGpuMaxHostmem by decide,
    fun _ h => absurd h List.not_mem_nil, fun _ h => absurd h List.not_mem_nil⟩

theorem gpuMachine_command (h : gpuMachine.step s (.command env iov) = some s') :
    ∃ o, virtioGpuSimpleProcessCmd env iov s.dev = .ok o ∧ s' = ⟨o.dev, s.calls ++ o.calls⟩ := by
  unfold gpuMachine at h
  dsimp only at h
  split at h
  · next o ho =>
    cases h
    exact ⟨o, ho, rfl⟩
  · cases h

theorem GPUTableOk.step {a : GPUStep} (h : GPUTableOk s.dev)
    (hs : gpuMachine.step s a = some s') : GPUTableOk s'.dev := by
  cases a with
  | command env iov =>
    obtain ⟨o, ho, rfl⟩ := gpuMachine_command hs
    exact h.change (change_command ho)
  | reset =>
    cases hs
    exact h.of_core rfl rfl

theorem gpuTableOk_reach {requested mode : GPURequestedState}
    (h : gpuMachine.Reach (gpuStart requested mode) s) : GPUTableOk s.dev :=
  Machine.Path.inv (fun s => GPUTableOk s.dev) (gpuTableOk_start requested mode)
    (fun _ _ _ hI _ hs => hI.step hs) h

/-! ## 4. The divisions -/

theorem GPUTableOk.height_ne_zero (h : GPUTableOk dev)
    (hc : virtioGpuCheckResource dev id = .ok res) : res.height ≠ 0 := by
  obtain ⟨hfind, hb⟩ := virtioGpuCheckResource_ok hc
  refine h.rows res (Table.mem_of_find hfind) ?_
  unfold GPUSimpleResource.unbacked at hb
  exact ne_of_beq_false (Bool.or_eq_false_iff.mp hb).2

/-- No division by zero. -/
def Divides {α : Type} (x : Except GPUFault α) : Prop := x ≠ .error .divByZero

theorem divides_ok (a : α) : Divides (.ok a) := fun h => by cases h

theorem divides_bind {β : Type} {x : Except GPUFault α} {f : α → Except GPUFault β} (hx : Divides x)
    (hf : ∀ a, x = .ok a → Divides (f a)) : Divides (x >>= f) := by
  intro h
  rcases bind_eq_error.mp h with h | ⟨a, ha, h⟩
  · exact hx h
  · exact hf a ha h

theorem divides_accessing (x : Except ChainError α) : Divides (accessing x) := by
  cases x with
  | ok a => exact divides_ok a
  | error e => exact fun h => by cases h

theorem divides_fillCmd (mem : Mem) (iov : List Iovec) (size : Nat) (read : Mem → α) :
    Divides (virtioGpuFillCmd mem iov size read) :=
  divides_bind (divides_accessing _) fun _ _ => divides_ok _

theorem divides_fillThen {mem : Mem} {size : Nat} (hact : ∀ c, Divides (act c)) :
    Divides ((fillThen mem iov size read dev act).map GPUResult.respond) := by
  intro h
  refine divides_bind (divides_fillCmd mem iov size read) ?_ (map_eq_error.mp h)
  intro o _
  cases o with
  | none => exact divides_ok _
  | some c => exact hact c

theorem divides_rowStride (h : res.height ≠ 0) : Divides (rowStride res) := by
  unfold rowStride
  rw [if_neg h]
  exact divides_ok _

theorem divides_copyToFb (env : GPUEnv) (fb : GPUFrameBuffer) (res : GPUSimpleResource)
    (src dst len : UInt32) : Divides (copyToFb env fb res src dst len) := by
  refine divides_bind (divides_accessing _) fun bytes _ => ?_
  split
  · exact fun h => by cases h
  · exact divides_ok _

theorem divides_mapM {β : Type} {f : α → Except GPUFault β} (hf : ∀ a, Divides (f a))
    (l : List α) : Divides (l.mapM f) := by
  induction l with
  | nil => exact divides_ok _
  | cons a l ih =>
    rw [List.mapM_cons]
    exact divides_bind (hf a) fun _ _ => divides_bind ih fun _ _ => divides_ok _

theorem divides_copyRect (env : GPUEnv) (fb : GPUFrameBuffer) (res : GPUSimpleResource)
    (stride : UInt32) : Divides (copyRect env fb res stride) := by
  unfold copyRect
  dsimp only
  split
  · exact divides_mapM (fun h => divides_copyToFb _ _ _ _ _ _) _
  · exact divides_bind (divides_copyToFb _ _ _ _ _ _) fun _ _ => divides_ok _

theorem divides_copyAndFlush (hres : res.height ≠ 0) (i : ScanoutId)
    (fb : GPUFrameBuffer) : Divides (virtioGpuCopyAndFlush env i fb res) := by
  unfold virtioGpuCopyAndFlush
  split
  · exact divides_ok _
  · split
    · exact divides_ok _
    · exact divides_bind (divides_rowStride hres) fun _ _ =>
        divides_bind (divides_copyRect _ _ _ _) fun _ _ => divides_ok _

theorem divides_flushScanouts (hres : res.height ≠ 0)
    (is : List ScanoutId) (r : GPUResult) : Divides (flushScanouts env res is r) := by
  induction is generalizing r with
  | nil => exact divides_ok _
  | cons i is ih =>
    refine divides_bind ?_ fun o _ => ?_
    · unfold flushScanout
      split
      · exact divides_ok _
      · dsimp only
        split
        · exact divides_ok _
        · exact divides_bind (divides_copyAndFlush hres i _) fun _ _ => divides_ok _
    · obtain ⟨r', goOn⟩ := o
      cases goOn with
      | true => exact ih r'
      | false => exact divides_ok _

theorem divides_setScanout (h : GPUTableOk dev) (c : SetScanout) : Divides (setScanout dev c) := by
  unfold setScanout
  split
  · split
    · exact divides_ok _
    · next res hc =>
      exact divides_bind (divides_rowStride (h.height_ne_zero hc)) fun _ _ => divides_ok _
  · exact divides_ok _

theorem divides_resourceFlush (h : GPUTableOk dev) (c : ResourceFlush) :
    Divides (resourceFlush env dev c) := by
  unfold resourceFlush
  split
  · exact divides_ok _
  · next res hc =>
    split
    · exact divides_ok _
    · exact divides_flushScanouts (h.height_ne_zero hc) _ _

theorem divides_resourceCreate2d (c : ResourceCreate2d) : Divides (resourceCreate2d env dev c) := by
  unfold resourceCreate2d
  split
  · exact divides_ok _
  · split
    · exact divides_ok _
    · split
      · exact fun h => by cases h
      · split <;> exact divides_ok _

theorem divides_resourceUnref (id : UInt32) : Divides (resourceUnref dev id) := by
  unfold resourceUnref
  split <;> exact divides_ok _

theorem divides_resourceAttachBacking (c : ResourceAttachBacking) :
    Divides (resourceAttachBacking env iov dev c) := by
  unfold resourceAttachBacking
  split
  · exact divides_ok _
  · split
    · exact divides_ok _
    · refine divides_bind (divides_accessing _) fun o _ => ?_
      cases o <;> exact divides_ok _

theorem divides_resourceDetachBacking (id : UInt32) : Divides (resourceDetachBacking dev id) := by
  unfold resourceDetachBacking
  split <;> exact divides_ok _

theorem divides_transferToHost2d (c : TransferToHost2d) : Divides (transferToHost2d dev c) := by
  unfold transferToHost2d
  split
  · exact divides_ok _
  · split <;> exact divides_ok _

/-- **No command divides by zero** on a device whose table is in order. -/
theorem GPUTableOk.divides (h : GPUTableOk dev) (env : GPUEnv) (iov : List Iovec) :
    Divides (virtioGpuSimpleProcessCmd env iov dev) := by
  refine divides_bind (divides_fillCmd _ _ _ _) fun hdr _ => ?_
  cases hdr with
  | none => exact divides_ok _
  | some code =>
    dsimp only
    split
    · exact divides_ok _
    · next type _ =>
      cases type with
      | getDisplayInfo | getEdid => exact divides_ok _
      | resourceCreate2d => exact divides_fillThen divides_resourceCreate2d
      | resourceUnref => exact divides_fillThen divides_resourceUnref
      | resourceFlush => exact divides_fillThen (divides_resourceFlush h)
      | transferToHost2d => exact divides_fillThen divides_transferToHost2d
      | setScanout => exact divides_fillThen (divides_setScanout h)
      | resourceAttachBacking => exact divides_fillThen divides_resourceAttachBacking
      | resourceDetachBacking => exact divides_fillThen divides_resourceDetachBacking

/-! ## 5. Every sequence of commands and resets -/

/-- **The resource table is in order in every state that commands and resets lead to**: ids
    are distinct and not 0, `hostmem` is the sum over the table and below its bound, a
    mapping of `NULL` has no entries, what passes `check_resource` has rows, and no command
    divides by zero. -/
theorem gpu_resource_table {requested mode : GPURequestedState} {s : GPUHistory}
    (h : gpuMachine.Reach (gpuStart requested mode) s) :
    (s.dev.resourceList.map GPUSimpleResource.resourceId).Nodup ∧
      (∀ r ∈ s.dev.resourceList, r.resourceId ≠ 0) ∧
      s.dev.hostmem.toNat = (s.dev.resourceList.map fun r => r.hostmem.toNat).sum ∧
      s.dev.hostmem < virtioGpuMaxHostmem ∧
      (∀ r ∈ s.dev.resourceList, r.iov = none → r.iovCnt = 0) ∧
      (∀ id res, virtioGpuCheckResource s.dev id = .ok res → res.height ≠ 0) ∧
      ∀ env iov, virtioGpuSimpleProcessCmd env iov s.dev ≠ .error .divByZero := by
  have hok : GPUTableOk s.dev := gpuTableOk_reach h
  exact ⟨hok.nodup, hok.nonzero, hok.total, hok.below, hok.unmapped,
    fun _ _ hc => hok.height_ne_zero hc, hok.divides⟩

/-- A picture of 16 by 16 pixels, created and given its backing store. -/
theorem gpu_resource_table_attached :
    ∃ s, gpuMachine.run (gpuStart ⟨1280, 800⟩ ⟨1280, 800⟩)
        [driverCommand drmFine (createCommand 1 16 16), driverCommand drmFine (attachCommand 1 1024)] =
          some s ∧
      s.dev.resourceList.map (fun r => (r.resourceId, r.iovCnt)) = [(1, 1)] ∧
      s.dev.hostmem.toNat = (s.dev.resourceList.map fun r => r.hostmem.toNat).sum := by
  have hrun : (gpuMachine.run (gpuStart ⟨1280, 800⟩ ⟨1280, 800⟩)
      [driverCommand drmFine (createCommand 1 16 16),
        driverCommand drmFine (attachCommand 1 1024)]).map
        (fun s => s.dev.resourceList.map fun r => (r.resourceId, r.iovCnt)) = some [(1, 1)] := by
    decide
  obtain ⟨s, hs, hlist⟩ := Option.map_eq_some_iff.mp hrun
  exact ⟨s, hs, hlist, (gpu_resource_table (Machine.reach_of_run hs)).2.2.1⟩

end HvisorTool
