/-
  File:      HvisorTool/Gpu/Effects.lean
  Subject:   WHAT A RESPONSE TO A GPU COMMAND SAYS ABOUT ITS EFFECT.

  `gcmd->error` starts at 0 and no error means OK. A handler that returns early without an
  error, or that does nothing, is answered with OK all the same.

  * `cmdBytes`, `virtioGpuFillCmd_ok`: the struct of a command, if the buffers have it;
  * `Carried`: the effect of each type of command;
  * `CmdEnd`: refused with nothing changed, carried out, or answered without effect;
    `resourceCreate2d_end`, …: how each handler ends;
  * `CommandFits`: the buffers hold the struct, the type is implemented, there is memory for
    a new resource and behind the entries of one, and a scanout can be set to show it;
  * `responds_iff`, `truthful_iff`: where there is a response, and where it says what was done.
-/
import HvisorTool.Gpu.FrameBuffers

namespace HvisorTool

open Library

/-! ## 1. The struct of a command -/

/-- The first bytes of the buffers, as a struct of that size lies in memory. -/
def cmdBytes (mem : Mem) (iov : List Iovec) (size : Nat) : Mem :=
  bufMem ((iovBytes mem iov).take size)

/-- `gcmd->control_header.type`. -/
def headerCode (env : GPUEnv) (iov : List Iovec) : UInt32 := readU32 (cmdBytes env.hdrMem iov 24) 0

/-- **`VIRTIO_GPU_FILL_CMD` returns early exactly if the buffers are too short.** -/
theorem virtioGpuFillCmd_ok {α : Type} {mem : Mem} {iov : List Iovec} {size : Nat} {read : Mem → α}
    {o : Option α} (h : virtioGpuFillCmd mem iov size read = .ok o) :
    (iovTotal iov < size ∧ o = none) ∨
      (size ≤ iovTotal iov ∧ o = some (read (cmdBytes mem iov size))) := by
  obtain ⟨buf, hbuf, h⟩ := bind_eq_ok.mp h
  have hbuf := iovToBufFull_take (accessing_ok hbuf)
  have hlen : buf.length = min size (iovTotal iov) := by
    rw [hbuf, List.length_take, iovBytes_length]
  cases h
  by_cases hfit : size ≤ iovTotal iov
  · refine .inr ⟨hfit, ?_⟩
    rw [if_neg (by omega), hbuf]
    rfl
  · refine .inl ⟨Nat.not_le.mp hfit, ?_⟩
    rw [if_pos (by omega)]

/-! ## 2. Effects -/

/-- `create_2d`: the resource is in the list, and its memory in the total. -/
def ResourceCreate2d.Done (c : ResourceCreate2d) (dev dev' : GPUState) : Prop :=
  dev' = { dev with
    resourceList := c.resource :: dev.resourceList
    hostmem := dev.hostmem + c.resource.hostmem }

/-- `unref`: the resource was there and is out of the list and of the total. Other resources
    are as they were up to the scanouts they are on. -/
def UnrefDone (id : UInt32) (dev dev' : GPUState) : Prop :=
  ∃ res, virtioGpuFindResource dev id = some res ∧
    dev'.resourceList.map GPUSimpleResource.core =
      (Table.remove GPUSimpleResource.resourceId id dev.resourceList).map GPUSimpleResource.core ∧
    dev'.hostmem = dev.hostmem - res.hostmem

/-- The records behind an `attach_backing`, translated. -/
def backingEntries (env : GPUEnv) (iov : List Iovec) (nrEntries : UInt32) : List Iovec :=
  (guestEntries env.entriesMem iov nrEntries 32).map fun e =>
    ⟨getVirtAddr env.zones e.addr (asInt env.zoneId), e.length.toUInt64⟩

/-- There is backing store: at least one entry, and host memory behind each. -/
def Backs (entries : List Iovec) : Prop := entries ≠ [] ∧ ∀ v ∈ entries, v.iovBase ≠ 0

/-- `attach_backing`: the resource has the entries of the guest, and they are memory. -/
def ResourceAttachBacking.Done (c : ResourceAttachBacking) (env : GPUEnv) (iov : List Iovec)
    (dev dev' : GPUState) : Prop :=
  Backs (backingEntries env iov c.nrEntries) ∧
    ∃ res, virtioGpuFindResource dev c.resourceId = some res ∧
      virtioGpuFindResource dev' c.resourceId = some { res with
        iov := some (backingEntries env iov c.nrEntries)
        iovCnt := (backingEntries env iov c.nrEntries).length }

/-- `detach_backing`: the resource has none. -/
def DetachDone (id : UInt32) (dev dev' : GPUState) : Prop :=
  ∃ res, virtioGpuFindResource dev id = some res ∧
    virtioGpuFindResource dev' id = some { res with iov := none, iovCnt := 0 }

/-- `transfer_to_host_2d`: the resource has the rectangle for the next flush. -/
def TransferToHost2d.Done (c : TransferToHost2d) (dev dev' : GPUState) : Prop :=
  ∃ res, virtioGpuFindResource dev c.resourceId = some res ∧
    virtioGpuFindResource dev' c.resourceId =
      some { res with transferRect := c.r, transferOffset := c.offset }

/-- `set_scanout`: the scanout shows the rectangle of the resource, and both know. -/
def SetScanout.Done (c : SetScanout) (dev' : GPUState) : Prop :=
  ∃ i : ScanoutId, i.val = c.scanoutId.toNat ∧ (dev'.scanouts i).resourceId = c.resourceId ∧
    (⟨(dev'.scanouts i).x, (dev'.scanouts i).y, (dev'.scanouts i).width,
      (dev'.scanouts i).height⟩ : VirtioGpuRect) = c.r ∧
    ∃ res, virtioGpuFindResource dev' c.resourceId = some res ∧ res.onScanout i = true

/-- `flush`: the resource is drawn on every scanout it is on, and the scanout set to show it. -/
def ResourceFlush.Done (c : ResourceFlush) (env : GPUEnv) (dev : GPUState)
    (calls : List DrmCall) : Prop :=
  ∃ res, virtioGpuFindResource dev c.resourceId = some res ∧
    ∀ i, res.onScanout i = true → i ∈ drawnOn calls ∧ (env.drm i).setCrtc = true

/-- The size of the struct of a command. -/
def GPUCommandType.structSize : GPUCommandType → Nat
  | .getDisplayInfo => 24
  | .getEdid => 32
  | .resourceCreate2d => 40
  | .resourceUnref => 32
  | .resourceFlush => 48
  | .transferToHost2d => 56
  | .setScanout => 48
  | .resourceAttachBacking => 32
  | .resourceDetachBacking => 32

section Effects

variable (env : GPUEnv) (iov : List Iovec) (dev : GPUState)

/-- What a command of the type does to the device and through its calls. `get_edid` is not
    implemented, so nothing is its effect. -/
def GPUCommandType.Effect (dev' : GPUState) (calls : List DrmCall) : GPUCommandType → Prop
  | .getDisplayInfo => dev' = dev
  | .getEdid => False
  | .resourceCreate2d => (ResourceCreate2d.read (cmdBytes env.cmdMem iov 40)).Done dev dev'
  | .resourceUnref => UnrefDone (readU32 (cmdBytes env.cmdMem iov 32) 24) dev dev'
  | .resourceFlush => (ResourceFlush.read (cmdBytes env.cmdMem iov 48)).Done env dev calls
  | .transferToHost2d => (TransferToHost2d.read (cmdBytes env.cmdMem iov 56)).Done dev dev'
  | .setScanout => (SetScanout.read (cmdBytes env.cmdMem iov 48)).Done dev'
  | .resourceAttachBacking =>
    (ResourceAttachBacking.read (cmdBytes env.cmdMem iov 32)).Done env iov dev dev'
  | .resourceDetachBacking => DetachDone (readU32 (cmdBytes env.cmdMem iov 32) 24) dev dev'

/-- **The command was carried out**: the request held its struct, and its effect is there. -/
def Carried (dev' : GPUState) (calls : List DrmCall) (type : GPUCommandType) : Prop :=
  type.structSize ≤ iovTotal iov ∧ type.Effect env iov dev dev' calls

/-- There is memory for the resource, if `create_2d` comes to ask for it. -/
def ResourceCreate2d.FitsHostmem (c : ResourceCreate2d) : Prop :=
  c.resourceId ≠ 0 → virtioGpuFindResource dev c.resourceId = none →
    c.resource.hostmem + dev.hostmem < virtioGpuMaxHostmem

/-- The entries are backing store, if `attach_backing` comes to map them. -/
def ResourceAttachBacking.HasStore (c : ResourceAttachBacking) : Prop :=
  ∀ res entries, virtioGpuFindResource dev c.resourceId = some res → res.iov = none →
    accessing (createMappingIov env.zones env.entriesMem env.zoneId iov c.nrEntries 32
      env.reallocOk) = .ok (some entries) → Backs entries

/-- No `drmModeSetCrtc` of the `flush` fails. -/
def ResourceFlush.Shows (c : ResourceFlush) : Prop :=
  ∀ r, resourceFlush env dev c = .ok r → r.error = none →
    ∀ i ∈ drawnOn r.calls, (env.drm i).setCrtc = true

/-- The device can do it: the type is implemented, a new resource fits, there is backing store
    to attach, and a scanout can be set to show what is drawn. -/
def GPUCommandType.Possible : GPUCommandType → Prop
  | .getEdid => False
  | .resourceCreate2d =>
    (ResourceCreate2d.read (cmdBytes env.cmdMem iov 40)).FitsHostmem dev
  | .resourceAttachBacking =>
    (ResourceAttachBacking.read (cmdBytes env.cmdMem iov 32)).HasStore env iov dev
  | .resourceFlush => (ResourceFlush.read (cmdBytes env.cmdMem iov 48)).Shows env dev
  | _ => True

/-- **The command fits**: the buffers hold its struct, and the device can do it. -/
def CommandFits (type : GPUCommandType) : Prop :=
  type.structSize ≤ iovTotal iov ∧ type.Possible env iov dev

end Effects

/-! ## 3. How the handlers end -/

/-- How a handler ends: refused, with nothing changed; carried out; or, where `ok` fails, with
    no error set and without its effect. -/
inductive CmdEnd (ok : Prop) (effect : GPUState → List DrmCall → Prop) (dev : GPUState) :
    GPUResult → Prop where
  | refused (hok : ok) {r : GPUResult} (e : GPUError) (he : r.error = some e) (hd : r.dev = dev) :
      CmdEnd ok effect dev r
  | carried (hok : ok) {r : GPUResult} (he : r.error = none) (hdone : effect r.dev r.calls) :
      CmdEnd ok effect dev r
  | silent (hok : ¬ ok) {r : GPUResult} (he : r.error = none) (hnot : ¬ effect r.dev r.calls) :
      CmdEnd ok effect dev r

section Handlers

variable {env : GPUEnv} {iov : List Iovec} {dev : GPUState} {r : GPUResult}

theorem cmdEnd_fails {ok : Prop} {effect : GPUState → List DrmCall → Prop} (hok : ok)
    (e : GPUError) : CmdEnd ok effect dev (dev.fails e) :=
  .refused hok e rfl rfl

/-- A handler from its `VIRTIO_GPU_FILL_CMD` on: it ends as its body does, or for want of the
    struct. -/
theorem fillThen_end {α : Type} {size : Nat} {read : Mem → α} {act : α → Except GPUFault GPUResult}
    {ok : Prop} {effect : GPUState → List DrmCall → Prop}
    (hbody : act (read (cmdBytes env.cmdMem iov size)) = .ok r → CmdEnd ok effect dev r)
    (h : fillThen env.cmdMem iov size read dev act = .ok r) :
    CmdEnd (size ≤ iovTotal iov ∧ ok) (fun dev' calls => size ≤ iovTotal iov ∧ effect dev' calls)
      dev r := by
  obtain ⟨o, hfill, h⟩ := bind_eq_ok.mp h
  rcases virtioGpuFillCmd_ok hfill with ⟨hshort, rfl⟩ | ⟨hfit, rfl⟩
  · cases h
    exact .silent (fun hok => absurd hok.1 (Nat.not_le.mpr hshort)) rfl
      fun hdone => absurd hdone.1 (Nat.not_le.mpr hshort)
  · cases hbody h with
    | refused hok e he hd => exact .refused ⟨hfit, hok⟩ e he hd
    | carried hok he hdone => exact .carried ⟨hfit, hok⟩ he ⟨hfit, hdone⟩
    | silent hok he hnot => exact .silent (fun hok' => hok hok'.2) he fun hdone => hnot hdone.2

theorem resourceCreate2d_end {c : ResourceCreate2d} (h : resourceCreate2d env dev c = .ok r) :
    CmdEnd (c.FitsHostmem dev) (fun dev' _ => c.Done dev dev') dev r := by
  rcases resourceCreate2d_cases h with ⟨⟨e, rfl⟩, hbad⟩ | ⟨hid, hnew, ⟨hover, rfl⟩ | ⟨hfit, rfl⟩⟩
  · refine cmdEnd_fails (fun hid hnew => ?_) e
    rcases hbad with hzero | ⟨res, hfind⟩
    · exact absurd hzero hid
    · rw [hfind] at hnew
      cases hnew
  · refine .silent (fun hfits => absurd (hfits hid hnew) (UInt64.not_lt.mpr hover)) rfl
      fun hdone => ?_
    -- the list would be longer than it is
    have hlen := congrArg (fun d : GPUState => d.resourceList.length) hdone
    simp [GPUState.done] at hlen
  · exact .carried (fun _ _ => UInt64.not_le.mp hfit) rfl rfl

variable {id : UInt32} {res : GPUSimpleResource} {fb : GPUFrameBuffer}

theorem resourceUnref_end (h : resourceUnref dev id = .ok r) :
    CmdEnd True (fun dev' _ => UnrefDone id dev dev') dev r := by
  rcases resourceUnref_cases h with ⟨e, rfl⟩ | ⟨res, hfind, rfl⟩
  · exact cmdEnd_fails trivial e
  · obtain ⟨hlist, hmem, -⟩ := resourceDestory_frame dev res
    have hid : res.resourceId = id := Table.key_of_find hfind
    rw [hid] at hlist
    exact .carried trivial rfl ⟨res, hfind, hlist, hmem⟩

/-- A store into the resource with an id is found there. -/
theorem find_modifyResource {f : GPUSimpleResource → GPUSimpleResource}
    (hf : ∀ r, (f r).resourceId = r.resourceId) (h : virtioGpuFindResource dev id = some res) :
    virtioGpuFindResource (dev.modifyResource id f) id = some (f res) := by
  have hfind := Table.find_update (k := id) (l := dev.resourceList) hf
  unfold virtioGpuFindResource at h
  rw [h] at hfind
  exact hfind

theorem resourceAttachBacking_end {c : ResourceAttachBacking}
    (h : resourceAttachBacking env iov dev c = .ok r) :
    CmdEnd (c.HasStore env iov dev) (fun dev' _ => c.Done env iov dev dev') dev r := by
  rcases resourceAttachBacking_cases h with
    ⟨⟨e, rfl⟩, hbad⟩ | ⟨res, entries, hfind, hnone, hmap, rfl⟩
  · exact cmdEnd_fails (fun res entries hfind hnone hmap => absurd hmap (hbad res hfind hnone _)) e
  · have hentries : entries = backingEntries env iov c.nrEntries :=
      createMappingIov_eq (accessing_ok hmap)
    by_cases hback : Backs entries
    · have hok : c.HasStore env iov dev := by
        intro _ entries' _ _ hmap'
        rw [hmap] at hmap'
        cases hmap'
        exact hback
      rw [if_neg hback.1]
      rw [hentries] at hback ⊢
      exact .carried hok rfl ⟨hback, res, hfind, find_modifyResource (fun _ => rfl) hfind⟩
    · refine .silent (fun hok => hback (hok res entries hfind hnone hmap)) rfl fun hdone => ?_
      rw [hentries] at hback
      exact hback hdone.1

theorem resourceDetachBacking_end (h : resourceDetachBacking dev id = .ok r) :
    CmdEnd True (fun dev' _ => DetachDone id dev dev') dev r := by
  rcases resourceDetachBacking_cases h with ⟨e, rfl⟩ | ⟨res, hcheck, rfl⟩
  · exact cmdEnd_fails trivial e
  · obtain ⟨hfind, -⟩ := virtioGpuCheckResource_ok hcheck
    exact .carried trivial rfl ⟨res, hfind, find_modifyResource (fun _ => rfl) hfind⟩

theorem transferToHost2d_end {c : TransferToHost2d} (h : transferToHost2d dev c = .ok r) :
    CmdEnd True (fun dev' _ => c.Done dev dev') dev r := by
  rcases transferToHost2d_cases h with ⟨e, rfl⟩ | ⟨res, hcheck, rfl⟩
  · exact cmdEnd_fails trivial e
  · obtain ⟨hfind, -⟩ := virtioGpuCheckResource_ok hcheck
    exact .carried trivial rfl ⟨res, hfind, find_modifyResource (fun _ => rfl) hfind⟩

/-- Behind `virtio_gpu_update_scanout` the resource is on the scanout. -/
theorem updateScanout_bound {i : ScanoutId} (hfind : virtioGpuFindResource dev id = some res)
    (rect : VirtioGpuRect) :
    ∃ res', virtioGpuFindResource (virtioGpuUpdateScanout dev i fb res rect) id = some res' ∧
      res'.onScanout i = true := by
  have hid : res.resourceId = id := Table.key_of_find hfind
  -- the resource that was on the scanout before may be the same one
  obtain ⟨res₁, hres₁⟩ : ∃ res₁, virtioGpuFindResource
      (dev.modifyResource (dev.scanouts i).resourceId (.unbind i)) id = some res₁ := by
    by_cases hsame : (dev.scanouts i).resourceId = id
    · rw [hsame]
      exact ⟨_, find_modifyResource (fun _ => rfl) hfind⟩
    · have hother : virtioGpuFindResource
          (dev.modifyResource (dev.scanouts i).resourceId (.unbind i)) id = _ :=
        Table.find_update_of_ne (fun _ => rfl) (Ne.symm hsame)
      exact ⟨res, hother.trans hfind⟩
  have hbind := find_modifyResource (f := GPUSimpleResource.bind i) (fun _ => rfl) hres₁
  rw [← hid] at hbind
  refine ⟨res₁.bind i, ?_, ?_⟩
  · rw [← hid]
    exact hbind
  · rw [onScanout_bind, decide_eq_true rfl, Bool.or_true]

theorem setScanout_end {c : SetScanout} (h : setScanout dev c = .ok r) :
    CmdEnd True (fun dev' _ => c.Done dev') dev r := by
  rcases setScanout_ok h with ⟨⟨e, rfl⟩, -⟩ | ⟨i, res, stride, ha, rfl⟩
  · exact cmdEnd_fails trivial e
  · obtain ⟨hfind, -⟩ := virtioGpuCheckResource_ok ha.backed
    have hid : res.resourceId = c.resourceId := Table.key_of_find hfind
    have hscanout : (virtioGpuUpdateScanout dev i (scanoutFrameBuffer res stride c.r) res c.r).scanouts
        i = ⟨c.r.width, c.r.height, c.r.x, c.r.y, res.resourceId, scanoutFrameBuffer res stride c.r⟩ :=
      Function.update_self ..
    have hdone : c.Done (virtioGpuUpdateScanout dev i (scanoutFrameBuffer res stride c.r) res c.r) := by
      refine ⟨i, ha.scanout, ?_, ?_, updateScanout_bound hfind c.r⟩
      · rw [hscanout]
        exact hid
      · simp only [hscanout]
    exact .carried trivial rfl hdone

/-- A frame buffer is made as a whole, or left as it was with an error set. -/
theorem create_outcome (drm : DrmAnswers) (h : fb.enabled = false) :
    let made := virtioGpuCreateDrmFramebuffer drm fb
    (made.1 = fb ∧ made.2.1.isSome = true) ∨
      (made.2.1 = none ∧ made.1.enabled = true ∧ made.1.fbAddr ≠ 0) := by
  dsimp only
  unfold virtioGpuCreateDrmFramebuffer
  rw [if_neg (by rw [h]; exact Bool.false_ne_true), remove_disabled h]
  split
  · exact .inl ⟨rfl, rfl⟩
  · dsimp only
    split
    · exact .inl ⟨rfl, rfl⟩
    · split
      · exact .inl ⟨rfl, rfl⟩
      · split
        · exact .inl ⟨rfl, rfl⟩
        · next hmapped => exact .inr ⟨rfl, rfl, hmapped⟩

/-- Drawing a backed resource on a mapped frame buffer sets no error. -/
theorem copyAndFlush_mapped {i : ScanoutId} {o : Option GPUError × List DrmCall}
    (hres : res.unbacked = false) (hon : fb.enabled = true) (haddr : fb.fbAddr ≠ 0)
    (h : virtioGpuCopyAndFlush env i fb res = .ok o) : o.1 = none := by
  unfold virtioGpuCopyAndFlush at h
  rw [if_neg (by simp [hres]), if_neg (by simp [hon, haddr])] at h
  obtain ⟨stride, -, h⟩ := bind_eq_ok.mp h
  obtain ⟨copies, -, h⟩ := bind_eq_ok.mp h
  cases h
  rfl

theorem setFrameBuffer_self (dev : GPUState) (i : ScanoutId) :
    dev.setFrameBuffer i (dev.scanouts i).frameBuffer = dev := by
  unfold GPUState.setFrameBuffer
  rw [Function.update_eq_self]

/-- **A pass of a flush that sets an error changes nothing**: the frame buffer that could not be
    made or drawn on is the one that was there. -/
theorem flushScanout_error {i : ScanoutId} {o : GPUResult} {goOn : Bool} (hres : res.unbacked = false)
    (h : flushScanout env res i dev.done = .ok (o, goOn)) (he : o.error ≠ none) : o.dev = dev := by
  unfold flushScanout at h
  split at h
  · cases h
    rfl
  · have hmade : (virtioGpuCreateDrmFramebuffer (env.drm i) (dev.scanouts i).frameBuffer).1 =
        (dev.scanouts i).frameBuffer := by
      by_cases hon : (dev.scanouts i).frameBuffer.enabled = true
      · rw [create_enabled _ hon]
      · rcases create_outcome (env.drm i) (Bool.not_eq_true _ ▸ hon) with
          ⟨hsame, -⟩ | ⟨hnone, hmade, haddr⟩
        · exact hsame
        · -- made: then it is drawn on, and there is no error
          dsimp only at h
          rw [if_neg (by simp [GPUState.done, hnone])] at h
          obtain ⟨drawn, hdrawn, h⟩ := bind_eq_ok.mp h
          cases h
          refine absurd ?_ he
          simp [copyAndFlush_mapped hres hmade haddr hdrawn, hnone, GPUState.done]
    dsimp only at h
    split at h
    · cases h
      exact (congrArg (dev.setFrameBuffer i) hmade).trans (setFrameBuffer_self dev _)
    · obtain ⟨drawn, -, h⟩ := bind_eq_ok.mp h
      cases h
      exact (congrArg (dev.setFrameBuffer i) hmade).trans (setFrameBuffer_self dev _)

theorem resourceFlush_end {c : ResourceFlush} (h : resourceFlush env dev c = .ok r) :
    CmdEnd (c.Shows env dev) (fun _ calls => c.Done env dev calls) dev r := by
  have hrefused : ∀ e, r.error = some e → c.Shows env dev := by
    intro e he r' h' he'
    cases h.symm.trans h'
    rw [he] at he'
    cases he'
  rcases resourceFlush_ok h with ⟨⟨e, rfl⟩, -⟩ | ⟨res, ha, hflush⟩
  · exact cmdEnd_fails (hrefused e rfl) e
  · obtain ⟨hfind, hbacked⟩ := virtioGpuCheckResource_ok ha.backed
    cases he : r.error with
    | none =>
      have hdraws := ((flushScanouts_draws hflush).2.2 he).2
      by_cases hshown : ∀ i ∈ drawnOn r.calls, (env.drm i).setCrtc = true
      · have hok : c.Shows env dev := by
          intro r' h' _
          cases h.symm.trans h'
          exact hshown
        refine .carried hok he ⟨res, hfind, fun i hi => ?_⟩
        have hdrawn := hdraws i (List.mem_finRange i) hi
        exact ⟨hdrawn, hshown i hdrawn⟩
      · refine .silent (fun hok => hshown (hok r h he)) he fun hdone => hshown fun i hi => ?_
        -- what is drawn on is a scanout of the resource
        obtain ⟨res', hfind', hdone⟩ := hdone
        cases hfind.symm.trans hfind'
        rcases (flushScanouts_draws hflush).1 i hi with hold | hon
        · cases hold
        · exact (hdone i hon).2
    | some e =>
      -- there is no other scanout whose frame buffer was made before
      obtain ⟨goOn, hpass⟩ := flushScanouts_one hflush
      refine .refused (hrefused e he) e he (flushScanout_error hbacked hpass ?_)
      rw [he]
      exact Option.some_ne_none e

end Handlers

/-! ## 4. Responses -/

/-- An OK code. -/
def GPUResponseType.isOk : GPUResponseType → Bool
  | .okNodata | .okDisplayInfo => true
  | .err _ => false

/-- **There is a response, and it is true**: an OK code says that the command was carried out,
    any other that nothing changed. -/
def Truthful (done : GPUState → List DrmCall → Prop) (dev : GPUState) (o : GPUOutcome) : Prop :=
  ∃ resp, o.resp = some resp ∧ (resp.type.isOk = true → done o.dev o.calls) ∧
    (resp.type.isOk = false → o.dev = dev)

section Responses

variable {env : GPUEnv} {iov : List Iovec} {dev : GPUState}

theorem CmdEnd.truthful_iff {ok : Prop} {effect : GPUState → List DrmCall → Prop} {r : GPUResult}
    (h : CmdEnd ok effect dev r) : Truthful effect dev r.respond ↔ ok := by
  cases h with
  | refused hok e he hd =>
    refine iff_of_true ⟨_, rfl, fun hisOk => ?_, fun _ => hd⟩ hok
    rw [he] at hisOk
    cases hisOk
  | carried hok he hdone =>
    refine iff_of_true ⟨_, rfl, fun _ => hdone, fun hisOk => ?_⟩ hok
    rw [he] at hisOk
    cases hisOk
  | silent hok he hnot =>
    refine iff_of_false (fun htrue => ?_) hok
    obtain ⟨resp, hresp, hdone, -⟩ := htrue
    cases hresp
    exact hnot (hdone (by rw [he]; rfl))

variable {o : GPUOutcome}

/-- The response of a handler is true exactly where the command fits. -/
theorem handler_truthful_iff {type : GPUCommandType} (hhdr : 24 ≤ iovTotal iov)
    (h : type.handler env iov dev = .ok o) :
    Truthful (fun dev' calls => Carried env iov dev dev' calls type) dev o ↔
      CommandFits env iov dev type := by
  cases type with
  | getDisplayInfo =>
    cases h
    exact iff_of_true ⟨_, rfl, fun _ => ⟨hhdr, rfl⟩, fun hisOk => by cases hisOk⟩ ⟨hhdr, trivial⟩
  | getEdid =>
    cases h
    have hend : CmdEnd (CommandFits env iov dev .getEdid)
        (fun dev' calls => Carried env iov dev dev' calls .getEdid) dev dev.done :=
      .silent (fun hok => hok.2) rfl fun hdone => hdone.2
    exact hend.truthful_iff
  | resourceCreate2d =>
    obtain ⟨r, hr, rfl⟩ := map_eq_ok.mp h
    exact (fillThen_end resourceCreate2d_end hr).truthful_iff
  | resourceUnref =>
    obtain ⟨r, hr, rfl⟩ := map_eq_ok.mp h
    exact (fillThen_end resourceUnref_end hr).truthful_iff
  | resourceFlush =>
    obtain ⟨r, hr, rfl⟩ := map_eq_ok.mp h
    exact (fillThen_end resourceFlush_end hr).truthful_iff
  | transferToHost2d =>
    obtain ⟨r, hr, rfl⟩ := map_eq_ok.mp h
    exact (fillThen_end transferToHost2d_end hr).truthful_iff
  | setScanout =>
    obtain ⟨r, hr, rfl⟩ := map_eq_ok.mp h
    exact (fillThen_end setScanout_end hr).truthful_iff
  | resourceAttachBacking =>
    obtain ⟨r, hr, rfl⟩ := map_eq_ok.mp h
    exact (fillThen_end resourceAttachBacking_end hr).truthful_iff
  | resourceDetachBacking =>
    obtain ⟨r, hr, rfl⟩ := map_eq_ok.mp h
    exact (fillThen_end resourceDetachBacking_end hr).truthful_iff

/-- The command of the header was carried out. -/
def CommandDone (env : GPUEnv) (iov : List Iovec) (dev dev' : GPUState) (calls : List DrmCall) :
    Prop :=
  ∃ type, GPUCommandType.ofCode (headerCode env iov) = some type ∧
    Carried env iov dev dev' calls type

/-- The buffers hold the header, and its command fits if it has a known type. -/
def CommandOk (env : GPUEnv) (iov : List Iovec) (dev : GPUState) : Prop :=
  24 ≤ iovTotal iov ∧
    ∀ type, GPUCommandType.ofCode (headerCode env iov) = some type → CommandFits env iov dev type

/-- Every handler is answered. -/
theorem handler_responds {type : GPUCommandType}
    (h : type.handler env iov dev = .ok o) : o.resp.isSome = true := by
  cases type with
  | getDisplayInfo | getEdid =>
    cases h
    rfl
  | resourceCreate2d | resourceUnref | resourceFlush | transferToHost2d | setScanout
  | resourceAttachBacking | resourceDetachBacking =>
    obtain ⟨r, -, rfl⟩ := map_eq_ok.mp h
    rfl

/-- **There is a response exactly if the buffers hold the header.** -/
theorem responds_iff (h : virtioGpuSimpleProcessCmd env iov dev = .ok o) :
    o.resp.isSome = true ↔ 24 ≤ iovTotal iov := by
  obtain ⟨code, hhdr, h⟩ := bind_eq_ok.mp h
  rcases virtioGpuFillCmd_ok hhdr with ⟨hshort, rfl⟩ | ⟨hfit, rfl⟩
  · cases h
    exact iff_of_false Bool.false_ne_true (Nat.not_le.mpr hshort)
  · refine iff_of_true ?_ hfit
    dsimp only at h
    split at h
    · cases h
      rfl
    · exact handler_responds h

/-- **There is a response and it is true exactly where the command fits.** -/
theorem truthful_iff (h : virtioGpuSimpleProcessCmd env iov dev = .ok o) :
    Truthful (CommandDone env iov dev) dev o ↔ CommandOk env iov dev := by
  obtain ⟨code, hhdr, h⟩ := bind_eq_ok.mp h
  rcases virtioGpuFillCmd_ok hhdr with ⟨hshort, rfl⟩ | ⟨hfit, rfl⟩
  · cases h
    refine iff_of_false (fun htrue => ?_) fun hok => absurd hok.1 (Nat.not_le.mpr hshort)
    obtain ⟨resp, hresp, -⟩ := htrue
    cases hresp
  · dsimp only at h
    have hdone : ∀ {type}, GPUCommandType.ofCode (headerCode env iov) = some type →
        CommandDone env iov dev = fun dev' calls => Carried env iov dev dev' calls type := by
      intro type htype
      funext dev' calls
      simp [CommandDone, htype]
    split at h
    · next htype =>
      have htype : GPUCommandType.ofCode (headerCode env iov) = none := htype
      cases h
      refine iff_of_true ⟨_, rfl, fun hisOk => (by cases hisOk), fun _ => rfl⟩ ⟨hfit, ?_⟩
      simp [htype]
    · next type htype =>
      have htype : GPUCommandType.ofCode (headerCode env iov) = some type := htype
      rw [hdone htype, handler_truthful_iff hfit h]
      simp [CommandOk, htype, hfit]

end Responses

end HvisorTool
