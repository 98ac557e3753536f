/-
  File:      HvisorTool/Gpu/FrameBuffers.lean
  Subject:   THE DUMB BUFFERS BEHIND THE SCANOUTS: created, in use, destroyed.

  A flush makes a frame buffer for a scanout that has none: it creates a dumb buffer, and enables
  the frame buffer if the calls behind that succeed. `virtio_gpu_close` destroys the dumb buffers of
  the enabled ones. A failed creation and a `set_scanout` over an enabled frame buffer lose theirs.

  * `createdDumbs`, `destroyedDumbs`, `enabledHandles`: the three sides of the account;
  * `LeakFree`: the steps that lose nothing;
  * `frameBuffers_step`: one step on the account;
  * `dumb_buffers_iff`: the live buffers are those of the enabled scanouts throughout a
    sequence, and closing destroys each one created, exactly when every step is such.
-/
import HvisorTool.Gpu.Scanouts

namespace HvisorTool

open Library

variable {env : GPUEnv} {iov : List Iovec} {dev : GPUState}

/-! ## 1. The account -/

/-- The dumb buffers that some calls created. -/
def createdDumbs (calls : List DrmCall) : List UInt32 :=
  calls.filterMap fun
    | .createDumb _ _ _ handle => some handle
    | _ => none

/-- The dumb buffers that some calls destroyed. -/
def destroyedDumbs (calls : List DrmCall) : List UInt32 :=
  calls.filterMap fun
    | .destroyDumb handle => some handle
    | _ => none

theorem createdDumbs_append (calls calls' : List DrmCall) :
    createdDumbs (calls ++ calls') = createdDumbs calls ++ createdDumbs calls' :=
  List.filterMap_append

theorem destroyedDumbs_append (calls calls' : List DrmCall) :
    destroyedDumbs (calls ++ calls') = destroyedDumbs calls ++ destroyedDumbs calls' :=
  List.filterMap_append

/-- The dumb buffer of an enabled frame buffer. -/
def GPUFrameBuffer.inUse (fb : GPUFrameBuffer) : List UInt32 :=
  if fb.enabled then [fb.drmDumbHandle] else []

/-- The dumb buffers of the enabled frame buffers. -/
def enabledHandles (dev : GPUState) : List UInt32 :=
  (List.finRange hvisorVirtioGpuMaxScanouts).flatMap fun i => (dev.scanouts i).frameBuffer.inUse

/-- The number of scanouts whose frame buffer is enabled. -/
def enabledCount (dev : GPUState) : Nat :=
  (List.finRange hvisorVirtioGpuMaxScanouts).countP fun i => (dev.scanouts i).frameBuffer.enabled

theorem length_enabledHandles (dev : GPUState) :
    (enabledHandles dev).length = enabledCount dev := by
  unfold enabledHandles enabledCount
  induction List.finRange hvisorVirtioGpuMaxScanouts with
  | nil => rfl
  | cons i is ih =>
    rw [List.flatMap_cons, List.length_append, ih, List.countP_cons, Nat.add_comm]
    congr 1
    unfold GPUFrameBuffer.inUse
    split <;> rfl

theorem inUse_eq_nil_iff {fb : GPUFrameBuffer} : fb.inUse = [] ↔ fb.enabled = false := by
  unfold GPUFrameBuffer.inUse
  cases fb.enabled with
  | true => exact iff_of_false (List.cons_ne_nil _ _) (fun h => by cases h)
  | false => exact iff_of_true rfl rfl

/-- Where one frame buffer is replaced, so is its buffer among those in use. -/
theorem enabledHandles_replace {dev' : GPUState} {i : ScanoutId}
    (h : ∀ j, j ≠ i → (dev'.scanouts j).frameBuffer = (dev.scanouts j).frameBuffer) :
    (enabledHandles dev ++ (dev'.scanouts i).frameBuffer.inUse).Perm
      (enabledHandles dev' ++ (dev.scanouts i).frameBuffer.inUse) := by
  -- the scanout apart from the others
  have hsplit : ∀ d : GPUState, (enabledHandles d).Perm ((d.scanouts i).frameBuffer.inUse ++
      ((List.finRange _).erase i).flatMap fun j => (d.scanouts j).frameBuffer.inUse) := fun d =>
    (List.perm_cons_erase (List.mem_finRange i)).flatMap_right _
  have hrest : (((List.finRange _).erase i).flatMap fun j => (dev'.scanouts j).frameBuffer.inUse) =
      ((List.finRange _).erase i).flatMap fun j => (dev.scanouts j).frameBuffer.inUse := by
    refine List.flatMap_congr fun j hj => ?_
    rw [h j ((List.nodup_finRange _).mem_erase_iff.mp hj).1]
  refine List.perm_iff_count.mpr fun handle => ?_
  have hold := (hsplit dev).count_eq handle
  have hnew := (hsplit dev').count_eq handle
  rw [hrest] at hnew
  simp only [List.count_append] at hold hnew ⊢
  omega

/-- An enabled frame buffer is mapped. -/
def FbMapped (dev : GPUState) : Prop :=
  ∀ i, (dev.scanouts i).frameBuffer.enabled = true → (dev.scanouts i).frameBuffer.fbAddr ≠ 0

/-! ## 2. The calls that make a frame buffer -/

/-- The calls behind `CREATE_DUMB` succeed. -/
def DrmAnswers.Completes (drm : DrmAnswers) : Prop :=
  drm.mapDumb.isSome = true ∧ drm.addFB.isSome = true ∧ drm.mmap ≠ 0

variable {fb : GPUFrameBuffer} {res : GPUSimpleResource} {s : GPUHistory}

/-- A frame buffer that is not enabled is left alone by its removal. -/
theorem remove_disabled (h : fb.enabled = false) : virtioGpuRemoveDrmFramebuffer fb = (fb, []) := by
  unfold virtioGpuRemoveDrmFramebuffer
  rw [h]
  rfl

theorem create_enabled (drm : DrmAnswers) (h : fb.enabled = true) :
    virtioGpuCreateDrmFramebuffer drm fb = (fb, none, []) := by
  unfold virtioGpuCreateDrmFramebuffer
  rw [if_pos h]

/-- Drawing creates and destroys nothing. -/
theorem dumbs_copyAndFlush {i : ScanoutId} {o : Option GPUError × List DrmCall}
    (h : virtioGpuCopyAndFlush env i fb res = .ok o) :
    createdDumbs o.2 = [] ∧ destroyedDumbs o.2 = [] := by
  unfold virtioGpuCopyAndFlush at h
  split at h
  · cases h
    exact ⟨rfl, rfl⟩
  · split at h
    · cases h
      exact ⟨rfl, rfl⟩
    · obtain ⟨stride, -, h⟩ := bind_eq_ok.mp h
      obtain ⟨copies, -, h⟩ := bind_eq_ok.mp h
      cases h
      exact ⟨rfl, rfl⟩

variable {r o : GPUResult} {code : UInt32}

/-! ## 3. Steps that lose nothing -/

/-- What a command reads as, by the type in its header and the struct behind. -/
def ReadsAs {α : Type} (env : GPUEnv) (iov : List Iovec) (type : GPUCommandType) (size : Nat)
    (read : Mem → α) (c : α) : Prop :=
  (∃ code, controlHeaderType env iov = .ok (some code) ∧ GPUCommandType.ofCode code = some type) ∧
    virtioGpuFillCmd env.cmdMem iov size read = .ok (some c)

/-- No dumb buffer is lost: a `set_scanout` whose checks pass finds the scanout's frame buffer
    not enabled, and where a `resource_flush` whose checks pass makes a frame buffer, no call
    behind a successful `CREATE_DUMB` fails. -/
def LeakFree (s : GPUHistory) : GPUStep → Prop
  | .reset => True
  | .command env iov =>
    (∀ c i res, ReadsAs env iov .setScanout 48 SetScanout.read c → c.Accepted s.dev i res →
      (s.dev.scanouts i).frameBuffer.enabled = false) ∧
    ∀ c res i, ReadsAs env iov .resourceFlush 48 ResourceFlush.read c → c.Accepted s.dev res →
      res.onScanout i = true → (s.dev.scanouts i).frameBuffer.enabled = false →
      (env.drm i).createDumb ≠ none → (env.drm i).Completes

/-- What a step does to the account: buffers created go into use or are lost, those in use
    stay or are lost, and none is destroyed. -/
structure AccountStep (dev dev' : GPUState) (calls : List DrmCall) (lost : List UInt32) : Prop where
  destroyed : destroyedDumbs calls = []
  balance : (createdDumbs calls ++ enabledHandles dev).Perm (enabledHandles dev' ++ lost)
  mapped : FbMapped dev → FbMapped dev'

/-- A step that leaves the frame buffers alone. -/
theorem accountStep_frame {dev' : GPUState}
    (h : ∀ i, (dev'.scanouts i).frameBuffer = (dev.scanouts i).frameBuffer) :
    AccountStep dev dev' [] [] where
  destroyed := rfl
  balance := by
    simp only [enabledHandles, h, List.append_nil]
    exact List.Perm.refl _
  mapped hm i he := by
    rw [h] at he ⊢
    exact hm i he

/-- The same of one frame buffer. -/
structure FbStep (fb fb' : GPUFrameBuffer) (calls : List DrmCall) (lost : List UInt32) : Prop where
  destroyed : destroyedDumbs calls = []
  balance : (createdDumbs calls ++ fb.inUse).Perm (fb'.inUse ++ lost)
  mapped : (fb.enabled = true → fb.fbAddr ≠ 0) → fb'.enabled = true → fb'.fbAddr ≠ 0

/-- A step on one scanout. -/
theorem FbStep.account {dev' : GPUState} {i : ScanoutId} {calls : List DrmCall} {lost : List UInt32}
    (h : FbStep (dev.scanouts i).frameBuffer (dev'.scanouts i).frameBuffer calls lost)
    (hother : ∀ j, j ≠ i → (dev'.scanouts j).frameBuffer = (dev.scanouts j).frameBuffer) :
    AccountStep dev dev' calls lost where
  destroyed := h.destroyed
  balance := by
    refine List.perm_iff_count.mpr fun handle => ?_
    have hone := h.balance.count_eq handle
    have hall := (enabledHandles_replace hother).count_eq handle
    simp only [List.count_append] at hone hall ⊢
    omega
  mapped hm j he := by
    by_cases hj : j = i
    · subst hj
      exact h.mapped (hm j) he
    · rw [hother j hj] at he ⊢
      exact hm j he

/-- **`virtio_gpu_create_drm_framebuffer` on the account**: a dumb buffer that it creates goes
    into use, or is lost if a call behind `CREATE_DUMB` fails. -/
theorem create_account (drm : DrmAnswers) (fb : GPUFrameBuffer) :
    let made := virtioGpuCreateDrmFramebuffer drm fb
    ∃ lost, FbStep fb made.1 made.2.2 lost ∧
      (lost = [] ↔ (fb.enabled = false → drm.createDumb ≠ none → drm.Completes)) := by
  dsimp only
  by_cases hon : fb.enabled = true
  · rw [create_enabled drm hon]
    refine ⟨[], ⟨rfl, ?_, id⟩, iff_of_true rfl fun hoff => absurd hon (by rw [hoff]; decide)⟩
    rw [List.append_nil]
    exact List.Perm.refl _
  have hoff : fb.enabled = false := Bool.not_eq_true _ ▸ hon
  have hnil : fb.inUse = [] := inUse_eq_nil_iff.mpr hoff
  unfold virtioGpuCreateDrmFramebuffer
  rw [if_neg hon, remove_disabled hoff]
  split
  · next hc =>
    refine ⟨[], ⟨rfl, ?_, id⟩, iff_of_true rfl fun _ hne => absurd hc hne⟩
    rw [hnil]
    exact List.Perm.refl _
  · next dumb hc =>
    have hne : drm.createDumb ≠ none := by
      rw [hc]
      exact Option.some_ne_none _
    have hlost : createdDumbs [.createDumb fb.width fb.height 32 dumb.handle] ++ fb.inUse =
        fb.inUse ++ [dumb.handle] := by
      rw [hnil]
      rfl
    dsimp only
    split
    · next hm =>
      refine ⟨_, ⟨rfl, .of_eq hlost, id⟩, iff_of_false (List.cons_ne_nil _ _) fun hall => ?_⟩
      have hmap := (hall hoff hne).1
      rw [hm] at hmap
      cases hmap
    · next off hm =>
      split
      · next ha =>
        refine ⟨_, ⟨rfl, .of_eq hlost, id⟩, iff_of_false (List.cons_ne_nil _ _) fun hall => ?_⟩
        have hadd := (hall hoff hne).2.1
        rw [ha] at hadd
        cases hadd
      · next fbId ha =>
        split
        · next hz =>
          exact ⟨_, ⟨rfl, .of_eq hlost, id⟩,
            iff_of_false (List.cons_ne_nil _ _) fun hall => (hall hoff hne).2.2 hz⟩
        · next hz =>
          refine ⟨[], ⟨rfl, ?_, fun _ _ => hz⟩, iff_of_true rfl fun _ _ => ⟨?_, ?_, hz⟩⟩
          · rw [hnil]
            exact List.Perm.refl _
          · rw [hm]
            rfl
          · rw [ha]
            rfl

/-- A pass of a flush on the account. -/
theorem account_flushScanout {i : ScanoutId} {goOn : Bool}
    (h : flushScanout env res i dev.done = .ok (o, goOn)) :
    ∃ lost, AccountStep dev o.dev o.calls lost ∧
      (lost = [] ↔ (res.onScanout i = true → (dev.scanouts i).frameBuffer.enabled = false →
        (env.drm i).createDumb ≠ none → (env.drm i).Completes)) := by
  unfold flushScanout at h
  split at h
  · next hoff =>
    cases h
    rw [Bool.not_eq_true'] at hoff
    exact ⟨[], accountStep_frame fun _ => rfl, iff_of_true rfl fun hon => by cases hoff.symm.trans hon⟩
  · next hon =>
    have hon : res.onScanout i = true := by simpa using hon
    obtain ⟨lost, hmade, hiff⟩ := create_account (env.drm i) (dev.scanouts i).frameBuffer
    refine ⟨lost, ?_, hiff.trans ⟨fun hc _ => hc, fun hc => hc hon⟩⟩
    have hself : ∀ fb, ((dev.setFrameBuffer i fb).scanouts i).frameBuffer = fb := fun fb => by
      simp [GPUState.setFrameBuffer]
    have hother : ∀ fb j, j ≠ i → ((dev.setFrameBuffer i fb).scanouts j).frameBuffer =
        (dev.scanouts j).frameBuffer := fun fb j hj => by simp [GPUState.setFrameBuffer, hj]
    dsimp only at h
    split at h
    · cases h
      exact FbStep.account ((hself _).symm ▸ hmade) (hother _)
    · obtain ⟨drawn, hdrawn, h⟩ := bind_eq_ok.mp h
      obtain ⟨hc, hd⟩ := dumbs_copyAndFlush hdrawn
      cases h
      refine FbStep.account ((hself _).symm ▸ ⟨?_, ?_, hmade.mapped⟩) (hother _)
      · rw [destroyedDumbs_append, hd, List.append_nil]
        exact hmade.destroyed
      · rw [createdDumbs_append, hc, List.append_nil]
        exact hmade.balance

theorem frameBuffer_disableScanout (dev : GPUState) (i j : ScanoutId) :
    ((virtioGpuDisableScanout dev i).scanouts j).frameBuffer = (dev.scanouts j).frameBuffer := by
  unfold virtioGpuDisableScanout
  dsimp only
  split
  · rfl
  · dsimp only
    by_cases hj : j = i
    · subst hj
      rw [Function.update_self]
    · rw [Function.update_of_ne hj]

theorem frameBuffer_resourceDestory (dev : GPUState) (res : GPUSimpleResource) (j : ScanoutId) :
    ((virtioGpuResourceDestory dev res).scanouts j).frameBuffer = (dev.scanouts j).frameBuffer := by
  have hloop : ((disableScanouts res dev).scanouts j).frameBuffer =
      (dev.scanouts j).frameBuffer := by
    unfold disableScanouts
    induction List.finRange hvisorVirtioGpuMaxScanouts generalizing dev with
    | nil => rfl
    | cons i is ih =>
      rw [List.foldl_cons, ih]
      split
      · exact frameBuffer_disableScanout dev i j
      · rfl
  unfold virtioGpuResourceDestory
  dsimp only
  split
  · exact hloop
  · rfl

theorem frameBuffer_tableChange {dev' : GPUState} (h : TableChange dev dev') (i : ScanoutId) :
    (dev'.scanouts i).frameBuffer = (dev.scanouts i).frameBuffer := by
  cases h with
  | same | create | store => rfl
  | destroy res => exact frameBuffer_resourceDestory dev res i

/-- A command has one type. -/
theorem ReadsAs.type_eq {α : Type} {type type' : GPUCommandType} {size : Nat} {read : Mem → α}
    {c : α} (h : ReadsAs env iov type size read c)
    (hcode : controlHeaderType env iov = .ok (some code))
    (htype : GPUCommandType.ofCode code = some type') : type = type' := by
  obtain ⟨⟨code', hcode', htype'⟩, -⟩ := h
  rw [hcode] at hcode'
  cases hcode'
  rw [htype] at htype'
  exact (Option.some.inj htype').symm

section Leaks

variable {code : UInt32}

theorem leakFree_table {type : GPUCommandType} (hcode : controlHeaderType env iov = .ok (some code))
    (htype : GPUCommandType.ofCode code = some type) (hoff : type.onScanouts = false) :
    LeakFree s (.command env iov) := by
  constructor <;> intro c x y hread <;> cases hread.type_eq hcode htype <;> cases hoff

theorem leakFree_setScanout_iff (hcode : controlHeaderType env iov = .ok (some code))
    (htype : GPUCommandType.ofCode code = some .setScanout) :
    LeakFree s (.command env iov) ↔
      ∀ c, virtioGpuFillCmd env.cmdMem iov 48 SetScanout.read = .ok (some c) →
        ∀ i res, c.Accepted s.dev i res → (s.dev.scanouts i).frameBuffer.enabled = false := by
  constructor
  · intro h c hfill i res ha
    exact h.1 c i res ⟨⟨code, hcode, htype⟩, hfill⟩ ha
  · intro h
    refine ⟨fun c i res hread ha => h c hread.2 i res ha, fun c res i hread => ?_⟩
    cases hread.type_eq hcode htype

theorem leakFree_flush_iff (hcode : controlHeaderType env iov = .ok (some code))
    (htype : GPUCommandType.ofCode code = some .resourceFlush) :
    LeakFree s (.command env iov) ↔
      ∀ c, virtioGpuFillCmd env.cmdMem iov 48 ResourceFlush.read = .ok (some c) →
        ∀ res, c.Accepted s.dev res → ∀ i, res.onScanout i = true →
        (s.dev.scanouts i).frameBuffer.enabled = false → (env.drm i).createDumb ≠ none →
        (env.drm i).Completes := by
  constructor
  · intro h c hfill res ha i
    exact h.2 c res i ⟨⟨code, hcode, htype⟩, hfill⟩ ha
  · intro h
    refine ⟨fun c i res hread => ?_, fun c res i hread ha => h c hread.2 res ha i⟩
    cases hread.type_eq hcode htype

end Leaks

/-- `set_scanout` on the account: the frame buffer it replaces is lost. -/
theorem account_setScanout (hcode : controlHeaderType env iov = .ok (some code))
    (htype : GPUCommandType.ofCode code = some .setScanout)
    (h : virtioGpuSetScanout env iov s.dev = .ok r) :
    ∃ lost, AccountStep s.dev r.dev r.calls lost ∧ (lost = [] ↔ LeakFree s (.command env iov)) := by
  rw [leakFree_setScanout_iff hcode htype]
  obtain ⟨rfl, hnone⟩ | ⟨c, hfill, hc⟩ := fillThen_ok h
  · exact ⟨[], accountStep_frame fun _ => rfl, iff_of_true rfl (by simp [hnone])⟩
  simp only [hfill, Except.ok.injEq, Option.some.injEq, forall_eq']
  obtain ⟨⟨e, rfl⟩, hno⟩ | ⟨i, res, stride, ha, rfl⟩ := setScanout_ok hc
  · exact ⟨[], accountStep_frame fun _ => rfl,
      iff_of_true rfl fun i res ha => absurd ha (hno i res)⟩
  · refine ⟨(s.dev.scanouts i).frameBuffer.inUse, FbStep.account (i := i) ?_ fun j hj => ?_,
      inUse_eq_nil_iff.trans ⟨fun hoff i' res' ha' => ?_, fun hall => hall i res ha⟩⟩
    · -- the new frame buffer is not enabled
      have hnew : ((virtioGpuUpdateScanout s.dev i (scanoutFrameBuffer res stride c.r) res
          c.r).scanouts i).frameBuffer = scanoutFrameBuffer res stride c.r := by
        simp [virtioGpuUpdateScanout]
      exact hnew.symm ▸ ⟨rfl, List.Perm.refl _, fun _ he => by cases he⟩
    · simp [GPUState.done, virtioGpuUpdateScanout, hj]
    · rw [Fin.ext (ha'.scanout.trans ha.scanout.symm)]
      exact hoff

theorem finRange_scanouts : List.finRange hvisorVirtioGpuMaxScanouts = [firstScanout] := rfl

theorem eq_firstScanout (i : ScanoutId) : i = firstScanout := by
  have h : i.val < 1 := i.isLt
  exact Fin.ext (Nat.lt_one_iff.mp h)

/-- With one scanout the loop of a flush is one pass. With more, a pass that fails ends it, and
    `LeakFree` would have to say which scanouts it comes to. -/
theorem flushScanouts_one
    (h : flushScanouts env res (List.finRange hvisorVirtioGpuMaxScanouts) r = .ok o) :
    ∃ goOn, flushScanout env res firstScanout r = .ok (o, goOn) := by
  rw [finRange_scanouts] at h
  obtain ⟨⟨r', goOn⟩, hr, h⟩ := bind_eq_ok.mp h
  refine ⟨goOn, ?_⟩
  cases goOn <;> cases h <;> exact hr

/-- `resource_flush` on the account: a dumb buffer that does not go into use is lost. -/
theorem account_resourceFlush (hcode : controlHeaderType env iov = .ok (some code))
    (htype : GPUCommandType.ofCode code = some .resourceFlush)
    (h : virtioGpuResourceFlush env iov s.dev = .ok r) :
    ∃ lost, AccountStep s.dev r.dev r.calls lost ∧ (lost = [] ↔ LeakFree s (.command env iov)) := by
  rw [leakFree_flush_iff hcode htype]
  obtain ⟨rfl, hnone⟩ | ⟨c, hfill, hc⟩ := fillThen_ok h
  · exact ⟨[], accountStep_frame fun _ => rfl, iff_of_true rfl (by simp [hnone])⟩
  simp only [hfill, Except.ok.injEq, Option.some.injEq, forall_eq']
  obtain ⟨⟨e, rfl⟩, hno⟩ | ⟨res, ha, hflush⟩ := resourceFlush_ok hc
  · exact ⟨[], accountStep_frame fun _ => rfl, iff_of_true rfl fun res ha => absurd ha (hno res)⟩
  · obtain ⟨goOn, hpass⟩ := flushScanouts_one hflush
    obtain ⟨lost, hstep, hiff⟩ := account_flushScanout hpass
    refine ⟨lost, hstep, hiff.trans ⟨fun hone res' ha' i => ?_, fun hall => hall res ha _⟩⟩
    obtain rfl := Except.ok.inj (ha'.backed.symm.trans ha.backed)
    rw [eq_firstScanout i]
    exact hone

/-- **One command on the account**: it loses a buffer exactly if it is not free of leaks. -/
theorem account_command {o : GPUOutcome} (h : virtioGpuSimpleProcessCmd env iov s.dev = .ok o) :
    ∃ lost, AccountStep s.dev o.dev o.calls lost ∧ (lost = [] ↔ LeakFree s (.command env iov)) := by
  obtain ⟨hd, hc, hno⟩ | ⟨code, type, hcode, htype, h⟩ := simpleProcessCmd_ok h
  · rw [hd, hc]
    refine ⟨[], accountStep_frame fun _ => rfl, iff_of_true rfl ⟨?_, ?_⟩⟩
    all_goals
      rintro c x y ⟨⟨code, hcode, htype⟩, -⟩
      rw [hno code hcode] at htype
      cases htype
  · cases ht : type.onScanouts with
    | false =>
      obtain ⟨hchange, hcalls⟩ := handler_onlyTable ht h
      rw [hcalls]
      exact ⟨[], accountStep_frame (frameBuffer_tableChange hchange),
        iff_of_true rfl (leakFree_table hcode htype ht)⟩
    | true =>
      cases type with
      | setScanout =>
        obtain ⟨r, hr, rfl⟩ := map_eq_ok.mp h
        exact account_setScanout hcode htype hr
      | resourceFlush =>
        obtain ⟨r, hr, rfl⟩ := map_eq_ok.mp h
        exact account_resourceFlush hcode htype hr
      | _ => cases ht

/-! ## 4. Every sequence of commands -/

/-- The account of a device: what was created was destroyed, is in use or is lost. -/
structure AccountOk (s : GPUHistory) : Prop where
  sound : GPUSound s
  mapped : FbMapped s.dev
  balance : ∃ lost, (createdDumbs s.calls).Perm
    (destroyedDumbs s.calls ++ enabledHandles s.dev ++ lost)

/-- The number of buffers lost. -/
def lostDumbs (s : GPUHistory) : Nat :=
  (createdDumbs s.calls).length - ((destroyedDumbs s.calls).length + (enabledHandles s.dev).length)

theorem lostDumbs_eq {lost : List UInt32}
    (h : (createdDumbs s.calls).Perm (destroyedDumbs s.calls ++ enabledHandles s.dev ++ lost)) :
    lostDumbs s = lost.length := by
  have hlen := h.length_eq
  rw [List.length_append, List.length_append] at hlen
  unfold lostDumbs
  omega

theorem accountOk_start (requested mode : GPURequestedState) :
    AccountOk (gpuStart requested mode) := by
  have hzero : ∀ i, ((gpuStart requested mode).dev.scanouts i).frameBuffer = .zero := by
    intro i
    simp only [gpuStart, virtioGpuInit, initGpuDev]
    split <;> rfl
  refine ⟨gpuSound_start requested mode, fun i he => ?_, [], ?_⟩
  · rw [hzero] at he
    cases he
  · simp only [enabledHandles, hzero]
    exact List.Perm.refl _

/-- **One step**: the number of buffers lost grows exactly at a step that is not free of leaks. -/
theorem frameBuffers_step {s' : GPUHistory} {a : GPUStep} (h : AccountOk s)
    (hs : gpuMachine.step s a = some s') :
    AccountOk s' ∧ lostDumbs s ≤ lostDumbs s' ∧ (lostDumbs s' = lostDumbs s ↔ LeakFree s a) := by
  obtain ⟨lost, hperm⟩ := h.balance
  -- the step on the account, whichever it is
  obtain ⟨lost', hstep, hcalls, hiff⟩ : ∃ lost', AccountStep s.dev s'.dev
      (s'.calls.drop s.calls.length) lost' ∧ s'.calls = s.calls ++ s'.calls.drop s.calls.length ∧
      (lost' = [] ↔ LeakFree s a) := by
    cases a with
    | command env iov =>
      obtain ⟨o, ho, rfl⟩ := gpuMachine_command hs
      obtain ⟨lost', hstep, hiff⟩ := account_command ho
      refine ⟨lost', ?_, ?_, hiff⟩
      · rw [List.drop_left]
        exact hstep
      · rw [List.drop_left]
    | reset =>
      cases hs
      refine ⟨[], ?_, ?_, iff_of_true rfl trivial⟩
      · rw [List.drop_length]
        refine accountStep_frame fun i => ?_
        show (if _ then _ else _ : GPUScanout).frameBuffer = _
        split <;> rfl
      · rw [List.drop_length, List.append_nil]
  have hperm' : (createdDumbs s'.calls).Perm
      (destroyedDumbs s'.calls ++ enabledHandles s'.dev ++ (lost' ++ lost)) := by
    rw [hcalls, createdDumbs_append, destroyedDumbs_append, hstep.destroyed, List.append_nil]
    refine List.perm_iff_count.mpr fun handle => ?_
    have hold := hperm.count_eq handle
    have hnew := hstep.balance.count_eq handle
    simp only [List.count_append] at hold hnew ⊢
    omega
  refine ⟨⟨h.sound.step hs, hstep.mapped h.mapped, _, hperm'⟩, ?_, ?_⟩
  · rw [lostDumbs_eq hperm, lostDumbs_eq hperm', List.length_append]
    omega
  · rw [lostDumbs_eq hperm, lostDumbs_eq hperm', List.length_append, ← hiff,
      ← List.length_eq_zero_iff]
    omega

/-- `virtio_gpu_close` destroys the dumb buffers of the enabled frame buffers. -/
theorem dumbs_close (h : AccountOk s) :
    createdDumbs (virtioGpuClose s.dev) = [] ∧
      destroyedDumbs (virtioGpuClose s.dev) = enabledHandles s.dev := by
  have hone : ∀ i, createdDumbs (virtioGpuRemoveDrmFramebuffer (s.dev.scanouts i).frameBuffer).2 = [] ∧
      destroyedDumbs (virtioGpuRemoveDrmFramebuffer (s.dev.scanouts i).frameBuffer).2 =
        (s.dev.scanouts i).frameBuffer.inUse := by
    intro i
    cases hen : (s.dev.scanouts i).frameBuffer.enabled with
    | false =>
      rw [remove_disabled hen, inUse_eq_nil_iff.mpr hen]
      exact ⟨rfl, rfl⟩
    | true =>
      have hmap := h.mapped i hen
      unfold virtioGpuRemoveDrmFramebuffer GPUFrameBuffer.inUse
      rw [hen, if_neg (by simpa using hmap), if_pos rfl]
      exact ⟨rfl, rfl⟩
  unfold virtioGpuClose enabledHandles
  induction List.finRange hvisorVirtioGpuMaxScanouts with
  | nil => exact ⟨rfl, rfl⟩
  | cons i is ih =>
    have hin : i.val < s.dev.scanoutsNum := by
      rw [h.sound.scanouts]
      exact i.isLt
    rw [List.flatMap_cons, List.flatMap_cons, if_pos hin, createdDumbs_append,
      destroyedDumbs_append, (hone i).1, (hone i).2, ih.1, ih.2]
    exact ⟨rfl, rfl⟩

/-- **The live dumb buffers are those of the enabled scanouts in every state of a sequence
    exactly when every step is free of leaks**, and then, and only then, `virtio_gpu_close`
    at its end has every buffer that was created destroyed once. -/
theorem dumb_buffers_iff (requested mode : GPURequestedState) {as : List GPUStep} {s : GPUHistory}
    (hrun : gpuMachine.run (gpuStart requested mode) as = some s) :
    (gpuMachine.Always (fun s => (createdDumbs s.calls).length =
          (destroyedDumbs s.calls).length + enabledCount s.dev) (gpuStart requested mode) as ↔
        gpuMachine.Throughout LeakFree (gpuStart requested mode) as) ∧
      ((destroyedDumbs (s.calls ++ virtioGpuClose s.dev)).Perm
          (createdDumbs (s.calls ++ virtioGpuClose s.dev)) ↔
        gpuMachine.Throughout LeakFree (gpuStart requested mode) as) := by
  have hstart := accountOk_start requested mode
  have hzero : lostDumbs (gpuStart requested mode) = 0 := rfl
  -- no buffer is lost exactly when the two sides of the account have the same length
  have hlost : ∀ {t : GPUHistory}, AccountOk t →
      (lostDumbs t = 0 ↔ (createdDumbs t.calls).length =
        (destroyedDumbs t.calls).length + enabledCount t.dev) := by
    intro t ht
    obtain ⟨lost, hperm⟩ := ht.balance
    have hlen := hperm.length_eq
    rw [List.length_append, List.length_append, length_enabledHandles] at hlen
    rw [lostDumbs_eq hperm]
    omega
  constructor
  · refine Machine.always_iff (I := AccountOk) (fun t a t' hI hP hs => ?_) hstart
      ((hlost hstart).mp hzero) as
    obtain ⟨hI', -, hiff⟩ := frameBuffers_step hI hs
    refine ⟨hI', ?_⟩
    rw [← hlost hI', ← hiff, (hlost hI).mpr hP]
  · obtain ⟨hI, -, hiff⟩ :=
      Machine.level_iff (fun _ _ _ hI hs => frameBuffers_step hI hs) hstart hrun
    rw [hzero] at hiff
    rw [← hiff, createdDumbs_append, destroyedDumbs_append, (dumbs_close hI).1, (dumbs_close hI).2,
      List.append_nil]
    obtain ⟨lost, hperm⟩ := hI.balance
    rw [lostDumbs_eq hperm, List.length_eq_zero_iff]
    constructor
    · intro h
      have hlen := (h.trans hperm).length_eq
      simp only [List.length_append] at hlen
      exact List.length_eq_zero_iff.mp (by omega)
    · rintro rfl
      rw [List.append_nil] at hperm
      exact hperm.symm

/-- The handles created and destroyed by a sequence of commands and `virtio_gpu_close`, and the
    number of enabled frame buffers before it. -/
def dumbAccount (as : List GPUStep) : Option (List UInt32 × List UInt32 × Nat) :=
  (gpuMachine.run (gpuStart ⟨1280, 800⟩ ⟨1280, 800⟩) as).map fun s =>
    (createdDumbs (s.calls ++ virtioGpuClose s.dev), destroyedDumbs (s.calls ++ virtioGpuClose s.dev),
      enabledCount s.dev)

/-- A picture shown and flushed: the buffer is in use, and destroyed at the end. -/
theorem dumb_buffers_flushed :
    ∃ s, gpuMachine.run (gpuStart ⟨1280, 800⟩ ⟨1280, 800⟩)
        (showPicture ++ [driverCommand drmFine (flushCommand 1 16 16)]) = some s ∧
      enabledCount s.dev = 1 ∧
      gpuMachine.Throughout LeakFree (gpuStart ⟨1280, 800⟩ ⟨1280, 800⟩)
        (showPicture ++ [driverCommand drmFine (flushCommand 1 16 16)]) := by
  have hrun : dumbAccount (showPicture ++ [driverCommand drmFine (flushCommand 1 16 16)]) =
      some ([1], [1], 1) := by
    decide
  obtain ⟨s, hs, hview⟩ := Option.map_eq_some_iff.mp hrun
  rw [Prod.mk.injEq, Prod.mk.injEq] at hview
  obtain ⟨hc, hd, hn⟩ := hview
  refine ⟨s, hs, hn, (dumb_buffers_iff _ _ hs).2.mp ?_⟩
  rw [hc, hd]

/-- **Buffers are lost** by a second `set_scanout` behind a flush, and by a flush whose
    `drmModeAddFB` fails: created, not in use, and not destroyed when the device is closed. -/
theorem dumb_buffers_lost :
    dumbAccount (showPicture ++ [driverCommand drmFine (flushCommand 1 16 16),
        driverCommand drmFine (setScanoutCommand 1 16 16)]) = some ([1], [], 0) ∧
      dumbAccount (showPicture ++
        [driverCommand { drmFine with addFB := none } (flushCommand 1 16 16)]) =
          some ([1], [], 0) := by
  constructor
  · decide
  · decide

end HvisorTool
