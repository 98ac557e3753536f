/-
  File:      HvisorTool/Gpu/Scanouts.lean
  Subject:   WHICH RESOURCE IS ON WHICH SCANOUT: a relation that is stored twice.

  A scanout has the id of the resource it shows, and a resource has a mask of the scanouts it is
  shown on. Commands change both; a device reset changes the scanouts only.

  * `BindingOk`: the two agree;
  * `BindingOk.change`: every command keeps them so;
  * `bindingOk_reset_iff`: a reset does exactly where nothing is bound;
  * `flush_draws`: a flush draws on the scanouts of the mask;
  * `scanout_binding_iff`: they agree throughout a sequence exactly when every reset in it
    comes while no scanout shows a resource.
-/
import HvisorTool.Gpu.Resources

namespace HvisorTool

open Library

variable {env : GPUEnv} {dev : GPUState}

/-! ## 1. The two sides of the relation -/

/-- The masks and the scanouts agree, and a scanout shows nothing that is not in the list. -/
structure BindingOk (dev : GPUState) : Prop where
  mask : ∀ i, ∀ r ∈ dev.resourceList,
    (r.onScanout i = true ↔ (dev.scanouts i).resourceId = r.resourceId)
  bound : ∀ i, (dev.scanouts i).resourceId = 0 ∨
    (dev.scanouts i).resourceId ∈ dev.resourceList.map GPUSimpleResource.resourceId

theorem scanoutId_lt (i : ScanoutId) : i.val < 32 := by
  have := i.isLt
  unfold hvisorVirtioGpuMaxScanouts at this
  omega

theorem onScanout_unbind (res : GPUSimpleResource) (i j : ScanoutId) :
    (res.unbind i).onScanout j = (res.onScanout j && decide (j ≠ i)) := by
  have h := clear_oneBit_and res.scanoutBitmask (scanoutId_lt j) (scanoutId_lt i)
  have hne : decide (j.val ≠ i.val) = decide (j ≠ i) :=
    decide_eq_decide.mpr (not_congr Fin.val_inj)
  rw [hne] at h
  exact h

theorem onScanout_bind (res : GPUSimpleResource) (i j : ScanoutId) :
    (res.bind i).onScanout j = (res.onScanout j || decide (j = i)) := by
  have h := or_oneBit_and res.scanoutBitmask (scanoutId_lt j) (scanoutId_lt i)
  have he : decide (j.val = i.val) = decide (j = i) := decide_eq_decide.mpr Fin.val_inj
  rw [he] at h
  exact h

variable {dev' : GPUState} {res : GPUSimpleResource}

/-- The bindings are read off the list and the ids that the scanouts have. -/
theorem BindingOk.congr (h : BindingOk dev) (hl : dev'.resourceList = dev.resourceList)
    (hs : ∀ i, (dev'.scanouts i).resourceId = (dev.scanouts i).resourceId) : BindingOk dev' := by
  refine ⟨fun i r hr => ?_, fun i => ?_⟩
  · rw [hs]
    exact h.mask i r (hl ▸ hr)
  · rw [hs, hl]
    exact h.bound i

/-! ## 2. Commands -/

variable {i : ScanoutId} {f : GPUSimpleResource → GPUSimpleResource} {id : UInt32} {r o : GPUResult}

/-- Behind the unbinding of what scanout `i` shows, no mask has its bit, and the others are
    as they were. -/
theorem BindingOk.unbound (h : BindingOk dev) (ht : GPUTableOk dev) {r : GPUSimpleResource}
    (hr : r ∈ (dev.modifyResource (dev.scanouts i).resourceId (.unbind i)).resourceList) :
    r.onScanout i = false ∧
      ∀ j, j ≠ i → (r.onScanout j = true ↔ (dev.scanouts j).resourceId = r.resourceId) := by
  rcases (Table.mem_update_iff ht.nodup).mp hr with ⟨hr, hne⟩ | ⟨r₀, hr₀, hid, rfl⟩
  · refine ⟨?_, fun j _ => h.mask j r hr⟩
    rw [← Bool.not_eq_true, h.mask i r hr]
    exact Ne.symm hne
  · refine ⟨?_, fun j hj => ?_⟩
    · rw [onScanout_unbind, decide_eq_false (not_not.mpr rfl), Bool.and_false]
    · rw [onScanout_unbind, decide_eq_true hj, Bool.and_true]
      exact h.mask j r₀ hr₀

theorem ids_modifyResource (dev : GPUState) (id : UInt32)
    (hf : ∀ r, (f r).resourceId = r.resourceId) :
    (dev.modifyResource id f).resourceList.map GPUSimpleResource.resourceId =
      dev.resourceList.map GPUSimpleResource.resourceId :=
  Table.keys_update hf

theorem scanouts_disableScanout (dev : GPUState) (i j : ScanoutId) :
    ((virtioGpuDisableScanout dev i).scanouts j).resourceId =
      if j = i then 0 else (dev.scanouts j).resourceId := by
  unfold virtioGpuDisableScanout
  dsimp only
  split
  · next h0 =>
    split
    · next hj => rw [hj, h0]
    · rfl
  · split
    · next hj =>
      subst hj
      dsimp only
      rw [Function.update_self]
    · next hj =>
      dsimp only
      rw [Function.update_of_ne hj]

theorem BindingOk.disableScanout (h : BindingOk dev) (ht : GPUTableOk dev) (i : ScanoutId) :
    BindingOk (virtioGpuDisableScanout dev i) := by
  by_cases h0 : (dev.scanouts i).resourceId = 0
  · have e : virtioGpuDisableScanout dev i = dev := by
      unfold virtioGpuDisableScanout
      exact if_pos h0
    rw [e]
    exact h
  · have hl : (virtioGpuDisableScanout dev i).resourceList =
        (dev.modifyResource (dev.scanouts i).resourceId (.unbind i)).resourceList := by
      unfold virtioGpuDisableScanout
      dsimp only
      rw [if_neg h0]
    have hids := ids_modifyResource dev (dev.scanouts i).resourceId
      (f := GPUSimpleResource.unbind i) (fun _ => rfl)
    refine ⟨fun j r hr => ?_, fun j => ?_⟩
    · rw [hl] at hr
      obtain ⟨hi, hother⟩ := h.unbound ht hr
      rw [scanouts_disableScanout]
      by_cases hj : j = i
      · subst hj
        have hid : r.resourceId ∈ dev.resourceList.map GPUSimpleResource.resourceId :=
          hids ▸ List.mem_map_of_mem hr
        obtain ⟨r₀, hr₀, e⟩ := List.mem_map.mp hid
        rw [if_pos rfl, hi]
        exact iff_of_false Bool.false_ne_true fun e' => ht.nonzero r₀ hr₀ (e.trans e'.symm)
      · rw [if_neg hj]
        exact hother j hj
    · rw [scanouts_disableScanout, hl, hids]
      by_cases hj : j = i
      · exact .inl (if_pos hj)
      · rw [if_neg hj]
        exact h.bound j

/-- The loop that disables the scanouts of a resource. -/
theorem disableScanouts_spec (h : BindingOk dev) (ht : GPUTableOk dev) (res : GPUSimpleResource)
    (is : List ScanoutId) :
    let dev' := is.foldl
      (fun dev i => if res.onScanout i then virtioGpuDisableScanout dev i else dev) dev
    BindingOk dev' ∧ GPUTableOk dev' ∧
      ∀ j, (dev'.scanouts j).resourceId =
        if is.contains j && res.onScanout j then 0 else (dev.scanouts j).resourceId := by
  induction is generalizing dev with
  | nil => exact ⟨h, ht, fun j => by simp⟩
  | cons i is ih =>
    rw [List.foldl_cons]
    by_cases hi : res.onScanout i = true
    · rw [if_pos hi]
      obtain ⟨hl, hh, -⟩ := disableScanout_frame dev i
      obtain ⟨hb, hta, hs⟩ := ih (h.disableScanout ht i) (ht.of_core hl hh)
      refine ⟨hb, hta, fun j => ?_⟩
      rw [hs, scanouts_disableScanout]
      by_cases hj : j = i
      · subst hj
        simp [hi]
      · simp [hj]
    · rw [if_neg hi]
      obtain ⟨hb, hta, hs⟩ := ih h ht
      refine ⟨hb, hta, fun j => ?_⟩
      rw [hs]
      by_cases hj : j = i
      · subst hj
        simp [hi]
      · simp [hj]

theorem onScanout_of_mask_zero (h : res.scanoutBitmask = 0)
    (i : ScanoutId) : res.onScanout i = false := by
  unfold GPUSimpleResource.onScanout
  rw [h, UInt32.zero_and]
  rfl

theorem BindingOk.destroy (h : BindingOk dev) (ht : GPUTableOk dev)
    (hfind : virtioGpuFindResource dev id = some res) :
    BindingOk (virtioGpuResourceDestory dev res) := by
  have hres : res ∈ dev.resourceList := Table.mem_of_find hfind
  -- the device behind the loop, and the ids its scanouts have
  obtain ⟨dev', hdev', hb, hta, hs⟩ : ∃ dev' : GPUState,
      (if res.scanoutBitmask ≠ 0 then disableScanouts res dev else dev) = dev' ∧
      BindingOk dev' ∧ GPUTableOk dev' ∧
      ∀ j, (dev'.scanouts j).resourceId =
        if res.onScanout j = true then 0 else (dev.scanouts j).resourceId := by
    refine ⟨_, rfl, ?_⟩
    split
    · obtain ⟨hb, hta, hs⟩ := disableScanouts_spec h ht res (List.finRange _)
      refine ⟨hb, hta, fun j => ?_⟩
      have e := hs j
      rw [List.contains_iff_mem.mpr (List.mem_finRange j), Bool.true_and] at e
      exact e
    · next h0 =>
      refine ⟨h, ht, fun j => ?_⟩
      rw [onScanout_of_mask_zero (not_not.mp h0) j, if_neg Bool.false_ne_true]
  have hfree : ∀ j, (dev'.scanouts j).resourceId ≠ res.resourceId := by
    intro j
    rw [hs]
    split
    · exact Ne.symm (ht.nonzero res hres)
    · next hj => exact fun e => hj ((h.mask j res hres).mpr e)
  have hlist : (virtioGpuResourceDestory dev res).resourceList =
      Table.remove GPUSimpleResource.resourceId res.resourceId dev'.resourceList := by
    rw [← hdev']
    rfl
  have hscan : (virtioGpuResourceDestory dev res).scanouts = dev'.scanouts := by
    rw [← hdev']
    rfl
  refine ⟨fun j r hr => ?_, fun j => ?_⟩
  · rw [hlist] at hr
    rw [hscan]
    exact hb.mask j r (Table.remove_sublist.subset hr)
  · rw [hlist, hscan]
    rcases hb.bound j with h0 | hin
    · exact .inl h0
    · obtain ⟨r, hr, e⟩ := List.mem_map.mp hin
      have hr' := (Table.mem_remove_iff (k := res.resourceId) hta.nodup).mpr
        ⟨hr, fun e' => hfree j (e.symm.trans e')⟩
      exact .inr (List.mem_map.mpr ⟨r, hr', e⟩)

theorem BindingOk.create (h : BindingOk dev) {c : ResourceCreate2d} (hid : c.resourceId ≠ 0)
    (hnew : virtioGpuFindResource dev c.resourceId = none) :
    BindingOk
      { dev with
        resourceList := c.resource :: dev.resourceList
        hostmem := dev.hostmem + c.resource.hostmem } := by
  have hout := Table.find_eq_none_iff.mp hnew
  refine ⟨fun i r hr => ?_, fun i => ?_⟩
  · rcases List.mem_cons.mp hr with rfl | hr
    · rw [onScanout_of_mask_zero rfl i]
      refine iff_of_false Bool.false_ne_true fun e => ?_
      rcases h.bound i with h0 | hin
      · exact hid (e.symm.trans h0)
      · have e' : (dev.scanouts i).resourceId = c.resourceId := e
        rw [e'] at hin
        exact hout hin
    · exact h.mask i r hr
  · rcases h.bound i with h0 | hin
    · exact .inl h0
    · exact .inr (List.mem_cons_of_mem _ hin)

theorem BindingOk.store (h : BindingOk dev) (ht : GPUTableOk dev) (hf : StoreOk f) :
    BindingOk (dev.modifyResource id f) := by
  refine ⟨fun i r hr => ?_, fun i => ?_⟩
  · rcases (Table.mem_update_iff ht.nodup).mp hr with ⟨hr, _⟩ | ⟨r₀, hr₀, _, rfl⟩
    · exact h.mask i r hr
    · have e : (f r₀).onScanout i = r₀.onScanout i := by
        unfold GPUSimpleResource.onScanout
        rw [hf.scanoutBitmask]
      rw [e, hf.resourceId]
      exact h.mask i r₀ hr₀
  · rw [ids_modifyResource dev id hf.resourceId]
    exact h.bound i

theorem scanouts_updateScanout (dev : GPUState) (i j : ScanoutId) (fb : GPUFrameBuffer)
    (res : GPUSimpleResource) (r : VirtioGpuRect) :
    ((virtioGpuUpdateScanout dev i fb res r).scanouts j).resourceId =
      if j = i then res.resourceId else (dev.scanouts j).resourceId := by
  show (Function.update dev.scanouts i _ j).resourceId = _
  by_cases hj : j = i
  · subst hj
    rw [Function.update_self, if_pos rfl]
  · rw [Function.update_of_ne hj, if_neg hj]

theorem BindingOk.bind (h : BindingOk dev) (ht : GPUTableOk dev)
    (hfind : virtioGpuFindResource dev id = some res) (i : ScanoutId) (fb : GPUFrameBuffer)
    (r : VirtioGpuRect) : BindingOk (virtioGpuUpdateScanout dev i fb res r) := by
  have hids := ids_modifyResource dev (dev.scanouts i).resourceId
    (f := GPUSimpleResource.unbind i) (fun _ => rfl)
  have hids' := ids_modifyResource (dev.modifyResource (dev.scanouts i).resourceId (.unbind i))
    res.resourceId (f := GPUSimpleResource.bind i) (fun _ => rfl)
  have hn : ((dev.modifyResource (dev.scanouts i).resourceId (.unbind i)).resourceList.map
      GPUSimpleResource.resourceId).Nodup := hids ▸ ht.nodup
  refine ⟨fun j r' hr' => ?_, fun j => ?_⟩
  · rw [scanouts_updateScanout]
    rcases (Table.mem_update_iff hn).mp hr' with ⟨hr, hne⟩ | ⟨r₁, hr₁, hid, rfl⟩
    · obtain ⟨hi, hother⟩ := h.unbound ht hr
      by_cases hj : j = i
      · subst hj
        rw [if_pos rfl, hi]
        exact iff_of_false Bool.false_ne_true (Ne.symm hne)
      · rw [if_neg hj]
        exact hother j hj
    · obtain ⟨-, hother⟩ := h.unbound ht hr₁
      rw [onScanout_bind]
      by_cases hj : j = i
      · rw [decide_eq_true hj, Bool.or_true, if_pos hj]
        exact iff_of_true rfl hid.symm
      · rw [decide_eq_false hj, Bool.or_false, if_neg hj]
        exact hother j hj
  · have hlist : (virtioGpuUpdateScanout dev i fb res r).resourceList.map
        GPUSimpleResource.resourceId = dev.resourceList.map GPUSimpleResource.resourceId :=
      hids'.trans hids
    rw [hlist, scanouts_updateScanout]
    split
    · exact .inr (List.mem_map_of_mem (Table.mem_of_find hfind))
    · exact h.bound j

theorem BindingOk.tableChange (h : BindingOk dev) (ht : GPUTableOk dev)
    (hc : TableChange dev dev') : BindingOk dev' := by
  cases hc with
  | same => exact h
  | create c hid hnew _ => exact h.create hid hnew
  | destroy res id hfind => exact h.destroy ht hfind
  | store id f hf => exact h.store ht hf

/-- **Every command keeps the masks and the scanouts in agreement.** -/
theorem BindingOk.change (h : BindingOk dev) (ht : GPUTableOk dev) {calls : List DrmCall}
    (hc : GPUChange env dev dev' calls) : BindingOk dev' := by
  cases hc with
  | table hc => exact h.tableChange ht hc
  | bind c i res stride ha => exact h.bind ht (virtioGpuCheckResource_ok ha.backed).1 i _ c.r
  | flush c res o ha hflush =>
    have hframe : OnlyFrameBuffers dev o.dev := flushScanouts_frame hflush
    exact h.congr hframe.resourceList hframe.resourceId

/-! ## 3. Resets -/

/-- All scanouts are in use. -/
def AllScanouts (dev : GPUState) : Prop := dev.scanoutsNum = hvisorVirtioGpuMaxScanouts

theorem AllScanouts.change (h : AllScanouts dev) {calls : List DrmCall}
    (hc : GPUChange env dev dev' calls) : AllScanouts dev' := by
  cases hc with
  | table hc =>
    cases hc with
    | same | create | store => exact h
    | destroy res => exact (resourceDestory_frame dev res).2.2.trans h
  | bind => exact h
  | flush c res o ha hflush =>
    have hframe : OnlyFrameBuffers dev o.dev := flushScanouts_frame hflush
    exact hframe.scanoutsNum.trans h

theorem resourceId_reset (h : AllScanouts dev) (i : ScanoutId) :
    ((virtioGpuReset dev).scanouts i).resourceId = 0 := by
  have hi : i.val < dev.scanoutsNum := by
    rw [h]
    exact i.isLt
  show (if i.val < dev.scanoutsNum then _ else _ : GPUScanout).resourceId = 0
  rw [if_pos hi]

/-- **A reset keeps the two sides in agreement exactly where no scanout shows a resource.** -/
theorem bindingOk_reset_iff (h : BindingOk dev) (ht : GPUTableOk dev) (ha : AllScanouts dev) :
    BindingOk (virtioGpuReset dev) ↔ ∀ i, (dev.scanouts i).resourceId = 0 := by
  constructor
  · intro h' i
    rcases h.bound i with h0 | hin
    · exact h0
    · -- the bit of the resource shown is still set
      obtain ⟨r, hr, e⟩ := List.mem_map.mp hin
      have hbit : r.onScanout i = true := (h.mask i r hr).mpr e.symm
      have h0 := (h'.mask i r hr).mp hbit
      rw [resourceId_reset ha] at h0
      exact absurd h0.symm (ht.nonzero r hr)
  · intro h0
    exact h.congr rfl fun i => (resourceId_reset ha i).trans (h0 i).symm

/-! ## 4. What a flush draws -/

/-- The scanouts that some calls draw on. -/
def drawnOn (calls : List DrmCall) : List ScanoutId :=
  calls.filterMap fun
    | .setCrtc i _ _ => some i
    | _ => none

theorem drawnOn_append (calls calls' : List DrmCall) :
    drawnOn (calls ++ calls') = drawnOn calls ++ drawnOn calls' := List.filterMap_append

theorem drawnOn_remove (fb : GPUFrameBuffer) :
    drawnOn (virtioGpuRemoveDrmFramebuffer fb).2 = [] := by
  unfold virtioGpuRemoveDrmFramebuffer
  split <;> rfl

theorem drawnOn_create (drm : DrmAnswers) (fb : GPUFrameBuffer) :
    drawnOn (virtioGpuCreateDrmFramebuffer drm fb).2.2 = [] := by
  unfold virtioGpuCreateDrmFramebuffer
  split
  · rfl
  · split
    · rfl
    · dsimp only
      split
      · exact drawnOn_remove fb
      · split
        · rfl
        · split
          · exact drawnOn_remove fb
          · rfl

/-- A copy that sets no error is followed by the call that shows it. -/
theorem drawnOn_copyAndFlush {fb : GPUFrameBuffer} {o : Option GPUError × List DrmCall}
    (h : virtioGpuCopyAndFlush env i fb res = .ok o) :
    (o.1 = none ∧ drawnOn o.2 = [i]) ∨ (o.1 ≠ none ∧ drawnOn o.2 = []) := by
  unfold virtioGpuCopyAndFlush at h
  split at h
  · cases h
    exact .inr ⟨Option.some_ne_none _, rfl⟩
  · split at h
    · cases h
      exact .inr ⟨Option.some_ne_none _, rfl⟩
    · obtain ⟨stride, -, h⟩ := bind_eq_ok.mp h
      obtain ⟨copies, -, h⟩ := bind_eq_ok.mp h
      cases h
      exact .inl ⟨rfl, rfl⟩

/-- One pass of the loop draws on its scanout at most, if that is one of the resource's,
    and does so if no error is set behind it. -/
theorem flushScanout_draws {o : GPUResult × Bool} (h : flushScanout env res i r = .ok o) :
    (∀ j ∈ drawnOn o.1.calls, j ∈ drawnOn r.calls ∨ (j = i ∧ res.onScanout i = true)) ∧
      (∀ j ∈ drawnOn r.calls, j ∈ drawnOn o.1.calls) ∧
      (o.1.error = none → r.error = none ∧ o.2 = true ∧
        (res.onScanout i = true → i ∈ drawnOn o.1.calls)) := by
  unfold flushScanout at h
  split at h
  · next hoff =>
    cases h
    refine ⟨fun j hj => .inl hj, fun j hj => hj, fun he => ⟨he, rfl, fun hon => ?_⟩⟩
    rw [hon] at hoff
    cases hoff
  · next hon =>
    have hon : res.onScanout i = true := by simpa using hon
    dsimp only at h
    split at h
    · next herr =>
      cases h
      dsimp only
      rw [drawnOn_append, drawnOn_create, List.append_nil]
      refine ⟨fun j hj => .inl hj, fun j hj => hj, fun he => ?_⟩
      rw [he] at herr
      simp at herr
    · obtain ⟨drawn, hdrawn, h⟩ := bind_eq_ok.mp h
      cases h
      dsimp only
      rw [drawnOn_append, drawnOn_append, drawnOn_create, List.append_nil]
      refine ⟨fun j hj => ?_, fun j hj => List.mem_append_left _ hj, fun he => ?_⟩
      · rcases List.mem_append.mp hj with hj | hj
        · exact .inl hj
        · rcases drawnOn_copyAndFlush hdrawn with ⟨-, e⟩ | ⟨-, e⟩
          · rw [e] at hj
            exact .inr ⟨List.mem_singleton.mp hj, hon⟩
          · rw [e] at hj
            exact absurd hj List.not_mem_nil
      · obtain ⟨hd, hrest⟩ := Option.or_eq_none_iff.mp he
        obtain ⟨-, hr⟩ := Option.or_eq_none_iff.mp hrest
        refine ⟨hr, rfl, fun _ => ?_⟩
        rcases drawnOn_copyAndFlush hdrawn with ⟨-, e⟩ | ⟨hne, -⟩
        · rw [e]
          exact List.mem_append_right _ List.mem_cons_self
        · exact absurd hd hne

theorem flushScanouts_draws {is : List ScanoutId} (h : flushScanouts env res is r = .ok o) :
    (∀ j ∈ drawnOn o.calls, j ∈ drawnOn r.calls ∨ res.onScanout j = true) ∧
      (∀ j ∈ drawnOn r.calls, j ∈ drawnOn o.calls) ∧
      (o.error = none → r.error = none ∧
        ∀ j ∈ is, res.onScanout j = true → j ∈ drawnOn o.calls) := by
  induction is generalizing r with
  | nil =>
    cases h
    exact ⟨fun j hj => .inl hj, fun j hj => hj,
      fun he => ⟨he, fun j hj => absurd hj List.not_mem_nil⟩⟩
  | cons i is ih =>
    obtain ⟨⟨r', goOn⟩, hr', h⟩ := bind_eq_ok.mp h
    obtain ⟨hnew, hold, herr⟩ := flushScanout_draws hr'
    dsimp only at hnew hold herr
    cases goOn with
    | true =>
      obtain ⟨hnew', hold', herr'⟩ := ih h
      refine ⟨fun j hj => ?_, fun j hj => hold' j (hold j hj), fun he => ?_⟩
      · rcases hnew' j hj with hj | hj
        · rcases hnew j hj with hj | ⟨rfl, hon⟩
          · exact .inl hj
          · exact .inr hon
        · exact .inr hj
      · obtain ⟨he', hrest⟩ := herr' he
        obtain ⟨her, -, hi⟩ := herr he'
        refine ⟨her, fun j hj hon => ?_⟩
        rcases List.mem_cons.mp hj with rfl | hj
        · exact hold' j (hi hon)
        · exact hrest j hj hon
    | false =>
      cases h
      refine ⟨fun j hj => ?_, hold, fun he => ?_⟩
      · rcases hnew j hj with hj | ⟨rfl, hon⟩
        · exact .inl hj
        · exact .inr hon
      · exact absurd (herr he).2.1 Bool.false_ne_true

/-- **A flush draws only on scanouts that show the resource**, and on all of them if it sets
    no error, where the two sides agree. -/
theorem flush_draws (h : BindingOk dev) {c : ResourceFlush} (ho : resourceFlush env dev c = .ok o) :
    (∀ i ∈ drawnOn o.calls, (dev.scanouts i).resourceId = c.resourceId) ∧
      (o.error = none → ∀ i, (dev.scanouts i).resourceId = c.resourceId → i ∈ drawnOn o.calls) := by
  have hfails : ∀ e : GPUError,
      (∀ i ∈ drawnOn (dev.fails e).calls, (dev.scanouts i).resourceId = c.resourceId) ∧
      ((dev.fails e).error = none → ∀ i, (dev.scanouts i).resourceId = c.resourceId →
        i ∈ drawnOn (dev.fails e).calls) :=
    fun e => ⟨fun i hi => absurd hi List.not_mem_nil, fun he => by cases he⟩
  obtain ⟨⟨e, rfl⟩, -⟩ | ⟨res, ha, hflush⟩ := resourceFlush_ok ho
  · exact hfails e
  · obtain ⟨hfind, -⟩ := virtioGpuCheckResource_ok ha.backed
    have hmem : res ∈ dev.resourceList := Table.mem_of_find hfind
    have hid : res.resourceId = c.resourceId := Table.key_of_find hfind
    obtain ⟨hnew, -, herr⟩ := flushScanouts_draws hflush
    refine ⟨fun i hi => ?_, fun he i hi => ?_⟩
    · rcases hnew i hi with hj | hon
      · exact absurd hj List.not_mem_nil
      · exact ((h.mask i res hmem).mp hon).trans hid
    · exact (herr he).2 i (List.mem_finRange i) ((h.mask i res hmem).mpr (hi.trans hid.symm))

/-! ## 5. Every sequence of commands and resets -/

/-- A reset comes while no scanout shows a resource. -/
def ResetUnbound (s : GPUHistory) : GPUStep → Prop
  | .command _ _ => True
  | .reset => ∀ i, (s.dev.scanouts i).resourceId = 0

theorem bindingOk_start (requested mode : GPURequestedState) :
    BindingOk (gpuStart requested mode).dev := by
  refine ⟨fun i r hr => absurd hr List.not_mem_nil, fun i => .inl ?_⟩
  show (if i.val = 0 then _ else _ : GPUScanout).resourceId = 0
  have h : ((initGpuDev requested).scanouts i).resourceId = 0 := by
    show (if i.val = 0 then _ else _ : GPUScanout).resourceId = 0
    split <;> rfl
  split <;> exact h

/-- What every step keeps beside the bindings. -/
structure GPUSound (s : GPUHistory) : Prop where
  table : GPUTableOk s.dev
  scanouts : AllScanouts s.dev

theorem gpuSound_start (requested mode : GPURequestedState) : GPUSound (gpuStart requested mode) :=
  ⟨gpuTableOk_start requested mode, rfl⟩

theorem GPUSound.step {s s' : GPUHistory} {a : GPUStep} (h : GPUSound s)
    (hs : gpuMachine.step s a = some s') : GPUSound s' := by
  refine ⟨h.table.step hs, ?_⟩
  cases a with
  | command env iov =>
    obtain ⟨o, ho, rfl⟩ := gpuMachine_command hs
    exact h.scanouts.change (change_command ho)
  | reset =>
    cases hs
    exact h.scanouts

theorem binding_step_iff {s s' : GPUHistory} {a : GPUStep} (hs : GPUSound s)
    (h : BindingOk s.dev) (hstep : gpuMachine.step s a = some s') :
    GPUSound s' ∧ (BindingOk s'.dev ↔ ResetUnbound s a) := by
  refine ⟨hs.step hstep, ?_⟩
  cases a with
  | command env iov =>
    obtain ⟨o, ho, rfl⟩ := gpuMachine_command hstep
    exact iff_of_true (h.change hs.table (change_command ho)) trivial
  | reset =>
    cases hstep
    exact bindingOk_reset_iff h hs.table hs.scanouts

/-- **Masks and scanouts agree in every state of a sequence exactly when every reset in it
    comes while no scanout shows a resource.** Where they agree, a flush draws only on
    scanouts that show its resource, and on all of them if it sets no error. -/
theorem scanout_binding_iff (requested mode : GPURequestedState) :
    (∀ as, gpuMachine.Always (fun s => BindingOk s.dev) (gpuStart requested mode) as ↔
        gpuMachine.Throughout ResetUnbound (gpuStart requested mode) as) ∧
      ∀ dev, BindingOk dev → ∀ env c o, resourceFlush env dev c = .ok o →
        (∀ i ∈ drawnOn o.calls, (dev.scanouts i).resourceId = c.resourceId) ∧
        (o.error = none →
          ∀ i, (dev.scanouts i).resourceId = c.resourceId → i ∈ drawnOn o.calls) := by
  refine ⟨fun as => ?_, fun dev h env c o ho => flush_draws h ho⟩
  exact Machine.always_iff (fun _ _ _ hI hP hs => binding_step_iff hI hP hs)
    (gpuSound_start requested mode) (bindingOk_start requested mode) as

/-- A driver puts a picture of 16 by 16 pixels on the first scanout. -/
def showPicture : List GPUStep :=
  [driverCommand drmFine (createCommand 1 16 16), driverCommand drmFine (attachCommand 1 1024),
    driverCommand drmFine (setScanoutCommand 1 16 16)]

/-- What a flush of that picture draws on, with a DRM device on which every call succeeds. -/
def flushPicture (dev : GPUState) : Option (List ScanoutId) :=
  (resourceFlush (driverEnv drmFine []) dev ⟨⟨0, 0, 16, 16⟩, 1⟩).toOption.map fun o => drawnOn o.calls

theorem scanout_binding_shown :
    gpuMachine.Always (fun s => BindingOk s.dev) (gpuStart ⟨1280, 800⟩ ⟨1280, 800⟩) showPicture ∧
      ∃ s, gpuMachine.run (gpuStart ⟨1280, 800⟩ ⟨1280, 800⟩) showPicture = some s ∧
        flushPicture s.dev = some [firstScanout] ∧ (s.dev.scanouts firstScanout).resourceId = 1 := by
  obtain ⟨hiff, hdraws⟩ := scanout_binding_iff ⟨1280, 800⟩ ⟨1280, 800⟩
  have hall : gpuMachine.Always (fun s => BindingOk s.dev) (gpuStart ⟨1280, 800⟩ ⟨1280, 800⟩)
      showPicture := by
    refine (hiff showPicture).mpr fun p a t t' hp _ _ => ?_
    have hmem : a ∈ showPicture := hp.subset (List.mem_append_right _ List.mem_cons_self)
    cases a with
    | command env iov => trivial
    | reset => simp [showPicture, driverCommand] at hmem
  have hrun : (gpuMachine.run (gpuStart ⟨1280, 800⟩ ⟨1280, 800⟩) showPicture).map
      (fun s => flushPicture s.dev) = some (some [firstScanout]) := by
    decide
  obtain ⟨s, hs, hflush⟩ := Option.map_eq_some_iff.mp hrun
  refine ⟨hall, s, hs, hflush, ?_⟩
  obtain ⟨o, ho, hdrawn⟩ := Option.map_eq_some_iff.mp hflush
  have hok : BindingOk s.dev := hall showPicture s (List.prefix_refl _) hs
  have hin : firstScanout ∈ drawnOn o.calls := by
    rw [hdrawn]
    exact List.mem_cons_self
  exact (hdraws s.dev hok _ _ o (toOption_eq_some.mp ho)).1 firstScanout hin

/-- **A reset while the picture is shown leaves its mask**: the scanout shows nothing, and a
    flush draws the picture on it all the same. -/
theorem scanout_binding_stale :
    ∃ s, gpuMachine.run (gpuStart ⟨1280, 800⟩ ⟨1280, 800⟩) (showPicture ++ [.reset]) = some s ∧
      ¬ BindingOk s.dev ∧ (s.dev.scanouts firstScanout).resourceId = 0 ∧ flushPicture s.dev = some [firstScanout] := by
  have hrun : (gpuMachine.run (gpuStart ⟨1280, 800⟩ ⟨1280, 800⟩) (showPicture ++ [.reset])).map
      (fun s => (s.dev.resourceList.map fun r => (r.resourceId, r.onScanout firstScanout),
        (s.dev.scanouts firstScanout).resourceId, flushPicture s.dev)) =
      some ([(1, true)], 0, some [firstScanout]) := by
    decide
  obtain ⟨s, hs, hview⟩ := Option.map_eq_some_iff.mp hrun
  rw [Prod.mk.injEq, Prod.mk.injEq] at hview
  obtain ⟨hlist, hscan, hflush⟩ := hview
  refine ⟨s, hs, fun hok => ?_, hscan, hflush⟩
  have hin : ((1 : UInt32), true) ∈
      s.dev.resourceList.map fun r => (r.resourceId, r.onScanout firstScanout) := by
    rw [hlist]
    exact List.mem_cons_self
  obtain ⟨r, hr, e⟩ := List.mem_map.mp hin
  rw [Prod.mk.injEq] at e
  have := (hok.mask firstScanout r hr).mp e.2
  rw [hscan, e.1] at this
  exact absurd this (by decide)

end HvisorTool
