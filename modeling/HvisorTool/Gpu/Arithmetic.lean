/-
  File:      HvisorTool/Gpu/Arithmetic.lean
  Subject:   SIZES AND RECTANGLES of the GPU device, computed in 32 bits.

  The memory of a picture, the sums of the rectangle checks and the offset into the frame
  buffer all wrap, and the limit on memory is checked against what is left of the product.

  * `ResourceInvariant`: a property of resources that every command keeps;
  * `hostmem_of_mem`: the memory of each resource in the table is the one computed from its size;
  * `RectAccepted`: a rectangle that one of the three checks lets pass;
  * `exactSizes_iff`: memory, rectangles and offsets are exact integers for the pictures
    that fit, and only for them.
-/
import HvisorTool.Gpu.Effects

namespace HvisorTool

open Library

/-! ## 1. What every command keeps of a resource -/

/-- A property of a resource that depends neither on its mapping nor on its transfer or
    its scanouts, and that a new resource has. -/
structure ResourceInvariant (p : GPUSimpleResource → Prop) : Prop where
  create : ∀ c : ResourceCreate2d, p c.resource
  mapping : ∀ res iov cnt, p res → p { res with iov := iov, iovCnt := cnt }
  transfer : ∀ res rect offset, p res →
    p { res with transferRect := rect, transferOffset := offset }
  core : ∀ res res' : GPUSimpleResource, res.core = res'.core → p res → p res'

/-- The property of every resource in the table. -/
def AllResources (p : GPUSimpleResource → Prop) (dev : GPUState) : Prop :=
  ∀ res ∈ dev.resourceList, p res

variable {p : GPUSimpleResource → Prop} {env : GPUEnv} {iov : List Iovec} {dev : GPUState}

theorem AllResources.modify (h : AllResources p dev) (hok : GPUTableOk dev) (id : UInt32)
    {f : GPUSimpleResource → GPUSimpleResource} (hf : ∀ res, p res → p (f res)) :
    AllResources p (dev.modifyResource id f) := by
  intro res hres
  rcases (Table.mem_update_iff hok.nodup).mp hres with ⟨hold, -⟩ | ⟨old, hold, -, rfl⟩
  · exact h res hold
  · exact hf old (h old hold)

theorem AllResources.of_core (hp : ResourceInvariant p) {l : List GPUSimpleResource}
    (h : ∀ res ∈ l, p res)
    (hl : dev.resourceList.map GPUSimpleResource.core = l.map GPUSimpleResource.core) :
    AllResources p dev := by
  intro res hres
  have hmem : res.core ∈ l.map GPUSimpleResource.core := hl ▸ List.mem_map_of_mem hres
  obtain ⟨old, hold, hcore⟩ := List.mem_map.mp hmem
  exact hp.core old res hcore (h old hold)

/-- A handler behind its `VIRTIO_GPU_FILL_CMD` and with the response. -/
theorem AllResources.fillThen {α : Type} {mem : Mem} {size : Nat} {read : Mem → α}
    {act : α → Except GPUFault GPUResult} {o : GPUOutcome} (h : AllResources p dev)
    (hact : ∀ c r, act c = .ok r → AllResources p r.dev)
    (ho : (fillThen mem iov size read dev act).map GPUResult.respond = .ok o) :
    AllResources p o.dev := by
  obtain ⟨r, hr, rfl⟩ := map_eq_ok.mp ho
  obtain ⟨rfl, -⟩ | ⟨c, -, hc⟩ := fillThen_ok hr
  · exact h
  · exact hact c r hc

/-- **Every handler keeps the property.** -/
theorem AllResources.handler (hp : ResourceInvariant p) (hok : GPUTableOk dev)
    (h : AllResources p dev) {type : GPUCommandType} {o : GPUOutcome}
    (ho : type.handler env iov dev = .ok o) : AllResources p o.dev := by
  cases type with
  | getDisplayInfo | getEdid =>
    cases ho
    exact h
  | resourceCreate2d =>
    refine h.fillThen (fun c r hr => ?_) ho
    rcases resourceCreate2d_cases hr with ⟨⟨e, rfl⟩, -⟩ | ⟨-, -, ⟨-, rfl⟩ | ⟨-, rfl⟩⟩
    · exact h
    · exact h
    · intro res hres
      rcases List.mem_cons.mp hres with rfl | hres
      · exact hp.create c
      · exact h res hres
  | resourceUnref =>
    refine h.fillThen (fun c r hr => ?_) ho
    rcases resourceUnref_cases hr with ⟨e, rfl⟩ | ⟨res, -, rfl⟩
    · exact h
    · exact .of_core hp (fun old hold => h old (Table.remove_sublist.subset hold))
        (resourceDestory_frame dev res).1
  | resourceFlush =>
    refine h.fillThen (fun c r hr => ?_) ho
    rcases resourceFlush_ok hr with ⟨⟨e, rfl⟩, -⟩ | ⟨res, -, hflush⟩
    · exact h
    · have hframe : OnlyFrameBuffers dev r.dev := flushScanouts_frame hflush
      exact .of_core hp h (by rw [hframe.resourceList])
  | transferToHost2d =>
    refine h.fillThen (fun c r hr => ?_) ho
    rcases transferToHost2d_cases hr with ⟨e, rfl⟩ | ⟨res, -, rfl⟩
    · exact h
    · exact h.modify hok c.resourceId fun res hres => hp.transfer res _ _ hres
  | setScanout =>
    refine h.fillThen (fun c r hr => ?_) ho
    rcases setScanout_ok hr with ⟨⟨e, rfl⟩, -⟩ | ⟨i, res, stride, -, rfl⟩
    · exact h
    · exact .of_core hp h (updateScanout_frame dev i _ res c.r)
  | resourceAttachBacking =>
    refine h.fillThen (fun c r hr => ?_) ho
    rcases resourceAttachBacking_cases hr with ⟨⟨e, rfl⟩, -⟩ | ⟨res, entries, -, -, -, rfl⟩
    · exact h
    · exact h.modify hok c.resourceId fun res hres => hp.mapping res _ _ hres
  | resourceDetachBacking =>
    refine h.fillThen (fun id r hr => ?_) ho
    rcases resourceDetachBacking_cases hr with ⟨e, rfl⟩ | ⟨res, -, rfl⟩
    · exact h
    · exact h.modify hok id fun res hres => hp.mapping res _ _ hres

theorem AllResources.step (hp : ResourceInvariant p) {s s' : GPUHistory} {a : GPUStep}
    (hok : GPUTableOk s.dev) (h : AllResources p s.dev) (hs : gpuMachine.step s a = some s') :
    AllResources p s'.dev := by
  cases a with
  | command env iov =>
    obtain ⟨o, ho, rfl⟩ := gpuMachine_command hs
    rcases simpleProcessCmd_ok ho with ⟨hdev, -, -⟩ | ⟨code, type, -, -, ho⟩
    · rw [AllResources, hdev]
      exact h
    · exact h.handler hp hok ho
  | reset =>
    cases hs
    exact h

/-- **In every state that commands and resets lead to, every resource has the property.** -/
theorem ResourceInvariant.reach (hp : ResourceInvariant p) {requested mode : GPURequestedState}
    {s : GPUHistory} (h : gpuMachine.Reach (gpuStart requested mode) s) : AllResources p s.dev := by
  have hboth : GPUTableOk s.dev ∧ AllResources p s.dev :=
    Machine.Path.inv (fun s => GPUTableOk s.dev ∧ AllResources p s.dev)
      ⟨gpuTableOk_start requested mode, fun _ hres => absurd hres List.not_mem_nil⟩
      (fun _ _ _ hI _ hs => ⟨hI.1.step hs, hI.2.step hp hI.1 hs⟩) h
  exact hboth.2

/-! ## 2. The memory of a picture -/

/-- The memory of a resource is what `calc_image_hostmem` makes of its size. -/
def GPUSimpleResource.Sized (res : GPUSimpleResource) : Prop :=
  res.hostmem = (calcImageHostmem 32 res.width res.height).toUInt64

theorem sized_invariant : ResourceInvariant GPUSimpleResource.Sized where
  create _ := rfl
  mapping _ _ _ h := h
  transfer _ _ _ h := h
  core res res' hcore h := by
    obtain ⟨-, hwidth, hheight, -, -, hhostmem⟩ := fields_of_core hcore
    unfold GPUSimpleResource.Sized
    rw [← hwidth, ← hheight, ← hhostmem]
    exact h

/-- The product as it is computed: the width loses its five top bits. -/
theorem toNat_calcImageHostmem (width height : UInt32) :
    (calcImageHostmem 32 width height).toNat =
      height.toNat * (4 * (width.toNat % 2 ^ 27)) % 2 ^ 32 := by
  have hw := width.toNat_lt
  have hstride : ((width * 32 + 0x1f) >>> 5 * 4).toNat = 4 * (width.toNat % 2 ^ 27) := by
    simp only [UInt32.toNat_mul, UInt32.toNat_shiftRight, UInt32.toNat_add, UInt32.reduceToNat,
      Nat.shiftRight_eq_div_pow, Nat.reduceMod, Nat.reducePow]
    omega
  unfold calcImageHostmem
  rw [UInt32.toNat_mul, hstride]

/-- What the bytes of a picture come to, as an integer. -/
def GPUSimpleResource.pictureBytes (res : GPUSimpleResource) : Nat :=
  4 * res.width.toNat * res.height.toNat

/-- The limit of `create_2d` on them. -/
def GPUSimpleResource.Fits (res : GPUSimpleResource) : Prop :=
  res.pictureBytes < virtioGpuMaxHostmem.toNat

variable {res : GPUSimpleResource}

/-- A picture with pixels that fits is less than 2^27 pixels wide, and high. -/
theorem GPUSimpleResource.Fits.sides (h : res.Fits) (hw : 0 < res.width.toNat)
    (hh : 0 < res.height.toNat) : res.width.toNat < 2 ^ 27 ∧ res.height.toNat < 2 ^ 27 := by
  have hbytes : 4 * res.width.toNat * res.height.toNat < 536870912 := h
  have hwidth := Nat.le_mul_of_pos_right (4 * res.width.toNat) hh
  have hheight := Nat.le_mul_of_pos_left res.height.toNat (Nat.mul_pos (by decide : 0 < 4) hw)
  have hcomm : 4 * res.width.toNat * res.height.toNat =
      4 * (res.width.toNat * res.height.toNat) := Nat.mul_assoc _ _ _
  have hheight' := Nat.le_mul_of_pos_left res.height.toNat hw
  omega

/-- The memory of a picture that fits is computed exactly. -/
theorem GPUSimpleResource.Sized.exact (hs : res.Sized) (h : res.Fits) :
    res.hostmem.toNat = res.pictureBytes := by
  have hbytes : 4 * res.width.toNat * res.height.toNat < 536870912 := h
  rw [hs, UInt32.toNat_toUInt64, toNat_calcImageHostmem, GPUSimpleResource.pictureBytes]
  rcases Nat.eq_zero_or_pos res.width.toNat with hw | hw
  · rw [hw]
    simp
  rcases Nat.eq_zero_or_pos res.height.toNat with hh | hh
  · rw [hh]
    simp
  obtain ⟨hwidth, -⟩ := h.sides hw hh
  rw [Nat.mod_eq_of_lt hwidth, Nat.mul_comm res.height.toNat, Nat.mod_eq_of_lt (by omega)]

/-- A row of such a picture has its pixels and no more. -/
theorem GPUSimpleResource.Sized.stride (hs : res.Sized) (h : res.Fits) {stride : UInt32}
    (hstride : rowStride res = .ok stride) (hb : res.hostmem ≠ 0) :
    0 < res.height.toNat ∧ res.width.toNat < 2 ^ 27 ∧ res.height.toNat < 2 ^ 27 ∧
      stride.toNat = 4 * res.width.toNat := by
  have hexact := hs.exact h
  have hpos : 0 < res.pictureBytes := by
    rw [← hexact]
    exact Nat.pos_of_ne_zero fun h0 => hb (UInt64.toNat_inj.mp h0)
  have hh : 0 < res.height.toNat := Nat.pos_of_mul_pos_left hpos
  have hw : 0 < res.width.toNat := by
    have := Nat.pos_of_mul_pos_right hpos
    omega
  obtain ⟨hwidth, hheight⟩ := h.sides hw hh
  refine ⟨hh, hwidth, hheight, ?_⟩
  unfold rowStride at hstride
  split at hstride
  · cases hstride
  cases hstride
  rw [UInt64.toNat_toUInt32, UInt64.toNat_div, UInt32.toNat_toUInt64, hexact,
    GPUSimpleResource.pictureBytes, Nat.mul_div_cancel _ hh, Nat.mod_eq_of_lt (by omega)]

/-! ## 3. Rectangles -/

/-- Where the checks of `transfer_to_host_2d` pass. -/
structure TransferToHost2d.Accepted (c : TransferToHost2d) (dev : GPUState)
    (res : GPUSimpleResource) : Prop where
  backed : virtioGpuCheckResource dev c.resourceId = .ok res
  inside : c.r.outside res.width res.height = false

/-- A rectangle that passes the checks of `transfer_to_host_2d`, of `resource_flush` or of
    `set_scanout` for a resource. -/
inductive RectAccepted (dev : GPUState) (res : GPUSimpleResource) (r : VirtioGpuRect) : Prop where
  | transfer (c : TransferToHost2d) (hr : c.r = r) (hc : c.Accepted dev res)
  | flush (c : ResourceFlush) (hr : c.r = r) (hc : c.Accepted dev res)
  | scanout (c : SetScanout) (i : ScanoutId) (hr : c.r = r) (hc : c.Accepted dev i res)

/-- A rectangle that lies in the picture, and the offset of its corner in the frame buffer,
    without a wrap. -/
structure RectExact (res : GPUSimpleResource) (r : VirtioGpuRect) : Prop where
  right : r.x.toNat + r.width.toNat ≤ res.width.toNat
  bottom : r.y.toNat + r.height.toNat ≤ res.height.toNat
  offset : ∀ stride, rowStride res = .ok stride →
    (scanoutFrameBuffer res stride r).offset.toNat = r.x.toNat * 4 + r.y.toNat * stride.toNat

/-- What all three checks say, the sums wrapped; `set_scanout` compares `r->y` with the width. -/
theorem RectAccepted.bounds {r : VirtioGpuRect} (h : RectAccepted dev res r) :
    res.unbacked = false ∧ r.x ≤ res.width ∧ r.width ≤ res.width ∧ r.height ≤ res.height ∧
      (r.y ≤ res.height ∨ r.y ≤ res.width) ∧
      r.x + r.width ≤ res.width ∧ r.y + r.height ≤ res.height := by
  have hinside : r.outside res.width res.height = false →
      r.x ≤ res.width ∧ r.width ≤ res.width ∧ r.height ≤ res.height ∧
        (r.y ≤ res.height ∨ r.y ≤ res.width) ∧
        r.x + r.width ≤ res.width ∧ r.y + r.height ≤ res.height := by
    intro hin
    simp only [VirtioGpuRect.outside, Bool.or_eq_false_iff, decide_eq_false_iff_not,
      UInt32.not_lt, gt_iff_lt] at hin
    obtain ⟨⟨⟨⟨⟨hx, hy⟩, hw⟩, hh⟩, hxw⟩, hyh⟩ := hin
    exact ⟨hx, hw, hh, .inl hy, hxw, hyh⟩
  cases h with
  | transfer c hr hc =>
    subst hr
    exact ⟨(virtioGpuCheckResource_ok hc.backed).2, hinside hc.inside⟩
  | flush c hr hc =>
    subst hr
    exact ⟨(virtioGpuCheckResource_ok hc.backed).2, hinside hc.inside⟩
  | scanout c i hr hc =>
    subst hr
    have hin := hc.inside
    simp only [VirtioGpuRect.offScanout, Bool.or_eq_false_iff, decide_eq_false_iff_not,
      UInt32.not_lt, gt_iff_lt] at hin
    obtain ⟨⟨⟨⟨⟨⟨⟨hx, hy⟩, -⟩, -⟩, hw⟩, hh⟩, hxw⟩, hyh⟩ := hin
    exact ⟨(virtioGpuCheckResource_ok hc.backed).2, hx, hw, hh, .inr hy, hxw, hyh⟩

/-- In a picture that fits, no sum of a check wraps. -/
theorem RectAccepted.exact (hs : res.Sized) (hfits : res.Fits) {r : VirtioGpuRect}
    (h : RectAccepted dev res r) : RectExact res r := by
  obtain ⟨hbacked, hx, hw, hh, hy, hxw, hyh⟩ := h.bounds
  have hb : res.hostmem ≠ 0 := ne_of_beq_false (Bool.or_eq_false_iff.mp hbacked).2
  have hheight : res.height ≠ 0 := by
    intro h0
    refine hb ?_
    rw [hs, h0, calcImageHostmem, UInt32.zero_mul]
    rfl
  have hrow : rowStride res = .ok (res.hostmem / res.height.toUInt64).toUInt32 := if_neg hheight
  obtain ⟨-, hwidth, hheight', -⟩ := hs.stride hfits hrow hb
  simp only [UInt32.le_iff_toNat_le, UInt32.toNat_add] at hx hw hh hy hxw hyh
  have hright : r.x.toNat + r.width.toNat ≤ res.width.toNat := by omega
  have hbottom : r.y.toNat + r.height.toNat ≤ res.height.toNat := by omega
  refine ⟨hright, hbottom, fun stride hstride => ?_⟩
  obtain ⟨-, -, -, hpitch⟩ := hs.stride hfits hstride hb
  have hbytes : 4 * res.width.toNat * res.height.toNat < 536870912 := hfits
  have hrows : r.y.toNat * stride.toNat ≤ 4 * res.width.toNat * res.height.toNat := by
    rw [hpitch, Nat.mul_comm]
    exact Nat.mul_le_mul_left _ (by omega)
  have hoffset : (scanoutFrameBuffer res stride r).offset = r.x * 4 + r.y * stride := rfl
  rw [hoffset, UInt32.toNat_add, UInt32.toNat_mul, UInt32.toNat_mul]
  simp only [UInt32.reduceToNat]
  omega

/-! ## 4. Every resource of every run -/

/-- The memory of a resource and every rectangle accepted for it are exact. -/
structure ExactSizes (dev : GPUState) (res : GPUSimpleResource) : Prop where
  hostmem : res.hostmem.toNat = 4 * res.width.toNat * res.height.toNat
  below : res.hostmem < virtioGpuMaxHostmem
  rects : ∀ r, RectAccepted dev res r → RectExact res r

/-- No resource of a table has more than the total. -/
theorem GPUTableOk.hostmem_below (h : GPUTableOk dev) (hres : res ∈ dev.resourceList) :
    res.hostmem < virtioGpuMaxHostmem := by
  have hfind : Table.find GPUSimpleResource.resourceId res.resourceId dev.resourceList =
      some res := Table.find_of_mem h.nodup hres
  have htotal := h.total
  rw [Table.sum_remove hfind] at htotal
  have hbelow := UInt64.lt_iff_toNat_lt.mp h.below
  exact UInt64.lt_iff_toNat_lt.mpr (by omega)

/-- **In every state that commands lead to, the memory of a resource and the rectangles
    accepted for it are exact integers if and only if the bytes of its picture, as an exact
    integer, are below the limit.** -/
theorem gpu_sizes_exact_iff {requested mode : GPURequestedState} {s : GPUHistory}
    (h : gpuMachine.Reach (gpuStart requested mode) s) (hres : res ∈ s.dev.resourceList) :
    ExactSizes s.dev res ↔ 4 * res.width.toNat * res.height.toNat < virtioGpuMaxHostmem.toNat := by
  have hsized := sized_invariant.reach h res hres
  have hbelow := (gpuTableOk_reach h).hostmem_below hres
  constructor
  · intro hexact
    rw [← hexact.hostmem]
    exact UInt64.lt_iff_toNat_lt.mp hbelow
  · intro hfits
    exact ⟨hsized.exact hfits, hbelow, fun r hr => hr.exact hsized hfits⟩

/-- The size and the memory of a resource. -/
def GPUSimpleResource.sizes (res : GPUSimpleResource) : UInt32 × UInt32 × UInt64 :=
  (res.width, res.height, res.hostmem)

/-- A run that leaves a resource of these sizes with a backing store. -/
theorem backed_of_run (start : GPUHistory) (as : List GPUStep) (id : UInt32)
    (x : UInt32 × UInt32 × UInt64)
    (h : (gpuMachine.run start as).map (fun s =>
      (virtioGpuCheckResource s.dev id).toOption.map GPUSimpleResource.sizes) = some (some x)) :
    ∃ s res, gpuMachine.run start as = some s ∧ virtioGpuCheckResource s.dev id = .ok res ∧
      res ∈ s.dev.resourceList ∧ res.sizes = x := by
  obtain ⟨s, hs, hcheck⟩ := Option.map_eq_some_iff.mp h
  obtain ⟨res, hres, hsizes⟩ := Option.map_eq_some_iff.mp hcheck
  have hback := toOption_eq_some.mp hres
  exact ⟨s, res, hs, hback, Table.mem_of_find (virtioGpuCheckResource_ok hback).1, hsizes⟩

/-- A picture of 16 by 16 pixels has its 1024 bytes. -/
theorem gpu_sizes_exact_small :
    ∃ s res, gpuMachine.run (gpuStart ⟨1280, 800⟩ ⟨1280, 800⟩)
        [driverCommand drmFine (createCommand 1 16 16),
          driverCommand drmFine (attachCommand 1 1024)] = some s ∧
      res ∈ s.dev.resourceList ∧ ExactSizes s.dev res := by
  obtain ⟨s, res, hs, -, hres, hsizes⟩ :=
    backed_of_run (gpuStart ⟨1280, 800⟩ ⟨1280, 800⟩)
      [driverCommand drmFine (createCommand 1 16 16),
        driverCommand drmFine (attachCommand 1 1024)] 1 (16, 16, 1024) (by decide)
  have hwidth : res.width = 16 := congrArg Prod.fst hsizes
  have hheight : res.height = 16 := congrArg (fun x => x.2.1) hsizes
  refine ⟨s, res, hs, hres, (gpu_sizes_exact_iff (Machine.reach_of_run hs) hres).mpr ?_⟩
  rw [hwidth, hheight]
  decide

/-- A picture of 2^31 + 16 by 16 pixels gets 1024 bytes, and a rectangle that ends behind it
    is accepted. -/
theorem gpu_sizes_wrap :
    ∃ s res, gpuMachine.run (gpuStart ⟨1280, 800⟩ ⟨1280, 800⟩)
        [driverCommand drmFine (createCommand 1 0x80000010 16),
          driverCommand drmFine (attachCommand 1 1024)] = some s ∧
      res ∈ s.dev.resourceList ∧ res.hostmem.toNat = 1024 ∧
      RectAccepted s.dev res ⟨0x80000010, 0, 0x80000000, 16⟩ ∧
      ¬ RectExact res ⟨0x80000010, 0, 0x80000000, 16⟩ ∧ ¬ ExactSizes s.dev res := by
  obtain ⟨s, res, hs, hback, hres, hsizes⟩ :=
    backed_of_run (gpuStart ⟨1280, 800⟩ ⟨1280, 800⟩)
      [driverCommand drmFine (createCommand 1 0x80000010 16),
        driverCommand drmFine (attachCommand 1 1024)] 1 (0x80000010, 16, 1024) (by decide)
  have hwidth : res.width = 0x80000010 := congrArg Prod.fst hsizes
  have hheight : res.height = 16 := congrArg (fun x => x.2.1) hsizes
  have hhostmem : res.hostmem = 1024 := congrArg (fun x => x.2.2) hsizes
  refine ⟨s, res, hs, hres, by rw [hhostmem]; rfl, ?_, ?_, ?_⟩
  · refine .transfer ⟨⟨0x80000010, 0, 0x80000000, 16⟩, 0, 1⟩ rfl ⟨hback, ?_⟩
    rw [hwidth, hheight]
    decide
  · intro hexact
    have hright := hexact.right
    rw [hwidth] at hright
    exact absurd hright (by decide)
  · intro hexact
    have hbytes := hexact.hostmem
    rw [hwidth, hheight, hhostmem] at hbytes
    exact absurd hbytes (by decide)

end HvisorTool
