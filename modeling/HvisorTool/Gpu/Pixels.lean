/-
  File:      HvisorTool/Gpu/Pixels.lean
  Subject:   A RECTANGLE FROM THE BACKING STORE TO THE FRAME BUFFER: `transfer_to_host_2d`
             and the flush behind it.

  The transfer keeps the rectangle and the offset, the flush copies. A rectangle as wide as
  the picture is one copy; any other goes row by row, and there 32, the bits of a pixel,
  stand for its bytes.

  * `PictureTransfer`: a picture, and a rectangle that is accepted for it;
  * `DrawSetup`: a device on which it is drawn; `transferAndFlush_eq`: the copies made;
  * `RectDrawn`: the rectangle is in the frame buffer, and nothing else has changed;
  * `rect_drawn_iff`: which transfers are drawn right on every device.
-/
import HvisorTool.Gpu.Arithmetic
import HvisorTool.Library.Stores

namespace HvisorTool

open Library

/-! ## 1. Transfers -/

/-- A picture with pixels, and a rectangle that `transfer_to_host_2d` accepts for it, with the
    offset of its data. -/
structure PictureTransfer where
  width : UInt32
  height : UInt32
  r : VirtioGpuRect
  offset : UInt64
  pixels : 0 < 4 * width.toNat * height.toNat
  fits : 4 * width.toNat * height.toNat < virtioGpuMaxHostmem.toNat
  inside : r.outside width height = false

namespace PictureTransfer

variable (t : PictureTransfer)

/-- The bytes of a row. -/
def stride : Nat := 4 * t.width.toNat

/-- The byte of the frame buffer that byte `k` of a pixel lies at. -/
def pixelByte (px py k : Nat) : Nat := py * t.stride + 4 * px + k

/-- The pixels of the rectangle. -/
def Covers (px py : Nat) : Prop :=
  (t.r.x.toNat ≤ px ∧ px < t.r.x.toNat + t.r.width.toNat) ∧
    t.r.y.toNat ≤ py ∧ py < t.r.y.toNat + t.r.height.toNat

/-- The rectangle as the data of a picture, and back: what every check and every product of
    the code comes to. -/
structure Exact : Prop where
  width_pos : 0 < t.width.toNat
  height_pos : 0 < t.height.toNat
  width_lt : t.width.toNat < 2 ^ 27
  bytes : t.stride * t.height.toNat < 2 ^ 29
  right : t.r.x.toNat + t.r.width.toNat ≤ t.width.toNat
  bottom : t.r.y.toNat + t.r.height.toNat ≤ t.height.toNat

theorem exact : t.Exact := by
  have hfits : 4 * t.width.toNat * t.height.toNat < 536870912 := t.fits
  have hpixels := t.pixels
  have hh : 0 < t.height.toNat := Nat.pos_of_mul_pos_left hpixels
  have hw : 0 < t.width.toNat := by
    have := Nat.pos_of_mul_pos_right hpixels
    omega
  have hwidth := Nat.le_mul_of_pos_right (4 * t.width.toNat) hh
  have hheight := Nat.le_mul_of_pos_left t.height.toNat (Nat.mul_pos (by decide : 0 < 4) hw)
  have hin := t.inside
  simp only [VirtioGpuRect.outside, Bool.or_eq_false_iff, decide_eq_false_iff_not, UInt32.not_lt,
    gt_iff_lt, UInt32.le_iff_toNat_le, UInt32.toNat_add] at hin
  obtain ⟨⟨⟨⟨⟨hx, hy⟩, hrw⟩, hrh⟩, hxw⟩, hyh⟩ := hin
  exact ⟨hw, hh, by omega, hfits, by omega, by omega⟩

end PictureTransfer

/-! ## 2. Drawing it -/

/-- A device with the picture on its scanout and an enabled frame buffer, a backing store that
    is mapped and long enough for the rectangle, and a flush that is accepted. -/
structure DrawSetup (t : PictureTransfer) where
  dev : GPUState
  env : GPUEnv
  resourceId : UInt32
  res : GPUSimpleResource
  iov : List Iovec
  flushRect : VirtioGpuRect
  backed : virtioGpuCheckResource dev resourceId = .ok res
  width : res.width = t.width
  height : res.height = t.height
  hostmem : res.hostmem.toNat = 4 * t.width.toNat * t.height.toNat
  onScanout : res.onScanout firstScanout = true
  enabled : (dev.scanouts firstScanout).frameBuffer.enabled = true
  mapped : (dev.scanouts firstScanout).frameBuffer.fbAddr ≠ 0 ∧
    (dev.scanouts firstScanout).frameBuffer.fbAddr ≠ mapFailed
  backing : res.iov = some iov
  backingMapped : ∀ v ∈ iov, v.iovBase ≠ 0
  backingLong : 0 < t.r.width.toNat → 0 < t.r.height.toNat →
    t.offset.toNat + (t.r.height.toNat - 1) * t.stride + 4 * t.r.width.toNat ≤ iovTotal iov
  flushInside : flushRect.outside t.width t.height = false

/-- A transfer and a flush, as the calls to the DRM device. -/
def transferAndFlush (env : GPUEnv) (dev : GPUState) (c : TransferToHost2d) (f : ResourceFlush) :
    Except GPUFault (List DrmCall) := do
  let r ← transferToHost2d dev c
  let r ← resourceFlush env r.dev f
  .ok r.calls

/-- The stores of the copies of a flush, by their offset in the frame buffer. -/
def fbStores (copies : List FbCopy) : List (Nat × UInt8) :=
  copies.flatMap fun c => Stores.run (c.dstOffset.toNat + ·) c.bytes

/-- **The rectangle is drawn**: each of its pixels holds its bytes of the backing store, and
    no other byte has changed. -/
structure RectDrawn (t : PictureTransfer) (backing : List UInt8) (fb fb' : Nat → UInt8) : Prop where
  pixel : ∀ px py k, t.Covers px py → k < 4 →
    backing[t.offset.toNat + (py - t.r.y.toNat) * t.stride + 4 * (px - t.r.x.toNat) + k]? =
      some (fb' (t.pixelByte px py k))
  frame : ∀ p, (∀ px py k, t.Covers px py → k < 4 → p ≠ t.pixelByte px py k) → fb' p = fb p

/-- The flush draws the rectangle, and stores nothing behind the picture. -/
def Draws (t : PictureTransfer) (s : DrawSetup t) : Prop :=
  ∃ fbId copies,
    transferAndFlush s.env s.dev ⟨t.r, t.offset, s.resourceId⟩ ⟨s.flushRect, s.resourceId⟩ =
        .ok [.setCrtc firstScanout fbId copies] ∧
      (∀ fb, RectDrawn t (iovBytes s.env.imageMem s.iov) fb (Stores.after fb (fbStores copies))) ∧
      ∀ st ∈ fbStores copies, st.1 < t.height.toNat * t.stride

variable {t : PictureTransfer} (s : DrawSetup t)

/-- The bytes of a row, as the code has them. -/
theorem DrawSetup.rowStride_eq : rowStride s.res = .ok (UInt32.ofNat t.stride) := by
  have hexact := t.exact
  have hne : s.res.height ≠ 0 := by
    rw [s.height]
    exact fun h => absurd hexact.height_pos (by rw [h]; decide)
  unfold rowStride
  rw [if_neg hne]
  congr 1
  refine UInt32.toNat_inj.mp ?_
  have hstride : t.stride < 2 ^ 32 := by
    have := hexact.width_lt
    unfold PictureTransfer.stride
    omega
  rw [UInt64.toNat_toUInt32, UInt64.toNat_div, UInt32.toNat_toUInt64, s.hostmem, s.height,
    Nat.mul_div_cancel _ hexact.height_pos, UInt32.toNat_ofNat_of_lt' hstride]
  exact Nat.mod_eq_of_lt hstride

/-- What the transfer leaves of a resource. -/
def PictureTransfer.keep (t : PictureTransfer) (res : GPUSimpleResource) : GPUSimpleResource :=
  { res with transferRect := t.r, transferOffset := t.offset }

/-- The resource behind the transfer. -/
def DrawSetup.transferred (s : DrawSetup t) : GPUSimpleResource := t.keep s.res

/-- The frame buffer drawn on. -/
def DrawSetup.frameBuffer (s : DrawSetup t) : GPUFrameBuffer :=
  (s.dev.scanouts firstScanout).frameBuffer

theorem copyAndFlush_eq :
    virtioGpuCopyAndFlush s.env firstScanout s.frameBuffer s.transferred =
      (copyRect s.env s.frameBuffer s.transferred (UInt32.ofNat t.stride)).map fun copies =>
        (none, [.setCrtc firstScanout s.frameBuffer.fbId copies]) := by
  have hunbacked : s.transferred.unbacked = false := (virtioGpuCheckResource_ok s.backed).2
  have hon : s.frameBuffer.enabled = true := s.enabled
  have haddr : s.frameBuffer.fbAddr ≠ 0 := s.mapped.1
  have hstride : rowStride s.transferred = .ok (UInt32.ofNat t.stride) := s.rowStride_eq
  unfold virtioGpuCopyAndFlush
  rw [if_neg (by simp [hunbacked]), if_neg (by simp [hon, haddr]), hstride]
  cases hcopies : copyRect s.env s.frameBuffer s.transferred (UInt32.ofNat t.stride) with
  | error e | ok copies => simp [hcopies, Except.map, bind, Except.bind]

/-- **A transfer and a flush make the copies of its rectangle.** -/
theorem transferAndFlush_eq :
    transferAndFlush s.env s.dev ⟨t.r, t.offset, s.resourceId⟩ ⟨s.flushRect, s.resourceId⟩ =
      (copyRect s.env s.frameBuffer s.transferred (UInt32.ofNat t.stride)).map fun copies =>
        [.setCrtc firstScanout s.frameBuffer.fbId copies] := by
  obtain ⟨hfind, hunbacked⟩ := virtioGpuCheckResource_ok s.backed
  have htransfer : transferToHost2d s.dev ⟨t.r, t.offset, s.resourceId⟩ =
      .ok (s.dev.modifyResource s.resourceId t.keep).done := by
    unfold transferToHost2d
    rw [s.backed]
    dsimp only
    rw [s.width, s.height, t.inside]
    rfl
  have hfound : virtioGpuFindResource (s.dev.modifyResource s.resourceId t.keep) s.resourceId =
      some s.transferred := find_modifyResource (fun _ => rfl) hfind
  have hcheck : virtioGpuCheckResource (s.dev.modifyResource s.resourceId t.keep) s.resourceId =
      .ok s.transferred := by
    unfold virtioGpuCheckResource
    rw [hfound]
    have hsame : s.transferred.unbacked = false := hunbacked
    exact if_neg (by simp [hsame])
  have hinside : s.flushRect.outside s.transferred.width s.transferred.height = false := by
    show s.flushRect.outside s.res.width s.res.height = false
    rw [s.width, s.height, s.flushInside]
  have honScanout : s.transferred.onScanout firstScanout = true := s.onScanout
  have henabled : s.frameBuffer.enabled = true := s.enabled
  have hpass : flushScanout s.env s.transferred firstScanout
      (s.dev.modifyResource s.resourceId t.keep).done =
        (virtioGpuCopyAndFlush s.env firstScanout s.frameBuffer s.transferred).map fun drawn =>
          (⟨(s.dev.modifyResource s.resourceId t.keep).setFrameBuffer firstScanout s.frameBuffer,
            drawn.1.or none, drawn.2⟩, true) := by
    unfold flushScanout
    rw [if_neg (by simp [honScanout])]
    have hfb : ((s.dev.modifyResource s.resourceId t.keep).done.dev.scanouts
        firstScanout).frameBuffer = s.frameBuffer := rfl
    rw [hfb, create_enabled _ henabled, henabled]
    rfl
  unfold transferAndFlush
  rw [htransfer]
  show (resourceFlush s.env (s.dev.modifyResource s.resourceId t.keep) ⟨s.flushRect, s.resourceId⟩ >>=
    fun r => .ok r.calls) = _
  unfold resourceFlush
  rw [hcheck]
  dsimp only
  rw [hinside, if_neg Bool.false_ne_true, finRange_scanouts, flushScanouts, hpass, copyAndFlush_eq]
  cases copyRect s.env s.frameBuffer s.transferred (UInt32.ofNat t.stride) with
  | error e | ok copies => rfl

/-! ## 3. The copies -/

/-- A rectangle as wide as the picture: the test of `virtio_gpu_copy_and_flush`. -/
def PictureTransfer.Wide (t : PictureTransfer) : Prop := t.r.x = 0 ∧ t.r.width = t.width

/-- One copy: the bytes of the backing store from an offset on. -/
theorem copyToFb_eq (src dst len : UInt32) (h : len.toNat = 0 ∨ src.toNat ≤ iovTotal s.iov) :
    copyToFb s.env s.frameBuffer s.transferred src dst len =
      .ok ⟨dst, ((iovBytes s.env.imageMem s.iov).drop src.toNat).take len.toNat⟩ := by
  have hiov : s.transferred.iov.getD [] = s.iov := by
    show s.res.iov.getD [] = s.iov
    rw [s.backing]
    rfl
  have haddr : s.frameBuffer.fbAddr ≠ mapFailed := s.mapped.2
  have hread : iovToBufFull s.env.imageMem s.iov src.toNat len.toNat =
      .ok (((iovBytes s.env.imageMem s.iov).drop src.toNat).take len.toNat) := by
    rcases h with hzero | hle
    · rw [hzero, iovToBufFull_zero, List.take_zero]
    · exact iovToBufFull_mapped _ (fun v hv _ => s.backingMapped v hv) hle _
  unfold copyToFb
  rw [hiov, hread]
  show (if s.frameBuffer.fbAddr = mapFailed ∧ _ then _ else _) = _
  rw [if_neg (fun hfailed => haddr hfailed.1)]

/-- The copy of a row of a rectangle that is not as wide as the picture. -/
def rowCopy (s : DrawSetup t) (row : Nat) : FbCopy :=
  ⟨(t.r.y + UInt32.ofNat row) * UInt32.ofNat t.stride + t.r.x * 32,
    ((iovBytes s.env.imageMem s.iov).drop
      (t.offset.toUInt32 + UInt32.ofNat t.stride * UInt32.ofNat row).toNat).take
        (t.r.width * 32).toNat⟩

theorem copyRect_rows (hwide : ¬ t.Wide) (h : t.r.width.toNat = 0 ∨ 2 ^ 32 ≤ iovTotal s.iov) :
    copyRect s.env s.frameBuffer s.transferred (UInt32.ofNat t.stride) =
      .ok ((List.range t.r.height.toNat).map (rowCopy s)) := by
  have htest : s.transferred.transferRect.x ≠ 0 ∨
      s.transferred.transferRect.width ≠ s.transferred.width := by
    show t.r.x ≠ 0 ∨ t.r.width ≠ s.res.width
    rw [s.width]
    by_contra hboth
    rw [not_or, not_ne_iff, not_ne_iff] at hboth
    exact hwide hboth
  unfold copyRect
  dsimp only
  rw [if_pos htest]
  refine mapM_ok fun row _ => copyToFb_eq s _ _ _ ?_
  rcases h with hzero | hlong
  · refine .inl ?_
    show (t.r.width * 32).toNat = 0
    rw [UInt32.toNat_mul, hzero]
    rfl
  · exact .inr (Nat.le_trans (Nat.le_of_lt (UInt32.toNat_lt _)) hlong)

/-- The one copy of a rectangle as wide as the picture. -/
theorem copyRect_wide (hwide : t.Wide)
    (h : t.r.height.toNat = 0 ∨ t.offset.toUInt32.toNat ≤ iovTotal s.iov) :
    ∃ dst : UInt32, dst.toNat = t.r.y.toNat * t.stride ∧
      copyRect s.env s.frameBuffer s.transferred (UInt32.ofNat t.stride) =
        .ok [⟨dst, ((iovBytes s.env.imageMem s.iov).drop t.offset.toUInt32.toNat).take
          (t.stride * t.r.height.toNat)⟩] := by
  have hexact := t.exact
  have hbytes := hexact.bytes
  have hbottom := hexact.bottom
  have hstride : (UInt32.ofNat t.stride).toNat = t.stride := by
    refine UInt32.toNat_ofNat_of_lt' ?_
    have := hexact.width_lt
    unfold PictureTransfer.stride UInt32.size
    omega
  have hrows : t.stride * t.r.height.toNat ≤ t.stride * t.height.toNat :=
    Nat.mul_le_mul_left _ (by omega)
  have habove : t.r.y.toNat * t.stride ≤ t.stride * t.height.toNat := by
    rw [Nat.mul_comm]
    exact Nat.mul_le_mul_left _ (by omega)
  have hlen : (UInt32.ofNat t.stride * t.r.height).toNat = t.stride * t.r.height.toNat := by
    rw [UInt32.toNat_mul, hstride, Nat.mod_eq_of_lt (by omega)]
  have hdst : (t.r.y * UInt32.ofNat t.stride + t.r.x * 32).toNat = t.r.y.toNat * t.stride := by
    rw [hwide.1, UInt32.zero_mul, UInt32.add_zero, UInt32.toNat_mul, hstride,
      Nat.mod_eq_of_lt (by omega)]
  have htest : ¬ (s.transferred.transferRect.x ≠ 0 ∨
      s.transferred.transferRect.width ≠ s.transferred.width) := by
    show ¬ (t.r.x ≠ 0 ∨ t.r.width ≠ s.res.width)
    rw [s.width, not_or, not_ne_iff, not_ne_iff]
    exact hwide
  refine ⟨_, hdst, ?_⟩
  have hcopy : copyToFb s.env s.frameBuffer s.transferred t.offset.toUInt32
      (t.r.y * UInt32.ofNat t.stride + t.r.x * 32) (UInt32.ofNat t.stride * t.r.height) = _ :=
    copyToFb_eq s _ _ _ (by rw [hlen]; exact h.imp (fun hzero => by rw [hzero, Nat.mul_zero]) id)
  rw [hlen] at hcopy
  unfold copyRect
  dsimp only
  rw [if_neg htest]
  show (copyToFb s.env s.frameBuffer s.transferred t.offset.toUInt32
    (t.r.y * UInt32.ofNat t.stride + t.r.x * 32) (UInt32.ofNat t.stride * t.r.height) >>= _) = _
  rw [hcopy]
  rfl

theorem draws_iff {copies : List FbCopy}
    (h : copyRect s.env s.frameBuffer s.transferred (UInt32.ofNat t.stride) = .ok copies) :
    Draws t s ↔
      (∀ fb, RectDrawn t (iovBytes s.env.imageMem s.iov) fb (Stores.after fb (fbStores copies))) ∧
        ∀ st ∈ fbStores copies, st.1 < t.height.toNat * t.stride := by
  unfold Draws
  rw [transferAndFlush_eq, h]
  constructor
  · intro hdraws
    obtain ⟨fbId, copies', heq, hdrawn, hinside⟩ := hdraws
    cases heq
    exact ⟨hdrawn, hinside⟩
  · intro hdraws
    exact ⟨_, copies, rfl, hdraws⟩

/-! ## 4. The rectangles that are drawn right -/

/-- A rectangle without a pixel: every copy is empty. -/
theorem draws_empty (h : t.r.width.toNat = 0 ∨ t.r.height.toNat = 0) : Draws t s := by
  have hnone : ∀ px py, ¬ t.Covers px py := by
    intro px py hcovers
    obtain ⟨hx, hy⟩ := hcovers
    omega
  obtain ⟨copies, hcopies, hstores⟩ : ∃ copies,
      copyRect s.env s.frameBuffer s.transferred (UInt32.ofNat t.stride) = .ok copies ∧
        fbStores copies = [] := by
    by_cases hwide : t.Wide
    · have hheight : t.r.height.toNat = 0 := by
        refine h.resolve_left ?_
        rw [hwide.2]
        exact Nat.pos_iff_ne_zero.mp t.exact.width_pos
      obtain ⟨dst, -, hcopy⟩ := copyRect_wide s hwide (.inl hheight)
      refine ⟨_, hcopy, ?_⟩
      rw [hheight, Nat.mul_zero, List.take_zero]
      rfl
    · rcases h with hwidth | hheight
      · refine ⟨_, copyRect_rows s hwide (.inl hwidth), ?_⟩
        have hlen : (t.r.width * 32).toNat = 0 := by
          rw [UInt32.toNat_mul, hwidth]
          rfl
        refine List.flatMap_eq_nil_iff.mpr fun copy hcopy => ?_
        obtain ⟨row, -, hrow⟩ := List.mem_map.mp hcopy
        rw [← hrow, rowCopy, hlen, List.take_zero]
        rfl
      · refine ⟨[], ?_, rfl⟩
        unfold copyRect
        dsimp only
        rw [if_pos (not_and_or.mp (s.width ▸ hwide))]
        show (List.range t.r.height.toNat).mapM _ = _
        rw [hheight]
        rfl
  rw [draws_iff s hcopies, hstores]
  refine ⟨fun fb => ⟨fun px py k hcovers => absurd hcovers (hnone px py), fun p _ => rfl⟩, ?_⟩
  intro st hst
  cases hst

/-- The bytes of a rectangle as wide as the picture are those of its rows. -/
theorem wide_bytes_iff (hwide : t.Wide) {p : Nat} :
    (∃ px py k, t.Covers px py ∧ k < 4 ∧ p = t.pixelByte px py k) ↔
      ∃ j < t.stride * t.r.height.toNat, p = t.r.y.toNat * t.stride + j := by
  have hx : t.r.x.toNat = 0 := by rw [hwide.1]; rfl
  have hw : t.r.width.toNat = t.width.toNat := by rw [hwide.2]
  have hpos : 0 < t.stride := Nat.mul_pos (by decide) t.exact.width_pos
  have hstride : t.stride = 4 * t.width.toNat := rfl
  constructor
  · intro h
    obtain ⟨px, py, k, ⟨⟨-, hpx⟩, hy, hpy⟩, hk, rfl⟩ := h
    obtain ⟨row, rfl⟩ := Nat.exists_eq_add_of_le hy
    have hrow : (row + 1) * t.stride ≤ t.r.height.toNat * t.stride :=
      Nat.mul_le_mul_right _ (by omega)
    rw [Nat.add_mul, Nat.one_mul, Nat.mul_comm t.r.height.toNat] at hrow
    refine ⟨row * t.stride + 4 * px + k, by omega, ?_⟩
    unfold PictureTransfer.pixelByte
    rw [Nat.add_mul]
    omega
  · intro h
    obtain ⟨j, hj, rfl⟩ := h
    have hrow : j / t.stride < t.r.height.toNat := Nat.div_lt_of_lt_mul hj
    have hcol : j % t.stride < t.stride := Nat.mod_lt _ hpos
    refine ⟨j % t.stride / 4, t.r.y.toNat + j / t.stride, j % t.stride % 4,
      ⟨⟨by omega, by omega⟩, Nat.le_add_right _ _, Nat.add_lt_add_left hrow _⟩, by omega, ?_⟩
    unfold PictureTransfer.pixelByte
    have hsplit := Nat.div_add_mod j t.stride
    rw [Nat.mul_comm] at hsplit
    rw [Nat.add_mul]
    omega

/-- The backing store has the data of all rows. -/
theorem wide_backing (hwide : t.Wide) (hheight : t.r.height.toNat ≠ 0) :
    t.offset.toNat + t.stride * t.r.height.toNat ≤ iovTotal s.iov := by
  have hexact := t.exact
  have hw : t.r.width.toNat = t.width.toNat := by rw [hwide.2]
  have hlast := s.backingLong (hw ▸ hexact.width_pos) (Nat.pos_of_ne_zero hheight)
  obtain ⟨rows, hrows⟩ := Nat.exists_eq_succ_of_ne_zero hheight
  rw [hrows, Nat.succ_sub_one, hw] at hlast
  rw [hrows, Nat.mul_succ, Nat.mul_comm]
  exact Nat.le_trans (Nat.le_of_eq (Nat.add_assoc _ _ _).symm) hlast

/-- **A rectangle as wide as the picture is drawn right**, if its offset fits 32 bits. -/
theorem draws_wide (hwide : t.Wide) (hoffset : t.offset.toNat < 2 ^ 32) : Draws t s := by
  have hexact := t.exact
  have hx : t.r.x.toNat = 0 := by rw [hwide.1]; rfl
  by_cases hheight : t.r.height.toNat = 0
  · exact draws_empty s (.inr hheight)
  have hoff : t.offset.toUInt32.toNat = t.offset.toNat := by
    rw [UInt64.toNat_toUInt32, Nat.mod_eq_of_lt hoffset]
  have hlong := wide_backing s hwide hheight
  obtain ⟨dst, hdst, hcopy⟩ := copyRect_wide s hwide (.inr (by omega))
  have hget : ∀ j < t.stride * t.r.height.toNat,
      (((iovBytes s.env.imageMem s.iov).drop t.offset.toUInt32.toNat).take
        (t.stride * t.r.height.toNat))[j]? =
      (iovBytes s.env.imageMem s.iov)[t.offset.toNat + j]? := by
    intro j hj
    rw [List.getElem?_take_of_lt hj, List.getElem?_drop, hoff]
  have hstores : ∀ st, st ∈ fbStores [⟨dst, ((iovBytes s.env.imageMem s.iov).drop
      t.offset.toUInt32.toNat).take (t.stride * t.r.height.toNat)⟩] →
      ∃ j < t.stride * t.r.height.toNat, st.1 = t.r.y.toNat * t.stride + j := by
    intro st hst
    rw [fbStores, List.flatMap_singleton, Stores.mem_run_iff, hdst] at hst
    obtain ⟨j, hj, hst⟩ := hst
    have hlt := (List.getElem?_eq_some_iff.mp hj).1
    rw [List.length_take] at hlt
    exact ⟨j, Nat.lt_of_lt_of_le hlt (Nat.min_le_left _ _), hst⟩
  rw [draws_iff s hcopy]
  refine ⟨fun fb => ⟨?_, ?_⟩, ?_⟩
  · intro px py k hcovers hk
    obtain ⟨j, hj, hp⟩ := (wide_bytes_iff hwide).mp ⟨px, py, k, hcovers, hk, rfl⟩
    have hindex : t.offset.toNat + (py - t.r.y.toNat) * t.stride + 4 * (px - t.r.x.toNat) + k =
        t.offset.toNat + j := by
      obtain ⟨row, rfl⟩ := Nat.exists_eq_add_of_le hcovers.2.1
      unfold PictureTransfer.pixelByte at hp
      rw [Nat.add_mul] at hp
      rw [Nat.add_sub_cancel_left, hx]
      omega
    rw [hindex, hp]
    have hin : t.offset.toNat + j < (iovBytes s.env.imageMem s.iov).length := by
      rw [iovBytes_length]
      omega
    obtain ⟨b, hb⟩ : ∃ b, (iovBytes s.env.imageMem s.iov)[t.offset.toNat + j]? = some b :=
      ⟨_, List.getElem?_eq_getElem hin⟩
    rw [hb]
    congr 1
    rw [fbStores, List.flatMap_singleton, ← hdst]
    exact (Stores.after_run (fun i _ h => Nat.add_left_cancel h) ((hget j hj).trans hb)).symm
  · intro p hp
    refine Stores.after_of_notMem fun st hst heq => ?_
    obtain ⟨px, py, k, hcovers, hk, hbyte⟩ := (wide_bytes_iff hwide).mpr (hstores st hst)
    exact hp px py k hcovers hk (heq ▸ hbyte)
  · intro st hst
    obtain ⟨j, hj, hst⟩ := hstores st hst
    have hbottom : (t.r.y.toNat + t.r.height.toNat) * t.stride ≤ t.height.toNat * t.stride :=
      Nat.mul_le_mul_right _ hexact.bottom
    rw [Nat.add_mul, Nat.mul_comm t.r.height.toNat] at hbottom
    omega

/-! ## 5. The rectangles that are not -/

/-- The picture, backed by the buffers. -/
def pictureBacked (t : PictureTransfer) (iov : List Iovec) : GPUSimpleResource :=
  { resourceId := 1, width := t.width, height := t.height, format := 1, iov := some iov
    iovCnt := iov.length, hostmem := UInt64.ofNat (4 * t.width.toNat * t.height.toNat)
    scanoutBitmask := 1, transferRect := ⟨0, 0, 0, 0⟩, transferOffset := 0 }

/-- The picture on the first scanout, in an enabled frame buffer of its size. -/
def pictureShown (t : PictureTransfer) (iov : List Iovec) : GPUState :=
  { scanouts := fun _ => ⟨t.width, t.height, 0, 0, 1,
      { fbId := 1, format := 1, bytesPp := 4, width := t.width, height := t.height
        stride := UInt32.ofNat t.stride, offset := 0
        drmDumbSize := UInt32.ofNat (4 * t.width.toNat * t.height.toNat), drmDumbHandle := 1
        fbAddr := 0x10000, enabled := true }⟩
    requestedStates := fun _ => ⟨t.width, t.height⟩
    resourceList := [pictureBacked t iov]
    scanoutsNum := 1
    hostmem := UInt64.ofNat (4 * t.width.toNat * t.height.toNat)
    enabledScanoutBitmask := 1
    scanoutsNum_le := Nat.le_refl 1 }

/-- A backing store of two buffers; what the rectangle takes starts with the second. -/
def twoBuffers (t : PictureTransfer) : List Iovec := [⟨1, t.offset⟩, ⟨0x200000000, 0x200000000⟩]

theorem iovTotal_twoBuffers (t : PictureTransfer) :
    iovTotal (twoBuffers t) = t.offset.toNat + 2 ^ 33 := by
  simp [iovTotal, twoBuffers]

theorem pictureBacked_hostmem (t : PictureTransfer) (iov : List Iovec) :
    (pictureBacked t iov).hostmem.toNat = 4 * t.width.toNat * t.height.toNat := by
  refine UInt64.toNat_ofNat_of_lt' ?_
  have : 4 * t.width.toNat * t.height.toNat < 536870912 := t.fits
  simp only [UInt64.size]
  omega

theorem pictureBacked_unbacked (t : PictureTransfer) (iov : List Iovec) :
    (pictureBacked t iov).unbacked = false := by
  have hne : (pictureBacked t iov).hostmem ≠ 0 := by
    intro hzero
    have hpixels := t.pixels
    rw [← pictureBacked_hostmem t iov, hzero] at hpixels
    exact absurd hpixels (by decide)
  rw [GPUSimpleResource.unbacked, Bool.or_eq_false_iff]
  exact ⟨rfl, beq_eq_false_iff_ne.mpr hne⟩

/-- The picture is drawn from a memory. -/
def drawFrom (t : PictureTransfer) (mem : Mem) : DrawSetup t :=
  { dev := pictureShown t (twoBuffers t)
    env := { driverEnv drmFine [] with imageMem := mem }
    resourceId := 1
    res := pictureBacked t (twoBuffers t)
    iov := twoBuffers t
    flushRect := t.r
    backed := by
      show (if (pictureBacked t (twoBuffers t)).unbacked = true then _ else _) = _
      rw [pictureBacked_unbacked]
      rfl
    width := rfl
    height := rfl
    hostmem := pictureBacked_hostmem t _
    onScanout := show (1 &&& scanoutBit firstScanout != 0) = true by decide
    enabled := rfl
    mapped := ⟨show (0x10000 : UInt64) ≠ 0 by decide, show (0x10000 : UInt64) ≠ mapFailed by decide⟩
    backing := rfl
    backingMapped := by
      intro v hv
      simp only [twoBuffers, List.mem_cons, List.not_mem_nil, or_false] at hv
      rcases hv with rfl | rfl
      · show (1 : UInt64) ≠ 0
        decide
      · show (0x200000000 : UInt64) ≠ 0
        decide
    backingLong := by
      intro _ hrows
      have hexact := t.exact
      have hbytes := hexact.bytes
      have hright := hexact.right
      have hwidth := hexact.width_lt
      have hle : (t.r.height.toNat - 1) * t.stride ≤ t.stride * t.height.toNat := by
        rw [Nat.mul_comm]
        exact Nat.mul_le_mul_left _ (by have := hexact.bottom; omega)
      rw [iovTotal_twoBuffers]
      omega
    flushInside := t.inside }

/-- The last byte of the last row copied. -/
def PictureTransfer.lastCopied (t : PictureTransfer) : Nat :=
  (t.r.y.toNat + (t.r.height.toNat - 1)) * t.stride + 32 * (t.r.x.toNat + t.r.width.toNat) - 1

theorem lastCopied_outside (t : PictureTransfer)
    {px py k : Nat} (hcovers : t.Covers px py) (hk : k < 4) : t.lastCopied ≠ t.pixelByte px py k := by
  obtain ⟨⟨-, hpx⟩, -, hpy⟩ := hcovers
  have hrow : py * t.stride ≤ (t.r.y.toNat + (t.r.height.toNat - 1)) * t.stride :=
    Nat.mul_le_mul_right _ (by omega)
  unfold PictureTransfer.lastCopied PictureTransfer.pixelByte
  omega

/-- No product or sum of the row path leaves 32 bits. -/
theorem rowCopy_exact {row : Nat} (hrow : row < t.r.height.toNat) :
    (rowCopy s row).dstOffset.toNat = (t.r.y.toNat + row) * t.stride + 32 * t.r.x.toNat ∧
      (t.r.width * 32).toNat = 32 * t.r.width.toNat := by
  have hexact := t.exact
  have hbytes := hexact.bytes
  have hbottom := hexact.bottom
  have hright := hexact.right
  have hwidth := hexact.width_lt
  have hstride : t.stride = 4 * t.width.toNat := rfl
  have hrows : (t.r.y.toNat + row) * t.stride + t.stride ≤ t.stride * t.height.toNat := by
    rw [← Nat.succ_mul, Nat.mul_comm]
    exact Nat.mul_le_mul_left _ (by omega)
  have hheight : t.height.toNat ≤ t.stride * t.height.toNat := by
    refine Nat.le_mul_of_pos_left _ ?_
    have := hexact.width_pos
    omega
  have hofStride : (UInt32.ofNat t.stride).toNat = t.stride := by
    refine UInt32.toNat_ofNat_of_lt' ?_
    simp only [UInt32.size]
    omega
  have hofRow : (UInt32.ofNat row).toNat = row := by
    refine UInt32.toNat_ofNat_of_lt' ?_
    simp only [UInt32.size]
    omega
  have h32 : (32 : UInt32).toNat = 32 := rfl
  constructor
  · unfold rowCopy
    rw [UInt32.toNat_add, UInt32.toNat_mul, UInt32.toNat_add, UInt32.toNat_mul, hofStride, hofRow,
      h32, Nat.mod_eq_of_lt (a := t.r.y.toNat + row) (by omega),
      Nat.mod_eq_of_lt (a := (t.r.y.toNat + row) * t.stride) (by omega),
      Nat.mod_eq_of_lt (a := t.r.x.toNat * 32) (by omega), Nat.mul_comm t.r.x.toNat,
      Nat.mod_eq_of_lt (by omega)]
  · rw [UInt32.toNat_mul, h32, Nat.mul_comm, Nat.mod_eq_of_lt (by omega)]

theorem iovBytes_const (b : UInt8) (iov : List Iovec) :
    iovBytes (fun _ => b) iov = List.replicate (iovTotal iov) b := by
  refine List.eq_replicate_iff.mpr ⟨iovBytes_length _ _, ?_⟩
  intro c hc
  obtain ⟨v, -, hv⟩ := List.mem_flatMap.mp hc
  obtain ⟨k, -, hk⟩ := List.mem_map.mp hv
  exact hk.symm

/-- **The rows of a narrower rectangle are copied eight times too wide.** -/
theorem not_draws_rows (hwide : ¬ t.Wide) (hw : 0 < t.r.width.toNat) (hh : 0 < t.r.height.toNat) :
    ¬ Draws t (drawFrom t fun _ => 0xff) := by
  intro hdraws
  have hlong : 2 ^ 32 ≤ iovTotal (drawFrom t fun _ => 0xff).iov := by
    show _ ≤ iovTotal (twoBuffers t)
    rw [iovTotal_twoBuffers]
    omega
  rw [draws_iff _ (copyRect_rows _ hwide (.inr hlong))] at hdraws
  have hkept := (hdraws.1 fun _ => 0).frame t.lastCopied fun px py k hcovers hk =>
    lastCopied_outside t hcovers hk
  obtain ⟨hdst, hlen⟩ := rowCopy_exact (drawFrom t fun _ => 0xff) (Nat.sub_one_lt_of_lt hh)
  -- every byte copied is 0xff, and the last byte of the last row is copied to
  have hrow : ∀ row < t.r.height.toNat, (rowCopy (drawFrom t fun _ => 0xff) row).bytes =
      List.replicate (32 * t.r.width.toNat) 0xff := by
    intro row _
    show List.take _ (List.drop _ (iovBytes (fun _ => 0xff) (twoBuffers t))) = _
    rw [iovBytes_const, List.drop_replicate, List.take_replicate, hlen, iovTotal_twoBuffers]
    congr 1
    refine Nat.min_eq_left ?_
    have hsrc := UInt32.toNat_lt (t.offset.toUInt32 + UInt32.ofNat t.stride * UInt32.ofNat row)
    have hwidth := UInt32.toNat_lt (t.r.width * 32)
    omega
  have hmem : (t.lastCopied, (0xff : UInt8)) ∈
      fbStores ((List.range t.r.height.toNat).map (rowCopy (drawFrom t fun _ => 0xff))) := by
    refine List.mem_flatMap.mpr ⟨rowCopy (drawFrom t fun _ => 0xff) (t.r.height.toNat - 1),
      List.mem_map.mpr ⟨_, List.mem_range.mpr (by omega), rfl⟩, ?_⟩
    refine Stores.mem_run_iff.mpr ⟨32 * t.r.width.toNat - 1, ?_, ?_⟩
    · rw [hrow _ (by omega), List.getElem?_replicate_of_lt (by omega)]
    · rw [hdst]
      unfold PictureTransfer.lastCopied
      show _ = _ + _
      omega
  have hstored := Stores.after_mem (m := fun _ => (0 : UInt8)) ⟨_, hmem, rfl⟩
  rw [hkept] at hstored
  obtain ⟨copy, hcopy, hst⟩ := List.mem_flatMap.mp hstored
  obtain ⟨row, hmemrow, rfl⟩ := List.mem_map.mp hcopy
  obtain ⟨j, hj, -⟩ := Stores.mem_run_iff.mp hst
  rw [hrow row (List.mem_range.mp hmemrow)] at hj
  have hvalue : (0 : UInt8) = 0xff := List.eq_of_mem_replicate (List.mem_of_getElem? hj)
  exact absurd hvalue (by decide)

theorem readBytes_get (mem : Mem) (a : UInt64) {i n : Nat} (h : i < n) :
    (readBytes mem a n)[i]? = some (mem (a + UInt64.ofNat i)) := by
  rw [readBytes, List.getElem?_map, List.getElem?_range h]
  rfl

/-- A byte set where the second buffer starts. -/
def secondSet : Mem := fun a => if a = 0x200000000 then 0xff else 0

theorem iovBytes_twoBuffers (mem : Mem) :
    iovBytes mem (twoBuffers t) =
      readBytes mem 1 t.offset.toNat ++ readBytes mem 0x200000000 (2 ^ 33) := by
  unfold iovBytes twoBuffers
  rw [List.flatMap_cons, List.flatMap_cons, List.flatMap_nil, List.append_nil]
  congr 1

/-- **An offset of more than 32 bits is cut**: other data is drawn. -/
theorem not_draws_offset (hwide : t.Wide) (hh : 0 < t.r.height.toNat)
    (hoffset : 2 ^ 32 ≤ t.offset.toNat) : ¬ Draws t (drawFrom t secondSet) := by
  intro hdraws
  have hcut : t.offset.toUInt32.toNat < 2 ^ 32 := UInt32.toNat_lt _
  have hiov : (drawFrom t secondSet).iov = twoBuffers t := rfl
  have hsrc : t.offset.toUInt32.toNat ≤ iovTotal (drawFrom t secondSet).iov := by
    rw [hiov, iovTotal_twoBuffers]
    omega
  obtain ⟨dst, hdst, hcopy⟩ := copyRect_wide _ hwide (.inr hsrc)
  rw [draws_iff _ hcopy] at hdraws
  have hx : t.r.x.toNat = 0 := by rw [hwide.1]; rfl
  have hw : t.r.width.toNat = t.width.toNat := by rw [hwide.2]
  have hpos := t.exact.width_pos
  have hpixel := (hdraws.1 fun _ => 0).pixel 0 t.r.y.toNat 0 ⟨⟨by omega, by omega⟩, by omega, by omega⟩
    (by decide)
  have hbytes : iovBytes (drawFrom t secondSet).env.imageMem (drawFrom t secondSet).iov = _ :=
    iovBytes_twoBuffers secondSet
  -- the data asked for, and the data copied
  have hwanted : (iovBytes (drawFrom t secondSet).env.imageMem (drawFrom t secondSet).iov)[t.offset.toNat]? =
      some 0xff := by
    rw [hbytes, List.getElem?_append_right (by rw [readBytes_length]), readBytes_length,
      Nat.sub_self, readBytes_get _ _ (by decide)]
    rfl
  have hcopied : (((iovBytes (drawFrom t secondSet).env.imageMem (drawFrom t secondSet).iov).drop
      t.offset.toUInt32.toNat).take (t.stride * t.r.height.toNat))[0]? = some 0 := by
    have hsome : 0 < t.stride * t.r.height.toNat := Nat.mul_pos (Nat.mul_pos (by decide) hpos) hh
    rw [List.getElem?_take_of_lt hsome, List.getElem?_drop, hbytes, Nat.add_zero, List.getElem?_append_left (by rw [readBytes_length]; omega),
      readBytes_get _ _ (by omega)]
    congr 1
    refine if_neg fun heq => ?_
    have hnat := congrArg UInt64.toNat heq
    rw [UInt64.toNat_add, toNat_ofNat64 (by omega)] at hnat
    have hone : (1 : UInt64).toNat = 1 := rfl
    have hsecond : (0x200000000 : UInt64).toNat = 2 ^ 33 := rfl
    rw [hone, hsecond] at hnat
    omega
  have hvalue : Stores.after (fun _ => (0 : UInt8)) (Stores.run (dst.toNat + ·) _) (dst.toNat + 0) =
      0 := Stores.after_run (fun i _ h => Nat.add_left_cancel h) hcopied
  have hbyte : t.pixelByte 0 t.r.y.toNat 0 = dst.toNat + 0 := by
    rw [hdst]
    rfl
  rw [Nat.sub_self, Nat.zero_mul, Nat.zero_sub, Nat.mul_zero, Nat.add_zero, hwanted, fbStores,
    List.flatMap_singleton, hbyte, hvalue] at hpixel
  exact absurd (Option.some.inj hpixel) (by decide)

/-! ## 6. Which transfers are drawn right -/

/-- **The flush draws a rectangle right, on every device, exactly if it has no pixel, or is as
    wide as the picture with an offset of 32 bits.** -/
theorem rect_drawn_iff (t : PictureTransfer) :
    (∀ s : DrawSetup t, Draws t s) ↔
      t.r.width = 0 ∨ t.r.height = 0 ∨
        (t.r.x = 0 ∧ t.r.width = t.width ∧ t.offset.toNat < 2 ^ 32) := by
  constructor
  · intro hdraws
    by_cases hw : t.r.width = 0
    · exact .inl hw
    by_cases hh : t.r.height = 0
    · exact .inr (.inl hh)
    have hwidth : 0 < t.r.width.toNat :=
      Nat.pos_of_ne_zero fun hzero => hw (UInt32.toNat_inj.mp hzero)
    have hheight : 0 < t.r.height.toNat :=
      Nat.pos_of_ne_zero fun hzero => hh (UInt32.toNat_inj.mp hzero)
    by_cases hwide : t.Wide
    · refine .inr (.inr ⟨hwide.1, hwide.2, Nat.not_le.mp fun hoffset => ?_⟩)
      exact not_draws_offset hwide hheight hoffset (hdraws _)
    · exact absurd (hdraws _) (not_draws_rows hwide hwidth hheight)
  · intro h s
    rcases h with hw | hh | ⟨hx, hw, hoffset⟩
    · exact draws_empty s (.inl (by rw [hw]; rfl))
    · exact draws_empty s (.inr (by rw [hh]; rfl))
    · exact draws_wide s ⟨hx, hw⟩ hoffset

/-- The middle of a picture of 16 by 16 pixels. -/
def middleOfPicture : PictureTransfer :=
  ⟨16, 16, ⟨4, 4, 8, 8⟩, 0, by decide, by decide, by decide⟩

/-- A rectangle in the middle of a small picture is not drawn right. -/
theorem middle_not_drawn : ∃ s : DrawSetup middleOfPicture, ¬ Draws middleOfPicture s :=
  ⟨_, not_draws_rows (fun hwide => absurd hwide.1 (by decide)) (by decide) (by decide)⟩

end HvisorTool
