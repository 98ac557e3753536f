/-
  File:      HvisorTool/Mmio/Features.lean
  Subject:   FEATURE NEGOTIATION: `drv_feature`, or-ed together by the writes to
             `DRIVER_FEATURES`, and the event-index mode that it switches on.

  The word should be what the driver asked for since the last reset and the device
  offers. The code keeps the word and the half selector over a reset, takes bits that
  are not offered, and takes the upper half of a value written for the lower one.

  * `Negotiation`, `negotiated`: what the driver asked for since the last reset, and
    what the word should be;
  * `FeaturesOk`: the word is that, and a queue is in event-index mode only if it has the bit;
  * `FeatureSteps`: the condition on each access, on the value written and the state before it;
  * `features_negotiated_iff`: exactly the sequences that meet it keep the word right
    throughout, and among these nothing written before a reset matters behind it.
-/
import HvisorTool.Library.Bits
import HvisorTool.Mmio.Log

namespace HvisorTool

open Library

variable {δ : Type}

/-! ## 1. What the driver asked for -/

/-- The half that the driver selected since the last reset, and the union of the values
    it wrote, each in its half. -/
structure Negotiation where
  high : Bool
  word : UInt64
  deriving DecidableEq, Repr

def Negotiation.start : Negotiation := { high := false, word := 0 }

def Negotiation.after (n : Negotiation) : MmioAccess → Negotiation
  | .read _ _ => n
  | .write offset value size _ =>
    match selectedReg offset size with
    | some .driverFeaturesSel => { n with high := value != 0 }
    | some .driverFeatures => { n with word := n.word ||| halfWord n.high value }
    | some .status => if value.toUInt32 = 0 then .start else n
    | _ => n

def negotiate (as : List MmioAccess) : Negotiation := as.foldl Negotiation.after .start

/-- What the feature word should be after the accesses, for a device that offers
    `devFeature`. -/
def negotiated (devFeature : UInt64) (as : List MmioAccess) : UInt64 :=
  (negotiate as).word &&& devFeature

/-- The feature word after `as` is what it should be, and no queue is in event-index mode
    without the bit. -/
structure FeaturesOk (d : VirtIODevice δ) (as : List MmioAccess) : Prop where
  word : d.regs.drvFeature = negotiated d.regs.devFeature as
  eventIdx : ∀ vq ∈ d.vqs, vq.eventIdxEnabled ≠ 0 →
    negotiated d.regs.devFeature as &&& ringFEventIdx ≠ 0

/-! ## 2. The condition -/

/-- The condition on a value written to `DRIVER_FEATURES`, for a driver that selected the
    half `high` since the last reset. -/
def FeatureWriteOk (regs : VirtMmioRegs) (high : Bool) (value : UInt64) : Prop :=
  if (regs.drvFeatureSel != 0) = high then
    -- every bit that is new is offered and lies in the selected half
    Within (shiftedWord high value) (regs.drvFeature ||| (regs.devFeature &&& halfMask high))
  else
    -- the selector is left from before the reset: no bit may be new in either half
    Within (value <<< 32) regs.drvFeature ∧
      Within (value &&& 0xffffffff &&& regs.devFeature) regs.drvFeature

/-- The condition on one access. A reset may come only while no feature is accepted. -/
def FeatureStepOk (regs : VirtMmioRegs) (n : Negotiation) : MmioAccess → Prop
  | .read _ _ => True
  | .write offset value size _ =>
    match selectedReg offset size with
    | some .driverFeatures => FeatureWriteOk regs n.high value
    | some .status => value.toUInt32 = 0 → regs.drvFeature = 0
    | _ => True

/-- Every access of a sequence meets the condition. -/
def FeatureSteps (ops : VirtioDeviceOps δ) (zm : ZoneTable) :
    VirtIODevice δ → Negotiation → List MmioAccess → Prop
  | _, _, [] => True
  | d, n, a :: as =>
    FeatureStepOk d.regs n a ∧ FeatureSteps ops zm (mmioAccess ops zm d a).1 (n.after a) as

/-! ## 3. The feature word -/

/-- The driver's selection since the last reset is also the register's. -/
def SelFollows (regs : VirtMmioRegs) (n : Negotiation) : Prop :=
  n.high = true → (regs.drvFeatureSel != 0) = true

/-- The word that the code makes is the word it should make exactly under the condition. -/
theorem acceptFeatures_iff {regs : VirtMmioRegs} {n : Negotiation} (hsel : SelFollows regs n)
    (value : UInt64) :
    regs.acceptFeatures value = regs.drvFeature ||| (halfWord n.high value &&& regs.devFeature) ↔
      FeatureWriteOk regs n.high value := by
  have haccept : regs.acceptFeatures value =
      regs.drvFeature ||| shiftedWord (regs.drvFeatureSel != 0) value := by
    unfold VirtMmioRegs.acceptFeatures shiftedWord
    split <;> rfl
  rw [haccept, or_eq_or_iff]
  unfold FeatureWriteOk
  by_cases hs : (regs.drvFeatureSel != 0) = n.high
  · have hin : Within (halfWord n.high value &&& regs.devFeature)
        (regs.drvFeature ||| shiftedWord n.high value) := by
      rw [halfWord_eq, UInt64.and_assoc]
      exact within_or_right (and_within ..) _
    rw [if_pos hs, hs, and_iff_left hin, halfWord_eq, UInt64.and_assoc, within_or_and_iff,
      UInt64.and_comm (halfMask _)]
  · -- the register has the upper half selected, the driver has not since the reset
    have hhigh : n.high = false := by
      cases hh : n.high with
      | false => rfl
      | true => exact absurd ((hsel hh).trans hh.symm) hs
    have hreg : (regs.drvFeatureSel != 0) = true := by
      rw [hhigh] at hs
      exact Bool.not_eq_false _ ▸ hs
    have hdisj : value <<< 32 &&& (halfWord false value &&& regs.devFeature) = 0 := by
      rw [← halfWord_true, ← UInt64.and_assoc, halfWord_disjoint, UInt64.zero_and]
    rw [if_neg hs, hreg, hhigh]
    change Within (value <<< 32) (_ ||| (halfWord false value &&& regs.devFeature)) ∧
      Within (halfWord false value &&& regs.devFeature) (_ ||| (value <<< 32)) ↔ _
    rw [within_or_of_disjoint hdisj, within_or_of_disjoint (UInt64.and_comm _ _ ▸ hdisj)]
    rfl

section Step

variable (ops : VirtioDeviceOps δ) (zm : ZoneTable) {d : VirtIODevice δ} {n : Negotiation}

theorem devFeature_mmioAccess (a : MmioAccess) :
    (mmioAccess ops zm d a).1.regs.devFeature = d.regs.devFeature := by
  rw [regs_mmioAccess]
  cases a with
  | read offset size => rfl
  | write offset value size ret =>
    dsimp only
    cases selectedReg offset size with
    | none => rfl
    | some r => cases r <;> rfl

theorem SelFollows.access (h : SelFollows d.regs n) (a : MmioAccess) :
    SelFollows (mmioAccess ops zm d a).1.regs (n.after a) := by
  rw [regs_mmioAccess]
  cases a with
  | read offset size => exact h
  | write offset value size ret =>
    simp only [Negotiation.after]
    cases selectedReg offset size with
    | none => exact h
    | some r =>
      cases r with
      | driverFeaturesSel =>
        intro hv
        have hv' : (value != 0) = true := hv
        simp only [regsAfter, hv', if_true]
        rfl
      | status =>
        dsimp only
        split
        · intro hv
          exact absurd hv Bool.false_ne_true
        · exact h
      | _ => exact h

/-- **One access keeps the feature word right exactly under the condition.** -/
theorem featureStep_iff (hsel : SelFollows d.regs n)
    (hword : d.regs.drvFeature = n.word &&& d.regs.devFeature) (a : MmioAccess) :
    (mmioAccess ops zm d a).1.regs.drvFeature = (n.after a).word &&& d.regs.devFeature ↔
      FeatureStepOk d.regs n a := by
  rw [regs_mmioAccess]
  cases a with
  | read offset size => exact iff_true_intro hword
  | write offset value size ret =>
    simp only [Negotiation.after, FeatureStepOk]
    cases selectedReg offset size with
    | none => exact iff_true_intro hword
    | some r =>
      cases r with
      | driverFeatures =>
        simp only [regsAfter, or_and_word, ← hword]
        exact acceptFeatures_iff hsel value
      | status =>
        dsimp only [regsAfter]
        by_cases hv : value.toUInt32 = 0
        · rw [if_pos hv]
          simp only [hv, true_imp_iff, Negotiation.start, UInt64.zero_and]
        · rw [if_neg hv]
          exact iff_of_true hword fun h => absurd h hv
      | _ => exact iff_true_intro hword

end Step

/-! ## 4. The event-index mode -/

/-- The modes of all queues. -/
def VirtIODevice.eventIdxs (d : VirtIODevice δ) : List UInt8 := d.vqs.map (·.eventIdxEnabled)

/-- A queue is in event-index mode only if the feature word has the bit. -/
def EventIdxBacked (d : VirtIODevice δ) : Prop :=
  ∀ e ∈ d.eventIdxs, e ≠ 0 → d.regs.drvFeature &&& ringFEventIdx ≠ 0

theorem eventIdxs_runHook (h : Option (DeviceHook δ)) (d : VirtIODevice δ) :
    (runHook h d).eventIdxs = d.eventIdxs := by
  cases h with
  | none => rfl
  | some h =>
    have hset := congrArg (List.map VirtQueue.eventIdxEnabled) (h.vqs d)
    rw [List.map_map, List.map_map] at hset
    exact hset

theorem eventIdxs_modifyVq (d : VirtIODevice δ) (i : Int) {f : VirtQueue → VirtQueue}
    (hf : ∀ vq, (f vq).eventIdxEnabled = vq.eventIdxEnabled) :
    (d.modifyVq i f).eventIdxs = d.eventIdxs := by
  unfold VirtIODevice.eventIdxs VirtIODevice.modifyVq
  dsimp only
  split
  · refine List.ext_getElem? fun k => ?_
    rw [List.getElem?_map, List.getElem?_map, List.getElem?_modify]
    cases d.vqs[k]? with
    | none => rfl
    | some vq =>
      simp only [Option.map_some]
      split
      · exact congrArg some (hf vq)
      · rfl
  · rfl

theorem eventIdxs_virtioDevReset (ops : VirtioDeviceOps δ) (d : VirtIODevice δ) (ret : Int) :
    ∀ e ∈ (virtioDevReset ops d ret).1.eventIdxs, e = 0 := by
  intro e he
  simp only [virtioDevReset, VirtIODevice.eventIdxs, VirtIODevice.mapVqs, List.mem_map,
    List.mem_mapIdx] at he
  obtain ⟨vq, ⟨i, hi, rfl⟩, rfl⟩ := he
  rfl

/-- What a write does to the modes: nothing, or it clears them all, or it comes with the bit. -/
theorem eventIdxs_writeReg (ops : VirtioDeviceOps δ) (zm : ZoneTable) (d : VirtIODevice δ)
    (value : UInt64) (ret : Int) (r : MmioReg) :
    (writeReg ops zm d value ret r).1.eventIdxs = d.eventIdxs ∨
      (∀ e ∈ (writeReg ops zm d value ret r).1.eventIdxs, e = 0) ∨
      (writeReg ops zm d value ret r).1.regs.drvFeature &&& ringFEventIdx ≠ 0 := by
  by_cases hq : r.ofQueue = true
  · refine .inl ?_
    rw [writeReg_ofQueue ops zm d value ret hq]
    exact eventIdxs_modifyVq d d.sel fun vq => by cases r <;> rfl
  · cases r with
    | queueNum | queueReady | queueDescLow | queueDescHigh | queueAvailLow | queueAvailHigh
    | queueUsedLow | queueUsedHigh => exact absurd rfl hq
    | driverFeatures =>
      simp only [writeReg, writeDriverFeatures]
      split
      · next hbit => exact .inr (.inr (bne_iff_ne.mp hbit))
      · exact .inl rfl
    | queueNotify =>
      simp only [writeReg, writeQueueNotify]
      split
      · exact .inl (eventIdxs_runHook ..)
      · exact .inl rfl
    | status =>
      simp only [writeReg, writeStatus, eventIdxs_runHook]
      split
      · exact .inr (.inl (eventIdxs_virtioDevReset _ _ _))
      · exact .inl rfl
    | _ => exact .inl rfl

/-- The feature word only grows. -/
theorem drvFeature_regsAfter (regs : VirtMmioRegs) (value : UInt64) (r : MmioReg) :
    Within regs.drvFeature (regsAfter regs value r).drvFeature := by
  have hself : Within regs.drvFeature regs.drvFeature := within_iff.mpr fun _ _ h => h
  cases r with
  | driverFeatures =>
    simp only [regsAfter, VirtMmioRegs.acceptFeatures]
    split <;> rw [UInt64.or_comm] <;> exact within_or_right hself _
  | _ => exact hself

variable {d : VirtIODevice δ}

theorem EventIdxBacked.access (h : EventIdxBacked d) (ops : VirtioDeviceOps δ) (zm : ZoneTable)
    (a : MmioAccess) : EventIdxBacked (mmioAccess ops zm d a).1 := by
  cases a with
  | read offset size => exact h
  | write offset value size ret =>
    simp only [mmioAccess, virtioMmioWrite_eq]
    cases selectedReg offset size with
    | none => exact h
    | some r =>
      intro e he hne
      rcases eventIdxs_writeReg ops zm d value ret r with hsame | hzero | hbit
      · have hgrow := drvFeature_regsAfter d.regs value r
        rw [← regs_writeReg ops zm d value ret r] at hgrow
        exact and_ne_zero_of_within hgrow (h e (hsame ▸ he) hne)
      · exact absurd (hzero e he) hne
      · exact hbit

theorem EventIdxBacked.accesses (h : EventIdxBacked d) (ops : VirtioDeviceOps δ) (zm : ZoneTable)
    (as : List MmioAccess) : EventIdxBacked (afterAccesses ops zm d as) := by
  induction as generalizing d with
  | nil => exact h
  | cons a as ih => exact ih (h.access ops zm a)

theorem eventIdxBacked_created {ops : VirtioDeviceOps δ}
    (h : Created ops d) : EventIdxBacked d := by
  intro e he hne
  unfold VirtIODevice.eventIdxs at he
  rw [(created_cases h).2, initVirtioQueue, List.map_map, List.mem_map] at he
  obtain ⟨i, -, rfl⟩ := he
  exact absurd rfl hne

/-! ## 5. Sequences -/

section Run

variable (ops : VirtioDeviceOps δ) (zm : ZoneTable)

theorem devFeature_afterAccesses (d : VirtIODevice δ) (as : List MmioAccess) :
    (afterAccesses ops zm d as).regs.devFeature = d.regs.devFeature := by
  induction as generalizing d with
  | nil => rfl
  | cons a as ih => exact (ih _).trans (devFeature_mmioAccess ops zm a)

/-- From a state in which the word is right, it stays so through a sequence exactly when
    every access meets the condition. -/
theorem featureSteps_iff {n : Negotiation} (hsel : SelFollows d.regs n)
    (hword : d.regs.drvFeature = n.word &&& d.regs.devFeature) (as : List MmioAccess) :
    (∀ p, p <+: as → (afterAccesses ops zm d p).regs.drvFeature =
        (p.foldl Negotiation.after n).word &&& d.regs.devFeature) ↔
      FeatureSteps ops zm d n as := by
  induction as generalizing d n with
  | nil =>
    refine iff_true_intro fun p hp => ?_
    rw [List.prefix_nil.mp hp]
    exact hword
  | cons a as ih =>
    have hstep := featureStep_iff ops zm hsel hword a
    rw [FeatureSteps]
    constructor
    · intro hall
      have hnow := hstep.mp (hall [a] ⟨as, rfl⟩)
      refine ⟨hnow, (ih (hsel.access ops zm a) ?_).mp ?_⟩
      · rw [devFeature_mmioAccess]
        exact hstep.mpr hnow
      · intro p hp
        rw [devFeature_mmioAccess]
        exact hall (a :: p) (List.cons_prefix_cons.mpr ⟨rfl, hp⟩)
    · rintro ⟨hnow, hlater⟩ p hp
      have hword' := hstep.mpr hnow
      rcases List.prefix_cons_iff.mp hp with rfl | ⟨q, rfl, hq⟩
      · exact hword
      · rw [← devFeature_mmioAccess ops zm a] at hword'
        have hrest := (ih (hsel.access ops zm a) hword').mpr hlater q hq
        rw [devFeature_mmioAccess] at hrest
        exact hrest

end Run

/-- The access is a write of 0 to `STATUS`. -/
def MmioAccess.isReset : MmioAccess → Bool
  | .read _ _ => false
  | .write offset value size _ =>
    selectedReg offset size == some .status && value.toUInt32 == 0

/-- What should be negotiated does not depend on what comes before a reset. -/
theorem negotiate_reset {r : MmioAccess} (hr : r.isReset = true) (as bs : List MmioAccess) :
    negotiate (as ++ r :: bs) = negotiate bs := by
  have hstart : ∀ n : Negotiation, n.after r = .start := by
    intro n
    cases r with
    | read offset size => cases hr
    | write offset value size ret =>
      obtain ⟨hreg, hv⟩ := Bool.and_eq_true_iff.mp hr
      simp only [Negotiation.after, beq_iff_eq.mp hreg, beq_iff_eq.mp hv, if_true]
  unfold negotiate
  rw [List.foldl_append, List.foldl_cons, hstart]

/-- **The feature word is right throughout a sequence exactly when every access meets
    the condition**: it is then, half by half, what was written to `DRIVER_FEATURES`
    since the last reset, cut to what the device offers, and a queue is in event-index
    mode only if it has the bit. For sequences that meet the condition nothing written
    before a reset has an influence on the word behind it. -/
theorem features_negotiated_iff {ops : VirtioDeviceOps δ} {d : VirtIODevice δ}
    (hd : Created ops d) (zm : ZoneTable) :
    (∀ as, (∀ p, p <+: as → FeaturesOk (afterAccesses ops zm d p) p) ↔
        FeatureSteps ops zm d .start as) ∧
      ∀ as₁ as₂ r₁ r₂ bs, r₁.isReset = true → r₂.isReset = true →
        FeatureSteps ops zm d .start (as₁ ++ r₁ :: bs) →
        FeatureSteps ops zm d .start (as₂ ++ r₂ :: bs) →
        (afterAccesses ops zm d (as₁ ++ r₁ :: bs)).regs.drvFeature =
          (afterAccesses ops zm d (as₂ ++ r₂ :: bs)).regs.drvFeature := by
  have hregs := (created_cases hd).1
  have hsel : SelFollows d.regs .start := nofun
  have hword : d.regs.drvFeature = Negotiation.start.word &&& d.regs.devFeature := by
    rw [hregs]
    exact UInt64.zero_and.symm
  have hiff := fun as => featureSteps_iff ops zm hsel hword as
  refine ⟨?_, ?_⟩
  · intro as
    rw [← hiff as]
    refine forall₂_congr fun p _ => ?_
    constructor
    · intro hok
      rw [hok.word, devFeature_afterAccesses]
      rfl
    · intro hw
      have hw' : (afterAccesses ops zm d p).regs.drvFeature =
          negotiated (afterAccesses ops zm d p).regs.devFeature p := by
        rw [hw, devFeature_afterAccesses]
        rfl
      refine ⟨hw', ?_⟩
      intro vq hvq hne
      rw [← hw']
      exact (eventIdxBacked_created hd).accesses ops zm p vq.eventIdxEnabled
        (List.mem_map_of_mem hvq) hne
  · intro as₁ as₂ r₁ r₂ bs hr₁ hr₂ h₁ h₂
    rw [(hiff _).mpr h₁ _ (List.prefix_refl _), (hiff _).mpr h₂ _ (List.prefix_refl _)]
    change (negotiate _).word &&& _ = (negotiate _).word &&& _
    rw [negotiate_reset hr₁, negotiate_reset hr₂]

/-- A device with one queue that offers `VIRTIO_RING_F_EVENT_IDX` and
    `VIRTIO_F_VERSION_1`. -/
def eventIdxOps : VirtioDeviceOps Unit := { bareOps with features := 0x120000000 }

def eventIdxDevice : VirtIODevice Unit :=
  { toDeviceIdentity := ⟨1, 79, 0xa003c00, 0x200, .block⟩
    regs := initMmioRegs .block 0x120000000
    irq := IrqLine.down
    vqs := initVirtioQueue eventIdxOps 1
    dev := ()
    activated := false
    vqsBound := by decide }

theorem created_eventIdxDevice : Created eventIdxOps eventIdxDevice :=
  ⟨fun _ => some eventIdxOps, ⟨1, 79, 0xa003c00, 0x200, .block⟩, some (), rfl, rfl⟩

/-- The driver accepts both features, half by half. -/
theorem features_negotiated_eventIdx :
    (afterAccesses eventIdxOps (fun _ => .empty) eventIdxDevice
        [.write 0x024 1 4 0, .write 0x020 1 4 0, .write 0x024 0 4 0,
          .write 0x020 0x20000000 4 0]).regs.drvFeature =
      negotiated 0x120000000 [.write 0x024 1 4 0, .write 0x020 1 4 0, .write 0x024 0 4 0,
        .write 0x020 0x20000000 4 0] := by
  have hiff := (features_negotiated_iff created_eventIdxDevice fun _ => .empty).1
    [.write 0x024 1 4 0, .write 0x020 1 4 0, .write 0x024 0 4 0, .write 0x020 0x20000000 4 0]
  have hsteps : FeatureSteps eventIdxOps (fun _ => .empty) eventIdxDevice .start
      [.write 0x024 1 4 0, .write 0x020 1 4 0, .write 0x024 0 4 0, .write 0x020 0x20000000 4 0] :=
    ⟨trivial, (by decide : Within 0x100000000 (0 ||| (0x120000000 &&& 0xffffffff00000000))),
      trivial, (by decide : Within 0x20000000 (0x100000000 ||| (0x120000000 &&& 0xffffffff))),
      trivial⟩
  exact (hiff.mpr hsteps _ (List.prefix_refl _)).word

/-- A reset leaves an accepted feature in the word, and a feature that the device does
    not offer gets into it. -/
theorem features_survive_reset :
    (afterAccesses eventIdxOps (fun _ => .empty) eventIdxDevice
        [.write 0x020 0x20000000 4 0, .write 0x070 0 4 0]).regs.drvFeature = 0x20000000 ∧
      negotiated 0x120000000 [.write 0x020 0x20000000 4 0, .write 0x070 0 4 0] = 0 ∧
      (afterAccesses eventIdxOps (fun _ => .empty) eventIdxDevice
        [.write 0x020 1 4 0]).regs.drvFeature = 1 ∧
      negotiated 0x120000000 [.write 0x020 1 4 0] = 0 :=
  ⟨by decide, by decide, by decide, by decide⟩

end HvisorTool
