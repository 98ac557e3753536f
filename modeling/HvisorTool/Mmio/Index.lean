/-
  File:      HvisorTool/Mmio/Index.lean
  Subject:   WHICH QUEUES THE REGISTER FILE TOUCHES: `queue_sel` is a word of the guest's, kept from
             one access to the next, and most handlers index `vqs` with it unchecked.

  * `regsAfter`, `regs_mmioAccess`: the registers after a write, and after one access;
  * `queueSel_mmioAccess`, `length_mmioAccess`: the two things an index depends on after one access,
    whatever the device does: the last selector written, and the number of queues, which is fixed;
  * `mmioAccess_inRange_iff`: one access stays inside `vqs` exactly when it does
    not use the selector, or the selector is in range;
  * `touchedVqs_inRange_iff`: the same for a whole sequence, as a condition on what the guest wrote;
  * `touchedVqs_escapes`: two writes that leave the array of a one-queue device.
-/
import HvisorTool.Mmio.Regs

namespace HvisorTool

variable {δ : Type}

/-! ## 1. What an access leaves -/

variable (ops : VirtioDeviceOps δ) (zm : ZoneTable) (d : VirtIODevice δ) (a : MmioAccess)

@[simp] theorem VirtIODevice.length_modifyVq (i : Int)
    (f : VirtQueue → VirtQueue) : (d.modifyVq i f).vqs.length = d.vqs.length := by
  simp only [VirtIODevice.modifyVq]
  split
  · exact List.length_modify ..
  · rfl

@[simp] theorem VirtIODevice.length_mapVqs
    (f : Nat → VirtQueue → VirtQueue) : (d.mapVqs f).vqs.length = d.vqs.length :=
  List.length_mapIdx

@[simp] theorem length_runHook (h : Option (DeviceHook δ)) (d : VirtIODevice δ) :
    (runHook h d).vqs.length = d.vqs.length := by
  cases h with
  | none => rfl
  | some h =>
    have e : _ = (d.vqs.map VirtQueue.setup).length := congrArg List.length (h.vqs d)
    rw [List.length_map, List.length_map] at e
    exact e

@[simp] theorem regs_runHook (h : Option (DeviceHook δ)) (d : VirtIODevice δ) :
    (runHook h d).regs = d.regs := by
  cases h with
  | none => rfl
  | some h => exact h.regs d

/-- The register that an access of `size` bytes at `offset` selects, if it gets as
    far as the `switch`. -/
def selectedReg (offset : UInt64) (size : UInt32) : Option MmioReg :=
  if mmioConfig ≤ offset ∨ size ≠ 4 then none else mmioReg offset

/-- The selector after an access. -/
def selAfter (sel : UInt32) : MmioAccess → UInt32
  | .read _ _ => sel
  | .write offset value size _ =>
    if selectedReg offset size = some .queueSel then value.toUInt32 else sel

/-- A write by its selected register. -/
theorem virtioMmioWrite_eq (offset value : UInt64) (size : UInt32) (ret : Int) :
    virtioMmioWrite ops zm d offset value size ret =
      match selectedReg offset size with
      | some r => writeReg ops zm d value ret r
      | none => (d, []) := by
  unfold virtioMmioWrite selectedReg
  by_cases ho : mmioConfig ≤ offset
  · rw [if_pos ho, if_pos (Or.inl ho)]
  · by_cases hs : size ≠ 4
    · rw [if_neg ho, if_pos hs, if_pos (Or.inr hs)]
    · rewrite [if_neg ho, if_neg hs, if_neg (not_or.mpr ⟨ho, hs⟩)]
      cases mmioReg offset <;> rfl

/-- The indices of a read by its selected register. -/
theorem virtioMmioRead_touched (offset : UInt64) (size : UInt32) :
    (virtioMmioRead ops d offset size).2 =
      match selectedReg offset size with
      | some r => (readReg d r).2
      | none => [] := by
  unfold virtioMmioRead selectedReg
  by_cases ho : mmioConfig ≤ offset
  · rw [if_pos ho, if_pos (Or.inl ho)]
  · by_cases hs : size ≠ 4
    · rw [if_neg ho, if_pos hs, if_pos (Or.inr hs)]
    · rewrite [if_neg ho, if_neg hs, if_neg (not_or.mpr ⟨ho, hs⟩)]
      cases mmioReg offset <;> rfl

/-- **A write keeps whatever each of its parts keeps**: a change of the registers, the
    line or `activated`, an operation of the device, and a change of queues. -/
theorem writeReg_keeps {γ : Type} (f : VirtIODevice δ → γ)
    (hset : ∀ (d : VirtIODevice δ) regs irq activated,
      f { d with regs := regs, irq := irq, activated := activated } = f d)
    (hhook : ∀ h d, f (runHook h d) = f d)
    (hmod : ∀ (d : VirtIODevice δ) i g, f (d.modifyVq i g) = f d)
    (hmap : ∀ (d : VirtIODevice δ) g, f (d.mapVqs g) = f d)
    (ops : VirtioDeviceOps δ) (zm : ZoneTable) (d : VirtIODevice δ) (value : UInt64) (ret : Int)
    (r : MmioReg) : f (writeReg ops zm d value ret r).1 = f d := by
  cases r with
  | deviceFeaturesSel | driverFeaturesSel | queueSel | interruptAck =>
    exact hset d _ _ d.activated
  | queueNum | queueReady | queueDescLow | queueDescHigh | queueAvailLow | queueAvailHigh
  | queueUsedLow | queueUsedHigh => exact hmod d d.sel _
  | driverFeatures =>
    simp only [writeReg, writeDriverFeatures]
    split
    · exact (hmap _ _).trans (hset d _ d.irq d.activated)
    · exact hset d _ d.irq d.activated
  | queueNotify =>
    simp only [writeReg, writeQueueNotify]
    split
    · exact hhook _ d
    · rfl
  | status =>
    simp only [writeReg, writeStatus]
    rw [hhook]
    split
    · refine (hset _ _ _ _).trans ((hmap _ _).trans ((hhook _ _).trans ((hmod _ _ _).trans ?_)))
      exact hset d _ _ d.activated
    · exact hset d _ d.irq d.activated
  | magicValue | version | deviceId | vendorId | deviceFeatures | queueNumMax | interruptStatus
  | configGeneration => rfl

/-- The registers after a write. -/
def regsAfter (regs : VirtMmioRegs) (value : UInt64) : MmioReg → VirtMmioRegs
  | .deviceFeaturesSel => { regs with devFeatureSel := if value != 0 then 1 else 0 }
  | .driverFeatures => { regs with drvFeature := regs.acceptFeatures value }
  | .driverFeaturesSel => { regs with drvFeatureSel := if value != 0 then 1 else 0 }
  | .queueSel => { regs with queueSel := value.toUInt32 }
  | .status => { regs with status := value.toUInt32 }
  | _ => regs

theorem regs_virtioDevReset (ret : Int) :
    (virtioDevReset ops d ret).1.regs = { d.regs with status := 0 } := by
  simp [virtioDevReset, VirtIODevice.mapVqs, VirtIODevice.modifyVq]

theorem regs_writeReg (value : UInt64) (ret : Int) (r : MmioReg) :
    (writeReg ops zm d value ret r).1.regs = regsAfter d.regs value r := by
  cases r with
  | driverFeatures =>
    simp only [writeReg, writeDriverFeatures]
    split <;> rfl
  | queueNotify =>
    simp only [writeReg, writeQueueNotify]
    split
    · exact regs_runHook ..
    · rfl
  | status =>
    simp only [writeReg, writeStatus, regs_runHook]
    split
    · next hv => rw [regs_virtioDevReset, regsAfter, hv]
    · rfl
  | _ => rfl


theorem queueSel_regsAfter (regs : VirtMmioRegs) (value : UInt64) (r : MmioReg) :
    (regsAfter regs value r).queueSel =
      if r = .queueSel then value.toUInt32 else regs.queueSel := by
  cases r <;> rfl

/-- No access changes the number of queues. -/
theorem length_mmioAccess : (mmioAccess ops zm d a).1.vqs.length = d.vqs.length := by
  cases a with
  | read offset size => rfl
  | write offset value size ret =>
    simp only [mmioAccess, virtioMmioWrite_eq]
    split
    · exact writeReg_keeps (fun d => d.vqs.length) (fun _ _ _ _ => rfl) length_runHook
        VirtIODevice.length_modifyVq VirtIODevice.length_mapVqs ..
    · rfl

/-- **The registers after one access**, by its selected register. -/
theorem regs_mmioAccess :
    (mmioAccess ops zm d a).1.regs =
      match a with
      | .read _ _ => d.regs
      | .write offset value size _ =>
        match selectedReg offset size with
        | some r => regsAfter d.regs value r
        | none => d.regs := by
  cases a with
  | read offset size => rfl
  | write offset value size ret =>
    simp only [mmioAccess, virtioMmioWrite_eq]
    cases selectedReg offset size with
    | none => rfl
    | some r => exact regs_writeReg ops zm d value ret r

/-- The selector is the last word written to `QUEUE_SEL`; a reset keeps it. -/
theorem queueSel_mmioAccess :
    (mmioAccess ops zm d a).1.regs.queueSel = selAfter d.regs.queueSel a := by
  rw [regs_mmioAccess]
  cases a with
  | read offset size => rfl
  | write offset value size ret =>
    simp only [selAfter]
    cases selectedReg offset size with
    | none => rfl
    | some r => simp only [queueSel_regsAfter, Option.some.injEq]

/-! ## 2. One access -/

/-- The write to register `r` indexes `vqs` with the selector. -/
def writeUsesSel (value : UInt64) : MmioReg → Bool
  | .queueNum | .queueReady | .queueDescLow | .queueDescHigh | .queueAvailLow
  | .queueAvailHigh | .queueUsedLow | .queueUsedHigh => true
  | .status => value.toUInt32 == 0
  | _ => false

/-- The access indexes `vqs` with the selector, without a check. -/
def usesSel : MmioAccess → Bool
  | .read offset size => selectedReg offset size == some .queueReady
  | .write offset value size _ =>
    match selectedReg offset size with
    | some r => writeUsesSel value r
    | none => false

/-- `i` is an index of an array of `n` queues. -/
def InRange (n : Nat) (i : Int) : Prop := 0 ≤ i ∧ i < n

theorem VirtIODevice.allIdx_inRange : ∀ i ∈ d.allIdx, InRange d.vqs.length i := by
  intro i hi
  obtain ⟨k, hk, e⟩ := List.mem_map.mp hi
  have hk' : k < d.vqs.length := List.mem_range.mp hk
  have e' : i = (k : Int) := e.symm
  exact ⟨by omega, by omega⟩

theorem VirtIODevice.sel_inRange_iff :
    InRange d.vqs.length d.sel ↔ d.regs.queueSel.toNat < d.vqs.length := by
  unfold InRange VirtIODevice.sel
  omega

/-- As an `int`, the selector is an index exactly when it is one as an unsigned
    word: there are far fewer than 2^31 queues. -/
theorem VirtIODevice.asInt_sel_inRange_iff :
    InRange d.vqs.length (asInt d.regs.queueSel) ↔ d.regs.queueSel.toNat < d.vqs.length := by
  have hb : d.vqs.length ≤ 4 := d.vqsBound.2
  have hs : d.regs.queueSel.toNat < 2 ^ 32 := d.regs.queueSel.toNat_lt
  unfold InRange
  rw [asInt_eq]
  split <;> omega

theorem virtioDevReset_inRange_iff (ret : Int) :
    (∀ i ∈ (virtioDevReset ops d ret).2, InRange d.vqs.length i) ↔
      d.regs.queueSel.toNat < d.vqs.length := by
  rw [← d.asInt_sel_inRange_iff]
  constructor
  · intro h
    exact h _ List.mem_cons_self
  · intro h i hi
    rcases List.mem_cons.mp hi with e | hm
    · exact e ▸ h
    · have hr := VirtIODevice.allIdx_inRange _ i hm
      simpa using hr

theorem writeSelected_inRange_iff (f : VirtQueue → VirtQueue) :
    (∀ i ∈ (writeSelected d f).2, InRange d.vqs.length i) ↔
      d.regs.queueSel.toNat < d.vqs.length := by
  rw [← d.sel_inRange_iff]
  exact List.forall_mem_singleton

theorem writeReg_inRange_iff (value : UInt64) (ret : Int) (r : MmioReg) :
    (∀ i ∈ (writeReg ops zm d value ret r).2, InRange d.vqs.length i) ↔
      (writeUsesSel value r = true → d.regs.queueSel.toNat < d.vqs.length) := by
  cases r with
  | queueNum | queueReady | queueDescLow | queueDescHigh | queueAvailLow | queueAvailHigh
  | queueUsedLow | queueUsedHigh =>
    simp only [writeReg, writeUsesSel, true_imp_iff]
    exact writeSelected_inRange_iff ..
  | driverFeatures =>
    simp only [writeReg, writeDriverFeatures, writeUsesSel, Bool.false_eq_true,
      false_imp_iff, iff_true]
    split
    · exact VirtIODevice.allIdx_inRange _
    · exact fun _ h => absurd h List.not_mem_nil
  | queueNotify =>
    simp only [writeReg, writeQueueNotify, writeUsesSel, Bool.false_eq_true,
      false_imp_iff, iff_true]
    split
    · next hv =>
      intro i hi
      rw [List.mem_singleton.mp hi]
      exact ⟨by omega, by omega⟩
    · exact fun _ h => absurd h List.not_mem_nil
  | status =>
    simp only [writeReg, writeStatus, writeUsesSel, beq_iff_eq]
    by_cases hv : value.toUInt32 = 0
    · rw [if_pos hv]
      simp only [hv, true_imp_iff]
      exact virtioDevReset_inRange_iff ..
    · simp [hv]
  | _ => simp [writeReg, writeUsesSel]

theorem readReg_inRange_iff (r : MmioReg) :
    (∀ i ∈ (readReg d r).2, InRange d.vqs.length i) ↔
      (r = .queueReady → d.regs.queueSel.toNat < d.vqs.length) := by
  cases r with
  | queueReady =>
    simp only [readReg, true_imp_iff, List.forall_mem_singleton]
    exact d.sel_inRange_iff
  | queueNumMax =>
    simp only [readReg, reduceCtorEq, false_imp_iff, iff_true]
    split
    · exact fun _ h => absurd h List.not_mem_nil
    · next hlt =>
      intro i hi
      rw [List.mem_singleton.mp hi]
      exact d.sel_inRange_iff.mpr (by omega)
  | _ => simp [readReg]

/-- **One access stays inside the queue array exactly when it does not index it
    with the selector, or the selector is in range.** -/
theorem mmioAccess_inRange_iff :
    (∀ i ∈ (mmioAccess ops zm d a).2, InRange d.vqs.length i) ↔
      (usesSel a = true → d.regs.queueSel.toNat < d.vqs.length) := by
  cases a with
  | read offset size =>
    simp only [mmioAccess, virtioMmioRead_touched, usesSel, beq_iff_eq]
    cases selectedReg offset size with
    | none => simp
    | some r =>
      simp only [Option.some.injEq]
      exact readReg_inRange_iff d r
  | write offset value size ret =>
    simp only [mmioAccess, virtioMmioWrite_eq, usesSel]
    cases selectedReg offset size with
    | none => simp
    | some r => exact writeReg_inRange_iff ops zm d value ret r

/-! ## 3. Sequences of accesses -/

/-- Each access that indexes `vqs` with the selector comes at a time when the last
    word written to `QUEUE_SEL` (`sel`, if there was none) is below `n`. -/
def SelectsInRange (n : Nat) : UInt32 → List MmioAccess → Prop
  | _, [] => True
  | sel, a :: as => (usesSel a = true → sel.toNat < n) ∧ SelectsInRange n (selAfter sel a) as

/-- **The register file stays inside the queue array exactly when the guest selects
    an existing queue before every access that uses the selector.** -/
theorem touchedVqs_inRange_iff (ops : VirtioDeviceOps δ) (zm : ZoneTable)
    (d : VirtIODevice δ) (as : List MmioAccess) :
    (∀ i ∈ touchedVqs ops zm d as, InRange d.vqs.length i) ↔
      SelectsInRange d.vqs.length d.regs.queueSel as := by
  induction as generalizing d with
  | nil => simp [touchedVqs, SelectsInRange]
  | cons a as ih =>
      have hrest := ih (mmioAccess ops zm d a).1
      rw [length_mmioAccess, queueSel_mmioAccess] at hrest
      simp only [touchedVqs, SelectsInRange, List.forall_mem_append]
      rw [mmioAccess_inRange_iff, hrest]

/-- A device with one queue and no operations of its own. -/
def bareOps : VirtioDeviceOps Unit :=
  { features := 0, numQueues := 1, queueMaxSize := 512, config := fun _ _ => 0, reset := none,
    statusChanged := none, notifyHandlers := fun _ => none }

/-- Selecting queue 1 of a device that has queue 0 only, then setting its size,
    writes past the array. -/
theorem touchedVqs_escapes :
    ∃ d, createVirtioDeviceUnpublished (fun _ => some bareOps)
          ⟨1, 79, 0xa003c00, 0x200, .block⟩ (some ()) = some d ∧
      ¬ InRange d.vqs.length 1 ∧
      ∀ zm, 1 ∈ touchedVqs bareOps zm d [.write 0x030 1 4 0, .write 0x038 8 4 0] :=
  ⟨_, rfl, fun h => absurd h.2 (by decide), fun _ => List.mem_cons_self⟩

end HvisorTool
