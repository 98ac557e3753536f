/-
  File:      HvisorTool/Mmio/QueueNum.lean
  Subject:   THE SIZE OF A QUEUE when its rings are used: `num` is whatever the guest
             wrote, and handlers take it as a mask, a bound and an offset.

  The guest's accesses come together with what the device does by itself: an event
  handler or a worker thread that works on the rings of one queue.

  * `DeviceStep`, `usesQueue`: the steps, and the queue whose handler is called or whose
    rings are read;
  * `lastNum`: the size last written to a queue since the last reset;
  * `NumInRange`: the size is from 1 to the maximum, and what follows for every index
    into the rings (`NumInRange.index_lt`, `NumInRange.usedIndex_lt`);
  * `queue_num_iff`: it is so at every use exactly when the guest wrote such a size.
-/
import HvisorTool.Mmio.Log
import HvisorTool.Virtio.Used
import Mathlib.Data.List.Induction

namespace HvisorTool

variable {δ : Type}

/-! ## 1. Steps -/

/-- An access of the guest, or the device working on the rings of queue `i` by itself. -/
inductive DeviceStep (δ : Type) where
  | access (a : MmioAccess)
  | backend (i : Nat) (work : DeviceHook δ)

def deviceStep (ops : VirtioDeviceOps δ) (zm : ZoneTable) (d : VirtIODevice δ) :
    DeviceStep δ → VirtIODevice δ
  | .access a => (mmioAccess ops zm d a).1
  | .backend _ work => work.run d

def afterSteps (ops : VirtioDeviceOps δ) (zm : ZoneTable) (d : VirtIODevice δ)
    (ss : List (DeviceStep δ)) : VirtIODevice δ :=
  ss.foldl (deviceStep ops zm) d

/-- The queue, of `n`, whose notify handler the step calls or whose rings it reads. -/
def usesQueue (ops : VirtioDeviceOps δ) (n : Nat) : DeviceStep δ → Option Nat
  | .access (.read _ _) => none
  | .access (.write offset value size _) =>
    if selectedReg offset size = some .queueNotify ∧ value.toNat < n ∧
        (ops.notifyHandlers value.toNat).isSome = true then
      some value.toNat
    else none
  | .backend i _ => if i < n then some i else none

/-- The log of queue `i` after one more step. -/
def QueueLog.afterStep (i : Nat) (l : QueueLog) : DeviceStep δ → QueueLog
  | .access a => l.after i a
  | .backend _ _ => l

def stepLog (i : Nat) (ss : List (DeviceStep δ)) : List (MmioReg × UInt64) :=
  (ss.foldl (QueueLog.afterStep i) ⟨0, []⟩).writes

/-- The size in a queue's log that was written last; 0 if none was. -/
def lastNum (writes : List (MmioReg × UInt64)) : UInt64 :=
  ((writes.reverse.find? fun w => w.1 == .queueNum).map (·.2)).getD 0

/-! ## 2. The size follows from the log -/

variable {d : VirtIODevice δ} {zoneId queueNumMax : UInt32} {ops : VirtioDeviceOps δ}

theorem Follows.step {zm : ZoneTable} {i : Nat} {l : QueueLog}
    (h : Follows zm zoneId queueNumMax i d l) (ops : VirtioDeviceOps δ) (s : DeviceStep δ) :
    Follows zm zoneId queueNumMax i (deviceStep ops zm d s) (l.afterStep i s) := by
  cases s with
  | access a => exact h.access ops a
  | backend j work => exact h.hook work

theorem Follows.steps {zm : ZoneTable} {i : Nat} {l : QueueLog}
    (h : Follows zm zoneId queueNumMax i d l) (ops : VirtioDeviceOps δ) (ss : List (DeviceStep δ)) :
    Follows zm zoneId queueNumMax i (afterSteps ops zm d ss)
      (ss.foldl (QueueLog.afterStep i) l) := by
  induction ss generalizing d l with
  | nil => exact h
  | cons s ss ih => exact ih (h.step ops s)

theorem length_afterSteps (ops : VirtioDeviceOps δ) (zm : ZoneTable) (d : VirtIODevice δ)
    (ss : List (DeviceStep δ)) : (afterSteps ops zm d ss).vqs.length = d.vqs.length := by
  induction ss generalizing d with
  | nil => rfl
  | cons s ss ih =>
    refine (ih _).trans ?_
    cases s with
    | access a => exact length_mmioAccess ops zm d a
    | backend j work => exact length_runHook (some work) d

theorem lastNum_concat (writes : List (MmioReg × UInt64)) (w : MmioReg × UInt64) :
    lastNum (writes ++ [w]) = if w.1 = .queueNum then w.2 else lastNum writes := by
  unfold lastNum
  rw [List.reverse_append, List.reverse_singleton, List.singleton_append, List.find?_cons]
  by_cases hw : w.1 = .queueNum
  · rw [if_pos hw, hw]
    rfl
  · have hb : (w.1 == MmioReg.queueNum) = false := beq_eq_false_iff_ne.mpr hw
    rw [if_neg hw, hb]

/-- The size of a replayed queue is the one last written, its maximum the one it was
    created with. -/
theorem num_replay (zm : ZoneTable) {vq : VirtQueue} (h0 : vq.num = 0)
    (writes : List (MmioReg × UInt64)) :
    (replay zm vq writes).num = lastNum writes ∧
      (replay zm vq writes).queueNumMax = vq.queueNumMax := by
  induction writes using List.reverseRecOn with
  | nil => exact ⟨h0, rfl⟩
  | append_singleton writes w ih =>
    obtain ⟨ihn, ihm⟩ := ih
    have hw : (queueWrite zm w.2 (replay zm vq writes) w.1).num =
          (if w.1 = .queueNum then w.2 else (replay zm vq writes).num) ∧
        (queueWrite zm w.2 (replay zm vq writes) w.1).queueNumMax =
          (replay zm vq writes).queueNumMax := by
      cases w.1 <;> exact ⟨rfl, rfl⟩
    rw [replay_concat, lastNum_concat, ← ihn]
    exact ⟨hw.1, hw.2.trans ihm⟩

/-- **The size of a queue is the one the guest last wrote to it since the last reset.** -/
theorem num_afterSteps (hd : Created ops d) (zm : ZoneTable) (ss : List (DeviceStep δ)) {i : Nat}
    {vq : VirtQueue} (hvq : (afterSteps ops zm d ss).vqs[i]? = some vq) :
    vq.num = lastNum (stepLog i ss) ∧ vq.queueNumMax = ops.queueMaxSize := by
  have hcore : vq.core = replay zm (freshQueue d.zoneId ops.queueMaxSize i) (stepLog i ss) :=
    ((follows_created hd zm i).steps ops ss).core_eq hvq
  obtain ⟨hn, hm⟩ :=
    num_replay zm (show (freshQueue d.zoneId ops.queueMaxSize i).num = 0 from rfl) (stepLog i ss)
  rw [← hcore] at hn hm
  exact ⟨hn, hm⟩

/-! ## 3. Indices -/

/-- The size is from 1 to the maximum. -/
structure NumInRange (num : UInt64) (queueNumMax : UInt32) : Prop where
  pos : 1 ≤ num.toNat
  le : num.toNat ≤ queueNumMax.toNat

namespace NumInRange

variable {num : UInt64} {queueNumMax : UInt32} (h : NumInRange num queueNumMax)
include h

theorem toNat_pred : (num - 1).toNat = num.toNat - 1 := by
  have hone : (1 : UInt64) ≤ num := UInt64.le_iff_toNat_le.mpr h.pos
  rw [UInt64.toNat_sub_of_le _ _ hone]
  rfl

/-- An index masked with `num - 1`, as descriptor chains and the device handlers use it. -/
theorem index_lt (x : UInt64) : (x &&& (num - 1)).toNat < queueNumMax.toNat := by
  have hle : (x &&& (num - 1)).toNat ≤ (num - 1).toNat := by
    rw [UInt64.toNat_and]
    exact Nat.and_le_right
  have hp := h.toNat_pred
  have h1 := h.pos
  have h2 := h.le
  omega

/-- The same with the 16-bit mask of the used ring. -/
theorem usedIndex_lt (x : UInt16) : (x &&& usedMask num).toNat < queueNumMax.toNat := by
  have hle : (x &&& usedMask num).toNat ≤ (usedMask num).toNat := by
    rw [UInt16.toNat_and]
    exact Nat.and_le_right
  have hmask : (usedMask num).toNat ≤ (num - 1).toNat := by
    unfold usedMask
    rw [UInt64.toNat_toUInt16]
    exact Nat.mod_le _ _
  have hp := h.toNat_pred
  have h1 := h.pos
  have h2 := h.le
  omega

end NumInRange

/-- A step uses a queue that there is. -/
theorem lt_of_usesQueue {n i : Nat} {s : DeviceStep δ}
    (h : usesQueue ops n s = some i) : i < n := by
  rcases s with (⟨offset, size⟩ | ⟨offset, value, size, ret⟩) | ⟨j, work⟩
  · cases h
  · obtain ⟨hu, he⟩ := Option.ite_none_right_eq_some.mp h
    cases he
    exact hu.2.1
  · obtain ⟨hj, he⟩ := Option.ite_none_right_eq_some.mp h
    cases he
    exact hj

/-- **Every queue has a size from 1 to its maximum whenever its handler is called or its
    rings are read exactly when the guest has last written such a size to it since the
    last reset.** The indices that are masked with the size then stay below the maximum,
    and so do those of a batch of completions; the event-index word `ring[num]` lies at
    most behind a ring of the maximum size. -/
theorem queue_num_iff {ops : VirtioDeviceOps δ} {d : VirtIODevice δ} (hd : Created ops d)
    (zm : ZoneTable) (ss : List (DeviceStep δ)) :
    ((∀ p s i vq, p ++ [s] <+: ss → usesQueue ops d.vqs.length s = some i →
          (afterSteps ops zm d p).vqs[i]? = some vq → NumInRange vq.num vq.queueNumMax) ↔
        ∀ p s i, p ++ [s] <+: ss → usesQueue ops d.vqs.length s = some i →
          NumInRange (lastNum (stepLog i p)) ops.queueMaxSize) ∧
      ∀ vq : VirtQueue, NumInRange vq.num vq.queueNumMax →
        (∀ x : UInt64, (x &&& (vq.num - 1)).toNat < vq.queueNumMax.toNat) ∧
        (∀ x : UInt16, (x &&& usedMask vq.num).toNat < vq.queueNumMax.toNat) ∧
        vq.num.toNat ≤ vq.queueNumMax.toNat := by
  refine ⟨?_, fun vq h => ⟨h.index_lt, h.usedIndex_lt, h.le⟩⟩
  constructor
  · intro hall p s i hp hs
    have hlt : i < (afterSteps ops zm d p).vqs.length := by
      rw [length_afterSteps]
      exact lt_of_usesQueue hs
    have hvq := List.getElem?_eq_getElem hlt
    obtain ⟨hn, hm⟩ := num_afterSteps hd zm p hvq
    rw [← hn, ← hm]
    exact hall p s i _ hp hs hvq
  · intro hall p s i vq hp hs hvq
    obtain ⟨hn, hm⟩ := num_afterSteps hd zm p hvq
    rw [hn, hm]
    exact hall p s i hp hs

/-- A handler that leaves the device as it is. -/
def idleHook : DeviceHook Unit :=
  { run := fun d => d, identity := fun _ => rfl, regs := fun _ => rfl, vqs := fun _ => rfl }

/-- A device with one queue of at most 512 entries, whose handler does nothing. -/
def idleOps : VirtioDeviceOps Unit := { bareOps with notifyHandlers := fun _ => some idleHook }

theorem created_idleDevice : Created idleOps bareDevice :=
  ⟨fun _ => some idleOps, ⟨1, 79, 0xa003c00, 0x200, .block⟩, some (), rfl, rfl⟩

/-- The guest sets a size of 256 and notifies. -/
def sizeThenNotify : List (DeviceStep Unit) :=
  [.access (.write 0x038 256 4 0), .access (.write 0x050 0 4 0)]

theorem queue_num_sizeThenNotify :
    ∃ vq, (afterSteps idleOps onePage bareDevice (sizeThenNotify.take 1)).vqs[0]? = some vq ∧
      NumInRange vq.num vq.queueNumMax := by
  have hiff := (queue_num_iff created_idleDevice onePage sizeThenNotify).1
  have huse : ∀ p s i, p ++ [s] <+: sizeThenNotify → usesQueue idleOps 1 s = some i →
      NumInRange (lastNum (stepLog i p)) idleOps.queueMaxSize := by
    intro p s i hp hs
    rcases p with _ | ⟨x, _ | ⟨y, p⟩⟩
    · obtain ⟨rfl, -⟩ := List.cons_prefix_cons.mp hp
      cases hs
    · obtain ⟨rfl, hp'⟩ := List.cons_prefix_cons.mp hp
      obtain ⟨rfl, -⟩ := List.cons_prefix_cons.mp hp'
      cases hs
      exact ⟨by decide, by decide⟩
    · have hlen := hp.length_le
      simp [sizeThenNotify] at hlen
  exact ⟨_, rfl,
    hiff.mpr huse (sizeThenNotify.take 1) (.access (.write 0x050 0 4 0)) 0 _ ⟨[], rfl⟩ rfl rfl⟩

/-- A handler is called on a queue of size 0, whose mask is all ones, and on one of 1024
    entries where the maximum is 512. -/
theorem queue_num_unchecked :
    usesQueue idleOps bareDevice.vqs.length (.access (.write 0x050 0 4 0)) = some 0 ∧
      ((afterSteps idleOps onePage bareDevice []).vqs[0]?).map
          (fun vq => (vq.num, 0xffff &&& (vq.num - 1))) = some (0, 0xffff) ∧
      ((afterSteps idleOps onePage bareDevice [.access (.write 0x038 1024 4 0)]).vqs[0]?).map
          (fun vq => (vq.num, 0xffff &&& (vq.num - 1), vq.queueNumMax)) =
        some (1024, 1023, 512) :=
  ⟨by decide, by decide, by decide⟩

end HvisorTool
