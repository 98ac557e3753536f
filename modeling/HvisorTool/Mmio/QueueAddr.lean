/-
  File:      HvisorTool/Mmio/QueueAddr.lean
  Subject:   THE RING ADDRESSES OF A QUEUE: three registers of two halves each, and the
             host pointers that the writes to the upper halves leave.

  Each address should be the two halves as last written since the last reset, and the
  pointer its translation. The code or-s every half that is written into the address,
  and translates it at writes to the upper half only.

  * `RingPart`, `halves`: one of the three addresses, and the writes to it since the last reset;
  * `replay_part`: what the code makes of them;
  * `wanted`: what the address should be;
  * `SetOnce`, `CompleteAtHigh`: no half had a bit that its last value has not, and the
    address was complete when its upper half was last written;
  * `queue_address_iff`: exactly then address and pointer are right, for every queue
    after any accesses.
-/
import HvisorTool.Library.Bits
import HvisorTool.Mmio.Log
import HvisorTool.Virtio.ZoneMap
import Mathlib.Data.List.Induction

namespace HvisorTool

open Library

variable {δ : Type}

/-! ## 1. Addresses -/

/-- The three addresses of a queue. -/
inductive RingPart where
  | desc
  | avail
  | used
  deriving DecidableEq, Repr

namespace RingPart

def addr (vq : VirtQueue) : RingPart → UInt64
  | desc => vq.descTableAddr
  | avail => vq.availAddr
  | used => vq.usedAddr

def ptr (vq : VirtQueue) : RingPart → UInt64
  | desc => vq.descTable
  | avail => vq.availRing
  | used => vq.usedRing

def lowReg : RingPart → MmioReg
  | desc => .queueDescLow
  | avail => .queueAvailLow
  | used => .queueUsedLow

def highReg : RingPart → MmioReg
  | desc => .queueDescHigh
  | avail => .queueAvailHigh
  | used => .queueUsedHigh

end RingPart

/-- A value written to one half of an address; `true` is the upper half. -/
abbrev HalfWrite := Bool × UInt64

/-- The write to the address `p` that an entry of a queue's log is, if it is one. -/
def halfWrite (p : RingPart) (w : MmioReg × UInt64) : Option HalfWrite :=
  if w.1 = p.lowReg then some (false, w.2)
  else if w.1 = p.highReg then some (true, w.2)
  else none

/-- The writes of a queue's log to the address `p`. -/
def halves (p : RingPart) (writes : List (MmioReg × UInt64)) : List HalfWrite :=
  writes.filterMap (halfWrite p)

/-- The value in its half. -/
def HalfWrite.word (h : HalfWrite) : UInt64 := halfWord h.1 h.2

/-- All values that were written, or-ed together. -/
def joined (hs : List HalfWrite) : UInt64 := orAll (hs.map HalfWrite.word)

/-- The writes up to the last one to the upper half. -/
def throughHigh (hs : List HalfWrite) : List HalfWrite :=
  (hs.reverse.dropWhile fun h => !h.1).reverse

/-- What was last written to the half, in its place; 0 if nothing was. -/
def lastHalf (high : Bool) (hs : List HalfWrite) : UInt64 :=
  ((hs.reverse.find? fun h => h.1 == high).map HalfWrite.word).getD 0

/-- The address as the two halves last written. -/
def wanted (hs : List HalfWrite) : UInt64 := lastHalf true hs ||| lastHalf false hs

/-- Every value written to a half has only bits of the last one. -/
def SetOnce (hs : List HalfWrite) : Prop := ∀ h ∈ hs, Within h.word (lastHalf h.1 hs)

/-- When the upper half was last written, the address was complete, or neither the
    address then nor the one now is mapped. -/
def CompleteAtHigh (tr : UInt64 → UInt64) (hs : List HalfWrite) : Prop :=
  if throughHigh hs = [] then tr (wanted hs) = 0
  else joined (throughHigh hs) = wanted hs ∨
    (tr (joined (throughHigh hs)) = 0 ∧ tr (wanted hs) = 0)

instance (hs : List HalfWrite) : Decidable (SetOnce hs) :=
  List.decidableBAll (fun h : HalfWrite => Within h.word (lastHalf h.1 hs)) hs

instance (tr : UInt64 → UInt64) (hs : List HalfWrite) : Decidable (CompleteAtHigh tr hs) :=
  inferInstanceAs (Decidable (if throughHigh hs = [] then tr (wanted hs) = 0
    else joined (throughHigh hs) = wanted hs ∨
      (tr (joined (throughHigh hs)) = 0 ∧ tr (wanted hs) = 0)))

/-! ## 2. What the code makes of the writes -/

theorem zone_queueWrite (zm : ZoneTable) (value : UInt64) (vq : VirtQueue) (r : MmioReg) :
    (queueWrite zm value vq r).zone = vq.zone := by
  cases r <;> rfl

theorem zone_replay (zm : ZoneTable) (vq : VirtQueue) (writes : List (MmioReg × UInt64)) :
    (replay zm vq writes).zone = vq.zone := by
  induction writes generalizing vq with
  | nil => rfl
  | cons w writes ih => exact (ih _).trans (zone_queueWrite zm w.2 vq w.1)

/-- One write of the log, as the address `p` sees it. -/
theorem queueWrite_part (zm : ZoneTable) (vq : VirtQueue) (p : RingPart) (w : MmioReg × UInt64) :
    (p.addr (queueWrite zm w.2 vq w.1), p.ptr (queueWrite zm w.2 vq w.1)) =
      match halfWrite p w with
      | none => (p.addr vq, p.ptr vq)
      | some h =>
        (p.addr vq ||| h.word,
          if h.1 then getVirtAddr zm (p.addr vq ||| h.word) vq.zone else p.ptr vq) := by
  obtain ⟨r, value⟩ := w
  have hhigh : HalfWrite.word (true, value) = value <<< 32 := halfWord_true value
  cases p <;> cases r <;>
    simp only [halfWrite, RingPart.lowReg, RingPart.highReg, reduceCtorEq, if_true, if_false,
      hhigh] <;> rfl

theorem halves_concat (p : RingPart) (writes : List (MmioReg × UInt64)) (w : MmioReg × UInt64) :
    halves p (writes ++ [w]) = halves p writes ++ (halfWrite p w).toList := by
  unfold halves
  rw [List.filterMap_append, List.filterMap_cons, List.filterMap_nil]
  cases halfWrite p w <;> rfl

theorem joined_concat (hs : List HalfWrite) (h : HalfWrite) :
    joined (hs ++ [h]) = joined hs ||| h.word := by
  unfold joined
  rw [List.map_append, orAll_append, List.map_singleton, orAll, orAll, UInt64.or_zero]

theorem throughHigh_concat (hs : List HalfWrite) (h : HalfWrite) :
    throughHigh (hs ++ [h]) = if h.1 then hs ++ [h] else throughHigh hs := by
  unfold throughHigh
  rw [List.reverse_append, List.reverse_singleton, List.singleton_append, List.dropWhile_cons]
  cases h.1 <;> simp

/-- The pointer that the writes leave. -/
def ptrOf (tr : UInt64 → UInt64) (hs : List HalfWrite) : UInt64 :=
  if throughHigh hs = [] then 0 else tr (joined (throughHigh hs))

/-- **The address is all halves or-ed together, the pointer the translation at the last
    write to the upper half.** -/
theorem replay_part (zm : ZoneTable) {vq : VirtQueue} {p : RingPart} (haddr : p.addr vq = 0)
    (hptr : p.ptr vq = 0) (writes : List (MmioReg × UInt64)) :
    p.addr (replay zm vq writes) = joined (halves p writes) ∧
      p.ptr (replay zm vq writes) = ptrOf (getVirtAddr zm · vq.zone) (halves p writes) := by
  induction writes using List.reverseRecOn with
  | nil => exact ⟨haddr, hptr⟩
  | append_singleton writes w ih =>
    obtain ⟨iha, ihp⟩ := ih
    have hw := queueWrite_part zm (replay zm vq writes) p w
    rw [iha, ihp, zone_replay] at hw
    rw [replay_concat, halves_concat]
    cases hh : halfWrite p w with
    | none =>
      rw [hh] at hw
      rw [Option.toList_none, List.append_nil]
      exact Prod.mk.inj hw
    | some h =>
      rw [hh] at hw
      obtain ⟨hwa, hwp⟩ := Prod.mk.inj hw
      rw [Option.toList_some]
      refine ⟨hwa.trans (joined_concat _ h).symm, hwp.trans ?_⟩
      unfold ptrOf
      rw [throughHigh_concat]
      cases h.1 with
      | false => rfl
      | true =>
        have hne : halves p writes ++ [h] ≠ [] := List.append_ne_nil_of_right_ne_nil _ nofun
        simp only [if_true, if_neg hne, joined_concat]

/-- The same for a queue of a device, whose set-up is a replay from a fresh queue on. -/
theorem part_of_core {zm : ZoneTable} {zoneId queueNumMax : UInt32} {i : Nat} {vq : VirtQueue}
    {writes : List (MmioReg × UInt64)}
    (hcore : vq.core = replay zm (freshQueue zoneId queueNumMax i) writes) (p : RingPart) :
    p.addr vq = joined (halves p writes) ∧
      p.ptr vq = ptrOf (getVirtAddr zm · (asInt zoneId)) (halves p writes) := by
  have hzero : p.addr (freshQueue zoneId queueNumMax i) = 0 ∧
      p.ptr (freshQueue zoneId queueNumMax i) = 0 := by
    cases p <;> exact ⟨rfl, rfl⟩
  have hpart := replay_part zm hzero.1 hzero.2 writes
  rw [← hcore] at hpart
  cases p <;> exact hpart

/-! ## 3. What the address should be -/

/-- The last value of a half is one of those written to it, or there is none. -/
theorem lastHalf_cases (high : Bool) (hs : List HalfWrite) :
    (∃ value, lastHalf high hs = halfWord high value) ∧ Within (lastHalf high hs) (joined hs) := by
  unfold lastHalf
  cases hf : hs.reverse.find? fun h => h.1 == high with
  | none =>
    have hzero : halfWord high 0 = 0 := by cases high <;> decide
    exact ⟨⟨0, hzero.symm⟩, within_iff.mpr fun i _ hb => by simp at hb⟩
  | some h =>
    have hsome := List.find?_some hf
    have hh : h.1 = high := beq_iff_eq.mp hsome
    have hmem : h ∈ hs := List.mem_reverse.mp (List.mem_of_find?_eq_some hf)
    refine ⟨⟨h.2, by rw [← hh]; rfl⟩, ?_⟩
    exact within_orAll (List.mem_map_of_mem hmem)

/-- A value written to a half concerns the last value of that half only. -/
theorem within_wanted_iff (h : HalfWrite) (hs : List HalfWrite) :
    Within h.word (wanted hs) ↔ Within h.word (lastHalf h.1 hs) := by
  obtain ⟨⟨x, hx⟩, -⟩ := lastHalf_cases true hs
  obtain ⟨⟨y, hy⟩, -⟩ := lastHalf_cases false hs
  obtain ⟨high, value⟩ := h
  unfold wanted HalfWrite.word
  cases high with
  | true =>
    rw [hx, hy]
    exact within_or_of_disjoint (halfWord_disjoint value y)
  | false =>
    rw [hx, hy, UInt64.or_comm]
    refine within_or_of_disjoint ?_
    rw [UInt64.and_comm]
    exact halfWord_disjoint x value

/-- **All halves or-ed together are the last ones exactly when each was set once**, as far
    as bits go. -/
theorem joined_eq_wanted_iff (hs : List HalfWrite) : joined hs = wanted hs ↔ SetOnce hs := by
  have hback : Within (wanted hs) (joined hs) :=
    or_within_iff.mpr ⟨(lastHalf_cases true hs).2, (lastHalf_cases false hs).2⟩
  rw [eq_iff_within, and_iff_left hback]
  unfold joined SetOnce
  rw [orAll_within_iff, List.forall_mem_map]
  exact forall₂_congr fun h _ => within_wanted_iff h hs

/-- The pointer is the translation of the address exactly when the address was complete. -/
theorem ptrOf_eq_iff {tr : UInt64 → UInt64} (hinj : ∀ a b, tr a ≠ 0 → tr a = tr b → a = b)
    (hs : List HalfWrite) : ptrOf tr hs = tr (wanted hs) ↔ CompleteAtHigh tr hs := by
  unfold ptrOf CompleteAtHigh
  split
  · exact eq_comm
  · constructor
    · intro he
      by_cases hz : tr (joined (throughHigh hs)) = 0
      · exact .inr ⟨hz, he ▸ hz⟩
      · exact .inl (hinj _ _ hz he)
    · rintro (he | ⟨hz, hz'⟩)
      · rw [he]
      · rw [hz, hz']

/-- **A ring address of a queue is what the driver last wrote, and its pointer the
    translation of that, exactly when the driver set each half once and the upper half
    last**: for every new device, every sequence of accesses, every queue and each of its
    three addresses, so also whenever `QUEUE_READY` is written. -/
theorem queue_address_iff {ops : VirtioDeviceOps δ} {d : VirtIODevice δ} (hd : Created ops d)
    (zm : ZoneTable) (as : List MmioAccess) {i : Nat} {vq : VirtQueue}
    (hvq : (afterAccesses ops zm d as).vqs[i]? = some vq) (p : RingPart) :
    (p.addr vq = wanted (halves p (queueLog i as)) ∧
        p.ptr vq = vq.translate zm (wanted (halves p (queueLog i as)))) ↔
      SetOnce (halves p (queueLog i as)) ∧
        CompleteAtHigh (vq.translate zm) (halves p (queueLog i as)) := by
  have hcore := core_afterAccesses hd zm as hvq
  obtain ⟨haddr, hptr⟩ := part_of_core hcore p
  have hzone : vq.zone = asInt d.zoneId := by
    have hz : vq.core.zone = _ := congrArg VirtQueue.zone hcore
    rw [zone_replay] at hz
    exact hz
  have htr : vq.translate zm = (getVirtAddr zm · (asInt d.zoneId)) := by
    funext a
    unfold VirtQueue.translate
    rw [hzone]
  rw [← htr] at hptr
  rw [haddr, hptr, joined_eq_wanted_iff, ptrOf_eq_iff]
  intro a b hne he
  exact getVirtAddr_inj hne he

/-- The lower half of the descriptor table's address, then the upper one, then
    `QUEUE_READY`. -/
def setUpOnce : List MmioAccess :=
  [.write 0x080 0x1000 4 0, .write 0x084 0 4 0, .write 0x044 1 4 0]

theorem queue_address_setUpOnce :
    ∃ vq, (afterAccesses bareOps onePage bareDevice setUpOnce).vqs[0]? = some vq ∧
      vq.descTableAddr = 0x1000 ∧ vq.descTable = 0x10000 := by
  have hvq : (afterAccesses bareOps onePage bareDevice setUpOnce).vqs[0]? = some
      { freshQueue 1 512 0 with descTableAddr := 0x1000, descTable := 0x10000, ready := 1 } := by
    decide
  obtain ⟨haddr, hptr⟩ := (queue_address_iff created_bareDevice onePage setUpOnce hvq .desc).mpr
    ⟨by decide, by decide⟩
  exact ⟨_, hvq, haddr.trans (by decide), hptr.trans (by decide)⟩

/-- A driver that sets up its queue a second time gets the union of both addresses, and
    one that writes the upper half first gets no pointer. -/
theorem queue_address_mixes :
    ((afterAccesses bareOps onePage bareDevice
        [.write 0x080 0x1000 4 0, .write 0x084 0 4 0, .write 0x080 0x2000 4 0,
          .write 0x084 0 4 0, .write 0x044 1 4 0]).vqs[0]?).map (·.descTableAddr) =
        some 0x3000 ∧
      wanted (halves .desc (queueLog 0 [.write 0x080 0x1000 4 0, .write 0x084 0 4 0,
        .write 0x080 0x2000 4 0, .write 0x084 0 4 0, .write 0x044 1 4 0])) = 0x2000 ∧
      ((afterAccesses bareOps onePage bareDevice
        [.write 0x084 0 4 0, .write 0x080 0x1000 4 0, .write 0x044 1 4 0]).vqs[0]?).map
          (fun vq => (vq.descTableAddr, vq.descTable)) = some (0x1000, 0) ∧
      getVirtAddr onePage 0x1000 1 = 0x10000 :=
  ⟨by decide, by decide, by decide, by decide⟩

end HvisorTool
