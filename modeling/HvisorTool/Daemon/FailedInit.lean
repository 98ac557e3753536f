/-
  File:      HvisorTool/Daemon/FailedInit.lean
  Subject:   CREATIONS THAT FAIL: what `init` has acquired, `close` has to release, once.

  `close` releases what the device structure records. So `init` may leave at any point at which
  the structure records what is held, and nothing else. The console leaves at two points at
  which it records a descriptor that it has closed.

  * `Owner`: what a device structure records; `Closing`, `Closes`: `close` releases that;
  * `Making`: an `init` that leaves with what the structure records, by one rule for each call;
  * `FailsClean`: a failed creation that has closed each descriptor once and removed its event;
  * `failed_creation_clean_iff`: all of them, but for the two.
-/
import HvisorTool.Daemon.DeviceInit

namespace HvisorTool

open Library Handling

namespace Creation

variable {δ : Type}

/-! ## 1. What a device structure records -/

structure Owner (δ : Type) where
  owned : δ → Multiset Resource
  event : δ → Option UInt64

namespace Owner

def dev (o : Owner δ) : Option δ → Multiset Resource
  | none => 0
  | some d => o.owned d

def vdev (o : Owner δ) (v : Vdev δ) : Multiset Resource :=
  o.dev v.dev + (heldIf (v.vqs = true) (.block .vqs) + {.block .vdev})

end Owner

def blkOwner : Owner BlkDev where
  owned d :=
    heldIf (d.threadStarted = true) .thread + (heldIf (d.condInitialized = true) .cond +
      (heldIf (d.mutexInitialized = true) .mutex + (heldFd d.imgFd + {.block .dev})))
  event _ := none

def netOwner : Owner NetDev where
  owned d :=
    heldFd d.tapfd + (heldSome (d.event.map .event) +
      (heldSome (d.event.map fun hevent => .block (.event hevent)) +
        (heldIf (d.inIov = true) (.block .inIov) + (heldIf (d.outIov = true) (.block .outIov) +
          {.block .dev}))))
  event d := d.event

def consoleOwner : Owner ConsoleDev where
  owned d :=
    heldFd d.masterFd + (heldFd d.slaveKeepaliveFd + (heldSome (d.event.map .event) +
      (heldSome (d.event.map fun hevent => .block (.event hevent)) + {.block .dev})))
  event d := d.event

def scmiOwner : Owner SCMIDev where
  owned d :=
    heldIf (d.clockIds = true) (.block .clockIds) + (heldIf (d.resetIds = true) (.block .resetIds) +
      (heldIf (d.powerIds = true) (.block .powerIds) + {.block .dev}))
  event _ := none

/-! ## 2. `close` -/

/-- **What a `close` does from some point on**: it releases what is left, acquires nothing and
    takes the event out of the table. -/
structure Closing (m : EventMonitor) (e : Option UInt64) (P : Multiset Resource)
    (x : Handles EventMonitor) : Prop where
  turns : (∀ hevent, e = some hevent → hevent ∈ m.registered) → Turns P x fun _ => 0
  acquiresNone : acquires x.log = 0
  removes : ∃ m', x.result = .ok m' ∧ m'.registered = e.toList.foldl List.erase m.registered

namespace Closing

variable {m : EventMonitor} {e : Option UInt64} {P Q : Multiset Resource} {x : Handles EventMonitor}

theorem of_eq (h : Closing m e P x) (heq : P = Q) : Closing m e Q x := heq ▸ h

theorem release (h : Closing m e P x) (r : Resource) :
    Closing m e ({r} + P) (x.tell (.release r)) :=
  ⟨fun he => (h.turns he).release, h.acquiresNone, h.removes⟩

theorem releaseIf (h : Closing m e P x) {c : Prop} [Decidable c] {r : Resource} :
    Closing m e (heldIf c r + P) (releaseIf c r x) where
  turns he := (h.turns he).releaseIf
  acquiresNone := (acquires_releaseIf ..).trans h.acquiresNone
  removes := by
    rw [result_releaseIf]
    exact h.removes

theorem releaseSome (h : Closing m e P x) {r : Option Resource} :
    Closing m e (heldSome r + P) (releaseSome r x) where
  turns he := (h.turns he).releaseSome
  acquiresNone := (acquires_releaseSome ..).trans h.acquiresNone
  removes := by
    rw [result_releaseSome]
    exact h.removes

/-- The last lines. -/
theorem freeVdev (v : Vdev δ) (m : EventMonitor) :
    Closing m none (heldIf (v.vqs = true) (.block .vqs) + {.block .vdev}) (freeVdev v m) := by
  have hend : Closing m none 0 (.lift (.ok m)) := ⟨fun _ => .ok rfl, rfl, m, rfl, rfl⟩
  exact ((hend.release (.block .vdev)).of_eq (add_zero _)).releaseIf

/-- From here on there is no event. -/
theorem removeEvent {k : EventMonitor → Handles EventMonitor} (h : ∀ m, Closing m none P (k m)) :
    Closing m e (heldSome (e.map .event) + P) ((m.removeEvent e).bind k) := by
  cases e with
  | none => exact (h m).of_eq (zero_add P).symm
  | some hevent =>
    refine ⟨fun he => .bind (EventMonitor.removeEvent_turns he _) fun m _ => (h m).turns nofun,
      ?_, ?_⟩
    · have hlog : acquires (m.removeEvent (some hevent)).log = 0 := acquires_releaseIf ..
      have hres := EventMonitor.result_removeEvent_some m hevent
      generalize m.removeEvent (some hevent) = y at hlog hres
      obtain ⟨log, result⟩ := y
      cases hres
      rw [Traced.ok_bind, acquires_append, hlog, (h _).acquiresNone, add_zero]
    · obtain ⟨m', hres, hreg⟩ := (h (HvisorTool.removeEvent m hevent)).removes
      refine ⟨m', ?_, hreg.trans (EventMonitor.registered_removeEvent m hevent)⟩
      rw [Traced.result_bind, EventMonitor.result_removeEvent_some]
      exact hres

end Closing

/-- `close` releases what the structure records. -/
def Closes (o : Owner δ) (close : Vdev δ → EventMonitor → Handles EventMonitor) : Prop :=
  ∀ v m, Closing m (v.dev.bind o.event) (o.vdev v) (close v m)

theorem virtioBlkClose_closes : Closes blkOwner virtioBlkClose := by
  rintro ⟨dev, vqs⟩ m
  cases dev with
  | none => exact (Closing.freeVdev _ m).of_eq (zero_add _).symm
  | some d =>
    refine Closing.of_eq (.releaseIf (.releaseIf (.releaseIf (.releaseIf
      (.release (.freeVdev _ m) _))))) ?_
    simp only [Owner.vdev, Owner.dev, blkOwner, heldFd, add_assoc]

theorem virtioNetClose_closes : Closes netOwner virtioNetClose := by
  rintro ⟨dev, vqs⟩ m
  cases dev with
  | none => exact (Closing.freeVdev _ m).of_eq (zero_add _).symm
  | some d =>
    refine Closing.of_eq (.releaseIf (.removeEvent fun m =>
      .releaseSome (.releaseIf (.releaseIf (.release (.freeVdev _ m) _))))) ?_
    simp only [Owner.vdev, Owner.dev, netOwner, heldFd, add_assoc, Option.bind_some]

theorem virtioConsoleClose_closes : Closes consoleOwner virtioConsoleClose := by
  rintro ⟨dev, vqs⟩ m
  cases dev with
  | none => exact (Closing.freeVdev _ m).of_eq (zero_add _).symm
  | some d =>
    refine Closing.of_eq (.releaseIf (.releaseIf (.removeEvent fun m =>
      .releaseSome (.release (.freeVdev _ m) _)))) ?_
    simp only [Owner.vdev, Owner.dev, consoleOwner, heldFd, add_assoc, Option.bind_some]

theorem virtioScmiClose_closes : Closes scmiOwner virtioScmiClose := by
  rintro ⟨dev, vqs⟩ m
  cases dev with
  | none => exact (Closing.freeVdev _ m).of_eq (zero_add _).symm
  | some d =>
    refine Closing.of_eq (.releaseIf (.releaseIf (.releaseIf (.release (.freeVdev _ m) _)))) ?_
    simp only [Owner.vdev, Owner.dev, scmiOwner, add_assoc]

/-! ## 3. `init` -/

/-- No descriptor is counted twice. -/
def FdsOnce (P : Multiset Resource) : Prop := ∀ n, P.count (.fd n) ≤ 1

variable {P R : Multiset Resource}

theorem fdsOnce_mono {Q : Multiset Resource} (h : FdsOnce (P + Q)) : FdsOnce P := fun n =>
  (Nat.le_add_right _ _).trans ((Multiset.count_add ..).symm.le.trans (h n))

theorem fdsOnce_add (h : FdsOnce P) (hR : ∀ n, .fd n ∉ R) : FdsOnce (R + P) := by
  intro n
  rw [Multiset.count_add, Multiset.count_eq_zero_of_notMem (hR n), zero_add]
  exact h n

theorem fdsOnce_none (hR : ∀ n, .fd n ∉ R) : FdsOnce R := fun n =>
  (Multiset.count_eq_zero_of_notMem (hR n)).le.trans (Nat.zero_le 1)

theorem fdsOnce_heldFd {fd : Int} (h : FdsOnce P) (hfd : .fd fd ∉ P) : FdsOnce (heldFd fd + P) := by
  unfold heldFd heldIf
  split
  · intro n
    rw [Multiset.count_add, Multiset.count_singleton]
    split
    · next heq => rw [heq, Multiset.count_eq_zero_of_notMem hfd]
    · rw [zero_add]
      exact h n
  · rwa [zero_add]

theorem blkOwner_once (d : Option BlkDev) : FdsOnce (blkOwner.dev d) := by
  cases d with
  | none => exact fdsOnce_none (by simp [Owner.dev])
  | some d =>
    have hfd : FdsOnce (heldFd d.imgFd + {.block .dev}) :=
      fdsOnce_heldFd (fdsOnce_none (by simp)) (by simp)
    exact fdsOnce_add (fdsOnce_add (fdsOnce_add hfd (by simp)) (by simp)) (by simp)

theorem netOwner_once (d : Option NetDev) : FdsOnce (netOwner.dev d) := by
  cases d with
  | none => exact fdsOnce_none (by simp [Owner.dev])
  | some d => exact fdsOnce_heldFd (fdsOnce_none (by simp)) (by simp)

theorem consoleOwner_once {d : ConsoleDev} (h : 0 ≤ d.slaveKeepaliveFd →
    d.masterFd ≠ d.slaveKeepaliveFd) : FdsOnce (consoleOwner.dev (some d)) := by
  refine fdsOnce_heldFd (fdsOnce_heldFd (fdsOnce_none (by simp)) (by simp)) ?_
  simpa [heldFd] using h

theorem scmiOwner_once (d : Option SCMIDev) : FdsOnce (scmiOwner.dev d) := by
  cases d <;> exact fdsOnce_none (by simp [Owner.dev, scmiOwner])

/-- **An `init` on its way**: with `P` in its hands it leaves with what the structure records; it
    opens no descriptor twice, and its event is new and in the table. -/
structure Making (o : Owner δ) (vqs : Bool) (m : EventMonitor) (P : Multiset Resource)
    (x : Handles (Int × Vdev δ × EventMonitor)) : Prop where
  turns : Turns P x fun r => o.dev r.2.1.dev
  once : FdsOnce (P + acquires x.log)
  fresh : ∀ e, .event e ∈ acquires x.log → e ∉ m.registered
  registers : ∀ r, x.result = .ok r →
    r.2.2.registered = m.registered ++ (r.2.1.dev.bind o.event).toList ∧
      ∀ e, r.2.1.dev.bind o.event = some e → e ∉ m.registered
  vqs_eq : ∀ r, x.result = .ok r → r.2.1.vqs = vqs

namespace Making

variable {o : Owner δ} {vqs : Bool} {m m' : EventMonitor}
  {x : Handles (Int × Vdev δ × EventMonitor)} {r : Resource} {ret : Int} {d : Option δ}

theorem ok (hP : P = o.dev d) (honce : FdsOnce (o.dev d))
    (hreg : m'.registered = m.registered ++ (d.bind o.event).toList)
    (hnew : ∀ e, d.bind o.event = some e → e ∉ m.registered) :
    Making o vqs m P (.lift (.ok (ret, ⟨d, vqs⟩, m'))) where
  turns := .ok hP
  once := by rwa [Traced.log_lift, acquires, add_zero, hP]
  fresh e he := absurd he (Multiset.notMem_zero _)
  registers r hr := by
    cases hr
    exact ⟨hreg, hnew⟩
  vqs_eq r hr := by
    cases hr
    rfl

/-- Without an event. -/
theorem quiet (hP : P = o.dev d) (honce : FdsOnce (o.dev d)) (hevent : d.bind o.event = none) :
    Making o vqs m P (.lift (.ok (ret, ⟨d, vqs⟩, m))) := by
  refine .ok hP honce ?_ fun e he => ?_
  · rw [hevent, Option.toList_none, List.append_nil]
  · rw [hevent] at he
    cases he

theorem error {e : EventFault} (honce : FdsOnce P) : Making o vqs m P (.lift (.error e)) where
  turns := .error
  once := by rwa [Traced.log_lift, acquires, add_zero]
  fresh e he := absurd he (Multiset.notMem_zero _)
  registers r hr := by cases hr
  vqs_eq r hr := by cases hr

theorem acquire (h : Making o vqs m ({r} + P) x) (hr : ∀ e, r = .event e → e ∉ m.registered) :
    Making o vqs m P (x.tell (.acquire r)) where
  turns := h.turns.acquire
  once := by
    have heq : P + acquires (x.tell (.acquire r)).log = {r} + P + acquires x.log := by
      rw [Traced.log_tell, acquires]
      abel
    rw [heq]
    exact h.once
  fresh e he := by
    rcases Multiset.mem_add.mp he with he | he
    · exact hr e (Multiset.mem_singleton.mp he).symm
    · exact h.fresh e he
  registers := h.registers
  vqs_eq := h.vqs_eq

theorem acquire_block {b : Block} (h : Making o vqs m ({.block b} + P) x) :
    Making o vqs m P (x.tell (.acquire (.block b))) := h.acquire nofun

theorem release (h : Making o vqs m P x) (honce : FdsOnce ({r} + P + acquires x.log)) :
    Making o vqs m ({r} + P) (x.tell (.release r)) where
  turns := h.turns.release
  once := honce
  fresh := h.fresh
  registers := h.registers
  vqs_eq := h.vqs_eq

/-- A block, or another resource that is neither a descriptor nor an event. -/
theorem release_other (h : Making o vqs m P x) (hr : ∀ n, .fd n ≠ r) :
    Making o vqs m ({r} + P) (x.tell (.release r)) := by
  refine h.release ?_
  rw [add_assoc]
  exact fdsOnce_add h.once fun n hn => hr n (Multiset.mem_singleton.mp hn)

theorem release_block {b : Block} (h : Making o vqs m P x) :
    Making o vqs m ({.block b} + P) (x.tell (.release (.block b))) := h.release_other nofun

theorem openFd {answer : Option Nat} {k : Int → Handles (Int × Vdev δ × EventMonitor)}
    (hsome : ∀ n : Nat, answer = some n → Making o vqs m ({.fd n} + P) (k n))
    (hnone : answer = none → Making o vqs m P (k (-1))) : Making o vqs m P (openFd answer k) := by
  cases answer with
  | none => exact hnone rfl
  | some n => exact (hsome n rfl).acquire nofun

/-- `add_event`: no event, or a new one that is then held. -/
theorem addEvent {fd : Int} {handler : UInt64} {calloc : EventCalloc} {epollCtl : Bool}
    {k : Option UInt64 × EventMonitor → Handles (Int × Vdev δ × EventMonitor)}
    (hnone : Making o vqs m P (k (none, m)))
    (hsome : ∀ hevent m', m'.registered = m.registered ++ [hevent] → hevent ∉ m.registered →
      Making o vqs m ({.event hevent} + ({.block (.event hevent)} + P)) (k (some hevent, m'))) :
    Making o vqs m P ((m.addEvent fd handler calloc epollCtl).bind k) := by
  unfold EventMonitor.addEvent
  split
  · exact hnone
  · split
    · exact hnone
    · split
      · exact .error (fdsOnce_mono hnone.once)
      · next hevent hcalloc =>
        cases epollCtl with
        | true =>
          have hnew := calloc.fresh _ _ hcalloc
          exact ((hsome hevent _ (EventMonitor.registered_append rfl) hnew).acquire
            fun e he => by cases he; exact hnew).acquire_block
        | false => exact hnone.release_block.acquire_block

end Making

/-! ## 4. The four devices

Each function that acquires hands on what it has acquired, with the field that records it. -/

theorem heldFd_nat (n : Nat) : heldFd n = {.fd (n : Int)} := by
  rw [heldFd, heldIf, if_pos (Int.natCast_nonneg n)]

theorem heldFd_none : heldFd (-1) = 0 := rfl

section Devices

variable {o : Owner δ} {vqs : Bool} {m : EventMonitor}

theorem mallocBlock_making {answer : Bool} {b : Block}
    {k : Bool → Handles (Int × Vdev δ × EventMonitor)}
    (hk : ∀ got, Making o vqs m (heldIf (got = true) (.block b) + P) (k got)) :
    Making o vqs m P (mallocBlock answer b k) := by
  cases answer with
  | true => exact (hk true).acquire_block
  | false =>
    have hnone := hk false
    rwa [heldIf, if_neg Bool.false_ne_true, zero_add] at hnone

theorem scmiCopyIdArray_making {b : Block} {src : IdArray} {calloc : Bool}
    {k : Int → Bool → Handles (Int × Vdev δ × EventMonitor)}
    (hk : ∀ ret got, Making o vqs m (heldIf (got = true) (.block b) + P) (k ret got)) :
    Making o vqs m P (scmiCopyIdArray b src calloc k) := by
  have hnone : ∀ ret, Making o vqs m P (k ret false) := by
    intro ret
    have hnone := hk ret false
    rwa [heldIf, if_neg Bool.false_ne_true, zero_add] at hnone
  unfold scmiCopyIdArray
  split
  · exact hnone 0
  · split
    · exact hnone _
    · exact (hk 0 true).acquire_block

/-- A tap that is closed again has to be the last descriptor. -/
theorem openTap_making {ans : NetAnswers} {k : Int → Handles (Int × Vdev δ × EventMonitor)}
    (honce : ∀ fd, FdsOnce (heldFd fd + P)) (hlog : acquires (k (-1)).log = 0)
    (hk : ∀ fd, Making o vqs m (heldFd fd + P) (k fd)) : Making o vqs m P (openTap ans k) := by
  have hnone := hk (-1)
  rw [heldFd_none, zero_add] at hnone
  refine .openFd (fun n _ => ?_) fun _ => ?_
  · rw [if_neg (Int.not_lt.mpr (Int.natCast_nonneg n))]
    split
    · refine hnone.release ?_
      rw [hlog, add_zero, ← heldFd_nat]
      exact honce n
    · have hsome := hk n
      rwa [heldFd_nat] at hsome
  · exact hnone

end Devices

section Blk

variable {vqs : Bool} {m : EventMonitor} {ans : BlkAnswers}

theorem initBlkDev_making {k : Bool → Option BlkDev → Handles (Int × Vdev BlkDev × EventMonitor)}
    (hfail : Making blkOwner vqs m P (k false none))
    (hk : Making blkOwner vqs m ({.cond} + ({.mutex} + ({.block .dev} + P)))
      (k true (some ⟨-1, false, true, true⟩))) :
    Making blkOwner vqs m P (initBlkDev ans k) := by
  have hfree : Making blkOwner vqs m ({.block .dev} + P)
      (.tell (.release (.block .dev)) (k false none)) := hfail.release_block
  unfold initBlkDev
  split
  · exact hfail
  · refine .acquire_block ?_
    split
    · exact hfree
    · refine .acquire ?_ nofun
      split
      · exact hfree.release_other nofun
      · exact hk.acquire nofun

variable {k : Int → Option BlkDev → Handles (Int × Vdev BlkDev × EventMonitor)}

theorem virtioBlkInit_making {dev : BlkDev}
    (hk : ∀ ret fd, Making blkOwner vqs m (heldFd fd + P) (k ret (some { dev with imgFd := fd }))) :
    Making blkOwner vqs m P (virtioBlkInit ans (some dev) k) := by
  unfold virtioBlkInit
  refine .openFd (fun n _ => ?_) fun _ => ?_
  · have hsome : ∀ ret, Making blkOwner vqs m ({.fd (n : Int)} + P)
        (k ret (some { dev with imgFd := n })) := fun ret => heldFd_nat n ▸ hk ret n
    split
    · exact hsome _
    · split
      · exact hsome _
      · split
        · split <;> exact hsome _
        · exact hsome _
  · have hnone := hk (-1) (-1)
    rw [heldFd_none, zero_add] at hnone
    exact hnone

theorem startBlkWorker_making {dev : BlkDev} (hdev : dev.threadStarted = false)
    (hk : ∀ ret started, Making blkOwner vqs m (heldIf (started = true) .thread + P)
      (k ret (some { dev with threadStarted := started }))) :
    Making blkOwner vqs m P (startBlkWorker ans (some dev) k) := by
  unfold startBlkWorker
  dsimp only
  rw [if_neg (by rw [hdev]; decide)]
  split
  · have hnone := hk (-1) false
    rw [heldIf, if_neg Bool.false_ne_true, zero_add, ← hdev] at hnone
    exact hnone
  · exact (hk 0 true).acquire nofun

theorem virtioBlkDoInit_making (params : Bool) (ans : BlkAnswers) (vqs : Bool) (m : EventMonitor) :
    Making blkOwner vqs m 0 (virtioBlkDoInit params ans ⟨none, vqs⟩ m) := by
  unfold virtioBlkDoInit
  split
  · exact .quiet rfl (blkOwner_once _) rfl
  · refine initBlkDev_making (.quiet rfl (blkOwner_once _) rfl) ?_
    rw [if_neg (by decide)]
    refine virtioBlkInit_making fun ret fd => ?_
    split
    · refine .quiet ?_ (blkOwner_once _) rfl
      simp only [Owner.dev, blkOwner, heldIf, if_true, if_neg Bool.false_ne_true]
      abel
    · refine startBlkWorker_making rfl fun ret started => ?_
      refine .quiet ?_ (blkOwner_once _) rfl
      simp only [Owner.dev, blkOwner, heldIf, if_true]
      abel

end Blk

theorem virtioNetDoInit_making (handler : Handler) (params : Bool) (ans : NetAnswers) (vqs : Bool)
    (m : EventMonitor) :
    Making netOwner vqs m 0 (virtioNetDoInit handler params ans ⟨none, vqs⟩ m) := by
  -- with the descriptor only
  have hfd : ∀ ret fd, Making netOwner vqs m (heldFd fd + ({.block .dev} + 0))
      (.lift (.ok (ret, ⟨some ⟨fd, none, false, false⟩, vqs⟩, m))) := by
    intro ret fd
    refine .quiet ?_ (netOwner_once _) rfl
    simp only [Owner.dev, netOwner, heldIf, if_neg Bool.false_ne_true, Option.map_none, heldSome]
    abel
  unfold virtioNetDoInit
  split
  · exact .quiet rfl (netOwner_once _) rfl
  · split
    · exact .quiet rfl (netOwner_once _) rfl
    · refine .acquire_block ?_
      refine openTap_making (fun fd => fdsOnce_mono (hfd 0 fd).once) rfl fun fd => ?_
      split
      · exact hfd _ fd
      · split
        · exact hfd _ fd
        · refine .addEvent (hfd _ fd) fun hevent m' hreg hnew => ?_
          rw [if_neg (Option.some_ne_none hevent)]
          refine mallocBlock_making fun inIov => mallocBlock_making fun outIov => ?_
          refine .ok ?_ (netOwner_once _) hreg fun e he => ?_
          · simp only [Owner.dev, netOwner, Option.map_some, heldSome]
            abel
          · cases he
            exact hnew

theorem virtioScmiDoInit_making (params : Option VirtioScmiInitParams) (ans : ScmiAnswers)
    (vqs : Bool) (m : EventMonitor) :
    Making scmiOwner vqs m 0 (virtioScmiDoInit params ans ⟨none, vqs⟩ m) := by
  unfold virtioScmiDoInit
  split
  · exact .quiet rfl (scmiOwner_once _) rfl
  · refine .acquire_block ?_
    cases params with
    | none =>
      refine .quiet ?_ (scmiOwner_once _) rfl
      simp only [Owner.dev, scmiOwner, heldIf, if_neg Bool.false_ne_true, zero_add, add_zero]
    | some p =>
      refine scmiCopyIdArray_making fun ret clockIds => ?_
      split
      · refine .quiet ?_ (scmiOwner_once _) rfl
        simp only [Owner.dev, scmiOwner, heldIf, if_neg Bool.false_ne_true, zero_add, add_zero]
      · refine scmiCopyIdArray_making fun ret resetIds => ?_
        split
        · refine .quiet ?_ (scmiOwner_once _) rfl
          simp only [Owner.dev, scmiOwner, heldIf, if_neg Bool.false_ne_true]
          abel
        · refine scmiCopyIdArray_making fun ret powerIds => ?_
          refine .quiet ?_ (scmiOwner_once _) rfl
          simp only [Owner.dev, scmiOwner]
          abel

/-- The console closes its master although the structure has it: there is no name for the slave,
    or it cannot be opened. -/
def ConsoleAnswers.ClosesEarly (ans : ConsoleAnswers) : Prop :=
  ans.malloc = true ∧ ans.openpt.isSome = true ∧ ans.grantpt = true ∧ ans.unlockpt = true ∧
    (ans.ptsname = false ∨ ans.openSlave = none)

variable {ans : ConsoleAnswers}

theorem virtioConsoleDoInit_making (handler : Handler) (h : ¬ ans.ClosesEarly) (vqs : Bool)
    (m : EventMonitor) :
    Making consoleOwner vqs m 0 (virtioConsoleDoInit handler ans ⟨none, vqs⟩ m) := by
  have hfresh : ∀ ret, Making consoleOwner vqs m ({.block .dev} + 0)
      (.lift (.ok (ret, ⟨some ⟨-1, -1, none⟩, vqs⟩, m))) := by
    intro ret
    refine .quiet ?_ (consoleOwner_once (by decide)) rfl
    simp only [Owner.dev, consoleOwner, heldFd_none, Option.map_none, heldSome, zero_add, add_zero]
  unfold virtioConsoleDoInit
  split
  · exact .quiet rfl (fdsOnce_none (by simp [Owner.dev])) rfl
  next hmalloc =>
  refine .acquire_block ?_
  unfold virtioConsoleInit
  dsimp only
  refine .openFd (fun n hn => ?_) fun _ => hfresh _
  have hclosed : ∀ ret, Making consoleOwner vqs m ({.fd (n : Int)} + ({.block .dev} + 0))
      (.tell (.release (.fd n)) (.lift (.ok (ret, ⟨some ⟨-1, -1, none⟩, vqs⟩, m)))) := by
    intro ret
    refine (hfresh ret).release ?_
    rw [← heldFd_nat, add_assoc]
    exact fdsOnce_heldFd (hfresh ret).once (by simp [acquires])
  rw [if_neg (Int.not_lt.mpr (Int.natCast_nonneg n))]
  split
  · exact hclosed _
  next hgrant =>
  split
  · exact hclosed _
  next hunlock =>
  -- from here on the structure has the master
  have hnot : ¬ (ans.ptsname = false ∨ ans.openSlave = none) := fun hearly =>
    h ⟨by simpa using hmalloc, by rw [hn]; rfl, by simpa using hgrant, by simpa using hunlock, hearly⟩
  obtain ⟨hname, hslave⟩ := not_or.mp hnot
  rw [if_neg (by simpa using hname)]
  refine .openFd (fun s hs => ?_) fun hnone => absurd hnone hslave
  have hne : (n : Int) ≠ s := fun heq => ans.fresh n hn (by rw [hs, Int.ofNat_inj.mp heq])
  have hquiet : ∀ ret, Making consoleOwner vqs m
      ({.fd (s : Int)} + ({.fd (n : Int)} + ({.block .dev} + 0)))
      (.lift (.ok (ret, ⟨some ⟨n, s, none⟩, vqs⟩, m))) := by
    intro ret
    refine .quiet ?_ (consoleOwner_once fun _ => hne) rfl
    simp only [Owner.dev, consoleOwner, heldFd_nat, Option.map_none, heldSome]
    abel
  rw [if_neg (Int.not_lt.mpr (Int.natCast_nonneg s))]
  split
  · exact hquiet _
  · refine .addEvent (hquiet _) fun hevent m' hreg hnew => ?_
    refine .ok ?_ (consoleOwner_once fun _ => hne) hreg fun e he => ?_
    · simp only [Owner.dev, consoleOwner, heldFd_nat, Option.map_some, heldSome]
      abel
    · cases he
      exact hnew

/-! ## 5. The creation -/

/-- What a failed creation should have done: each descriptor that was opened has been closed
    once, and no event that was registered is in the table. -/
structure Clean (log : List (Handling Resource)) (m : EventMonitor) : Prop where
  closedOnce : ∀ n, .acquire (.fd n) ∈ log → log.count (.release (.fd n)) = 1
  removed : ∀ e, .acquire (.event e) ∈ log → e ∉ m.registered

/-- What is acquired once and settled is clean. -/
theorem clean_of_settled {log : List (Handling Resource)} {m : EventMonitor}
    (hsettled : acquires log = releases log) (honce : FdsOnce (acquires log))
    (hfresh : ∀ e, .event e ∈ acquires log → e ∉ m.registered) : Clean log m where
  closedOnce n hn := by
    have hle := honce n
    have hpos : 0 < (acquires log).count (.fd n) := Multiset.count_pos.mpr (mem_acquires.mpr hn)
    rw [← count_releases, ← hsettled]
    omega
  removed e he := hfresh e (mem_acquires.mpr he)

/-- A creation behind `init_virtio_queue`. -/
def initOrErr (ops : Ops δ) (m : EventMonitor) : Handles (Option (Vdev δ) × EventMonitor) :=
  (ops.init ⟨none, true⟩ m).bind fun made =>
    if made.1 ≠ 0 then createErr ops made.2.1 made.2.2
    else .lift (.ok (some made.2.1, made.2.2))

/-- The ways of a creation: without a device, without queues, and to `init`. -/
theorem create_cases (ops : Ops δ) (vdevCalloc vqsCalloc : Bool) (m : EventMonitor) :
    createVirtioDeviceUnpublished ops vdevCalloc vqsCalloc m = .lift (.ok (none, m)) ∨
      createVirtioDeviceUnpublished ops vdevCalloc vqsCalloc m =
        .tell (.acquire (.block .vdev)) (createErr ops ⟨none, false⟩ m) ∨
      (vdevCalloc = true ∧ vqsCalloc = true) ∧
        createVirtioDeviceUnpublished ops vdevCalloc vqsCalloc m =
          .tell (.acquire (.block .vdev)) (.tell (.acquire (.block .vqs)) (initOrErr ops m)) := by
  unfold createVirtioDeviceUnpublished initVirtioQueue
  split
  · exact .inl rfl
  · next hvdev =>
    split
    · exact .inr (.inl rfl)
    · split
      · exact .inr (.inl rfl)
      · next hvqs => exact .inr (.inr ⟨⟨by simpa using hvdev, by simpa using hvqs⟩, rfl⟩)

section Create

variable {ops : Ops δ} {o : Owner δ} (hclose : Closes o ops.close)

include hclose

theorem createErr_turns {v : Vdev δ} {m : EventMonitor}
    (h : ∀ e, v.dev.bind o.event = some e → e ∈ m.registered) :
    Turns (o.vdev v) (createErr ops v m) fun r => (r.1.map o.vdev).getD 0 :=
  ((hclose v m).turns h).bind fun _ _ => .ok rfl

/-- What the label `err` returns, and what it leaves of the event. -/
theorem createErr_result (v : Vdev δ) (m : EventMonitor) :
    acquires (createErr ops v m).log = 0 ∧
      ∃ m', (createErr ops v m).result = .ok (none, m') ∧
        m'.registered = (v.dev.bind o.event).toList.foldl List.erase m.registered := by
  obtain ⟨-, hlog, m', hres, hreg⟩ := hclose v m
  unfold createErr
  generalize ops.close v m = x at hres hlog
  obtain ⟨log, result⟩ := x
  cases hres
  refine ⟨?_, m', rfl, hreg⟩
  rw [Traced.ok_bind, Traced.log_lift, List.append_nil]
  exact hlog

variable {m m' : EventMonitor}

/-- The part behind the queues, as a whole. -/
theorem initOrErr_turns (hinit : Making o true m 0 (ops.init ⟨none, true⟩ m)) :
    Turns ({.block .vqs} + {.block .vdev}) (initOrErr ops m) fun r => (r.1.map o.vdev).getD 0 := by
  have hframe := hinit.turns.frame ({.block .vqs} + {.block .vdev})
  rw [zero_add] at hframe
  refine hframe.bind fun r hr => ?_
  have hvdev : o.dev r.2.1.dev + ({.block .vqs} + {.block .vdev}) = o.vdev r.2.1 := by
    rw [Owner.vdev, heldIf, if_pos (hinit.vqs_eq r hr)]
  rw [hvdev]
  split
  · refine createErr_turns hclose fun e he => ?_
    rw [(hinit.registers r hr).1, he]
    exact List.mem_append_right _ List.mem_cons_self
  · exact .ok rfl

theorem acquires_initOrErr (m : EventMonitor) :
    acquires (initOrErr ops m).log = acquires (ops.init ⟨none, true⟩ m).log := by
  unfold initOrErr
  generalize ops.init ⟨none, true⟩ m = x
  obtain ⟨log, result⟩ := x
  cases result with
  | error e => rfl
  | ok r =>
    rw [Traced.ok_bind, acquires_append]
    split
    · rw [(createErr_result hclose r.2.1 r.2.2).1, add_zero]
    · exact add_zero _

/-- Behind a failed `init` the table has the events it had before. -/
theorem registered_initOrErr (hinit : Making o true m 0 (ops.init ⟨none, true⟩ m))
    (h : (initOrErr ops m).result = .ok (none, m')) : m'.registered = m.registered := by
  unfold initOrErr at h
  rw [Traced.result_bind] at h
  obtain ⟨r, hr, h⟩ := bind_eq_ok.mp h
  obtain ⟨hreg, hnew⟩ := hinit.registers r hr
  split at h
  · obtain ⟨-, m'', hres, hm⟩ := createErr_result hclose r.2.1 r.2.2
    rw [hres] at h
    cases h
    rw [hm, hreg]
    cases hevent : r.2.1.dev.bind o.event with
    | none => exact List.append_nil _
    | some e =>
      show (m.registered ++ [e]).erase e = m.registered
      rw [List.erase_append_right _ (hnew e hevent), List.erase_cons_head, List.append_nil]
  · cases h

/-- **A creation whose `init` leaves with what the structure records fails cleanly.** -/
theorem create_clean {vdevCalloc vqsCalloc : Bool}
    (hinit : vdevCalloc = true ∧ vqsCalloc = true → Making o true m 0 (ops.init ⟨none, true⟩ m))
    (h : (createVirtioDeviceUnpublished ops vdevCalloc vqsCalloc m).result = .ok (none, m')) :
    Clean (createVirtioDeviceUnpublished ops vdevCalloc vqsCalloc m).log m' := by
  have hcases := create_cases ops vdevCalloc vqsCalloc m
  generalize createVirtioDeviceUnpublished ops vdevCalloc vqsCalloc m = x at h hcases ⊢
  rcases hcases with rfl | rfl | ⟨hreached, rfl⟩
  · exact ⟨fun n hn => (by cases hn), fun e he => (by cases he)⟩
  · obtain ⟨hlog, m'', hres, hreg⟩ := createErr_result hclose ⟨none, false⟩ m
    have hturns := createErr_turns hclose (v := ⟨none, false⟩) (m := m) nofun
    have hall : acquires (.acquire (.block .vdev) :: (createErr ops ⟨none, false⟩ m).log) =
        {.block .vdev} := by rw [acquires, hlog, add_zero]
    refine clean_of_settled (Turns.settled (.acquire (hturns.of_eq ?_)) h rfl) ?_ ?_
    · rfl
    · rw [Traced.log_tell, hall]
      exact fdsOnce_none (by simp)
    · rw [Traced.log_tell, hall]
      simp
  · have hinit := hinit hreached
    have hreg := registered_initOrErr hclose hinit h
    have hturns := initOrErr_turns hclose hinit
    refine clean_of_settled (Turns.settled (.acquire (.acquire (hturns.of_eq rfl))) h rfl) ?_ ?_
    · rw [Traced.log_tell, Traced.log_tell, acquires, acquires, acquires_initOrErr hclose]
      have honce := hinit.once
      rw [zero_add] at honce
      have hblock : ∀ b n, .fd n ∉ ({.block b} : Multiset Resource) := by simp
      exact fdsOnce_add (fdsOnce_add honce (hblock _)) (hblock _)
    · intro e he
      rw [Traced.log_tell, Traced.log_tell, acquires, acquires, acquires_initOrErr hclose] at he
      rw [hreg]
      exact hinit.fresh e (by simpa using he)

end Create

/-- A creation that cleans up if it fails. -/
def FailsClean (x : Handles (Bool × EventMonitor)) : Prop :=
  ∀ m', x.result = .ok (false, m') → Clean x.log m'

theorem failsClean_created {x : Handles (Option (Vdev δ) × EventMonitor)}
    (h : ∀ m', x.result = .ok (none, m') → Clean x.log m') : FailsClean (created x) := by
  obtain ⟨log, result⟩ := x
  intro m' hres
  cases result with
  | error e => cases hres
  | ok r =>
    obtain ⟨v, m⟩ := r
    cases v with
    | some v => cases hres
    | none =>
      cases hres
      rw [created, Traced.ok_bind, Traced.log_lift, List.append_nil]
      exact h m rfl

/-- The creation of a console comes to a point at which it closes its master too early. -/
def CreateRequest.ClosesTwice (r : CreateRequest) : Prop :=
  (r.vdevCalloc = true ∧ r.vqsCalloc = true) ∧
    ∃ handler ans, r.device = .console handler ans ∧ ans.ClosesEarly

/-- What the console's `init` has done there. -/
theorem virtioConsoleDoInit_early (handler : Handler) (h : ans.ClosesEarly) (vqs : Bool)
    (m : EventMonitor) :
    ∃ n : Nat, virtioConsoleDoInit handler ans ⟨none, vqs⟩ m =
      ⟨[.acquire (.block .dev), .acquire (.fd n), .release (.fd n)],
        .ok (-1, ⟨some ⟨n, -1, none⟩, vqs⟩, m)⟩ := by
  obtain ⟨hmalloc, hopen, hgrant, hunlock, hslave⟩ := h
  obtain ⟨n, hn⟩ := Option.isSome_iff_exists.mp hopen
  refine ⟨n, ?_⟩
  have hneg : ¬ (n : Int) < 0 := Int.not_lt.mpr (Int.natCast_nonneg n)
  simp only [virtioConsoleDoInit, virtioConsoleInit, hmalloc, hn, hgrant, hunlock, openFd, hneg]
  rcases hslave with hname | hnone
  · simp only [hname]
    rfl
  · simp only [hnone]
    cases ans.ptsname <;> rfl

/-- There the creation closes the master twice: in `init` and in `close`. -/
theorem create_early (handler : Handler) (h : ans.ClosesEarly) (m : EventMonitor) :
    ∃ n : Nat, create ⟨true, true, .console handler ans⟩ m =
      ⟨[.acquire (.block .vdev), .acquire (.block .vqs), .acquire (.block .dev),
        .acquire (.fd n), .release (.fd n), .release (.fd n), .release (.block .dev),
        .release (.block .vqs), .release (.block .vdev)], .ok (false, m)⟩ := by
  obtain ⟨n, hinit⟩ := virtioConsoleDoInit_early handler h true m
  have hclose : virtioConsoleClose ⟨some ⟨n, -1, none⟩, true⟩ m =
      ⟨[.release (.fd n), .release (.block .dev), .release (.block .vqs),
        .release (.block .vdev)], .ok m⟩ := by
    unfold virtioConsoleClose closeFd
    dsimp only
    rw [releaseIf, if_pos (Int.natCast_nonneg n)]
    rfl
  refine ⟨n, ?_⟩
  have hunpublished : createVirtioDeviceUnpublished (virtioConsoleOps handler ans) true true m =
      .tell (.acquire (.block .vdev)) (.tell (.acquire (.block .vqs))
        (initOrErr (virtioConsoleOps handler ans) m)) := rfl
  have herr : initOrErr (virtioConsoleOps handler ans) m =
      (virtioConsoleDoInit handler ans ⟨none, true⟩ m).bind fun made =>
        if made.1 ≠ 0 then (virtioConsoleClose made.2.1 made.2.2).bind fun m => .lift (.ok (none, m))
        else .lift (.ok (some made.2.1, made.2.2)) := rfl
  show created (createVirtioDeviceUnpublished (virtioConsoleOps handler ans) true true m) = _
  rw [hunpublished, herr, hinit, Traced.ok_bind, if_pos (show (-1 : Int) ≠ 0 by decide), hclose]
  rfl

/-- **The creations that fail cleanly are all but those.** -/
theorem failed_creation_clean_iff (r : CreateRequest) (m : EventMonitor) :
    FailsClean (create r m) ↔ ¬ r.ClosesTwice := by
  obtain ⟨vdevCalloc, vqsCalloc, device⟩ := r
  constructor
  · rintro hclean ⟨⟨hvdev, hvqs⟩, handler, ans, hdevice, hearly⟩
    dsimp only at hvdev hvqs hdevice
    subst hvdev hvqs hdevice
    obtain ⟨n, hcreate⟩ := create_early handler hearly m
    rw [hcreate] at hclean
    have hone := (hclean m rfl).closedOnce n (by simp)
    simp at hone
  · intro hnot
    cases device with
    | blk params ans =>
        exact failsClean_created fun m' h => create_clean virtioBlkClose_closes
          (fun _ => virtioBlkDoInit_making params ans true m) h
    | net handler params ans =>
        exact failsClean_created fun m' h => create_clean virtioNetClose_closes
          (fun _ => virtioNetDoInit_making handler params ans true m) h
    | console handler ans =>
        refine failsClean_created fun m' h => create_clean virtioConsoleClose_closes
          (fun hreached => virtioConsoleDoInit_making handler (fun hearly => ?_) true m) h
        exact hnot ⟨hreached, handler, ans, rfl, hearly⟩
    | scmi params ans =>
        exact failsClean_created fun m' h => create_clean virtioScmiClose_closes
          (fun _ => virtioScmiDoInit_making params ans true m) h

/-- A console whose slave cannot be opened. -/
def consoleWithoutSlave : CreateRequest where
  vdevCalloc := true
  vqsCalloc := true
  device := .console ⟨1, by decide⟩
    { malloc := true
      openpt := some 5
      grantpt := true
      unlockpt := true
      ptsname := true
      openSlave := none
      fcntl := ⟨true, true⟩
      eventCalloc := ⟨fun _ => none, nofun⟩
      epollCtl := true
      fresh := nofun }

/-- Its creation fails, with the master closed twice. -/
theorem master_closed_twice :
    (create consoleWithoutSlave .empty).result = .ok (false, .empty) ∧
      (create consoleWithoutSlave .empty).log.count (.release (.fd 5)) = 2 ∧
      ¬ FailsClean (create consoleWithoutSlave .empty) := by
  have hcount : (create consoleWithoutSlave .empty).log.count (.release (.fd 5)) = 2 := by decide
  refine ⟨rfl, hcount, fun hclean => ?_⟩
  have hone := (hclean .empty rfl).closedOnce 5 (by decide)
  rw [hcount] at hone
  exact absurd hone (by decide)

end Creation

end HvisorTool
