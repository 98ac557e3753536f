/-
  File:      HvisorTool/Device/Rings.lean
  Subject:   WHAT A HANDLER DOES WITH THE RINGS OF A QUEUE, access by access.

  A handler runs on one queue, whose three pointers do not change while it does. What it
  finds in guest memory may be something else each time it looks: the driver runs beside
  it. So a run comes with a tape of what the handler sees, one entry a look, and what it
  stores into the rings is not followed further.

  A handler that reads through a pointer that is `NULL` stops there (`RingStop.null`).
  It may also stop in a way that the rings have no part in (`elsewhere`), or be cut off
  where the tape or the rounds end (`running`).

  * `Ring`: handlers, as programs; `deref`, `see`: one access, one look;
  * `virtqueueIsEmpty`, `virtqueueDisableNotify`, `virtqueueEnableNotify`,
    `virtioInjectIrq`, `chainPass`: what the devices share;
  * `whileBusy`: the loop over a queue;
  * `Safe vq m`: the program never reads through `NULL`; the rules for each of these;
  * `whileBusy_busy`, …: how they run on a given tape.
-/
import HvisorTool.Irq.Line
import HvisorTool.Library.Program
import HvisorTool.Mmio.QueueAddr
import HvisorTool.Net.Packets
import HvisorTool.Scmi.Core
import HvisorTool.Virtio.Chain

namespace HvisorTool

open Library

/-! ## 1. Programs -/

/-- How a handler can end other than by returning. -/
inductive RingStop where
  | null (p : RingPart)
  | elsewhere (e : ChainError)
  | running
  deriving DecidableEq, Repr

/-- What a handler finds at one look: guest memory, and what its calls answer from there
    on. `fuel` bounds the walk of `process_descriptor_chain`. -/
structure Sight where
  mem : Mem
  readv : ReadvResult
  writev : Option Nat
  kernel : ScmiKernel
  finishReq : Int
  pad : UInt64
  fuel : Nat

/-- What a handler changes: the two indices of its queue, the interrupt line, the
    private part of the device, and the completions it has collected. -/
structure RingState (δ : Type) where
  lastAvailIdx : UInt16
  lastUsedIdx : UInt16
  irq : IrqLine
  dev : δ
  batch : List Completion
  tape : List Sight

/-- A handler. -/
abbrev Ring (δ : Type) (α : Type) := StateT (RingState δ) (Except RingStop) α

variable {δ : Type}

/-- An access through a pointer of the queue. -/
def deref (vq : VirtQueue) (p : RingPart) : Ring δ Unit :=
  if p.ptr vq = 0 then throw (.null p) else pure ()

/-- The queue as it is now. -/
def RingState.queue (s : RingState δ) (vq : VirtQueue) : VirtQueue :=
  { vq with lastAvailIdx := s.lastAvailIdx, lastUsedIdx := s.lastUsedIdx }

/-- A look at guest memory, with the queue as it is now. -/
def see (vq : VirtQueue) : Ring δ (Sight × VirtQueue) := fun s =>
  match s.tape with
  | [] => .error .running
  | x :: tape => .ok ((x, s.queue vq), { s with tape := tape })

/-- A call that ends in a way of its own. -/
def orStop {α : Type} (r : Except ChainError α) : Ring δ α :=
  match r with
  | .ok a => pure a
  | .error e => throw (.elsewhere e)

/-- `virtqueue_is_empty`. -/
def virtqueueIsEmpty (vq : VirtQueue) : Ring δ Bool :=
  if vq.availRing = 0 then pure true
  else do
    deref vq .avail
    let o ← see vq
    pure (o.2.vqIsEmpty o.1.mem)

/-- `virtqueue_disable_notify`: a store into the used ring in both modes. -/
def virtqueueDisableNotify (vq : VirtQueue) : Ring δ Unit := deref vq .used

/-- `virtqueue_enable_notify`: with the event index, `avail_ring->idx` is read for it. -/
def virtqueueEnableNotify (vq : VirtQueue) : Ring δ Unit := do
  whenever (vq.eventIdxEnabled ≠ 0) (deref vq .avail)
  deref vq .used

/-- The two tests of `virtio_inject_irq` behind the indices, one for each mode. -/
def VirtQueue.suppresses (mem : Mem) (vq : VirtQueue) (idx last : UInt16) : Bool :=
  if vq.eventIdxEnabled = 0 then vq.availFlags mem &&& 1 != 0
  else !vringNeedEvent (vq.usedEvent mem) idx last

/-- `virtio_inject_irq`. -/
def virtioInjectIrq (vq : VirtQueue) : Ring δ Unit := do
  deref vq .used
  let o ← see vq
  let idx := o.2.usedIdx o.1.mem
  modify fun s => { s with lastUsedIdx := idx }
  if idx = o.2.lastUsedIdx then pure ()
  else do
    deref vq .avail
    let o' ← see vq
    whenever (vq.suppresses o'.1.mem idx o.2.lastUsedIdx = false)
      (modify fun s => { s with irq := (s.irq.inject o'.1.finishReq).1 })

/-- The accesses of `process_descriptor_chain_buf` and of the read of the head before
    it. The table is not read in a queue of size 0. -/
def derefChainBuf (vq : VirtQueue) : Ring δ Unit := do
  deref vq .avail
  whenever (vq.num ≠ 0) (deref vq .desc)

/-- `process_descriptor_chain`: the return value and the result. Behind the test for a
    new request the table is read, whatever the size of the queue: the second pass makes
    a round where the first one makes none. -/
def chainPass (zm : ZoneTable) (vq : VirtQueue) (copyFlags : Bool) : Ring δ ChainResult := do
  deref vq .avail
  let o ← see vq
  whenever (o.2.lastAvailIdx ≠ o.2.availIdx o.1.mem) (deref vq .desc)
  let r ← orStop (processDescriptorChain zm o.1.mem o.2 o.1.fuel 0 copyFlags)
  modify fun s => { s with lastAvailIdx := r.vq.lastAvailIdx }
  pure r

/-- `while (!virtqueue_is_empty(vq))`, as long as the body says to go on, and for so many
    rounds. -/
def whileBusy (vq : VirtQueue) (body : Ring δ Bool) : Nat → Ring δ Unit
  | 0 => throw .running
  | n + 1 => do
      let empty ← virtqueueIsEmpty vq
      if empty then pure ()
      else do
        let more ← body
        if more then whileBusy vq body n else pure ()

/-- The used ring as it stands in memory. -/
def readUsed (mem : Mem) (vq : VirtQueue) : VirtqUsed :=
  { idx := vq.usedIdx mem
    ring := fun i =>
      let a := vq.usedRing + 4 + 8 * i.toUInt64
      ⟨readU32 mem a, readU32 mem (a + 4)⟩ }

/-! ## 2. Programs that do not read through `NULL` -/

/-- A stop other than at a pointer. -/
def RingStop.NotNull (e : RingStop) : Prop := ∀ p, e ≠ .null p

theorem notNull_running : RingStop.running.NotNull := fun _ h => by cases h

theorem notNull_elsewhere (e : ChainError) : (RingStop.elsewhere e).NotNull := fun _ h => by cases h

/-- Without an available ring nothing was collected; and `P` holds of the private part. -/
structure HandlerInv (P : δ → Prop) (vq : VirtQueue) (s : RingState δ) : Prop where
  batch : vq.availRing = 0 → s.batch = []
  dev : P s.dev

/-- The program does not read through a pointer of the queue that is `NULL`, while `P`
    holds of the private part. -/
def Safe {α : Type} (P : δ → Prop) (vq : VirtQueue) (m : Ring δ α) : Prop :=
  Keeps (HandlerInv P vq) RingStop.NotNull m

/-- Without an available ring a loop is left at once. -/
theorem whileBusy_null {vq : VirtQueue} (h : vq.availRing = 0) (body : Ring δ Bool) (n : Nat) :
    whileBusy vq body (n + 1) = pure () := by
  unfold whileBusy virtqueueIsEmpty
  rw [if_pos h]
  rfl

namespace Safe

variable {α β : Type} {P : δ → Prop} {vq : VirtQueue}

theorem pure (a : α) : Safe P vq (Pure.pure a : Ring δ α) := Keeps.pure a

theorem bind {m : Ring δ α} {f : α → Ring δ β} (hm : Safe P vq m) (hf : ∀ a, Safe P vq (f a)) :
    Safe P vq (m >>= f) :=
  Keeps.bind hm hf

theorem whenever {c : Prop} [Decidable c] {m : Ring δ PUnit} (hm : c → Safe P vq m) :
    Safe P vq (whenever c m) :=
  Keeps.whenever hm

theorem running : Safe P vq (throw .running : Ring δ α) := Keeps.throw notNull_running

theorem deref {p : RingPart} (h : p.ptr vq ≠ 0) : Safe P vq (deref vq p : Ring δ Unit) := by
  unfold HvisorTool.deref
  rw [if_neg h]
  exact pure _

theorem see : Safe P vq (see vq : Ring δ (Sight × VirtQueue)) := by
  intro s hs
  unfold HvisorTool.see
  cases s.tape with
  | nil => exact notNull_running
  | cons x tape => exact ⟨hs.batch, hs.dev⟩

theorem orStop (r : Except ChainError α) : Safe P vq (orStop r : Ring δ α) := by
  cases r with
  | ok a => exact pure a
  | error e => exact Keeps.throw (notNull_elsewhere e)

/-- A change of anything but the completions. -/
theorem change {f : RingState δ → RingState δ} (hb : ∀ s, (f s).batch = s.batch)
    (hd : ∀ s, P s.dev → P (f s).dev) : Safe P vq (modify f : Ring δ PUnit) :=
  Keeps.modify fun s hs => ⟨fun h => (hb s).trans (hs.batch h), hd s hs.dev⟩

/-- With an available ring the completions may change, too. -/
theorem changeAny {f : RingState δ → RingState δ} (h : vq.availRing ≠ 0)
    (hd : ∀ s, P s.dev → P (f s).dev) : Safe P vq (modify f : Ring δ PUnit) :=
  Keeps.modify fun s hs => ⟨fun h0 => absurd h0 h, hd s hs.dev⟩

theorem virtqueueIsEmpty : Safe P vq (virtqueueIsEmpty vq : Ring δ Bool) := by
  unfold HvisorTool.virtqueueIsEmpty
  split
  · exact pure _
  · next h => exact bind (deref h) fun _ => bind see fun _ => pure _

theorem virtqueueEnableNotify (hu : vq.usedRing ≠ 0)
    (ha : vq.eventIdxEnabled ≠ 0 → vq.availRing ≠ 0) :
    Safe P vq (virtqueueEnableNotify vq : Ring δ Unit) :=
  bind (whenever fun h => deref (ha h)) fun _ => deref hu

theorem virtioInjectIrq (hu : vq.usedRing ≠ 0) (ha : vq.availRing ≠ 0) :
    Safe P vq (virtioInjectIrq vq : Ring δ Unit) := by
  refine bind (deref hu) fun _ => bind see fun o =>
    bind (change (fun _ => rfl) fun _ h => h) fun _ => ?_
  split
  · exact pure _
  · exact bind (deref ha) fun _ => bind see fun _ =>
      whenever fun _ => change (fun _ => rfl) fun _ h => h

theorem derefChainBuf (ha : vq.availRing ≠ 0) (hd : vq.descTable ≠ 0 ∨ vq.num = 0) :
    Safe P vq (derefChainBuf vq : Ring δ Unit) :=
  bind (deref ha) fun _ => whenever fun hn => deref (hd.resolve_right hn)

theorem chainPass (zm : ZoneTable) (copyFlags : Bool) (ha : vq.availRing ≠ 0)
    (hd : vq.descTable ≠ 0) : Safe P vq (chainPass zm vq copyFlags : Ring δ ChainResult) :=
  bind (deref ha) fun _ => bind see fun _ => bind (whenever fun _ => deref hd) fun _ =>
    bind (orStop _) fun _ => bind (change (fun _ => rfl) fun _ h => h) fun _ => pure _

/-- The body of a loop only runs on a queue that has an available ring. -/
theorem whileBusy {body : Ring δ Bool} (hb : vq.availRing ≠ 0 → Safe P vq body) (n : Nat) :
    Safe P vq (whileBusy vq body n) := by
  induction n with
  | zero => exact running
  | succ n ih =>
    by_cases ha : vq.availRing = 0
    · rw [whileBusy_null ha]
      exact pure _
    · refine bind virtqueueIsEmpty fun empty => ?_
      split
      · exact pure _
      · refine bind (hb ha) fun more => ?_
        split
        · exact ih
        · exact pure _

/-- A safe handler does not stop at a pointer. -/
theorem not_null {m : Ring δ α} (h : Safe P vq m) {s : RingState δ} (hs : HandlerInv P vq s)
    (p : RingPart) : m s ≠ .error (.null p) := by
  intro he
  have hk := h s hs
  rw [he] at hk
  exact hk p rfl

end Safe

/-! ## 3. Runs on a given tape -/

/-- A look at memory that has the word `w` at `a`, where every call fails. -/
def showing (a : UInt64) (w : UInt16) : Sight :=
  { mem := fun b => if b = a then w.toUInt8 else (w >>> 8).toUInt8
    readv := .failed, writev := none, kernel := fun _ => none, finishReq := -1, pad := 0, fuel := 0 }

theorem readU16_showing (a : UInt64) (w : UInt16) : readU16 (showing a w).mem a = w := by
  have hne : a + 1 ≠ a := by simp
  have hlow : (showing a w).mem a = w.toUInt8 := if_pos rfl
  have hhigh : (showing a w).mem (a + 1) = (w >>> 8).toUInt8 := if_neg hne
  have hw := w.toNat_lt
  refine UInt16.toNat_inj.mp ?_
  rw [toNat_readU16, hlow, hhigh, UInt16.toNat_toUInt8, UInt16.toNat_toUInt8,
    UInt16.toNat_shiftRight]
  change w.toNat % 2 ^ 8 + 2 ^ 8 * (w.toNat >>> 8 % 2 ^ 8) = w.toNat
  rw [Nat.shiftRight_eq_div_pow]
  omega

/-- Memory that shows something other than `w`. -/
theorem showing_ne (a : UInt64) (w : UInt16) : readU16 (showing a (w + 1)).mem a ≠ w := by
  rw [readU16_showing]
  simp

section Runs

variable {vq : VirtQueue} {s : RingState δ} {x : Sight} {tape : List Sight}

theorem deref_null (p : RingPart) (h : p.ptr vq = 0) : deref vq p s = .error (.null p) := by
  unfold deref
  rw [if_pos h]
  rfl

theorem deref_ok (p : RingPart) (h : p.ptr vq ≠ 0) : deref vq p s = .ok ((), s) := by
  unfold deref
  rw [if_neg h]
  rfl

theorem see_cons (h : s.tape = x :: tape) :
    see vq s = .ok ((x, s.queue vq), { s with tape := tape }) := by
  unfold see
  rw [h]

theorem isEmpty_seen (ha : vq.availRing ≠ 0) (h : s.tape = x :: tape) :
    virtqueueIsEmpty vq s =
      .ok (readU16 x.mem (vq.availRing + 2) == s.lastAvailIdx, { s with tape := tape }) := by
  have hring : ((s.queue vq).availRing == 0) = false := beq_eq_false_iff_ne.mpr ha
  unfold virtqueueIsEmpty
  rw [if_neg ha, bind_ok (deref_ok .avail ha), bind_ok (see_cons h), VirtQueue.vqIsEmpty, hring]
  rfl

theorem isEmpty_busy (ha : vq.availRing ≠ 0) (h : s.tape = x :: tape)
    (hx : readU16 x.mem (vq.availRing + 2) ≠ s.lastAvailIdx) :
    virtqueueIsEmpty vq s = .ok (false, { s with tape := tape }) := by
  rw [isEmpty_seen ha h, beq_eq_false_iff_ne.mpr hx]

/-- A loop on a queue that shows a request runs its body. -/
theorem whileBusy_busy (ha : vq.availRing ≠ 0) (h : s.tape = x :: tape)
    (hx : readU16 x.mem (vq.availRing + 2) ≠ s.lastAvailIdx) {body : Ring δ Bool} {n : Nat}
    {e : RingStop} (hb : body { s with tape := tape } = .error e) :
    whileBusy vq body (n + 1) s = .error e := by
  unfold whileBusy
  rw [bind_ok (isEmpty_busy ha h hx)]
  exact bind_error hb _

theorem injectIrq_used (h : vq.usedRing = 0) :
    virtioInjectIrq vq s = .error (.null .used) := bind_error (deref_null .used h) _

/-- With a new used index the available ring is read, in both modes. -/
theorem injectIrq_avail (hu : vq.usedRing ≠ 0) (ha : vq.availRing = 0) (h : s.tape = x :: tape)
    (hx : readU16 x.mem (vq.usedRing + 2) ≠ s.lastUsedIdx) :
    virtioInjectIrq vq s = .error (.null .avail) := by
  unfold virtioInjectIrq
  rw [bind_ok (deref_ok .used hu), bind_ok (see_cons h)]
  have hne : ¬ (s.queue vq).usedIdx x.mem = (s.queue vq).lastUsedIdx := hx
  dsimp only
  rw [if_neg hne]
  exact (bind_ok rfl _).trans (bind_error (deref_null .avail ha) _)

/-- The walk behind a look at a request. -/
theorem chainPass_returns {zm : ZoneTable} {s' : RingState δ} {copyFlags : Bool} {r : ChainResult}
    (h : chainPass zm vq copyFlags s = .ok (r, s')) :
    ∃ y tape, s.tape = y :: tape ∧
      processDescriptorChain zm y.mem (s.queue vq) y.fuel 0 copyFlags = .ok r ∧
      s' = { s with tape := tape, lastAvailIdx := r.vq.lastAvailIdx } := by
  unfold chainPass at h
  obtain ⟨_, t, hderef, h₁⟩ := of_bind_ok h
  have ht : t = s := by
    unfold deref at hderef
    split at hderef
    · cases hderef
    · cases hderef
      rfl
  obtain ⟨o, t', hsee, h₂⟩ := of_bind_ok h₁
  unfold see at hsee
  rw [ht] at hsee
  cases htape : s.tape with
  | nil =>
    rw [htape] at hsee
    cases hsee
  | cons y tape =>
    rw [htape] at hsee
    cases hsee
    obtain ⟨_, t₂, hdesc, h₃⟩ := of_bind_ok h₂
    have ht₂ : t₂ = { s with tape := tape } := by
      unfold whenever deref at hdesc
      split at hdesc
      · split at hdesc
        · cases hdesc
        · cases hdesc
          rfl
      · cases hdesc
        rfl
    obtain ⟨r', t₃, hwalk, h₄⟩ := of_bind_ok h₃
    rw [ht₂] at hwalk
    dsimp only at hwalk
    cases hproc : processDescriptorChain zm y.mem (s.queue vq) y.fuel 0 copyFlags with
    | error e =>
      rw [hproc] at hwalk
      cases hwalk
    | ok a =>
      rw [hproc] at hwalk
      cases hwalk
      cases h₄
      exact ⟨y, tape, rfl, hproc, rfl⟩

end Runs

end HvisorTool
