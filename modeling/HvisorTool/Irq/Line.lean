/-
  File:      HvisorTool/Irq/Line.lean
  Subject:   THE INTERRUPT LINE OF A DEVICE: `regs.interrupt_status` and `interrupt_line_asserted`,
             and the four sections of the code that touch them under `interrupt_lock`.

  Each section is one function of the line and of what its `ioctl` returns
  (0 is success; `EINTR` is retried inside the section and never seen here).

  * `inject`: the locked part of `virtio_inject_irq`;
  * `ack`: the `INTERRUPT_ACK` branch of `virtio_mmio_write`;
  * `reset`: the start of `virtio_dev_reset`;
  * `Sound`: an asserted line has a status bit; every section keeps it whatever the `ioctl`s return;
  * `InStep`: status and line agree; kept where the `ioctl`s succeed.
-/
import Mathlib.Tactic.Common

namespace HvisorTool

/-- `VIRTIO_MMIO_INT_VRING`. -/
def intVring : UInt32 := 1

/-- `VIRTIO_MMIO_INT_CONFIG`. -/
def intConfig : UInt32 := 2

/-- The fields that `interrupt_lock` protects. -/
structure IrqLine where
  interruptStatus : UInt32
  interruptLineAsserted : Bool
  deriving DecidableEq, Repr, Inhabited

namespace IrqLine

/-- The line of a new device. -/
def down : IrqLine := { interruptStatus := 0, interruptLineAsserted := false }

/-- What `virtio_inject_irq` does under the lock, and whether it pushes an entry
    onto `res_list`. An asserted line is left as it is: the interrupt merges with
    the one the guest has not acknowledged yet. -/
def inject (l : IrqLine) (ret : Int) : IrqLine × Bool :=
  let status := l.interruptStatus ||| intVring
  if l.interruptLineAsserted then ({ l with interruptStatus := status }, false)
  else ({ interruptStatus := status, interruptLineAsserted := ret == 0 }, true)

/-- `status_after` of an acknowledgement. -/
def ackAfter (l : IrqLine) (value : UInt64) : UInt32 :=
  l.interruptStatus &&& ~~~(value.toUInt32 &&& (intVring ||| intConfig))

/-- The acknowledgement clears the last status bit. -/
def ackClears (l : IrqLine) (value : UInt64) : Bool :=
  l.interruptStatus != 0 && l.ackAfter value == 0

/-- The `INTERRUPT_ACK` write. The line is taken down first; if that fails the
    write has no effect. -/
def ack (l : IrqLine) (value : UInt64) (ret : Int) : IrqLine :=
  let deassertRet := if l.ackClears value && l.interruptLineAsserted then ret else 0
  if deassertRet = 0 then
    { interruptStatus := l.ackAfter value,
      interruptLineAsserted := l.ackAfter value != 0 && l.interruptLineAsserted }
  else l

/-- The locked part of `virtio_dev_reset`. -/
def reset (l : IrqLine) (ret : Int) : IrqLine :=
  let asserted := l.interruptLineAsserted && ret != 0
  { interruptStatus := if asserted then l.interruptStatus else 0,
    interruptLineAsserted := asserted }

/-! ## An asserted line has a status bit -/

/-- `interrupt_line_asserted` implies `interrupt_status != 0`. -/
def Sound (l : IrqLine) : Prop := l.interruptLineAsserted = true → l.interruptStatus ≠ 0

/-- `interrupt_line_asserted` iff `interrupt_status != 0`. -/
def InStep (l : IrqLine) : Prop := l.interruptLineAsserted = true ↔ l.interruptStatus ≠ 0

theorem sound_down : down.Sound := nofun

theorem inStep_down : down.InStep := ⟨nofun, fun h => absurd rfl h⟩

/-- Setting the ring bit leaves a status that is not 0. -/
theorem or_intVring_ne_zero (x : UInt32) : x ||| intVring ≠ 0 := by
  intro h
  have h1 : (x ||| intVring).toBitVec.getLsbD 0 = false := by rw [h]; rfl
  rw [UInt32.toBitVec_or, BitVec.getLsbD_or] at h1
  exact Bool.noConfusion ((Bool.or_eq_false_iff.mp h1).2)

theorem inject_status_ne_zero (l : IrqLine) (ret : Int) : (l.inject ret).1.interruptStatus ≠ 0 := by
  unfold inject
  split <;> exact or_intVring_ne_zero _

theorem sound_inject (l : IrqLine) (ret : Int) : (l.inject ret).1.Sound :=
  fun _ => l.inject_status_ne_zero ret

/-- An acknowledgement takes full effect or none. -/
theorem ack_cases (l : IrqLine) (value : UInt64) (ret : Int) :
    l.ack value ret =
        { interruptStatus := l.ackAfter value,
          interruptLineAsserted := l.ackAfter value != 0 && l.interruptLineAsserted } ∨
      l.ack value ret = l := by
  by_cases hd : (if l.ackClears value && l.interruptLineAsserted then ret else 0) = 0
  · exact .inl (if_pos hd)
  · exact .inr (if_neg hd)

variable {l : IrqLine}

theorem Sound.ack (h : l.Sound) (value : UInt64) (ret : Int) : (l.ack value ret).Sound := by
  rcases l.ack_cases value ret with e | e
  · rw [e]
    intro ha
    exact bne_iff_ne.mp (Bool.and_eq_true_iff.mp ha).1
  · rw [e]
    exact h

theorem Sound.reset (h : l.Sound) (ret : Int) : (l.reset ret).Sound := by
  intro ha
  have hl : l.interruptLineAsserted = true := (Bool.and_eq_true_iff.mp ha).1
  have e : (l.reset ret).interruptStatus = l.interruptStatus := if_pos ha
  rw [e]
  exact h hl

/-! ## Status and line agree while the `ioctl`s succeed -/

/-- After a successful injection the line is up, whether it was pushed or merged. -/
theorem inject_asserted (l : IrqLine) : (l.inject 0).1.interruptLineAsserted = true := by
  unfold inject
  dsimp only
  split
  · assumption
  · rfl

theorem inStep_inject (l : IrqLine) : (l.inject 0).1.InStep :=
  ⟨fun _ => l.inject_status_ne_zero 0, fun _ => l.inject_asserted⟩

/-- A push happens exactly where the line is down. -/
theorem inject_pushes (l : IrqLine) (ret : Int) : (l.inject ret).2 = !l.interruptLineAsserted := by
  unfold inject
  dsimp only
  split <;> simp_all

/-- A successful acknowledgement. -/
theorem ack_zero (l : IrqLine) (value : UInt64) :
    l.ack value 0 =
      { interruptStatus := l.ackAfter value,
        interruptLineAsserted := l.ackAfter value != 0 && l.interruptLineAsserted } := by
  simp [ack]

/-- A status that survives an acknowledgement was there before it. -/
theorem status_ne_zero_of_ackAfter {value : UInt64} (h : l.ackAfter value ≠ 0) :
    l.interruptStatus ≠ 0 := by
  intro h0
  apply h
  simp [ackAfter, h0]

theorem InStep.ack (h : l.InStep) (value : UInt64) : (l.ack value 0).InStep := by
  rw [ack_zero]
  refine ⟨fun ha => ?_, fun hs => ?_⟩
  · exact bne_iff_ne.mp (Bool.and_eq_true_iff.mp ha).1
  · exact Bool.and_eq_true_iff.mpr ⟨bne_iff_ne.mpr hs, h.mpr (status_ne_zero_of_ackAfter hs)⟩

/-- A successful reset takes the line down and clears the status. -/
theorem reset_zero (l : IrqLine) : l.reset 0 = down := by
  simp [reset, down]

/-- An acknowledgement that does not clear the last bit leaves the line alone. -/
theorem ack_asserted_of_not_clears {value : UInt64} (h : l.InStep)
    (hn : l.ackClears value = false) :
    (l.ack value 0).interruptLineAsserted = l.interruptLineAsserted := by
  rw [ack_zero]
  by_cases ha : l.ackAfter value = 0
  · have hs : l.interruptStatus = 0 := by
      by_contra hs
      simp [ackClears, hs, ha] at hn
    have hl : l.interruptLineAsserted = false := Bool.eq_false_iff.mpr fun hl => h.mp hl hs
    simp [hl]
  · simp [ha]

/-- An acknowledgement that clears the last bit takes the line down. -/
theorem ack_asserted_of_clears {value : UInt64} (hc : l.ackClears value = true) :
    (l.ack value 0).interruptLineAsserted = false := by
  have ha : l.ackAfter value = 0 := by simpa using (Bool.and_eq_true_iff.mp hc).2
  simp [ack_zero, ha]

end IrqLine

end HvisorTool
