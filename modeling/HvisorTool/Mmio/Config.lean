/-
  File:      HvisorTool/Mmio/Config.lean
  Subject:   READS OF THE CONFIGURATION SPACE: `virtio_mmio_read` at `VIRTIO_MMIO_CONFIG`
             and above is a load of eight bytes from `vdev->dev`, whatever the access
             size, the device type and the offset.

  The first member of every device's private part is its configuration struct; behind
  it lie descriptors, thread ids, locks and pointers. The private part is memory at the
  address in `vdev->dev`. The structs are defined in headers outside the repository,
  that of the SCMI device apart, so their size is a parameter.

  * `DevHeap`, `loadsConfig`: the private part, and a device's operations with the load
    of `virtio_mmio_read`;
  * `AgreeOn n`: two private parts whose first `n` bytes are the same;
  * `byteOf_readU64`: the bytes of a load, in order;
  * `config_read_iff`: a read depends on the struct only exactly when all eight bytes
    are in it; the bytes are always those stored.
-/
import HvisorTool.Mmio.Log

namespace HvisorTool

/-! ## 1. The load -/

/-- A device's private part: its address and the daemon's memory. -/
structure DevHeap where
  dev : UInt64
  mem : Mem

/-- The byte at `k` in the private part. -/
def DevHeap.byte (h : DevHeap) (k : Nat) : UInt8 := h.mem (h.dev + UInt64.ofNat k)

/-- The operations of a device with the load of `virtio_mmio_read`. -/
def loadsConfig (ops : VirtioDeviceOps DevHeap) : VirtioDeviceOps DevHeap :=
  { ops with config := fun h offset => readU64 h.mem (h.dev + offset) }

/-- The device with another private part. -/
def VirtIODevice.withDev (d : VirtIODevice DevHeap) (h : DevHeap) : VirtIODevice DevHeap :=
  { d with dev := h }

/-- The first `n` bytes are the same. -/
def AgreeOn (n : Nat) (h h' : DevHeap) : Prop := ∀ k < n, h.byte k = h'.byte k

theorem virtioMmioRead_config (ops : VirtioDeviceOps DevHeap) (d : VirtIODevice DevHeap)
    (h : DevHeap) {offset : UInt64} (hcfg : mmioConfig ≤ offset) (size : UInt32) :
    (virtioMmioRead (loadsConfig ops) (d.withDev h) offset size).1 =
      readU64 h.mem (h.dev + (offset - mmioConfig)) := by
  unfold virtioMmioRead
  rw [if_pos hcfg]
  rfl

/-! ## 2. The bytes of a load -/

/-- Byte `k` of a word, the lowest one first. -/
def byteOf (x : UInt64) (k : Nat) : UInt8 := UInt8.ofNat (x.toNat / 2 ^ (8 * k))

/-- A load as the sum of its bytes. -/
theorem toNat_readU64_bytes (mem : Mem) (a : UInt64) :
    (readU64 mem a).toNat =
      (mem a).toNat + 2 ^ 8 * (mem (a + 1)).toNat + 2 ^ 16 * (mem (a + 2)).toNat +
        2 ^ 24 * (mem (a + 3)).toNat + 2 ^ 32 * (mem (a + 4)).toNat +
        2 ^ 40 * (mem (a + 5)).toNat + 2 ^ 48 * (mem (a + 6)).toNat +
        2 ^ 56 * (mem (a + 7)).toNat := by
  simp only [toNat_readU64, toNat_readU32, toNat_readU16, UInt64.add_assoc]
  change _ + 2 ^ 8 * _ + 2 ^ 16 * ((mem (a + 2)).toNat + 2 ^ 8 * (mem (a + 3)).toNat) +
    2 ^ 32 * ((mem (a + 4)).toNat + 2 ^ 8 * (mem (a + 5)).toNat +
      2 ^ 16 * ((mem (a + 6)).toNat + 2 ^ 8 * (mem (a + 7)).toNat)) = _
  omega

/-- **Byte `k` of a load is the byte stored at `k`.** -/
theorem byteOf_readU64 (mem : Mem) (a : UInt64) {k : Nat} (hk : k < 8) :
    byteOf (readU64 mem a) k = mem (a + UInt64.ofNat k) := by
  have h0 := (mem a).toNat_lt
  have h1 := (mem (a + 1)).toNat_lt
  have h2 := (mem (a + 2)).toNat_lt
  have h3 := (mem (a + 3)).toNat_lt
  have h4 := (mem (a + 4)).toNat_lt
  have h5 := (mem (a + 5)).toNat_lt
  have h6 := (mem (a + 6)).toNat_lt
  have h7 := (mem (a + 7)).toNat_lt
  have hz : a + 0 = a := UInt64.add_zero a
  refine UInt8.toNat_inj.mp ?_
  unfold byteOf
  rw [UInt8.toNat_ofNat', toNat_readU64_bytes]
  match k, hk with
  | 0, _ => change _ = (mem (a + 0)).toNat; rw [hz]; omega
  | 1, _ => change _ = (mem (a + 1)).toNat; omega
  | 2, _ => change _ = (mem (a + 2)).toNat; omega
  | 3, _ => change _ = (mem (a + 3)).toNat; omega
  | 4, _ => change _ = (mem (a + 4)).toNat; omega
  | 5, _ => change _ = (mem (a + 5)).toNat; omega
  | 6, _ => change _ = (mem (a + 6)).toNat; omega
  | 7, _ => change _ = (mem (a + 7)).toNat; omega

/-- The load, byte by byte, as bytes of the private part. -/
theorem byteOf_load (h : DevHeap) (o : UInt64) {k : Nat} (hk : k < 8) :
    byteOf (readU64 h.mem (h.dev + o)) k = h.byte (o.toNat + k) := by
  rw [byteOf_readU64 h.mem (h.dev + o) hk]
  unfold DevHeap.byte
  rw [UInt64.ofNat_add, UInt64.ofNat_toNat, UInt64.add_assoc]

/-- A word is its eight bytes. -/
theorem eq_of_byteOf {x y : UInt64} (h : ∀ k < 8, byteOf x k = byteOf y k) : x = y := by
  have hb : ∀ k < 8, x.toNat / 2 ^ (8 * k) % 2 ^ 8 = y.toNat / 2 ^ (8 * k) % 2 ^ 8 := by
    intro k hk
    have e := congrArg UInt8.toNat (h k hk)
    unfold byteOf at e
    rw [UInt8.toNat_ofNat', UInt8.toNat_ofNat'] at e
    exact e
  refine UInt64.toNat_inj.mp (Nat.eq_of_testBit_eq fun i => ?_)
  by_cases hi : i < 64
  · -- bit `i` is bit `i % 8` of byte `i / 8`
    have e := congrArg (Nat.testBit · (i % 8)) (hb (i / 8) (by omega))
    have hsplit : i % 8 + 8 * (i / 8) = i := Nat.mod_add_div i 8
    have hlt : i % 8 < 8 := Nat.mod_lt _ (by decide)
    simp only [Nat.testBit_mod_two_pow, Nat.testBit_div_two_pow, hlt, hsplit, decide_true,
      Bool.true_and] at e
    exact e
  · have hpow : 2 ^ 64 ≤ 2 ^ i := Nat.pow_le_pow_right (by decide) (by omega)
    rw [Nat.testBit_lt_two_pow (Nat.lt_of_lt_of_le x.toNat_lt hpow),
      Nat.testBit_lt_two_pow (Nat.lt_of_lt_of_le y.toNat_lt hpow)]

theorem load_congr {h h' : DevHeap} {o : UInt64}
    (hb : ∀ k < 8, h.byte (o.toNat + k) = h'.byte (o.toNat + k)) :
    readU64 h.mem (h.dev + o) = readU64 h'.mem (h'.dev + o) := by
  refine eq_of_byteOf fun k hk => ?_
  rw [byteOf_load h o hk, byteOf_load h' o hk]
  exact hb k hk

/-! ## 3. What a read depends on -/

/-- Two private parts that differ in the last byte of a load at `o` only. -/
theorem load_differs {o : UInt64} (ho : o.toNat + 7 < 2 ^ 64) {n : Nat} (hn : n < o.toNat + 8) :
    ∃ h h', AgreeOn n h h' ∧ readU64 h.mem (h.dev + o) ≠ readU64 h'.mem (h'.dev + o) := by
  have haddr : ∀ k : Nat, (0 : UInt64) + UInt64.ofNat k = UInt64.ofNat k :=
    fun k => UInt64.zero_add _
  refine ⟨⟨0, fun _ => 0⟩, ⟨0, fun a => if a = UInt64.ofNat (o.toNat + 7) then 1 else 0⟩, ?_, ?_⟩
  · intro k hk
    have hne : UInt64.ofNat k ≠ UInt64.ofNat (o.toNat + 7) := by
      intro he
      have e := congrArg UInt64.toNat he
      rw [UInt64.toNat_ofNat', UInt64.toNat_ofNat', Nat.mod_eq_of_lt ho,
        Nat.mod_eq_of_lt (by omega)] at e
      omega
    simp only [DevHeap.byte, haddr, if_neg hne]
  · intro he
    have e := congrArg (byteOf · 7) he
    dsimp only at e
    rw [byteOf_load ⟨0, fun _ => 0⟩ o (by decide),
      byteOf_load ⟨0, fun a => if a = UInt64.ofNat (o.toNat + 7) then 1 else 0⟩ o (by decide)] at e
    simp only [DevHeap.byte, haddr, if_true] at e
    exact absurd e (by decide)

/-- **A read of the configuration space depends on the configuration struct only exactly
    when its eight bytes lie in the struct**: for every device, every offset of the
    configuration space, every access size and every size `n` of the struct. The bytes
    returned are always those stored, the lowest one first. -/
theorem config_read_iff (ops : VirtioDeviceOps DevHeap) (d : VirtIODevice DevHeap) (n : Nat)
    {offset : UInt64} (hcfg : mmioConfig ≤ offset) (size : UInt32) :
    ((∀ h h', AgreeOn n h h' →
          (virtioMmioRead (loadsConfig ops) (d.withDev h) offset size).1 =
            (virtioMmioRead (loadsConfig ops) (d.withDev h') offset size).1) ↔
        (offset - mmioConfig).toNat + 8 ≤ n) ∧
      ∀ h k, k < 8 →
        byteOf (virtioMmioRead (loadsConfig ops) (d.withDev h) offset size).1 k =
          h.byte ((offset - mmioConfig).toNat + k) := by
  simp only [virtioMmioRead_config ops d _ hcfg size]
  refine ⟨?_, fun h k hk => byteOf_load h _ hk⟩
  constructor
  · intro hall
    by_contra hout
    have hsub : (offset - mmioConfig).toNat = offset.toNat - 0x100 :=
      UInt64.toNat_sub_of_le _ _ hcfg
    have hlt := offset.toNat_lt
    obtain ⟨h, h', hagree, hne⟩ := load_differs (o := offset - mmioConfig) (by omega)
      (Nat.lt_of_not_le hout)
    exact hne (hall h h' hagree)
  · intro hin h h' hagree
    exact load_congr fun k hk => hagree _ (by omega)

/-- An SCMI device in zone 1. -/
def scmiDevice : VirtIODevice DevHeap :=
  { toDeviceIdentity := ⟨1, 79, 0xa003c00, 0x200, .scmi⟩
    regs := initMmioRegs .scmi 0x100000000
    irq := IrqLine.down
    vqs := [freshQueue 1 64 0, freshQueue 1 64 1]
    dev := ⟨0, fun _ => 0⟩
    activated := false
    vqsBound := by decide }

/-- Its private part at 0x1000, with a pointer in `clock_ids`, behind the 64 bytes of
    `struct virtio_scmi_config`. -/
def scmiHeap (clockIds : UInt8) : DevHeap :=
  { dev := 0x1000, mem := fun a => if a = 0x1040 then clockIds else 0 }

def scmiConfigOps : VirtioDeviceOps DevHeap :=
  { features := 0x100000000, numQueues := 2, queueMaxSize := 64, config := fun _ _ => 0,
    reset := none, statusChanged := none, notifyHandlers := fun _ => none }

theorem agreeOn_scmiHeap (b b' : UInt8) : AgreeOn 64 (scmiHeap b) (scmiHeap b') := by
  intro k hk
  have hne : (0x1000 : UInt64) + UInt64.ofNat k ≠ 0x1040 := by
    intro he
    have e := congrArg UInt64.toNat he
    rw [UInt64.toNat_add, UInt64.toNat_ofNat'] at e
    change (0x1000 + k % 2 ^ 64) % 2 ^ 64 = 0x1040 at e
    omega
  simp only [DevHeap.byte, scmiHeap, if_neg hne]

/-- The last eight bytes of the struct do not depend on what is behind it. -/
theorem config_read_lastBytes :
    (virtioMmioRead (loadsConfig scmiConfigOps) (scmiDevice.withDev (scmiHeap 0x55)) 0x138 8).1 =
      (virtioMmioRead (loadsConfig scmiConfigOps) (scmiDevice.withDev (scmiHeap 0)) 0x138 8).1 :=
  (config_read_iff scmiConfigOps scmiDevice 64 (by decide) 8).1.mpr (by decide) _ _
    (agreeOn_scmiHeap 0x55 0)

/-- The read behind the struct, inside the register range of the device, gives the
    pointer. -/
theorem config_read_reveals :
    AgreeOn 64 (scmiHeap 0x55) (scmiHeap 0) ∧ (0x140 : UInt64) < scmiDevice.len ∧
      (virtioMmioRead (loadsConfig scmiConfigOps) (scmiDevice.withDev (scmiHeap 0x55))
        0x140 4).1 = 0x55 ∧
      (virtioMmioRead (loadsConfig scmiConfigOps) (scmiDevice.withDev (scmiHeap 0)) 0x140 4).1 =
        0 :=
  ⟨agreeOn_scmiHeap 0x55 0, by decide, by decide, by decide⟩

end HvisorTool
