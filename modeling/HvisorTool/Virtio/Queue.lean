/-
  File:      HvisorTool/Virtio/Queue.lean
  Subject:   A VIRTQUEUE, its rings and its descriptor table.

  The fields of `struct vring_desc` and `struct vring_avail` are read from guest
  memory at the host addresses that the queue has for its rings.

  * `VirtQueue`: the queue with the device's zone id in the place of its back
    pointer (the lock and the notify handler are left out);
  * `readDesc`: one entry of a descriptor table, direct or indirect;
  * `availIdx`, `availHead`, `vqIsEmpty`: the available ring;
  * `vringNeedEvent`: the test of the event-index mode, in both directions.
-/
import HvisorTool.Virtio.Memory
import HvisorTool.Virtio.ZoneMem
import Mathlib.Algebra.Ring.Int.Defs

namespace HvisorTool

/-- The bytes of a list of buffers in sequence. -/
def iovBytes (mem : Mem) (iov : List Iovec) : List UInt8 :=
  iov.flatMap fun v => readBytes mem v.iovBase v.iovLen.toNat

/-- The bytes of a list of buffers, counted. -/
def iovTotal (iov : List Iovec) : Nat := (iov.map (·.iovLen.toNat)).sum

theorem iovTotal_cons (v : Iovec) (vs : List Iovec) :
    iovTotal (v :: vs) = v.iovLen.toNat + iovTotal vs := List.sum_cons

theorem iovBytes_length (mem : Mem) (iov : List Iovec) : (iovBytes mem iov).length = iovTotal iov := by
  simp [iovBytes, iovTotal, List.length_flatMap, readBytes_length]

/-- A 32-bit word read as a C `int`. -/
def asInt (x : UInt32) : Int := x.toInt32.toInt

theorem asInt_eq (x : UInt32) :
    asInt x = if x.toNat < 2 ^ 31 then (x.toNat : Int) else (x.toNat : Int) - 2 ^ 32 := by
  have h : asInt x = x.toBitVec.toInt := rfl
  have e : x.toBitVec.toNat = x.toNat := rfl
  rw [h, BitVec.toInt_eq_toNat_cond, e]
  split <;> split <;> omega

/-- `struct vring_desc`. -/
structure VirtqDesc where
  addr : UInt64
  len : UInt32
  flags : UInt16
  next : UInt16
  deriving DecidableEq, Repr, Inhabited

namespace VirtqDesc

/-- `VRING_DESC_F_NEXT`. -/
def hasNext (d : VirtqDesc) : Bool := d.flags &&& 1 != 0

/-- `VRING_DESC_F_WRITE`. -/
def isWrite (d : VirtqDesc) : Bool := d.flags &&& 2 != 0

/-- `VRING_DESC_F_INDIRECT`. -/
def isIndirect (d : VirtqDesc) : Bool := d.flags &&& 4 != 0

/-- `len / sizeof(VirtqDesc)`: the entries of an indirect table. -/
def tableLen (d : VirtqDesc) : UInt32 := d.len / 16

end VirtqDesc

/-- `table[idx]`. -/
def readDesc (mem : Mem) (table : UInt64) (idx : UInt16) : VirtqDesc :=
  let a := table + 16 * idx.toUInt64
  { addr := readU64 mem a, len := readU32 mem (a + 8), flags := readU16 mem (a + 12),
    next := readU16 mem (a + 14) }

/-- `struct VirtQueue`. -/
structure VirtQueue where
  /-- `dev->zone_id`. -/
  zoneId : UInt32
  vqIdx : UInt64
  num : UInt64
  queueNumMax : UInt32
  descTableAddr : UInt64
  availAddr : UInt64
  usedAddr : UInt64
  descTable : UInt64
  availRing : UInt64
  usedRing : UInt64
  lastAvailIdx : UInt16
  lastUsedIdx : UInt16
  ready : UInt8
  eventIdxEnabled : UInt8
  deriving DecidableEq, Repr, Inhabited

namespace VirtQueue

/-- The zone id as the `int` that `get_virt_addr` takes. -/
def zone (vq : VirtQueue) : Int := asInt vq.zoneId

/-- The regions that the queue's addresses are translated by. -/
def regions (zm : ZoneTable) (vq : VirtQueue) : List ZoneMemRegion := zoneRegions zm vq.zone

/-- `get_virt_addr(addr, vq->dev->zone_id)`. -/
def translate (zm : ZoneTable) (vq : VirtQueue) (addr : UInt64) : UInt64 :=
  getVirtAddr zm addr vq.zone

/-- `avail_ring->idx`. -/
def availIdx (mem : Mem) (vq : VirtQueue) : UInt16 := readU16 mem (vq.availRing + 2)

/-- `avail_ring->ring[last_avail_idx & (num - 1)]`. -/
def availHead (mem : Mem) (vq : VirtQueue) : UInt16 :=
  readU16 mem (vq.availRing + 4 + 2 * (vq.lastAvailIdx.toUInt64 &&& (vq.num - 1)))

/-- `vq_is_empty`. -/
def vqIsEmpty (mem : Mem) (vq : VirtQueue) : Bool :=
  vq.availRing == 0 || availIdx mem vq == vq.lastAvailIdx

/-- `avail_ring->flags`. -/
def availFlags (mem : Mem) (vq : VirtQueue) : UInt16 := readU16 mem vq.availRing

/-- `VQ_USED_EVENT`: the word behind the available ring. -/
def usedEvent (mem : Mem) (vq : VirtQueue) : UInt16 :=
  readU16 mem (vq.availRing + 4 + 2 * vq.num)

/-- `used_ring->idx`. -/
def usedIdx (mem : Mem) (vq : VirtQueue) : UInt16 := readU16 mem (vq.usedRing + 2)

/-- `last_avail_idx++`. -/
def advance (vq : VirtQueue) : VirtQueue := { vq with lastAvailIdx := vq.lastAvailIdx + 1 }

end VirtQueue

/-- `vring_need_event`: the step from `old` to `new` passes `event`. -/
def vringNeedEvent (event new old : UInt16) : Bool := new - event - 1 < new - old

end HvisorTool
