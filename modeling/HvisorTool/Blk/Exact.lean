/-
  File:      HvisorTool/Blk/Exact.lean
  Subject:   WHAT STATUS OK OF A BLOCK REQUEST SAYS ABOUT THE IMAGE.

  The byte offset is a product modulo 2^64, the capacity that the device advertises is
  compared with nothing, and a transfer that the kernel cuts short is a success.

  * `virtioBlkInit`: where the capacity comes from; `BlkConfig` carries that it counts bytes
    of a 64-bit size;
  * `Disk`, `FileKernel`, `diskBackend`: the image, and the kernel's answers to `preadv` and
    `pwritev` with what they do; how many bytes it transfers is the kernel's choice;
  * `IoRequest`: a request of type IN or OUT that passed the checks; `IoRequest.outcome_eq`:
    what becomes of it, by the kernel's answer; `IoRequest.status_stored`: the pass stores it;
  * `BlkExact`: status OK means that the whole of the request was transferred, inside the
    capacity, and nothing outside is touched;
  * `blk_exact_iff`: that is so exactly if the kernel refuses, or the request ends within the
    capacity and the kernel transfers all of it.
-/
import HvisorTool.Blk.Request
import HvisorTool.Virtio.Accounting

namespace HvisorTool

open Library

/-! ## 1. The capacity -/

/-- The field of `BlkConfig` that tells the guest the size of the image. -/
structure BlkConfig where
  capacity : UInt64
  fits : capacity.toNat * 512 < 2 ^ 64

/-- The configuration for an image of `size` bytes: whole sectors. -/
def BlkConfig.ofSize (size : UInt64) : BlkConfig where
  capacity := size / sectorBsize
  fits := by
    have hdiv : (size / sectorBsize).toNat = size.toNat / 512 := UInt64.toNat_div ..
    have hsize := size.toNat_lt
    rw [hdiv]
    omega

/-- `virtio_blk_init`, by the answers of `open`, `fstat` and `ioctl(BLKGETSIZE64)`. -/
def virtioBlkInit (opened : Bool) (stSize size64 : Option UInt64) : Option BlkConfig :=
  if opened = false then none
  else
    match stSize with
    | none => none
    | some stSize =>
      -- `st_size` may be 0 for real block devices
      if stSize / sectorBsize = 0 then size64.map .ofSize else some (.ofSize stSize)

/-! ## 2. The image -/

/-- The image: its bytes and its size. -/
structure Disk where
  bytes : Nat → UInt8
  size : Nat

namespace Disk

/-- The `n` bytes from `start` on. -/
def read (d : Disk) (start n : Nat) : List UInt8 := (List.range n).map fun i => d.bytes (start + i)

/-- Bytes stored from `start` on; past the end the image grows. -/
def write (d : Disk) (start : Nat) (bs : List UInt8) : Disk :=
  if bs = [] then d
  else
    { bytes := fun i => if i < start then d.bytes i else bs.getD (i - start) (d.bytes i)
      size := max d.size (start + bs.length) }

end Disk

/-- Bytes stored into a list of buffers, in order. -/
def storeIov : Mem → List Iovec → List UInt8 → Mem
  | mem, [], _ => mem
  | mem, v :: vs, bs =>
    storeIov (writeBytes mem v.iovBase (bs.take v.iovLen.toNat)) vs (bs.drop v.iovLen.toNat)

/-- **What the kernel answers** to a transfer of `n` bytes at an offset: an errno, which is
    not 0, or a number of bytes, not more than asked for, and for a read none behind the end
    of the image. -/
structure FileKernel where
  read : Disk → Nat → Nat → Except Nat Nat
  write : Disk → Nat → Nat → Except Nat Nat
  sync : Disk → Except Nat Unit
  read_le : ∀ d off n k, read d off n = .ok k → k ≤ n ∧ (k = 0 ∨ off + k ≤ d.size)
  write_le : ∀ d off n k, write d off n = .ok k → k ≤ n
  read_errno : ∀ d off n e, read d off n = .error e → e ≠ 0
  write_errno : ∀ d off n e, write d off n = .error e → e ≠ 0

/-- The backend on an image: so many bytes as the kernel answers are transferred, in order. -/
def diskBackend (K : FileKernel) : BlkBackend Disk where
  preadv d mem iov off :=
    match K.read d off.toNat (iovTotal iov) with
    | .ok k => (.ok k, storeIov mem iov (d.read off.toNat k))
    | .error e => (.error e, mem)
  pwritev d mem iov off :=
    match K.write d off.toNat (iovTotal iov) with
    | .ok k => (.ok k, d.write off.toNat ((iovBytes mem iov).take k))
    | .error e => (.error e, d)
  fdatasync d := (K.sync d, d)

/-! ## 3. Requests that are transfers -/

/-- The status byte that `blk_complete` stores. -/
def BlkOutcome.status {σ : Type} (o : BlkOutcome σ) : UInt8 :=
  if o.err = 0 then 0 else if o.err = eopnotsupp then 2 else 1

theorem BlkOutcome.status_eq_zero {σ : Type} (o : BlkOutcome σ) : o.status = 0 ↔ o.err = 0 := by
  unfold BlkOutcome.status
  split
  · next h => exact iff_of_true rfl h
  · next h =>
    refine iff_of_false ?_ h
    split <;> decide

/-- A completed request has its status byte in memory, and the image as the operation left it. -/
theorem blkComplete_status {σ : Type} {q q' : CompletionQueue} {idx : UInt16} {o : BlkOutcome σ}
    {mem' : Mem} {img' : σ} (hst : o.vstatus ≠ 0) (h : blkComplete q idx o = .ok (q', mem', img')) :
    mem' o.vstatus = o.status ∧ img' = o.img := by
  unfold blkComplete at h
  dsimp only at h
  rw [if_neg hst] at h
  split at h
  · cases h
  · cases h
    exact ⟨Function.update_self .., rfl⟩

/-- **A request of type IN or OUT that `virtq_blk_handle_one_request` accepts.** -/
structure IoRequest (zm : ZoneTable) (q : CompletionQueue) (mem : Mem) where
  ret : Int
  vreq : VirtioRequest
  vq : VirtQueue
  hdr : Iovec
  vstatus : Iovec
  walked : chainBufCall zm mem q.vq ⟨virtqueueBlkMaxSize, virtqueueBlkMaxSize⟩ (q.vq.availHead mem) =
    .ok (ret, vreq, vq)
  accepted : blkAccepted mem ret vreq = some (hdr, vstatus)
  io : readU32 mem hdr.iovBase = 0 ∨ readU32 mem hdr.iovBase = 1

namespace IoRequest

variable {zm : ZoneTable} {q : CompletionQueue} {mem : Mem} (r : IoRequest zm q mem)

/-- `VIRTIO_BLK_T_IN`. -/
def isIn : Bool := readU32 mem r.hdr.iovBase = 0

/-- `hdr->sector`. -/
def sector : UInt64 := readU64 mem (r.hdr.iovBase + 8)

/-- The data buffers: beside the status byte, or behind the header. -/
def data : List Iovec := if r.isIn then r.vreq.inIov.dropLast else r.vreq.outIov.tail

/-- The exact offset of the request in the image. -/
def start : Nat := r.sector.toNat * 512

variable (K : FileKernel) (img : Disk)

/-- What the kernel answers to the call that is made for the request. -/
def answer : Except Nat Nat :=
  (if r.isIn then K.read else K.write) img (r.sector * sectorBsize).toNat (iovTotal r.data)

/-- The image bytes that are read or written: offset and number. -/
def moved : Option (Nat × Nat) :=
  (r.answer K img).toOption.map fun k => ((r.sector * sectorBsize).toNat, k)

/-- What the request is completed with. -/
def outcome : BlkOutcome Disk := blkServe (diskBackend K) mem img r.ret r.vreq

/-- **The request by the kernel's answer**: a number of bytes, whatever it is, is a success. -/
theorem outcome_eq :
    r.outcome K img =
      match r.answer K img with
      | .error e => ⟨r.vstatus.iovBase, e, 0, mem, img⟩
      | .ok k =>
        if r.isIn then
          ⟨r.vstatus.iovBase, 0, k,
            storeIov mem r.data (img.read (r.sector * sectorBsize).toNat k), img⟩
        else
          ⟨r.vstatus.iovBase, 0, 0, mem,
            img.write (r.sector * sectorBsize).toNat ((iovBytes mem r.data).take k)⟩ := by
  unfold outcome
  rw [blkServe_eq, r.accepted]
  dsimp only
  have hsector : readU64 mem (r.hdr.iovBase + 8) = r.sector := rfl
  rw [hsector]
  rcases r.io with hin | hout
  · have hisIn : r.isIn = true := decide_eq_true hin
    unfold blkOperate answer data
    simp only [hin, hisIn, if_true, diskBackend]
    cases K.read img (r.sector * sectorBsize).toNat (iovTotal r.vreq.inIov.dropLast) with
    | ok k | error e => rfl
  · have hone : ¬ (1 : UInt32) = 0 := by decide
    have hisIn : r.isIn = false := decide_eq_false (by rw [hout]; exact hone)
    unfold blkOperate answer data
    simp only [hout, hisIn, hone, if_true, if_false, Bool.false_eq_true, diskBackend]
    cases K.write img (r.sector * sectorBsize).toNat (iovTotal r.vreq.outIov.tail) with
    | ok k | error e => rfl

/-- The kernel's errno is an error of the request. -/
theorem answer_errno {e : Nat} (h : r.answer K img = .error e) : e ≠ 0 := by
  unfold answer at h
  cases hin : r.isIn with
  | true =>
    rw [hin, if_pos rfl] at h
    exact K.read_errno _ _ _ _ h
  | false =>
    rw [hin, if_neg (by decide)] at h
    exact K.write_errno _ _ _ _ h

/-- The request is completed with its outcome. -/
theorem handled (ha : q.vq.availRing ≠ 0) :
    virtqBlkHandleOneRequest (diskBackend K) zm q mem img =
      blkComplete { q with vq := r.vq } (q.vq.availHead mem) (r.outcome K img) := by
  obtain ⟨hret, -⟩ := Option.ite_none_left_eq_some.mp r.accepted
  unfold virtqBlkHandleOneRequest
  rw [if_neg ha]
  dsimp only
  rw [r.walked, ok_bind]
  dsimp only
  rw [if_neg (by omega)]
  rfl

/-- **The status byte in guest memory and the image behind a pass** are those of the outcome. -/
theorem status_stored {q' : CompletionQueue} {mem' : Mem} {img' : Disk}
    (h : virtqBlkHandleOneRequest (diskBackend K) zm q mem img = .ok (q', mem', img')) :
    mem' r.vstatus.iovBase = (r.outcome K img).status ∧ img' = (r.outcome K img).img := by
  have ha : q.vq.availRing ≠ 0 := by
    intro ha
    rw [virtqBlkHandleOneRequest, if_pos ha] at h
    cases h
  have hvst : (r.outcome K img).vstatus = r.vstatus.iovBase := by
    rw [r.outcome_eq K img]
    split
    · rfl
    · split <;> rfl
  have hmem : r.vstatus ∈ r.vreq.inIov := List.mem_of_getLast? (blkAccepted_some r.accepted).1
  have hbase := (chainBufCall_entries r.walked _ (List.mem_append_right _ hmem)).1
  rw [r.handled K img ha] at h
  rw [← hvst] at hbase ⊢
  exact blkComplete_status hbase h

end IoRequest

/-! ## 4. What OK says -/

section Exact

variable {zm : ZoneTable} {q : CompletionQueue} {mem : Mem} (K : FileKernel) (cfg : BlkConfig)
  (r : IoRequest zm q mem) (img : Disk)

/-- **Block I/O is exact when it says OK.** With status OK the request ends within the
    capacity, the image bytes moved are those of the request, all of them, and they are what
    the buffers and the image have, in order; and no byte behind the capacity is moved, with
    whatever status. -/
structure BlkExact : Prop where
  capacity : (r.outcome K img).status = 0 → r.start + iovTotal r.data ≤ cfg.capacity.toNat * 512
  moved : (r.outcome K img).status = 0 → r.moved K img = some (r.start, iovTotal r.data)
  buffers : (r.outcome K img).status = 0 → r.isIn = true →
    (r.outcome K img).mem = storeIov mem r.data (img.read r.start (iovTotal r.data))
  image : (r.outcome K img).status = 0 → r.isIn = false →
    (r.outcome K img).img = img.write r.start (iovBytes mem r.data)
  inside : ∀ start n, r.moved K img = some (start, n) → ∀ i < n, start + i < cfg.capacity.toNat * 512

/-- A request within the capacity is made at its exact offset. -/
theorem IoRequest.offset_exact (h : r.start + iovTotal r.data ≤ cfg.capacity.toNat * 512) :
    (r.sector * sectorBsize).toNat = r.start := by
  have hbsize : sectorBsize.toNat = 512 := by decide
  have hlt : r.start < 2 ^ 64 := Nat.lt_of_le_of_lt (Nat.le_trans (Nat.le_add_right _ _) h) cfg.fits
  unfold IoRequest.start at hlt ⊢
  rw [UInt64.toNat_mul, hbsize, Nat.mod_eq_of_lt hlt]

/-- **Status OK is exact if and only if the kernel refuses the transfer, or the request ends
    within the capacity and the kernel transfers all of its bytes.** -/
theorem blk_exact_iff :
    BlkExact K cfg r img ↔
      (∃ e, r.answer K img = .error e) ∨
        (r.answer K img = .ok (iovTotal r.data) ∧
          r.start + iovTotal r.data ≤ cfg.capacity.toNat * 512) := by
  have heq := r.outcome_eq K img
  cases hans : r.answer K img with
  | error e =>
      rw [hans] at heq
      have hst : ¬ (r.outcome K img).status = 0 := by
        rw [BlkOutcome.status_eq_zero, heq]
        exact r.answer_errno K img hans
      have hmoved : r.moved K img = none := by
        unfold IoRequest.moved
        rw [hans]
        rfl
      refine iff_of_true ⟨fun h => absurd h hst, fun h => absurd h hst, fun h => absurd h hst,
        fun h => absurd h hst, fun start n h => ?_⟩ (.inl ⟨e, rfl⟩)
      rw [hmoved] at h
      cases h
  | ok k =>
      rw [hans] at heq
      dsimp only at heq
      have hst : (r.outcome K img).status = 0 := by
        rw [BlkOutcome.status_eq_zero, heq]
        split <;> rfl
      have hmoved : r.moved K img = some ((r.sector * sectorBsize).toNat, k) := by
        unfold IoRequest.moved
        rw [hans]
        rfl
      constructor
      · intro h
        have hm := hmoved.symm.trans (h.moved hst)
        have hall : k = iovTotal r.data := congrArg Prod.snd (Option.some.inj hm)
        exact .inr ⟨by rw [hall], h.capacity hst⟩
      · intro h
        rcases h with ⟨e, he⟩ | ⟨hall, hcap⟩
        · cases he
        · cases hall
          have hoff := r.offset_exact cfg hcap
          rw [hoff] at heq hmoved
          refine ⟨fun _ => hcap, fun _ => hmoved, fun _ hin => ?_, fun _ hout => ?_, ?_⟩
          · rw [heq, if_pos hin]
          · have hbytes : (iovBytes mem r.data).take (iovTotal r.data) = iovBytes mem r.data :=
              List.take_of_length_le (Nat.le_of_eq (iovBytes_length mem r.data))
            rw [heq, if_neg (by rw [hout]; decide), hbytes]
          · intro start n hm i hi
            have hpair := Option.some.inj (hmoved.symm.trans hm)
            have hst' : r.start = start := congrArg Prod.fst hpair
            have hn : iovTotal r.data = n := congrArg Prod.snd hpair
            omega

end Exact

/-! ## 5. A sector that wraps around -/

/-- A kernel that transfers what it can. -/
def willingKernel : FileKernel where
  read d off n := .ok (min n (d.size - off))
  write _ _ n := .ok n
  sync _ := .ok ()
  read_le := by
    intro d off n k h
    cases h
    omega
  write_le := by
    intro d off n k h
    cases h
    exact Nat.le_refl _
  read_errno := by
    intro d off n e h
    cases h
  write_errno := by
    intro d off n e h
    cases h

/-- Guest memory with a read request: a header for sector 2^55 at 0x10400, one byte of data at
    0x10800 and the status byte at 0x10900; the queue's table is at 0x10000 and its available
    ring at 0x10100. -/
def wrapMem : Mem := fun a =>
  if a = 0x10001 then 0x14 else if a = 0x10008 then 16 else if a = 0x1000C then 1
  else if a = 0x1000E then 1 else if a = 0x10011 then 0x18 else if a = 0x10018 then 1
  else if a = 0x1001C then 3 else if a = 0x1001E then 2 else if a = 0x10021 then 0x19
  else if a = 0x10028 then 1 else if a = 0x1002C then 2 else if a = 0x10102 then 1
  else if a = 0x1040E then 0x80 else 0

/-- A queue of size 4 on that memory. -/
def wrapQueue : CompletionQueue :=
  { oneDescQueue with vq := { oneDescQueue.vq with num := 4 } }

/-- The request. -/
def wrapRequest : IoRequest onePage wrapQueue wrapMem where
  ret := 3
  vreq := ⟨[⟨0x10400, 16⟩], [⟨0x10800, 1⟩, ⟨0x10900, 1⟩]⟩
  vq := wrapQueue.vq.advance
  hdr := ⟨0x10400, 16⟩
  vstatus := ⟨0x10900, 1⟩
  walked := by decide
  accepted := by decide
  io := .inl (by decide)

/-- An image of one sector. -/
def oneSector : Disk := ⟨fun _ => 7, 512⟩

/-- **A read of sector 2^55 of an image of one sector returns OK**, with the first byte of the
    image. -/
theorem wrapped_sector_reads_ok :
    virtioBlkInit true (some 512) none = some (.ofSize 512) ∧
      (wrapRequest.outcome willingKernel oneSector).status = 0 ∧
      wrapRequest.moved willingKernel oneSector = some (0, 1) ∧ wrapRequest.start = 2 ^ 64 ∧
      ¬ BlkExact willingKernel (.ofSize 512) wrapRequest oneSector := by
  refine ⟨rfl, by decide, by decide, by decide, fun h => ?_⟩
  have hcap := h.capacity (by decide)
  exact absurd hcap (by decide)

end HvisorTool
