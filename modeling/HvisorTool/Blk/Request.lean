/-
  File:      HvisorTool/Blk/Request.lean
  Subject:   ONE BLOCK REQUEST: `virtq_blk_handle_one_request`.

  The backing file is a parameter: what `preadv`, `pwritev` and `fdatasync` answer and do is up to a
  `BlkBackend`. A request that fails a check is completed without a status byte, with `EIO` and no
  data, as the source does on each of its early returns.

  * `blkServe`: the checks and the operation, up to the completion;
  * `blkComplete`: the status byte and the used-ring entry;
  * `virtqBlkHandleOneRequest`: the whole pass;
  * `blkAccepted`: the requests that pass the checks; `blkServe_eq`: these are operated on.
-/
import HvisorTool.Virtio.Used

namespace HvisorTool

/-- `VIRTQUEUE_BLK_MAX_SIZE`. -/
def virtqueueBlkMaxSize : Nat := 512

/-- `SECTOR_BSIZE`. -/
def sectorBsize : UInt64 := 512

/-- `EIO`. -/
def eio : Nat := 5

/-- `EOPNOTSUPP`. -/
def eopnotsupp : Nat := 95

/-- The backing file: each call answers with a length or an errno. `preadv`
    stores to guest memory, the other two may change the file. -/
structure BlkBackend (σ : Type) where
  preadv : σ → Mem → List Iovec → UInt64 → Except Nat Nat × Mem
  pwritev : σ → Mem → List Iovec → UInt64 → Except Nat Nat × σ
  fdatasync : σ → Except Nat Unit × σ

/-- The identification string, `hvisor-virblk`. -/
def blkIdString : List UInt8 :=
  [0x68, 0x76, 0x69, 0x73, 0x6F, 0x72, 0x2D, 0x76, 0x69, 0x72, 0x62, 0x6C, 0x6B]

/-- `blk_do_get_id`: `snprintf` of the string into the buffer, terminated
    inside it; the bytes written. -/
def blkDoGetId (mem : Mem) (iov : Iovec) : Nat × Mem :=
  let text := if iov.iovLen = 0 then [] else blkIdString.take (iov.iovLen.toNat - 1) ++ [0]
  (min (blkIdString.length + 1) iov.iovLen.toNat, writeBytes mem iov.iovBase text)

/-- What a request is completed with: the status byte's address (0 for none),
    the error, the data length, and the state the operation left. -/
structure BlkOutcome (σ : Type) where
  vstatus : UInt64
  err : Nat
  wlen : Nat
  mem : Mem
  img : σ

section Request

variable {σ : Type} (be : BlkBackend σ) (zm : ZoneTable)

/-- The operation of an accepted request: error, data length, memory, file. -/
def blkOperate (mem : Mem) (img : σ) (type : UInt32) (sector : UInt64) (outData inIov : List Iovec) :
    Nat × Nat × Mem × σ :=
  if type = 0 then
    -- `VIRTIO_BLK_T_IN`
    match be.preadv img mem inIov.dropLast (sector * sectorBsize) with
    | (.ok len, mem) => (0, len, mem, img)
    | (.error e, mem) => (e, 0, mem, img)
  else if type = 1 then
    -- `VIRTIO_BLK_T_OUT`
    match be.pwritev img mem outData (sector * sectorBsize) with
    | (.ok _, img) => (0, 0, mem, img)
    | (.error e, img) => (e, 0, mem, img)
  else if type = 4 then
    -- `VIRTIO_BLK_T_FLUSH`
    match be.fdatasync img with
    | (.ok _, img) => (0, 0, mem, img)
    | (.error e, img) => (e, 0, mem, img)
  else if type = 8 then
    -- `VIRTIO_BLK_T_GET_ID`
    match inIov with
    | [] => (0, 0, mem, img)
    | v :: _ =>
      let (wlen, mem) := blkDoGetId mem v
      (0, wlen, mem, img)
  else (eopnotsupp, 0, mem, img)

/-- The request up to its completion, from the return value of the chain walk on. -/
def blkServe (mem : Mem) (img : σ) (ret : Int) (vreq : VirtioRequest) : BlkOutcome σ :=
  let reject : BlkOutcome σ := ⟨0, eio, 0, mem, img⟩
  if ret < 2 ∨ ret > virtqueueBlkMaxSize then reject
  else
    match vreq.outIov, vreq.inIov.getLast? with
    | hdr :: outData, some status =>
      if hdr.iovLen ≠ 16 then reject
      else if status.iovLen ≠ 1 then reject
      else
        let type := readU32 mem hdr.iovBase
        -- data on the wrong side changes the group counts
        if (if type = 1 then vreq.inIov.length ≠ 1 else vreq.outIov.length ≠ 1) then reject
        else
          let (err, wlen, mem, img) :=
            blkOperate be mem img type (readU64 mem (hdr.iovBase + 8)) outData vreq.inIov
          ⟨status.iovBase, err, wlen, mem, img⟩
    | _, _ => reject

/-- `blk_complete`: the status byte, if there is one, and the used-ring entry. -/
def blkComplete (q : CompletionQueue) (idx : UInt16) (o : BlkOutcome σ) :
    Except ChainError (CompletionQueue × Mem × σ) :=
  let status : UInt8 := if o.err = 0 then 0 else if o.err = eopnotsupp then 2 else 1
  let mem := if o.vstatus = 0 then o.mem else Function.update o.mem o.vstatus status
  if q.vq.usedRing = 0 then .error .segv
  else
    .ok ({ q with used := updateUsedRing q.vq.num q.used (idx, UInt32.ofNat (o.wlen + 1)) },
      mem, o.img)

/-- `virtq_blk_handle_one_request`. -/
def virtqBlkHandleOneRequest (q : CompletionQueue) (mem : Mem) (img : σ) :
    Except ChainError (CompletionQueue × Mem × σ) :=
  if q.vq.availRing = 0 then .error .segv
  else do
    let descIdx := q.vq.availHead mem
    let (ret, vreq, vq) ←
      chainBufCall zm mem q.vq ⟨virtqueueBlkMaxSize, virtqueueBlkMaxSize⟩ descIdx
    if ret ≤ 0 then blkComplete { q with vq := vq.advance } descIdx ⟨0, eio, 0, mem, img⟩
    else blkComplete { q with vq := vq } descIdx (blkServe be mem img ret vreq)

end Request

/-! ## The requests that pass the checks -/

/-- The checks of `virtq_blk_handle_one_request`: header and status byte of a request that
    passes them. -/
def blkAccepted (mem : Mem) (ret : Int) (vreq : VirtioRequest) : Option (Iovec × Iovec) :=
  if ret < 2 ∨ ret > virtqueueBlkMaxSize then none
  else
    match vreq.outIov, vreq.inIov.getLast? with
    | hdr :: _, some status =>
      if hdr.iovLen ≠ 16 then none
      else if status.iovLen ≠ 1 then none
      else if (if readU32 mem hdr.iovBase = 1 then vreq.inIov.length ≠ 1
          else vreq.outIov.length ≠ 1) then none
      else some (hdr, status)
    | _, _ => none

section Accepted

variable {σ : Type} {be : BlkBackend σ} {mem : Mem} {img : σ} {ret : Int} {vreq : VirtioRequest}
  {hdr status : Iovec}

theorem blkAccepted_some (h : blkAccepted mem ret vreq = some (hdr, status)) :
    vreq.inIov.getLast? = some status ∧ status.iovLen = 1 := by
  obtain ⟨-, h₁⟩ := Option.ite_none_left_eq_some.mp h
  split at h₁
  · next hout hlast =>
    obtain ⟨-, h₂⟩ := Option.ite_none_left_eq_some.mp h₁
    obtain ⟨hone, h₃⟩ := Option.ite_none_left_eq_some.mp h₂
    obtain ⟨-, h₄⟩ := Option.ite_none_left_eq_some.mp h₃
    cases h₄
    exact ⟨hlast, Decidable.not_not.mp hone⟩
  · cases h₁

/-- A request that passes the checks is operated on; any other is rejected. -/
theorem blkServe_eq :
    blkServe be mem img ret vreq =
      match blkAccepted mem ret vreq with
      | none => ⟨0, eio, 0, mem, img⟩
      | some (hdr, status) =>
        let o := blkOperate be mem img (readU32 mem hdr.iovBase)
          (readU64 mem (hdr.iovBase + 8)) vreq.outIov.tail vreq.inIov
        ⟨status.iovBase, o.1, o.2.1, o.2.2.1, o.2.2.2⟩ := by
  unfold blkServe blkAccepted
  dsimp only
  split
  · rfl
  · cases vreq.outIov with
    | nil => rfl
    | cons hdr outData =>
      cases vreq.inIov.getLast? with
      | none => rfl
      | some status =>
        dsimp only
        split
        · rfl
        · split
          · rfl
          · -- the side that the data is on depends on the type
            split
            · split <;> rfl
            · split <;> rfl

end Accepted

end HvisorTool
