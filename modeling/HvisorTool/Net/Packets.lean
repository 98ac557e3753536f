/-
  File:      HvisorTool/Net/Packets.lean
  Subject:   ONE PACKET EACH WAY: `virtq_tx_handle_one_request` of the net
             device and the loop body of `virtio_net_event_handler`.

  Both collect their completions in arrays of `VIRTQUEUE_NET_MAX_SIZE` entries
  that are posted as one batch. What the tap device answers is a parameter.

  * `batchPush`: a store into the arrays; behind their end it is an overrun;
  * `netTxHandleOneRequest`: one packet out;
  * `netRxBody`: one packet in.
-/
import HvisorTool.Virtio.Used

namespace HvisorTool

/-- `VIRTQUEUE_NET_MAX_SIZE`, which is also `NET_IOV_MAX`. -/
def virtqueueNetMaxSize : Nat := 256

/-- `batch_indices[count] = idx; batch_lens[count] = len; count++`. -/
def batchPush (q : CompletionQueue) (c : Completion) : Except ChainError CompletionQueue :=
  if q.batch.length < virtqueueNetMaxSize then .ok { q with batch := q.batch ++ [c] }
  else .error .overrun

/-- The tap device: `writev` answers with a length, or -1 as `none`. -/
structure TapBackend (σ : Type) where
  writev : σ → Mem → List Iovec → Option Nat × σ

/-- What `readv` from the tap device answers. -/
inductive ReadvResult where
  | wouldBlock
  | failed
  | packet (len : Nat)
  deriving DecidableEq, Repr

/-- `get_nethdr_size`: by the negotiated `VIRTIO_F_VERSION_1`. -/
def getNethdrSize (version1 : Bool) : Nat := if version1 then 12 else 10

section Packets

variable {σ : Type} (tap : TapBackend σ) (zm : ZoneTable)

/-- The iovec that goes to `writev`: the chain's buffers, and padding up to the
    minimum packet of 64 bytes. -/
def txIov (pad : UInt64) (headerLen : Nat) (out : List Iovec) : List Iovec :=
  let allLen := (out.map (·.iovLen.toNat)).sum
  let packetLen := allLen - headerLen
  if packetLen < 64 then out ++ [⟨pad, UInt64.ofNat (64 - packetLen)⟩] else out

/-- Memory with `char pad[64] = {0}` on the stack. -/
def withPad (mem : Mem) (pad : UInt64) : Mem := writeBytes mem pad (List.replicate 64 0)

/-- The packet of a chain that was walked: the used length, and the tap device.
    With no room for writable buffers the chain has a readable one. -/
def netTxServe (version1 : Bool) (pad : UInt64) (mem : Mem) (dev : σ) (req : VirtioRequest) :
    UInt32 × σ :=
  match req.outIov with
  | [] => (0, dev)
  | v :: vs =>
    if v.iovLen.toNat < getNethdrSize version1 then (0, dev)
    else
      match tap.writev dev (withPad mem pad) (txIov pad (getNethdrSize version1) (v :: vs)) with
      | (none, dev) => (0, dev)
      | (some _, dev) => (UInt32.ofNat ((v :: vs).map (·.iovLen.toNat)).sum, dev)

/-- `virtq_tx_handle_one_request` with a valid tap descriptor: the queue, and
    the tap device. `pad` is the address of the padding on the stack. -/
def netTxHandleOneRequest (version1 : Bool) (pad : UInt64) (q : CompletionQueue) (mem : Mem)
    (dev : σ) : Except ChainError (CompletionQueue × σ) :=
  if q.vq.availRing = 0 then .error .segv
  else do
    let idx := q.vq.availHead mem
    let (n, req, vq) ← chainBufCall zm mem q.vq ⟨virtqueueNetMaxSize - 1, 0⟩ idx
    if n < 1 then do
      let q ← batchPush { q with vq := vq.advance } (idx, 0)
      .ok (q, dev)
    else do
      let (len, dev) := netTxServe tap version1 pad mem dev req
      let q ← batchPush { q with vq := vq } (idx, len)
      .ok (q, dev)

/-- How the loop of `virtio_net_event_handler` goes on behind its body. -/
inductive RxNext where
  | loop
  | stop
  | stopNotReady
  deriving DecidableEq, Repr

/-- The loop body of `virtio_net_event_handler`: the queue, and how the loop
    goes on. `answer` is what `readv` answers, if it is called. -/
def netRxBody (answer : ReadvResult) (q : CompletionQueue) (mem : Mem) :
    Except ChainError (CompletionQueue × RxNext) :=
  if q.vq.availRing = 0 then .error .segv
  else do
    let idx := q.vq.availHead mem
    let (n, _, vq) ← chainBufCall zm mem q.vq ⟨0, virtqueueNetMaxSize⟩ idx
    if n < 1 ∨ n > virtqueueNetMaxSize then do
      let q ← batchPush { q with vq := if n < 1 then vq.advance else vq } (idx, 0)
      .ok (q, .stop)
    else
      match answer with
      | .wouldBlock =>
        -- no more packets: the request goes back
        .ok ({ q with vq := { vq with lastAvailIdx := vq.lastAvailIdx - 1 } }, .stop)
      | .failed => do
          let q ← batchPush { q with vq := vq } (idx, 0)
          .ok (q, .stop)
      | .packet len => do
          let q ← batchPush { q with vq := vq } (idx, UInt32.ofNat len)
          .ok (q, if len = 0 then .stopNotReady else .loop)

end Packets

end HvisorTool
