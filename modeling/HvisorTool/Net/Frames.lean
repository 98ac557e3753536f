/-
  File:      HvisorTool/Net/Frames.lean
  Subject:   WHAT GOES OUT TO THE TAP DEVICE for a transmit chain.

  `virtq_tx_handle_one_request` hands the entries of the chain to `writev` as they are, and
  behind them, in the entry that the walk left free for it, a piece of zeros for a packet
  below the minimum of the data link layer.

  * `netTxHandle_eq`: a transmit pass as one completion and the packet of the walked chain;
  * `txIov_length`, `txIov_bytes`: the entries and the bytes for `writev`;
  * `txWalk`: the buffers of a walked transmit chain;
  * `net_tx_frames`: the frames that are sent.
-/
import Mathlib.Data.List.Basic
import HvisorTool.Virtio.Accounting

namespace HvisorTool

open Library

/-! ## 1. A transmit pass -/

section Pass

variable {σ : Type} {tap : TapBackend σ} {zm : ZoneTable} {version1 : Bool} {pad : UInt64}
  {q : CompletionQueue} {mem : Mem} {dev : σ} {r : Int × VirtioRequest × VirtQueue}

/-- What a pass does with the request of its walk: the used length, and the tap device. -/
def netTxOutcome (tap : TapBackend σ) (version1 : Bool) (pad : UInt64) (mem : Mem) (dev : σ)
    (r : Int × VirtioRequest × VirtQueue) : UInt32 × σ :=
  if r.1 < 1 then (0, dev) else netTxServe tap version1 pad mem dev r.2.1

/-- **A transmit pass whose walk returns records one completion**, whatever it returns. -/
theorem netTxHandle_eq (ha : q.vq.availRing ≠ 0)
    (hwalk : chainBufCall zm mem q.vq Handler.netTx.cfg (q.vq.availHead mem) = .ok r) :
    netTxHandleOneRequest tap zm version1 pad q mem dev =
      batchPush { q with vq := afterWalk r }
          (q.vq.availHead mem, (netTxOutcome tap version1 pad mem dev r).1) >>= fun q =>
        .ok (q, (netTxOutcome tap version1 pad mem dev r).2) := by
  obtain ⟨n, req, vq'⟩ := r
  have hcall : chainBufCall zm mem q.vq ⟨virtqueueNetMaxSize - 1, 0⟩ (q.vq.availHead mem) =
      .ok (n, req, vq') := hwalk
  unfold netTxHandleOneRequest netTxOutcome afterWalk
  rw [if_neg ha]
  dsimp only
  rw [hcall, ok_bind]
  dsimp only
  by_cases hn : n < 1
  · rw [if_pos hn, if_pos hn, if_pos (by omega : n ≤ 0)]
  · rw [if_neg hn, if_neg hn, if_neg (by omega : ¬ n ≤ 0)]

end Pass

/-! ## 2. The entries and the bytes for `writev` -/

section Iov

variable {out : List Iovec} {headerLen : Nat} {mem : Mem} {pad : UInt64}

theorem txIov_length : (txIov pad headerLen out).length ≤ out.length + 1 := by
  unfold txIov
  dsimp only
  split
  · rw [List.length_append, List.length_singleton]
  · exact Nat.le_succ _

/-- The padding is zero. -/
theorem readBytes_withPad {n : Nat} (h : n ≤ 64) :
    readBytes (withPad mem pad) pad n = List.replicate n 0 := by
  apply List.ext_getElem
  · rw [readBytes_length, List.length_replicate]
  · intro k hk _
    rw [readBytes_length] at hk
    have hback : (pad + UInt64.ofNat k - pad).toNat = k := by
      rw [UInt64.add_comm, UInt64.add_sub_cancel, UInt64.toNat_ofNat']
      omega
    have hzero : (List.replicate 64 (0 : UInt8))[k]? = some 0 :=
      List.getElem?_replicate_of_lt (Nat.lt_of_lt_of_le hk h)
    simp only [readBytes, List.getElem_map, List.getElem_range, List.getElem_replicate]
    rw [withPad, writeBytes_apply _ _ _ _ (by simp), hback, hzero]
    rfl

/-- **The bytes of the frame**: those of the buffers, and zeros up to 64 behind the header. -/
theorem txIov_bytes (mem : Mem) (pad : UInt64) (headerLen : Nat) (out : List Iovec) :
    iovBytes (withPad mem pad) (txIov pad headerLen out) =
      iovBytes (withPad mem pad) out ++ List.replicate (64 - (iovTotal out - headerLen)) 0 := by
  unfold txIov iovTotal
  dsimp only
  generalize (out.map (·.iovLen.toNat)).sum = total
  split
  · next hshort =>
    have hlen : (UInt64.ofNat (64 - (total - headerLen))).toNat = 64 - (total - headerLen) := by
      rw [UInt64.toNat_ofNat']
      omega
    rw [iovBytes, List.flatMap_append, List.flatMap_singleton, hlen,
      readBytes_withPad (Nat.sub_le _ _)]
    rfl
  · next hlong =>
    have hzero : 64 - (total - headerLen) = 0 := by omega
    rw [hzero, List.replicate_zero, List.append_nil]

/-- The buffer has no byte in the padding: guest memory is mapped elsewhere than the stack. -/
def PadApart (pad : UInt64) (v : Iovec) : Prop :=
  ∀ j < v.iovLen.toNat, 64 ≤ (v.iovBase + UInt64.ofNat j - pad).toNat

instance (pad : UInt64) (v : Iovec) : Decidable (PadApart pad v) :=
  inferInstanceAs (Decidable (∀ j < _, _))

/-- The padding leaves the bytes of the buffers alone. -/
theorem iovBytes_withPad (mem : Mem) (h : ∀ v ∈ out, PadApart pad v) :
    iovBytes (withPad mem pad) out = iovBytes mem out := by
  refine List.flatMap_congr fun v hv => List.map_congr_left fun j hj => ?_
  have hout : (List.replicate 64 (0 : UInt8))[(v.iovBase + UInt64.ofNat j - pad).toNat]? = none := by
    rw [List.getElem?_eq_none_iff, List.length_replicate]
    exact h v hv j (List.mem_range.mp hj)
  rw [withPad, writeBytes_apply _ _ _ _ (by simp), hout]
  rfl

/-- Buffers with lengths of 32 bits. -/
theorem iovTotal_le (hv : ∀ v ∈ out, v.iovLen.toNat < 2 ^ 32) :
    iovTotal out ≤ out.length * 2 ^ 32 := by
  induction out with
  | nil => exact Nat.le_refl 0
  | cons v vs ih =>
    have hhead : v.iovLen.toNat < 2 ^ 32 := hv v List.mem_cons_self
    have hrest : iovTotal vs ≤ vs.length * 2 ^ 32 := ih fun w hw => hv w (List.mem_cons_of_mem _ hw)
    rw [iovTotal_cons, List.length_cons]
    omega

end Iov

/-! ## 3. Transmit chains -/

section Chains

variable {σ : Type} {zm : ZoneTable} {mem : Mem} {vq : VirtQueue} {head : UInt16}
  {r : Int × VirtioRequest × VirtQueue}

/-- **A transmit chain that the walk takes has readable buffers only**, and no more of them
    than leave room for the padding; for any other chain it returns -1. -/
theorem txWalk (hwalk : chainBufCall zm mem vq Handler.netTx.cfg head = .ok r) :
    (r.1 = -1 ∧ r.2.1 = .empty) ∨
      ∃ ds : List VirtqDesc, chainItems zm mem vq vq.num.toNat head = ds.map ChainItem.buffer ∧
        (∀ d ∈ ds, d.isWrite = false) ∧ r.1 = ds.length ∧
        r.2.1 = ⟨ds.map (·.iovec zm vq), []⟩ ∧ ds.length ≤ virtqueueNetMaxSize - 1 := by
  obtain rfl | ⟨ds, req, hitems, -, rfl, ⟨hout, hin⟩, rfl⟩ := chainBufCall_cases hwalk
  · exact .inl ⟨rfl, rfl⟩
  · have hnone : ds.filter (·.isWrite) = [] := by
      have hlen : ((ds.filter (·.isWrite)).map (·.iovec zm vq)).length ≤ 0 := hin
      rw [List.length_map] at hlen
      exact List.length_eq_zero_iff.mp (Nat.le_zero.mp hlen)
    have hread : ∀ d ∈ ds, d.isWrite = false := by
      intro d hd
      exact Bool.eq_false_iff.mpr (List.filter_eq_nil_iff.mp hnone d hd)
    have hall : ds.filter (!·.isWrite) = ds := by
      rw [List.filter_eq_self]
      intro d hd
      rw [hread d hd]
      rfl
    have hreq : VirtioRequest.empty.add zm vq ds = ⟨ds.map (·.iovec zm vq), []⟩ := by
      rw [VirtioRequest.add, hall, hnone]
      rfl
    rw [hreq] at hout ⊢
    refine .inr ⟨ds, hitems, hread, ?_, rfl, ?_⟩
    · show ((ds.map (·.iovec zm vq)).length + 0 : Nat) = (ds.length : Int)
      rw [List.length_map]
      rfl
    · have hlen : (ds.map (·.iovec zm vq)).length ≤ virtqueueNetMaxSize - 1 := hout
      rw [List.length_map] at hlen
      exact hlen

/-- The bytes of the buffers of a chain, in order. -/
def chainBytes (zm : ZoneTable) (vq : VirtQueue) (mem : Mem) (ds : List VirtqDesc) : List UInt8 :=
  ds.flatMap fun d => readBytes mem (vq.translate zm d.addr) d.len.toNat

theorem iovBytes_iovec (mem : Mem) (ds : List VirtqDesc) :
    iovBytes mem (ds.map (·.iovec zm vq)) = chainBytes zm vq mem ds := by
  have hlen : ∀ d : VirtqDesc, readBytes mem (d.iovec zm vq).iovBase (d.iovec zm vq).iovLen.toNat =
      readBytes mem (vq.translate zm d.addr) d.len.toNat := by
    intro d
    rw [VirtqDesc.iovec, UInt32.toNat_toUInt64]
  rw [iovBytes, List.flatMap_map, chainBytes]
  exact congrArg (List.flatMap · ds) (funext hlen)

/-- The packet of a chain whose first buffer holds the header. -/
theorem netTxServe_sends (tap : TapBackend σ) (version1 : Bool) (pad : UInt64) (dev : σ)
    {v : Iovec} {vs ins : List Iovec} (h : getNethdrSize version1 ≤ v.iovLen.toNat) :
    (netTxServe tap version1 pad mem dev ⟨v :: vs, ins⟩).2 =
      (tap.writev dev (withPad mem pad) (txIov pad (getNethdrSize version1) (v :: vs))).2 := by
  unfold netTxServe
  dsimp only
  rw [if_neg (Nat.not_lt.mpr h)]
  split
  · next heq => rw [heq]
  · next heq => rw [heq]

/-- The packet of a chain without a buffer, or with a first one that is too short. -/
theorem netTxServe_drops (tap : TapBackend σ) (version1 : Bool) (pad : UInt64) (dev : σ)
    {req : VirtioRequest}
    (h : ∀ v vs, req.outIov = v :: vs → v.iovLen.toNat < getNethdrSize version1) :
    (netTxServe tap version1 pad mem dev req).2 = dev := by
  unfold netTxServe
  split
  · rfl
  · next v vs hout => rw [if_pos (h v vs hout)]

/-- **Transmitted frames**: a transmit pass whose walk returns records one completion with
    the head of the chain, and
    * if the first buffer holds the header, there is one `writev`, of at most `NET_IOV_MAX`
      entries, whose bytes are those that guest memory has in the buffers of the chain, in
      order, and as many zeros as the packet lacks to 64, and neither the sum of the lengths nor
      the length of the packet behind the header leaves the range of a `size_t`;
    * if it does not, if the chain is empty or was not accepted, nothing is sent;
    * nor is anything sent for a chain with a device-writable buffer. -/
theorem net_tx_frames (tap : TapBackend σ) (zm : ZoneTable) (version1 : Bool) (pad : UInt64)
    (q : CompletionQueue) (mem : Mem) (dev : σ) (r : Int × VirtioRequest × VirtQueue)
    (ha : q.vq.availRing ≠ 0)
    (hwalk : chainBufCall zm mem q.vq Handler.netTx.cfg (q.vq.availHead mem) = .ok r)
    (hpad : ∀ v ∈ r.2.1.outIov, PadApart pad v) :
    ∃ (len : UInt32) (dev' : σ),
      netTxHandleOneRequest tap zm version1 pad q mem dev =
        (batchPush { q with vq := afterWalk r } (q.vq.availHead mem, len) >>= fun q =>
          .ok (q, dev')) ∧
      (q.batch.length < virtqueueNetMaxSize →
        netTxHandleOneRequest tap zm version1 pad q mem dev =
          .ok (⟨afterWalk r, q.used, q.batch ++ [(q.vq.availHead mem, len)]⟩, dev')) ∧
      (∀ v vs, r.2.1.outIov = v :: vs → getNethdrSize version1 ≤ v.iovLen.toNat →
        getNethdrSize version1 ≤ iovTotal (v :: vs) ∧ iovTotal (v :: vs) < 2 ^ 64 ∧
        ∃ (iov : List Iovec) (ds : List VirtqDesc), iov.length ≤ virtqueueNetMaxSize ∧
          dev' = (tap.writev dev (withPad mem pad) iov).2 ∧
          chainItems zm mem q.vq q.vq.num.toNat (q.vq.availHead mem) = ds.map ChainItem.buffer ∧
          iovBytes (withPad mem pad) iov = chainBytes zm q.vq mem ds ++
            List.replicate (64 - (iovTotal (v :: vs) - getNethdrSize version1)) 0) ∧
      ((∀ v vs, r.2.1.outIov = v :: vs → v.iovLen.toNat < getNethdrSize version1) → dev' = dev) ∧
      ((∃ d, .buffer d ∈ chainItems zm mem q.vq q.vq.num.toNat (q.vq.availHead mem) ∧
        d.isWrite = true) → dev' = dev) := by
  refine ⟨_, _, netTxHandle_eq ha hwalk, ?_, ?_, ?_, ?_⟩
  · intro hplace
    rw [netTxHandle_eq ha hwalk, batchPush, if_pos hplace]
    rfl
  · intro v vs hout hroom
    have hlens : ∀ w ∈ v :: vs, w.iovLen.toNat < 2 ^ 32 := by
      intro w hw
      rw [← hout] at hw
      exact (chainBufCall_entries hwalk w (List.mem_append_left _ hw)).2
    obtain ⟨-, hempty⟩ | ⟨ds, hitems, -, hcount, hreq, hmax⟩ := txWalk hwalk
    · rw [hempty] at hout
      cases hout
    · rw [hreq] at hout hpad
      have hmap : ds.map (·.iovec zm q.vq) = v :: vs := hout
      have hlen : (v :: vs).length = ds.length := by rw [← hmap, List.length_map]
      have hsum : iovTotal (v :: vs) ≤ (v :: vs).length * 2 ^ 32 := iovTotal_le hlens
      have hsome : ¬ r.1 < 1 := by
        rw [List.length_cons] at hlen
        omega
      have hnet : virtqueueNetMaxSize = 256 := rfl
      refine ⟨Nat.le_trans hroom (by rw [iovTotal_cons]; omega), by omega,
        txIov pad (getNethdrSize version1) (v :: vs), ds, ?_, ?_, hitems, ?_⟩
      · have hle : (txIov pad (getNethdrSize version1) (v :: vs)).length ≤ (v :: vs).length + 1 :=
          txIov_length
        omega
      · rw [netTxOutcome, if_neg hsome, hreq, hmap]
        exact netTxServe_sends tap version1 pad dev hroom
      · rw [txIov_bytes, ← hmap, iovBytes_withPad mem hpad, iovBytes_iovec]
  · intro hshort
    unfold netTxOutcome
    split
    · rfl
    · exact netTxServe_drops tap version1 pad dev hshort
  · intro ⟨d, hmem, hwrite⟩
    obtain ⟨hfail, -⟩ | ⟨ds, hitems, hread, -⟩ := txWalk hwalk
    · rw [netTxOutcome, if_pos (by omega)]
    · rw [hitems] at hmem
      obtain ⟨d', hd', heq⟩ := List.mem_map.mp hmem
      cases heq
      rw [hread d hd'] at hwrite
      cases hwrite

/-- A tap device that keeps the frames. -/
def recordTap : TapBackend (List (List UInt8)) where
  writev sent mem iov := (some (iovTotal iov), sent ++ [iovBytes mem iov])

/-- A queue of size 2 with a chain of two buffers: 13 bytes at 0x10400 and 2 at 0x10500. -/
def txTwoBuffers : CompletionQueue :=
  { oneDescQueue with vq := { oneDescQueue.vq with num := 2 } }

def twoBufferFrame : Mem := fun a =>
  (([(0x10001, 0x14), (0x10008, 13), (0x1000C, 1), (0x1000E, 1), (0x10011, 0x15), (0x10018, 2),
    (0x10102, 1), (0x1040C, 0xaa), (0x10500, 0xbb), (0x10501, 0xcc)] :
      List (UInt64 × UInt8)).lookup a).getD 0

/-- What its walk returns. -/
def twoBufferWalk : Int × VirtioRequest × VirtQueue :=
  (2, ⟨[⟨0x10400, 13⟩, ⟨0x10500, 2⟩], []⟩, txTwoBuffers.vq.advance)

/-- The frame of that chain: a header of 12 bytes, three bytes of the guest, 61 zeros. -/
theorem net_tx_frames_two_buffers :
    ∃ q', netTxHandleOneRequest recordTap onePage true 0x20000 txTwoBuffers twoBufferFrame [] =
        .ok (q', [List.replicate 12 0 ++ [0xaa, 0xbb, 0xcc] ++ List.replicate 61 0]) ∧
      q'.batch.length = 1 := by
  obtain ⟨len, dev', -, hone, hsent, -, -⟩ := net_tx_frames recordTap onePage true 0x20000
    txTwoBuffers twoBufferFrame [] twoBufferWalk (by decide) rfl (by decide)
  obtain ⟨-, -, iov, ds, -, hdev, hitems, hbytes⟩ :=
    hsent ⟨0x10400, 13⟩ [⟨0x10500, 2⟩] rfl (by decide)
  obtain rfl : ds = [⟨0x1400, 13, 1, 1⟩, ⟨0x1500, 2, 0, 0⟩] :=
    List.map_injective_iff.mpr (fun _ _ => ChainItem.buffer.inj) hitems.symm
  have hframe : dev' = [List.replicate 12 0 ++ [0xaa, 0xbb, 0xcc] ++ List.replicate 61 0] := by
    rw [hdev]
    exact congrArg (fun frame => [frame]) hbytes
  have hpass := hone (by decide)
  rw [hframe] at hpass
  exact ⟨_, hpass, rfl⟩

end Chains

end HvisorTool
