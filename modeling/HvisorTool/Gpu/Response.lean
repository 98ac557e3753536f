/-
  File:      HvisorTool/Gpu/Response.lean
  Subject:   THE RESPONSE TO A GPU COMMAND: `buf_to_iov`, `virtio_gpu_ctrl_response`, and a
             request from its chain to its used entry.

  The response goes into the buffers behind the first one, whatever their direction and
  however little room they have; the used entry has the length of the response.

  * `bufToIovFull`: the scatter copy, as the copies it makes;
  * `copiedBytes_bufToIovFull`: they fill the buffers in order;
  * `virtioGpuCtrlResponse`, `virtioGpuRequest`: the response, and the whole request;
  * `length_response`: how long the response to a command is.
-/
import Mathlib.Order.Interval.Finset.Nat
import HvisorTool.Gpu.Command
import HvisorTool.Virtio.Buffers
import HvisorTool.Virtio.Used

namespace HvisorTool

open Library

/-! ## 1. The scatter copy -/

/-- A `memcpy` into a buffer: which one, from where in it on, and the bytes. -/
structure IovCopy where
  buf : Nat
  off : Nat
  bytes : List UInt8
  deriving DecidableEq, Repr

/-- The loop of `buf_to_iov_full`, with the buffers numbered from `i` on: the offset that
    is left, `done`, and the copies. -/
def bufToIovLoop (buf : List UInt8) :
    Nat → List Iovec → Nat → Nat → Except ChainError (Nat × Nat × List IovCopy)
  | _, [], offset, done => .ok (offset, done, [])
  | i, v :: vs, offset, done =>
    if offset ≠ 0 ∨ done < buf.length then
      if offset < v.iovLen.toNat then
        let len := min (v.iovLen.toNat - offset) (buf.length - done)
        -- `memcpy` to `NULL`
        if v.iovBase = 0 ∧ 0 < len then .error .segv
        else do
          let (offset', done', copies) ← bufToIovLoop buf (i + 1) vs 0 (done + len)
          .ok (offset', done', ⟨i, offset, (buf.drop done).take len⟩ :: copies)
      else bufToIovLoop buf (i + 1) vs (offset - v.iovLen.toNat) done
    else .ok (offset, done, [])

/-- `buf_to_iov_full` at offset 0: the bytes copied, and the copies. What `buf_to_iov` does
    itself, where the first buffer has room, is the same copy. -/
def bufToIovFull (buf : List UInt8) (i : Nat) (iov : List Iovec) :
    Except ChainError (Nat × List IovCopy) := do
  let (offset, done, copies) ← bufToIovLoop buf i iov 0 0
  .ok (if offset ≠ 0 then 0 else done, copies)

/-- The bytes that a copy stores to. -/
def IovCopy.stored (c : IovCopy) : Finset BufByte :=
  {c.buf} ×ˢ Finset.Ico c.off (c.off + c.bytes.length)

def copiedBytes : List IovCopy → Finset BufByte
  | [] => ∅
  | c :: cs => c.stored ∪ copiedBytes cs

theorem scatter_zero (i : Nat) (ls : List Nat) : scatter i 0 ls = ∅ := by
  refine Finset.card_eq_zero.mp ?_
  rw [card_scatter, Nat.zero_min]

theorem stored_leading (i : Nat) (bytes : List UInt8) :
    IovCopy.stored ⟨i, 0, bytes⟩ = leadingBytes i bytes.length := by
  rw [IovCopy.stored, leadingBytes, Nat.zero_add, Finset.range_eq_Ico]

variable {copies : List IovCopy} {resp : GPUResponse}

theorem copiedBytes_bufToIovLoop {buf : List UInt8} {iov : List Iovec} {i done offset' done' : Nat}
    (hdone : done ≤ buf.length) (h : bufToIovLoop buf i iov 0 done = .ok (offset', done', copies)) :
    copiedBytes copies = scatter i (buf.length - done) (iov.map (·.iovLen.toNat)) := by
  induction iov generalizing i done offset' done' copies with
  | nil =>
    cases h
    rfl
  | cons v vs ih =>
    unfold bufToIovLoop at h
    rw [List.map_cons, scatter]
    split at h
    · split at h
      · dsimp only at h
        split at h
        · cases h
        · -- the copy takes what the buffer has room for
          obtain ⟨⟨off₁, done₁, rest⟩, hrest, h⟩ := bind_eq_ok.mp h
          cases h
          have hlen : ((buf.drop done).take
              (min (v.iovLen.toNat - 0) (buf.length - done))).length =
                min (buf.length - done) v.iovLen.toNat := by
            rw [List.length_take, List.length_drop]
            omega
          have hleft : buf.length - (done + min (v.iovLen.toNat - 0) (buf.length - done)) =
              buf.length - done - v.iovLen.toNat := by omega
          rw [copiedBytes, stored_leading, hlen, ih (by omega) hrest, hleft]
      · next hempty =>
        have hzero : v.iovLen.toNat = 0 := by omega
        rw [hzero] at h ⊢
        rw [ih hdone h, Nat.min_zero, Nat.sub_zero, leadingBytes, Finset.range_zero,
          Finset.product_empty, Finset.empty_union]
    · next hfull =>
      cases h
      have hzero : buf.length - done = 0 := by omega
      rw [hzero, Nat.zero_min, Nat.zero_sub, scatter_zero, leadingBytes, Finset.range_zero,
        Finset.product_empty, Finset.empty_union]
      rfl

/-- **The copies fill the buffers in order**, with as many bytes as there are. -/
theorem copiedBytes_bufToIovFull {buf : List UInt8} {iov : List Iovec} {i done : Nat}
    (h : bufToIovFull buf i iov = .ok (done, copies)) :
    copiedBytes copies = scatter i buf.length (iov.map (·.iovLen.toNat)) := by
  obtain ⟨⟨off, done', copies'⟩, hloop, h⟩ := bind_eq_ok.mp h
  cases h
  exact copiedBytes_bufToIovLoop (Nat.zero_le _) hloop

/-! ## 2. The response -/

/-- `virtio_gpu_ctrl_response`: the response goes into the buffers from the second on, and
    the used entry has its length, also where it was not copied as a whole. -/
def virtioGpuCtrlResponse (q : CompletionQueue) (respIov : List Iovec) (respIdx : UInt16)
    (resp : GPUResponse) : Except GPUFault (CompletionQueue × List IovCopy) := do
  let (_, copies) ← accessing (bufToIovFull resp.bytes 1 respIov.tail)
  if q.vq.usedRing = 0 then .error (.access .segv)
  else
    .ok ({ q with
           used := updateUsedRing q.vq.num q.used (respIdx, UInt32.ofNat resp.bytes.length) },
      copies)

/-- A response posts one used entry, with the index of its command. -/
theorem ctrlResponse_posts {q q' : CompletionQueue} {respIov : List Iovec} {respIdx : UInt16}
    (h : virtioGpuCtrlResponse q respIov respIdx resp = .ok (q', copies)) :
    q' = { q with
      used := updateUsedRing q.vq.num q.used (respIdx, UInt32.ofNat resp.bytes.length) } := by
  obtain ⟨⟨done, copied⟩, -, h⟩ := bind_eq_ok.mp h
  dsimp only at h
  split at h
  · cases h
  · cases h
    rfl

/-- A request from its chain on: `virtio_gpu_handle_single_request` takes it, and
    `virtio_gpu_simple_process_cmd` runs it, in the thread that `virtio_gpu_handler` is. A
    command whose header cannot be read is dropped. -/
def virtioGpuRequest (zm : ZoneTable) (mem : Mem) (fuel : Nat) (junk : Nat → Iovec) (env : GPUEnv)
    (q : CompletionQueue) (dev : GPUState) :
    Except GPUFault (CompletionQueue × GPUState × List IovCopy) := do
  let r ← accessing (processDescriptorChain zm mem q.vq fuel 0 true)
  if r.ret < 1 then .ok ({ q with vq := r.vq }, dev, [])
  else do
    let o ← virtioGpuSimpleProcessCmd env (r.iovs junk) dev
    match o.resp with
    | none => .ok ({ q with vq := r.vq }, o.dev, [])
    | some resp => do
        let (q, copies) ← virtioGpuCtrlResponse { q with vq := r.vq } (r.iovs junk)
          (r.descIdx.getD 0) resp
        .ok (q, o.dev, copies)

/-! ## 3. How long a response is -/

/-- `sizeof(display_info)` for `VIRTIO_GPU_CMD_GET_DISPLAY_INFO`, else that of a header. -/
def gpuResponseSize (code : UInt32) : Nat := if code = 0x100 then 408 else 24

theorem length_displayMode (dev : GPUState) (i : Nat) : (displayMode dev i).length = 24 := by
  unfold displayMode
  split
  · split <;> rfl
  · rfl

theorem length_displayInfo (dev : GPUState) : (virtioGpuGetDisplayInfo dev).bytes.length = 408 := by
  have hmodes : ∀ l : List Nat, (l.flatMap (displayMode dev)).length = 24 * l.length := by
    intro l
    induction l with
    | nil => rfl
    | cons i l ih =>
      rw [List.flatMap_cons, List.length_append, length_displayMode, ih, List.length_cons]
      omega
  have hdata := hmodes (List.range 16)
  rw [List.length_range] at hdata
  unfold GPUResponse.bytes virtioGpuGetDisplayInfo
  rw [List.length_append, List.length_append, hdata, List.length_replicate]
  rfl

/-- A response without data is a header. -/
theorem length_respond {r : GPUResult} (h : r.respond.resp = some resp) :
    resp.bytes.length = 24 := by
  cases h
  unfold GPUResponse.bytes
  rw [List.length_append, List.length_append, List.length_replicate]
  rfl

theorem code_getDisplayInfo {code : UInt32}
    (h : GPUCommandType.ofCode code = some .getDisplayInfo) : code = 0x100 := by
  have hstep : ∀ {p : Prop} [Decidable p] {type : GPUCommandType} {rest : Option GPUCommandType},
      type ≠ .getDisplayInfo → (if p then some type else rest) = some .getDisplayInfo →
        rest = some .getDisplayInfo := by
    intro p _ type rest hne hif
    split at hif
    · exact absurd (Option.some.inj hif) hne
    · exact hif
  by_contra hcode
  unfold GPUCommandType.ofCode at h
  rw [if_neg hcode] at h
  have h₁ := hstep (by decide) (hstep (by decide) (hstep (by decide) (hstep (by decide) h)))
  have h₂ := hstep (by decide) (hstep (by decide) (hstep (by decide) (hstep (by decide) h₁)))
  cases h₂

/-- **The length of the response is that of the command's type.** -/
theorem length_response {env : GPUEnv} {iov : List Iovec} {dev : GPUState} {o : GPUOutcome}
    (h : virtioGpuSimpleProcessCmd env iov dev = .ok o) (hresp : o.resp = some resp) :
    ∃ code, controlHeaderType env iov = .ok (some code) ∧
      resp.bytes.length = gpuResponseSize code := by
  obtain ⟨header, hheader, h⟩ := bind_eq_ok.mp h
  cases header with
  | none =>
    cases h
    cases hresp
  | some code =>
    refine ⟨code, hheader, ?_⟩
    dsimp only at h
    unfold gpuResponseSize
    by_cases hcode : code = 0x100
    · subst hcode
      cases h
      cases hresp
      exact length_displayInfo dev
    · rw [if_neg hcode]
      cases htype : GPUCommandType.ofCode code with
      | none =>
        rw [htype] at h
        cases h
        exact length_respond hresp
      | some type =>
        rw [htype] at h
        cases type with
        | getDisplayInfo => exact absurd (code_getDisplayInfo htype) hcode
        | getEdid =>
          cases h
          exact length_respond hresp
        | resourceCreate2d | resourceUnref | resourceFlush | transferToHost2d | setScanout
        | resourceAttachBacking | resourceDetachBacking =>
          obtain ⟨r, -, rfl⟩ := map_eq_ok.mp h
          exact length_respond hresp

end HvisorTool
