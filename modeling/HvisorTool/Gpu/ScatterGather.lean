/-
  File:      HvisorTool/Gpu/ScatterGather.lean
  Subject:   THE COPIES BETWEEN A BUFFER AND A LIST OF BUFFERS: `iov_to_buf` and `buf_to_iov` with
             their full versions, on the words and the memory of the host.

  Both functions are one loop, with the `memcpy` of a pass in one direction or in the other. The
  list of buffers has the entries up to `iov_cnt`.

  * `copyFull`, `copySingle`: the two loops and the two short ways;
  * `LoopMoves`, `copyLoop_moves`: a loop moves a run of bytes between the buffer and the
    concatenation;
  * `Buffers`, `DisjointBuffers`, `HostBuffer`: the buffers of a copy;
  * `scatter_gather_copies`: what the four functions return and what they change;
  * `iovToBufFull_refines`, `bufToIovFull_refines`: the copies of `Mapping.lean` and
    `Response.lean` are these.
-/
import HvisorTool.Gpu.Mapping
import HvisorTool.Gpu.ResponseBuffers

namespace HvisorTool

open Library

/-! ## 1. Runs of addresses -/

/-- The addresses of so many bytes from one on. -/
def addrsFrom (a : UInt64) (len : Nat) : List UInt64 :=
  (List.range len).map fun j => a + UInt64.ofNat j

@[simp] theorem length_addrsFrom (a : UInt64) (len : Nat) : (addrsFrom a len).length = len := by
  rw [addrsFrom, List.length_map, List.length_range]

theorem map_addrsFrom (mem : Mem) (a : UInt64) (len : Nat) :
    (addrsFrom a len).map mem = readBytes mem a len := List.map_map

theorem addrsFrom_add (a : UInt64) (m n : Nat) :
    addrsFrom a (m + n) = addrsFrom a m ++ addrsFrom (a + UInt64.ofNat m) n := by
  unfold addrsFrom
  rw [List.range_add, List.map_append, List.map_map]
  refine congrArg _ (List.map_congr_left fun j _ => ?_)
  rw [Function.comp_apply, UInt64.ofNat_add, UInt64.add_assoc]

/-- From inside a run. -/
theorem addrsFrom_drop_take (a : UInt64) {off len total : Nat} (h : off + len ≤ total) :
    ((addrsFrom a total).drop off).take len = addrsFrom (a + UInt64.ofNat off) len := by
  obtain ⟨rest, rfl⟩ := Nat.exists_eq_add_of_le h
  rw [Nat.add_assoc, addrsFrom_add, List.drop_left' (length_addrsFrom a off), addrsFrom_add,
    List.take_left' (length_addrsFrom _ len)]

theorem nodup_addrsFrom (a : UInt64) {len : Nat} (h : len ≤ 2 ^ 64) : (addrsFrom a len).Nodup := by
  refine List.Nodup.map_on (fun i hi j hj heq => ?_) List.nodup_range
  have hi := List.mem_range.mp hi
  have hj := List.mem_range.mp hj
  have hwords := congrArg UInt64.toNat (UInt64.add_right_inj a |>.mp heq)
  rwa [UInt64.toNat_ofNat_of_lt' (Nat.lt_of_lt_of_le hi h),
    UInt64.toNat_ofNat_of_lt' (Nat.lt_of_lt_of_le hj h)] at hwords

/-- Bytes are stored one by one. -/
theorem writeBytes_eq_after (mem : Mem) (a : UInt64) (bs : List UInt8) :
    writeBytes mem a bs = Stores.after mem ((addrsFrom a bs.length).zip bs) := by
  induction bs generalizing mem a with
  | nil => rfl
  | cons b bs ih =>
    have hfirst : addrsFrom a 1 = [a] := congrArg (fun x => [x]) (UInt64.add_zero a)
    rw [writeBytes, ih, List.length_cons, Nat.add_comm, addrsFrom_add, hfirst]
    rfl

theorem iovBytes_eq_map (mem : Mem) (iov : List Iovec) :
    iovBytes mem iov = (iovAddrs iov).map mem := by
  rw [iovBytes, iovAddrs, List.map_flatMap]
  exact List.flatMap_congr fun v _ => (map_addrsFrom mem v.iovBase v.iovLen.toNat).symm

theorem length_iovAddrs (iov : List Iovec) : (iovAddrs iov).length = iovTotal iov := by
  rw [iovAddrs, List.length_flatMap, iovTotal]
  exact congrArg List.sum (List.map_congr_left fun v _ => length_addrs v)

/-! ## 2. The functions -/

namespace ScatterGather

inductive Direction where
  | iovToBuf
  | bufToIov
  deriving DecidableEq, Repr

/-- The macro `MIN`. -/
def wordMin (a b : UInt64) : UInt64 := if a < b then a else b

/-- `memcpy` from `src + srcOff` to `dst + dstOff`, of objects that do not overlap. -/
def memcpy (mem : Mem) (dst dstOff src srcOff len : UInt64) : Except ChainError Mem :=
  if (dst = 0 ∨ src = 0) ∧ 0 < len then .error .segv
  else .ok (writeBytes mem (dst + dstOff) (readBytes mem (src + srcOff) len.toNat))

/-- The `memcpy` of a pass, between `buf + done` and `iov_base + offset`. -/
def memcpyPart (dir : Direction) (mem : Mem) (buf done base offset len : UInt64) :
    Except ChainError Mem :=
  match dir with
  | .iovToBuf => memcpy mem buf done base offset len
  | .bufToIov => memcpy mem base offset buf done len

/-- The loop: what is left of the offset, `done`, and the memory. -/
def copyLoop (dir : Direction) (buf need : UInt64) :
    List Iovec → UInt64 → UInt64 → Mem → Except ChainError (UInt64 × UInt64 × Mem)
  | [], offset, done, mem => .ok (offset, done, mem)
  | v :: vs, offset, done, mem =>
    if offset ≠ 0 ∨ done < need then
      if offset < v.iovLen then do
        let len := wordMin (v.iovLen - offset) (need - done)
        let mem ← memcpyPart dir mem buf done v.iovBase offset len
        copyLoop dir buf need vs 0 (done + len) mem
      else copyLoop dir buf need vs (offset - v.iovLen) done mem
    else .ok (offset, done, mem)

def copyFull (dir : Direction) (mem : Mem) (iov : List Iovec) (offset buf need : UInt64) :
    Except ChainError (UInt64 × Mem) := do
  let (offset, done, mem) ← copyLoop dir buf need iov offset 0 mem
  .ok (if offset ≠ 0 then 0 else done, mem)

/-- `iov_to_buf_full`. -/
def iovToBufFull (mem : Mem) (iov : List Iovec) (offset buf need : UInt64) :
    Except ChainError (UInt64 × Mem) := copyFull .iovToBuf mem iov offset buf need

/-- `buf_to_iov_full`. -/
def bufToIovFull (mem : Mem) (iov : List Iovec) (offset buf need : UInt64) :
    Except ChainError (UInt64 × Mem) := copyFull .bufToIov mem iov offset buf need

/-- The way through the first buffer alone, where it is enough; `constant` is the answer of
    `__builtin_constant_p(bytes_need_copy)`. -/
def copySingle (dir : Direction) (constant : Bool) (mem : Mem) (iov : List Iovec)
    (offset buf need : UInt64) : Except ChainError (UInt64 × Mem) :=
  match iov with
  | [] => copyFull dir mem [] offset buf need
  | v :: vs =>
    if constant = true ∧ offset ≤ v.iovLen ∧ need ≤ v.iovLen - offset then do
      let mem ← memcpyPart dir mem buf 0 v.iovBase offset need
      .ok (need, mem)
    else copyFull dir mem (v :: vs) offset buf need

/-- `iov_to_buf`. -/
def iovToBuf (constant : Bool) (mem : Mem) (iov : List Iovec) (offset buf need : UInt64) :
    Except ChainError (UInt64 × Mem) := copySingle .iovToBuf constant mem iov offset buf need

/-- `buf_to_iov`. -/
def bufToIov (constant : Bool) (mem : Mem) (iov : List Iovec) (offset buf need : UInt64) :
    Except ChainError (UInt64 × Mem) := copySingle .bufToIov constant mem iov offset buf need

/-! ## 3. The loop -/

/-- Bytes are moved between two lists of addresses. -/
def transfer (dir : Direction) (mem : Mem) (bufs iovs : List UInt64) : Mem :=
  match dir with
  | .iovToBuf => Stores.copy mem bufs iovs
  | .bufToIov => Stores.copy mem iovs bufs

theorem transfer_nil (dir : Direction) (mem : Mem) : transfer dir mem [] [] = mem := by
  cases dir <;> rfl

variable {mem : Mem} {iov : List Iovec}

/-- A transfer in two parts. -/
theorem transfer_append (dir : Direction) {bufs bufs' iovs iovs' : List UInt64}
    (hlen : bufs.length = iovs.length) (hapart : List.Disjoint (bufs ++ bufs') (iovs ++ iovs')) :
    transfer dir mem (bufs ++ bufs') (iovs ++ iovs') =
      transfer dir (transfer dir mem bufs iovs) bufs' iovs' := by
  cases dir with
  | iovToBuf =>
    exact Stores.copy_append hlen fun a ha hbuf =>
      hapart (List.mem_append_left _ hbuf) (List.mem_append_right _ ha)
  | bufToIov =>
    exact Stores.copy_append hlen.symm fun a ha hiov =>
      hapart (List.mem_append_right _ ha) (List.mem_append_left _ hiov)

theorem memcpy_eq {dst src len : UInt64} (h : 0 < len → dst ≠ 0 ∧ src ≠ 0)
    (dstOff srcOff : UInt64) :
    memcpy mem dst dstOff src srcOff len =
      .ok (Stores.copy mem (addrsFrom (dst + dstOff) len.toNat)
        (addrsFrom (src + srcOff) len.toNat)) := by
  have hok : ¬ ((dst = 0 ∨ src = 0) ∧ 0 < len) := by
    rintro ⟨hnull, hpos⟩
    rcases hnull with hdst | hsrc
    · exact (h hpos).1 hdst
    · exact (h hpos).2 hsrc
  unfold memcpy
  rw [if_neg hok, writeBytes_eq_after, readBytes_length, Stores.copy, map_addrsFrom]

theorem memcpyPart_eq (dir : Direction) {buf base len : UInt64} (h : 0 < len → buf ≠ 0 ∧ base ≠ 0)
    (done offset : UInt64) :
    memcpyPart dir mem buf done base offset len =
      .ok (transfer dir mem (addrsFrom (buf + done) len.toNat)
        (addrsFrom (base + offset) len.toNat)) := by
  cases dir with
  | iovToBuf => exact memcpy_eq h done offset
  | bufToIov => exact memcpy_eq (fun hpos => (h hpos).symm) offset done

theorem memcpyPart_zero (dir : Direction) (mem : Mem) (buf done base offset : UInt64) :
    memcpyPart dir mem buf done base offset 0 = .ok mem := by
  have hpos : ¬ (0 : UInt64) < 0 := UInt64.lt_irrefl 0
  cases dir with
  | iovToBuf | bufToIov => exact if_neg fun h => hpos h.2

theorem toNat_wordMin (a b : UInt64) : (wordMin a b).toNat = min a.toNat b.toNat := by
  unfold wordMin
  split
  · next h => exact (Nat.min_eq_left (Nat.le_of_lt (UInt64.lt_iff_toNat_lt.mp h))).symm
  · next h => exact (Nat.min_eq_right (UInt64.le_iff_toNat_le.mp (UInt64.not_lt.mp h))).symm

section Loop

variable (dir : Direction) (buf : UInt64) {need offset done : UInt64} (mem : Mem)

/-- With nothing left to skip and nothing to copy, the loop is over. -/
theorem copyLoop_stop (iov : List Iovec) (h : need ≤ done) :
    copyLoop dir buf need iov 0 done mem = .ok (0, done, mem) := by
  cases iov with
  | nil => rfl
  | cons v vs => exact if_neg fun hmore => hmore.elim (fun h => h rfl) (UInt64.not_lt.mpr h)

/-- A buffer before the offset is skipped. -/
theorem copyLoop_skip {v : Iovec} (vs : List Iovec) (h : v.iovLen ≤ offset) :
    copyLoop dir buf need (v :: vs) offset done mem =
      copyLoop dir buf need vs (offset - v.iovLen) done mem := by
  rw [copyLoop]
  by_cases hmore : offset ≠ 0 ∨ done < need
  · rw [if_pos hmore, if_neg (UInt64.not_lt.mpr h)]
  · obtain ⟨hoff, hdone⟩ := not_or.mp hmore
    obtain rfl := not_not.mp hoff
    have hzero : v.iovLen = 0 := UInt64.le_zero_iff.mp h
    rw [if_neg hmore, hzero, UInt64.sub_zero, copyLoop_stop dir buf mem vs (UInt64.not_lt.mp hdone)]

/-- The buffer with the offset in it gives or takes what it can. -/
theorem copyLoop_take {v : Iovec} (vs : List Iovec) (h : offset < v.iovLen) (hdone : done ≤ need) :
    copyLoop dir buf need (v :: vs) offset done mem =
      (memcpyPart dir mem buf done v.iovBase offset
          (wordMin (v.iovLen - offset) (need - done))).bind
        (copyLoop dir buf need vs 0 (done + wordMin (v.iovLen - offset) (need - done))) := by
  rw [copyLoop]
  by_cases hmore : offset ≠ 0 ∨ done < need
  · rw [if_pos hmore, if_pos h]
    rfl
  · -- no byte is copied any more
    obtain ⟨hoff, hnot⟩ := not_or.mp hmore
    obtain rfl := not_not.mp hoff
    obtain rfl : done = need := UInt64.le_antisymm hdone (UInt64.not_lt.mp hnot)
    have hlen : wordMin (v.iovLen - 0) (done - done) = 0 := by
      rw [UInt64.sub_self]
      exact if_neg UInt64.not_lt_zero
    rw [if_neg hmore, hlen, memcpyPart_zero, UInt64.add_zero]
    exact (copyLoop_stop dir buf mem vs (UInt64.le_refl done)).symm

end Loop

/-- What a pass takes of the concatenation, and what the buffers behind have. -/
theorem window_cons {v : Iovec} {vs : List Iovec} {offset k rest : Nat}
    (hk : offset + k ≤ v.iovLen.toNat) (hrest : offset + k = v.iovLen.toNat ∨ rest = 0) :
    ((iovAddrs (v :: vs)).drop offset).take (k + rest) =
      addrsFrom (v.iovBase + UInt64.ofNat offset) k ++ (iovAddrs vs).take rest := by
  have hlen : (v.addrs.drop offset).length = v.iovLen.toNat - offset := by
    rw [List.length_drop, length_addrs]
  have hfirst : (v.addrs.drop offset).take k = addrsFrom (v.iovBase + UInt64.ofNat offset) k :=
    addrsFrom_drop_take v.iovBase hk
  rw [iovAddrs_cons, List.drop_append_of_le_length (by rw [length_addrs]; omega), ← hfirst,
    List.take_append, hlen]
  rcases hrest with hend | rfl
  · rw [List.take_of_length_le (l := v.addrs.drop offset) (i := k + rest) (by omega),
      List.take_of_length_le (l := v.addrs.drop offset) (i := k) (by omega)]
    congr 2
    omega
  · rw [Nat.add_zero, Nat.sub_eq_zero_of_le (by omega), List.take_zero]

/-- The loop moves so many bytes from here on, and keeps what is left of the offset. -/
def LoopMoves (dir : Direction) (buf need : UInt64) (iov : List Iovec) (offset done : UInt64)
    (mem : Mem) (r : Nat) : Prop :=
  ∃ offset' done', copyLoop dir buf need iov offset done mem = .ok (offset', done',
      transfer dir mem (addrsFrom (buf + done) r) (((iovAddrs iov).drop offset.toNat).take r)) ∧
    offset'.toNat = offset.toNat - iovTotal iov ∧ done'.toNat = done.toNat + r

section Moves

variable {dir : Direction} {buf need offset done : UInt64} {v : Iovec} {vs : List Iovec} {mem : Mem}

/-- Past a buffer before the offset. -/
theorem LoopMoves.skip {r : Nat} (hle : v.iovLen ≤ offset)
    (h : LoopMoves dir buf need vs (offset - v.iovLen) done mem r) :
    LoopMoves dir buf need (v :: vs) offset done mem r := by
  obtain ⟨offset', done', hloop, hoffset', hdone'⟩ := h
  have hoff := UInt64.toNat_sub_of_le _ _ hle
  have hskip : v.addrs.drop offset.toNat = [] :=
    List.drop_of_length_le (by rw [length_addrs]; exact UInt64.le_iff_toNat_le.mp hle)
  refine ⟨offset', done', ?_, ?_, hdone'⟩
  · rw [copyLoop_skip dir buf mem vs hle, hloop, hoff, iovAddrs_cons, List.drop_append,
      length_addrs, hskip, List.nil_append]
  · rw [hoffset', hoff, iovTotal_cons, Nat.sub_sub]

/-- Past the buffer with the offset in it: the bytes are those of this buffer, then those of the
    buffers behind. -/
theorem LoopMoves.take {len : UInt64} {rest : Nat} (hin : offset < v.iovLen) (hle : done ≤ need)
    (hword : wordMin (v.iovLen - offset) (need - done) = len)
    (hdone : (done + len).toNat = done.toNat + len.toNat)
    (hmapped : 0 < len → buf ≠ 0 ∧ v.iovBase ≠ 0) (hk : offset.toNat + len.toNat ≤ v.iovLen.toNat)
    (hend : offset.toNat + len.toNat = v.iovLen.toNat ∨ rest = 0)
    (hapart : List.Disjoint (addrsFrom (buf + done) (len.toNat + rest)) (iovAddrs (v :: vs)))
    (h : ∀ mem, LoopMoves dir buf need vs 0 (done + len) mem rest) :
    LoopMoves dir buf need (v :: vs) offset done mem (len.toNat + rest) := by
  have hwindow : ((iovAddrs (v :: vs)).drop offset.toNat).take (len.toNat + rest) =
      addrsFrom (v.iovBase + offset) len.toNat ++ (iovAddrs vs).take rest := by
    rw [window_cons hk hend, UInt64.ofNat_toNat]
  have hbufs : addrsFrom (buf + done) (len.toNat + rest) =
      addrsFrom (buf + done) len.toNat ++ addrsFrom (buf + (done + len)) rest := by
    rw [addrsFrom_add, UInt64.ofNat_toNat, UInt64.add_assoc]
  have hboth : List.Disjoint
      (addrsFrom (buf + done) len.toNat ++ addrsFrom (buf + (done + len)) rest)
      (addrsFrom (v.iovBase + offset) len.toNat ++ (iovAddrs vs).take rest) := by
    rw [← hbufs, ← hwindow]
    exact fun a ha ha' => hapart ha (List.drop_subset _ _ (List.take_subset _ _ ha'))
  obtain ⟨offset', done', hloop, hoffset', hdone'⟩ := h (transfer dir mem
    (addrsFrom (buf + done) len.toNat) (addrsFrom (v.iovBase + offset) len.toNat))
  refine ⟨offset', done', ?_, ?_, ?_⟩
  · rw [copyLoop_take dir buf mem vs hin hle, hword, memcpyPart_eq dir hmapped, hwindow, hbufs,
      transfer_append dir (by simp) hboth]
    rw [UInt64.toNat_zero, List.drop_zero] at hloop
    exact hloop
  · have hlt : offset.toNat < v.iovLen.toNat := UInt64.lt_iff_toNat_lt.mp hin
    rw [hoffset', iovTotal_cons, UInt64.toNat_zero, Nat.zero_sub, Nat.sub_eq_zero_of_le (by omega)]
  · rw [hdone', hdone, Nat.add_assoc]

end Moves

/-- **What the loop does**: it moves as many bytes as are wanted and there. -/
theorem copyLoop_moves (dir : Direction) (hmapped : IovMapped iov) {buf need offset done : UInt64}
    {r : Nat} (hdone : done.toNat ≤ need.toNat)
    (hr : r = min (need.toNat - done.toNat) (iovTotal iov - offset.toNat)) (hbuf : 0 < r → buf ≠ 0)
    (hapart : List.Disjoint (addrsFrom (buf + done) r) (iovAddrs iov)) :
    LoopMoves dir buf need iov offset done mem r := by
  induction iov generalizing offset done mem r with
  | nil =>
    obtain rfl : r = 0 := by
      rw [hr]
      exact Nat.min_eq_zero_iff.mpr (.inr (Nat.zero_sub _))
    refine ⟨offset, done, ?_, rfl, rfl⟩
    rw [List.take_zero]
    exact congrArg (fun m => Except.ok (offset, done, m)) (transfer_nil dir mem).symm
  | cons v vs ih =>
    rw [iovTotal_cons] at hr
    by_cases hin : offset < v.iovLen
    · have hlt : offset.toNat < v.iovLen.toNat := UInt64.lt_iff_toNat_lt.mp hin
      have hle : done ≤ need := UInt64.le_iff_toNat_le.mpr hdone
      generalize hword : wordMin (v.iovLen - offset) (need - done) = len
      have hlen : len.toNat = min (v.iovLen.toNat - offset.toNat) (need.toNat - done.toNat) := by
        rw [← hword, toNat_wordMin, UInt64.toNat_sub_of_le _ _ (UInt64.le_of_lt hin),
          UInt64.toNat_sub_of_le _ _ hle]
      have hdone' : (done + len).toNat = done.toNat + len.toNat := by
        have hneed := need.toNat_lt
        rw [UInt64.toNat_add]
        exact Nat.mod_eq_of_lt (by omega)
      obtain ⟨rest, hrest, rfl⟩ : ∃ rest, rest = min (need.toNat - (done + len).toNat)
          (iovTotal vs - (0 : UInt64).toNat) ∧ r = len.toNat + rest := by
        refine ⟨_, rfl, ?_⟩
        rw [hr, hdone', UInt64.toNat_zero]
        omega
      have htail : List.Disjoint (addrsFrom (buf + (done + len)) rest) (iovAddrs vs) := by
        rw [addrsFrom_add, UInt64.ofNat_toNat, UInt64.add_assoc, iovAddrs_cons] at hapart
        exact (List.disjoint_append_right.mp (List.disjoint_append_left.mp hapart).2).2
      refine .take hin hle hword hdone' (fun hpos => ?_) (by omega) (by omega) hapart fun _ =>
        ih hmapped.tail (by omega) hrest (fun hpos => hbuf (by omega)) htail
      have hposNat : 0 < len.toNat := UInt64.lt_iff_toNat_lt.mp hpos
      exact ⟨hbuf (by omega), hmapped v List.mem_cons_self (by omega)⟩
    · have hle : v.iovLen ≤ offset := UInt64.not_lt.mp hin
      have hoff := UInt64.toNat_sub_of_le _ _ hle
      have hleNat : v.iovLen.toNat ≤ offset.toNat := UInt64.le_iff_toNat_le.mp hle
      rw [iovAddrs_cons] at hapart
      exact .skip hle (ih hmapped.tail hdone (by omega) hbuf (List.disjoint_append_right.mp hapart).2)

/-! ## 4. The buffers of a copy -/

/-- A list of buffers; those that hold a byte are mapped. -/
structure Buffers where
  iov : List Iovec
  mapped : IovMapped iov

/-- No two of them share a byte. -/
structure DisjointBuffers extends Buffers where
  disjoint : iov.Pairwise fun v w => List.Disjoint v.addrs w.addrs

namespace Buffers

/-- The bytes that a copy moves. -/
def copied (b : Buffers) (offset need : UInt64) : Nat :=
  if offset.toNat ≤ iovTotal b.iov then min need.toNat (iovTotal b.iov - offset.toNat) else 0

/-- The addresses of these bytes in the concatenation. -/
def window (b : Buffers) (offset need : UInt64) : List UInt64 :=
  ((iovAddrs b.iov).drop offset.toNat).take (b.copied offset need)

variable (b : Buffers) (offset need : UInt64)

theorem copied_eq : b.copied offset need = min need.toNat (iovTotal b.iov - offset.toNat) := by
  unfold copied
  split
  · rfl
  · omega

theorem copied_lt : b.copied offset need < 2 ^ 64 := by
  have hlt := need.toNat_lt
  rw [copied_eq]
  omega

theorem length_window : (b.window offset need).length = b.copied offset need := by
  rw [window, List.length_take, List.length_drop, length_iovAddrs, copied_eq]
  omega

/-- The concatenation: what is before these bytes, the bytes, and what is behind them. -/
theorem iovAddrs_eq : iovAddrs b.iov = (iovAddrs b.iov).take offset.toNat ++
    (b.window offset need ++ (iovAddrs b.iov).drop (offset.toNat + b.copied offset need)) := by
  rw [window, ← List.drop_drop, List.take_append_drop, List.take_append_drop]

end Buffers

theorem DisjointBuffers.nodup_iovAddrs (b : DisjointBuffers) : (iovAddrs b.iov).Nodup := by
  refine List.nodup_flatMap.mpr ⟨fun v _ => ?_, b.disjoint⟩
  exact nodup_addrsFrom v.iovBase (Nat.le_of_lt v.iovLen.toNat_lt)

/-- A buffer for so many bytes, apart from those of the list. -/
structure HostBuffer (b : Buffers) (room : Nat) where
  addr : UInt64
  mapped : 0 < room → addr ≠ 0
  apart : List.Disjoint (addrsFrom addr room) (iovAddrs b.iov)

/-- **A full copy**, in either direction. -/
theorem copyFull_eq (dir : Direction) (b : Buffers) (offset need : UInt64)
    (buf : HostBuffer b (b.copied offset need)) (mem : Mem) :
    copyFull dir mem b.iov offset buf.addr need =
      .ok (UInt64.ofNat (b.copied offset need), transfer dir mem
        (addrsFrom buf.addr (b.copied offset need)) (b.window offset need)) := by
  have hapart := buf.apart
  rw [← UInt64.add_zero buf.addr] at hapart
  have hmoves : LoopMoves dir buf.addr need b.iov offset 0 mem (b.copied offset need) :=
    copyLoop_moves dir b.mapped (Nat.zero_le _) (b.copied_eq offset need) buf.mapped hapart
  obtain ⟨offset', done', hloop, hoffset, hdone⟩ := hmoves
  rw [UInt64.toNat_zero, Nat.zero_add] at hdone
  have hcount : (if offset' ≠ 0 then 0 else done') = UInt64.ofNat (b.copied offset need) := by
    split
    · next hleft =>
      -- the offset is behind the last byte
      have hpos : offset'.toNat ≠ 0 := fun h => hleft (UInt64.toNat_inj.mp h)
      rw [b.copied_eq, Nat.sub_eq_zero_of_le (by omega), Nat.min_zero]
      rfl
    · rw [← hdone, UInt64.ofNat_toNat]
  unfold copyFull
  rw [hloop, UInt64.add_zero]
  show Except.ok (if offset' ≠ 0 then 0 else done', _) = _
  rw [hcount]
  rfl

/-- **The short ways are the long ones.** -/
theorem copySingle_eq (dir : Direction) (constant : Bool) (mem : Mem) (iov : List Iovec)
    (offset buf need : UInt64) :
    copySingle dir constant mem iov offset buf need = copyFull dir mem iov offset buf need := by
  cases iov with
  | nil => rfl
  | cons v vs =>
    unfold copySingle
    dsimp only
    split
    · next hguard =>
      obtain ⟨-, hoff, hneed⟩ := hguard
      unfold copyFull
      by_cases hin : offset < v.iovLen
      · have hlen : wordMin (v.iovLen - offset) (need - 0) = need := by
          rw [UInt64.sub_zero]
          exact if_neg (UInt64.not_lt.mpr hneed)
        rw [copyLoop_take dir buf mem vs hin UInt64.zero_le, hlen, UInt64.zero_add]
        cases memcpyPart dir mem buf 0 v.iovBase offset need with
        | error e => rfl
        | ok mem' =>
          show _ = copyLoop dir buf need vs 0 need mem' >>= _
          rw [copyLoop_stop dir buf mem' vs (UInt64.le_refl need)]
          rfl
      · -- the offset is the end of the buffer, and no byte is asked for
        have hend : offset = v.iovLen := UInt64.le_antisymm hoff (UInt64.not_lt.mp hin)
        rw [hend, UInt64.sub_self] at hneed
        have hzero : need = 0 := UInt64.le_zero_iff.mp hneed
        rw [copyLoop_skip dir buf mem vs (UInt64.not_lt.mp hin), hend, UInt64.sub_self, hzero,
          memcpyPart_zero, copyLoop_stop dir buf mem vs (UInt64.le_refl 0)]
        rfl
    · rfl

/-! ## 5. What is copied -/

/-- The bytes of the concatenation from the offset on are in the buffer, and nothing else has
    changed. -/
structure Gathered (b : Buffers) (offset need buf : UInt64) (mem mem' : Mem) : Prop where
  filled : readBytes mem' buf (b.copied offset need) =
    ((iovBytes mem b.iov).drop offset.toNat).take (b.copied offset need)
  rest : ∀ a ∉ addrsFrom buf (b.copied offset need), mem' a = mem a

/-- The bytes of the buffer are in the concatenation from the offset on, and nothing else has
    changed, there or elsewhere. -/
structure Scattered (b : Buffers) (offset need buf : UInt64) (mem mem' : Mem) : Prop where
  written : iovBytes mem' b.iov = (iovBytes mem b.iov).take offset.toNat ++
    (readBytes mem buf (b.copied offset need) ++
      (iovBytes mem b.iov).drop (offset.toNat + b.copied offset need))
  rest : ∀ a ∉ b.window offset need, mem' a = mem a

section Copied

variable (b : Buffers) (offset need buf : UInt64) (mem : Mem)

theorem map_window : (b.window offset need).map mem =
    ((iovBytes mem b.iov).drop offset.toNat).take (b.copied offset need) := by
  rw [Buffers.window, iovBytes_eq_map, List.map_take, List.map_drop]

theorem gathered_transfer : Gathered b offset need buf mem
    (transfer .iovToBuf mem (addrsFrom buf (b.copied offset need)) (b.window offset need)) where
  filled := by
    have hnodup := nodup_addrsFrom buf (Nat.le_of_lt (b.copied_lt offset need))
    rw [← map_addrsFrom, transfer, Stores.map_copy hnodup, map_window]
    rw [length_addrsFrom, b.length_window]
  rest _ ha := Stores.copy_of_notMem ha

theorem scattered_transfer (b : DisjointBuffers) : Scattered b.toBuffers offset need buf mem
    (transfer .bufToIov mem (addrsFrom buf (b.copied offset need)) (b.window offset need)) where
  written := by
    have hsplit := b.iovAddrs_eq offset need
    have hnodup := b.nodup_iovAddrs
    rw [hsplit] at hnodup
    obtain ⟨-, hrest, hbefore⟩ := List.nodup_append'.mp hnodup
    obtain ⟨hwindow, -, hbehind⟩ := List.nodup_append'.mp hrest
    -- outside of the window the bytes are as they were
    have hsame : ∀ l : List UInt64, List.Disjoint l (b.window offset need) →
        l.map (transfer .bufToIov mem (addrsFrom buf (b.copied offset need))
          (b.window offset need)) = l.map mem := fun l hl =>
      List.map_congr_left fun a ha => Stores.copy_of_notMem fun ha' => hl ha ha'
    rw [iovBytes_eq_map, iovBytes_eq_map, ← List.map_take, ← List.map_drop, ← map_addrsFrom]
    conv_lhs => rw [hsplit]
    rw [List.map_append, List.map_append, hsame _ hbehind.symm,
      hsame _ (List.disjoint_of_disjoint_append_right_left hbefore), transfer,
      Stores.map_copy hwindow]
    rw [length_addrsFrom, b.length_window]
  rest _ ha := Stores.copy_of_notMem ha

end Copied

/-- What was scattered is gathered again. -/
theorem Scattered.gathered {b : Buffers} {offset need buf back : UInt64} {mem' mem'' : Mem}
    (h : Scattered b offset need buf mem mem') (h' : Gathered b offset need back mem' mem'') :
    readBytes mem'' back (b.copied offset need) = readBytes mem buf (b.copied offset need) := by
  rw [h'.filled, h.written]
  by_cases hoff : offset.toNat ≤ iovTotal b.iov
  · have hbefore : ((iovBytes mem b.iov).take offset.toNat).length = offset.toNat := by
      rw [List.length_take, iovBytes_length, Nat.min_eq_left hoff]
    rw [List.drop_left' hbefore, List.take_left' (readBytes_length ..)]
  · have hnone : b.copied offset need = 0 := if_neg hoff
    rw [hnone, List.take_zero]
    rfl

/-- **The four copies**, for buffers that do not overlap: what the full versions return and
    change, that a copy can be read back, and that the short ways make no difference. -/
theorem scatter_gather_copies (b : DisjointBuffers) (offset need : UInt64)
    (buf back : HostBuffer b.toBuffers (b.copied offset need)) (mem : Mem) :
    (∃ n mem', iovToBufFull mem b.iov offset buf.addr need = .ok (n, mem') ∧
      n.toNat = b.copied offset need ∧ Gathered b.toBuffers offset need buf.addr mem mem') ∧
    (∃ n mem', bufToIovFull mem b.iov offset buf.addr need = .ok (n, mem') ∧
      n.toNat = b.copied offset need ∧ Scattered b.toBuffers offset need buf.addr mem mem' ∧
      ∃ mem'', iovToBufFull mem' b.iov offset back.addr need = .ok (n, mem'') ∧
        readBytes mem'' back.addr n.toNat = readBytes mem buf.addr n.toNat) ∧
    ∀ constant addr,
      iovToBuf constant mem b.iov offset addr need = iovToBufFull mem b.iov offset addr need ∧
      bufToIov constant mem b.iov offset addr need = bufToIovFull mem b.iov offset addr need := by
  have hcount : (UInt64.ofNat (b.copied offset need)).toNat = b.copied offset need :=
    UInt64.toNat_ofNat_of_lt' (b.copied_lt offset need)
  have hscattered := scattered_transfer offset need buf.addr mem b
  refine ⟨⟨_, _, copyFull_eq .iovToBuf _ offset need buf mem, hcount, gathered_transfer ..⟩,
    ⟨_, _, copyFull_eq .bufToIov _ offset need buf mem, hcount, hscattered,
      _, copyFull_eq .iovToBuf _ offset need back _, ?_⟩, fun constant addr => ⟨?_, ?_⟩⟩
  · rw [hcount]
    exact hscattered.gathered (gathered_transfer ..)
  · exact copySingle_eq .iovToBuf constant mem b.iov offset addr need
  · exact copySingle_eq .bufToIov constant mem b.iov offset addr need

instance (iov : List Iovec) : Decidable (IovMapped iov) :=
  inferInstanceAs (Decidable (∀ v ∈ iov, 0 < v.iovLen.toNat → v.iovBase ≠ 0))

instance decidableDisjoint (l l' : List UInt64) : Decidable (List.Disjoint l l') :=
  List.decidableBAll (· ∉ l') l

/-- Three bytes at 0x1000 and three at 0x2000. -/
def twoBuffers : DisjointBuffers where
  iov := [⟨0x1000, 3⟩, ⟨0x2000, 3⟩]
  mapped := by decide
  disjoint := by decide

/-- Room at 0x3000 for the four bytes from the third on. -/
def besideTwo : HostBuffer twoBuffers.toBuffers 4 := ⟨0x3000, by decide, by decide⟩

/-- The last byte of the one and those of the other, in a memory with the low byte of its
    address at each place; and four bytes written there are read back at 0x4000. -/
theorem scatter_gather_copies_two :
    (∃ mem', iovToBufFull UInt64.toUInt8 twoBuffers.iov 2 0x3000 4 = .ok (4, mem') ∧
      readBytes mem' 0x3000 4 = [2, 0, 1, 2]) ∧
    ∃ mem' mem'', bufToIovFull UInt64.toUInt8 twoBuffers.iov 2 0x3000 4 = .ok (4, mem') ∧
      iovBytes mem' twoBuffers.iov = [0, 1, 0, 1, 2, 3] ∧
      iovToBufFull mem' twoBuffers.iov 2 0x4000 4 = .ok (4, mem'') ∧
      readBytes mem'' 0x4000 4 = [0, 1, 2, 3] := by
  obtain ⟨⟨n, mem₁, hget, hn, hgot⟩, ⟨n', mem₂, hput, hn', hwritten, mem₃, hback, hsame⟩, -⟩ :=
    scatter_gather_copies twoBuffers 2 4 besideTwo ⟨0x4000, by decide, by decide⟩ UInt64.toUInt8
  obtain rfl : n = 4 := UInt64.toNat_inj.mp hn
  obtain rfl : n' = 4 := UInt64.toNat_inj.mp hn'
  exact ⟨⟨mem₁, hget, hgot.filled⟩, mem₂, mem₃, hput, hwritten.written, hback, hsame⟩

/-! ## 6. The copies of the commands and of the responses -/

/-- The gather copy of `Mapping.lean` has the bytes that go into the buffer. -/
theorem iovToBufFull_refines (b : Buffers) (offset need : UInt64)
    (buf : HostBuffer b (b.copied offset need)) (mem : Mem) :
    ∃ n mem', iovToBufFull mem b.iov offset buf.addr need = .ok (n, mem') ∧
      HvisorTool.iovToBufFull mem b.iov offset.toNat need.toNat =
        .ok (readBytes mem' buf.addr n.toNat) := by
  refine ⟨_, _, copyFull_eq .iovToBuf b offset need buf mem, ?_⟩
  rw [UInt64.toNat_ofNat_of_lt' (b.copied_lt offset need), (gathered_transfer ..).filled]
  by_cases hoff : offset.toNat ≤ iovTotal b.iov
  · have hlen : ((iovBytes mem b.iov).drop offset.toNat).length =
        iovTotal b.iov - offset.toNat := by
      rw [List.length_drop, iovBytes_length]
    rw [iovToBufFull_mapped mem b.mapped hoff, b.copied_eq, ← hlen, ← List.take_eq_take_min]
  · have hnone : b.copied offset need = 0 := if_neg hoff
    rw [iovToBufFull_beyond mem b.mapped (by omega), hnone, List.take_zero]

/-- Two buffers that share two bytes. -/
def sharedBuffers : Buffers := ⟨[⟨0x1000, 3⟩, ⟨0x1001, 3⟩], by decide⟩

def besideShared : HostBuffer sharedBuffers 4 := ⟨0x3000, by decide, by decide⟩

/-- Their bytes from the second on. -/
theorem iovToBufFull_refines_shared :
    ∃ n mem', iovToBufFull UInt64.toUInt8 sharedBuffers.iov 1 0x3000 4 = .ok (n, mem') ∧
      HvisorTool.iovToBufFull UInt64.toUInt8 sharedBuffers.iov 1 4 =
        .ok (readBytes mem' 0x3000 n.toNat) :=
  iovToBufFull_refines sharedBuffers 1 4 besideShared UInt64.toUInt8

theorem mappedFor_of_mapped (hm : IovMapped iov) (n : Nat) : MappedFor n iov := by
  induction iov generalizing n with
  | nil => trivial
  | cons v vs ih =>
    exact ⟨fun hpos => hm v List.mem_cons_self (by omega), ih hm.tail _⟩

/-- What the scatter copy of `Response.lean` counts. -/
theorem bufToIovLoop_done {buf : List UInt8} {i done : Nat} {r : Nat × Nat × List IovCopy}
    (h : bufToIovLoop buf i iov 0 done = .ok r) :
    r.1 = 0 ∧ r.2.1 = done + min (buf.length - done) (iovTotal iov) := by
  induction iov generalizing i done r with
  | nil =>
    cases h
    exact ⟨rfl, by rw [iovTotal, List.map_nil, List.sum_nil, Nat.min_zero]; rfl⟩
  | cons v vs ih =>
    rw [bufToIovLoop_cons] at h
    split at h
    · split at h
      · cases h
      · obtain ⟨r', hr', rfl⟩ := map_eq_ok.mp h
        obtain ⟨hoff, hdone⟩ := ih hr'
        refine ⟨hoff, ?_⟩
        show r'.2.1 = _
        rw [hdone, iovTotal_cons]
        omega
    · obtain ⟨hoff, hdone⟩ := ih h
      refine ⟨hoff, ?_⟩
      rw [hdone, iovTotal_cons]
      omega

theorem readBytes_take (mem : Mem) (a : UInt64) {n len : Nat} (h : n ≤ len) :
    (readBytes mem a len).take n = readBytes mem a n := by
  rw [readBytes, ← List.map_take, List.take_range, Nat.min_eq_left h]
  rfl

/-- Addresses and bytes go together as far as there are both. -/
theorem zip_window (b : Buffers) (need a : UInt64) (mem : Mem) :
    (iovAddrs b.iov).zip (readBytes mem a need.toNat) =
      (b.window 0 need).zip (readBytes mem a (b.copied 0 need)) := by
  have hcopied : min (iovTotal b.iov) need.toNat = b.copied 0 need := by
    rw [b.copied_eq, UInt64.toNat_zero, Nat.sub_zero, Nat.min_comm]
  have hle : b.copied 0 need ≤ need.toNat := by omega
  rw [List.zip_eq_zip_take_min, length_iovAddrs, readBytes_length, hcopied,
    readBytes_take mem a hle]
  rfl

/-- The scatter copy of `Response.lean` makes the same stores, and counts them alike. -/
theorem bufToIovFull_refines (b : Buffers) (need : UInt64)
    (buf : HostBuffer b (b.copied 0 need)) (mem : Mem) :
    ∃ n copies, HvisorTool.bufToIovFull (readBytes mem buf.addr need.toNat) 0 b.iov =
        .ok (n, copies) ∧
      bufToIovFull mem b.iov 0 buf.addr need =
        .ok (UInt64.ofNat n, Stores.after mem (copyStores b.iov copies)) := by
  have hdrop : b.iov.drop 0 = b.iov := rfl
  obtain ⟨hret, hstores⟩ := bufToIovLoop_stores (readBytes mem buf.addr need.toNat) 0 hdrop
  obtain ⟨⟨offset, n, copies⟩, hloop⟩ := hret.mpr (mappedFor_of_mapped b.mapped _)
  obtain ⟨hoff, hn⟩ := bufToIovLoop_done hloop
  have hcopies := hstores _ hloop
  dsimp only at hoff hn hcopies
  subst hoff
  rw [Nat.sub_zero, Nat.zero_add, readBytes_length] at hn
  have hcount : n = b.copied 0 need := by
    rw [hn, b.copied_eq, UInt64.toNat_zero, Nat.sub_zero]
  refine ⟨n, copies, ?_, ?_⟩
  · unfold HvisorTool.bufToIovFull
    rw [hloop]
    rfl
  · have hfull := copyFull_eq .bufToIov b 0 need buf mem
    rw [bufToIovFull, hfull, transfer, Stores.copy, map_addrsFrom, hcopies, List.drop_zero,
      zip_window, hcount]

/-- Four bytes go into two buffers that share two of them. -/
theorem bufToIovFull_refines_shared :
    ∃ n copies, HvisorTool.bufToIovFull [0, 1, 2, 3] 0 sharedBuffers.iov = .ok (n, copies) ∧
      bufToIovFull UInt64.toUInt8 sharedBuffers.iov 0 0x3000 4 =
        .ok (UInt64.ofNat n, Stores.after UInt64.toUInt8 (copyStores sharedBuffers.iov copies)) :=
  bufToIovFull_refines sharedBuffers 4 besideShared UInt64.toUInt8

end ScatterGather

end HvisorTool
