/-
  File:      HvisorTool/Gpu/Mapping.lean
  Subject:   THE BACKING STORE OF A GPU RESOURCE:
             `virtio_gpu_create_mapping_iov` and the `iov_to_buf` under it.

  The guest lists the pieces of its backing store behind the command, as `struct
  virtio_gpu_mem_entry` records; each piece becomes one entry of the resource's iov.

  * `iovToBufFull`: the gather copy, buffer by buffer;
  * `iovToBufFull_eq`: it yields the bytes of all buffers in sequence, from the offset on;
  * `iovToBufFull_mapped`: where the buffers are mapped it returns;
  * `createMappingIov_eq`: on return 0 the iov has one entry for each record the
    guest wrote, translated.
-/
import HvisorTool.Library.Outcome
import HvisorTool.Virtio.ChainBuf

namespace HvisorTool

open Library

/-! ## 1. The gather copy -/

/-- The loop of `iov_to_buf_full`: the offset that is left and the bytes copied. -/
def iovToBufLoop (mem : Mem) (need : Nat) :
    List Iovec → Nat → List UInt8 → Except ChainError (Nat × List UInt8)
  | [], offset, buf => .ok (offset, buf)
  | v :: vs, offset, buf =>
    if offset ≠ 0 ∨ buf.length < need then
      if offset < v.iovLen.toNat then
        let len := min (v.iovLen.toNat - offset) (need - buf.length)
        -- `memcpy` from `NULL`
        if v.iovBase = 0 ∧ 0 < len then .error .segv
        else
          iovToBufLoop mem need vs 0 (buf ++ readBytes mem (v.iovBase + UInt64.ofNat offset) len)
      else iovToBufLoop mem need vs (offset - v.iovLen.toNat) buf
    else .ok (offset, buf)

/-- `iov_to_buf_full`: the bytes copied, none if the offset lies behind the last buffer. -/
def iovToBufFull (mem : Mem) (iov : List Iovec) (offset need : Nat) :
    Except ChainError (List UInt8) := do
  let (offset, buf) ← iovToBufLoop mem need iov offset []
  .ok (if offset ≠ 0 then [] else buf)

variable {need offset : Nat} {mem : Mem} {iov : List Iovec}

/-- Behind the copy from one buffer, what is still to come is unchanged. -/
theorem take_append_min (buf part rest : List UInt8) (hlen : buf.length ≤ need) :
    (buf ++ part.take (min part.length (need - buf.length)) ++ rest).take need =
      (buf ++ (part ++ rest)).take need := by
  have hmin : part.take (min part.length (need - buf.length)) = part.take (need - buf.length) := by
    rcases Nat.le_total part.length (need - buf.length) with h | h
    · rw [Nat.min_eq_left h, List.take_length, List.take_of_length_le h]
    · rw [Nat.min_eq_right h]
  have hbuf : ∀ x : List UInt8, (buf ++ x).take need = buf ++ x.take (need - buf.length) := by
    intro x
    rw [List.take_append, List.take_of_length_le hlen]
  rw [hmin, List.append_assoc, hbuf, hbuf]
  congr 1
  rcases Nat.le_total part.length (need - buf.length) with h | h
  · rw [List.take_of_length_le h]
  · have hl : (part.take (need - buf.length)).length = need - buf.length := by
      rw [List.length_take, Nat.min_eq_left h]
    rw [List.take_append_of_le_length h, List.take_append_of_le_length (by omega),
      List.take_take, Nat.min_self]

variable {buf buf' : List UInt8}

theorem iovToBufLoop_eq (hlen : buf.length ≤ need)
    (h : iovToBufLoop mem need iov offset buf = .ok (0, buf')) :
    buf' = (buf ++ (iovBytes mem iov).drop offset).take need := by
  induction iov generalizing offset buf with
  | nil =>
    cases h
    simp [iovBytes, List.take_of_length_le hlen]
  | cons v vs ih =>
    have hcons : iovBytes mem (v :: vs) =
        readBytes mem v.iovBase v.iovLen.toNat ++ iovBytes mem vs := by
      simp [iovBytes]
    have hlv := readBytes_length mem v.iovBase v.iovLen.toNat
    unfold iovToBufLoop at h
    split at h
    · split at h
      · rename_i hoff
        simp only at h
        split at h
        · cases h
        · -- the rest of this buffer, as far as it is needed
          have hpart : ((readBytes mem v.iovBase v.iovLen.toNat).drop offset).length =
              v.iovLen.toNat - offset := by
            rw [List.length_drop, hlv]
          rw [readBytes_drop_take mem v.iovBase (show offset + min (v.iovLen.toNat - offset)
            (need - buf.length) ≤ v.iovLen.toNat by omega), ← hpart] at h
          rw [ih ?_ h, List.drop_zero, take_append_min _ _ _ hlen, hcons,
            List.drop_append_of_le_length (by omega)]
          rw [List.length_append, List.length_take]
          omega
      · rename_i hoff
        rw [ih hlen h, hcons, List.drop_append, hlv,
          List.drop_of_length_le (l := readBytes mem v.iovBase v.iovLen.toNat) (by omega),
          List.nil_append]
    · rename_i hstop
      obtain ⟨rfl, rfl⟩ : offset = 0 ∧ buf = buf' := by
        cases h
        exact ⟨rfl, rfl⟩
      have hfull : buf.length = need := by omega
      rw [← hfull, List.take_left]

/-- **The gather copy yields the bytes of the buffers in sequence**, if it yields
    as many as were asked for. -/
theorem iovToBufFull_eq (h : iovToBufFull mem iov offset need = .ok buf)
    (hlen : buf.length = need) : buf = ((iovBytes mem iov).drop offset).take need := by
  obtain ⟨⟨off, buf'⟩, hloop, h⟩ := bind_eq_ok.mp h
  by_cases hoff : off = 0
  · subst hoff
    cases h
    have := iovToBufLoop_eq (Nat.zero_le need) hloop
    simpa using this
  · simp only [ne_eq, hoff, not_false_eq_true, if_true] at h
    cases h
    rw [← hlen, List.length_nil, List.take_zero]

/-- From the first byte on no offset is left. -/
theorem iovToBufLoop_offset {off : Nat}
    (h : iovToBufLoop mem need iov 0 buf = .ok (off, buf')) : off = 0 := by
  induction iov generalizing buf with
  | nil =>
    cases h
    rfl
  | cons v vs ih =>
    unfold iovToBufLoop at h
    split at h
    · split at h
      · dsimp only at h
        split at h
        · cases h
        · exact ih h
      · rw [Nat.zero_sub] at h
        exact ih h
    · cases h
      rfl

/-- **From the first byte on the copy yields what is needed, or all that is there.** -/
theorem iovToBufFull_take
    (h : iovToBufFull mem iov 0 need = .ok buf) : buf = (iovBytes mem iov).take need := by
  obtain ⟨⟨off, buf'⟩, hloop, h⟩ := bind_eq_ok.mp h
  obtain rfl := iovToBufLoop_offset hloop
  cases h
  have heq := iovToBufLoop_eq (Nat.zero_le need) hloop
  rwa [List.drop_zero, List.nil_append] at heq

/-- Every buffer that holds a byte is mapped. -/
def IovMapped (iov : List Iovec) : Prop := ∀ v ∈ iov, 0 < v.iovLen.toNat → v.iovBase ≠ 0

theorem IovMapped.tail {v : Iovec} (h : IovMapped (v :: iov)) : IovMapped iov := fun w hw =>
  h w (List.mem_cons_of_mem _ hw)

/-- Where that is so the loop returns, with what is left of the offset. -/
theorem iovToBufLoop_mapped (hm : IovMapped iov) (need offset : Nat) (buf : List UInt8) :
    ∃ buf', iovToBufLoop mem need iov offset buf = .ok (offset - iovTotal iov, buf') := by
  induction iov generalizing offset buf with
  | nil => exact ⟨buf, rfl⟩
  | cons v vs ih =>
    unfold iovToBufLoop
    split
    · split
      · next hlt =>
        dsimp only
        rw [if_neg (fun h => hm v List.mem_cons_self (by omega) h.1)]
        obtain ⟨buf', hloop⟩ := ih hm.tail 0
          (buf ++ readBytes mem (v.iovBase + UInt64.ofNat offset)
            (min (v.iovLen.toNat - offset) (need - buf.length)))
        refine ⟨buf', hloop.trans ?_⟩
        rw [iovTotal_cons, Nat.zero_sub, Nat.sub_eq_zero_of_le (by omega)]
      · obtain ⟨buf', hloop⟩ := ih hm.tail (offset - v.iovLen.toNat) buf
        refine ⟨buf', hloop.trans ?_⟩
        rw [iovTotal_cons, Nat.sub_sub]
    · next hstop =>
      have hzero : offset = 0 := by omega
      rw [hzero, Nat.zero_sub]
      exact ⟨buf, rfl⟩

/-- **From an offset inside the buffers the copy yields what is needed, or all that is there.** -/
theorem iovToBufFull_mapped (mem : Mem) (hm : IovMapped iov) (hoff : offset ≤ iovTotal iov)
    (need : Nat) :
    iovToBufFull mem iov offset need = .ok (((iovBytes mem iov).drop offset).take need) := by
  obtain ⟨buf, hloop⟩ := iovToBufLoop_mapped hm need offset []
  rw [Nat.sub_eq_zero_of_le hoff] at hloop
  have hbuf := iovToBufLoop_eq (Nat.zero_le need) hloop
  rw [List.nil_append] at hbuf
  unfold iovToBufFull
  rw [hloop, hbuf]
  rfl

/-- From an offset behind them it yields nothing. -/
theorem iovToBufFull_beyond (mem : Mem) (hm : IovMapped iov) (hoff : iovTotal iov < offset)
    (need : Nat) : iovToBufFull mem iov offset need = .ok [] := by
  obtain ⟨buf, hloop⟩ := iovToBufLoop_mapped hm need offset []
  unfold iovToBufFull
  rw [hloop]
  exact congrArg Except.ok (if_pos (by omega))

/-- No bytes are copied where none are needed. -/
theorem iovToBufFull_zero (mem : Mem) (iov : List Iovec) (offset : Nat) :
    iovToBufFull mem iov offset 0 = .ok [] := by
  have hloop : ∀ offset, ∃ left, iovToBufLoop mem 0 iov offset [] = .ok (left, []) := by
    induction iov with
    | nil => exact fun offset => ⟨offset, rfl⟩
    | cons v vs ih =>
      intro offset
      unfold iovToBufLoop
      split
      · split
        · dsimp only
          rw [List.length_nil, Nat.sub_zero, Nat.min_zero, if_neg (fun h => Nat.lt_irrefl 0 h.2)]
          exact ih 0
        · exact ih _
      · exact ⟨offset, rfl⟩
  obtain ⟨left, hleft⟩ := hloop offset
  unfold iovToBufFull
  rw [hleft]
  show Except.ok (if left ≠ 0 then [] else []) = _
  rw [ite_self]

/-! ## 2. The mapping -/

/-- `struct virtio_gpu_mem_entry`, without its padding. -/
structure VirtioGpuMemEntry where
  addr : UInt64
  length : UInt32
  deriving DecidableEq, Repr

/-- `entries[e]` of a byte buffer. -/
def memEntry (buf : List UInt8) (e : Nat) : VirtioGpuMemEntry :=
  { addr := readU64 (bufMem buf) (16 * UInt64.ofNat e)
    length := readU32 (bufMem buf) (16 * UInt64.ofNat e + 8) }

/-- `virtio_gpu_create_mapping_iov`: `none` is the return of -1. `reallocOk`
    says whether the `realloc` for a group of 16 entries succeeds. -/
def createMappingIov (zm : ZoneTable) (mem : Mem) (zoneId : UInt32) (respIov : List Iovec)
    (nrEntries offset : UInt32) (reallocOk : Nat → Bool) :
    Except ChainError (Option (List Iovec)) := do
  if nrEntries > 16384 then .ok none
  else
    let entriesSize := 16 * nrEntries.toNat
    let entries ← iovToBufFull mem respIov offset.toNat entriesSize
    if entries.length ≠ entriesSize then .ok none
    else if (List.range nrEntries.toNat).any fun v => v % 16 == 0 && !reallocOk v then .ok none
    else
      .ok (some ((List.range nrEntries.toNat).map fun v =>
        let e := memEntry entries v
        ⟨getVirtAddr zm e.addr (asInt zoneId), e.length.toUInt64⟩))

/-- The records the guest wrote behind the command. -/
def guestEntries (mem : Mem) (respIov : List Iovec) (nrEntries offset : UInt32) :
    List VirtioGpuMemEntry :=
  (List.range nrEntries.toNat).map
    (memEntry (((iovBytes mem respIov).drop offset.toNat).take (16 * nrEntries.toNat)))

/-- **On return 0 the iov has one translated entry for each record of the guest.** -/
theorem createMappingIov_eq {zm : ZoneTable} {zoneId : UInt32} {respIov : List Iovec}
    {nrEntries offset : UInt32} {reallocOk : Nat → Bool}
    (h : createMappingIov zm mem zoneId respIov nrEntries offset reallocOk = .ok (some iov)) :
    iov = (guestEntries mem respIov nrEntries offset).map fun e =>
      ⟨getVirtAddr zm e.addr (asInt zoneId), e.length.toUInt64⟩ := by
  unfold createMappingIov at h
  split at h
  · cases h
  · obtain ⟨entries, hbuf, h⟩ := bind_eq_ok.mp h
    split at h
    · cases h
    · rename_i hlen
      split at h
      · cases h
      · cases h
        rw [guestEntries, ← iovToBufFull_eq hbuf (not_not.mp hlen), List.map_map]
        rfl

end HvisorTool
