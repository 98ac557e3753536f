/-
  File:      HvisorTool/Device/UsedEntries.lean
  Subject:   THE LENGTH OF A USED ENTRY, device by device, against the bytes that the device
             stored into the writable buffers of the chain.

  Bytes are counted by their place in a buffer. What the kernel stores for `preadv` and
  `readv` are the first bytes of the buffers, as many as it answers with.

  * `entryOf`: the used entry that a pass adds;
  * `scmiAccepted`: the requests that pass the checks of the SCMI handler;
  * `blkStored`, `netRxStored`, `consoleRxStored`, `scmiStored`: the bytes stored;
  * `blkStored_onlyAt`, `scmiStored_onlyAt`: memory changes there and nowhere else;
  * `blk_len_le_iff`, `netTx_len_le_iff`, `scmi_len_le_iff`: where the length is right;
  * `blk_entry`, … : the length that the entry of each handler has.
-/
import HvisorTool.Blk.Exact
import HvisorTool.Console.Requests
import HvisorTool.Gpu.Response
import HvisorTool.Scmi.Answers
import HvisorTool.Scmi.Stored
import HvisorTool.Virtio.Accounting

namespace HvisorTool

open Library

/-! ## 1. The entry that a pass adds -/

/-- The entry that was added to a used ring, if one was. -/
def addedEntry (num : UInt64) (before after : VirtqUsed) : Option VirtqUsedElem :=
  if after.idx = before.idx then none else some (after.ring (before.idx &&& usedMask num))

/-- The entry of a pass, in the used ring as `view` shows it. -/
def entryOf {ε : Type} (view : CompletionQueue → VirtqUsed) (q : CompletionQueue) :
    Except ε CompletionQueue → Option VirtqUsedElem
  | .ok q' => addedEntry q.vq.num (view q) (view q')
  | .error _ => none

/-- The lengths of buffers. -/
def lengths (iov : List Iovec) : List Nat := iov.map (·.iovLen.toNat)

/-- The address of a byte. -/
def byteAddr (iov : List Iovec) (p : BufByte) : UInt64 :=
  ((iov[p.1]?).map (·.iovBase)).getD 0 + UInt64.ofNat p.2

/-- Memory is as it was but for these bytes of the buffers. -/
def OnlyAt (iov : List Iovec) (bytes : Finset BufByte) (mem mem' : Mem) : Prop :=
  ∀ a, (∀ p ∈ bytes, a ≠ byteAddr iov p) → mem' a = mem a

theorem addedEntry_self (num : UInt64) (used : VirtqUsed) : addedEntry num used used = none :=
  if_pos rfl

theorem addedEntry_updateUsedRing (num : UInt64) (used : VirtqUsed) (c : Completion) :
    addedEntry num used (updateUsedRing num used c) = some ⟨c.1.toUInt32, c.2⟩ := by
  have hidx : (updateUsedRing num used c).idx ≠ used.idx := by simp [updateUsedRing]
  unfold addedEntry
  rw [if_neg hidx]
  exact congrArg some (Function.update_self ..)

section Entry

variable {q : CompletionQueue} {e : VirtqUsedElem}

/-- The entry has the length that was posted. -/
theorem entryOf_post {k : Handler} {vq : VirtQueue} {c : Completion} (hnum : vq.num = q.vq.num)
    (he : entryOf k.view q (k.post { q with vq := vq } c) = some e) : e.len = c.2 := by
  cases hpost : k.post { q with vq := vq } c with
  | error err =>
    rw [hpost] at he
    cases he
  | ok q' =>
    have hsame : k.view { q with vq := vq } = k.view q := by
      unfold Handler.view CompletionQueue.view
      dsimp only
      rw [hnum]
    have hview := (Handler.post_ok hpost).2.2
    rw [hsame] at hview
    rw [hpost, entryOf, hview, ← hnum, addedEntry_updateUsedRing] at he
    cases he
    rfl

theorem entryOf_postUsed {vq : VirtQueue} {c : Completion} (hnum : vq.num = q.vq.num)
    (he : entryOf CompletionQueue.used q (postUsed { q with vq := vq } c) = some e) :
    e.len = c.2 := by
  have hblk : entryOf Handler.blk.view q (Handler.blk.post { q with vq := vq } c) = some e := he
  exact entryOf_post hnum hblk

/-- A pass that adds an entry has walked the chain, in a queue of the same size. -/
theorem entryOf_walk {k : Handler} {α : Type} {zm : ZoneTable} {mem : Mem}
    {rest : Int × VirtioRequest × VirtQueue → Except ChainError (CompletionQueue × α)}
    (he : entryOf k.view q ((if q.vq.availRing = 0 then .error .segv
      else chainBufCall zm mem q.vq k.cfg (q.vq.availHead mem) >>= rest).map (·.1)) = some e) :
    ∃ r, chainBufCall zm mem q.vq k.cfg (q.vq.availHead mem) = .ok r ∧ r.2.2.num = q.vq.num ∧
      entryOf k.view q ((rest r).map (·.1)) = some e := by
  split at he
  · cases he
  · cases hwalk : chainBufCall zm mem q.vq k.cfg (q.vq.availHead mem) with
    | error err =>
      rw [hwalk] at he
      cases he
    | ok r =>
      rw [hwalk, ok_bind] at he
      exact ⟨r, rfl, chainBufCall_num hwalk, he⟩

theorem toNat_ofNat_le (n : Nat) : (UInt32.ofNat n).toNat ≤ n := by
  rw [UInt32.toNat_ofNat']
  exact Nat.mod_le _ _

end Entry

/-! ## 2. Block requests -/

/-- What `blk_do_get_id` stores. -/
def blkIdText (iov : Iovec) : List UInt8 :=
  if iov.iovLen = 0 then [] else blkIdString.take (iov.iovLen.toNat - 1) ++ [0]

section Blk

variable {σ : Type} (be : BlkBackend σ)

/-- The data that an operation stores into the writable buffers. -/
def blkDataBytes (mem : Mem) (img : σ) (type : UInt32) (sector : UInt64) (inIov : List Iovec) :
    Finset BufByte :=
  if type = 0 then
    match (be.preadv img mem inIov.dropLast (sector * sectorBsize)).1 with
    | .ok len => scatter 0 len (lengths inIov.dropLast)
    | .error _ => ∅
  else if type = 8 then
    match inIov with
    | [] => ∅
    | v :: _ => leadingBytes 0 (blkIdText v).length
  else ∅

/-- The data, and the status byte; a request that fails a check has neither. -/
def blkStored (mem : Mem) (img : σ) (ret : Int) (vreq : VirtioRequest) : Finset BufByte :=
  match blkAccepted mem ret vreq with
  | none => ∅
  | some (hdr, status) =>
    blkDataBytes be mem img (readU32 mem hdr.iovBase) (readU64 mem (hdr.iovBase + 8)) vreq.inIov ∪
      if status.iovBase = 0 then ∅ else leadingBytes (vreq.inIov.length - 1) 1

/-- A request whose length is right: it passes the checks, and is not a `GET_ID` without a
    buffer beside the status byte. -/
def BlkCovers (mem : Mem) (ret : Int) (vreq : VirtioRequest) : Prop :=
  ∃ hdr status, blkAccepted mem ret vreq = some (hdr, status) ∧
    ¬ (readU32 mem hdr.iovBase = 8 ∧ vreq.inIov.length = 1)

/-- `preadv` answers with no more bytes than it was given room for. -/
def BlkBackend.PreadvFits : Prop :=
  ∀ img mem iov off len, (be.preadv img mem iov off).1 = .ok len → len ≤ (lengths iov).sum

variable {be} {zm : ZoneTable} {q : CompletionQueue} {mem : Mem} {img : σ} {ret : Int}
  {vreq : VirtioRequest} {hdr status : Iovec} {e : VirtqUsedElem}

theorem length_blkIdText (iov : Iovec) : (blkIdText iov).length = min 14 iov.iovLen.toNat := by
  have hid : blkIdString.length = 13 := rfl
  unfold blkIdText
  by_cases hzero : iov.iovLen = 0
  · rw [if_pos hzero, hzero]
    rfl
  · have hpos : iov.iovLen.toNat ≠ 0 := fun h => hzero (UInt64.toNat_inj.mp h)
    rw [if_neg hzero, List.length_append, List.length_take, hid]
    show _ + 1 = _
    omega

/-- An operation that is neither a read nor a `GET_ID` stores no data. -/
theorem blkOperate_other {type : UInt32} (hin : type ≠ 0) (hid : type ≠ 8) (sector : UInt64)
    (outData inIov : List Iovec) :
    (blkOperate be mem img type sector outData inIov).2.1 = 0 ∧
      (blkOperate be mem img type sector outData inIov).2.2.1 = mem := by
  unfold blkOperate
  rw [if_neg hin, if_neg hid]
  by_cases hout : type = 1
  · rw [if_pos hout]
    split <;> exact ⟨rfl, rfl⟩
  · rw [if_neg hout]
    by_cases hflush : type = 4
    · rw [if_pos hflush]
      split <;> exact ⟨rfl, rfl⟩
    · rw [if_neg hflush]
      exact ⟨rfl, rfl⟩

/-- The data length is that of the data stored. -/
theorem card_blkDataBytes (hfits : be.PreadvFits) (type : UInt32) (sector : UInt64)
    (outData inIov : List Iovec) :
    (blkOperate be mem img type sector outData inIov).2.1 =
      (blkDataBytes be mem img type sector inIov).card := by
  unfold blkDataBytes
  by_cases hin : type = 0
  · unfold blkOperate
    rw [if_pos hin, if_pos hin]
    cases hread : be.preadv img mem inIov.dropLast (sector * sectorBsize) with
    | mk answer mem' =>
      cases answer with
      | error err => rfl
      | ok len =>
        have hle := hfits img mem inIov.dropLast (sector * sectorBsize) len (by rw [hread])
        dsimp only
        rw [card_scatter]
        exact (Nat.min_eq_left hle).symm
  · rw [if_neg hin]
    by_cases hid : type = 8
    · subst hid
      cases inIov with
      | nil => rfl
      | cons v vs =>
        show min 14 v.iovLen.toNat = (leadingBytes 0 (blkIdText v).length).card
        rw [card_leadingBytes, length_blkIdText]
    · rw [if_neg hid, Finset.card_empty]
      exact (blkOperate_other hin hid sector outData inIov).1

/-- The data goes to buffers before the status byte, unless that is the only one. -/
theorem blkDataBytes_before {type : UInt32} {sector : UInt64} {inIov : List Iovec} {p : BufByte}
    (hlone : ¬ (type = 8 ∧ inIov.length = 1)) (h : p ∈ blkDataBytes be mem img type sector inIov) :
    p.1 < inIov.length - 1 := by
  unfold blkDataBytes at h
  split at h
  · split at h
    · have hlt := lt_of_mem_scatter h
      rw [lengths, List.length_map, List.length_dropLast] at hlt
      omega
    · exact absurd h (Finset.notMem_empty p)
  · split at h
    · next hid =>
      cases inIov with
      | nil => exact absurd h (Finset.notMem_empty p)
      | cons v vs =>
        have hzero := (mem_leadingBytes.mp h).1
        have hmore : vs.length + 1 ≠ 1 := fun hone => hlone ⟨hid, hone⟩
        rw [hzero, List.length_cons]
        omega
    · exact absurd h (Finset.notMem_empty p)

/-- **The length of a block request is right exactly if it passes the checks and is not a
    `GET_ID` of the status byte alone.** -/
theorem blk_len_le_iff (hfits : be.PreadvFits) (hmapped : ∀ v ∈ vreq.entries, v.iovBase ≠ 0) :
    (UInt32.ofNat ((blkServe be mem img ret vreq).wlen + 1)).toNat ≤
        (blkStored be mem img ret vreq).card ↔
      BlkCovers mem ret vreq := by
  unfold blkStored BlkCovers
  rw [blkServe_eq]
  cases hacc : blkAccepted mem ret vreq with
  | none =>
    refine ⟨fun h => absurd (show 1 ≤ 0 from h) (by decide), fun h => ?_⟩
    obtain ⟨hdr, status, hsome, -⟩ := h
    cases hsome
  | some p =>
    obtain ⟨hdr, status⟩ := p
    obtain ⟨hlast, hone⟩ := blkAccepted_some hacc
    have hmem : status ∈ vreq.inIov := List.mem_of_getLast? hlast
    have hbase : status.iovBase ≠ 0 := hmapped status (List.mem_append_right _ hmem)
    dsimp only
    rw [if_neg hbase, card_blkDataBytes hfits]
    by_cases hlone : readU32 mem hdr.iovBase = 8 ∧ vreq.inIov.length = 1
    · -- the status byte is stored over the one byte of the string
      refine ⟨fun h => absurd h ?_, fun h => ?_⟩
      · obtain ⟨hid, hlen⟩ := hlone
        obtain ⟨v, hv⟩ := List.length_eq_one_iff.mp hlen
        have hv' : v = status := by
          rw [hv] at hlast
          exact Option.some.inj hlast
        have htext : (blkIdText status).length = 1 := by
          unfold blkIdText
          rw [hone]
          rfl
        rw [hv, hid, hv']
        show ¬ (UInt32.ofNat ((leadingBytes 0 (blkIdText status).length).card + 1)).toNat ≤
          (leadingBytes 0 (blkIdText status).length ∪ leadingBytes 0 1).card
        rw [htext, Finset.union_idempotent, card_leadingBytes]
        decide
      · obtain ⟨hdr', status', hsome, hnot⟩ := h
        cases hsome
        exact absurd hlone hnot
    · refine ⟨fun _ => ⟨hdr, status, rfl, hlone⟩, fun _ => ?_⟩
      rw [Finset.card_union_of_disjoint, card_leadingBytes]
      · exact toNat_ofNat_le _
      · refine Finset.disjoint_left.mpr fun p hdata hstatus => ?_
        have hlt := blkDataBytes_before hlone hdata
        have heq := (mem_leadingBytes.mp hstatus).1
        omega

/-- `preadv` stores to the first bytes of its buffers, as many as it answers with. -/
def BlkBackend.PreadvStores (be : BlkBackend σ) : Prop :=
  ∀ img mem iov off, OnlyAt iov
    (match (be.preadv img mem iov off).1 with
      | .ok len => scatter 0 len (lengths iov)
      | .error _ => ∅) mem (be.preadv img mem iov off).2

/-- Bytes stored into buffers in order, from the `i`-th on. -/
theorem storeIov_onlyAt {l iov : List Iovec} {i : Nat} (hl : l.drop i = iov)
    {bs : List UInt8} {a : UInt64}
    (h : ∀ p ∈ scatter i bs.length (lengths iov), a ≠ byteAddr l p) :
    storeIov mem iov bs a = mem a := by
  induction iov generalizing i mem bs with
  | nil => rfl
  | cons v vs ih =>
    have hv : l[i]? = some v := by rw [← List.head?_drop, hl, List.head?_cons]
    rw [storeIov, ih (i := i + 1)]
    · refine writeBytes_outside _ _ fun j hj => ?_
      rw [List.length_take, Nat.min_comm] at hj
      have hne := h (i, j) (Finset.mem_union_left _ (mem_leadingBytes.mpr ⟨rfl, hj⟩))
      rwa [byteAddr, hv] at hne
    · rw [← List.tail_drop, hl, List.tail_cons]
    · intro p hp
      rw [List.length_drop] at hp
      exact h p (Finset.mem_union_right _ hp)

/-- **The backend on an image stores where it says**, whatever the kernel answers. -/
theorem diskBackend_preadvStores (K : FileKernel) : (diskBackend K).PreadvStores := by
  intro d mem iov off a ha
  unfold diskBackend at ha ⊢
  dsimp only at ha ⊢
  cases hread : K.read d off.toNat (iovTotal iov) with
  | error e => rfl
  | ok k =>
    rw [hread] at ha
    have hlen : (d.read off.toNat k).length = k := by
      rw [Disk.read, List.length_map, List.length_range]
    refine storeIov_onlyAt (l := iov) (i := 0) rfl fun p hp => ha p ?_
    rwa [hlen] at hp

/-- An operation stores to the bytes of its data only. -/
theorem blkOperate_onlyAt (hstores : be.PreadvStores) (type : UInt32) (sector : UInt64)
    (outData inIov : List Iovec) :
    OnlyAt inIov (blkDataBytes be mem img type sector inIov) mem
      (blkOperate be mem img type sector outData inIov).2.2.1 := by
  intro a ha
  unfold blkDataBytes at ha
  by_cases hin : type = 0
  · unfold blkOperate
    rw [if_pos hin] at ha ⊢
    have hread := hstores img mem inIov.dropLast (sector * sectorBsize) a
    cases hpre : be.preadv img mem inIov.dropLast (sector * sectorBsize) with
    | mk answer mem' =>
      rw [hpre] at hread ha
      cases answer with
      | error err => exact hread fun p hp => absurd hp (Finset.notMem_empty p)
      | ok len =>
        refine hread fun p hp => ?_
        -- the buffers without the last one have the addresses they have with it
        have hlt := lt_of_mem_scatter hp
        rw [lengths, List.length_map, Nat.zero_add] at hlt
        have haddr : byteAddr inIov.dropLast p = byteAddr inIov p := by
          unfold byteAddr
          rw [List.length_dropLast] at hlt
          rw [List.getElem?_dropLast, if_pos hlt]
        rw [haddr]
        exact ha p hp
  · rw [if_neg hin] at ha
    by_cases hid : type = 8
    · subst hid
      cases inIov with
      | nil => rfl
      | cons v vs =>
        show writeBytes mem v.iovBase (blkIdText v) a = mem a
        exact writeBytes_outside _ _ fun j hj => ha (0, j) (mem_leadingBytes.mpr ⟨rfl, hj⟩)
    · rw [(blkOperate_other hin hid sector outData inIov).2]

/-- **The handler stores to the bytes of `blkStored` only.** -/
theorem blkStored_onlyAt (hstores : be.PreadvStores) {idx : UInt16} {q' : CompletionQueue}
    {mem' : Mem} {img' : σ}
    (h : blkComplete q idx (blkServe be mem img ret vreq) = .ok (q', mem', img')) :
    OnlyAt vreq.inIov (blkStored be mem img ret vreq) mem mem' := by
  unfold blkComplete at h
  dsimp only at h
  split at h
  · cases h
  · cases h
    intro a ha
    unfold blkStored at ha
    rw [blkServe_eq]
    cases hacc : blkAccepted mem ret vreq with
    | none => rfl
    | some p =>
      obtain ⟨hdr, status⟩ := p
      rw [hacc] at ha
      dsimp only at ha ⊢
      have hdata : (blkOperate be mem img (readU32 mem hdr.iovBase)
          (readU64 mem (hdr.iovBase + 8)) vreq.outIov.tail vreq.inIov).2.2.1 a = mem a :=
        blkOperate_onlyAt hstores _ _ _ _ a fun p hp => ha p (Finset.mem_union_left _ hp)
      by_cases hbase : status.iovBase = 0
      · rw [if_pos hbase]
        exact hdata
      · rw [if_neg hbase] at ha ⊢
        have hlast : vreq.inIov[vreq.inIov.length - 1]? = some status := by
          rw [← List.getLast?_eq_getElem?]
          exact (blkAccepted_some hacc).1
        have hne : a ≠ status.iovBase := by
          have hbyte := ha (vreq.inIov.length - 1, 0)
            (Finset.mem_union_right _ (mem_leadingBytes.mpr ⟨rfl, Nat.one_pos⟩))
          unfold byteAddr at hbyte
          rw [hlast] at hbyte
          simpa using hbyte
        rw [Function.update_of_ne hne]
        exact hdata

/-- A read of the first sector: two bytes of data at 0x3000, the status byte at 0x4000. -/
def twoByteRead : VirtioRequest := ⟨[⟨0x2000, 16⟩], [⟨0x3000, 2⟩, ⟨0x4000, 1⟩]⟩

/-- Of a memory of zeros it changes the two bytes. -/
theorem blkStored_onlyAt_read : ∃ stored r,
    blkStored (diskBackend willingKernel) (fun _ => 0) oneSector 3 twoByteRead = stored ∧
      stored.card = 3 ∧
      blkComplete oneDescQueue 0
        (blkServe (diskBackend willingKernel) (fun _ => 0) oneSector 3 twoByteRead) = .ok r ∧
      OnlyAt twoByteRead.inIov stored (fun _ => 0) r.2.1 ∧ readBytes r.2.1 0x3000 3 = [7, 7, 0] := by
  have hrun : blkComplete oneDescQueue 0
      (blkServe (diskBackend willingKernel) (fun _ => 0) oneSector 3 twoByteRead) = .ok _ := rfl
  exact ⟨_, _, rfl, by decide, hrun, blkStored_onlyAt (diskBackend_preadvStores _) hrun, rfl⟩

/-- The entry of a block request. -/
theorem blk_entry
    (he : entryOf Handler.blk.view q ((virtqBlkHandleOneRequest be zm q mem img).map (·.1)) =
      some e) :
    ∃ r, chainBufCall zm mem q.vq Handler.blk.cfg (q.vq.availHead mem) = .ok r ∧
      e.len = UInt32.ofNat ((blkServe be mem img r.1 r.2.1).wlen + 1) := by
  obtain ⟨⟨n, req, vq⟩, hwalk, hnum, he⟩ := entryOf_walk he
  refine ⟨_, hwalk, ?_⟩
  dsimp only at he ⊢
  split at he
  · next hret =>
    have hadvance : vq.advance.num = q.vq.num := hnum
    have hshort : n < 2 ∨ n > virtqueueBlkMaxSize := .inl (by omega)
    rw [blkComplete_post] at he
    rw [entryOf_post hadvance he, blkServe, if_pos hshort]
  · rw [blkComplete_post] at he
    exact entryOf_post hnum he

end Blk

/-! ## 3. Packets -/

section Net

variable {σ : Type} (tap : TapBackend σ) (version1 : Bool) (pad : UInt64)

/-- A packet that is sent: it has room for its header, and `writev` does not fail. -/
def NetTxSent (mem : Mem) (dev : σ) (n : Int) (req : VirtioRequest) : Prop :=
  1 ≤ n ∧ ∃ v vs, req.outIov = v :: vs ∧ getNethdrSize version1 ≤ v.iovLen.toNat ∧
    (tap.writev dev (withPad mem pad) (txIov pad (getNethdrSize version1) (v :: vs))).1 ≠ none

/-- A packet whose length is right: nothing is stored for it, so it is not sent, or its
    length is 0 in 32 bits. -/
def NetTxCovers (mem : Mem) (dev : σ) (n : Int) (req : VirtioRequest) : Prop :=
  ¬ (NetTxSent tap version1 pad mem dev n req ∧ (lengths req.outIov).sum % 2 ^ 32 ≠ 0)

/-- The bytes of a packet that is received. -/
def netRxStored (answer : ReadvResult) (n : Int) (req : VirtioRequest) : Finset BufByte :=
  match answer with
  | .packet len => if n < 1 then ∅ else scatter 0 len (lengths req.inIov)
  | _ => ∅

variable {tap version1 pad} {zm : ZoneTable} {q : CompletionQueue} {mem : Mem} {dev : σ} {n : Int}
  {req : VirtioRequest} {answer : ReadvResult} {e : VirtqUsedElem}

/-- **The length of a transmitted packet is right only if it is 0.** -/
theorem netTx_len_le_iff :
    (if n < 1 then 0 else (netTxServe tap version1 pad mem dev req).1).toNat ≤ 0 ↔
      NetTxCovers tap version1 pad mem dev n req := by
  unfold NetTxCovers NetTxSent
  by_cases hn : n < 1
  · rw [if_pos hn]
    exact ⟨fun _ h => absurd h.1.1 (Int.not_le.mpr hn), fun _ => Nat.le_refl 0⟩
  · rw [if_neg hn]
    unfold netTxServe
    cases hout : req.outIov with
    | nil =>
      refine ⟨fun _ h => ?_, fun _ => Nat.le_refl 0⟩
      obtain ⟨⟨-, v, vs, hcons, -⟩, -⟩ := h
      cases hcons
    | cons v vs =>
      dsimp only
      by_cases hshort : v.iovLen.toNat < getNethdrSize version1
      · rw [if_pos hshort]
        refine ⟨fun _ h => ?_, fun _ => Nat.le_refl 0⟩
        obtain ⟨⟨-, v', vs', hcons, hroom, -⟩, -⟩ := h
        cases hcons
        exact absurd hroom (Nat.not_le.mpr hshort)
      · rw [if_neg hshort]
        cases hsend : tap.writev dev (withPad mem pad)
            (txIov pad (getNethdrSize version1) (v :: vs)) with
        | mk sent dev' =>
          cases sent with
          | none =>
            refine ⟨fun _ h => ?_, fun _ => Nat.le_refl 0⟩
            obtain ⟨⟨-, v', vs', hcons, -, hsent⟩, -⟩ := h
            cases hcons
            rw [hsend] at hsent
            exact hsent rfl
          | some len =>
            dsimp only
            rw [UInt32.toNat_ofNat', Nat.le_zero]
            constructor
            · exact fun hzero h => h.2 hzero
            · intro h
              by_contra hne
              refine h ⟨⟨Int.not_lt.mp hn, v, vs, rfl, Nat.not_lt.mp hshort, ?_⟩, hne⟩
              rw [hsend]
              exact Option.some_ne_none len

/-- The length of a received packet is right. -/
theorem netRx_len_le (hn : ¬ n < 1) {len : Nat} (hfits : len ≤ (lengths req.inIov).sum) :
    (UInt32.ofNat len).toNat ≤ (netRxStored (.packet len) n req).card := by
  unfold netRxStored
  dsimp only
  rw [if_neg hn, card_scatter, Nat.min_eq_left hfits]
  exact toNat_ofNat_le len

/-- The entry of a transmitted packet. -/
theorem netTx_entry
    (he : entryOf Handler.netTx.view q
      ((netTxHandleOneRequest tap zm version1 pad q mem dev).map (·.1)) = some e) :
    ∃ r, chainBufCall zm mem q.vq Handler.netTx.cfg (q.vq.availHead mem) = .ok r ∧
      e.len = if r.1 < 1 then 0 else (netTxServe tap version1 pad mem dev r.2.1).1 := by
  obtain ⟨⟨n, req, vq⟩, hwalk, hnum, he⟩ := entryOf_walk he
  refine ⟨_, hwalk, ?_⟩
  dsimp only at he ⊢
  split at he
  · next hn =>
    have hadvance : vq.advance.num = q.vq.num := hnum
    rw [batchPush_fst] at he
    rw [if_pos hn]
    exact entryOf_post (k := .netTx) hadvance he
  · next hn =>
    rw [batchPush_fst] at he
    rw [if_neg hn]
    exact entryOf_post (k := .netTx) hnum he

/-- The entry of a received packet. -/
theorem netRx_entry
    (he : entryOf Handler.netRx.view q ((netRxBody zm answer q mem).map (·.1)) = some e) :
    ∃ r, chainBufCall zm mem q.vq Handler.netRx.cfg (q.vq.availHead mem) = .ok r ∧
      (e.len = 0 ∨ ¬ r.1 < 1 ∧ ∃ len, answer = .packet len ∧ e.len = UInt32.ofNat len) := by
  obtain ⟨⟨n, req, vq⟩, hwalk, hnum, he⟩ := entryOf_walk he
  refine ⟨_, hwalk, ?_⟩
  dsimp only at he ⊢
  split at he
  · rw [batchPush_fst] at he
    refine .inl (entryOf_post (k := .netRx) ?_ he)
    split <;> exact hnum
  · next hn =>
    cases answer with
    | wouldBlock =>
      exfalso
      have hview : Handler.netRx.view
          { q with vq := { vq with lastAvailIdx := vq.lastAvailIdx - 1 } } =
            Handler.netRx.view q := congrArg (postAll · q.used q.batch) hnum
      rw [Except.map, entryOf, hview, addedEntry_self] at he
      cases he
    | failed =>
      dsimp only at he
      rw [batchPush_fst] at he
      exact .inl (entryOf_post (k := .netRx) hnum he)
    | packet len =>
      dsimp only at he
      rw [batchPush_fst] at he
      exact .inr ⟨fun hlt => hn (.inl hlt), len, rfl, entryOf_post (k := .netRx) hnum he⟩

end Net

/-! ## 4. Console requests -/

section Console

variable {zm : ZoneTable} {fuel : Nat} {q : CompletionQueue} {mem : Mem} {answer : ReadvResult}
  {junk : Nat → Iovec} {e : VirtqUsedElem}

/-- The bytes that `readv` stores into writable buffers; it fills the array that the walk
    left, whatever the direction of its entries. -/
def consoleRxStored (answer : ReadvResult) (junk : Nat → Iovec) (r : ChainResult) :
    Finset BufByte :=
  match answer with
  | .packet len => landed 0 len (r.buffers junk)
  | _ => ∅

theorem consoleTx_entry {masterFd : Int}
    (he : entryOf CompletionQueue.used q (consoleTxHandleOneRequest zm fuel q mem masterFd) =
      some e) : e.len = 0 := by
  unfold consoleTxHandleOneRequest at he
  split at he
  · rw [entryOf, addedEntry_self] at he
    cases he
  · cases hwalk : processDescriptorChain zm mem q.vq fuel 0 false with
    | error err =>
      rw [hwalk] at he
      cases he
    | ok r =>
      rw [hwalk, ok_bind] at he
      split at he
      · rw [entryOf, addedEntry_self] at he
        cases he
      · exact entryOf_postUsed (usedRing_walk hwalk).2 he

/-- The entry of received characters, with the walk that collects the flags as well. -/
theorem consoleRx_entry
    (he : entryOf CompletionQueue.used q ((consoleRxBody zm fuel q mem answer).map (·.1)) =
      some e) :
    ∃ r len, processDescriptorChain zm mem q.vq fuel 0 true = .ok r ∧ answer = .packet len ∧
      e.len = UInt32.ofNat len := by
  unfold consoleRxBody at he
  rw [processDescriptorChain_flags] at he
  cases hwalk : processDescriptorChain zm mem q.vq fuel 0 true with
  | error err =>
    rw [hwalk] at he
    cases he
  | ok r =>
    rw [hwalk, Except.map, ok_bind] at he
    split at he
    · rw [Except.map, entryOf, addedEntry_self] at he
      cases he
    · cases answer with
      | wouldBlock | failed =>
        dsimp only at he
        rw [Except.map, entryOf, addedEntry_self] at he
        cases he
      | packet len =>
        refine ⟨r, len, rfl, rfl, ?_⟩
        have hpost : ∀ x : Except ChainError CompletionQueue,
            (x >>= fun q => .ok (q, true) : Except ChainError (CompletionQueue × Bool)).map
              (·.1) = x := by
          intro x
          cases x <;> rfl
        dsimp only at he
        rw [hpost] at he
        exact entryOf_postUsed (q := q) (usedRing_walk hwalk).2 he

end Console

/-! ## 5. SCMI requests -/

/-- The checks of `virtq_tx_handle_one_request` of the SCMI device: the buffers of a command
    that passes them. -/
def scmiAccepted (mem : Mem) (ret : Int) (vreq : VirtioRequest) : Option (Iovec × Iovec) :=
  if ret ≤ 0 then none
  else
    match vreq.outIov, vreq.inIov with
    | [reqIov], [respIov] =>
      if reqIov.iovLen < 4 ∨ reqIov.iovBase = 0 ∨ reqIov.iovLen > scmiMaxBufferSize then none
      else if (scmiMsgHeader (readU32 mem reqIov.iovBase)).msgType ≠ 0 then none
      else some (reqIov, respIov)
    | _, _ => none

/-- The message of a command, as `scmi_handle_message` gets it. -/
def acceptedRun (kernel : ScmiKernel) (mem : Mem) (dev : SCMIDev) (reqIov respIov : Iovec) :
    ScmiRun :=
  let hdr := scmiMsgHeader (readU32 mem reqIov.iovBase)
  scmiHandleMessage kernel mem dev hdr.msgId.toUInt8 hdr.token.toUInt16 reqIov
    (scmiRespCtxInit respIov) hdr.protocolId.toUInt8

/-- The bytes of the response buffer that the protocols store to. -/
def scmiStored (kernel : ScmiKernel) (dev : SCMIDev) (mem : Mem) (ret : Int)
    (vreq : VirtioRequest) : Finset BufByte :=
  match scmiAccepted mem ret vreq with
  | none => ∅
  | some (reqIov, respIov) =>
    responseBytes respIov.iovLen.toNat (acceptedRun kernel mem dev reqIov respIov).ctx.stores

/-- A request whose length is right: not one that is answered with the short name of a reset
    domain. -/
def ScmiCovers (params : Option VirtioScmiInitParams) (mem : Mem) (ret : Int)
    (vreq : VirtioRequest) : Prop :=
  ¬ ∃ reqIov respIov, scmiAccepted mem ret vreq = some (reqIov, respIov) ∧
    8 ≤ reqIov.iovLen.toNat ∧ Registered params ScmiDomain.reset.protocolId ∧
      ShortName (virtioScmiDoInit params) mem reqIov respIov.iovLen.toNat
        (scmiMsgHeader (readU32 mem reqIov.iovBase)).protocolId.toUInt8
        (scmiMsgHeader (readU32 mem reqIov.iovBase)).msgId.toUInt8

section Scmi

variable {params : Option VirtioScmiInitParams} {kernel : List ScmiIoctl → ScmiKernel}
  {log : List ScmiIoctl} {zm : ZoneTable} {q : CompletionQueue} {mem : Mem} {ret : Int}
  {vreq : VirtioRequest} {reqIov respIov : Iovec} {e : VirtqUsedElem} {dev : SCMIDev}

theorem scmiAccepted_some (h : scmiAccepted mem ret vreq = some (reqIov, respIov)) :
    vreq.inIov = [respIov] := by
  obtain ⟨-, h₁⟩ := Option.ite_none_left_eq_some.mp h
  split at h₁
  · next hout hin =>
    obtain ⟨-, h₂⟩ := Option.ite_none_left_eq_some.mp h₁
    obtain ⟨-, h₃⟩ := Option.ite_none_left_eq_some.mp h₂
    cases h₃
    exact hin
  · cases h₁

/-- A command that passes the checks goes to its protocol; any other is rejected. -/
theorem scmiServe_eq (hret : ¬ ret ≤ 0) :
    scmiServe (scmiBackend kernel) mem (dev, log) vreq =
      match scmiAccepted mem ret vreq with
      | none => ⟨minusEinval, 0, mem, (dev, log)⟩
      | some (reqIov, respIov) =>
        let run := acceptedRun (kernel log) mem dev reqIov respIov
        if run.ret ≠ 0 then ⟨minusEinval, 0, run.ctx.apply mem, (dev, log ++ run.ioctls)⟩
        else ⟨0, UInt32.ofNat run.ctx.written, run.ctx.apply mem, (dev, log ++ run.ioctls)⟩ := by
  unfold scmiAccepted scmiServe
  rw [if_neg hret]
  dsimp only
  rcases vreq.outIov with _ | ⟨reqIov, _ | ⟨_, _⟩⟩
  · rfl
  · rcases vreq.inIov with _ | ⟨respIov, _ | ⟨_, _⟩⟩
    · rfl
    · dsimp only
      split
      · rfl
      · split
        · rfl
        · dsimp only
          rw [← UInt64.toUInt32_ofNat']
          rfl
    · rfl
  · rfl

/-- What the message of a command comes to. -/
theorem acceptedRun_shape (params : Option VirtioScmiInitParams) (kernel : ScmiKernel) (mem : Mem)
    (reqIov respIov : Iovec) :
    let hdr := scmiMsgHeader (readU32 mem reqIov.iovBase)
    ScmiShape ((virtioScmiDoInit params).Serves hdr.protocolId.toUInt8 ∧ respIov.iovBase ≠ 0 ∧
        Enough hdr.protocolId.toUInt8 hdr.msgId.toUInt8 reqIov.iovLen.toNat respIov.iovLen.toNat)
      (NoEntry (configuredIds params) mem reqIov hdr.protocolId.toUInt8 hdr.msgId.toUInt8) kernel
      (scmiRespCtxInit respIov) hdr.protocolId.toUInt8 hdr.msgId.toUInt8 hdr.token.toUInt16
      (acceptedRun kernel mem (virtioScmiDoInit params) reqIov respIov) :=
  configured_shape params kernel mem _ _ _ reqIov respIov

/-- **The length of an SCMI request is right, but for the short name of a reset domain.** -/
theorem scmi_len_le_iff (hentries : ∀ v ∈ vreq.entries, v.iovBase ≠ 0 ∧ v.iovLen.toNat < 2 ^ 32) :
    (if ret ≤ 0 then 0 else
        (scmiServe (scmiBackend kernel) mem (virtioScmiDoInit params, log) vreq).len).toNat ≤
        (scmiStored (kernel log) (virtioScmiDoInit params) mem ret vreq).card ↔
      ScmiCovers params mem ret vreq := by
  have hlen : (if ret ≤ 0 then 0 else
      (scmiServe (scmiBackend kernel) mem (virtioScmiDoInit params, log) vreq).len) =
        match scmiAccepted mem ret vreq with
        | none => 0
        | some (reqIov, respIov) =>
          let run := acceptedRun (kernel log) mem (virtioScmiDoInit params) reqIov respIov
          if run.ret ≠ 0 then 0 else UInt32.ofNat run.ctx.written := by
    by_cases hret : ret ≤ 0
    · rw [scmiAccepted, if_pos hret, if_pos hret]
    · rw [if_neg hret, scmiServe_eq hret]
      cases scmiAccepted mem ret vreq with
      | none => rfl
      | some p =>
        dsimp only
        split <;> rfl
  unfold scmiStored ScmiCovers
  rw [hlen]
  cases hacc : scmiAccepted mem ret vreq with
  | none =>
    refine ⟨fun _ h => ?_, fun _ => Nat.le_refl 0⟩
    obtain ⟨reqIov, respIov, hsome, -⟩ := h
    cases hsome
  | some p =>
    obtain ⟨reqIov, respIov⟩ := p
    have hmem : respIov ∈ vreq.entries := by
      refine List.mem_append_right _ ?_
      rw [scmiAccepted_some hacc]
      exact List.mem_singleton_self respIov
    obtain ⟨hbase, hsize⟩ := hentries respIov hmem
    have hshape := acceptedRun_shape params (kernel log) mem reqIov respIov
    dsimp only at hshape ⊢
    by_cases hret :
        (acceptedRun (kernel log) mem (virtioScmiDoInit params) reqIov respIov).ret = 0
    · have hwritten : _ ≤ respIov.iovLen.toNat := (hshape.bounds hret).1
      have hcovered := written_covered_iff (virtioScmiDoInit_configured params).2 (kernel log) mem
        _ _ _ reqIov respIov hret
      rw [if_neg (not_not.mpr hret), UInt32.toNat_ofNat_of_lt' (Nat.lt_of_le_of_lt hwritten hsize)]
      refine hcovered.trans ⟨fun h hex => ?_, fun h hshort => h ?_⟩
      · obtain ⟨reqIov', respIov', hsome, -, -, hshort⟩ := hex
        cases hsome
        exact h hshort
      · -- it was answered, so that the protocol is registered and the request long enough
        obtain ⟨hserves, -, henough⟩ := (hshape.response hret).1
        have hshort' := hshort
        obtain ⟨hpid, hmid, -⟩ := hshort'
        rw [hpid, hmid] at henough
        rw [hpid] at hserves
        exact ⟨reqIov, respIov, rfl, henough.1, (serves_iff params _).mp hserves, hshort⟩
    · rw [if_pos hret]
      refine ⟨fun _ hex => ?_, fun _ => Nat.zero_le _⟩
      obtain ⟨reqIov', respIov', hsome, hreq, hreg, hshort⟩ := hex
      cases hsome
      obtain ⟨hpid, hmid, hcap, -⟩ := hshort
      -- a command to a reset domain, with room for its answer
      refine hret (hshape.ret_eq_zero ⟨?_, hbase, ?_⟩)
      · rw [hpid]
        exact (serves_iff params _).mpr hreg
      · rw [hpid, hmid]
        exact ⟨hreq, Nat.le_trans (by decide) hcap⟩

/-- **The handler stores to the bytes of `scmiStored` only.** -/
theorem scmiStored_onlyAt (hret : ¬ ret ≤ 0) :
    OnlyAt vreq.inIov (scmiStored (kernel log) (virtioScmiDoInit params) mem ret vreq) mem
      (scmiServe (scmiBackend kernel) mem (virtioScmiDoInit params, log) vreq).mem := by
  intro a ha
  unfold scmiStored at ha
  rw [scmiServe_eq hret]
  cases hacc : scmiAccepted mem ret vreq with
  | none => rfl
  | some p =>
    obtain ⟨reqIov, respIov⟩ := p
    rw [hacc] at ha
    dsimp only at ha ⊢
    have hshape := acceptedRun_shape params (kernel log) mem reqIov respIov
    have hwithin : ∀ st ∈ _, RespStore.Within respIov.iovLen.toNat st := hshape.within
    have hiov := hshape.iov_eq
    have hmem : (acceptedRun (kernel log) mem (virtioScmiDoInit params) reqIov
        respIov).ctx.apply mem a = mem a := by
      have haddr : respIov.iovBase + UInt64.ofNat (a - respIov.iovBase).toNat = a := by
        rw [UInt64.ofNat_toNat, UInt64.add_comm, UInt64.sub_add_cancel]
      have happly := apply_eq (Nat.le_of_lt respIov.iovLen.toNat_lt) hwithin mem
        (a - respIov.iovBase).toNat_lt
      rw [hiov] at happly
      change ScmiRespCtx.apply _ mem (respIov.iovBase + _) =
        Option.getD _ (mem (respIov.iovBase + _)) at happly
      rw [haddr] at happly
      rw [happly]
      cases hbyte : respByte (acceptedRun (kernel log) mem (virtioScmiDoInit params) reqIov
          respIov).ctx.stores (a - respIov.iovBase).toNat with
      | none => rfl
      | some b =>
        have hlt : (a - respIov.iovBase).toNat < respIov.iovLen.toNat := by
          by_contra hge
          rw [respByte_beyond hwithin (Nat.not_lt.mp hge)] at hbyte
          cases hbyte
        refine absurd ?_ (ha (0, (a - respIov.iovBase).toNat) (Finset.mem_filter.mpr
          ⟨mem_leadingBytes.mpr ⟨rfl, hlt⟩, by rw [hbyte]; rfl⟩))
        rw [scmiAccepted_some hacc]
        exact haddr.symm
    split <;> exact hmem

/-- `PROTOCOL_VERSION` of the clock protocol. -/
def versionMem : Mem := fun a => if a = 0x2001 then 0x50 else 0

def versionRequest : VirtioRequest := ⟨[⟨0x2000, 4⟩], [⟨0x3000, 12⟩]⟩

def noKernel : List ScmiIoctl → ScmiKernel := fun _ _ => none

theorem scmiStored_onlyAt_version : ∃ stored,
    scmiStored (noKernel []) (virtioScmiDoInit (some twoClocks)) versionMem 2 versionRequest =
      stored ∧ stored.card = 12 ∧ OnlyAt versionRequest.inIov stored versionMem
        (scmiServe (scmiBackend noKernel) versionMem (virtioScmiDoInit (some twoClocks), [])
          versionRequest).mem :=
  ⟨_, rfl, by decide, scmiStored_onlyAt (show ¬ (2 : Int) ≤ 0 by decide)⟩

/-- The entry of an SCMI request. -/
theorem scmi_entry
    (he : entryOf Handler.scmi.view q ((scmiHandleOneRequest (scmiBackend kernel) zm q mem
      (dev, log)).map (·.1)) = some e) :
    ∃ r, chainBufCall zm mem q.vq Handler.scmi.cfg (q.vq.availHead mem) = .ok r ∧
      e.len = if r.1 ≤ 0 then 0 else (scmiServe (scmiBackend kernel) mem (dev, log) r.2.1).len := by
  obtain ⟨⟨n, req, vq⟩, hwalk, hnum, he⟩ := entryOf_walk he
  refine ⟨_, hwalk, ?_⟩
  dsimp only at he ⊢
  split at he
  · next hret =>
    have hadvance : vq.advance.num = q.vq.num := hnum
    rw [scmiComplete_post] at he
    rw [if_pos hret]
    exact entryOf_post hadvance he
  · next hret =>
    rw [scmiComplete_post] at he
    rw [if_neg hret]
    exact entryOf_post hnum he

end Scmi

/-! ## 6. GPU commands -/

section Gpu

variable {zm : ZoneTable} {fuel : Nat} {junk : Nat → Iovec} {env : GPUEnv} {q : CompletionQueue}
  {mem : Mem} {dev : GPUState} {e : VirtqUsedElem} {r : ChainResult} {copies : List IovCopy}
  {code : UInt32}

/-- The entry of a command, and where its response went. -/
theorem gpu_entry
    (he : entryOf CompletionQueue.used q ((virtioGpuRequest zm mem fuel junk env q dev).map (·.1)) =
      some e) :
    ∃ r code q' dev' copies, processDescriptorChain zm mem q.vq fuel 0 true = .ok r ∧
      controlHeaderType env (r.iovs junk) = .ok (some code) ∧
      virtioGpuRequest zm mem fuel junk env q dev = .ok (q', dev', copies) ∧
      copiedBytes copies = scatter 1 (gpuResponseSize code) (lengths (r.iovs junk).tail) ∧
      e.len = UInt32.ofNat (gpuResponseSize code) := by
  cases hrun : virtioGpuRequest zm mem fuel junk env q dev with
  | error err =>
    rw [hrun] at he
    cases he
  | ok p =>
    obtain ⟨q', dev', copies⟩ := p
    rw [hrun, Except.map, entryOf] at he
    obtain ⟨r, hr, h⟩ := bind_eq_ok.mp hrun
    have hwalk := accessing_ok hr
    split at h
    · cases h
      rw [addedEntry_self] at he
      cases he
    · obtain ⟨o, ho, h⟩ := bind_eq_ok.mp h
      cases hresp : o.resp with
      | none =>
        rw [hresp] at h
        cases h
        rw [addedEntry_self] at he
        cases he
      | some resp =>
        rw [hresp] at h
        obtain ⟨code, hcode, hlen⟩ := length_response ho hresp
        obtain ⟨⟨q₁, copies₁⟩, hresponse, h⟩ := bind_eq_ok.mp h
        cases h
        obtain ⟨⟨done, copies₂⟩, hcopy, h⟩ := bind_eq_ok.mp hresponse
        dsimp only at h
        split at h
        · cases h
        · cases h
          refine ⟨r, code, _, _, _, hwalk, hcode, rfl, ?_, ?_⟩
          · rw [← hlen]
            exact copiedBytes_bufToIovFull (accessing_ok hcopy)
          · dsimp only at he
            rw [(usedRing_walk hwalk).2, addedEntry_updateUsedRing, hlen] at he
            cases he
            rfl

/-- The bytes of a response that lie in writable buffers. -/
theorem gpuStored_eq (n : Nat) (r : ChainResult) (junk : Nat → Iovec) :
    scatter 1 n (lengths (r.iovs junk).tail) ∩ markedBytes 0 (r.buffers junk) =
      landed 1 n (r.buffers junk).tail := by
  have hlengths : lengths (r.iovs junk).tail = (r.buffers junk).tail.map Prod.fst := by
    rw [lengths, List.map_tail, ← ChainResult.lengths_buffers, List.map_tail]
  unfold landed
  rw [hlengths]
  cases r.buffers junk with
  | nil => rfl
  | cons b bs => exact scatter_inter_cons 0 n _ b bs

theorem gpuResponseSize_lt (code : UInt32) : gpuResponseSize code < 2 ^ 32 := by
  unfold gpuResponseSize
  split <;> decide

end Gpu

end HvisorTool
