/-
  File:      HvisorTool/Gpu/ResponseBuffers.lean
  Subject:   WHERE THE RESPONSE TO A GPU COMMAND GOES: into the buffers of the chain that the
             device may write, or into others.

  The walker's array has no directions, and the response starts at its second entry. With a
  command in one buffer that is the first writable one.

  * `iovAddrs`: the host addresses of the bytes of a list of buffers;
  * `bufToIovFull_stores`: the scatter copy, as single stores to them in order;
  * `RespondsInto`: a response that fills the writable buffers and nothing else;
  * `responseLands_iff`: where it does.
-/
import HvisorTool.Gpu.Response
import HvisorTool.Library.Stores

namespace HvisorTool

open Library

/-! ## 1. The scatter copy as stores -/

/-- The host addresses of the bytes of a buffer. -/
def Iovec.addrs (v : Iovec) : List UInt64 :=
  (List.range v.iovLen.toNat).map fun j => v.iovBase + UInt64.ofNat j

/-- The host addresses of the bytes of a list of buffers, in sequence. -/
def iovAddrs (iov : List Iovec) : List UInt64 := iov.flatMap Iovec.addrs

theorem length_addrs (v : Iovec) : v.addrs.length = v.iovLen.toNat := by
  rw [Iovec.addrs, List.length_map, List.length_range]

theorem iovAddrs_cons (v : Iovec) (iov : List Iovec) :
    iovAddrs (v :: iov) = v.addrs ++ iovAddrs iov := List.flatMap_cons

theorem iovAddrs_append (iov iov' : List Iovec) :
    iovAddrs (iov ++ iov') = iovAddrs iov ++ iovAddrs iov' := List.flatMap_append

/-- The single stores of a copy; the buffers are those that the copies are numbered by. -/
def IovCopy.stores (iovs : List Iovec) (c : IovCopy) : List (UInt64 × UInt8) :=
  ((iovs.getD c.buf ⟨0, 0⟩).addrs.drop c.off).zip c.bytes

def copyStores (iovs : List Iovec) (copies : List IovCopy) : List (UInt64 × UInt8) :=
  copies.flatMap (IovCopy.stores iovs)

theorem copyStores_cons (iovs : List Iovec) (c : IovCopy) (copies : List IovCopy) :
    copyStores iovs (c :: copies) = c.stores iovs ++ copyStores iovs copies := List.flatMap_cons

/-- Every buffer that some of `n` bytes go to is mapped. -/
def MappedFor : Nat → List Iovec → Prop
  | _, [] => True
  | n, v :: vs => (0 < min v.iovLen.toNat n → v.iovBase ≠ 0) ∧ MappedFor (n - v.iovLen.toNat) vs

variable {α β : Type} {iov writable : List Iovec}

/-- A list of addresses in two parts takes the values in two parts. -/
theorem zip_append_left (as as' : List α) (bs : List β) :
    (as ++ as').zip bs = as.zip (bs.take as.length) ++ as'.zip (bs.drop as.length) := by
  induction as generalizing bs with
  | nil => simp
  | cons a as ih =>
    cases bs with
    | nil => simp
    | cons b bs => simp [ih]

/-- The bytes that a buffer has room for, and the rest behind it. -/
theorem firstBuffer_zip (v : Iovec) (buf : List UInt8) (done : Nat) (addrs : List UInt64) :
    v.addrs.zip ((buf.drop done).take (min v.iovLen.toNat (buf.length - done))) ++
        addrs.zip (buf.drop (done + min v.iovLen.toNat (buf.length - done))) =
      v.addrs.zip ((buf.drop done).take v.iovLen.toNat) ++
        addrs.zip ((buf.drop done).drop v.iovLen.toNat) := by
  by_cases hfits : v.iovLen.toNat ≤ buf.length - done
  · rw [Nat.min_eq_left hfits, List.drop_drop]
  · have hlen : (buf.drop done).length ≤ v.iovLen.toNat := by
      rw [List.length_drop]
      omega
    have hmin : min v.iovLen.toNat (buf.length - done) = (buf.drop done).length := by
      rw [List.length_drop]
      omega
    rw [hmin, List.take_length, List.take_of_length_le hlen, ← List.drop_drop, List.drop_length,
      List.drop_of_length_le hlen]

/-- A buffer of the loop takes what it has room for, or is passed over. -/
theorem bufToIovLoop_cons (buf : List UInt8) (i : Nat) (v : Iovec) (vs : List Iovec) (done : Nat) :
    bufToIovLoop buf i (v :: vs) 0 done =
      if 0 < min v.iovLen.toNat (buf.length - done) then
        if v.iovBase = 0 then .error .segv
        else
          (bufToIovLoop buf (i + 1) vs 0 (done + min v.iovLen.toNat (buf.length - done))).map fun r =>
            (r.1, r.2.1,
              ⟨i, 0, (buf.drop done).take (min v.iovLen.toNat (buf.length - done))⟩ :: r.2.2)
      else bufToIovLoop buf (i + 1) vs 0 done := by
  rw [bufToIovLoop]
  by_cases hmore : done < buf.length
  · rw [if_pos (.inr hmore)]
    by_cases hroom : 0 < v.iovLen.toNat
    · have hlen : 0 < min v.iovLen.toNat (buf.length - done) := by omega
      rw [if_pos hroom, if_pos hlen, Nat.sub_zero]
      dsimp only
      by_cases hnull : v.iovBase = 0
      · rw [if_pos ⟨hnull, hlen⟩, if_pos hnull]
      · rw [if_neg (fun h => hnull h.1), if_neg hnull]
        cases bufToIovLoop buf (i + 1) vs 0 (done + min v.iovLen.toNat (buf.length - done)) with
        | error e | ok r => rfl
    · have hzero : v.iovLen.toNat = 0 := by omega
      rw [if_neg hroom, if_neg (by omega), hzero]
  · -- with nothing left to store, every buffer is passed over
    have hstop : ∀ (i : Nat) (vs : List Iovec), bufToIovLoop buf i vs 0 done = .ok (0, done, []) := by
      intro i vs
      cases vs with
      | nil => rfl
      | cons v vs => exact if_neg (fun h => h.elim (fun h => h rfl) hmore)
    rw [if_neg (fun h => h.elim (fun h => h rfl) hmore), if_neg (by omega), hstop]

/-- **The loop returns exactly if the buffers it stores to are mapped, and stores the bytes
    to them in order.** -/
theorem bufToIovLoop_stores (buf : List UInt8) {iovs : List Iovec} {i : Nat} (done : Nat)
    (hiov : iovs.drop i = iov) :
    ((∃ r, bufToIovLoop buf i iov 0 done = .ok r) ↔ MappedFor (buf.length - done) iov) ∧
      ∀ r, bufToIovLoop buf i iov 0 done = .ok r →
        copyStores iovs r.2.2 = (iovAddrs iov).zip (buf.drop done) := by
  induction iov generalizing i done with
  | nil =>
    refine ⟨⟨fun _ => trivial, fun _ => ⟨_, rfl⟩⟩, fun r h => ?_⟩
    cases h
    rfl
  | cons v vs ih =>
    have hrest : iovs.drop (i + 1) = vs := by
      rw [← List.drop_drop, hiov]
      rfl
    have hget : iovs.getD i ⟨0, 0⟩ = v := by
      have hhead := congrArg List.head? hiov
      rw [List.head?_drop] at hhead
      rw [List.getD_eq_getElem?_getD, hhead]
      rfl
    rw [bufToIovLoop_cons, MappedFor, iovAddrs_cons]
    by_cases hlen : 0 < min v.iovLen.toNat (buf.length - done)
    · rw [if_pos hlen]
      by_cases hnull : v.iovBase = 0
      · rw [if_pos hnull]
        refine ⟨⟨fun ⟨r, hr⟩ => (by cases hr), fun hm => absurd hnull (hm.1 hlen)⟩, ?_⟩
        exact fun r hr => by cases hr
      · rw [if_neg hnull]
        obtain ⟨hret, hstores⟩ := ih (done + min v.iovLen.toNat (buf.length - done)) hrest
        have hleft : buf.length - (done + min v.iovLen.toNat (buf.length - done)) =
            buf.length - done - v.iovLen.toNat := by omega
        rw [hleft] at hret
        refine ⟨⟨fun ⟨r, hr⟩ => ?_, fun hm => ?_⟩, fun r hr => ?_⟩
        · obtain ⟨r', hr', -⟩ := map_eq_ok.mp hr
          exact ⟨fun _ => hnull, hret.mp ⟨r', hr'⟩⟩
        · obtain ⟨r, hr⟩ := hret.mpr hm.2
          exact ⟨_, map_eq_ok.mpr ⟨r, hr, rfl⟩⟩
        · obtain ⟨r', hr', rfl⟩ := map_eq_ok.mp hr
          rw [copyStores_cons, IovCopy.stores, hget, List.drop_zero, hstores r' hr',
            zip_append_left, length_addrs]
          exact firstBuffer_zip v buf done _
    · rw [if_neg hlen]
      obtain ⟨hret, hstores⟩ := ih done hrest
      have hskip : MappedFor (buf.length - done - v.iovLen.toNat) vs ↔
          MappedFor (buf.length - done) vs := by
        rcases Nat.eq_zero_or_pos v.iovLen.toNat with hzero | hpos
        · rw [hzero, Nat.sub_zero]
        · have hnone : buf.length - done = 0 := by omega
          rw [hnone, Nat.zero_sub]
      refine ⟨?_, fun r hr => ?_⟩
      · rw [hret, hskip]
        exact ⟨fun hm => ⟨fun h => absurd h hlen, hm⟩, fun hm => hm.2⟩
      · rw [hstores r hr]
        rcases Nat.eq_zero_or_pos v.iovLen.toNat with hzero | hpos
        · have hnil : v.addrs = [] := by
            rw [Iovec.addrs, hzero]
            rfl
          rw [hnil, List.nil_append]
        · rw [List.drop_of_length_le (by omega), List.zip_nil_right, List.zip_nil_right]

/-! ## 2. Responses -/

/-- **`virtio_gpu_ctrl_response` returns exactly if the used ring and the buffers it stores
    to are mapped, and stores the response to the buffers behind the first one.** -/
theorem ctrlResponse_stores (q : CompletionQueue) (iovs : List Iovec) (idx : UInt16)
    (resp : GPUResponse) :
    ((∃ r, virtioGpuCtrlResponse q iovs idx resp = .ok r) ↔
        q.vq.usedRing ≠ 0 ∧ MappedFor resp.bytes.length iovs.tail) ∧
      ∀ r, virtioGpuCtrlResponse q iovs idx resp = .ok r →
        copyStores iovs r.2 = (iovAddrs iovs.tail).zip resp.bytes := by
  have htail : iovs.drop 1 = iovs.tail := List.drop_one
  obtain ⟨hret, hstores⟩ := bufToIovLoop_stores resp.bytes 0 htail
  rw [List.drop_zero] at hstores
  cases hloop : bufToIovLoop resp.bytes 1 iovs.tail 0 0 with
  | error e =>
    have hrun : virtioGpuCtrlResponse q iovs idx resp = .error (.access e) := by
      unfold virtioGpuCtrlResponse bufToIovFull
      rw [hloop]
      rfl
    rw [hrun]
    refine ⟨⟨fun ⟨r, hr⟩ => (by cases hr), fun hm => ?_⟩, fun r hr => by cases hr⟩
    obtain ⟨r, hr⟩ := hret.mpr hm.2
    rw [hloop] at hr
    cases hr
  | ok r =>
    have hmapped := hret.mp ⟨r, hloop⟩
    have hrun : virtioGpuCtrlResponse q iovs idx resp =
        if q.vq.usedRing = 0 then .error (.access .segv)
        else
          .ok ({ q with
              used := updateUsedRing q.vq.num q.used (idx, UInt32.ofNat resp.bytes.length) },
            r.2.2) := by
      unfold virtioGpuCtrlResponse bufToIovFull
      rw [hloop]
      rfl
    rw [hrun]
    by_cases hused : q.vq.usedRing = 0
    · rw [if_pos hused]
      exact ⟨⟨fun ⟨r', hr⟩ => (by cases hr), fun hm => absurd hused hm.1⟩,
        fun r' hr => by cases hr⟩
    · rw [if_neg hused]
      refine ⟨⟨fun _ => ⟨hused, hmapped⟩, fun _ => ⟨_, rfl⟩⟩, fun r' hr => ?_⟩
      cases hr
      exact hstores r hloop

/-- The entries of the array with a direction. -/
def ChainResult.directed (r : ChainResult) (junk : Nat → Iovec) (write : Bool) : List Iovec :=
  (((r.iovs junk).zip ((r.buffers junk).map Prod.snd)).filter fun e => e.2 == write).map Prod.fst

/-- A chain of `k` readable descriptors and `m` writable ones behind them. -/
def ChainResult.Split (r : ChainResult) (junk : Nat → Iovec) (k m : Nat) : Prop :=
  (r.buffers junk).map Prod.snd = List.replicate k false ++ List.replicate m true

theorem filter_zip_replicate (l : List α) (b write : Bool) :
    ((l.zip (List.replicate l.length b)).filter fun e => e.2 == write).map Prod.fst =
      if b = write then l else [] := by
  induction l with
  | nil => simp
  | cons x l ih =>
    rw [List.length_cons, List.replicate_succ, List.zip_cons_cons, List.filter_cons]
    by_cases hb : b = write
    · rw [if_pos (by simpa using hb), List.map_cons, ih, if_pos hb, if_pos hb]
    · rw [if_neg (by simpa using hb), ih, if_neg hb, if_neg hb]

/-- The readable buffers come first. -/
theorem ChainResult.Split.iovs_eq {r : ChainResult} {junk : Nat → Iovec} {k m : Nat}
    (h : r.Split junk k m) :
    r.iovs junk = r.directed junk false ++ r.directed junk true ∧
      (r.directed junk false).length = k := by
  have hlen : (r.iovs junk).length = k + m := by
    have hflags := congrArg List.length h
    rw [List.length_map, List.length_append, List.length_replicate, List.length_replicate] at hflags
    have hsame := congrArg List.length (r.lengths_buffers junk)
    rw [List.length_map, List.length_map] at hsame
    omega
  obtain ⟨rd, wr, hrd, hwr, hsplit⟩ : ∃ rd wr, rd.length = k ∧ wr.length = m ∧
      r.iovs junk = rd ++ wr := by
    refine ⟨(r.iovs junk).take k, (r.iovs junk).drop k, ?_, ?_, (List.take_append_drop _ _).symm⟩
    · rw [List.length_take]
      omega
    · rw [List.length_drop]
      omega
  have hdirected : ∀ write, r.directed junk write =
      (if false = write then rd else []) ++ (if true = write then wr else []) := by
    intro write
    rw [ChainResult.directed, h, hsplit, zip_append_left]
    rw [← hrd, ← hwr, List.take_left' List.length_replicate, List.drop_left' List.length_replicate,
      List.filter_append, List.map_append, filter_zip_replicate, filter_zip_replicate]
  have hfalse := hdirected false
  have htrue := hdirected true
  simp only [if_true, Bool.false_eq_true, Bool.true_eq_false, if_false, List.append_nil,
    List.nil_append] at hfalse htrue
  rw [hfalse, htrue]
  exact ⟨hsplit, hrd⟩

/-- The stores of a response that fill the writable buffers from their start and change
    nothing else. -/
structure RespondsInto (readable writable : List Iovec) (resp : List UInt8)
    (stores : List (UInt64 × UInt8)) : Prop where
  readOnly : ∀ s ∈ stores, s.1 ∉ iovAddrs readable
  filled : ∀ (mem : Mem) (p : Nat) (a : UInt64), p < resp.length →
    (iovAddrs writable)[p]? = some a → resp[p]? = some (Stores.after mem stores a)
  frame : ∀ (mem : Mem) (a : UInt64), a ∉ (iovAddrs writable).take resp.length →
    Stores.after mem stores a = mem a

/-- The response to a request: it is sent, and lies where it belongs. -/
def ResponseLands (q : CompletionQueue) (r : ChainResult) (junk : Nat → Iovec)
    (resp : GPUResponse) : Prop :=
  ∃ o, virtioGpuCtrlResponse q (r.iovs junk) (r.descIdx.getD 0) resp = .ok o ∧
    RespondsInto (r.directed junk false) (r.directed junk true) resp.bytes
      (copyStores (r.iovs junk) o.2)

/-- No two bytes of the writable buffers clash, and none with a readable one. -/
structure ClashFree (readable writable : List Iovec) (resp : List UInt8) : Prop where
  apart : ∀ a ∈ (iovAddrs writable).take resp.length, a ∉ iovAddrs readable
  agree : ∀ p p' a, (iovAddrs writable)[p]? = some a → (iovAddrs writable)[p']? = some a →
    p < resp.length → p' < resp.length → resp[p]? = resp[p']?

/-- A store of a list of addresses and values, by its place. -/
theorem mem_zip_iff {as : List α} {bs : List β} {s : α × β} :
    s ∈ as.zip bs ↔ ∃ p : Nat, as[p]? = some s.1 ∧ bs[p]? = some s.2 := by
  rw [List.mem_iff_getElem?]
  refine exists_congr fun p => ?_
  rw [List.getElem?_zip_eq_some]

/-- **Stores of the response to the writable buffers lie where they belong exactly if the
    bytes do not clash.** -/
theorem respondsInto_iff (readable writable : List Iovec) (resp : List UInt8) :
    RespondsInto readable writable resp ((iovAddrs writable).zip resp) ↔
      ClashFree readable writable resp := by
  have hmem : ∀ {a b}, (a, b) ∈ (iovAddrs writable).zip resp ↔
      ∃ p : Nat, (iovAddrs writable)[p]? = some a ∧ resp[p]? = some b := mem_zip_iff
  have hlt : ∀ {p : Nat} {b}, resp[p]? = some b → p < resp.length := fun h =>
    (List.getElem?_eq_some_iff.mp h).1
  have hbyte : ∀ {p : Nat}, p < resp.length → ∃ b, resp[p]? = some b := fun h =>
    ⟨_, List.getElem?_eq_getElem h⟩
  constructor
  · intro h
    refine ⟨fun a ha hread => ?_, fun p p' a hp hp' hlt hlt' => ?_⟩
    · obtain ⟨p, hp⟩ := List.mem_iff_getElem?.mp ha
      rw [List.getElem?_take] at hp
      split at hp
      · next hlt =>
        obtain ⟨b, hb⟩ := hbyte hlt
        exact h.readOnly _ (hmem.mpr ⟨p, hp, hb⟩) hread
      · cases hp
    · rw [h.filled (fun _ => 0) p a hlt hp, h.filled (fun _ => 0) p' a hlt' hp']
  · intro h
    have hvalues : ∀ mem : Mem, ∀ s ∈ (iovAddrs writable).zip resp,
        Stores.after mem ((iovAddrs writable).zip resp) s.1 = s.2 := by
      intro mem
      refine Stores.after_values_iff.mpr fun s hs s' hs' heq => ?_
      obtain ⟨p, hp, hb⟩ := hmem.mp hs
      obtain ⟨p', hp', hb'⟩ := hmem.mp hs'
      rw [← heq] at hp'
      have hsame := h.agree p p' s.1 hp hp' (hlt hb) (hlt hb')
      rw [hb, hb'] at hsame
      exact Option.some.inj hsame
    refine ⟨fun s hs hread => ?_, fun mem p a hp ha => ?_, fun mem a ha => ?_⟩
    · obtain ⟨p, hp, hb⟩ := hmem.mp hs
      refine h.apart s.1 (List.mem_iff_getElem?.mpr ⟨p, ?_⟩) hread
      rw [List.getElem?_take, if_pos (hlt hb), hp]
    · obtain ⟨b, hb⟩ := hbyte hp
      rw [hb, hvalues mem (a, b) (hmem.mpr ⟨p, ha, hb⟩)]
    · refine Stores.after_of_notMem fun s hs heq => ha ?_
      obtain ⟨p, hp, hb⟩ := hmem.mp hs
      refine List.mem_iff_getElem?.mpr ⟨p, ?_⟩
      rw [List.getElem?_take, if_pos (hlt hb), hp, heq]

/-- A response has a header. -/
theorem length_bytes_pos (resp : GPUResponse) : 0 < resp.bytes.length := by
  unfold GPUResponse.bytes
  rw [List.length_append, List.length_append, List.length_replicate]
  omega

/-- Empty buffers have no bytes. -/
theorem iovAddrs_empty (h : ∀ v ∈ iov, v.iovLen = 0) : iovAddrs iov = [] := by
  refine List.flatMap_eq_nil_iff.mpr fun v hv => ?_
  rw [Iovec.addrs, h v hv]
  rfl

theorem mappedFor_empty (h : ∀ v ∈ iov, v.iovLen = 0) (n : Nat)
    (rest : List Iovec) : MappedFor n (iov ++ rest) ↔ MappedFor n rest := by
  induction iov with
  | nil => exact Iff.rfl
  | cons v vs ih =>
    have hzero : v.iovLen.toNat = 0 := by
      rw [h v List.mem_cons_self]
      rfl
    rw [List.cons_append, MappedFor, hzero, Nat.zero_min, Nat.sub_zero,
      ih fun v hv => h v (List.mem_cons_of_mem _ hv)]
    exact ⟨fun hm => hm.2, fun hm => ⟨fun h => absurd h (Nat.lt_irrefl 0), hm⟩⟩

/-- Bytes stored from the second entry on go to a readable buffer first, if one is there. -/
theorem empty_of_readOnly {first : Iovec} {rest : List Iovec} {resp : List UInt8}
    (hresp : 0 < resp.length)
    (h : ∀ s ∈ (iovAddrs (rest ++ writable)).zip resp, s.1 ∉ iovAddrs (first :: rest)) :
    ∀ v ∈ rest, v.iovLen = 0 := by
  have hnil : iovAddrs rest = [] := by
    cases haddrs : iovAddrs rest with
    | nil => rfl
    | cons a as =>
      refine absurd ?_ (h (a, resp[0]) (mem_zip_iff.mpr ⟨0, ?_, List.getElem?_eq_getElem hresp⟩))
      · rw [iovAddrs_cons, haddrs]
        exact List.mem_append_right _ List.mem_cons_self
      · rw [iovAddrs_append, haddrs]
        rfl
  intro v hv
  have haddrs := List.flatMap_eq_nil_iff.mp hnil v hv
  have hlen := length_addrs v
  rw [haddrs] at hlen
  exact UInt64.toNat_inj.mp hlen.symm

/-- **The response lies where it belongs exactly if the command is in one buffer**, the rest
    of the readable ones being empty, and what it is stored to is mapped and does not clash. -/
theorem gpu_response_lands_iff (q : CompletionQueue) (r : ChainResult) (junk : Nat → Iovec)
    (resp : GPUResponse) {k m : Nat} (hk : 1 ≤ k) (hsplit : r.Split junk k m) :
    ResponseLands q r junk resp ↔
      q.vq.usedRing ≠ 0 ∧ (∀ v ∈ (r.directed junk false).tail, v.iovLen = 0) ∧
        MappedFor resp.bytes.length (r.directed junk true) ∧
        ClashFree (r.directed junk false) (r.directed junk true) resp.bytes := by
  obtain ⟨hiovs, hlen⟩ := hsplit.iovs_eq
  obtain ⟨hret, hstores⟩ := ctrlResponse_stores q (r.iovs junk) (r.descIdx.getD 0) resp
  unfold ResponseLands
  generalize r.directed junk true = writable at hiovs ⊢
  cases hread : r.directed junk false with
  | nil =>
      rw [hread] at hlen
      rw [← hlen] at hk
      cases hk
  | cons first rest =>
      rw [hread] at hiovs
      have htail : (r.iovs junk).tail = rest ++ writable := by
        rw [hiovs]
        rfl
      rw [htail] at hret hstores
      constructor
      · rintro ⟨o, ho, hinto⟩
        rw [hstores o ho] at hinto
        obtain ⟨hused, hmapped⟩ := hret.mp ⟨o, ho⟩
        have hempty := empty_of_readOnly (length_bytes_pos resp) hinto.readOnly
        rw [iovAddrs_append, iovAddrs_empty hempty, List.nil_append] at hinto
        exact ⟨hused, hempty, (mappedFor_empty hempty _ _).mp hmapped,
          (respondsInto_iff _ _ _).mp hinto⟩
      · rintro ⟨hused, hempty, hmapped, hclash⟩
        have hempty : ∀ v ∈ rest, v.iovLen = 0 := hempty
        obtain ⟨o, ho⟩ := hret.mpr ⟨hused, (mappedFor_empty hempty _ _).mpr hmapped⟩
        refine ⟨o, ho, ?_⟩
        rw [hstores o ho, iovAddrs_append, iovAddrs_empty hempty, List.nil_append]
        exact (respondsInto_iff _ _ _).mpr hclash

/-- Bytes at distinct addresses do not clash. -/
theorem clashFree_of_nodup {readable : List Iovec} {resp : List UInt8}
    (hnodup : (iovAddrs writable).Nodup) (hapart : ∀ a ∈ iovAddrs writable, a ∉ iovAddrs readable) :
    ClashFree readable writable resp := by
  refine ⟨fun a ha => hapart a (List.mem_of_mem_take ha), fun p p' a hp hp' _ _ => ?_⟩
  obtain ⟨hlt, hp⟩ := List.getElem?_eq_some_iff.mp hp
  obtain ⟨hlt', hp'⟩ := List.getElem?_eq_some_iff.mp hp'
  have hsame : p = p' := (List.Nodup.getElem_inj_iff hnodup).mp (hp.trans hp'.symm)
  rw [hsame]

theorem nodup_addrs (v : Iovec) : v.addrs.Nodup := by
  refine List.Nodup.map_on (fun j hj j' hj' heq => ?_) List.nodup_range
  rw [List.mem_range] at hj hj'
  have hlt := v.iovLen.toNat_lt
  have hcancel := UInt64.toNat_inj.mpr ((UInt64.add_right_inj _).mp heq)
  rw [UInt64.toNat_ofNat_of_lt' (Nat.lt_trans hj hlt),
    UInt64.toNat_ofNat_of_lt' (Nat.lt_trans hj' hlt)] at hcancel
  exact hcancel

/-- A chain as the walker leaves it. -/
def chainOf (slots : List IovSlot) : ChainResult :=
  { ret := slots.length, descIdx := some 0, arr := fun i => slots[i]?
    vq := { (default : VirtQueue) with num := 8, usedRing := 0x5000 } }

/-- A command in one buffer of 32 bytes, and 24 bytes for the response. -/
def oneBufferCommand : ChainResult :=
  chainOf [⟨⟨0x1000, 32⟩, some 1⟩, ⟨⟨0x3000, 24⟩, some 2⟩]

/-- `RESOURCE_ATTACH_BACKING` with its entries in a second buffer. -/
def twoBufferCommand : ChainResult :=
  chainOf [⟨⟨0x1000, 32⟩, some 1⟩, ⟨⟨0x2000, 16⟩, some 1⟩, ⟨⟨0x3000, 24⟩, some 2⟩]

def responseQueue (r : ChainResult) : CompletionQueue := ⟨r.vq, ⟨0, fun _ => default⟩, []⟩

/-- The response to a command in one buffer lies where it belongs. -/
theorem one_buffer_lands :
    oneBufferCommand.Split (fun _ => ⟨0, 0⟩) 1 1 ∧
      ResponseLands (responseQueue oneBufferCommand) oneBufferCommand (fun _ => ⟨0, 0⟩)
        ⟨.okNodata, []⟩ := by
  have hsplit : oneBufferCommand.Split (fun _ => ⟨0, 0⟩) 1 1 := rfl
  have hreadable : oneBufferCommand.directed (fun _ => ⟨0, 0⟩) false = [⟨0x1000, 32⟩] := by decide
  have hwritable : oneBufferCommand.directed (fun _ => ⟨0, 0⟩) true = [⟨0x3000, 24⟩] := by decide
  refine ⟨hsplit, (gpu_response_lands_iff _ _ _ _ (Nat.le_refl 1) hsplit).mpr ?_⟩
  rw [hreadable, hwritable]
  refine ⟨by decide, fun v hv => (by cases hv), ⟨fun _ => by decide, trivial⟩, ?_⟩
  have hapart : (iovAddrs [⟨0x3000, 24⟩]).all
      (fun a => !(iovAddrs [⟨0x1000, 32⟩]).contains a) = true := by decide +kernel
  refine clashFree_of_nodup ?_ fun a ha => ?_
  · rw [iovAddrs_cons]
    exact List.append_nil _ ▸ nodup_addrs _
  · simpa using List.all_eq_true.mp hapart a ha

/-- The response to the other one overwrites the entries. -/
theorem two_buffers_overwritten :
    twoBufferCommand.Split (fun _ => ⟨0, 0⟩) 2 1 ∧
      ¬ ResponseLands (responseQueue twoBufferCommand) twoBufferCommand (fun _ => ⟨0, 0⟩)
        ⟨.okNodata, []⟩ := by
  refine ⟨rfl, fun ⟨o, ho, hinto⟩ => ?_⟩
  have hstores := (ctrlResponse_stores _ _ _ _).2 o ho
  have hreadable : twoBufferCommand.directed (fun _ => ⟨0, 0⟩) false =
      [⟨0x1000, 32⟩, ⟨0x2000, 16⟩] := by decide
  have htail : (twoBufferCommand.iovs fun _ => ⟨0, 0⟩).tail = [⟨0x2000, 16⟩] ++ [⟨0x3000, 24⟩] := by
    decide
  rw [hreadable, hstores, htail] at hinto
  have hempty := empty_of_readOnly (length_bytes_pos _) hinto.readOnly ⟨0x2000, 16⟩
    (List.mem_singleton.mpr rfl)
  exact absurd hempty (by decide)

end HvisorTool
