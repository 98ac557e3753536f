/-
  File:      HvisorTool/Scmi/Discovery.lean
  Subject:   PROTOCOL DISCOVERY: `BASE_DISCOVER_LIST_PROTOCOLS` as an agent uses it.

  * `protocolList_answer`: the response to a `skip` of any size, in full;
  * `readProtocolList`, `readProtocolList_answer`: what an agent reads out of it;
  * `discover`: an agent that asks with the number of ids it has until it gets none;
  * `protocol_discovery`: the answers, and what the agent ends with.
-/
import Mathlib.Data.List.Nodup
import HvisorTool.Scmi.Answers

namespace HvisorTool

open Library

/-! ## 1. The response -/

/-- The stores of the response: its header, the count, and the words. -/
def protocolListStores (token : UInt16) (ids : List UInt8) (slots : List UInt32) :
    List RespStore :=
  headerStores scmiProtoIdBase 0x6 token .success ++
    fieldStores sizeofScmiResponse [(0, le32 (UInt32.ofNat ids.length)), (4, slots.flatMap le32)]

variable {mem : Mem} {dev : SCMIDev} {token : UInt16} {reqIov respIov : Iovec} {ctx : ScmiRespCtx}

/-- **The response to any `skip`**: the ids from there on, packed, and a length that ends
    with their last word. -/
theorem protocolList_answer (mem : Mem) (dev : SCMIDev) (token : UInt16) (hnew : ctx.stores = [])
    (hreq : sizeofScmiRequest + 4 ≤ reqIov.iovLen.toNat)
    (hcap : sizeofScmiResponse + sizeofProtocolList ≤ ctx.capacity) :
    ∃ slots, Packed (dev.protocolIds.drop (payloadU32 mem reqIov 0).toNat) slots ∧
      handleBaseProtocolList mem dev token reqIov ctx =
        ⟨0, { ctx with
              written := sizeofScmiResponse + (4 + slots.length * 4)
              stores := protocolListStores token
                (dev.protocolIds.drop (payloadU32 mem reqIov 0).toNat) slots }, []⟩ := by
  have hvalid : sizeofScmiRequest + 4 ≤ reqIov.iovLen.toNat ∧
      sizeofScmiResponse + 8 ≤ ctx.capacity := ⟨hreq, Nat.le_trans (by decide) hcap⟩
  have hhead : sizeofScmiResponse ≤ ctx.capacity := Nat.le_trans (Nat.le_add_right _ _) hcap
  obtain ⟨slots, hpacked, hlist⟩ := getProtocolList_packed dev (payloadU32 mem reqIov 0)
  refine ⟨slots, hpacked, ?_⟩
  have hcount : (dev.protocolIds.drop (payloadU32 mem reqIov 0).toNat).length < 17 := by
    rw [List.length_drop, SCMIDev.protocolIds, List.length_map]
    exact Nat.lt_succ_of_le (Nat.le_trans (Nat.sub_le _ _) dev.protocolsBound)
  obtain ⟨-, hword, hdiv⟩ := protocolCount_arith _ hcount
  have hword : (Int32.ofNat (dev.protocolIds.drop (payloadU32 mem reqIov 0).toNat).length).toUInt32 =
      UInt32.ofNat (dev.protocolIds.drop (payloadU32 mem reqIov 0).toNat).length := by
    rw [← hword, UInt32.ofNat_toNat, hword]
  unfold handleBaseProtocolList
  rw [validateRequest_eq]
  dsimp only
  rw [if_pos hvalid, if_neg (fun hne => hne rfl), makeResponse_eq hnew hhead]
  unfold scmiRespWrite
  dsimp only
  rw [if_neg (Nat.not_lt.mpr hcap)]
  dsimp only
  rw [hlist]
  dsimp only
  rw [hdiv, hword, ← hpacked.length]
  rfl

/-- The words of the slots, byte by byte. -/
theorem getElem?_flatMap_le32 (slots : List UInt32) {j i : Nat} (hi : i < 4) :
    (slots.flatMap le32)[4 * j + i]? = (slots[j]?).bind fun w => (le32 w)[i]? := by
  induction slots generalizing j with
  | nil => rfl
  | cons w slots ih =>
    rw [List.flatMap_cons, List.getElem?_append, length_le32]
    cases j with
    | zero => rw [if_pos (by omega)]; simp
    | succ j =>
      rw [if_neg (by omega), List.getElem?_cons_succ, ← ih]
      congr 1
      omega

variable {slots : List UInt32}

theorem protocolListStores_within {ids : List UInt8} {cap : Nat}
    (h : sizeofScmiResponse + (4 + slots.length * 4) ≤ cap) :
    ∀ st ∈ protocolListStores token ids slots, st.Within cap := by
  intro st hst
  rcases List.mem_append.mp hst with hhead | hpay
  · exact headerStores_within (Nat.le_trans (Nat.le_add_right _ _) h) st hhead
  · have hsize : sizeofScmiResponse = 8 := rfl
    simp only [fieldStores, List.map_cons, List.map_nil, List.mem_cons, List.not_mem_nil,
      or_false] at hpay
    rcases hpay with rfl | rfl
    · refine ⟨_, rfl, ?_⟩
      rw [length_le32]
      omega
    · refine ⟨_, rfl, ?_⟩
      rw [length_flatMap_le32]
      omega

/-- The count lies behind the header. -/
theorem respByte_count (ids : List UInt8) (slots : List UInt32) {i : Nat} (hi : i < 4) :
    respByte (protocolListStores token ids slots) (sizeofScmiResponse + i) =
      (le32 (UInt32.ofNat ids.length))[i]? := by
  rw [protocolListStores, respByte_payload, fieldStores, List.map_cons, List.map_cons, respByte,
    respByte]
  have hslots : RespStore.byteAt ⟨some (0 + 4), slots.flatMap le32⟩ i = none := if_neg (by omega)
  have hword : RespStore.byteAt ⟨some (0 + 0), le32 (UInt32.ofNat ids.length)⟩ i =
      (le32 (UInt32.ofNat ids.length))[i]? := by
    unfold RespStore.byteAt
    dsimp only
    rw [if_pos (by omega), Nat.add_zero, Nat.sub_zero]
  rw [hslots, hword]
  rfl

/-- The words lie behind the count. -/
theorem respByte_slot (ids : List UInt8) {j : Nat} {w : UInt32} (hj : slots[j]? = some w) {i : Nat}
    (hi : i < 4) :
    respByte (protocolListStores token ids slots) (sizeofScmiResponse + (4 + 4 * j + i)) =
      (le32 w)[i]? := by
  rw [protocolListStores, respByte_payload, fieldStores, List.map_cons, List.map_cons, respByte,
    respByte]
  have hbyte : RespStore.byteAt ⟨some (0 + 4), slots.flatMap le32⟩ (4 + 4 * j + i) =
      (le32 w)[i]? := by
    unfold RespStore.byteAt
    dsimp only
    rw [if_pos (by omega)]
    have hidx : 4 + 4 * j + i - (0 + 4) = 4 * j + i := by omega
    rw [hidx, getElem?_flatMap_le32 slots hi, hj]
    rfl
  obtain ⟨b, hb⟩ : ∃ b, (le32 w)[i]? = some b :=
    ⟨_, List.getElem?_eq_getElem (by rw [length_le32]; exact hi)⟩
  rw [hbyte, hb]
  rfl

/-! ## 2. The agent -/

/-- The ids in the response, as an agent reads them out of its buffer. -/
def readProtocolList (mem : Mem) (respIov : Iovec) : List UInt8 :=
  let count := (readU32 mem (respIov.iovBase + UInt64.ofNat sizeofScmiResponse)).toNat
  unpackProtocols count ((List.range ((count + 3) / 4)).map fun j =>
    readU32 mem (respIov.iovBase + UInt64.ofNat (sizeofScmiResponse + (4 + 4 * j))))

/-- **The agent reads the ids that were packed.** -/
theorem readProtocolList_answer {ids : List UInt8} (h : Packed ids slots)
    (hids : ids.length ≤ scmiMaxProtocols) (hst : ctx.stores = protocolListStores token ids slots) :
    readProtocolList (ctx.apply mem) ctx.iov = ids := by
  have hle : ids.length ≤ 16 := hids
  have hslots := h.length
  have hsize : sizeofScmiResponse = 8 := rfl
  have hwithin : ∀ st ∈ ctx.stores, st.Within 28 := by
    rw [hst]
    exact protocolListStores_within (by omega)
  have hcap : 28 ≤ 2 ^ 64 := by decide
  have hcount : readU32 (ctx.apply mem) (ctx.iov.iovBase + UInt64.ofNat sizeofScmiResponse) =
      UInt32.ofNat ids.length := by
    refine readU32_apply hcap hwithin mem (by decide) fun i hi => ?_
    rw [hst]
    exact respByte_count ids slots hi
  have hnat : (UInt32.ofNat ids.length).toNat = ids.length :=
    UInt32.toNat_ofNat_of_lt' (Nat.lt_of_le_of_lt hle (by decide))
  have hwords : (List.range ((ids.length + 3) / 4)).map (fun j =>
      readU32 (ctx.apply mem) (ctx.iov.iovBase + UInt64.ofNat (sizeofScmiResponse + (4 + 4 * j)))) =
      slots := by
    refine List.ext_getElem ?_ fun j h1 h2 => ?_
    · rw [List.length_map, List.length_range, h.length]
    · rw [List.getElem_map, List.getElem_range]
      refine readU32_apply hcap hwithin mem (by omega) fun i hi => ?_
      rw [hst, Nat.add_assoc]
      exact respByte_slot ids (List.getElem?_eq_getElem h2) hi
  unfold readProtocolList
  dsimp only
  rw [hcount, hnat, hwords]
  exact h.unpack

/-- One request of the agent: it stores `skip` behind the header, and reads the ids of the
    answer. -/
def discoverRound (dev : SCMIDev) (token : UInt16) (reqIov respIov : Iovec) (mem : Mem)
    (received : List UInt8) : List UInt8 × Mem :=
  let mem := writeBytes mem (reqIov.iovBase + UInt64.ofNat sizeofScmiRequest)
    (le32 (UInt32.ofNat received.length))
  let run := handleBaseProtocolList mem dev token reqIov (scmiRespCtxInit respIov)
  (readProtocolList (run.ctx.apply mem) respIov, run.ctx.apply mem)

/-- An agent that asks with the number of ids it has, until an answer has none. -/
def discover (dev : SCMIDev) (token : UInt16) (reqIov respIov : Iovec) :
    (fuel : Nat) → Mem → (received : List UInt8) → Option (List UInt8)
  | 0, _, _ => none
  | fuel + 1, mem, received =>
    match discoverRound dev token reqIov respIov mem received with
    | ([], _) => some received
    | (ids, mem) => discover dev token reqIov respIov fuel mem (received ++ ids)

/-- The word that the agent stores is the one the handler reads. -/
theorem payloadU32_write (mem : Mem) (reqIov : Iovec) (w : UInt32) :
    payloadU32 (writeBytes mem (reqIov.iovBase + UInt64.ofNat sizeofScmiRequest) (le32 w)) reqIov 0 =
      w := by
  refine readU32_of_bytes (List.ext_getElem ?_ fun k h1 h2 => ?_)
  · rw [readBytes_length, length_le32]
  · rw [length_le32] at h2
    simp only [readBytes, List.getElem_map, List.getElem_range, Nat.add_zero]
    have hback : (reqIov.iovBase + UInt64.ofNat sizeofScmiRequest + UInt64.ofNat k -
        (reqIov.iovBase + UInt64.ofNat sizeofScmiRequest)).toNat = k := by
      rw [UInt64.add_comm, UInt64.add_sub_cancel]
      exact UInt64.toNat_ofNat_of_lt' (Nat.lt_trans h2 (by decide))
    rw [writeBytes_apply _ _ _ _ (by rw [length_le32]; decide), hback,
      List.getElem?_eq_getElem (by rw [length_le32]; exact h2), Option.getD_some]

/-- **One round brings the ids behind those the agent has.** -/
theorem discoverRound_ids (hreq : sizeofScmiRequest + 4 ≤ reqIov.iovLen.toNat)
    (hcap : sizeofScmiResponse + sizeofProtocolList ≤ respIov.iovLen.toNat) (mem : Mem)
    {received : List UInt8} (hr : received.length ≤ scmiMaxProtocols) :
    (discoverRound dev token reqIov respIov mem received).1 =
      dev.protocolIds.drop received.length := by
  have hlen : received.length ≤ 16 := hr
  have hnat : (UInt32.ofNat received.length).toNat = received.length :=
    UInt32.toNat_ofNat_of_lt' (Nat.lt_of_le_of_lt hlen (by decide))
  have hfresh : (scmiRespCtxInit respIov).stores = [] := rfl
  obtain ⟨slots, hpacked, hanswer⟩ := protocolList_answer
    (writeBytes mem (reqIov.iovBase + UInt64.ofNat sizeofScmiRequest)
      (le32 (UInt32.ofNat received.length))) dev token hfresh hreq hcap
  rw [payloadU32_write, hnat] at hpacked hanswer
  have hids : (dev.protocolIds.drop received.length).length ≤ scmiMaxProtocols := by
    rw [List.length_drop, SCMIDev.protocolIds, List.length_map]
    exact Nat.le_trans (Nat.sub_le _ _) dev.protocolsBound
  unfold discoverRound
  dsimp only
  rw [hanswer]
  exact readProtocolList_answer hpacked hids rfl

/-- The agent has all ids behind one round, and the next one tells it so. -/
theorem discover_eq (hreq : sizeofScmiRequest + 4 ≤ reqIov.iovLen.toNat)
    (hcap : sizeofScmiResponse + sizeofProtocolList ≤ respIov.iovLen.toNat) (mem : Mem) {fuel : Nat}
    (hfuel : 2 ≤ fuel) : discover dev token reqIov respIov fuel mem [] = some dev.protocolIds := by
  obtain ⟨fuel, rfl⟩ := Nat.exists_eq_add_of_le' hfuel
  have hbound : dev.protocolIds.length ≤ scmiMaxProtocols := by
    rw [SCMIDev.protocolIds, List.length_map]
    exact dev.protocolsBound
  have hfirst : (discoverRound dev token reqIov respIov mem []).1 = dev.protocolIds :=
    discoverRound_ids hreq hcap mem (Nat.zero_le _)
  rw [discover]
  generalize discoverRound dev token reqIov respIov mem [] = round at hfirst ⊢
  obtain ⟨ids, mem'⟩ := round
  cases ids with
  | nil => exact congrArg some hfirst
  | cons id ids =>
    have hids : id :: ids = dev.protocolIds := hfirst
    have hlast : (discoverRound dev token reqIov respIov mem' dev.protocolIds).1 = [] := by
      rw [discoverRound_ids hreq hcap mem' hbound, List.drop_length]
    dsimp only
    rw [List.nil_append, hids, discover]
    generalize discoverRound dev token reqIov respIov mem' dev.protocolIds = round at hlast ⊢
    obtain ⟨ids', mem''⟩ := round
    cases hlast
    rfl

/-! ## 3. Discovery -/

/-- Registering keeps the ids distinct. -/
theorem nodup_register (h : dev.protocolIds.Nodup) (pid : UInt8)
    (handler : ScmiHandler) : (scmiDevRegisterProtocol dev pid handler).2.protocolIds.Nodup := by
  unfold scmiDevRegisterProtocol
  split
  · exact h
  split
  · exact h
  · next hnew =>
    have hout : pid ∉ dev.protocolIds := by
      intro hmem
      obtain ⟨e, he, hid⟩ := List.mem_map.mp hmem
      exact hnew (List.any_eq_true.mpr ⟨e, he, decide_eq_true hid⟩)
    show ((dev.protocols ++ [(⟨pid, handler⟩ : ScmiDevProtocolEntry)]).map (·.protocolId)).Nodup
    rw [List.map_append]
    refine List.nodup_append.mpr ⟨h, List.nodup_singleton pid, fun a ha b hb => ?_⟩
    have hpid : b = pid := List.mem_singleton.mp hb
    exact fun heq => hout ((heq.trans hpid) ▸ ha)

/-- What a run answers to a request for the ids from `skip` on: the count, the slots, and
    a length that covers them within the capacity. -/
structure ListsProtocols (dev : SCMIDev) (token : UInt16) (skip capacity : Nat) (run : ScmiRun) :
    Prop where
  ret : run.ret = 0
  slots : ∃ slots : List UInt32,
    run.ctx.stores = headerStores scmiProtoIdBase 0x6 token .success ++
      fieldStores sizeofScmiResponse
        [(0, le32 (UInt32.ofNat (dev.protocolIds.length - min skip dev.protocolIds.length))),
          (4, slots.flatMap le32)] ∧
    unpackProtocols (dev.protocolIds.length - min skip dev.protocolIds.length) slots =
      dev.protocolIds.drop skip ∧
    run.ctx.written = 8 + 4 + 4 * slots.length
  written : run.ctx.written =
    8 + 4 + 4 * ((dev.protocolIds.length - min skip dev.protocolIds.length + 3) / 4)
  fits : run.ctx.written ≤ capacity

theorem listsProtocols_answer (mem : Mem) (dev : SCMIDev) (token : UInt16)
    (hreq : sizeofScmiRequest + 4 ≤ reqIov.iovLen.toNat)
    (hcap : sizeofScmiResponse + sizeofProtocolList ≤ respIov.iovLen.toNat) :
    ListsProtocols dev token (payloadU32 mem reqIov 0).toNat respIov.iovLen.toNat
      (handleBaseProtocolList mem dev token reqIov (scmiRespCtxInit respIov)) := by
  have hfresh : (scmiRespCtxInit respIov).stores = [] := rfl
  obtain ⟨slots, hpacked, hanswer⟩ := protocolList_answer mem dev token hfresh hreq hcap
  have hcount : (dev.protocolIds.drop (payloadU32 mem reqIov 0).toNat).length =
      dev.protocolIds.length - min (payloadU32 mem reqIov 0).toNat dev.protocolIds.length := by
    rw [List.length_drop]
    omega
  have hbound : dev.protocolIds.length ≤ 16 := by
    rw [SCMIDev.protocolIds, List.length_map]
    exact dev.protocolsBound
  have hunpack := hpacked.unpack
  have hlength := hpacked.length
  have hlist : sizeofScmiResponse + sizeofProtocolList = 28 := rfl
  have hresp : sizeofScmiResponse = 8 := rfl
  rw [hcount] at hunpack hlength
  rw [hanswer]
  refine ⟨rfl, ⟨slots, ?_, hunpack, ?_⟩, ?_, ?_⟩
  · rw [← hcount]
    rfl
  · dsimp only
    omega
  · dsimp only
    omega
  · dsimp only
    omega

/-- **Protocol discovery**: every request for the list is answered with the ids from `skip`
    on, whatever `skip` is, and an agent that asks with the number of ids it has ends with
    each registered id once. -/
theorem protocol_discovery (mem : Mem) (dev : SCMIDev) (token : UInt16) (reqIov respIov : Iovec)
    (hdistinct : dev.protocolIds.Nodup)
    (hreq : sizeofScmiRequest + 4 ≤ reqIov.iovLen.toNat)
    (hcap : sizeofScmiResponse + sizeofProtocolList ≤ respIov.iovLen.toNat) :
    ListsProtocols dev token (payloadU32 mem reqIov 0).toNat respIov.iovLen.toNat
        (handleBaseProtocolList mem dev token reqIov (scmiRespCtxInit respIov)) ∧
      ∀ fuel, 2 ≤ fuel → ∃ received,
        discover dev token reqIov respIov fuel mem [] = some received ∧
          (∀ id, id ∈ received ↔ id ∈ dev.protocolIds) ∧
          ∀ id ∈ dev.protocolIds, received.count id = 1 := by
  refine ⟨listsProtocols_answer mem dev token hreq hcap, fun fuel hfuel => ?_⟩
  exact ⟨dev.protocolIds, discover_eq hreq hcap mem hfuel, fun _ => Iff.rfl,
    fun id hid => List.count_eq_one_of_mem hdistinct hid⟩

/-- A device with the base protocol and clocks. -/
def clockDevice : SCMIDev :=
  (scmiDevRegisterProtocol (scmiDevRegisterProtocol scmiDevCreate scmiProtoIdBase .base).2
    ScmiDomain.clock.protocolId (.domain .clock)).2

/-- Its two protocols are found. -/
theorem protocol_discovery_clocks :
    ∃ received, discover clockDevice 7 ⟨0x1000, 8⟩ ⟨0x2000, 28⟩ 2 (fun _ => 0) [] = some received ∧
      received.count 0x10 = 1 ∧ received.count 0x14 = 1 := by
  have hcreate : scmiDevCreate.protocolIds.Nodup := List.nodup_nil
  have hdistinct : clockDevice.protocolIds.Nodup := nodup_register (nodup_register hcreate _ _) _ _
  obtain ⟨received, hrun, -, hcount⟩ :=
    (protocol_discovery (fun _ => 0) clockDevice 7 ⟨0x1000, 8⟩ ⟨0x2000, 28⟩ hdistinct
      (by decide) (by decide)).2 2 (Nat.le_refl 2)
  exact ⟨received, hrun, hcount 0x10 (by decide), hcount 0x14 (by decide)⟩

end HvisorTool
