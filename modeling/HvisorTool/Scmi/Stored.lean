/-
  File:      HvisorTool/Scmi/Stored.lean
  Subject:   HOW MUCH OF A RESPONSE IS STORED: whether `ctx.written` counts bytes of the
             response buffer that nothing was stored to.

  Space is reserved for whole structs. The names in them are filled by `strncpy`, which
  pads, except that of a reset domain: `snprintf` stops behind the terminator.

  * `responseBytes`: the bytes of the buffer that were stored to;
  * `le_card_responseBytes_iff`: a count is covered if there is no gap below it;
  * `resetName_full_iff`: the name of a reset domain fills its field from ten digits on;
  * `written_covered_iff`: `ctx.written` is covered for every message but that one.
-/
import HvisorTool.Library.Scatter
import HvisorTool.Scmi.Responses

namespace HvisorTool

open Library

/-! ## 1. The bytes stored -/

/-- The bytes of a response buffer of `cap` bytes that were stored to. -/
def responseBytes (cap : Nat) (stores : List RespStore) : Finset BufByte :=
  (leadingBytes 0 cap).filter fun p => (respByte stores p.2).isSome = true

/-- Nothing is stored behind the room that the stores keep to. -/
theorem respByte_beyond {n i : Nat} {stores : List RespStore}
    (h : ∀ st ∈ stores, st.Within n) (hi : n ≤ i) : respByte stores i = none := by
  induction stores with
  | nil => rfl
  | cons st rest ih =>
    obtain ⟨off, hptr, hfit⟩ := h st List.mem_cons_self
    have hbyte : st.byteAt i = none := by
      unfold RespStore.byteAt
      rw [hptr]
      dsimp only
      split
      · exact List.getElem?_eq_none (by omega)
      · rfl
    rw [respByte, hbyte, ih fun st hst => h st (List.mem_cons_of_mem _ hst)]
    rfl

/-- **A count is covered exactly if there is no gap below it**, where nothing is stored
    behind it. -/
theorem le_card_responseBytes_iff {n cap : Nat} {stores : List RespStore} (hcap : n ≤ cap)
    (h : ∀ st ∈ stores, st.Within n) :
    n ≤ (responseBytes cap stores).card ↔ ∀ i < n, (respByte stores i).isSome = true := by
  constructor
  · intro hcard i hi
    by_contra hgap
    have hsub : responseBytes cap stores ⊆ (leadingBytes 0 n).erase (0, i) := by
      intro p hp
      obtain ⟨hlead, hbyte⟩ := Finset.mem_filter.mp hp
      obtain ⟨hbuf, -⟩ := mem_leadingBytes.mp hlead
      have hlt : p.2 < n := by
        by_contra hge
        rw [respByte_beyond h (Nat.not_lt.mp hge)] at hbyte
        cases hbyte
      refine Finset.mem_erase.mpr ⟨fun heq => hgap ?_, mem_leadingBytes.mpr ⟨hbuf, hlt⟩⟩
      rw [heq] at hbyte
      exact hbyte
    have hmem : (0, i) ∈ leadingBytes 0 n := mem_leadingBytes.mpr ⟨rfl, hi⟩
    have hle := Finset.card_le_card hsub
    rw [Finset.card_erase_of_mem hmem, card_leadingBytes] at hle
    omega
  · intro hall
    have hsub : leadingBytes 0 n ⊆ responseBytes cap stores := by
      intro p hp
      obtain ⟨hbuf, hlt⟩ := mem_leadingBytes.mp hp
      exact Finset.mem_filter.mpr
        ⟨mem_leadingBytes.mpr ⟨hbuf, Nat.lt_of_lt_of_le hlt hcap⟩, hall p.2 hlt⟩
    have hle := Finset.card_le_card hsub
    rw [card_leadingBytes] at hle
    exact hle

/-- Header and status are stored. -/
theorem headerStores_covered (pid mid : UInt8) (token : UInt16) (status : ScmiStatus) {i : Nat}
    (hi : i < sizeofScmiResponse) :
    (respByte (headerStores pid mid token status) i).isSome = true := by
  have hsize : sizeofScmiResponse = 8 := rfl
  by_cases hlow : i < 4
  · rw [(respByte_headerStores pid mid token status hlow).1,
      List.getElem?_eq_getElem (by rw [length_le32]; omega)]
    rfl
  · obtain ⟨j, rfl⟩ : ∃ j, i = 4 + j := ⟨i - 4, by omega⟩
    have hj : j < 4 := by omega
    rw [(respByte_headerStores pid mid token status hj).2,
      List.getElem?_eq_getElem (by rw [length_le32]; omega)]
    rfl

/-- Behind them, the payload is covered where its fields cover it. -/
theorem answer_covered_iff (pid mid : UInt8) (token : UInt16) (fields : List (Nat × List UInt8))
    (size : Nat) :
    (∀ i < sizeofScmiResponse + size, (respByte (headerStores pid mid token .success ++
        fieldStores sizeofScmiResponse fields) i).isSome = true) ↔
      ∀ i < size, (respByte (fieldStores 0 fields) i).isSome = true := by
  constructor
  · intro h i hi
    have hbyte := h (sizeofScmiResponse + i) (by omega)
    rw [respByte_payload] at hbyte
    exact hbyte
  · intro h i hi
    by_cases hlow : i < sizeofScmiResponse
    · rw [respByte_append, respByte_below hlow, Option.none_or]
      exact headerStores_covered pid mid token .success hlow
    · obtain ⟨j, rfl⟩ : ∃ j, i = sizeofScmiResponse + j := ⟨i - sizeofScmiResponse, by omega⟩
      rw [respByte_payload]
      exact h j (by omega)

/-! ## 2. The name of a reset domain -/

/-- The field has room for 14 characters, and the name has four and its digits. -/
theorem length_resetName (physId : UInt32) :
    (resetName physId).length = min 14 (4 + (Nat.toDigits 10 physId.toNat).length) + 1 := by
  unfold resetName asciiBytes
  rw [List.length_append, List.length_take, List.length_map, List.length_append]
  rfl

/-- **From ten digits on the name fills its field.** -/
theorem resetName_full_iff (physId : UInt32) :
    (resetName physId).length = 15 ↔ 10 ^ 9 ≤ physId.toNat := by
  have hdigits := Nat.length_toDigits_le_iff (n := physId.toNat) (b := 10) (k := 9) (by decide)
    (by decide)
  rw [length_resetName]
  omega

/-- The fields of `struct scmi_msg_resp_reset_attributes`, as `handle_reset_attributes`
    stores them. -/
def resetFields (physId : UInt32) : List (Nat × List UInt8) :=
  [(0, le32 0), (4, le32 100), (8, resetName physId), (23, [0])]

theorem resetFields_covered_iff (physId : UInt32) :
    (∀ i < 24, (respByte (fieldStores 0 (resetFields physId)) i).isSome = true) ↔
      10 ^ 9 ≤ physId.toNat := by
  have hlen : (resetName physId).length ≤ 15 := by
    rw [length_resetName]
    omega
  have hfront : Tiles 0 [(0, le32 0), (4, le32 100), (8, resetName physId)]
      (8 + (resetName physId).length) := by
    simp [Tiles]
  have hbyte : ∀ i, respByte (fieldStores 0 (resetFields physId)) i =
      (RespStore.byteAt ⟨some 23, [0]⟩ i).or
        (respByte (fieldStores 0 [(0, le32 0), (4, le32 100), (8, resetName physId)]) i) :=
    fun i => respByte_append
      (fieldStores 0 [(0, le32 0), (4, le32 100), (8, resetName physId)]) [⟨some 23, [0]⟩] i
  rw [← resetName_full_iff]
  constructor
  · intro h
    by_contra hshort
    -- the byte behind the terminator is in no field
    have hgap := h (8 + (resetName physId).length) (by omega)
    have hlast : RespStore.byteAt ⟨some 23, [0]⟩ (8 + (resetName physId).length) = none :=
      if_neg (by omega)
    have hwithin : ∀ st ∈ fieldStores 0 [(0, le32 0), (4, le32 100), (8, resetName physId)],
        st.Within (8 + (resetName physId).length) := by
      intro st hst
      obtain ⟨f, hf, rfl⟩ := List.mem_map.mp hst
      have hfit := hfront.fits f hf
      exact ⟨_, rfl, by dsimp only; omega⟩
    rw [hbyte, hlast, respByte_beyond hwithin (Nat.le_refl _)] at hgap
    cases hgap
  · intro hfull i hi
    rw [hbyte]
    by_cases hlast : i = 23
    · subst hlast
      rfl
    · rw [Option.isSome_or, hfront.covers (Nat.zero_le _) (by omega), Bool.or_true]

/-! ## 3. Every message -/

/-- The answer that leaves a gap: to `RESET_DOMAIN_ATTRIBUTES`, with room for it, for a
    domain of an id with at most nine digits. -/
def ShortName (dev : SCMIDev) (mem : Mem) (reqIov : Iovec) (cap : Nat) (protocolId msgId : UInt8) :
    Prop :=
  protocolId = ScmiDomain.reset.protocolId ∧ msgId = 0x3 ∧ 32 ≤ cap ∧
    ∃ physId, rstPhysId dev (payloadU32 mem reqIov 0) = some physId ∧ physId.toNat < 10 ^ 9

section Messages

variable {kernel : ScmiKernel} {mem : Mem} {dev : SCMIDev} {msgId : UInt8} {token : UInt16}
  {reqIov : Iovec} {ctx : ScmiRespCtx}

/-- `ctx.written` is covered by what was stored. -/
def ScmiRun.Covered (run : ScmiRun) : Prop :=
  ∀ i < run.ctx.written, (respByte run.ctx.stores i).isSome = true

theorem respond_covered (hnew : ctx.stores = []) (hcap : sizeofScmiResponse ≤ ctx.capacity)
    (pid mid : UInt8) (status : ScmiStatus) : (respond ctx pid mid token status).Covered := by
  rw [respond_eq hnew hcap]
  exact fun i hi => headerStores_covered pid mid token status hi

/-- The answer to `RESET_DOMAIN_ATTRIBUTES`. -/
theorem resetAttributes_covered_iff (hnew : ctx.stores = [])
    (hcap : sizeofScmiResponse ≤ ctx.capacity) (hreq : 8 ≤ reqIov.iovLen.toNat) :
    (handleDomainMessage handleResetAttributes kernel mem dev token reqIov ctx).Covered ↔
      ¬ ShortName dev mem reqIov ctx.capacity ScmiDomain.reset.protocolId 0x3 := by
  have hlong : ¬ reqIov.iovLen.toNat < sizeofScmiRequest + handleResetAttributes.payloadSize :=
    Nat.not_lt.mpr hreq
  have hphys : dev.physId handleResetAttributes.domain
      (payloadU32 mem reqIov handleResetAttributes.idOffset) =
        rstPhysId dev (payloadU32 mem reqIov 0) := rfl
  unfold handleDomainMessage
  dsimp only
  rw [if_neg hlong, hphys]
  cases hid : rstPhysId dev (payloadU32 mem reqIov 0) with
  | none =>
    refine ⟨fun _ hshort => ?_, fun _ => respond_covered hnew hcap _ _ _⟩
    obtain ⟨-, -, -, physId, hsome, -⟩ := hshort
    rw [hid] at hsome
    cases hsome
  | some physId =>
    have hrefuse : handleResetAttributes.refuse (payloadU32 mem reqIov) ctx.capacity =
        if ctx.capacity < 32 then some .errRange else none := rfl
    rw [hrefuse]
    by_cases hroom : ctx.capacity < 32
    · rw [if_pos hroom]
      refine ⟨fun _ hshort => ?_, fun _ => respond_covered hnew hcap _ _ _⟩
      exact absurd hshort.2.2.1 (Nat.not_le.mpr hroom)
    · rw [if_neg hroom]
      have hanswer : respondWith ctx ScmiDomain.reset.protocolId 0x3 token
          ⟨24, false, resetFields physId⟩ = _ :=
        respondWith_eq hnew (Nat.not_lt.mp hroom)
      have hcovered : (respondWith ctx ScmiDomain.reset.protocolId 0x3 token
          ⟨24, false, resetFields physId⟩).Covered ↔ 10 ^ 9 ≤ physId.toNat := by
        rw [hanswer, ← resetFields_covered_iff]
        exact answer_covered_iff _ _ token (resetFields physId) 24
      refine hcovered.trans ⟨fun hten hshort => ?_, fun hshort => ?_⟩
      · obtain ⟨-, -, -, physId', hsome, hlt⟩ := hshort
        rw [hid] at hsome
        cases hsome
        exact absurd hten (Nat.not_le.mpr hlt)
      · by_contra hten
        exact hshort ⟨rfl, rfl, Nat.not_lt.mp hroom, physId, hid, Nat.not_le.mp hten⟩

/-- Only one answer has a name that may end before its field. -/
theorem cString_answer {pid mid : UInt8} {size start : Nat}
    (h : answerLayout pid mid = some (.cString size start)) :
    pid = ScmiDomain.reset.protocolId ∧ mid = 0x3 := by
  unfold answerLayout at h
  split at h <;> first
    | cases h; done
    | next hpid hmid => exact ⟨UInt8.toNat_inj.mp hpid, UInt8.toNat_inj.mp hmid⟩

/-- Every other answer is covered. -/
theorem ScmiShape.covered {enough noEntry : Prop} {pid mid : UInt8} {run : ScmiRun}
    (h : ScmiShape enough noEntry kernel ctx pid mid token run) (hret : run.ret = 0)
    (hother : ¬ (pid = ScmiDomain.reset.protocolId ∧ mid = 0x3)) : run.Covered := by
  cases h with
  | failed _ _ hbad _ => exact absurd hret hbad
  | refused _ _ _ status _ _ _ hst hw =>
    intro i hi
    rw [hw] at hi
    rw [hst]
    exact headerStores_covered pid mid token status hi
  | answered _ _ _ size fields _ hst hw _ l hl hcomplete _ =>
    have hall : ∀ i < size, (respByte (fieldStores 0 fields) i).isSome = true := by
      cases l with
      | struct n =>
        obtain ⟨rfl, hbytes⟩ := hcomplete
        exact hbytes
      | cString n start => exact absurd (cString_answer hl) hother
      | protocolList =>
        obtain ⟨count, -, -, -, hbytes⟩ := hcomplete
        exact hbytes
    intro i hi
    rw [hw] at hi
    rw [hst]
    exact (answer_covered_iff pid mid token fields size).mpr hall i hi

/-- `ctx.written` is inside the buffer, and nothing is stored behind it. -/
theorem ScmiShape.bounds {enough noEntry : Prop} {pid mid : UInt8} {run : ScmiRun}
    (h : ScmiShape enough noEntry kernel ctx pid mid token run) (hret : run.ret = 0) :
    run.ctx.written ≤ ctx.capacity ∧ ∀ st ∈ run.ctx.stores, st.Within run.ctx.written := by
  cases h with
  | failed _ _ hbad _ => exact absurd hret hbad
  | refused _ _ _ status _ hcap _ hst hw =>
    rw [hst, hw]
    exact ⟨hcap, headerStores_within (Nat.le_refl _)⟩
  | answered _ _ _ size fields hcap hst hw hfits l _ _ _ =>
    rw [hst, hw]
    refine ⟨hcap, fun st hmem => ?_⟩
    rcases List.mem_append.mp hmem with hhead | hfield
    · exact headerStores_within (Nat.le_add_right _ _) st hhead
    · obtain ⟨f, hf, rfl⟩ := List.mem_map.mp hfield
      have hfit := hfits f hf
      exact ⟨_, rfl, by dsimp only; omega⟩

end Messages

/-- `RESET_DOMAIN_ATTRIBUTES` comes to its handler, unless an error code is returned. -/
theorem resetAttributes_run {dev : SCMIDev} (hm : dev.Matched) {kernel : ScmiKernel} {mem : Mem}
    {token : UInt16} {reqIov : Iovec} {ctx : ScmiRespCtx}
    (hret : (scmiHandleMessage kernel mem dev 0x3 token reqIov ctx
      ScmiDomain.reset.protocolId).ret = 0) :
    sizeofScmiResponse ≤ ctx.capacity ∧
      scmiHandleMessage kernel mem dev 0x3 token reqIov ctx ScmiDomain.reset.protocolId =
        handleDomainMessage handleResetAttributes kernel mem dev token reqIov ctx := by
  unfold scmiHandleMessage at hret ⊢
  cases hfind : dev.protocols.find? (·.protocolId = ScmiDomain.reset.protocolId) with
  | none =>
    rw [hfind] at hret
    cases hret
  | some e =>
    rw [hfind] at hret
    dsimp only at hret ⊢
    have hpid : e.handler.protocolId = ScmiDomain.reset.protocolId := by
      rw [← hm e (List.mem_of_find?_eq_some hfind)]
      simpa using List.find?_some hfind
    have hhandler : e.handler = .domain .reset := by
      cases hh : e.handler with
      | base =>
        rw [hh] at hpid
        cases hpid
      | domain d =>
        rw [hh] at hpid
        cases d with
        | clock | power => cases hpid
        | reset => rfl
    rw [hhandler] at hret ⊢
    change (checkedResponse ctx _).ret = 0 at hret
    change _ ∧ checkedResponse ctx _ = _
    unfold checkedResponse at hret ⊢
    split at hret
    · cases hret
    · next hgood =>
      rw [if_neg hgood]
      exact ⟨Nat.not_lt.mp fun hlt => hgood (.inl hlt), rfl⟩

/-- **`ctx.written` counts bytes that were stored, for every message but one**: the answer
    with the name of a reset domain, where that is shorter than its field. -/
theorem written_covered_iff {dev : SCMIDev} (hm : dev.Matched) (kernel : ScmiKernel) (mem : Mem)
    (pid mid : UInt8) (token : UInt16) (reqIov respIov : Iovec)
    (hret : (scmiHandleMessage kernel mem dev mid token reqIov (scmiRespCtxInit respIov) pid).ret =
      0) :
    (scmiHandleMessage kernel mem dev mid token reqIov (scmiRespCtxInit respIov) pid).ctx.written ≤
        (responseBytes respIov.iovLen.toNat (scmiHandleMessage kernel mem dev mid token reqIov
          (scmiRespCtxInit respIov) pid).ctx.stores).card ↔
      ¬ ShortName dev mem reqIov respIov.iovLen.toNat pid mid := by
  have hnew : (scmiRespCtxInit respIov).stores = [] := rfl
  have hshape : ScmiShape _ _ kernel (scmiRespCtxInit respIov) pid mid token
      (scmiHandleMessage kernel mem dev mid token reqIov (scmiRespCtxInit respIov) pid) :=
    scmiHandleMessage_shape hm hnew pid
  obtain ⟨hcap, hwithin⟩ := hshape.bounds hret
  refine (le_card_responseBytes_iff hcap hwithin).trans ?_
  by_cases hreset : pid = ScmiDomain.reset.protocolId ∧ mid = 0x3
  · obtain ⟨rfl, rfl⟩ := hreset
    obtain ⟨hleast, hrun⟩ := resetAttributes_run hm hret
    have hreq : 8 ≤ reqIov.iovLen.toNat := (hshape.response hret).1.2.2.1
    rw [hrun]
    exact resetAttributes_covered_iff hnew hleast hreq
  · exact ⟨fun _ hshort => hreset ⟨hshort.1, hshort.2.1⟩, fun _ => hshape.covered hret hreset⟩

end HvisorTool
