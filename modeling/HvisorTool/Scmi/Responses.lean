/-
  File:      HvisorTool/Scmi/Responses.lean
  Subject:   THE RESPONSES OF THE SCMI PROTOCOLS: which bytes a handler leaves in the
             response buffer, for every message, capacity and answer of the kernel.

  A handler fails with a code of its own, refuses with a status, or answers with a status
  and a payload. `ScmiShape` says so once; one lemma for each family shows it, and the
  dispatch collects them.

  * `respByte`: the byte at an offset of a response, from the stores made;
  * `scmiMsgHeader_build`: the header that is built decodes to what was put in;
  * `answerLayout`: the payloads of the answers; `Tiles`: fields without gap or overlap;
  * `answerSizes`: the sizes below which a message is not answered at all;
  * `scmiHandleMessage_shape`: every message of every protocol;
  * `scmi_responses_well_formed`: what a guest finds in the buffer.
-/
import Mathlib.Data.List.Induction
import HvisorTool.Scmi.AllowList
import HvisorTool.Scmi.ProtocolList

namespace HvisorTool

open Library

/-! ## 1. The bytes of a response -/

/-- The byte that a store puts at an offset. -/
def RespStore.byteAt (st : RespStore) (i : Nat) : Option UInt8 :=
  match st.ptr with
  | none => none
  | some off => if off ≤ i then st.bytes[i - off]? else none

/-- The byte at an offset behind all stores: that of the last one which reaches it. -/
def respByte : List RespStore → Nat → Option UInt8
  | [], _ => none
  | st :: rest, i => (respByte rest i).or (st.byteAt i)

/-- A store through a pointer into the first `cap` bytes of the buffer. -/
def RespStore.Within (cap : Nat) (st : RespStore) : Prop :=
  ∃ off, st.ptr = some off ∧ off + st.bytes.length ≤ cap

/-- The stores of the fields of a struct. -/
def fieldStores (base : Nat) (fields : List (Nat × List UInt8)) : List RespStore :=
  fields.map fun f => ⟨some (base + f.1), f.2⟩

theorem respByte_append (a b : List RespStore) (i : Nat) :
    respByte (a ++ b) i = (respByte b i).or (respByte a i) := by
  induction a with
  | nil => exact (Option.or_none).symm
  | cons st a ih => rw [List.cons_append, respByte, respByte, ih, Option.or_assoc]

variable {i a e cap : Nat} {fields : List (Nat × List UInt8)} {token : UInt16} {pid mid : UInt8}
  {status : ScmiStatus} {kernel : ScmiKernel} {reqIov : Iovec} {ctx : ScmiRespCtx}
  {run : ScmiRun} {enough noEntry : Prop}

theorem respByte_below {base : Nat} (h : i < base) (fields : List (Nat × List UInt8)) :
    respByte (fieldStores base fields) i = none := by
  induction fields with
  | nil => rfl
  | cons f fields ih =>
    have hout : ¬ base + f.1 ≤ i := by omega
    have hbyte : RespStore.byteAt ⟨some (base + f.1), f.2⟩ i = none := if_neg hout
    rw [fieldStores, List.map_cons, respByte, hbyte, Option.or_none]
    exact ih

/-- The bytes of a struct do not depend on where it lies. -/
theorem respByte_shift (base i : Nat) (fields : List (Nat × List UInt8)) :
    respByte (fieldStores base fields) (base + i) = respByte (fieldStores 0 fields) i := by
  induction fields with
  | nil => rfl
  | cons f fields ih =>
    have hbyte : RespStore.byteAt ⟨some (base + f.1), f.2⟩ (base + i) =
        RespStore.byteAt ⟨some (0 + f.1), f.2⟩ i := by
      unfold RespStore.byteAt
      dsimp only
      rw [Nat.zero_add, Nat.add_sub_add_left]
      by_cases hle : f.1 ≤ i
      · rw [if_pos hle, if_pos (Nat.add_le_add_left hle base)]
      · rw [if_neg hle, if_neg (by omega)]
    rw [fieldStores, fieldStores, List.map_cons, List.map_cons, respByte, respByte, hbyte]
    exact congrArg (fun b => Option.or b (RespStore.byteAt ⟨some (0 + f.1), f.2⟩ i)) ih

/-! ## 2. Fields of a struct -/

/-- Fields that follow one another from `a` to `e`, without gap or overlap. -/
def Tiles : Nat → List (Nat × List UInt8) → Nat → Prop
  | a, [], e => a = e
  | a, f :: rest, e => f.1 = a ∧ Tiles (a + f.2.length) rest e

theorem Tiles.le (h : Tiles a fields e) : a ≤ e := by
  induction fields generalizing a with
  | nil => exact Nat.le_of_eq h
  | cons f fields ih => exact Nat.le_trans (Nat.le_add_right _ _) (ih h.2)

/-- No field reaches beyond the end. -/
theorem Tiles.fits (h : Tiles a fields e) : ∀ f ∈ fields, f.1 + f.2.length ≤ e := by
  induction fields generalizing a with
  | nil => exact fun f hf => absurd hf List.not_mem_nil
  | cons f₀ fields ih =>
    intro f hf
    rcases List.mem_cons.mp hf with rfl | hf
    · rw [h.1]
      exact h.2.le
    · exact ih h.2 f hf

/-- Every byte of the struct is stored. -/
theorem Tiles.covers (h : Tiles a fields e)
    (ha : a ≤ i) (he : i < e) : (respByte (fieldStores 0 fields) i).isSome = true := by
  induction fields generalizing a with
  | nil =>
    have hae : a = e := h
    omega
  | cons f fields ih =>
    rw [fieldStores, List.map_cons, respByte, Option.isSome_or, Bool.or_eq_true]
    by_cases hi : a + f.2.length ≤ i
    · exact .inl (ih h.2 hi)
    · have hoff : 0 + f.1 ≤ i := by
        rw [h.1]
        omega
      have hlt : i - (0 + f.1) < f.2.length := by
        rw [h.1]
        omega
      have hbyte : RespStore.byteAt ⟨some (0 + f.1), f.2⟩ i = f.2[i - (0 + f.1)]? := if_pos hoff
      rw [hbyte, List.getElem?_eq_getElem hlt]
      exact .inr rfl

@[simp] theorem length_le16 (x : UInt16) : (le16 x).length = 2 := by simp [le16]

@[simp] theorem length_le32 (x : UInt32) : (le32 x).length = 4 := by simp [le32]

@[simp] theorem length_le64 (x : UInt64) : (le64 x).length = 8 := by simp [le64]

@[simp] theorem length_strncpy (n : Nat) (src : List UInt8) : (strncpy n src).length = n := by
  have htext : ((src.takeWhile (· ≠ 0)).take n).length ≤ n := List.length_take_le _ _
  unfold strncpy
  dsimp only
  rw [List.length_append, List.length_replicate]
  omega

theorem length_flatMap_le32 (ws : List UInt32) : (ws.flatMap le32).length = 4 * ws.length := by
  induction ws with
  | nil => rfl
  | cons w ws ih =>
    rw [List.flatMap_cons, List.length_append, length_le32, ih, List.length_cons]
    omega

/-! ## 3. The header -/

/-- The stores of `scmi_make_response`. -/
def headerStores (protocolId msgId : UInt8) (token : UInt16) (status : ScmiStatus) :
    List RespStore :=
  fieldStores 0 [(0, le32 (scmiBuildHeader protocolId msgId token)),
    (4, le32 (UInt32.ofInt status.code))]

theorem toNat_scmiBuildHeader (protocolId msgId : UInt8) (token : UInt16) :
    (scmiBuildHeader protocolId msgId token).toNat =
      msgId.toNat + 2 ^ 10 * protocolId.toNat + 2 ^ 18 * (token.toNat % 2 ^ 10) := by
  have hm := msgId.toNat_lt
  have hp := protocolId.toNat_lt
  have htoken : (token.toUInt32 &&& 0x3FF).toNat = token.toNat % 2 ^ 10 := by
    rw [UInt32.toNat_and, UInt16.toNat_toUInt32]
    exact Nat.and_two_pow_sub_one_eq_mod _ 10
  have hps : (protocolId.toUInt32 <<< 10).toNat = protocolId.toNat <<< 10 := by
    rw [UInt32.toNat_shiftLeft, UInt8.toNat_toUInt32]
    refine Nat.mod_eq_of_lt ?_
    rw [Nat.shiftLeft_eq]
    change protocolId.toNat * 2 ^ 10 < 2 ^ 32
    omega
  have hts : ((token.toUInt32 &&& 0x3FF) <<< 18).toNat = (token.toNat % 2 ^ 10) <<< 18 := by
    rw [UInt32.toNat_shiftLeft, htoken]
    refine Nat.mod_eq_of_lt ?_
    rw [Nat.shiftLeft_eq]
    change token.toNat % 2 ^ 10 * 2 ^ 18 < 2 ^ 32
    omega
  have hlow : msgId.toNat < 2 ^ 10 := by omega
  have hmid : msgId.toNat ||| protocolId.toNat <<< 10 = protocolId.toNat * 2 ^ 10 + msgId.toNat := by
    rw [Nat.or_comm, ← Nat.shiftLeft_add_eq_or_of_lt hlow, Nat.shiftLeft_eq]
  have hmidlt : protocolId.toNat * 2 ^ 10 + msgId.toNat < 2 ^ 18 := by omega
  unfold scmiBuildHeader
  rw [UInt32.toNat_or, UInt32.toNat_or, hts, hps, UInt8.toNat_toUInt32, hmid, Nat.or_comm,
    ← Nat.shiftLeft_add_eq_or_of_lt hmidlt, Nat.shiftLeft_eq]
  omega

/-- **The header decodes to what was put in**: type `SCMI_MSG_TYPE_COMMAND`, the reserved
    bits 0, and the ids and the token of the request. -/
theorem scmiMsgHeader_build (protocolId msgId : UInt8) (htoken : token.toNat < 2 ^ 10) :
    scmiMsgHeader (scmiBuildHeader protocolId msgId token) =
        ⟨msgId.toUInt32, 0, protocolId.toUInt32, token.toUInt32⟩ ∧
      scmiBuildHeader protocolId msgId token >>> 28 = 0 := by
  have hm := msgId.toNat_lt
  have hp := protocolId.toNat_lt
  have hword := toNat_scmiBuildHeader protocolId msgId token
  have h8 : ∀ x : Nat, x &&& 255 = x % 2 ^ 8 := fun x => Nat.and_two_pow_sub_one_eq_mod x 8
  have h2 : ∀ x : Nat, x &&& 3 = x % 2 ^ 2 := fun x => Nat.and_two_pow_sub_one_eq_mod x 2
  have h10 : ∀ x : Nat, x &&& 1023 = x % 2 ^ 10 := fun x => Nat.and_two_pow_sub_one_eq_mod x 10
  have hfields : ∀ {w : UInt32} {x y z v : UInt32}, (w &&& 0xFF) = x →
      ((w >>> 8) &&& 0x3) = y → ((w >>> 10) &&& 0xFF) = z → ((w >>> 18) &&& 0x3FF) = v →
      scmiMsgHeader w = ⟨x, y, z, v⟩ := by
    intro w x y z v hx hy hz hv
    rw [scmiMsgHeader, hx, hy, hz, hv]
  refine ⟨hfields ?_ ?_ ?_ ?_, ?_⟩ <;> refine UInt32.toNat_inj.mp ?_
  · rw [UInt32.toNat_and, UInt8.toNat_toUInt32, hword]
    simp only [UInt32.reduceToNat, h8]
    omega
  · rw [UInt32.toNat_and, UInt32.toNat_shiftRight, hword]
    simp only [UInt32.reduceToNat, h2, Nat.shiftRight_eq_div_pow, Nat.reduceMod]
    omega
  · rw [UInt32.toNat_and, UInt32.toNat_shiftRight, UInt8.toNat_toUInt32, hword]
    simp only [UInt32.reduceToNat, h8, Nat.shiftRight_eq_div_pow, Nat.reduceMod]
    omega
  · rw [UInt32.toNat_and, UInt32.toNat_shiftRight, UInt16.toNat_toUInt32, hword]
    simp only [UInt32.reduceToNat, h10, Nat.shiftRight_eq_div_pow, Nat.reduceMod]
    omega
  · rw [UInt32.toNat_shiftRight, hword]
    simp only [UInt32.reduceToNat, Nat.shiftRight_eq_div_pow, Nat.reduceMod]
    omega

/-! ## 4. What a message is answered with -/

/-- The payload of an answer: a struct of a fixed size, one that ends in a C string from
    an offset on, or the list of protocols, as long as its count says. -/
inductive AnswerLayout where
  | struct (size : Nat)
  | cString (size start : Nat)
  | protocolList
  deriving DecidableEq, Repr

/-- A payload of `size` bytes is complete. Of a C string, what stands behind its
    terminator may be left as it was. -/
def AnswerLayout.Complete (byte : Nat → Option UInt8) (size : Nat) : AnswerLayout → Prop
  | .struct n => size = n ∧ ∀ i < n, (byte i).isSome = true
  | .cString n start =>
    size = n ∧ ∀ i < n, (byte i).isSome = true ∨ ∃ j, start ≤ j ∧ j < i ∧ byte j = some 0
  | .protocolList =>
    ∃ count : UInt32, count.toNat ≤ scmiMaxProtocols ∧ (∀ i < 4, byte i = (le32 count)[i]?) ∧
      size = 4 + 4 * ((count.toNat + 3) / 4) ∧ ∀ i < size, (byte i).isSome = true

/-- The size of a payload; of the list of protocols, the size at most. -/
def AnswerLayout.size : AnswerLayout → Nat
  | .struct n => n
  | .cString n _ => n
  | .protocolList => sizeofProtocolList

theorem AnswerLayout.Complete.size_le {byte : Nat → Option UInt8} {size : Nat} {l : AnswerLayout}
    (h : l.Complete byte size) : size ≤ l.size := by
  cases l with
  | struct n | cString n start => exact Nat.le_of_eq h.1
  | protocolList =>
    obtain ⟨count, hcount, -, hsize, -⟩ := h
    have hmax : count.toNat ≤ 16 := hcount
    have hlist : AnswerLayout.protocolList.size = 20 := rfl
    omega

/-- The payloads of the answers, by protocol and message. -/
def answerLayout (protocolId msgId : UInt8) : Option AnswerLayout :=
  match protocolId.toNat, msgId.toNat with
  -- base: version, attributes, vendor, sub-vendor, version, protocols, agent, errors
  | 0x10, 0x0 => some (.struct 4)
  | 0x10, 0x1 => some (.struct 4)
  | 0x10, 0x3 => some (.struct 16)
  | 0x10, 0x4 => some (.struct 16)
  | 0x10, 0x5 => some (.struct 4)
  | 0x10, 0x6 => some .protocolList
  | 0x10, 0x7 => some (.struct 16)
  | 0x10, 0x8 => some (.struct 0)
  -- clock: version, attributes, clock, rates, rate set and get, config set and get, name
  | 0x14, 0x0 => some (.struct 4)
  | 0x14, 0x1 => some (.struct 4)
  | 0x14, 0x3 => some (.struct 20)
  | 0x14, 0x4 => some (.struct 28)
  | 0x14, 0x5 => some (.struct 0)
  | 0x14, 0x6 => some (.struct 8)
  | 0x14, 0x7 => some (.struct 0)
  | 0x14, 0x8 => some (.struct 12)
  | 0x14, 0x9 => some (.struct 68)
  -- power: version, attributes, domain, state set and get
  | 0x11, 0x0 => some (.struct 4)
  | 0x11, 0x1 => some (.struct 4)
  | 0x11, 0x3 => some (.struct 20)
  | 0x11, 0x4 => some (.struct 0)
  | 0x11, 0x5 => some (.struct 4)
  -- reset: version, attributes, domain, reset
  | 0x16, 0x0 => some (.struct 4)
  | 0x16, 0x1 => some (.struct 4)
  | 0x16, 0x3 => some (.cString 24 8)
  | 0x16, 0x4 => some (.struct 0)
  | _, _ => none

/-- The size of the payload of a message's answer. -/
def answerSize (protocolId msgId : UInt8) : Nat :=
  match answerLayout protocolId msgId with
  | some l => l.size
  | none => 0

theorem answerSize_eq {l : AnswerLayout} (h : answerLayout pid mid = some l) :
    answerSize pid mid = l.size := by
  rw [answerSize, h]

/-- The sizes of request and response below which a handler of the base protocol returns
    an error code and leaves no answer; `none` where it does not know the message. -/
def baseSizes : Nat → Option (Nat × Nat)
  | 0x0 | 0x1 | 0x5 => some (4, 12)
  | 0x3 | 0x4 => some (4, 24)
  -- the list of protocols is checked for 16 bytes; reserved are 20 behind the header
  | 0x6 => some (8, 28)
  | 0x7 => some (8, 24)
  | 0x8 => some (8, 8)
  | _ => none

/-- The same for the clock protocol. -/
def clockSizes : Nat → Option (Nat × Nat)
  | 0x0 | 0x1 => some (4, 12)
  | 0x3 | 0x6 | 0x9 => some (8, 8)
  | 0x4 | 0x7 | 0x8 => some (12, 8)
  | 0x5 => some (20, 8)
  | _ => none

/-- The same for the power protocol. -/
def powerSizes : Nat → Option (Nat × Nat)
  | 0x0 | 0x1 => some (4, 12)
  | 0x2 | 0x6 => some (0, 8)
  | 0x3 | 0x5 => some (8, 8)
  | 0x4 => some (16, 8)
  | _ => none

/-- The same for the reset protocol. -/
def resetSizes : Nat → Option (Nat × Nat)
  | 0x0 | 0x1 => some (4, 12)
  | 0x3 => some (8, 8)
  | 0x4 => some (16, 8)
  | 0x5 => some (0, 8)
  | _ => none

/-- The sizes, by protocol and message. -/
def answerSizes (protocolId msgId : UInt8) : Option (Nat × Nat) :=
  match protocolId.toNat with
  | 0x10 => baseSizes msgId.toNat
  | 0x11 => powerSizes msgId.toNat
  | 0x14 => clockSizes msgId.toNat
  | 0x16 => resetSizes msgId.toNat
  | _ => none

/-- The message is known and its buffers are large enough to be answered. -/
def Enough (protocolId msgId : UInt8) (reqLen cap : Nat) : Prop :=
  match answerSizes protocolId msgId with
  | some (req, resp) => req ≤ reqLen ∧ resp ≤ cap
  | none => False

/-- The response has room for the payload of the answer, or the status says that it has
    not, or that there is no entry. -/
def Refusal (cap : Nat) (protocolId msgId : UInt8) (noEntry : Prop) (status : ScmiStatus) : Prop :=
  sizeofScmiResponse + answerSize protocolId msgId ≤ cap ∨ status = .errParams ∨
    status = .errRange ∨ (status = .errEntry ∧ noEntry)

theorem Refusal.mono {n n' : Prop}
    (h : Refusal cap pid mid n status) (hn : n → n') : Refusal cap pid mid n' status :=
  h.imp id (Or.imp id (Or.imp id (And.imp_right hn)))

/-- **What handling a message comes to**: an error code where the buffers are not enough,
    else a response, that refuses with a negative status and no payload, or answers with
    `SCMI_SUCCESS`, the complete payload and an ioctl that succeeded, if any. A refusal
    for want of room says so, unless there is `noEntry` at the index of the message. -/
inductive ScmiShape (enough noEntry : Prop) (kernel : ScmiKernel) (ctx : ScmiRespCtx)
    (protocolId msgId : UInt8) (token : UInt16) : ScmiRun → Prop where
  | failed {run : ScmiRun} (hnot : ¬ enough) (hiov : run.ctx.iov = ctx.iov) (hret : run.ret ≠ 0)
      (hst : ∀ st ∈ run.ctx.stores, st.Within ctx.capacity) :
      ScmiShape enough noEntry kernel ctx protocolId msgId token run
  | refused {run : ScmiRun} (henough : enough) (hiov : run.ctx.iov = ctx.iov) (hret : run.ret = 0)
      (status : ScmiStatus) (hneg : status.code < 0) (hcap : sizeofScmiResponse ≤ ctx.capacity)
      (hwhy : Refusal ctx.capacity protocolId msgId noEntry status)
      (hst : run.ctx.stores = headerStores protocolId msgId token status)
      (hw : run.ctx.written = sizeofScmiResponse) :
      ScmiShape enough noEntry kernel ctx protocolId msgId token run
  | answered {run : ScmiRun} (henough : enough) (hiov : run.ctx.iov = ctx.iov) (hret : run.ret = 0)
      (size : Nat) (fields : List (Nat × List UInt8))
      (hcap : sizeofScmiResponse + size ≤ ctx.capacity)
      (hst : run.ctx.stores = headerStores protocolId msgId token .success ++
        fieldStores sizeofScmiResponse fields)
      (hw : run.ctx.written = sizeofScmiResponse + size)
      (hfits : ∀ f ∈ fields, f.1 + f.2.length ≤ size) (l : AnswerLayout)
      (hl : answerLayout protocolId msgId = some l)
      (hcomplete : l.Complete (respByte (fieldStores 0 fields)) size)
      (hio : ∀ io ∈ run.ioctls, (kernel io).isSome = true) :
      ScmiShape enough noEntry kernel ctx protocolId msgId token run

theorem ScmiShape.congr {p q n n' : Prop} (h : ScmiShape p n kernel ctx pid mid token run)
    (hpq : p ↔ q) (hn : n → n') : ScmiShape q n' kernel ctx pid mid token run := by
  cases h with
  | failed hnot hiov hret hst => exact .failed (fun hq => hnot (hpq.mpr hq)) hiov hret hst
  | refused henough hiov hret status hneg hcap hwhy hst hw =>
    exact .refused (hpq.mp henough) hiov hret status hneg hcap (hwhy.mono hn) hst hw
  | answered henough hiov hret size fields hcap hst hw hfits l hl hcomplete hio =>
    exact .answered (hpq.mp henough) hiov hret size fields hcap hst hw hfits l hl hcomplete hio

/-! ## 5. The families -/

section Families

theorem makeResponse_eq (hnew : ctx.stores = []) (hcap : sizeofScmiResponse ≤ ctx.capacity)
    (status : ScmiStatus) :
    scmiMakeResponse ctx pid mid token status =
      (0, { ctx with
            written := sizeofScmiResponse, stores := headerStores pid mid token status }) := by
  unfold scmiMakeResponse ScmiRespCtx.store
  rw [if_neg (Nat.not_lt.mpr hcap), hnew]
  rfl

theorem respond_eq (hnew : ctx.stores = []) (hcap : sizeofScmiResponse ≤ ctx.capacity)
    (status : ScmiStatus) :
    respond ctx pid mid token status =
      ⟨0, { ctx with
            written := sizeofScmiResponse, stores := headerStores pid mid token status }, []⟩ := by
  unfold respond
  rw [makeResponse_eq hnew hcap]

variable {p : RespPayload}

theorem respondWith_eq (hnew : ctx.stores = [])
    (hcap : sizeofScmiResponse + p.size ≤ ctx.capacity) :
    respondWith ctx pid mid token p =
      ⟨0, { ctx with
            written := sizeofScmiResponse + p.size
            stores := headerStores pid mid token .success ++
              fieldStores sizeofScmiResponse p.fields }, []⟩ := by
  have hhead : sizeofScmiResponse ≤ ctx.capacity := Nat.le_trans (Nat.le_add_right _ _) hcap
  unfold respondWith
  rw [makeResponse_eq hnew hhead]
  dsimp only
  unfold scmiRespWrite
  rw [if_neg (Nat.not_lt.mpr hcap)]
  dsimp only
  rw [if_neg (fun h => Option.some_ne_none _ h.2)]
  rfl

/-- A payload that is complete for a message. -/
structure RespPayload.Answers (p : RespPayload) (pid mid : UInt8) : Prop where
  fits : ∀ f ∈ p.fields, f.1 + f.2.length ≤ p.size
  complete : ∃ l, answerLayout pid mid = some l ∧
    l.Complete (respByte (fieldStores 0 p.fields)) p.size

/-- Fields that tile the struct of the message. -/
theorem RespPayload.answers_of_tiles (h : Tiles 0 p.fields p.size)
    (hl : answerLayout pid mid = some (.struct p.size)) : p.Answers pid mid :=
  ⟨h.fits, _, hl, rfl, fun _ hi => h.covers (Nat.zero_le _) hi⟩

/-- An answer with the payload of the message. -/
theorem respondWith_shape (henough : enough) (hnew : ctx.stores = []) (hp : p.Answers pid mid)
    (hcap : sizeofScmiResponse + p.size ≤ ctx.capacity) (token : UInt16) {ios : List ScmiIoctl}
    (hio : ∀ io ∈ ios, (kernel io).isSome = true) :
    ScmiShape enough noEntry kernel ctx pid mid token
      { respondWith ctx pid mid token p with ioctls := ios } := by
  obtain ⟨l, hl, hcomplete⟩ := hp.complete
  rw [respondWith_eq hnew hcap]
  exact .answered henough rfl rfl p.size p.fields hcap rfl rfl hp.fits l hl hcomplete hio

/-- The same, without an ioctl. -/
theorem respondWith_shape_quiet (henough : enough) (hnew : ctx.stores = []) (hp : p.Answers pid mid)
    (hcap : sizeofScmiResponse + p.size ≤ ctx.capacity) :
    ScmiShape enough noEntry kernel ctx pid mid token (respondWith ctx pid mid token p) := by
  have hshape : ScmiShape enough noEntry kernel ctx pid mid token
      { respondWith ctx pid mid token p with ioctls := [] } :=
    respondWith_shape henough hnew hp hcap token (fun io hio => absurd hio List.not_mem_nil)
  rw [respondWith_eq hnew hcap] at hshape ⊢
  exact hshape

/-- An answer without a payload. -/
theorem respond_success_shape (henough : enough) (hnew : ctx.stores = [])
    (hp : RespPayload.Answers ⟨0, false, []⟩ pid mid) (hcap : sizeofScmiResponse ≤ ctx.capacity)
    (token : UInt16) {ios : List ScmiIoctl} (hio : ∀ io ∈ ios, (kernel io).isSome = true) :
    ScmiShape enough noEntry kernel ctx pid mid token
      { respond ctx pid mid token .success with ioctls := ios } := by
  have hshape : ScmiShape enough noEntry kernel ctx pid mid token
      { respondWith ctx pid mid token ⟨0, false, []⟩ with ioctls := ios } :=
    respondWith_shape henough hnew hp hcap token hio
  rw [respondWith_eq (p := ⟨0, false, []⟩) hnew hcap] at hshape
  rw [respond_eq hnew hcap]
  simpa only [fieldStores, List.map_nil, List.append_nil, Nat.add_zero] using hshape

/-- A response of a negative status. -/
theorem respond_shape (henough : enough) (hnew : ctx.stores = [])
    (hcap : sizeofScmiResponse ≤ ctx.capacity) (hneg : status.code < 0)
    (hwhy : Refusal ctx.capacity pid mid noEntry status) (ios : List ScmiIoctl) :
    ScmiShape enough noEntry kernel ctx pid mid token
      { respond ctx pid mid token status with ioctls := ios } := by
  rw [respond_eq hnew hcap]
  exact .refused henough rfl rfl status hneg hcap hwhy rfl rfl

/-- A return code, with nothing stored. -/
theorem failed_shape (hnot : ¬ enough) (hnew : ctx.stores = []) (hstatus : status ≠ .success) :
    ScmiShape enough noEntry kernel ctx pid mid token ⟨status.code, ctx, []⟩ := by
  have hcode : status.code ≠ 0 := by
    cases status with
    | success => exact absurd rfl hstatus
    | errSupport | errParams | errEntry | errRange | errGeneric => decide
  refine .failed hnot rfl hcode (fun st hst => ?_)
  rw [hnew] at hst
  exact absurd hst List.not_mem_nil

theorem validateRequest_eq (reqSize minReq respSize minResp : Nat) :
    scmiValidateRequest reqSize minReq respSize minResp =
      if minReq ≤ reqSize ∧ minResp ≤ respSize then .success else .errParams := by
  unfold scmiValidateRequest
  by_cases h1 : reqSize < minReq
  · rw [if_pos h1, if_neg (by omega)]
  · by_cases h2 : respSize < minResp
    · rw [if_neg h1, if_pos h2, if_neg (by omega)]
    · rw [if_neg h1, if_neg h2, if_pos (by omega)]

/-- **A query.** -/
theorem handleQuery_shape (hnew : ctx.stores = []) (hp : p.Answers pid mid) :
    ScmiShape (sizeofScmiRequest ≤ reqIov.iovLen.toNat ∧
        sizeofScmiResponse + p.size ≤ ctx.capacity) noEntry kernel ctx pid mid token
      (handleQuery pid mid p token reqIov ctx) := by
  unfold handleQuery
  rw [validateRequest_eq]
  dsimp only
  by_cases h : sizeofScmiRequest ≤ reqIov.iovLen.toNat ∧ sizeofScmiResponse + p.size ≤ ctx.capacity
  · rw [if_pos h, if_neg (fun hne => hne rfl)]
    exact respondWith_shape_quiet h hnew hp h.2
  · rw [if_neg h, if_pos (by decide)]
    exact failed_shape h hnew (by decide)

/-- The payloads that an action can answer with. -/
def DomainAction.Replies : DomainAction → RespPayload → Prop
  | .here reply, p => ∃ physId, p = reply physId
  | .kernel _ _ none, p => p = ⟨0, false, []⟩
  | .kernel _ _ (some reply), p => ∃ r, p = reply r

/-- The size of the payload of a message's answer. -/
def DomainMessage.answerSize (m : DomainMessage) : Nat :=
  HvisorTool.answerSize m.domain.protocolId m.msgId

/-- A message about a clock or domain: what is refused has a negative status, that says so
    if there is no room for the payload; what is not has the room; and every payload is
    complete. -/
structure DomainMessage.Sound (m : DomainMessage) : Prop where
  negative : ∀ payload cap status, m.refuse payload cap = some status → status.code < 0
  short : ∀ payload cap status, m.refuse payload cap = some status → sizeofScmiResponse ≤ cap →
    sizeofScmiResponse + m.answerSize ≤ cap ∨ status = .errParams ∨ status = .errRange
  room : ∀ payload cap, m.refuse payload cap = none → sizeofScmiResponse ≤ cap →
    sizeofScmiResponse + m.answerSize ≤ cap
  answers : ∀ p, m.action.Replies p → p.size = m.answerSize ∧ p.Answers m.domain.protocolId m.msgId

/-- **A message about a clock or domain.** -/
theorem handleDomainMessage_shape {m : DomainMessage} (hm : m.Sound) (mem : Mem) (dev : SCMIDev)
    (hnew : ctx.stores = []) (hcap : sizeofScmiResponse ≤ ctx.capacity) :
    ScmiShape (sizeofScmiRequest + m.payloadSize ≤ reqIov.iovLen.toNat)
      (dev.physId m.domain (payloadU32 mem reqIov m.idOffset) = none) kernel ctx
      m.domain.protocolId m.msgId token
      (handleDomainMessage m kernel mem dev token reqIov ctx) := by
  unfold handleDomainMessage
  dsimp only
  split
  · next hshort => exact failed_shape (Nat.not_le.mpr hshort) hnew (by decide)
  · next hlong =>
    have henough := Nat.not_lt.mp hlong
    split
    · next hnone =>
      exact respond_shape henough hnew hcap (by decide) (.inr (.inr (.inr ⟨rfl, hnone⟩))) []
    · next physId _ =>
      split
      · next status hrefuse =>
        refine respond_shape henough hnew hcap (hm.negative _ _ _ hrefuse) ?_ []
        exact (hm.short _ _ _ hrefuse hcap).imp id (Or.imp id .inl)
      · next hrefuse =>
        have hroom := hm.room _ _ hrefuse hcap
        have hfits : ∀ p, m.action.Replies p → sizeofScmiResponse + p.size ≤ ctx.capacity := by
          intro p hrep
          rw [(hm.answers p hrep).1]
          exact hroom
        split
        · next reply haction =>
          have hrep : m.action.Replies (reply physId) := by
            rw [haction]
            exact ⟨physId, rfl⟩
          exact respondWith_shape_quiet henough hnew (hm.answers _ hrep).2 (hfits _ hrep)
        · next subcmd args reply haction =>
          unfold hvisorScmiIoctlCmd
          dsimp only
          cases hk : kernel ⟨m.domain, subcmd, sizeofScmiArgs m.domain - 8,
              args (payloadU32 mem reqIov) physId⟩ with
          | none => exact respond_shape henough hnew hcap (by decide) (.inl hroom) _
          | some r =>
            have hio : ∀ io ∈ [(⟨m.domain, subcmd, sizeofScmiArgs m.domain - 8,
                args (payloadU32 mem reqIov) physId⟩ : ScmiIoctl)],
                (kernel io).isSome = true := by
              intro io hio
              rw [List.mem_singleton.mp hio, hk]
              rfl
            cases reply with
            | none =>
              have hrep : m.action.Replies ⟨0, false, []⟩ := by
                rw [haction]
                exact rfl
              exact respond_success_shape henough hnew (hm.answers _ hrep).2 hcap token hio
            | some reply =>
              have hrep : m.action.Replies (reply r) := by
                rw [haction]
                exact ⟨r, rfl⟩
              exact respondWith_shape henough hnew (hm.answers _ hrep).2 (hfits _ hrep) token hio

end Families

/-! ## 6. The messages about clocks and domains -/

theorem refuseShort_none {n : Nat} (payload : Nat → UInt32)
    (h : refuseShort n payload cap = none) : sizeofScmiResponse + n ≤ cap := by
  unfold refuseShort at h
  split at h
  · cases h
  · next hroom => exact Nat.not_lt.mp hroom

theorem refuseShort_some {n : Nat} (payload : Nat → UInt32)
    (h : refuseShort n payload cap = some status) : status = .errRange := by
  unfold refuseShort at h
  split at h
  · cases h
    rfl
  · cases h

/-- A message whose answers are all the struct of its layout. -/
theorem DomainMessage.sound_of_tiles {m : DomainMessage} (n : Nat)
    (hneg : ∀ payload cap status, m.refuse payload cap = some status → status.code < 0)
    (hshort : ∀ payload cap status, m.refuse payload cap = some status → sizeofScmiResponse ≤ cap →
      sizeofScmiResponse + n ≤ cap ∨ status = .errParams ∨ status = .errRange)
    (hroom : ∀ payload cap, m.refuse payload cap = none → sizeofScmiResponse ≤ cap →
      sizeofScmiResponse + n ≤ cap)
    (hp : ∀ p, m.action.Replies p → p.size = n ∧ Tiles 0 p.fields p.size)
    (hl : answerLayout m.domain.protocolId m.msgId = some (.struct n)) : m.Sound := by
  have hn : m.answerSize = n := answerSize_eq hl
  refine ⟨hneg, hn.symm ▸ hshort, hn.symm ▸ hroom, fun p hrep => ?_⟩
  obtain ⟨hsize, htiles⟩ := hp p hrep
  exact ⟨hsize.trans hn.symm, RespPayload.answers_of_tiles htiles (by rw [hsize]; exact hl)⟩

/-- The same, where only the room for the answer is checked. -/
theorem DomainMessage.sound_of_short {m : DomainMessage} (n : Nat)
    (hrefuse : m.refuse = refuseShort n)
    (hp : ∀ p, m.action.Replies p → p.size = n ∧ Tiles 0 p.fields p.size)
    (hl : answerLayout m.domain.protocolId m.msgId = some (.struct n)) : m.Sound := by
  have hrange : ∀ payload cap status, m.refuse payload cap = some status → status = .errRange :=
    fun payload cap status h => refuseShort_some payload (hrefuse ▸ h)
  refine m.sound_of_tiles n (fun payload cap status h => ?_)
    (fun payload cap status h _ => .inr (.inr (hrange payload cap status h)))
    (fun payload _ h _ => refuseShort_none payload (hrefuse ▸ h)) hp hl
  rw [hrange payload cap status h]
  decide

/-- A message that sets something and has no payload in its answer; one flag may be refused. -/
theorem DomainMessage.sound_of_set {m : DomainMessage}
    (hneg : ∀ payload cap status, m.refuse payload cap = some status → status.code < 0)
    (hp : ∀ p, m.action.Replies p → p = ⟨0, false, []⟩)
    (hl : answerLayout m.domain.protocolId m.msgId = some (.struct 0)) : m.Sound := by
  refine m.sound_of_tiles 0 hneg (fun _ _ _ _ hcap => .inl hcap) (fun _ _ _ hcap => hcap)
    (fun p hrep => ?_) hl
  rw [hp p hrep]
  exact ⟨rfl, rfl⟩

/-- A status that stands behind one test. -/
theorem status_of_ite {c : Prop} [Decidable c] {status' : ScmiStatus}
    (h : (if c then some status else none) = some status') : status' = status := by
  split at h
  · cases h
    rfl
  · cases h

theorem code_neg_of_ite {c : Prop} [Decidable c] {status' : ScmiStatus} (hneg : status.code < 0)
    (h : (if c then some status else none) = some status') : status'.code < 0 := by
  rw [status_of_ite h]
  exact hneg

theorem clockAttributes_sound : handleClockClockAttributes.Sound := by
  refine DomainMessage.sound_of_short 20 rfl ?_ rfl
  rintro p ⟨r, rfl⟩
  exact ⟨rfl, by simp [Tiles]⟩

theorem describeRates_sound : handleClockDescribeRates.Sound := by
  have hrange : ∀ payload cap status, handleClockDescribeRates.refuse payload cap = some status →
      status = .errRange := by
    intro payload cap status h
    unfold handleClockDescribeRates at h
    dsimp only at h
    split at h
    · cases h
      rfl
    · exact status_of_ite h
  refine DomainMessage.sound_of_tiles 28 (fun payload cap status h => ?_)
    (fun payload cap status h _ => .inr (.inr (hrange payload cap status h)))
    (fun payload cap h _ => ?_) ?_ rfl
  · rw [hrange payload cap status h]
    decide
  · unfold handleClockDescribeRates at h
    dsimp only at h
    split at h
    · cases h
    · next hroom => exact Nat.not_lt.mp hroom
  · rintro p ⟨physId, rfl⟩
    exact ⟨rfl, by simp [Tiles]⟩

theorem rateGet_sound : handleClockRateGet.Sound := by
  refine DomainMessage.sound_of_short 8 rfl ?_ rfl
  rintro p ⟨r, rfl⟩
  exact ⟨rfl, by simp [Tiles]⟩

theorem rateSet_sound : handleClockRateSet.Sound :=
  DomainMessage.sound_of_set (fun _ _ _ h => code_neg_of_ite (by decide) h) (fun _ h => h) rfl

theorem configGet_sound : handleClockConfigGet.Sound := by
  have hstatus : ∀ payload cap status, handleClockConfigGet.refuse payload cap = some status →
      status = .errParams ∨ status = .errRange := by
    intro payload cap status h
    unfold handleClockConfigGet at h
    dsimp only at h
    split at h
    · cases h
      exact .inl rfl
    · exact .inr (status_of_ite h)
  refine DomainMessage.sound_of_tiles 12 (fun payload cap status h => ?_)
    (fun payload cap status h _ => .inr (hstatus payload cap status h))
    (fun payload cap h _ => ?_) ?_ rfl
  · rcases hstatus payload cap status h with rfl | rfl <;> decide
  · unfold handleClockConfigGet at h
    dsimp only at h
    split at h
    · cases h
    · split at h
      · cases h
      · next hroom => exact Nat.not_lt.mp hroom
  · rintro p ⟨r, rfl⟩
    exact ⟨rfl, by simp [Tiles]⟩

theorem configSet_sound : handleClockConfigSet.Sound :=
  DomainMessage.sound_of_set (fun _ _ _ h => by cases h) (fun _ h => h) rfl

theorem nameGet_sound : handleClockNameGet.Sound := by
  refine DomainMessage.sound_of_short 68 rfl ?_ rfl
  rintro p ⟨r, rfl⟩
  exact ⟨rfl, by simp [Tiles]⟩

theorem powerAttributes_sound : handlePowerDomainAttributes.Sound := by
  refine DomainMessage.sound_of_short 20 rfl ?_ rfl
  rintro p ⟨r, rfl⟩
  exact ⟨rfl, by simp [Tiles]⟩

theorem stateSet_sound : handlePowerStateSet.Sound :=
  DomainMessage.sound_of_set (fun _ _ _ h => code_neg_of_ite (by decide) h) (fun _ h => h) rfl

theorem stateGet_sound : handlePowerStateGet.Sound := by
  refine DomainMessage.sound_of_short 4 rfl ?_ rfl
  rintro p ⟨r, rfl⟩
  exact ⟨rfl, by simp [Tiles]⟩

theorem reset_sound : handleReset.Sound :=
  DomainMessage.sound_of_set (fun _ _ _ h => code_neg_of_ite (by decide) h) (fun _ h => h) rfl

theorem resetAttributes_sound : handleResetAttributes.Sound := by
  refine ⟨fun payload _ status h => ?_,
    fun payload _ _ h _ => .inr (.inr (refuseShort_some payload h)),
    fun payload _ h _ => refuseShort_none payload h, fun p hrep => ?_⟩
  · rw [refuseShort_some payload h]
    decide
  · obtain ⟨physId, rfl⟩ := hrep
    -- the name is cut to 14 characters before its terminator
    obtain ⟨text, htext, hlen⟩ : ∃ text, resetName physId = text ++ [0] ∧ text.length ≤ 14 :=
      ⟨_, rfl, List.length_take_le _ _⟩
    -- the fields up to the terminator of the name, then the last byte of the name
    let front : List (Nat × List UInt8) := [(0, le32 0), (4, le32 100), (8, text ++ [0])]
    have hfront : Tiles 0 front (9 + text.length) := by
      simp [front, Tiles]
      omega
    have hbyte : ∀ i, respByte (fieldStores 0 (front ++ [(23, [0])])) i =
        (RespStore.byteAt ⟨some 23, [0]⟩ i).or (respByte (fieldStores 0 front) i) := by
      intro i
      rw [fieldStores, List.map_append, respByte_append]
      rfl
    have hzero : respByte (fieldStores 0 (front ++ [(23, [0])])) (8 + text.length) = some 0 := by
      have hlast : RespStore.byteAt ⟨some 23, [0]⟩ (8 + text.length) = none := if_neg (by omega)
      have hname : RespStore.byteAt ⟨some 8, text ++ [0]⟩ (8 + text.length) = some 0 := by
        unfold RespStore.byteAt
        dsimp only
        rw [if_pos (Nat.le_add_right _ _), Nat.add_sub_cancel_left, List.getElem?_concat_length]
      rw [hbyte, hlast, Option.none_or]
      show Option.or (Option.or (Option.or none
        (RespStore.byteAt ⟨some 8, text ++ [0]⟩ (8 + text.length))) _) _ = _
      rw [hname]
      rfl
    have hfits : ∀ f ∈ front ++ [(23, [0])], f.1 + f.2.length ≤ 24 := by
      intro f hf
      rcases List.mem_append.mp hf with hf | hf
      · exact Nat.le_trans (hfront.fits f hf) (by omega)
      · rw [List.mem_singleton.mp hf]
        decide
    have hcomplete : (AnswerLayout.cString 24 8).Complete
        (respByte (fieldStores 0 (front ++ [(23, [0])]))) 24 := by
      refine ⟨rfl, fun i hi => ?_⟩
      by_cases hlow : i < 9 + text.length
      · refine .inl ?_
        rw [hbyte, Option.isSome_or, hfront.covers (Nat.zero_le _) hlow, Bool.or_true]
      · exact .inr ⟨8 + text.length, Nat.le_add_right _ _, by omega, hzero⟩
    have heq : (⟨24, false, [(0, le32 0), (4, le32 100), (8, resetName physId), (23, [0])]⟩ :
        RespPayload) = ⟨24, false, front ++ [(23, [0])]⟩ := by
      rw [htext]
      rfl
    refine ⟨rfl, ?_⟩
    show RespPayload.Answers ⟨24, false, [(0, le32 0), (4, le32 100), (8, resetName physId),
      (23, [0])]⟩ _ _
    rw [heq]
    exact ⟨hfits, _, rfl, hcomplete⟩

/-! ## 7. The list of protocols -/

/-- **The count and the slots**: as many ids as are left behind `skip`, four to a word. -/
theorem getProtocolList_spec (dev : SCMIDev) (skip : UInt32) :
    ∃ count slots, count ≤ scmiMaxProtocols ∧ slots.length = (count + 3) / 4 ∧
      getProtocolList dev skip.toInt32
        (if UInt32.ofNat dev.protocols.length > skip then
          (UInt32.ofNat dev.protocols.length - skip).toInt32 else 0) =
        (Int32.ofNat count, slots) := by
  obtain ⟨slots, hpacked, hlist⟩ := getProtocolList_packed dev skip
  refine ⟨_, slots, ?_, hpacked.length, hlist⟩
  rw [List.length_drop, SCMIDev.protocolIds, List.length_map]
  exact Nat.le_trans (Nat.sub_le _ _) dev.protocolsBound

theorem headerStores_within (hcap : sizeofScmiResponse ≤ cap) :
    ∀ st ∈ headerStores pid mid token status, st.Within cap := by
  intro st hst
  rcases List.mem_cons.mp hst with rfl | hst
  · exact ⟨0, rfl, Nat.le_trans (show 0 + 4 ≤ sizeofScmiResponse by decide) hcap⟩
  · rw [List.mem_singleton.mp hst]
    exact ⟨4, rfl, hcap⟩

theorem handleBaseProtocolList_shape (mem : Mem) (dev : SCMIDev) (hnew : ctx.stores = []) :
    ScmiShape (sizeofScmiRequest + 4 ≤ reqIov.iovLen.toNat ∧
        sizeofScmiResponse + sizeofProtocolList ≤ ctx.capacity) noEntry kernel ctx
      scmiProtoIdBase 0x6 token (handleBaseProtocolList mem dev token reqIov ctx) := by
  unfold handleBaseProtocolList
  rw [validateRequest_eq]
  dsimp only
  by_cases hvalid : sizeofScmiRequest + 4 ≤ reqIov.iovLen.toNat ∧
      sizeofScmiResponse + 8 ≤ ctx.capacity
  · have hhead : sizeofScmiResponse ≤ ctx.capacity := Nat.le_trans (Nat.le_add_right _ _) hvalid.2
    rw [if_pos hvalid, if_neg (fun hne => hne rfl), makeResponse_eq hnew hhead]
    unfold scmiRespWrite
    dsimp only
    by_cases hroom : sizeofScmiResponse + sizeofProtocolList ≤ ctx.capacity
    · rw [if_neg (Nat.not_lt.mpr hroom)]
      dsimp only
      obtain ⟨count, slots, hcount, hslots, hlist⟩ :=
        getProtocolList_spec dev (payloadU32 mem reqIov 0)
      rw [hlist]
      dsimp only
      obtain ⟨-, hword, hdiv⟩ := protocolCount_arith count (Nat.lt_succ_of_le hcount)
      have hle : count ≤ 16 := hcount
      have htiles : Tiles 0 [(0, le32 (Int32.ofNat count).toUInt32), (4, slots.flatMap le32)]
          (4 + (count + 3) / 4 * 4) := by
        refine ⟨rfl, rfl, ?_⟩
        show 0 + 4 + (slots.flatMap le32).length = _
        rw [length_flatMap_le32, hslots]
        omega
      refine .answered ⟨hvalid.1, hroom⟩ rfl rfl (4 + (count + 3) / 4 * 4) _ ?_ rfl ?_ htiles.fits
        .protocolList rfl ⟨(Int32.ofNat count).toUInt32, hword.symm ▸ hcount, ?_, ?_, fun i hi => ?_⟩
        (fun io hio => absurd hio List.not_mem_nil)
      · have hsize : sizeofProtocolList = 20 := rfl
        omega
      · show sizeofScmiResponse + (4 + ((Int32.ofNat count + 3) / 4).toNatClampNeg * 4) = _
        rw [hdiv]
      · intro i hi
        -- the slots lie behind the count
        have hslot : RespStore.byteAt ⟨some (0 + 4), slots.flatMap le32⟩ i = none :=
          if_neg (by omega)
        show Option.or (Option.or none (RespStore.byteAt ⟨some (0 + 4), slots.flatMap le32⟩ i))
          (RespStore.byteAt ⟨some (0 + 0), le32 (Int32.ofNat count).toUInt32⟩ i) = _
        rw [hslot]
        show (if 0 + 0 ≤ i then _ else none) = _
        rw [if_pos (Nat.zero_le i)]
        rfl
      · rw [hword]
        omega
      · exact htiles.covers (Nat.zero_le _) hi
    · rw [if_pos (Nat.not_le.mp hroom)]
      refine .failed (fun h => hroom h.2) rfl (show ScmiStatus.errParams.code ≠ 0 by decide) ?_
      exact headerStores_within hhead
  · rw [if_neg hvalid, if_pos (by decide)]
    refine failed_shape (fun h => hvalid ⟨h.1, ?_⟩) hnew (by decide)
    have hsize : sizeofProtocolList = 20 := rfl
    omega

theorem handleBaseDiscoverAgent_shape (mem : Mem) (hnew : ctx.stores = []) :
    ScmiShape (sizeofScmiRequest + 4 ≤ reqIov.iovLen.toNat ∧
        sizeofScmiResponse + 16 ≤ ctx.capacity) noEntry kernel ctx
      scmiProtoIdBase 0x7 token (handleBaseDiscoverAgent mem token reqIov ctx) := by
  unfold handleBaseDiscoverAgent
  rw [validateRequest_eq]
  dsimp only
  by_cases hvalid : sizeofScmiRequest + 4 ≤ reqIov.iovLen.toNat ∧
      sizeofScmiResponse + 16 ≤ ctx.capacity
  · rw [if_pos hvalid, if_neg (fun hne => hne rfl)]
    split
    · have hwhy : Refusal ctx.capacity scmiProtoIdBase 0x7 noEntry .errEntry := .inl hvalid.2
      exact respond_shape hvalid hnew (Nat.le_trans (Nat.le_add_right _ _) hvalid.2) (by decide)
        hwhy []
    · refine respondWith_shape_quiet hvalid hnew (RespPayload.answers_of_tiles ?_ rfl) hvalid.2
      simp [Tiles]
  · rw [if_neg hvalid, if_pos (by decide)]
    exact failed_shape hvalid hnew (by decide)

theorem handleBaseErrorNotify_shape (hnew : ctx.stores = [])
    (hcap : sizeofScmiResponse ≤ ctx.capacity) :
    ScmiShape (sizeofScmiRequest + 4 ≤ reqIov.iovLen.toNat) noEntry kernel ctx
      scmiProtoIdBase 0x8 token (handleBaseErrorNotify token reqIov ctx) := by
  unfold handleBaseErrorNotify
  rw [validateRequest_eq]
  dsimp only
  by_cases hvalid : sizeofScmiRequest + 4 ≤ reqIov.iovLen.toNat
  · have hboth : sizeofScmiRequest + 4 ≤ reqIov.iovLen.toNat ∧ 0 ≤ ctx.capacity :=
      ⟨hvalid, Nat.zero_le _⟩
    have hp : RespPayload.Answers ⟨0, false, []⟩ scmiProtoIdBase 0x8 :=
      RespPayload.answers_of_tiles rfl rfl
    have hnone : ∀ io ∈ [], (kernel io).isSome = true := fun io hio => absurd hio List.not_mem_nil
    rw [if_pos hboth, if_neg (fun hne => hne rfl)]
    exact respond_success_shape hvalid hnew hp hcap token hnone
  · have hnot : ¬ (sizeofScmiRequest + 4 ≤ reqIov.iovLen.toNat ∧ 0 ≤ ctx.capacity) :=
      fun h => hvalid h.1
    rw [if_neg hnot, if_pos (by decide)]
    exact failed_shape hvalid hnew (by decide)

/-! ## 8. The dispatch -/

theorem answerSizes_min {req resp : Nat} (h : answerSizes pid mid = some (req, resp)) :
    sizeofScmiResponse ≤ resp := by
  unfold answerSizes baseSizes powerSizes clockSizes resetSizes at h
  -- the protocol, then the message
  split at h
  case h_1 | h_2 | h_3 | h_4 => split at h <;> cases h <;> decide
  case h_5 => cases h

theorem Enough.header {reqLen : Nat} (h : Enough pid mid reqLen cap) : sizeofScmiResponse ≤ cap := by
  unfold Enough at h
  split at h
  · next hs => exact Nat.le_trans (answerSizes_min hs) h.2
  · cases h

section Dispatch

/-- The message has an index, and the list of its protocol has no entry at it. -/
def NoEntry (ids : ScmiDomain → List UInt32) (mem : Mem) (reqIov : Iovec)
    (protocolId msgId : UInt8) : Prop :=
  ∃ f, idField protocolId msgId = some f ∧ (ids f.domain).length ≤ f.index mem reqIov

variable {mem : Mem} {dev : SCMIDev} {msgId : UInt8}

/-- The check at the head of each protocol. -/
theorem checkedResponse_shape (hnew : ctx.stores = [])
    (h : sizeofScmiResponse ≤ ctx.capacity →
      ScmiShape (Enough pid msgId reqIov.iovLen.toNat ctx.capacity) noEntry kernel ctx pid
        msgId token run) :
    ScmiShape (ctx.iov.iovBase ≠ 0 ∧ Enough pid msgId reqIov.iovLen.toNat ctx.capacity) noEntry
      kernel ctx pid msgId token (checkedResponse ctx run) := by
  unfold checkedResponse
  split
  · next hbad =>
    refine failed_shape (fun hgood => ?_) hnew (by decide)
    rcases hbad with hcap | hnull
    · exact absurd hgood.2.header (Nat.not_le.mpr hcap)
    · exact hgood.1 hnull
  · next hgood =>
    have hcap := Nat.not_lt.mp fun hlt => hgood (.inl hlt)
    exact (h hcap).congr ⟨fun he => ⟨fun hnull => hgood (.inr hnull), he⟩, And.right⟩ id

theorem msgId_eq {n : Nat} (h : msgId.toNat = n) : msgId = UInt8.ofNat n := by
  rw [← h, UInt8.ofNat_toNat]

/-- A query under its own number. -/
theorem query_shape {p : RespPayload} (hp : Tiles 0 p.fields p.size)
    (hl : answerLayout pid mid = some (.struct p.size))
    (hsizes : answerSizes pid mid = some (sizeofScmiRequest, sizeofScmiResponse + p.size))
    (hid : msgId = mid) (hnew : ctx.stores = []) :
    ScmiShape (Enough pid msgId reqIov.iovLen.toNat ctx.capacity) noEntry kernel ctx pid
      msgId token (handleQuery pid mid p token reqIov ctx) := by
  subst hid
  refine (handleQuery_shape hnew (RespPayload.answers_of_tiles hp hl)).congr ?_ id
  rw [Enough, hsizes]

/-- A message about a clock or domain under its own number. -/
theorem domainMessage_shape {m : DomainMessage} (hm : m.Sound) (hid : msgId = m.msgId)
    (hsizes : answerSizes m.domain.protocolId m.msgId =
      some (sizeofScmiRequest + m.payloadSize, sizeofScmiResponse))
    (hf : HvisorTool.idField m.domain.protocolId m.msgId = some m.idField)
    (hnew : ctx.stores = []) (hcap : sizeofScmiResponse ≤ ctx.capacity) :
    ScmiShape (Enough m.domain.protocolId msgId reqIov.iovLen.toNat ctx.capacity)
      (NoEntry (fun d => (dev.idsOf d).list) mem reqIov m.domain.protocolId msgId) kernel
      ctx m.domain.protocolId msgId token
      (handleDomainMessage m kernel mem dev token reqIov ctx) := by
  subst hid
  refine (handleDomainMessage_shape hm mem dev hnew hcap).congr ?_ fun hnone => ⟨_, hf, ?_⟩
  · rw [Enough, hsizes]
    exact ⟨fun h => ⟨h, hcap⟩, And.left⟩
  · rw [dev.physId_eq] at hnone
    exact List.getElem?_eq_none_iff.mp hnone

/-- A message that is refused whatever it holds. -/
theorem noNotify_shape (hid : msgId = mid)
    (hsizes : answerSizes pid mid = some (0, sizeofScmiResponse)) (hl : answerLayout pid mid = none)
    (hnew : ctx.stores = []) (hcap : sizeofScmiResponse ≤ ctx.capacity) :
    ScmiShape (Enough pid msgId reqIov.iovLen.toNat ctx.capacity) noEntry kernel ctx pid
      msgId token (respond ctx pid msgId token .errSupport) := by
  subst hid
  have henough : Enough pid msgId reqIov.iovLen.toNat ctx.capacity := by
    rw [Enough, hsizes]
    exact ⟨Nat.zero_le _, hcap⟩
  have hwhy : Refusal ctx.capacity pid msgId noEntry .errSupport := by
    refine .inl ?_
    rw [answerSize, hl]
    exact hcap
  exact respond_shape henough hnew hcap (by decide) hwhy []

/-- A message that its protocol does not know. -/
theorem unsupported_shape (hnone : answerSizes pid msgId = none) (hnew : ctx.stores = []) :
    ScmiShape (Enough pid msgId reqIov.iovLen.toNat ctx.capacity) noEntry kernel ctx pid
      msgId token (unsupportedMessage ctx) := by
  refine failed_shape ?_ hnew (by decide)
  rw [Enough, hnone]
  exact id

/-- What a protocol's handler comes to, on a response that nothing is stored in. -/
def HandlerShape (pid : UInt8) (handle : ScmiKernel → Mem → SCMIDev → UInt8 → UInt16 → Iovec →
    ScmiRespCtx → ScmiRun) : Prop :=
  ∀ kernel mem dev msgId token reqIov ctx, ctx.stores = [] →
    ScmiShape (ctx.iov.iovBase ≠ 0 ∧ Enough pid msgId reqIov.iovLen.toNat ctx.capacity)
      (NoEntry (fun d => (dev.idsOf d).list) mem reqIov pid msgId) kernel ctx pid msgId token
      (handle kernel mem dev msgId token reqIov ctx)

theorem clock_shape : HandlerShape ScmiDomain.clock.protocolId virtioScmiClockHandleReq := by
  intro kernel mem dev msgId token reqIov ctx hnew
  refine checkedResponse_shape hnew fun hcap => ?_
  split
  case h_1 h | h_2 h => exact query_shape (by simp [Tiles]) rfl rfl (msgId_eq h) hnew
  · next h => exact domainMessage_shape clockAttributes_sound (msgId_eq h) rfl rfl hnew hcap
  · next h => exact domainMessage_shape describeRates_sound (msgId_eq h) rfl rfl hnew hcap
  · next h => exact domainMessage_shape rateSet_sound (msgId_eq h) rfl rfl hnew hcap
  · next h => exact domainMessage_shape rateGet_sound (msgId_eq h) rfl rfl hnew hcap
  · next h => exact domainMessage_shape configSet_sound (msgId_eq h) rfl rfl hnew hcap
  · next h => exact domainMessage_shape configGet_sound (msgId_eq h) rfl rfl hnew hcap
  · next h => exact domainMessage_shape nameGet_sound (msgId_eq h) rfl rfl hnew hcap
  · refine unsupported_shape ?_ hnew
    show clockSizes msgId.toNat = none
    unfold clockSizes
    split <;> first | rfl | contradiction

theorem power_shape : HandlerShape ScmiDomain.power.protocolId virtioScmiPowerHandleReq := by
  intro kernel mem dev msgId token reqIov ctx hnew
  refine checkedResponse_shape hnew fun hcap => ?_
  split
  case h_1 h | h_2 h => exact query_shape (by simp [Tiles]) rfl rfl (msgId_eq h) hnew
  · next h => exact noNotify_shape (msgId_eq h) rfl rfl hnew hcap
  · next h => exact domainMessage_shape powerAttributes_sound (msgId_eq h) rfl rfl hnew hcap
  · next h => exact domainMessage_shape stateSet_sound (msgId_eq h) rfl rfl hnew hcap
  · next h => exact domainMessage_shape stateGet_sound (msgId_eq h) rfl rfl hnew hcap
  · next h =>
    cases msgId_eq h
    exact noNotify_shape rfl rfl rfl hnew hcap
  · refine unsupported_shape ?_ hnew
    show powerSizes msgId.toNat = none
    unfold powerSizes
    split <;> first | rfl | contradiction

theorem reset_shape : HandlerShape ScmiDomain.reset.protocolId virtioScmiResetHandleReq := by
  intro kernel mem dev msgId token reqIov ctx hnew
  refine checkedResponse_shape hnew fun hcap => ?_
  split
  case h_1 h | h_2 h => exact query_shape (by simp [Tiles]) rfl rfl (msgId_eq h) hnew
  · next h => exact domainMessage_shape resetAttributes_sound (msgId_eq h) rfl rfl hnew hcap
  · next h => exact domainMessage_shape reset_sound (msgId_eq h) rfl rfl hnew hcap
  · next h =>
    cases msgId_eq h
    exact noNotify_shape rfl rfl rfl hnew hcap
  · refine unsupported_shape ?_ hnew
    show resetSizes msgId.toNat = none
    unfold resetSizes
    split <;> first | rfl | contradiction

theorem base_shape : HandlerShape scmiProtoIdBase fun _ => virtioScmiBaseHandleReq := by
  intro kernel mem dev msgId token reqIov ctx hnew
  refine checkedResponse_shape hnew fun hcap => ?_
  split
  case h_1 h | h_2 h | h_4 h | h_5 h | h_6 h =>
    exact query_shape (by simp [Tiles]) rfl rfl (msgId_eq h) hnew
  · next h =>
    cases msgId_eq h
    exact (handleBaseErrorNotify_shape hnew hcap).congr ⟨fun hreq => ⟨hreq, hcap⟩, And.left⟩ id
  · next h =>
    cases msgId_eq h
    exact handleBaseProtocolList_shape mem dev hnew
  · next h =>
    cases msgId_eq h
    exact handleBaseDiscoverAgent_shape mem hnew
  · refine unsupported_shape ?_ hnew
    show baseSizes msgId.toNat = none
    unfold baseSizes
    split <;> first | rfl | contradiction

/-- The handler of a protocol. -/
theorem handleReq_shape (handler : ScmiHandler) :
    HandlerShape handler.protocolId handler.handleReq := by
  cases handler with
  | base => exact base_shape
  | domain d =>
    cases d with
    | clock => exact clock_shape
    | power => exact power_shape
    | reset => exact reset_shape

/-- A protocol with a handler in the device. -/
def SCMIDev.Serves (dev : SCMIDev) (protocolId : UInt8) : Prop :=
  ∃ e ∈ dev.protocols, e.protocolId = protocolId

/-- **A message, whatever its protocol.** -/
theorem scmiHandleMessage_shape (hm : dev.Matched) (hnew : ctx.stores = []) (pid : UInt8) :
    ScmiShape (dev.Serves pid ∧ ctx.iov.iovBase ≠ 0 ∧
        Enough pid msgId reqIov.iovLen.toNat ctx.capacity)
      (NoEntry (fun d => (dev.idsOf d).list) mem reqIov pid msgId) kernel ctx pid msgId token
      (scmiHandleMessage kernel mem dev msgId token reqIov ctx pid) := by
  unfold scmiHandleMessage
  split
  · next e he =>
    have hin := List.mem_of_find?_eq_some he
    have hpid : e.protocolId = pid := by simpa using List.find?_some he
    rw [← hpid, hm e hin]
    refine (handleReq_shape e.handler _ _ _ _ _ _ _ hnew).congr
      ⟨fun henough => ⟨⟨e, hin, ?_⟩, henough⟩, And.right⟩ id
    exact hm e hin
  · next hnone =>
    refine failed_shape (fun henough => ?_) hnew (by decide)
    obtain ⟨e, hin, hpid⟩ := henough.1
    have hno := List.find?_eq_none.mp hnone e hin
    exact hno (decide_eq_true hpid)

end Dispatch

/-! ## 9. What the guest finds -/

theorem respByte_headerStores (pid mid : UInt8) (token : UInt16) (status : ScmiStatus)
    (hi : i < 4) :
    respByte (headerStores pid mid token status) i = (le32 (scmiBuildHeader pid mid token))[i]? ∧
      respByte (headerStores pid mid token status) (4 + i) =
        (le32 (UInt32.ofInt status.code))[i]? := by
  match i, hi with
  | 0, _ | 1, _ | 2, _ | 3, _ => exact ⟨rfl, rfl⟩

/-- Behind the header, only the payload is stored. -/
theorem respByte_payload (pid mid : UInt8) (token : UInt16) (status : ScmiStatus)
    (fields : List (Nat × List UInt8)) (i : Nat) :
    respByte (headerStores pid mid token status ++ fieldStores sizeofScmiResponse fields)
      (sizeofScmiResponse + i) = respByte (fieldStores 0 fields) i := by
  have hword : ∀ (off : Nat) (w : UInt32), off ≤ 4 →
      RespStore.byteAt ⟨some off, le32 w⟩ (sizeofScmiResponse + i) = none := by
    intro off w hoff
    have hsize : sizeofScmiResponse = 8 := rfl
    have hout : (le32 w).length ≤ sizeofScmiResponse + i - off := by
      rw [length_le32]
      omega
    have hle : off ≤ sizeofScmiResponse + i := by omega
    exact (if_pos hle).trans (List.getElem?_eq_none hout)
  have hhead : respByte (headerStores pid mid token status) (sizeofScmiResponse + i) = none := by
    rw [headerStores, fieldStores, List.map_cons, List.map_cons, respByte, respByte,
      hword (0 + 4) _ (Nat.le_refl 4), hword (0 + 0) _ (Nat.zero_le 4)]
    rfl
  rw [respByte_append, respByte_shift, hhead, Option.or_none]

/-- A status with its payload and its ioctls, behind the header of a response. -/
def StatusBacked (kernel : ScmiKernel) (protocolId msgId : UInt8) (run : ScmiRun)
    (status : ScmiStatus) : Prop :=
  match status with
  | .success =>
    ∃ l, answerLayout protocolId msgId = some l ∧
      l.Complete (fun i => respByte run.ctx.stores (sizeofScmiResponse + i))
        (run.ctx.written - sizeofScmiResponse) ∧
      ∀ io ∈ run.ioctls, (kernel io).isSome = true
  | _ => status.code < 0 ∧ run.ctx.written = sizeofScmiResponse

theorem statusBacked_of_neg (hneg : status.code < 0) (hw : run.ctx.written = sizeofScmiResponse) :
    StatusBacked kernel pid mid run status := by
  cases status with
  | success => exact absurd hneg (by decide)
  | errSupport | errParams | errEntry | errRange | errGeneric => exact ⟨hneg, hw⟩

/-- A response: its size, its header, its status and what stands behind them. -/
structure WellFormed (kernel : ScmiKernel) (cap : Nat) (protocolId msgId : UInt8) (token : UInt16)
    (run : ScmiRun) : Prop where
  least : 8 ≤ run.ctx.written
  most : run.ctx.written ≤ cap
  header : ∃ word : UInt32, (∀ i < 4, respByte run.ctx.stores i = (le32 word)[i]?) ∧
    scmiMsgHeader word = ⟨msgId.toUInt32, 0, protocolId.toUInt32, token.toUInt32⟩ ∧
    word >>> 28 = 0
  status : ∃ status : ScmiStatus,
    (∀ i < 4, respByte run.ctx.stores (4 + i) = (le32 (UInt32.ofInt status.code))[i]?) ∧
    StatusBacked kernel protocolId msgId run status

theorem ScmiShape.within (h : ScmiShape enough noEntry kernel ctx pid mid token run) :
    ∀ st ∈ run.ctx.stores, st.Within ctx.capacity := by
  cases h with
  | failed _ _ _ hst => exact hst
  | refused _ _ _ status _ hcap _ hst _ =>
    rw [hst]
    exact headerStores_within hcap
  | answered _ _ _ size fields hcap hst _ hfits _ _ _ _ =>
    rw [hst]
    intro st hmem
    rcases List.mem_append.mp hmem with hhead | hfield
    · exact headerStores_within (Nat.le_trans (Nat.le_add_right _ _) hcap) st hhead
    · obtain ⟨f, hf, rfl⟩ := List.mem_map.mp hfield
      have hfit := hfits f hf
      refine ⟨_, rfl, ?_⟩
      dsimp only
      omega

theorem ScmiShape.iov_eq
    (h : ScmiShape enough noEntry kernel ctx pid mid token run) : run.ctx.iov = ctx.iov := by
  cases h with
  | failed _ hiov | refused _ hiov | answered _ hiov => exact hiov

theorem ScmiShape.ret_eq_zero (h : ScmiShape enough noEntry kernel ctx pid mid token run)
    (henough : enough) : run.ret = 0 := by
  cases h with
  | failed hnot _ _ _ => exact absurd henough hnot
  | refused _ _ hret | answered _ _ hret => exact hret

/-- **The bytes of a response**, where the handler returns 0: header and status, then
    nothing behind a negative status and the payload behind `SCMI_SUCCESS`. -/
theorem ScmiShape.response (h : ScmiShape enough noEntry kernel ctx pid mid token run)
    (hret : run.ret = 0) :
    enough ∧ ∃ status : ScmiStatus,
      (∀ i < 4, respByte run.ctx.stores i = (le32 (scmiBuildHeader pid mid token))[i]?) ∧
      (∀ i < 4, respByte run.ctx.stores (4 + i) = (le32 (UInt32.ofInt status.code))[i]?) ∧
      ((status.code < 0 ∧ sizeofScmiResponse ≤ ctx.capacity ∧ run.ctx.written = sizeofScmiResponse ∧
          Refusal ctx.capacity pid mid noEntry status) ∨
        (status = .success ∧ ∃ size l, sizeofScmiResponse + size ≤ ctx.capacity ∧
          run.ctx.written = sizeofScmiResponse + size ∧ answerLayout pid mid = some l ∧
          l.Complete (fun i => respByte run.ctx.stores (sizeofScmiResponse + i)) size ∧
          ∀ io ∈ run.ioctls, (kernel io).isSome = true)) := by
  cases h with
  | failed _ _ hbad _ => exact absurd hret hbad
  | refused henough _ _ status hneg hcap hwhy hst hw =>
    refine ⟨henough, status, fun i hi => ?_, fun i hi => ?_, .inl ⟨hneg, hcap, hw, hwhy⟩⟩
    · rw [hst]
      exact (respByte_headerStores pid mid token status hi).1
    · rw [hst]
      exact (respByte_headerStores pid mid token status hi).2
  | answered henough _ _ size fields hcap hst hw hfits l hl hcomplete hio =>
    -- the fields of the payload do not reach the header
    have hbelow : ∀ i < sizeofScmiResponse, respByte run.ctx.stores i =
        respByte (headerStores pid mid token .success) i := by
      intro i hi
      rw [hst, respByte_append, respByte_below hi, Option.none_or]
    have hbytes : (fun i => respByte run.ctx.stores (sizeofScmiResponse + i)) =
        respByte (fieldStores 0 fields) := by
      funext i
      rw [hst, respByte_payload]
    have hsize : sizeofScmiResponse = 8 := rfl
    refine ⟨henough, .success, fun i hi => ?_, fun i hi => ?_,
      .inr ⟨rfl, size, l, hcap, hw, hl, hbytes.symm ▸ hcomplete, hio⟩⟩
    · rw [hbelow i (by omega)]
      exact (respByte_headerStores pid mid token .success hi).1
    · rw [hbelow (4 + i) (by omega)]
      exact (respByte_headerStores pid mid token .success hi).2

theorem ScmiShape.wellFormed
    (h : ScmiShape enough noEntry kernel ctx pid mid token run) (htoken : token.toNat < 2 ^ 10)
    (hret : run.ret = 0) : WellFormed kernel ctx.capacity pid mid token run := by
  obtain ⟨hheader, htop⟩ := scmiMsgHeader_build pid mid htoken
  obtain ⟨-, status, hword, hstatus, hrest⟩ := h.response hret
  rcases hrest with ⟨hneg, hcap, hw, -⟩ | ⟨rfl, size, l, hcap, hw, hl, hcomplete, hio⟩
  · exact ⟨hw.symm ▸ Nat.le_refl _, hw.symm ▸ hcap, ⟨_, hword, hheader, htop⟩, status, hstatus,
      statusBacked_of_neg hneg hw⟩
  · refine ⟨hw.symm ▸ Nat.le_add_right _ _, hw.symm ▸ hcap, ⟨_, hword, hheader, htop⟩, .success,
      hstatus, l, hl, ?_, hio⟩
    rw [hw, Nat.add_sub_cancel_left]
    exact hcomplete

/-- A message to a configured device. -/
theorem configured_shape (params : Option VirtioScmiInitParams) (kernel : ScmiKernel) (mem : Mem)
    (pid mid : UInt8) (token : UInt16) (reqIov respIov : Iovec) :
    ScmiShape ((virtioScmiDoInit params).Serves pid ∧ respIov.iovBase ≠ 0 ∧
        Enough pid mid reqIov.iovLen.toNat respIov.iovLen.toNat)
      (NoEntry (configuredIds params) mem reqIov pid mid) kernel (scmiRespCtxInit respIov) pid
      mid token (scmiHandleMessage kernel mem (virtioScmiDoInit params) mid token reqIov
        (scmiRespCtxInit respIov) pid) := by
  have hnew : (scmiRespCtxInit respIov).stores = [] := rfl
  obtain ⟨hids, hm⟩ := virtioScmiDoInit_configured params
  rw [← hids]
  exact scmiHandleMessage_shape hm hnew pid

/-- **Responses are well formed**: for every configuration, message, token of 10 bits,
    request, response buffer and answer of the kernel, no byte is stored outside the
    response buffer; and where `scmi_handle_message` returns 0, the buffer holds a header
    with the type, ids and token of the request, then either `SCMI_SUCCESS` with the
    complete payload, after an ioctl that succeeded if there was one, or a negative status
    and nothing else. -/
theorem scmi_responses_well_formed (params : Option VirtioScmiInitParams) (kernel : ScmiKernel)
    (mem : Mem) (protocolId msgId : UInt8) (token : UInt16) (htoken : token.toNat < 2 ^ 10)
    (reqIov respIov : Iovec) :
    let run := scmiHandleMessage kernel mem (virtioScmiDoInit params) msgId token reqIov
      (scmiRespCtxInit respIov) protocolId
    (∀ st ∈ run.ctx.stores, st.Within respIov.iovLen.toNat) ∧
      (run.ret = 0 → WellFormed kernel respIov.iovLen.toNat protocolId msgId token run) := by
  intro run
  have hshape := configured_shape params kernel mem protocolId msgId token reqIov respIov
  exact ⟨hshape.within, hshape.wellFormed htoken⟩

/-- A clock of 200 MHz, as the kernel describes it. -/
def clock200 : ScmiReply :=
  { enabled := 1, parentId := 0, clockName := [], rate := 200000000, config := 0
    extendedConfigVal := 0, name := [], powerName := [], powerState := 0 }

/-- `RATE_GET` of clock 9, under token 5: the kernel answers, and the response is complete. -/
theorem scmi_responses_well_formed_rateGet :
    ∃ run, scmiHandleMessage (fun _ => some clock200) (fun a => if a = 0x2004 then 1 else 0)
        (virtioScmiDoInit (some twoClocks)) 0x6 5 ⟨0x2000, 8⟩ (scmiRespCtxInit ⟨0x3000, 16⟩) 0x14 =
          run ∧
      run.ioctls.length = 1 ∧ run.ret = 0 ∧
      WellFormed (fun _ => some clock200) 16 0x14 0x6 5 run :=
  ⟨_, rfl, by decide, by decide, (scmi_responses_well_formed (some twoClocks)
    (fun _ => some clock200) (fun a => if a = 0x2004 then 1 else 0) 0x14 0x6 5 (by decide)
    ⟨0x2000, 8⟩ ⟨0x3000, 16⟩).2 (by decide)⟩

end HvisorTool
