/-
  File:      HvisorTool/Scmi/AllowList.lean
  Subject:   THE ID LISTS AS ALLOW-LISTS: what a guest can reach of the kernel's clocks,
             reset lines and power domains.

  A message names a clock or a domain by an index; the kernel is asked about the entry of
  the configured list at it, and about nothing else.

  * `idField`: the messages that carry an index, with their payload structs;
  * `handleDomainMessage_issues`: one message about a clock or domain;
  * `handleReq_issues`: every message of every protocol;
  * `scmi_allow_list`: one request;
  * `scmi_ioctls_allowed`: every ioctl of every run of `virtq_tx_handle_one_request`.
-/
import HvisorTool.Library.Machine
import HvisorTool.Library.Outcome
import HvisorTool.Scmi.Protocols

namespace HvisorTool

open Library

/-! ## 1. What a message may ask of the kernel -/

/-- A payload struct with an index: the list it is an index of, the size of the struct
    and the offset of the index. -/
structure IdField where
  domain : ScmiDomain
  payloadSize : Nat
  idOffset : Nat
  deriving DecidableEq, Repr

/-- The payload structs with an index, by protocol and message. -/
def idField (protocolId msgId : UInt8) : Option IdField :=
  match protocolId.toNat, msgId.toNat with
  -- clock: attributes, rates, rate set and get, config set and get, name
  | 0x14, 0x3 => some ⟨.clock, 4, 0⟩
  | 0x14, 0x4 => some ⟨.clock, 8, 0⟩
  | 0x14, 0x5 => some ⟨.clock, 16, 4⟩
  | 0x14, 0x6 => some ⟨.clock, 4, 0⟩
  | 0x14, 0x7 => some ⟨.clock, 8, 0⟩
  | 0x14, 0x8 => some ⟨.clock, 8, 0⟩
  | 0x14, 0x9 => some ⟨.clock, 4, 0⟩
  -- power: attributes, state set and get
  | 0x11, 0x3 => some ⟨.power, 4, 0⟩
  | 0x11, 0x4 => some ⟨.power, 12, 4⟩
  | 0x11, 0x5 => some ⟨.power, 4, 0⟩
  -- reset: attributes, reset
  | 0x16, 0x3 => some ⟨.reset, 4, 0⟩
  | 0x16, 0x4 => some ⟨.reset, 12, 0⟩
  | _, _ => none

section Issues

variable (ids : ScmiDomain → List UInt32) (mem : Mem) (reqIov : Iovec)

/-- The guest's index. -/
def IdField.index (f : IdField) : Nat := (payloadU32 mem reqIov f.idOffset).toNat

/-- An ioctl that a request with this payload struct may cause: the request holds the
    whole struct, and the ioctl carries the entry of its list at the guest's index. -/
structure IdField.Permits (f : IdField) (io : ScmiIoctl) : Prop where
  cmd : io.cmd = f.domain
  whole : sizeofScmiRequest + f.payloadSize ≤ reqIov.iovLen.toNat
  entry : (ids f.domain)[f.index mem reqIov]? = some io.args.id

/-- The ioctls of one request: none, or one that its payload struct permits. -/
def Issues (field : Option IdField) (ioctls : List ScmiIoctl) : Prop :=
  ioctls = [] ∨ ∃ f io, field = some f ∧ ioctls = [io] ∧ f.Permits ids mem reqIov io

end Issues

/-! ## 2. The families -/

@[simp] theorem ioctls_respondWith (ctx : ScmiRespCtx) (pid msgId : UInt8) (token : UInt16)
    (p : RespPayload) : (respondWith ctx pid msgId token p).ioctls = [] := by
  unfold respondWith
  dsimp only
  split <;> rfl

@[simp] theorem ioctls_handleQuery (pid msgId : UInt8) (p : RespPayload) (token : UInt16)
    (reqIov : Iovec) (ctx : ScmiRespCtx) :
    (handleQuery pid msgId p token reqIov ctx).ioctls = [] := by
  unfold handleQuery
  dsimp only
  split
  · rfl
  · exact ioctls_respondWith ctx pid msgId token p

/-- An action that puts the physical id into its arguments. -/
def DomainAction.Carries : DomainAction → Prop
  | .here _ => True
  | .kernel _ args _ => ∀ payload physId, (args payload physId).id = physId

/-- The payload struct of a message. -/
def DomainMessage.idField (m : DomainMessage) : IdField := ⟨m.domain, m.payloadSize, m.idOffset⟩

/-- **A message about a clock or domain asks the kernel about the entry at its index.** -/
theorem handleDomainMessage_issues {m : DomainMessage} (hc : m.action.Carries) (kernel : ScmiKernel)
    (mem : Mem) (dev : SCMIDev) (token : UInt16) (reqIov : Iovec) (ctx : ScmiRespCtx) :
    Issues (fun d => (dev.idsOf d).list) mem reqIov (some m.idField)
      (handleDomainMessage m kernel mem dev token reqIov ctx).ioctls := by
  unfold handleDomainMessage
  dsimp only
  split
  · exact .inl rfl
  · next hlen =>
    split
    · exact .inl rfl
    · next physId hphys =>
      split
      · exact .inl rfl
      · split
        · exact .inl (ioctls_respondWith ..)
        · next subcmd args reply haction =>
          -- the ioctl carries the id that the index gave
          have hid : (args (payloadU32 mem reqIov) physId).id = physId := by
            rw [haction] at hc
            exact hc _ _
          have hentry : (dev.idsOf m.domain).list[m.idField.index mem reqIov]? =
              some (args (payloadU32 mem reqIov) physId).id := by
            rw [hid, ← hphys]
            exact (dev.physId_eq m.domain _).symm
          refine .inr ⟨m.idField, ⟨m.domain, subcmd, sizeofScmiArgs m.domain - 8,
            args (payloadU32 mem reqIov) physId⟩, rfl, ?_, rfl, Nat.le_of_not_lt hlen, hentry⟩
          unfold hvisorScmiIoctlCmd
          dsimp only
          cases kernel _ with
          | none => rfl
          | some r => cases reply <;> rfl

/-! ## 3. The protocols -/

theorem ioctls_checkedResponse (ctx : ScmiRespCtx) {run : ScmiRun} {ids : ScmiDomain → List UInt32}
    {mem : Mem} {reqIov : Iovec} {field : Option IdField}
    (h : Issues ids mem reqIov field run.ioctls) :
    Issues ids mem reqIov field (checkedResponse ctx run).ioctls := by
  unfold checkedResponse
  split
  · exact .inl rfl
  · exact h

section Protocols

variable {kernel : ScmiKernel} {mem : Mem} {dev : SCMIDev} {msgId : UInt8} {token : UInt16}
  {reqIov : Iovec} {ctx : ScmiRespCtx}

/-- A message whose payload struct is the one of the table. -/
theorem domainMessage_issues {pid : UInt8} {m : DomainMessage} (hc : m.action.Carries)
    (hf : idField pid msgId = some m.idField) :
    Issues (fun d => (dev.idsOf d).list) mem reqIov (idField pid msgId)
      (handleDomainMessage m kernel mem dev token reqIov ctx).ioctls :=
  hf ▸ handleDomainMessage_issues hc kernel mem dev token reqIov ctx

/-- The table at a message whose number is known. -/
theorem idField_toNat {pid : UInt8} {n : Nat} (h : msgId.toNat = n) :
    idField pid msgId = idField pid (UInt8.ofNat n) := by
  rw [← h, UInt8.ofNat_toNat]

/-- The messages of a protocol about clocks or domains: each is a query, is refused, or goes to
    `handleDomainMessage` with the payload struct of the table. -/
theorem domain_issues (d : ScmiDomain) :
    Issues (fun d => (dev.idsOf d).list) mem reqIov (idField d.protocolId msgId)
      ((ScmiHandler.domain d).handleReq kernel mem dev msgId token reqIov ctx).ioctls := by
  cases d with
  | clock | power | reset =>
    refine ioctls_checkedResponse ctx ?_
    split
    all_goals first
      | exact .inl (ioctls_handleQuery ..)
      | exact .inl rfl
      | next h => exact domainMessage_issues trivial (idField_toNat h)
      | next h => exact domainMessage_issues (fun _ _ => rfl) (idField_toNat h)

/-- The base protocol does not call the kernel. -/
theorem base_issues {field : Option IdField} :
    Issues (fun d => (dev.idsOf d).list) mem reqIov field
      (virtioScmiBaseHandleReq mem dev msgId token reqIov ctx).ioctls := by
  refine ioctls_checkedResponse ctx (.inl ?_)
  split
  · exact ioctls_handleQuery ..
  · exact ioctls_handleQuery ..
  · unfold handleBaseErrorNotify
    dsimp only
    split <;> rfl
  · exact ioctls_handleQuery ..
  · exact ioctls_handleQuery ..
  · exact ioctls_handleQuery ..
  · unfold handleBaseProtocolList
    dsimp only
    split
    · rfl
    · split <;> rfl
  · unfold handleBaseDiscoverAgent
    dsimp only
    split
    · rfl
    · split
      · rfl
      · exact ioctls_respondWith ..
  · rfl

/-- **Every message of every protocol**, under the protocol's own id. -/
theorem handleReq_issues (h : ScmiHandler) :
    Issues (fun d => (dev.idsOf d).list) mem reqIov (idField h.protocolId msgId)
      (h.handleReq kernel mem dev msgId token reqIov ctx).ioctls := by
  cases h with
  | base => exact base_issues
  | domain d => exact domain_issues d

theorem scmiHandleMessage_issues (hm : dev.Matched) (pid : UInt8) :
    Issues (fun d => (dev.idsOf d).list) mem reqIov (idField pid msgId)
      (scmiHandleMessage kernel mem dev msgId token reqIov ctx pid).ioctls := by
  unfold scmiHandleMessage
  split
  · next e he =>
    have hpid : e.protocolId = pid := by simpa using List.find?_some he
    rw [← hpid, hm e (List.mem_of_find?_eq_some he)]
    exact handleReq_issues e.handler
  · exact .inl rfl

end Protocols

/-! ## 4. A configured device -/

/-- The ids of a configuration; a device without parameters has none. -/
def configuredIds (params : Option VirtioScmiInitParams) (d : ScmiDomain) : List UInt32 :=
  match params with
  | none => []
  | some p => (p.idsOf d).list

/-- The device has the ids of its configuration, and each protocol its own handler. -/
theorem virtioScmiDoInit_configured (params : Option VirtioScmiInitParams) :
    (fun d => ((virtioScmiDoInit params).idsOf d).list) = configuredIds params ∧
      (virtioScmiDoInit params).Matched := by
  cases params with
  | none =>
    refine ⟨funext fun d => ?_, fun e he => absurd he List.not_mem_nil⟩
    cases d <;> rfl
  | some p =>
    obtain ⟨hids, hm⟩ := virtioScmiDoInit_spec p
    exact ⟨funext hids, hm⟩

/-- **The id lists are allow-lists**: for every configuration, request, response buffer
    and answer of the kernel, a request causes at most one ioctl; it carries the entry of
    the list of its protocol at the guest's index; and there is none if the index is
    outside the list or the request is shorter than the payload struct of its message. -/
theorem scmi_allow_list (params : Option VirtioScmiInitParams) (kernel : ScmiKernel) (mem : Mem)
    (protocolId msgId : UInt8) (token : UInt16) (reqIov respIov : Iovec) :
    let run := scmiHandleMessage kernel mem (virtioScmiDoInit params) msgId token reqIov
      (scmiRespCtxInit respIov) protocolId
    run.ioctls.length ≤ 1 ∧
      (∀ io ∈ run.ioctls, ∃ f, idField protocolId msgId = some f ∧ io.cmd = f.domain ∧
        (configuredIds params io.cmd)[f.index mem reqIov]? = some io.args.id) ∧
      ∀ f, idField protocolId msgId = some f →
        (configuredIds params f.domain).length ≤ f.index mem reqIov ∨
          reqIov.iovLen.toNat < sizeofScmiRequest + f.payloadSize →
        run.ioctls = [] := by
  intro run
  obtain ⟨hids, hm⟩ := virtioScmiDoInit_configured params
  have hrun : Issues (configuredIds params) mem reqIov (idField protocolId msgId) run.ioctls :=
    hids ▸ scmiHandleMessage_issues hm protocolId
  rcases hrun with hnone | ⟨f, io, hf, hone, hp⟩
  · rw [hnone]
    exact ⟨Nat.zero_le _, fun io hio => absurd hio List.not_mem_nil, fun _ _ _ => rfl⟩
  · rw [hone]
    refine ⟨Nat.le_refl _, fun io' hio => ?_, fun f' hf' hbad => ?_⟩
    · rw [List.mem_singleton.mp hio]
      exact ⟨f, hf, hp.cmd, hp.cmd.symm ▸ hp.entry⟩
    · -- the message has one payload struct, and it permits the ioctl
      rw [hf] at hf'
      cases hf'
      exfalso
      rcases hbad with hout | hshort
      · have hentry := hp.entry
        rw [List.getElem?_eq_none hout] at hentry
        cases hentry
      · exact absurd hp.whole (Nat.not_le.mpr hshort)

/-- A guest with two clocks. -/
def twoClocks : VirtioScmiInitParams :=
  { clockIds := ⟨some [7, 9], 2, rfl⟩, resetIds := .null, powerIds := .null }

/-- A `RATE_SET` of the clock at an index. -/
def rateSet (index : UInt8) : Mem := fun a => if a = 0x2008 then index else 0

/-- Index 1 sets the rate of clock 9, whatever the kernel answers; index 2 does not get
    to the kernel. -/
theorem scmi_allow_list_rateSet :
    (scmiHandleMessage (fun _ => none) (rateSet 1) (virtioScmiDoInit (some twoClocks)) 0x5 0
        ⟨0x2000, 20⟩ (scmiRespCtxInit ⟨0x3000, 8⟩) 0x14).ioctls =
      [⟨.clock, 0x05, 80, .clockRateSetInfo 9 0 0⟩] ∧
    (scmiHandleMessage (fun _ => none) (rateSet 2) (virtioScmiDoInit (some twoClocks)) 0x5 0
        ⟨0x2000, 20⟩ (scmiRespCtxInit ⟨0x3000, 8⟩) 0x14).ioctls = [] :=
  ⟨by decide, (scmi_allow_list (some twoClocks) (fun _ => none) (rateSet 2) 0x14 0x5 0
    ⟨0x2000, 20⟩ ⟨0x3000, 8⟩).2.2 ⟨.clock, 16, 4⟩ rfl (.inl (by decide))⟩

/-! ## 5. Every run of the device -/

/-- An ioctl about an id of the configuration. -/
def Allowed (params : Option VirtioScmiInitParams) (io : ScmiIoctl) : Prop :=
  io.args.id ∈ configuredIds params io.cmd

theorem scmiHandleMessage_allowed (params : Option VirtioScmiInitParams) (kernel : ScmiKernel)
    (mem : Mem) (protocolId msgId : UInt8) (token : UInt16) (reqIov : Iovec) (ctx : ScmiRespCtx) :
    ∀ io ∈ (scmiHandleMessage kernel mem (virtioScmiDoInit params) msgId token reqIov ctx
      protocolId).ioctls, Allowed params io := by
  obtain ⟨hids, hm⟩ := virtioScmiDoInit_configured params
  have hrun : Issues _ mem reqIov (idField protocolId msgId) (scmiHandleMessage kernel mem
      (virtioScmiDoInit params) msgId token reqIov ctx protocolId).ioctls :=
    scmiHandleMessage_issues hm protocolId
  intro io hio
  rcases hrun with hnone | ⟨f, io', _, hone, hp⟩
  · rw [hnone] at hio
    exact absurd hio List.not_mem_nil
  · rw [hone] at hio
    rw [List.mem_singleton.mp hio, Allowed, ← hids, hp.cmd]
    exact List.mem_of_getElem? hp.entry

/-- The device with its ioctls, one request a step: the label is the queue and memory
    that the request is found in. -/
def scmiMachine (kernel : List ScmiIoctl → ScmiKernel) (zm : ZoneTable) :
    Machine (SCMIDev × List ScmiIoctl) (CompletionQueue × Mem) :=
  { step := fun s l =>
      match scmiHandleOneRequest (scmiBackend kernel) zm l.1 l.2 s with
      | .ok (_, o) => some o.dev
      | .error _ => none }

/-- The device is the configured one, and every ioctl so far is allowed. -/
def AllowInv (params : Option VirtioScmiInitParams) (s : SCMIDev × List ScmiIoctl) : Prop :=
  s.1 = virtioScmiDoInit params ∧ ∀ io ∈ s.2, Allowed params io

variable {params : Option VirtioScmiInitParams} {s : SCMIDev × List ScmiIoctl}
  {kernel : List ScmiIoctl → ScmiKernel}

theorem AllowInv.serve (hi : AllowInv params s) (kernel : List ScmiIoctl → ScmiKernel) (mem : Mem)
    (vreq : VirtioRequest) : AllowInv params (scmiServe (scmiBackend kernel) mem s vreq).dev := by
  obtain ⟨dev, log⟩ := s
  obtain ⟨rfl, hlog⟩ := hi
  unfold scmiServe
  dsimp only
  split
  · split
    · exact ⟨rfl, hlog⟩
    · split
      · exact ⟨rfl, hlog⟩
      · -- the message: its ioctls are added to the log
        have hnew := scmiHandleMessage_allowed params (kernel log) mem
        split <;>
        · refine ⟨rfl, fun io hio => ?_⟩
          rcases List.mem_append.mp hio with hold | hadded
          · exact hlog io hold
          · exact hnew _ _ _ _ _ io hadded
  · exact ⟨rfl, hlog⟩

/-- The completion leaves the outcome as it is. -/
theorem scmiComplete_outcome {σ : Type} {q q' : CompletionQueue} {idx : UInt16}
    {o o' : ScmiOutcome σ} (h : scmiComplete q idx o = .ok (q', o')) : o' = o := by
  unfold scmiComplete at h
  split at h
  · cases h
  · cases h
    rfl

theorem allowInv_step {zm : ZoneTable}
    {s' : SCMIDev × List ScmiIoctl} {l : CompletionQueue × Mem} (hi : AllowInv params s)
    (hs : (scmiMachine kernel zm).step s l = some s') : AllowInv params s' := by
  change (match scmiHandleOneRequest (scmiBackend kernel) zm l.1 l.2 s with
    | .ok (_, o) => some o.dev
    | .error _ => none) = some s' at hs
  split at hs
  · next q o heq =>
    cases hs
    unfold scmiHandleOneRequest at heq
    split at heq
    · cases heq
    · obtain ⟨⟨ret, vreq, vq⟩, -, hend⟩ := bind_eq_ok.mp heq
      dsimp only at hend
      split at hend
      · exact (scmiComplete_outcome hend).symm ▸ hi
      · exact (scmiComplete_outcome hend).symm ▸ hi.serve kernel l.2 vreq
  · cases hs

/-- **Every ioctl of every run is about an id of the configuration.** -/
theorem scmi_ioctls_allowed {zm : ZoneTable}
    (h : (scmiMachine kernel zm).Reach (virtioScmiDoInit params, []) s) :
    ∀ io ∈ s.2, Allowed params io := by
  have hinv : AllowInv params s :=
    h.inv (AllowInv params) ⟨rfl, fun io hio => absurd hio List.not_mem_nil⟩
      fun _ _ _ hi _ hs => allowInv_step hi hs
  exact hinv.2

/-- A queue with a `RATE_SET` of the second clock, in the page of a guest. -/
def rateSetQueue : CompletionQueue :=
  ⟨{ (default : VirtQueue) with
      num := 2, descTable := 0x10000, availRing := 0x10100, usedRing := 0x10200 },
    ⟨0, fun _ => default⟩, []⟩

def rateSetMem : Mem := fun a =>
  match a.toNat with
  | 0x10001 => 0x13 | 0x10008 => 20 | 0x1000C => 1 | 0x1000E => 1
  | 0x10011 => 0x14 | 0x10018 => 8 | 0x1001C => 2
  | 0x10102 => 1
  | 0x10300 => 0x05 | 0x10301 => 0x50 | 0x10308 => 1
  | _ => 0

theorem scmi_ioctls_allowed_rateSet : ∃ s, (scmiMachine (fun _ _ => none) onePage).run
    (virtioScmiDoInit (some twoClocks), []) [(rateSetQueue, rateSetMem)] = some s ∧
      s.2 ≠ [] ∧ ∀ io ∈ s.2, Allowed (some twoClocks) io := by
  have hrun : (scmiMachine (fun _ _ => none) onePage).run (virtioScmiDoInit (some twoClocks), [])
      [(rateSetQueue, rateSetMem)] = some _ := rfl
  exact ⟨_, hrun, by decide, scmi_ioctls_allowed (Machine.reach_of_run hrun)⟩

end HvisorTool
