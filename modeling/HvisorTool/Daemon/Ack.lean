/-
  File:      HvisorTool/Daemon/Ack.lean
  Subject:   THE ACKNOWLEDGEMENT OF CONFIGURATION REQUESTS: `cfg_values` and `cfg_flags` of `struct
             virtio_bridge`, which `virtio_finish_cfg_req` writes and a waiting vCPU reads.

  A vCPU that makes an access without an interrupt waits until its counter in `cfg_flags` changes
  and then takes its value from `cfg_values`. What `virtio_handle_req` does is a list of events in
  program order, the access to the device and the stores to the bridge.

  * `handleEvents`, `CfgBox.apply`: the events of one request, and what they do to the two arrays;
  * `reqResult`: what the request should be answered with;
  * `Handled.Acked`: the request is acknowledged once, at the end and with its result,
    or, if it is one with an interrupt, not at all;
  * `acks_exact_iff`: in every sequence of requests exactly those with an interrupt that
    find no device break it, and the counters and values where none does.
-/
import HvisorTool.Daemon.Table

namespace HvisorTool

variable {δ : Type}

/-- `MAX_CPUS`. -/
def maxCpus : Nat := 32

/-! ## 1. One request -/

/-- What `virtio_handle_req` does that others can see, in program order. -/
inductive BridgeEvent where
  /-- The access to the registers of the device in this slot. -/
  | access (slot : Nat)
  | setValue (cpu : Nat) (value : UInt64)
  | bumpFlag (cpu : Nat)
  deriving DecidableEq, Repr

/-- `virtio_finish_cfg_req`. -/
def virtioFinishCfgReq (targetCpu : UInt32) (value : UInt64) : List BridgeEvent :=
  [.setValue targetCpu.toNat value, .bumpFlag targetCpu.toNat]

/-- The events of one call of `virtio_handle_req`. -/
def handleEvents (lookupOps : OpsTable δ) (s : Daemon δ)
    (req : DeviceReq) (ret : Int) : List BridgeEvent :=
  (findVdev s.vdevs req.srcZone req.address).toList.map .access ++
    match (virtioHandleReq lookupOps s.zoneMem s.vdevs req ret).cfgValue with
    | some value => virtioFinishCfgReq req.srcCpu.toUInt32 value
    | none => []

/-- What a request should be answered with: 0 for writes and for absent devices. -/
def reqResult (lookupOps : OpsTable δ) (s : Daemon δ) (req : DeviceReq) : UInt64 :=
  if req.isWrite != 0 then 0
  else
    match s.vdevs.find? (·.serves req.srcZone req.address) with
    | none => 0
    | some d =>
      match lookupOps d.type with
      | none => 0
      | some ops => (virtioMmioRead ops d (req.address - d.baseAddr) req.size.toUInt32).1

/-- A request that was handled: whether a device was there, the result it should get and
    the events it caused. -/
structure Handled where
  req : DeviceReq
  found : Bool
  result : UInt64
  events : List BridgeEvent

def handled (lookupOps : OpsTable δ) (s : Daemon δ) (req : DeviceReq) (ret : Int) : Handled :=
  { req := req
    found := (findVdev s.vdevs req.srcZone req.address).isSome
    result := reqResult lookupOps s req
    events := handleEvents lookupOps s req ret }

/-- The event is not a store to the bridge. -/
def BridgeEvent.IsAccess : BridgeEvent → Prop
  | .access _ => True
  | _ => False

/-- A request without an interrupt is acknowledged once, with its result and behind
    everything else; one with an interrupt is not acknowledged. -/
def Handled.Acked (h : Handled) : Prop :=
  if h.req.needInterrupt = 0 then
    ∃ before, (∀ e ∈ before, e.IsAccess) ∧
      h.events = before ++ [.setValue h.req.srcCpu.toNat h.result, .bumpFlag h.req.srcCpu.toNat]
  else ∀ e ∈ h.events, e.IsAccess

/-! ## 2. A sequence of requests -/

/-- The request that a step handles, if it handles one. -/
def handledBy (lookupOps : OpsTable δ) (s : Daemon δ) :
    TableAction δ → List Handled
  | .guest req ret => [handled lookupOps s req ret]
  | .start _ | .add _ => []

/-- The requests handled while the daemon does `as`, which may also add devices. -/
def handledReqs (lookupOps : OpsTable δ) :
    Daemon δ → List (TableAction δ) → List Handled
  | _, [] => []
  | s, a :: as =>
    handledBy lookupOps s a ++
      match tableStep lookupOps s a with
      | some s' => handledReqs lookupOps s' as
      | none => []

/-- A guest's request comes from a CPU that exists. -/
def TableAction.CpuOk : TableAction δ → Prop
  | .guest req _ => req.srcCpu.toNat < maxCpus
  | _ => True

/-- `cfg_values` and `cfg_flags`. -/
structure CfgBox where
  cfgValues : Nat → UInt64
  cfgFlags : Nat → UInt64

def CfgBox.apply (b : CfgBox) : BridgeEvent → CfgBox
  | .access _ => b
  | .setValue cpu value => { b with cfgValues := Function.update b.cfgValues cpu value }
  | .bumpFlag cpu => { b with cfgFlags := Function.update b.cfgFlags cpu (b.cfgFlags cpu + 1) }

/-- The bridge behind the requests. -/
def CfgBox.after (b : CfgBox) (hs : List Handled) : CfgBox :=
  (hs.flatMap (·.events)).foldl CfgBox.apply b

/-- CPU `c` waits for the request. -/
def Handled.waits (c : Nat) (h : Handled) : Bool :=
  h.req.needInterrupt == 0 && h.req.srcCpu.toNat == c

/-! ## 3. The events of one request -/

section Request

variable (lookupOps : OpsTable δ) (s : Daemon δ)
  {req : DeviceReq} (ret : Int)

theorem find_of_findVdev {i : Nat} (hi : findVdev s.vdevs req.srcZone req.address = some i) :
    s.vdevs.find? (·.serves req.srcZone req.address) = s.vdevs[i]? ∧ ∃ d, s.vdevs[i]? = some d := by
  obtain ⟨hlt, hserves, hfirst⟩ := List.findIdx?_eq_some_iff_getElem.mp hi
  have hget : s.vdevs[i]? = some s.vdevs[i] := List.getElem?_eq_getElem hlt
  refine ⟨?_, _, hget⟩
  rw [hget, List.find?_eq_some_iff_getElem]
  exact ⟨hserves, i, hlt, rfl, fun j hj => by simpa using hfirst j hj⟩

/-- Without a device the request is acknowledged with 0, whatever kind it is. -/
theorem handleEvents_absent (hv : findVdev s.vdevs req.srcZone req.address = none) :
    handleEvents lookupOps s req ret = virtioFinishCfgReq req.srcCpu.toUInt32 0 ∧
      reqResult lookupOps s req = 0 := by
  constructor
  · unfold handleEvents virtioHandleReq
    rw [hv]
    rfl
  · have hnone : s.vdevs.find? (·.serves req.srcZone req.address) = none := by
      rw [List.find?_eq_none]
      exact fun d hd => by simpa using (List.findIdx?_eq_none_iff.mp hv) d hd
    unfold reqResult
    rw [hnone]
    exact ite_self _

/-- With a device it is acknowledged with its result, if it is one without an interrupt. -/
theorem handleEvents_served {i : Nat} (hv : findVdev s.vdevs req.srcZone req.address = some i) :
    handleEvents lookupOps s req ret =
      .access i ::
        if req.needInterrupt != 0 then []
        else virtioFinishCfgReq req.srcCpu.toUInt32 (reqResult lookupOps s req) := by
  obtain ⟨hfind, d, hd⟩ := find_of_findVdev s hv
  rw [hd] at hfind
  have hresult : (serveReq lookupOps s.zoneMem req ret d).2 = reqResult lookupOps s req := by
    unfold serveReq reqResult
    rw [hfind]
    dsimp only
    cases lookupOps d.type with
    | none => exact (ite_self _).symm
    | some ops =>
      by_cases hw : (req.isWrite != 0) = true
      · simp only [hw, if_true]
      · simp only [hw, if_false, Bool.false_eq_true]
  unfold handleEvents virtioHandleReq
  rw [hv]
  dsimp only
  rw [hd, Option.map_some, hresult]
  by_cases hn : (req.needInterrupt != 0) = true
  · rw [if_pos hn, if_pos hn]
    rfl
  · rw [if_neg hn, if_neg hn]
    rfl

theorem toUInt32_cpu {cpu : UInt64} (h : cpu.toNat < maxCpus) : cpu.toUInt32.toNat = cpu.toNat := by
  rw [UInt64.toNat_toUInt32]
  exact Nat.mod_eq_of_lt (h.trans (by decide))

/-- **A request is acknowledged as it should be unless it is one with an interrupt that
    finds no device.** -/
theorem acked_iff (hcpu : req.srcCpu.toNat < maxCpus) :
    (handled lookupOps s req ret).Acked ↔
      (req.needInterrupt ≠ 0 → (findVdev s.vdevs req.srcZone req.address).isSome = true) := by
  have hfinish : ∀ value, virtioFinishCfgReq req.srcCpu.toUInt32 value =
      [.setValue req.srcCpu.toNat value, .bumpFlag req.srcCpu.toNat] := by
    intro value
    unfold virtioFinishCfgReq
    rw [toUInt32_cpu hcpu]
  have hrefused : ∀ value before,
      ¬ ∀ e ∈ before ++ virtioFinishCfgReq req.srcCpu.toUInt32 value, e.IsAccess := by
    intro value before hall
    exact hall (.bumpFlag req.srcCpu.toUInt32.toNat) (by simp [virtioFinishCfgReq])
  cases hv : findVdev s.vdevs req.srcZone req.address with
  | none =>
    obtain ⟨hev, hres⟩ := handleEvents_absent lookupOps s ret hv
    unfold Handled.Acked handled
    dsimp only
    by_cases hn : req.needInterrupt = 0
    · rw [if_pos hn, hev, hres, hfinish]
      exact ⟨fun _ h => absurd hn h, fun _ => ⟨[], nofun, rfl⟩⟩
    · rw [if_neg hn, hev]
      exact ⟨fun hall => absurd hall (hrefused 0 []), fun h => absurd (h hn) nofun⟩
  | some i =>
    have hev := handleEvents_served lookupOps s ret hv
    have hacc : ∀ e ∈ [BridgeEvent.access i], e.IsAccess := by
      intro e he
      rw [List.mem_singleton.mp he]
      trivial
    unfold Handled.Acked handled
    dsimp only
    by_cases hn : req.needInterrupt = 0
    · rw [if_pos hn, hev, hn, hfinish]
      exact ⟨fun _ _ => rfl, fun _ => ⟨[.access i], hacc, rfl⟩⟩
    · have hne : (req.needInterrupt != 0) = true := bne_iff_ne.mpr hn
      rw [if_neg hn, hev, if_pos hne]
      exact ⟨fun _ _ => rfl, fun _ => hacc⟩

end Request

/-! ## 4. Every sequence -/

section Run

variable (lookupOps : OpsTable δ)

/-- A handled request was handled in some state of the run. -/
theorem mem_handledReqs {s : Daemon δ} {as : List (TableAction δ)} {h : Handled}
    (hh : h ∈ handledReqs lookupOps s as) :
    ∃ s' req ret, TableAction.guest req ret ∈ as ∧ h = handled lookupOps s' req ret := by
  induction as generalizing s with
  | nil => cases hh
  | cons a as ih =>
    rw [handledReqs, List.mem_append] at hh
    rcases hh with hnow | hlater
    · cases a with
      | start | add => cases hnow
      | guest req ret =>
        exact ⟨s, req, ret, List.mem_cons_self, List.mem_singleton.mp hnow⟩
    · cases hs : tableStep lookupOps s a with
      | none => rw [hs] at hlater; cases hlater
      | some s' =>
        rw [hs] at hlater
        obtain ⟨s'', req, ret, hmem, he⟩ := ih hlater
        exact ⟨s'', req, ret, List.mem_cons_of_mem _ hmem, he⟩

theorem mem_handledReqs_acked_iff {s : Daemon δ} {as : List (TableAction δ)}
    (hcpu : ∀ a ∈ as, a.CpuOk) {h : Handled} (hh : h ∈ handledReqs lookupOps s as) :
    h.Acked ↔ (h.req.needInterrupt ≠ 0 → h.found = true) := by
  obtain ⟨s', req, ret, hmem, rfl⟩ := mem_handledReqs lookupOps hh
  exact acked_iff lookupOps s' ret (hcpu _ hmem)

end Run

/-! ## 5. The counters and values -/

/-- Accesses to devices leave the bridge alone. -/
theorem CfgBox.foldl_access (b : CfgBox) {evs : List BridgeEvent} (h : ∀ e ∈ evs, e.IsAccess) :
    evs.foldl CfgBox.apply b = b := by
  induction evs with
  | nil => rfl
  | cons e evs ih =>
    have he : b.apply e = b := by
      have hacc := h e List.mem_cons_self
      cases e with
      | access slot => rfl
      | setValue | bumpFlag => cases hacc
    rw [List.foldl_cons, he]
    exact ih fun e he => h e (List.mem_cons_of_mem _ he)

/-- What one acknowledged request does to the entries of CPU `c`. -/
theorem CfgBox.foldl_acked (b : CfgBox) {h : Handled} (hack : h.Acked) (c : Nat) :
    (h.events.foldl CfgBox.apply b).cfgFlags c = b.cfgFlags c + (if h.waits c then 1 else 0) ∧
      (h.events.foldl CfgBox.apply b).cfgValues c =
        if h.waits c then h.result else b.cfgValues c := by
  unfold Handled.Acked at hack
  unfold Handled.waits
  by_cases hn : h.req.needInterrupt = 0
  · rw [if_pos hn] at hack
    obtain ⟨before, hbefore, hev⟩ := hack
    rw [hev, List.foldl_append, b.foldl_access hbefore, hn]
    by_cases hc : h.req.srcCpu.toNat = c
    · subst hc
      simp [CfgBox.apply]
    · have hc' : c ≠ h.req.srcCpu.toNat := fun he => hc he.symm
      simp [CfgBox.apply, hc, hc']
  · rw [if_neg hn] at hack
    rw [b.foldl_access hack]
    simp [hn]

/-- The value that the last request for which CPU `c` waited was answered with. -/
def lastResult (c : Nat) (hs : List Handled) : Option UInt64 :=
  (hs.reverse.find? (Handled.waits c)).map (·.result)

theorem CfgBox.after_acked (b : CfgBox) {hs : List Handled} (hack : ∀ h ∈ hs, h.Acked) (c : Nat) :
    (b.after hs).cfgFlags c = b.cfgFlags c + UInt64.ofNat (hs.countP (Handled.waits c)) ∧
      (b.after hs).cfgValues c = (lastResult c hs).getD (b.cfgValues c) := by
  induction hs generalizing b with
  | nil => exact ⟨(UInt64.add_zero _).symm, rfl⟩
  | cons h hs ih =>
    obtain ⟨hflag, hvalue⟩ := b.foldl_acked (hack h List.mem_cons_self) c
    obtain ⟨ihflag, ihvalue⟩ :=
      ih (h.events.foldl CfgBox.apply b) fun h hh => hack h (List.mem_cons_of_mem _ hh)
    have hafter : b.after (h :: hs) = (h.events.foldl CfgBox.apply b).after hs := by
      unfold CfgBox.after
      rw [List.flatMap_cons, List.foldl_append]
    rw [hafter, ihflag, ihvalue, hflag, hvalue]
    constructor
    · rw [List.countP_cons]
      by_cases hw : h.waits c = true
      · rw [if_pos hw, if_pos hw, UInt64.ofNat_add, UInt64.add_assoc,
          UInt64.add_comm (UInt64.ofNat _)]
        rfl
      · rw [if_neg hw, if_neg hw, UInt64.add_zero]
        rfl
    · unfold lastResult
      rw [List.reverse_cons, List.find?_append]
      cases hs.reverse.find? (Handled.waits c) with
      | some h' => rfl
      | none =>
        by_cases hw : h.waits c = true <;> simp [hw]

/-- **Requests are acknowledged as they should be, in a sequence of any requests,
    exactly where each request with an interrupt finds a device**: once for each request
    without an interrupt, with its result and at the end of its handling, and never for
    one with an interrupt. The counter of a CPU then tells how many of its waiting
    requests were answered, and its value is the result of the last one. -/
theorem acks_exact_iff (lookupOps : OpsTable δ)
    (s : Daemon δ) (as : List (TableAction δ)) (hcpu : ∀ a ∈ as, a.CpuOk) :
    ((∀ h ∈ handledReqs lookupOps s as, h.Acked) ↔
        ∀ h ∈ handledReqs lookupOps s as, h.req.needInterrupt ≠ 0 → h.found = true) ∧
      ((∀ h ∈ handledReqs lookupOps s as, h.req.needInterrupt ≠ 0 → h.found = true) →
        ∀ (b : CfgBox) (c : Nat),
          (b.after (handledReqs lookupOps s as)).cfgFlags c = b.cfgFlags c +
              UInt64.ofNat ((handledReqs lookupOps s as).countP (Handled.waits c)) ∧
            (b.after (handledReqs lookupOps s as)).cfgValues c =
              (lastResult c (handledReqs lookupOps s as)).getD (b.cfgValues c)) := by
  have hiff : ∀ h ∈ handledReqs lookupOps s as,
      (h.Acked ↔ (h.req.needInterrupt ≠ 0 → h.found = true)) :=
    fun h hh => mem_handledReqs_acked_iff lookupOps hcpu hh
  refine ⟨forall₂_congr hiff, ?_⟩
  intro hfound b c
  exact b.after_acked (fun h hh => (hiff h hh).mpr (hfound h hh)) c

/-- CPU 3 of zone 1 reads the magic value of a block device and then notifies its queue,
    the latter with an interrupt. -/
def readThenNotify : List (TableAction Unit) :=
  [.guest ⟨3, 0xa003c00, 4, 0, 1, 0, 0⟩ 0, .guest ⟨3, 0xa003c50, 4, 0, 1, 1, 1⟩ 0]

theorem acks_exact_readThenNotify :
    ((⟨fun _ => 0, fun _ => 0⟩ : CfgBox).after
        (handledReqs (fun _ => some bareOps) twoBlockDaemon readThenNotify)).cfgFlags 3 = 1 ∧
      ((⟨fun _ => 0, fun _ => 0⟩ : CfgBox).after
        (handledReqs (fun _ => some bareOps) twoBlockDaemon readThenNotify)).cfgValues 3 =
          0x74726976 := by
  have hcpu : ∀ a ∈ readThenNotify, a.CpuOk := by
    intro a ha
    rcases List.mem_cons.mp ha with rfl | ha
    · exact (by decide : (3 : Nat) < maxCpus)
    · rw [List.mem_singleton.mp ha]
      exact (by decide : (3 : Nat) < maxCpus)
  have hfound : ∀ h ∈ handledReqs (fun _ => some bareOps) twoBlockDaemon readThenNotify,
      h.req.needInterrupt ≠ 0 → h.found = true := by decide
  obtain ⟨hflag, hvalue⟩ := (acks_exact_iff (fun _ => some bareOps) twoBlockDaemon readThenNotify
    hcpu).2 hfound ⟨fun _ => 0, fun _ => 0⟩ 3
  rw [hflag, hvalue]
  exact ⟨by decide, by decide⟩

/-- A request with an interrupt to an address without a device is acknowledged. -/
theorem interrupt_request_acked :
    (handled (fun _ => some bareOps) daemonStart ⟨3, 0xa003c50, 4, 0, 1, 1, 1⟩ 0).events =
        [.setValue 3 0, .bumpFlag 3] ∧
      ¬ (handled (fun _ => some bareOps) daemonStart ⟨3, 0xa003c50, 4, 0, 1, 1, 1⟩ 0).Acked := by
  have hev : (handled (fun _ => some bareOps) daemonStart ⟨3, 0xa003c50, 4, 0, 1, 1, 1⟩ 0).events =
      [.setValue 3 0, .bumpFlag 3] := by decide
  refine ⟨hev, ?_⟩
  intro hack
  unfold Handled.Acked at hack
  rw [if_neg (by decide), hev] at hack
  exact hack (.bumpFlag 3) (by decide)

end HvisorTool
