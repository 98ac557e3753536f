/-
  File:      HvisorTool/Config/ZoneSafe.lean
  Subject:   A ZONE'S DESCRIPTION STAYS IN ITS ARRAYS: which descriptions `zone_start_from_json`
             turns into stores in range and a valid `zone_config_t`.

  * `ZoneEvent.Safe`, `ConfigValid`: a store in range, a shift below 64, a valid configuration;
  * `ZoneParses`, `BusesParse`, `StartAnswered`: what it takes to come to the devices, and to
    `HVISOR_ZONE_START`;
  * `ZoneFits`: processors below 64, not more devices than the array holds, a name that leaves
    room for its terminator, and no interrupt that is read as another one;
  * `zone_config_safe_iff`: these descriptions, and no others, are safe.
-/
import HvisorTool.Config.ZoneParse
import Mathlib.Data.List.GetD

namespace HvisorTool

open Library

/-! ## 1. Valid configurations -/

/-- **A configuration that can be handed on**, for the items of the `interrupts` array. -/
structure ConfigValid (interrupts : List Json) (config : ZoneConfig) : Prop where
  regions : config.numMemoryRegions.toNat ≤ configMaxMemoryRegions
  ivcs : config.numIvcConfigs.toNat ≤ configMaxIvcConfigs
  buses : config.numPciBus.toNat ≤ configPciBusMaxnum
  devs : config.numPciDevs.toNat ≤ configMaxPciDev
  name : 0 ∈ config.name
  bitmap : ∀ i : Nat, bitSet config.interruptsBitmap i = true ↔
    ∃ item ∈ interrupts, Json.Denotes (some item) i

/-- A step that stays in range. -/
def ZoneEvent.Safe (interrupts : List Json) : ZoneEvent → Prop
  | .shift amount => 0 ≤ amount ∧ amount < 64
  | .store array i => i < array.capacity
  | .zoneStart config => ConfigValid interrupts config
  | .load _ | .setBootMode _ _ => True

/-- **Every step of `zone_start_from_json` stays in range.** -/
def ZoneSafe [CJson] (env : ZoneEnv) (file : ZoneFile) (config : ZoneConfig) : Prop :=
  ∀ e ∈ (zoneStartFromJson env file config).log, e.Safe
    (match file with
    | .text root => Json.itemsOf root "interrupts"
    | _ => [])

/-! ## 2. Steps that are safe whatever the description -/

/-- A store in range, or a load. -/
def ZoneEvent.Quiet : ZoneEvent → Prop
  | .store array i => i < array.capacity
  | .load _ | .setBootMode _ _ => True
  | .shift _ | .zoneStart _ => False

theorem ZoneEvent.Quiet.safe {e : ZoneEvent} (h : e.Quiet) (interrupts : List Json) :
    e.Safe interrupts := by
  cases e with
  | store array i => exact h
  | load event | setBootMode zoneId paddr => trivial
  | shift amount | zoneStart config => cases h

/-- Code all of whose steps are. -/
def Quiet {α : Type} (x : Zoning α) : Prop := ∀ e ∈ x.log, e.Quiet

section Quiet

variable {α β : Type}

theorem quiet_lift (r : Except ZoneFault α) : Quiet (.lift r) := fun e he => (by cases he)

theorem quiet_bind {x : Zoning α} {f : α → Zoning β} (hx : Quiet x) (hf : ∀ a, Quiet (f a)) :
    Quiet (x.bind f) :=
  Traced.forall_log_bind.mpr ⟨hx, fun a _ => hf a⟩

theorem quiet_tell {x : Zoning α} {e : ZoneEvent} (he : e.Quiet) (hx : Quiet x) :
    Quiet (x.tell e) := List.forall_mem_cons.mpr ⟨he, hx⟩

theorem quiet_require (ok : Bool) : Quiet (Zoning.require ok) := by
  cases ok <;> exact quiet_lift _

theorem quiet_zoning (x : Loading α) : Quiet x.zoning := by
  intro e he
  obtain ⟨l, -, rfl⟩ := List.mem_map.mp he
  trivial

/-- A loop whose passes store to the element of their index. -/
theorem quiet_forItems {ι : Type} {body : Nat → ι → α → Zoning α} {array : ConfigArray}
    (hbody : ∀ i item a, ∀ e ∈ (body i item a).log, e = .store array i) {items : List ι}
    (h : items.length ≤ array.capacity) (a : α) : Quiet (.forItems body 0 items a) := by
  intro e he
  obtain ⟨k, hk, rfl⟩ := Traced.forItems_log hbody 0 items a e he
  show 0 + k < array.capacity
  omega

end Quiet

section Fields

variable [CJson] {α : Type} {array : ConfigArray} {i : Nat} {json : Json}

theorem parseFields_log (fs : List (Field α)) (a : α) :
    ∀ e ∈ (parseFields array i json fs a).log, e = .store array i := by
  induction fs generalizing a with
  | nil => exact fun e he => (by cases he)
  | cons f fs ih =>
    unfold parseFields
    split
    · exact fun e he => (by cases he)
    · exact List.forall_mem_cons.mpr ⟨rfl, ih _⟩

theorem parseValueint_log (key : String) :
    ∀ e ∈ (parseValueint array i json key).log, e = .store array i := by
  unfold parseValueint
  split
  · exact fun e he => (by cases he)
  · exact fun e he => List.mem_singleton.mp he

theorem parseRegion_log (i : Nat) (json : Json) (config : ZoneConfig) :
    ∀ e ∈ (parseRegion i json config).log, e = .store .memoryRegions i := by
  refine Traced.forall_log_bind.mpr ⟨parseFields_log _ _, fun region _ => ?_⟩
  split
  · exact fun e he => (by cases he)
  split
  · exact fun e he => (by cases he)
  split
  · exact fun e he => (by cases he)
  · exact fun e he => List.mem_singleton.mp he

theorem parseIvc_log (i : Nat) (json : Json) (config : ZoneConfig) :
    ∀ e ∈ (parseIvc i json config).log, e = .store .ivcConfigs i := by
  refine Traced.forall_log_bind.mpr ⟨parseValueint_log _, fun ivcId _ => ?_⟩
  refine Traced.forall_log_bind.mpr ⟨parseValueint_log _, fun peerId _ => ?_⟩
  refine Traced.forall_log_bind.mpr ⟨parseFields_log _ _, fun ivc _ => ?_⟩
  refine Traced.forall_log_bind.mpr ⟨parseValueint_log _, fun interruptNum _ => ?_⟩
  refine Traced.forall_log_bind.mpr ⟨parseValueint_log _, fun maxPeers _ => ?_⟩
  exact fun e he => (by cases he)

theorem parsePciBus_log (i : Nat) (json : Json) (config : ZoneConfig) :
    ∀ e ∈ (parsePciBus i json config).log, e = .store .pciConfig i := by
  refine Traced.forall_log_bind.mpr ⟨?_, fun _ _ => ?_⟩
  · unfold Zoning.require
    split <;> exact fun e he => (by cases he)
  · refine Traced.forall_log_bind.mpr ⟨parseFields_log _ _, fun bus _ => ?_⟩
    exact fun e he => (by cases he)

omit [CJson] in
theorem quiet_parseInterrupts (items : List Json) (config : ZoneConfig) :
    Quiet (.forItems parseInterrupt 0 items config) := by
  have hbody : ∀ i json config, ∀ e ∈ (parseInterrupt i json config).log, e.Quiet := by
    intro i json config
    unfold parseInterrupt
    split
    · exact quiet_lift _
    next irq _ =>
    split
    · exact quiet_lift _
    next hlt =>
    refine quiet_tell ?_ (quiet_lift _)
    show irq.toNat / 32 < 1024 / 32
    have hlt' : irq.toNat < 1024 := Nat.not_le.mp hlt
    omega
  intro e he
  obtain ⟨k, -, hquiet⟩ := Traced.forItems_log hbody 0 items config e he
  exact hquiet

end Fields

section Stages

variable (env : ZoneEnv)

theorem quiet_loadItem (answer : LoadAnswer) (json : Json) (paddr : UInt64) :
    Quiet (loadItem env answer json paddr) := by
  unfold loadItem
  split
  · exact quiet_lift _
  · exact quiet_zoning _

variable [CJson] (root : Option Json) (config : ZoneConfig)

theorem quiet_loadZone (items : ZoneItems) (config : ZoneConfig) :
    Quiet (loadZone env root items config) := by
  refine quiet_bind ?_ fun kernel => quiet_bind ?_ fun dtbSize => quiet_bind ?_ fun _ => ?_
  · unfold loadZoneKernel
    split
    · split
      · refine quiet_bind (quiet_zoning _) fun info => ?_
        cases info <;> exact quiet_lift _
      · exact quiet_lift _
    · exact quiet_bind (quiet_loadItem env _ _ _) fun _ => quiet_lift _
  · unfold loadDtb
    split
    · exact quiet_lift _
    · exact quiet_loadItem env _ _ _
  · unfold parseModules
    split
    · intro e he
      have hbody : ∀ i json u, ∀ e ∈ (parseModule env i json u).log, e.Quiet := by
        intro i json u
        unfold parseModule
        split
        · refine quiet_bind (quiet_require _) fun _ => ?_
          split
          · exact quiet_lift _
          · exact quiet_bind (quiet_zoning _) fun _ => quiet_lift _
        · exact quiet_lift _
      obtain ⟨k, -, hquiet⟩ := Traced.forItems_log hbody 0 _ _ e he
      exact hquiet
    · exact quiet_lift _
  · exact quiet_lift _

theorem quiet_parseArchImage (answer : LoadAnswer) (arch : Json) (pathKey : String)
    (keys : List String) (addressKey : String) :
    Quiet (parseArchImage env answer arch pathKey keys addressKey) := by
  unfold parseArchImage
  split
  · exact quiet_lift _
  · refine quiet_bind (quiet_require _) fun _ => ?_
    exact quiet_bind (quiet_loadItem env _ _ _) fun _ => quiet_lift _

theorem quiet_parseX8664 (arch : Json) : Quiet (parseX8664 env root arch) := by
  refine quiet_bind (quiet_require _) fun _ => quiet_bind ?_ fun _ => ?_
  · split
    · exact quiet_lift _
    · exact quiet_parseArchImage env _ _ _ _ _
  refine quiet_bind (quiet_parseArchImage env _ _ _ _ _) fun _ => quiet_bind ?_ fun _ => ?_
  · unfold parseArchCmdline
    split
    · exact quiet_lift _
    · refine quiet_bind (quiet_require _) fun _ => quiet_bind ?_ fun _ => quiet_lift _
      unfold loadStrItem
      split
      · exact quiet_lift _
      · exact quiet_zoning _
  · exact quiet_bind (quiet_parseArchImage env _ _ _ _ _) fun _ => quiet_require _

theorem quiet_parseArm64 (arch : Json) : Quiet (parseArm64 arch) := by
  unfold parseArm64
  split
  · exact quiet_lift _
  split
  · exact quiet_lift _
  refine quiet_bind ?_ fun _ => ?_
  · unfold parseGic
    split
    · exact quiet_require _
    split
    · refine quiet_bind (quiet_require _) fun _ => ?_
      split
      · exact quiet_require _
      · exact quiet_lift _
    · exact quiet_lift _
  · split
    · exact quiet_require _
    · exact quiet_lift _

theorem quiet_parseArchConfig : Quiet (parseArchConfig env root) := by
  unfold parseArchConfig
  split
  · exact quiet_lift _
  split
  · exact quiet_lift _
  split
  · exact quiet_parseArm64 _
  · exact quiet_require _
  · exact quiet_parseX8664 env root _
  · exact quiet_lift _

/-- The loops over arrays whose number of items is tested first. -/
theorem quiet_parseArrays (items : ZoneItems) (config : ZoneConfig) :
    Quiet (parseArrays items config) := by
  refine Traced.forall_log_bind.mpr ⟨quiet_require _, fun _ hcounts => ?_⟩
  have hcounts := of_decide_eq_true (require_ok hcounts)
  refine quiet_bind (quiet_forItems parseRegion_log hcounts.1 _) fun config => ?_
  refine quiet_bind (quiet_parseInterrupts _ _) fun config => ?_
  refine Traced.forall_log_bind.mpr ⟨quiet_require _, fun _ hcount => ?_⟩
  exact quiet_forItems parseIvc_log (of_decide_eq_true (require_ok hcount)) _

theorem quiet_parsePciBuses : Quiet (parsePciBuses root config) := by
  refine quiet_bind (quiet_require _) fun _ => ?_
  refine Traced.forall_log_bind.mpr ⟨quiet_require _, fun _ hcount => ?_⟩
  exact quiet_forItems parsePciBus_log (of_decide_eq_true (require_ok hcount)) _

omit [CJson] in
theorem quiet_zoneApplyDynamicEcam : Quiet (zoneApplyDynamicEcam env config) := by
  unfold zoneApplyDynamicEcam
  split
  · exact quiet_lift _
  split
  · exact quiet_lift _
  split
  · exact quiet_lift _
  · exact quiet_tell (by decide : 0 < ConfigArray.pciConfig.capacity) (quiet_lift _)

omit [CJson] in
theorem quiet_bootModeApply (paddr : Option UInt64) : Quiet (bootModeApply env config paddr) := by
  unfold bootModeApply
  split
  · exact quiet_lift _
  · exact quiet_tell trivial (quiet_require _)

end Stages

/-! ## 3. The processors and the devices -/

section Descriptions

variable [CJson] (env : ZoneEnv) (interrupts : List Json) (config : ZoneConfig)

/-- The shift amounts are the `valueint`s of the items. -/
theorem parseCpus_safe_iff (cpus : List Json) (mask : UInt64) :
    (∀ e ∈ (Traced.forItems parseCpu 0 cpus mask).log, e.Safe interrupts) ↔
      ∀ cpu ∈ cpus, 0 ≤ cpu.valueint ∧ cpu.valueint < 64 := by
  have hok : ∀ i json mask, (parseCpu i json mask).Returns ↔ True := fun i json mask => by
    simp [parseCpu]
  have hlog : ∀ i json mask, (parseCpu i json mask).log = [.shift json.valueint] :=
    fun _ _ _ => rfl
  rw [Traced.forall_log_forItems_iff hok hlog]
  constructor
  · intro h cpu hcpu
    obtain ⟨k, hk⟩ := List.mem_iff_getElem?.mp hcpu
    exact h k cpu hk (fun _ _ => trivial) _ (List.mem_singleton.mpr rfl)
  · intro h k cpu hk _ e he
    rw [List.mem_singleton.mp he]
    exact h cpu (List.mem_of_getElem? hk)

/-- The number of fields that are parsed before one cannot be. -/
def parsedFields {α : Type} (fs : List (Field α)) (json : Json) : Nat :=
  (fs.takeWhile fun f => (f.read json).isSome).length

theorem parseFields_log_eq {α : Type} (array : ConfigArray) (i : Nat) (json : Json)
    (fs : List (Field α)) (a : α) :
    (parseFields array i json fs a).log =
      List.replicate (parsedFields fs json) (.store array i) := by
  unfold parsedFields
  induction fs generalizing a with
  | nil => rfl
  | cons f fs ih =>
    unfold parseFields
    cases hread : f.read json with
    | none => simp [hread, Zoning.fails]
    | some v => simpa [hread, List.replicate_succ] using ih (f.set v a)

theorem parsePciDev_log (i : Nat) (json : Json) (config : ZoneConfig) :
    (parsePciDev i json config).log =
      List.replicate (parsedFields pciDevFields json) (.store .allocPciDevs i) := by
  rw [← parseFields_log_eq .allocPciDevs i json pciDevFields (config.allocPciDevs.getD i .zero)]
  unfold parsePciDev
  generalize parseFields .allocPciDevs i json pciDevFields _ = run
  obtain ⟨log, result⟩ := run
  cases result <;> simp

/-- The first field of a device, which decides whether anything is stored. -/
def DomainParses (dev : Json) : Prop :=
  (JsonTarget.read .linuxU8 (Json.getObjectItem (some dev) "domain")).isSome = true

theorem parsedFields_pos_iff (dev : Json) :
    0 < parsedFields pciDevFields dev ↔ DomainParses dev := by
  unfold parsedFields pciDevFields DomainParses Field.read
  rw [List.takeWhile_cons]
  dsimp only
  split
  next hread => simpa using hread
  next hread => simpa using hread

/-- **There is a device behind the end of the array, and it is come to.** -/
def DevsOverflow (devs : List Json) : Prop :=
  ∃ dev, devs[configMaxPciDev]? = some dev ∧ DomainParses dev ∧
    ∀ before ∈ devs.take configMaxPciDev, FieldsParse pciDevFields before

theorem parsePciDevs_safe_iff (root : Option Json) (config : ZoneConfig) :
    (∀ e ∈ (parsePciDevs root config).log, e.Safe interrupts) ↔
      ¬ DevsOverflow (Json.itemsOf root "alloc_pci_devs") := by
  unfold parsePciDevs
  rw [Traced.forall_log_forItems_iff returns_parsePciDev parsePciDev_log]
  generalize Json.itemsOf root "alloc_pci_devs" = devs
  constructor
  · rintro h ⟨dev, hdev, hdomain, hbefore⟩
    have hstore := h configMaxPciDev dev hdev hbefore (.store .allocPciDevs (0 + configMaxPciDev))
      (List.mem_replicate.mpr ⟨?_, rfl⟩)
    · have hlt : 0 + configMaxPciDev < configMaxPciDev := hstore
      exact absurd hlt (by decide)
    · exact Nat.pos_iff_ne_zero.mp ((parsedFields_pos_iff dev).mpr hdomain)
  · intro hno k dev hk hbefore e he
    obtain ⟨hpos, rfl⟩ := List.mem_replicate.mp he
    refine Nat.not_le.mp fun hle => hno ?_
    have hle : configMaxPciDev ≤ k := by
      rw [Nat.zero_add] at hle
      exact hle
    have htake : devs.take configMaxPciDev ⊆ devs.take k := (List.take_prefix_take_left hle).subset
    have hfirst : ∀ before ∈ devs.take configMaxPciDev, FieldsParse pciDevFields before :=
      fun before hb => hbefore before (htake hb)
    rcases Nat.eq_or_lt_of_le hle with rfl | hlt
    · exact ⟨dev, hk, (parsedFields_pos_iff dev).mp (Nat.pos_of_ne_zero hpos), hfirst⟩
    · -- a device further on is come to only through the one behind the end
      have hlen : configMaxPciDev < devs.length :=
        Nat.lt_trans hlt (List.getElem?_eq_some_iff.mp hk).1
      have hthere : devs[configMaxPciDev]? = some devs[configMaxPciDev] :=
        List.getElem?_eq_getElem hlen
      have hmem : devs[configMaxPciDev] ∈ devs.take k := by
        have hget : (devs.take k)[configMaxPciDev]? = some devs[configMaxPciDev] := by
          rw [List.getElem?_take_of_lt hlt, hthere]
        exact List.mem_of_getElem? hget
      refine ⟨_, hthere, ?_, hfirst⟩
      exact hbefore _ hmem _ List.mem_cons_self

/-! ## 4. The start -/

/-- The device answers, so that `HVISOR_ZONE_START` is come to. -/
structure StartAnswered (env : ZoneEnv) (root : Option Json) : Prop where
  opens : env.opens = true
  ecam : Json.itemsOf root "pci_config" ≠ [] → env.ecamBase.isSome = true
  bootMode : bootModeIsMultiboot2 root = true → env.bootModeSet = true

omit [CJson] in
theorem ConfigValid.of_head {interrupts : List Json} {config config' : ZoneConfig}
    (h : ConfigValid interrupts config)
    (hsame : (config'.head, config'.numPciBus, config'.numPciDevs) =
      (config.head, config.numPciBus, config.numPciDevs)) : ConfigValid interrupts config' := by
  obtain ⟨hhead, hcounts⟩ := Prod.mk.inj hsame
  obtain ⟨hbuses, hdevs⟩ := Prod.mk.inj hcounts
  obtain ⟨hregions, hhead⟩ := Prod.mk.inj hhead
  obtain ⟨hivcs, hhead⟩ := Prod.mk.inj hhead
  obtain ⟨hbits, hname⟩ := Prod.mk.inj hhead
  exact ⟨hregions ▸ h.regions, hivcs ▸ h.ivcs, hbuses ▸ h.buses, hdevs ▸ h.devs, hname ▸ h.name,
    hbits ▸ h.bitmap⟩

omit [CJson] in
theorem zoneKeeps_zoneApplyDynamicEcam :
    ZoneKeeps (fun c => (c.head, c.numPciBus, c.numPciDevs)) config
      (zoneApplyDynamicEcam env config) := by
  unfold zoneApplyDynamicEcam
  split
  · exact zoneKeeps_ok rfl
  split
  · exact zoneKeeps_error
  split <;> exact zoneKeeps_ok rfl

omit [CJson] in
theorem returns_zoneApplyDynamicEcam :
    (zoneApplyDynamicEcam env config).Returns ↔
      (config.numPciBus ≠ 0 → env.ecamBase.isSome = true) := by
  unfold zoneApplyDynamicEcam
  split
  next hnone => simp [hnone]
  next hsome =>
    cases env.ecamBase with
    | none => simpa using hsome
    | some ecamBase =>
      dsimp only
      split <;> simp

omit [CJson] in
theorem returns_bootModeApply (paddr : Option UInt64) :
    (bootModeApply env config paddr).Returns ↔ (paddr.isSome = true → env.bootModeSet = true) := by
  unfold bootModeApply
  cases paddr <;> simp

omit [CJson] in
/-- Behind quiet code, the rest decides. -/
theorem safe_quiet_bind_iff {α β : Type} {x : Zoning α} {f : α → Zoning β} (hx : Quiet x)
    (interrupts : List Json) :
    (∀ e ∈ (x.bind f).log, e.Safe interrupts) ↔
      ∀ a, x.result = .ok a → ∀ e ∈ (f a).log, e.Safe interrupts := by
  rw [Traced.forall_log_bind]
  exact and_iff_right fun e he => (hx e he).safe interrupts

variable {root : Option Json}

/-- **The start is safe if the configuration is valid**, or the device does not answer. -/
theorem startZone_safe_iff {env : ZoneEnv} {config : ZoneConfig} {paddr : Option UInt64}
    (hbus : config.numPciBus ≠ 0 ↔ Json.itemsOf root "pci_config" ≠ [])
    (hmode : paddr.isSome = bootModeIsMultiboot2 root) :
    (∀ e ∈ (startZone env config paddr).log, e.Safe interrupts) ↔
      (StartAnswered env root → ConfigValid interrupts config) := by
  unfold startZone
  cases hopens : env.opens with
  | false =>
    refine ⟨fun _ h => ?_, fun _ e he => (by cases he)⟩
    have hopen := h.opens
    rw [hopens] at hopen
    cases hopen
  | true =>
    rw [if_pos rfl, Traced.lift_ok_bind, safe_quiet_bind_iff (quiet_zoneApplyDynamicEcam _ _)]
    constructor
    · intro h hanswered
      have hecam : config.numPciBus ≠ 0 → env.ecamBase.isSome = true := fun hne =>
        hanswered.ecam (hbus.mp hne)
      obtain ⟨config', hconfig⟩ := (returns_zoneApplyDynamicEcam env config).mpr hecam
      have hset : paddr.isSome = true → env.bootModeSet = true := fun hsome =>
        hanswered.bootMode (hmode.symm.trans hsome)
      obtain ⟨u, hu⟩ := (returns_bootModeApply env config' paddr).mpr hset
      have hrest := h config' hconfig
      rw [safe_quiet_bind_iff (quiet_bootModeApply _ _ _)] at hrest
      have hvalid : ConfigValid interrupts config' := hrest u hu _ List.mem_cons_self
      exact hvalid.of_head (zoneKeeps_zoneApplyDynamicEcam env config config' hconfig).symm
    · intro h config' hconfig
      rw [safe_quiet_bind_iff (quiet_bootModeApply _ _ _)]
      intro u hu e he
      rw [List.mem_singleton.mp he]
      have hecam := (returns_zoneApplyDynamicEcam env config).mp ⟨config', hconfig⟩
      have hset := (returns_bootModeApply env config' paddr).mp ⟨u, hu⟩
      have hanswered : StartAnswered env root :=
        ⟨hopens, fun hne => hecam (hbus.mpr hne), fun hboot => hset (hmode.trans hboot)⟩
      exact (h hanswered).of_head (zoneKeeps_zoneApplyDynamicEcam env config config' hconfig)

/-! ## 5. The configuration that is handed on -/

omit [CJson] in
/-- A name has its terminator if it leaves room for it. -/
theorem zero_mem_copyName_iff {bytes : List UInt8} (hzero : 0 ∉ bytes) :
    0 ∈ copyName bytes ↔ bytes.length < configNameMaxlen := by
  unfold copyName
  rw [Vector.mem_ofFn]
  constructor
  · rintro ⟨i, hi⟩
    refine Nat.not_le.mp fun hle => ?_
    have hlt : i.val < bytes.length := Nat.lt_of_lt_of_le i.isLt hle
    rw [List.getD_eq_getElem _ _ hlt] at hi
    exact hzero (hi ▸ List.getElem_mem hlt)
  · intro hlt
    exact ⟨⟨bytes.length, hlt⟩, List.getD_eq_default _ _ (Nat.le_refl _)⟩

/-- **No interrupt is read as one that does not occur.** -/
def InterruptsOccur (interrupts : List Json) : Prop :=
  ∀ item ∈ interrupts, ∀ i, ReadAs item i →
    ∃ other ∈ interrupts, Json.Denotes (some other) i

omit [CJson] in
/-- An interrupt that occurs is read, if all items are. -/
theorem readAs_of_denotes {item : Json} {i : Nat} (hparses : InterruptParses item)
    (h : Json.Denotes (some item) i) : ReadAs item i := by
  obtain ⟨irq, hread, hlt⟩ := hparses
  refine ⟨irq, hread, h.parse_eq (JsonTarget.read_eq_some.mp hread).1 ?_⟩
  have hlt' : irq.toNat < 1024 := hlt
  unfold intMax
  omega

theorem configValid_iff {env : ZoneEnv} {items : ZoneItems} {config : ZoneConfig}
    (hparses : ZoneParses env root items) (hfilled : ZoneFilled items config)
    (hbuses : config.numPciBus.toNat ≤ configPciBusMaxnum)
    (hdevs : config.numPciDevs.toNat ≤ configMaxPciDev) :
    ConfigValid items.interrupts.children config ↔
      (∀ name, items.name.valuestring = some name → (Json.bytes name).length < configNameMaxlen) ∧
      InterruptsOccur items.interrupts.children := by
  obtain ⟨name, hname, hcopy⟩ := hfilled.name
  have hzero := Json.zero_notMem_bytes hname
  have hoccurs : (∀ i : Nat, bitSet config.interruptsBitmap i = true ↔
      ∃ item ∈ items.interrupts.children, Json.Denotes (some item) i) ↔
        InterruptsOccur items.interrupts.children := by
    constructor
    · intro h item hitem i hread
      exact (h i).mp ((hfilled.bits i).mpr ⟨item, hitem, hread⟩)
    · intro h i
      rw [hfilled.bits i]
      constructor
      · rintro ⟨item, hitem, hread⟩
        exact h item hitem i hread
      · rintro ⟨item, hitem, hdenotes⟩
        exact ⟨item, hitem, readAs_of_denotes (hparses.interrupts item hitem) hdenotes⟩
  constructor
  · intro h
    refine ⟨fun name' hname' => ?_, hoccurs.mp h.bitmap⟩
    rw [hname] at hname'
    cases hname'
    have hterminated := h.name
    rw [hcopy] at hterminated
    exact (zero_mem_copyName_iff hzero).mp hterminated
  · rintro ⟨hfits, hinterrupts⟩
    have hregions : items.memoryRegions.children.length ≤ 64 := hparses.regionCount
    have hivcs : items.ivcConfigs.children.length ≤ 2 := hparses.ivcCount
    refine ⟨?_, ?_, hbuses, hdevs, ?_, hoccurs.mpr hinterrupts⟩
    · rw [hfilled.regions, UInt32.toNat_ofNat_of_lt' (by simp only [UInt32.size]; omega)]
      exact hregions
    · rw [hfilled.ivcs, UInt32.toNat_ofNat_of_lt' (by simp only [UInt32.size]; omega)]
      exact hivcs
    · rw [hcopy]
      exact (zero_mem_copyName_iff hzero).mpr (hfits name hname)

/-! ## 6. Every description -/

/-- `HVISOR_ZONE_START` is come to. -/
structure Starts (env : ZoneEnv) (root : Option Json) (items : ZoneItems) : Prop where
  zone : ZoneParses env root items
  buses : BusesParse root
  devs : DevsParse root
  answered : StartAnswered env root

/-- **The descriptions that stay in range**: processors below 64, no device behind the end of the
    array, and, if the zone is started, a name with room for its terminator and no interrupt that
    is read as another one. -/
structure ZoneFits (env : ZoneEnv) (root : Option Json) (items : ZoneItems) : Prop where
  cpus : ∀ cpu ∈ items.cpus.children, 0 ≤ cpu.valueint ∧ cpu.valueint < 64
  devs : ZoneParses env root items → BusesParse root →
    ¬ DevsOverflow (Json.itemsOf root "alloc_pci_devs")
  name : Starts env root items → ∀ name, items.name.valuestring = some name →
    (Json.bytes name).length < configNameMaxlen
  interrupts : Starts env root items → InterruptsOccur items.interrupts.children

/-- A file without a description does no harm. -/
def FileFits (env : ZoneEnv) : ZoneFile → Prop
  | .text root => ∀ items, zoneItems root = some items → ZoneFits env root items
  | _ => True

theorem zoneItems_interrupts {items : ZoneItems} (h : zoneItems root = some items) :
    Json.itemsOf root "interrupts" = items.interrupts.children := by
  unfold zoneItems at h
  -- nine items are looked up before `interrupts`
  iterate 9 obtain ⟨_, -, h⟩ := Option.bind_eq_some_iff.mp h
  obtain ⟨interrupts, hitem, h⟩ := Option.bind_eq_some_iff.mp h
  obtain ⟨_, -, h⟩ := Option.bind_eq_some_iff.mp h
  cases h
  unfold Json.itemsOf
  rw [hitem]

/-- Devices that are all parsed and do not overflow the array are not more than it holds. -/
theorem DevsParse.count_le (h : DevsParse root)
    (hno : ¬ DevsOverflow (Json.itemsOf root "alloc_pci_devs")) :
    (Json.itemsOf root "alloc_pci_devs").length ≤ configMaxPciDev := by
  refine Nat.not_lt.mp fun hlt => hno ⟨_, List.getElem?_eq_getElem hlt, ?_, fun dev hdev => ?_⟩
  · exact h _ (List.getElem_mem hlt) _ List.mem_cons_self
  · exact h dev (List.mem_of_mem_take hdev)

section Main

variable {env : ZoneEnv} {items : ZoneItems} {config : ZoneConfig}

/-- The stages before `parse_pci_config`: the processors decide. -/
theorem parseZone_safe_iff (interrupts : List Json) :
    (∀ e ∈ (parseZone env root items config).log, e.Safe interrupts) ↔
      ∀ cpu ∈ items.cpus.children, 0 ≤ cpu.valueint ∧ cpu.valueint < 64 := by
  unfold parseZone
  rw [Traced.forall_log_bind, parseCpus_safe_iff]
  refine and_iff_left fun cpus _ e he => ZoneEvent.Quiet.safe ?_ interrupts
  revert e
  refine quiet_bind (quiet_parseArrays _ _) fun arrays => quiet_bind ?_ fun entries => ?_
  · unfold parseEntries
    split <;> exact quiet_lift _
  refine quiet_bind (quiet_loadZone env root items _) fun loaded => quiet_bind ?_ fun named => ?_
  · unfold parseName
    split
    · exact quiet_lift _
    · split <;> exact quiet_lift _
  · exact quiet_bind (quiet_parseArchConfig env root) fun _ => quiet_lift _

/-- The start of what is handed on, once the buses and the devices are parsed. -/
theorem startZone_parsed_safe_iff {zone : ZoneConfig × Option UInt64} {buses final : ZoneConfig}
    (hzone : (parseZone env root items config).result = .ok zone)
    (hbuses : (parsePciBuses root zone.1).result = .ok buses)
    (hdevs : (parsePciDevs root buses).result = .ok final)
    (hno : ¬ DevsOverflow (Json.itemsOf root "alloc_pci_devs")) :
    (∀ e ∈ (startZone env final zone.2).log, e.Safe items.interrupts.children) ↔
      (StartAnswered env root → (∀ name, items.name.valuestring = some name →
          (Json.bytes name).length < configNameMaxlen) ∧
        InterruptsOccur items.interrupts.children) := by
  have hparses := (returns_parseZone env root items config).mp ⟨zone, hzone⟩
  obtain ⟨hfilled, hmode⟩ := parseZone_filled hzone
  have hcount := ((returns_parsePciBuses root zone.1).mp ⟨buses, hbuses⟩).count
  have hlen := ((returns_parsePciDevs root buses).mp ⟨final, hdevs⟩).count_le hno
  obtain ⟨hhead, hnum⟩ := parsePciBuses_head hbuses
  obtain ⟨hhead', hnum', hnumdevs⟩ := parsePciDevs_head hdevs
  have hcount' : (Json.itemsOf root "pci_config").length ≤ 4 := hcount
  have hlen' : (Json.itemsOf root "alloc_pci_devs").length ≤ 32 := hlen
  have hbusNat : final.numPciBus.toNat = (Json.itemsOf root "pci_config").length := by
    rw [hnum', hnum, toNat_ofNat64 (by omega)]
  have hdevNat : final.numPciDevs.toNat = (Json.itemsOf root "alloc_pci_devs").length := by
    rw [hnumdevs, toNat_ofNat64 (by omega)]
  have hbus : final.numPciBus ≠ 0 ↔ Json.itemsOf root "pci_config" ≠ [] := by
    rw [ne_eq, ← UInt64.toNat_inj, hbusNat]
    exact not_congr List.length_eq_zero_iff
  rw [startZone_safe_iff _ hbus hmode]
  refine imp_congr_right fun _ => configValid_iff hparses (hfilled.of_head (hhead'.trans hhead)) ?_ ?_
  · rw [hbusNat]
    exact hcount
  · rw [hdevNat]
    exact hlen

/-- `parse_pci_config` and the start, behind the other stages. -/
theorem pci_start_safe_iff {zone : ZoneConfig × Option UInt64}
    (hzone : (parseZone env root items config).result = .ok zone) :
    (∀ e ∈ ((parsePciConfig root zone.1).bind fun config => startZone env config zone.2).log,
        e.Safe items.interrupts.children) ↔
      (BusesParse root → ¬ DevsOverflow (Json.itemsOf root "alloc_pci_devs")) ∧
      (Starts env root items → (∀ name, items.name.valuestring = some name →
          (Json.bytes name).length < configNameMaxlen) ∧
        InterruptsOccur items.interrupts.children) := by
  have hparses := (returns_parseZone env root items config).mp ⟨zone, hzone⟩
  unfold parsePciConfig
  rw [Traced.forall_log_bind, safe_quiet_bind_iff (quiet_parsePciBuses _ _)]
  constructor
  · rintro ⟨hpci, hrest⟩
    have hno : BusesParse root → ¬ DevsOverflow (Json.itemsOf root "alloc_pci_devs") := by
      intro hparse
      obtain ⟨buses, hbuses⟩ := (returns_parsePciBuses root zone.1).mpr hparse
      exact (parsePciDevs_safe_iff _ root buses).mp (hpci buses hbuses)
    refine ⟨hno, fun hstarts => ?_⟩
    obtain ⟨buses, hbuses⟩ := (returns_parsePciBuses root zone.1).mpr hstarts.buses
    obtain ⟨final, hdevs⟩ := (returns_parsePciDevs root buses).mpr hstarts.devs
    have hpciOk : ((parsePciBuses root zone.1).bind (parsePciDevs root)).result = .ok final := by
      rw [Traced.result_bind, hbuses]
      exact hdevs
    exact (startZone_parsed_safe_iff hzone hbuses hdevs (hno hstarts.buses)).mp (hrest final hpciOk)
      hstarts.answered
  · rintro ⟨hno, hfits⟩
    constructor
    · intro buses hbuses
      have hparse := (returns_parsePciBuses root zone.1).mp ⟨buses, hbuses⟩
      exact (parsePciDevs_safe_iff _ root buses).mpr (hno hparse)
    · intro final hfinal
      rw [Traced.result_bind] at hfinal
      obtain ⟨buses, hbuses, hdevs⟩ := bind_eq_ok.mp hfinal
      have hparse := (returns_parsePciBuses root zone.1).mp ⟨buses, hbuses⟩
      have hparse' := (returns_parsePciDevs root buses).mp ⟨final, hdevs⟩
      refine (startZone_parsed_safe_iff hzone hbuses hdevs (hno hparse)).mpr fun hanswered => ?_
      exact hfits ⟨hparses, hparse, hparse', hanswered⟩

end Main

/-- **A zone's description stays in its arrays**, up to four things: processors are shifted by
    without a test, `alloc_pci_devs` is filled without one, a name of exactly
    `CONFIG_NAME_MAXLEN` bytes is let through, and interrupts are read as numbers are. -/
theorem zone_config_safe_iff (env : ZoneEnv) (file : ZoneFile) (config : ZoneConfig) :
    ZoneSafe env file config ↔ FileFits env file := by
  unfold ZoneSafe zoneStartFromJson FileFits
  cases file with
  | missing | unread => exact ⟨fun _ => trivial, fun _ e he => (by cases he)⟩
  | text root =>
      dsimp only
      cases hitems : zoneItems root with
      | none => exact ⟨fun _ items h => (by cases h), fun _ e he => (by cases he)⟩
      | some items =>
          rw [zoneItems_interrupts hitems, Traced.forall_log_bind, parseZone_safe_iff]
          constructor
          · rintro ⟨hcpus, hrest⟩ items' h
            cases h
            have hpci : ZoneParses env root items →
                (BusesParse root → ¬ DevsOverflow (Json.itemsOf root "alloc_pci_devs")) ∧
                (Starts env root items → (∀ name, items.name.valuestring = some name →
                    (Json.bytes name).length < configNameMaxlen) ∧
                  InterruptsOccur items.interrupts.children) := by
              intro hparses
              obtain ⟨zone, hzone⟩ := (returns_parseZone env root items config).mpr hparses
              exact (pci_start_safe_iff hzone).mp (hrest zone hzone)
            exact ⟨hcpus, fun hparses => (hpci hparses).1,
              fun hstarts => ((hpci hstarts.zone).2 hstarts).1,
              fun hstarts => ((hpci hstarts.zone).2 hstarts).2⟩
          · intro h
            have hfits := h items rfl
            refine ⟨hfits.cpus, fun zone hzone => (pci_start_safe_iff hzone).mpr ⟨?_, ?_⟩⟩
            · exact hfits.devs ((returns_parseZone env root items config).mp ⟨zone, hzone⟩)
            · exact fun hstarts => ⟨hfits.name hstarts, hfits.interrupts hstarts⟩

end Descriptions

/-! ## 7. Descriptions that do not fit -/

/-- A LoongArch machine on which nothing fails. -/
def plainEnv : ZoneEnv :=
  { arch := .loongarch64, boot := bareEnv, kernel := .done, dtb := .done,
    accessible := fun _ => true, modules := fun _ => .done, bootImage := .done, setup := .done,
    cmdline := .done, initrd := .done, opens := true, ecamBase := none, bootModeSet := true,
    started := 0 }

/-- A zone without memory, images or buses. -/
def plainZone (cpus interrupts devs : List Json) (name : List Char) : Option Json :=
  some (.object [("zone_id", .number 1), ("cpus", .array cpus), ("name", .string name),
    ("memory_regions", .array []), ("kernel_filepath", .string "null".toList),
    ("dtb_filepath", .string "null".toList), ("kernel_load_paddr", .number 0),
    ("dtb_load_paddr", .number 0), ("entry_point", .number 0), ("interrupts", .array interrupts),
    ("ivc_configs", .array []), ("pci_config", .array []), ("alloc_pci_devs", .array devs)])

/-- A device with all its fields. -/
def plainDev : Json :=
  .object (pciDevFields.map fun f => (f.key, .number 0))

/-- Processor 64, and thirty-three devices. -/
def manyDevs : Option Json := plainZone [.number 64] [] (List.replicate 33 plainDev) ['z']

/-- A name of 32 bytes, and the interrupt 5.5. -/
def longName : Option Json := plainZone [] [.number (11 / 2)] [] (List.replicate 32 'z')

/-- The first zone shifts by 64 and stores a device behind the end of the array; the second is
    started with a name without a terminator and with the bit of interrupt 5, which does not
    occur. -/
theorem two_zones_unsafe :
    ((∃ e ∈ (zoneStartFromJson plainEnv (.text manyDevs) .zero).log, e = .shift 64) ∧
      (∃ e ∈ (zoneStartFromJson plainEnv (.text manyDevs) .zero).log, e = .store .allocPciDevs 32) ∧
      ¬ ZoneSafe plainEnv (.text manyDevs) .zero) ∧
    (∃ config, .zoneStart config ∈ (zoneStartFromJson plainEnv (.text longName) .zero).log ∧
      0 ∉ config.name ∧ bitSet config.interruptsBitmap 5 = true) ∧
    (¬ ∃ item ∈ Json.itemsOf longName "interrupts", Json.Denotes (some item) 5) ∧
    ¬ ZoneSafe plainEnv (.text longName) .zero := by
  have hmany : ((zoneStartFromJson plainEnv (.text manyDevs) .zero).log.any
        (fun e => match e with | .shift 64 => true | _ => false) &&
      (zoneStartFromJson plainEnv (.text manyDevs) .zero).log.any
        (fun e => match e with | .store .allocPciDevs 32 => true | _ => false)) = true := by
    decide +kernel
  have hlong : (zoneStartFromJson plainEnv (.text longName) .zero).log.any (fun e => match e with
      | .zoneStart config => !config.name.contains 0 && bitSet config.interruptsBitmap 5
      | _ => false) = true := by
    decide +kernel
  have honly : Json.itemsOf longName "interrupts" = [.number (11 / 2)] := rfl
  have hshift : ∃ e ∈ (zoneStartFromJson plainEnv (.text manyDevs) .zero).log, e = .shift 64 := by
    obtain ⟨e, he, htest⟩ := List.any_eq_true.mp (Bool.and_eq_true_iff.mp hmany).1
    refine ⟨e, he, ?_⟩
    split at htest
    · rfl
    · cases htest
  have hstore : ∃ e ∈ (zoneStartFromJson plainEnv (.text manyDevs) .zero).log,
      e = .store .allocPciDevs 32 := by
    obtain ⟨e, he, htest⟩ := List.any_eq_true.mp (Bool.and_eq_true_iff.mp hmany).2
    refine ⟨e, he, ?_⟩
    split at htest
    · rfl
    · cases htest
  have hstart : ∃ config, .zoneStart config ∈
      (zoneStartFromJson plainEnv (.text longName) .zero).log ∧
      0 ∉ config.name ∧ bitSet config.interruptsBitmap 5 = true := by
    obtain ⟨e, he, htest⟩ := List.any_eq_true.mp hlong
    split at htest
    next config =>
      obtain ⟨hname, hbit⟩ := Bool.and_eq_true_iff.mp htest
      exact ⟨config, he, by simpa using hname, hbit⟩
    · cases htest
  refine ⟨⟨hshift, hstore, fun hsafe => ?_⟩, hstart, ?_, fun hsafe => ?_⟩
  · obtain ⟨e, he, rfl⟩ := hshift
    exact absurd (hsafe _ he).2 (by decide)
  · rintro ⟨item, hitem, hdenotes⟩
    rw [honly, List.mem_singleton] at hitem
    subst hitem
    have hq : (11 / 2 : ℚ) = ((5 : Nat) : Int) := hdenotes
    norm_num at hq
  · obtain ⟨config, he, hname, -⟩ := hstart
    exact hname (hsafe _ he).name

end HvisorTool
