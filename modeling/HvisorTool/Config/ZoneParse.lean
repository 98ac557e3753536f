/-
  File:      HvisorTool/Config/ZoneParse.lean
  Subject:   WHICH DESCRIPTIONS OF A ZONE CAN BE PARSED, and what the parsing leaves.

  Whether a stage of `zone_start_from_json` succeeds is a property of the description and of
  the answers of the system; what was parsed before has no part in it.

  * `ZoneParses`, `BusesParse`, `DevsParse`: what it takes to come through the stages;
  * `returns_parseZone`, `returns_parsePciBuses`, `returns_parsePciDevs`: they come through then,
    and only then;
  * `parseZone_filled`: the counts, the name and the bits of the interrupts behind it.
-/
import HvisorTool.Boot.MultibootMap
import HvisorTool.Config.ZoneStart

namespace HvisorTool

open Library

/-! ## 1. Which descriptions can be parsed -/

section Descriptions

variable [CJson]

def FieldsParse {α : Type} (fs : List (Field α)) (json : Json) : Prop :=
  ∀ f ∈ fs, (f.read json).isSome = true

def RegionParses (json : Json) : Prop :=
  FieldsParse regionFields json ∧ ((stringItem (some json) "type").bind memType).isSome = true

def InterruptParses (json : Json) : Prop :=
  ∃ irq, JsonTarget.read .size (some json) = some irq ∧ irq.toNat < configMaxInterrupts

def IvcParses (json : Json) : Prop :=
  (∀ key ∈ ["ivc_id", "peer_id", "interrupt_num", "max_peers"],
    (Json.getObjectItem (some json) key).isSome = true) ∧ FieldsParse ivcFields json

/-- A path whose file can be loaded. -/
def Loadable (env : ZoneEnv) (answer : LoadAnswer) (json : Json) : Prop :=
  ∃ path, json.valuestring = some path ∧ (imagePlan env.boot answer path 0).goesOn = true

def KernelLoads (env : ZoneEnv) (root : Option Json) (items : ZoneItems) : Prop :=
  if bootModeIsMultiboot2 root = true then
    env.arch = .x8664 ∧ (multibootPlan env.boot root).goesOn = true
  else Loadable env env.kernel items.kernelFilepath

/-- **All that comes before `parse_pci_config` succeeds.** -/
structure ZoneParses (env : ZoneEnv) (root : Option Json) (items : ZoneItems) : Prop where
  regionCount : items.memoryRegions.children.length ≤ configMaxMemoryRegions
  interruptCount : items.interrupts.children.length ≤ configMaxInterrupts
  regions : ∀ json ∈ items.memoryRegions.children, RegionParses json
  interrupts : ∀ json ∈ items.interrupts.children, InterruptParses json
  ivcCount : items.ivcConfigs.children.length ≤ configMaxIvcConfigs
  ivcs : ∀ json ∈ items.ivcConfigs.children, IvcParses json
  entryPoint : (JsonTarget.read .linuxU64 (some items.entryPoint)).isSome = true
  kernelLoadPaddr : (JsonTarget.read .linuxU64 (some items.kernelLoadPaddr)).isSome = true
  dtbLoadPaddr : (JsonTarget.read .linuxU64 (some items.dtbLoadPaddr)).isSome = true
  kernel : KernelLoads env root items
  dtb : env.arch ≠ .x8664 → Loadable env env.dtb items.dtbFilepath
  modules : (parseModules env root).Returns
  name : ∃ name, items.name.valuestring = some name ∧ (Json.bytes name).length ≤ configNameMaxlen
  arch : (parseArchConfig env root).Returns

/-- The buses of `parse_pci_config`. -/
structure BusesParse (root : Option Json) : Prop where
  present : (Json.getObjectItem root "pci_config").isSome = true
  count : (Json.itemsOf root "pci_config").length ≤ configPciBusMaxnum
  buses : ∀ json ∈ Json.itemsOf root "pci_config", FieldsParse pciConfigFields json

/-- Its devices. -/
def DevsParse (root : Option Json) : Prop :=
  ∀ json ∈ Json.itemsOf root "alloc_pci_devs", FieldsParse pciDevFields json

end Descriptions

/-! ## 2. The bodies of the loops -/

section Bodies

variable {α : Type}

@[simp] theorem returns_fails : (Zoning.fails : Zoning α).Returns ↔ False :=
  Traced.returns_lift_error _

@[simp] theorem returns_segv : (Zoning.segv : Zoning α).Returns ↔ False :=
  Traced.returns_lift_error _

@[simp] theorem returns_require (ok : Bool) : (Zoning.require ok).Returns ↔ ok = true := by
  cases ok <;> simp [Zoning.require]

theorem returns_require_decide (p : Prop) [Decidable p] :
    (Zoning.require (decide p)).Returns ↔ p := by
  rw [returns_require, decide_eq_true_iff]

theorem require_ok {ok : Bool} {u : Unit} (h : (Zoning.require ok).result = .ok u) : ok = true :=
  (returns_require ok).mp ⟨u, h⟩

@[simp] theorem returns_zoning (x : Loading α) : x.zoning.Returns ↔ x.Returns := by
  obtain ⟨log, result⟩ := x
  cases result <;> simp [Loading.zoning, Except.mapError]

variable [CJson] (array : ConfigArray) (i : Nat) (json : Json)

theorem returns_parseFields (fs : List (Field α)) (a : α) :
    (parseFields array i json fs a).Returns ↔ FieldsParse fs json := by
  induction fs generalizing a with
  | nil => simp [parseFields, FieldsParse]
  | cons f fs ih =>
    unfold parseFields FieldsParse
    rw [List.forall_mem_cons]
    cases f.read json with
    | none => simp
    | some v => simpa [FieldsParse] using ih (f.set v a)

theorem returns_parseValueint (key : String) :
    (parseValueint array i json key).Returns ↔
      (Json.getObjectItem (some json) key).isSome = true := by
  unfold parseValueint
  cases Json.getObjectItem (some json) key <;> simp

variable (config : ZoneConfig)

theorem returns_parseRegion : (parseRegion i json config).Returns ↔ RegionParses json := by
  refine Traced.returns_bind_iff (returns_parseFields _ _ _ _ _) fun region _ => ?_
  unfold stringItem
  cases Json.getObjectItem (some json) "type" with
  | none => simp
  | some typeJson =>
    rw [Option.bind_some]
    dsimp only
    cases typeJson.valuestring with
    | none => simp
    | some typeStr =>
      rw [Option.bind_some]
      dsimp only
      cases memType typeStr <;> simp

omit [CJson] in
theorem returns_parseInterrupt : (parseInterrupt i json config).Returns ↔ InterruptParses json := by
  unfold parseInterrupt InterruptParses
  cases JsonTarget.read .size (some json) with
  | none => simp
  | some irq =>
    dsimp only
    split
    next hbig => simpa using hbig
    next hlt => simpa using hlt

theorem returns_parseIvc : (parseIvc i json config).Returns ↔ IvcParses json := by
  have hchain : (parseIvc i json config).Returns ↔
      (Json.getObjectItem (some json) "ivc_id").isSome = true ∧
        (Json.getObjectItem (some json) "peer_id").isSome = true ∧ FieldsParse ivcFields json ∧
        (Json.getObjectItem (some json) "interrupt_num").isSome = true ∧
        (Json.getObjectItem (some json) "max_peers").isSome = true := by
    refine Traced.returns_bind_iff (returns_parseValueint _ _ _ _) fun ivcId _ => ?_
    refine Traced.returns_bind_iff (returns_parseValueint _ _ _ _) fun peerId _ => ?_
    refine Traced.returns_bind_iff (returns_parseFields _ _ _ _ _) fun ivc _ => ?_
    refine Traced.returns_bind_iff (returns_parseValueint _ _ _ _) fun interruptNum _ => ?_
    rw [Traced.returns_map]
    exact returns_parseValueint _ _ _ _
  rw [hchain, IvcParses]
  simp only [List.mem_cons, List.not_mem_nil, or_false, forall_eq_or_imp, forall_eq]
  constructor
  · rintro ⟨hivc, hpeer, hfields, hinterrupt, hmax⟩
    exact ⟨⟨hivc, hpeer, hinterrupt, hmax⟩, hfields⟩
  · rintro ⟨⟨hivc, hpeer, hinterrupt, hmax⟩, hfields⟩
    exact ⟨hivc, hpeer, hfields, hinterrupt, hmax⟩

/-- A field that is parsed is there. -/
theorem FieldsParse.present {fs : List (Field α)} {json : Json} (h : FieldsParse fs json) :
    (fs.all fun f => (Json.getObjectItem (some json) f.key).isSome) = true := by
  refine List.all_eq_true.mpr fun f hf => ?_
  have hread := h f hf
  unfold Field.read at hread
  cases hitem : Json.getObjectItem (some json) f.key with
  | none =>
    rw [hitem, JsonTarget.read_none] at hread
    cases hread
  | some item => rfl

theorem returns_parsePciBus :
    (parsePciBus i json config).Returns ↔ FieldsParse pciConfigFields json := by
  have hchain : (parsePciBus i json config).Returns ↔
      (pciConfigFields.all fun f => (Json.getObjectItem (some json) f.key).isSome) = true ∧
        FieldsParse pciConfigFields json := by
    refine Traced.returns_bind_iff (returns_require _) fun _ _ => ?_
    rw [Traced.returns_map]
    exact returns_parseFields _ _ _ _ _
  rw [hchain]
  exact ⟨fun h => h.2, fun h => ⟨h.present, h⟩⟩

theorem returns_parsePciDev :
    (parsePciDev i json config).Returns ↔ FieldsParse pciDevFields json := by
  unfold parsePciDev
  rw [Traced.returns_map]
  exact returns_parseFields _ _ _ _ _

end Bodies

/-! ## 3. Images -/

section Images

variable (env : ZoneEnv)

/-- Whether an image can be loaded does not depend on where it goes. -/
theorem imagePlan_goesOn (boot : BootEnv) (answer : LoadAnswer) (path : List Char)
    (gpa gpa' : UInt64) :
    (imagePlan boot answer path gpa).goesOn = (imagePlan boot answer path gpa').goesOn := by
  unfold imagePlan
  split
  · rfl
  split
  · rfl
  unfold bufferPlan
  split
  · rfl
  · cases answer <;> rfl

theorem returns_loadItem (answer : LoadAnswer) (json : Json) (paddr : UInt64) :
    (loadItem env answer json paddr).Returns ↔ Loadable env answer json := by
  unfold loadItem Loadable
  cases json.valuestring with
  | none => simp
  | some path =>
    have hfollows : FollowsPlan (guestLoad 0) (fun _ => true)
        (loadPath env.boot answer path (paddr + 0)) (imagePlan env.boot answer path paddr) :=
      loadPath_follows _ _ _ _
    have hgoesOn := hfollows.goesOn
    rw [UInt64.add_zero, imagePlan_goesOn _ _ _ _ 0] at hgoesOn
    simp only [returns_zoning, Option.some.injEq, exists_eq_left', hgoesOn, and_true]
    exact Iff.rfl

theorem returns_loadZoneKernel [CJson] (root : Option Json) (items : ZoneItems) (config : ZoneConfig) :
    (loadZoneKernel env root items config).Returns ↔ KernelLoads env root items := by
  unfold loadZoneKernel KernelLoads
  split
  · split
    next harch =>
      have hgoesOn := (multiboot2PrepareZone_follows env.boot
        (config.memoryRegions.toList.take config.numMemoryRegions.toNat) root).goesOn
      rw [hgoesOn]
      generalize multiboot2PrepareZone env.boot _ root = run
      obtain ⟨log, result⟩ := run
      cases result with
      | error e => simp [Loading.zoning, Except.mapError]
      | ok info =>
        cases info <;>
          simp [Loading.zoning, Except.mapError, harch, Traced.Returns, Zoning.fails]
    next harch => simp [harch]
  · rw [Traced.returns_map]
    exact returns_loadItem env _ _ _

theorem returns_loadDtb (items : ZoneItems) (config : ZoneConfig) :
    (loadDtb env items config).Returns ↔
      (env.arch ≠ .x8664 → Loadable env env.dtb items.dtbFilepath) := by
  unfold loadDtb
  split
  next harch => simp [harch]
  next harch =>
    rw [returns_loadItem]
    exact ⟨fun h _ => h, fun h => h harch⟩

theorem returns_loadZone [CJson] (root : Option Json) (items : ZoneItems) (config : ZoneConfig) :
    (loadZone env root items config).Returns ↔ KernelLoads env root items ∧
      (env.arch ≠ .x8664 → Loadable env env.dtb items.dtbFilepath) ∧
      (parseModules env root).Returns := by
  refine Traced.returns_bind_iff (returns_loadZoneKernel _ _ _ _) fun kernel _ => ?_
  refine Traced.returns_bind_iff (returns_loadDtb _ _ _) fun dtbSize _ => ?_
  exact Traced.returns_map _ _

end Images

/-! ## 4. The stages -/

section Stages

variable [CJson] (env : ZoneEnv) (root : Option Json) (items : ZoneItems) (config : ZoneConfig)

theorem returns_parseArrays : (parseArrays items config).Returns ↔
    (items.memoryRegions.children.length ≤ configMaxMemoryRegions ∧
      items.interrupts.children.length ≤ configMaxInterrupts) ∧
    (∀ json ∈ items.memoryRegions.children, RegionParses json) ∧
    (∀ json ∈ items.interrupts.children, InterruptParses json) ∧
    items.ivcConfigs.children.length ≤ configMaxIvcConfigs ∧
    ∀ json ∈ items.ivcConfigs.children, IvcParses json := by
  refine Traced.returns_bind_iff (returns_require_decide _) fun _ _ => ?_
  refine Traced.returns_bind_iff (Traced.forItems_returns_iff returns_parseRegion _ _ _) fun _ _ => ?_
  refine Traced.returns_bind_iff (Traced.forItems_returns_iff returns_parseInterrupt _ _ _)
    fun _ _ => ?_
  refine Traced.returns_bind_iff (returns_require_decide _) fun _ _ => ?_
  exact Traced.forItems_returns_iff returns_parseIvc _ _ _

omit [CJson] in
theorem returns_parseEntries : (parseEntries items config).Returns ↔
    (JsonTarget.read .linuxU64 (some items.entryPoint)).isSome = true ∧
    (JsonTarget.read .linuxU64 (some items.kernelLoadPaddr)).isSome = true ∧
    (JsonTarget.read .linuxU64 (some items.dtbLoadPaddr)).isSome = true := by
  unfold parseEntries
  cases JsonTarget.read .linuxU64 (some items.entryPoint) with
  | none => simp
  | some entryPoint =>
    cases JsonTarget.read .linuxU64 (some items.kernelLoadPaddr) with
    | none => simp
    | some kernelLoadPaddr =>
      cases JsonTarget.read .linuxU64 (some items.dtbLoadPaddr) <;> simp

omit [CJson] in
theorem returns_parseName : (parseName items config).Returns ↔
    ∃ name, items.name.valuestring = some name ∧ (Json.bytes name).length ≤ configNameMaxlen := by
  unfold parseName
  cases items.name.valuestring with
  | none => simp
  | some name =>
    dsimp only
    split
    next hlong => simpa using hlong
    next hfits => simpa using hfits

/-- **The stages before `parse_pci_config` succeed if the description can be parsed.** -/
theorem returns_parseZone :
    (parseZone env root items config).Returns ↔ ZoneParses env root items := by
  have hcpu : ∀ i json cpus, (parseCpu i json cpus).Returns ↔ True := fun i json cpus => by
    simp [parseCpu]
  refine (Traced.returns_bind_iff (Traced.forItems_returns_iff hcpu _ _ _) fun cpus _ =>
    Traced.returns_bind_iff (returns_parseArrays _ _) fun arrays _ =>
    Traced.returns_bind_iff (returns_parseEntries _ _) fun entries _ =>
    Traced.returns_bind_iff (returns_loadZone _ _ _ _) fun loaded _ =>
    Traced.returns_bind_iff (returns_parseName _ _) fun named _ =>
    Traced.returns_map _ _).trans ?_
  constructor
  · rintro ⟨-, ⟨hcounts, hregions, hinterrupts, hivc, hivcs⟩, ⟨hentry, hkernel, hdtb⟩,
      ⟨himage, htree, hmodules⟩, hname, harch⟩
    exact ⟨hcounts.1, hcounts.2, hregions, hinterrupts, hivc, hivcs, hentry, hkernel, hdtb, himage,
      htree, hmodules, hname, harch⟩
  · intro h
    exact ⟨fun _ _ => trivial, ⟨⟨h.regionCount, h.interruptCount⟩, h.regions, h.interrupts, h.ivcCount, h.ivcs⟩,
      ⟨h.entryPoint, h.kernelLoadPaddr, h.dtbLoadPaddr⟩, ⟨h.kernel, h.dtb, h.modules⟩, h.name, h.arch⟩

theorem returns_parsePciBuses : (parsePciBuses root config).Returns ↔ BusesParse root := by
  have hchain : (parsePciBuses root config).Returns ↔
      (Json.getObjectItem root "pci_config").isSome = true ∧
        (Json.itemsOf root "pci_config").length ≤ configPciBusMaxnum ∧
        ∀ json ∈ Json.itemsOf root "pci_config", FieldsParse pciConfigFields json := by
    refine Traced.returns_bind_iff (returns_require _) fun _ _ => ?_
    refine Traced.returns_bind_iff (returns_require_decide _) fun _ _ => ?_
    exact Traced.forItems_returns_iff returns_parsePciBus _ _ _
  rw [hchain]
  exact ⟨fun ⟨hpresent, hcount, hbuses⟩ => ⟨hpresent, hcount, hbuses⟩,
    fun h => ⟨h.present, h.count, h.buses⟩⟩

theorem returns_parsePciDevs : (parsePciDevs root config).Returns ↔ DevsParse root :=
  Traced.forItems_returns_iff returns_parsePciDev _ _ _

end Stages

/-! ## 5. What they leave -/

theorem getD_setIfInBounds {α : Type} {n : Nat} (xs : Vector α n) {i : Nat} (hi : i < n) (x d : α)
    (j : Nat) : (xs.setIfInBounds i x).getD j d = if i = j then x else xs.getD j d := by
  simp only [Vector.getD, Vector.toArray_setIfInBounds, Array.getD_eq_getD_getElem?,
    Array.getElem?_setIfInBounds]
  by_cases hij : i = j
  · simp [hij, hij ▸ hi]
  · simp [hij]

/-- The bit of an interrupt. -/
def bitSet (bitmap : Vector UInt32 (configMaxInterrupts / configInterruptsBitmapBitsPerWord))
    (i : Nat) : Bool :=
  bitmap.getD (i / configInterruptsBitmapBitsPerWord) 0 &&&
    oneBit (i % configInterruptsBitmapBitsPerWord) != 0

theorem bitSet_zero (i : Nat) : bitSet (.replicate _ 0) i = false := by
  have hzero : (Vector.replicate (configMaxInterrupts / configInterruptsBitmapBitsPerWord)
      (0 : UInt32)).getD (i / configInterruptsBitmapBitsPerWord) 0 = 0 := by
    by_cases hi : i / configInterruptsBitmapBitsPerWord <
        configMaxInterrupts / configInterruptsBitmapBitsPerWord <;> simp [Vector.getD, hi]
  rw [bitSet, hzero]
  simp

/-- Setting an interrupt sets its bit, and no other. -/
theorem bitSet_setInterrupt
    (bitmap : Vector UInt32 (configMaxInterrupts / configInterruptsBitmapBitsPerWord))
    {irq : Nat} (h : irq < configMaxInterrupts) (i : Nat) :
    bitSet (setInterrupt bitmap irq) i = (bitSet bitmap i || decide (i = irq)) := by
  have hword : irq / configInterruptsBitmapBitsPerWord <
      configMaxInterrupts / configInterruptsBitmapBitsPerWord := by
    show irq / 32 < 1024 / 32
    have hlt : irq < 1024 := h
    omega
  have hbits : ∀ k, k % configInterruptsBitmapBitsPerWord < 32 := fun k =>
    Nat.mod_lt k (by decide)
  unfold bitSet setInterrupt
  rw [getD_setIfInBounds _ hword]
  by_cases hsame : irq / configInterruptsBitmapBitsPerWord = i / configInterruptsBitmapBitsPerWord
  · have hirq : i % configInterruptsBitmapBitsPerWord = irq % configInterruptsBitmapBitsPerWord ↔
        i = irq := by
      refine ⟨fun hmod => ?_, fun heq => by rw [heq]⟩
      have hi := Nat.div_add_mod i configInterruptsBitmapBitsPerWord
      rwa [hmod, ← hsame, Nat.div_add_mod, eq_comm] at hi
    rw [if_pos hsame, or_oneBit_and _ (hbits i) (hbits irq), hsame, decide_eq_decide.mpr hirq]
  · have hne : i ≠ irq := fun heq => hsame (by rw [heq])
    rw [if_neg hsame, decide_eq_false hne, Bool.or_false]

/-- An item that is read as an interrupt. -/
def ReadAs (json : Json) (i : Nat) : Prop :=
  ∃ irq, JsonTarget.read .size (some json) = some irq ∧ irq.toNat = i

/-- **The loop sets the bits of what its items are read as.** -/
theorem parseInterrupts_bits {k : Nat} {items : List Json} {config config' : ZoneConfig}
    (h : (Traced.forItems parseInterrupt k items config).result = .ok config') (i : Nat) :
    bitSet config'.interruptsBitmap i = true ↔
      bitSet config.interruptsBitmap i = true ∨ ∃ item ∈ items, ReadAs item i := by
  induction items generalizing k config with
  | nil =>
    cases h
    simp
  | cons item items ih =>
    rw [Traced.forItems, Traced.result_bind] at h
    obtain ⟨next, hnext, h⟩ := bind_eq_ok.mp h
    obtain ⟨irq, hread, hlt⟩ := (returns_parseInterrupt k item config).mp ⟨next, hnext⟩
    have hconfig : next = { config with
        interruptsBitmap := setInterrupt config.interruptsBitmap irq.toNat } := by
      unfold parseInterrupt at hnext
      rw [hread] at hnext
      dsimp only at hnext
      rw [if_neg (Nat.not_le.mpr hlt)] at hnext
      exact (Except.ok.inj hnext).symm
    have hfirst : ReadAs item i ↔ i = irq.toNat := by
      constructor
      · rintro ⟨irq', hread', rfl⟩
        rw [hread] at hread'
        cases hread'
        rfl
      · exact fun heq => ⟨irq, hread, heq.symm⟩
    rw [ih h, hconfig]
    simp only [bitSet_setInterrupt _ hlt, Bool.or_eq_true, decide_eq_true_eq, List.mem_cons,
      exists_eq_or_imp, hfirst, or_assoc]

/-- Code that leaves a part of the configuration as it was, if it returns. -/
def ZoneKeeps {γ : Type} (g : ZoneConfig → γ) (config : ZoneConfig) (x : Zoning ZoneConfig) : Prop :=
  ∀ config', x.result = .ok config' → g config' = g config

section ZoneKeeps

variable {γ : Type} {g : ZoneConfig → γ} {config : ZoneConfig}

theorem zoneKeeps_ok {log : List ZoneEvent} {config' : ZoneConfig} (h : g config' = g config) :
    ZoneKeeps g config ⟨log, .ok config'⟩ := fun _ hc => by
  cases hc
  exact h

theorem zoneKeeps_error {log : List ZoneEvent}
    {e : ZoneFault} : ZoneKeeps g config ⟨log, .error e⟩ :=
  fun _ hc => (by cases hc)

theorem zoneKeeps_bind {α : Type} {x : Zoning α} {f : α → Zoning ZoneConfig}
    (hf : ∀ a, ZoneKeeps g config (f a)) : ZoneKeeps g config (x.bind f) := by
  intro config' hc
  rw [Traced.result_bind] at hc
  obtain ⟨a, -, hc⟩ := bind_eq_ok.mp hc
  exact hf a config' hc

theorem zoneKeeps_forItems {body : Nat → Json → ZoneConfig → Zoning ZoneConfig}
    (hbody : ∀ i json config, ZoneKeeps g config (body i json config)) (i : Nat) (items : List Json) :
    ZoneKeeps g config (.forItems body i items config) := by
  intro config' hc
  have hpass : ∀ i json a a', g a = g config → (body i json a).result = .ok a' →
      g a' = g config := fun i json a a' ha h => (hbody i json a a' h).trans ha
  exact Traced.forItems_preserves hpass rfl hc

end ZoneKeeps

/-- What a configuration is judged by, besides the PCI counts. -/
def ZoneConfig.head (config : ZoneConfig) :=
  (config.numMemoryRegions, config.numIvcConfigs, config.interruptsBitmap, config.name)

/-- What `zone_start_from_json` itself has put in, before `parse_pci_config`. -/
structure ZoneFilled [CJson] (items : ZoneItems) (config : ZoneConfig) : Prop where
  regions : config.numMemoryRegions = UInt32.ofNat items.memoryRegions.children.length
  ivcs : config.numIvcConfigs = UInt32.ofNat items.ivcConfigs.children.length
  bits : ∀ i, bitSet config.interruptsBitmap i = true ↔
    ∃ item ∈ items.interrupts.children, ReadAs item i
  name : ∃ name, items.name.valuestring = some name ∧ config.name = copyName (Json.bytes name)

/-- A stage that keeps the head keeps what has been put in. -/
theorem ZoneFilled.of_head [CJson] {items : ZoneItems} {config config' : ZoneConfig}
    (h : ZoneFilled items config)
    (hhead : config'.head = config.head) : ZoneFilled items config' := by
  obtain ⟨hregions, hhead⟩ := Prod.mk.inj hhead
  obtain ⟨hivcs, hhead⟩ := Prod.mk.inj hhead
  obtain ⟨hbits, hname⟩ := Prod.mk.inj hhead
  refine ⟨hregions.trans h.regions, hivcs.trans h.ivcs, ?_, ?_⟩
  · rw [hbits]
    exact h.bits
  · rw [hname]
    exact h.name

section Effects

variable [CJson] (i : Nat) (json : Json)

theorem zoneKeeps_parseRegion (config : ZoneConfig) :
    ZoneKeeps ZoneConfig.head config (parseRegion i json config) := by
  refine zoneKeeps_bind fun region => ?_
  split
  · exact zoneKeeps_error
  split
  · exact zoneKeeps_error
  split
  · exact zoneKeeps_error
  · exact zoneKeeps_ok rfl

omit [CJson] in
theorem zoneKeeps_parseInterrupt (config : ZoneConfig) :
    ZoneKeeps ZoneConfig.numMemoryRegions config (parseInterrupt i json config) := by
  unfold parseInterrupt
  split
  · exact zoneKeeps_error
  split
  · exact zoneKeeps_error
  · exact zoneKeeps_ok rfl

theorem zoneKeeps_parseIvc (config : ZoneConfig) :
    ZoneKeeps ZoneConfig.head config (parseIvc i json config) := by
  refine zoneKeeps_bind fun ivcId => zoneKeeps_bind fun peerId => zoneKeeps_bind fun ivc => ?_
  exact zoneKeeps_bind fun interruptNum => zoneKeeps_bind fun maxPeers => zoneKeeps_ok rfl

omit [CJson] in
theorem zoneKeeps_parseEntries (items : ZoneItems) (config : ZoneConfig) :
    ZoneKeeps ZoneConfig.head config (parseEntries items config) := by
  unfold parseEntries
  split
  · exact zoneKeeps_ok rfl
  · exact zoneKeeps_error

/-- What the PCI stages leave alone besides the head. -/
theorem zoneKeeps_parsePciBus (config : ZoneConfig) :
    ZoneKeeps (fun c => (c.head, c.numPciBus)) config (parsePciBus i json config) :=
  zoneKeeps_bind fun _ => zoneKeeps_bind fun _ => zoneKeeps_ok rfl

theorem zoneKeeps_parsePciDev (config : ZoneConfig) :
    ZoneKeeps (fun c => (c.head, c.numPciBus, c.numPciDevs)) config (parsePciDev i json config) :=
  zoneKeeps_bind fun _ => zoneKeeps_ok rfl

variable {env : ZoneEnv} {root : Option Json} {items : ZoneItems} {config config' : ZoneConfig}

/-- The arrays of `zone_start_from_json`, but not yet the name. -/
theorem parseArrays_counts (h : (parseArrays items config).result = .ok config') :
    config'.numMemoryRegions = UInt32.ofNat items.memoryRegions.children.length ∧
      config'.numIvcConfigs = UInt32.ofNat items.ivcConfigs.children.length ∧
      ∀ i, bitSet config'.interruptsBitmap i = true ↔
        ∃ item ∈ items.interrupts.children, ReadAs item i := by
  unfold parseArrays parseIvcConfigs at h
  simp only [Traced.result_bind] at h
  obtain ⟨_, -, h⟩ := bind_eq_ok.mp h
  obtain ⟨regions, hregions, h⟩ := bind_eq_ok.mp h
  obtain ⟨interrupts, hinterrupts, h⟩ := bind_eq_ok.mp h
  obtain ⟨_, -, h⟩ := bind_eq_ok.mp h
  have hcount := (Prod.mk.inj (zoneKeeps_forItems zoneKeeps_parseRegion _ _ _ hregions)).1
  have hcount' := zoneKeeps_forItems zoneKeeps_parseInterrupt _ _ _ hinterrupts
  obtain ⟨hregion, hhead⟩ := Prod.mk.inj (zoneKeeps_forItems zoneKeeps_parseIvc _ _ _ h)
  obtain ⟨hivc, hhead⟩ := Prod.mk.inj hhead
  obtain ⟨hbits, -⟩ := Prod.mk.inj hhead
  refine ⟨hregion.trans (hcount'.trans hcount), hivc, fun i => ?_⟩
  rw [hbits]
  refine (parseInterrupts_bits hinterrupts i).trans ?_
  simp [bitSet_zero]

theorem loadZone_head {loaded : ZoneConfig × Option UInt64}
    (h : (loadZone env root items config).result = .ok loaded) :
    loaded.1.head = config.head ∧ loaded.2.isSome = bootModeIsMultiboot2 root := by
  unfold loadZone at h
  simp only [Traced.result_bind] at h
  obtain ⟨kernel, hkernel, h⟩ := bind_eq_ok.mp h
  obtain ⟨dtbSize, -, h⟩ := bind_eq_ok.mp h
  obtain ⟨_, -, h⟩ := bind_eq_ok.mp h
  cases h
  refine ⟨rfl, ?_⟩
  unfold loadZoneKernel at hkernel
  split at hkernel
  next hmode =>
    rw [hmode]
    split at hkernel
    · rw [Traced.result_bind] at hkernel
      obtain ⟨info, -, hkernel⟩ := bind_eq_ok.mp hkernel
      cases info <;> cases hkernel
      rfl
    · cases hkernel
  next hmode =>
    rw [Traced.result_bind] at hkernel
    obtain ⟨size, -, hkernel⟩ := bind_eq_ok.mp hkernel
    cases hkernel
    exact (Bool.eq_false_iff.mpr hmode).symm

omit [CJson] in
theorem parseName_name (h : (parseName items config).result = .ok config') :
    ∃ name, items.name.valuestring = some name ∧
      config' = { config with name := copyName (Json.bytes name) } := by
  unfold parseName at h
  split at h
  · cases h
  next name hname =>
  split at h
  · cases h
  · cases h
    exact ⟨name, hname, rfl⟩

/-- **What the stages before `parse_pci_config` leave.** -/
theorem parseZone_filled {zone : ZoneConfig × Option UInt64}
    (h : (parseZone env root items config).result = .ok zone) :
    ZoneFilled items zone.1 ∧ zone.2.isSome = bootModeIsMultiboot2 root := by
  unfold parseZone at h
  simp only [Traced.result_bind] at h
  obtain ⟨cpus, -, h⟩ := bind_eq_ok.mp h
  obtain ⟨arrays, harrays, h⟩ := bind_eq_ok.mp h
  obtain ⟨entries, hentries, h⟩ := bind_eq_ok.mp h
  obtain ⟨loaded, hloaded, h⟩ := bind_eq_ok.mp h
  obtain ⟨named, hnamed, h⟩ := bind_eq_ok.mp h
  obtain ⟨_, -, h⟩ := bind_eq_ok.mp h
  cases h
  obtain ⟨hregions, hivcs, hbits⟩ := parseArrays_counts harrays
  obtain ⟨hhead, hmode⟩ := loadZone_head hloaded
  obtain ⟨name, hname, rfl⟩ := parseName_name hnamed
  have hsame := hhead.trans (zoneKeeps_parseEntries items arrays entries hentries)
  obtain ⟨hregions', hsame⟩ := Prod.mk.inj hsame
  obtain ⟨hivcs', hsame⟩ := Prod.mk.inj hsame
  obtain ⟨hbits', -⟩ := Prod.mk.inj hsame
  refine ⟨⟨hregions'.trans hregions, hivcs'.trans hivcs, ?_, name, hname, rfl⟩, hmode⟩
  show ∀ i, bitSet loaded.1.interruptsBitmap i = true ↔ _
  rw [hbits']
  exact hbits

/-- What `parse_pci_config` leaves. -/
theorem parsePciBuses_head (h : (parsePciBuses root config).result = .ok config') :
    config'.head = config.head ∧
      config'.numPciBus = UInt64.ofNat (Json.itemsOf root "pci_config").length := by
  unfold parsePciBuses at h
  simp only [Traced.result_bind] at h
  obtain ⟨_, -, h⟩ := bind_eq_ok.mp h
  obtain ⟨_, -, h⟩ := bind_eq_ok.mp h
  exact Prod.mk.inj (zoneKeeps_forItems zoneKeeps_parsePciBus _ _ _ h)

theorem parsePciDevs_head (h : (parsePciDevs root config).result = .ok config') :
    config'.head = config.head ∧ config'.numPciBus = config.numPciBus ∧
      config'.numPciDevs = UInt64.ofNat (Json.itemsOf root "alloc_pci_devs").length := by
  obtain ⟨hhead, hcounts⟩ := Prod.mk.inj (zoneKeeps_forItems zoneKeeps_parsePciDev _ _ _ h)
  exact ⟨hhead, Prod.mk.inj hcounts⟩

end Effects

end HvisorTool
