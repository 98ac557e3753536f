/-
  File:      HvisorTool/Driver/ScmiServer.lean
  Subject:   THE SCMI SERVER IN THE KERNEL MODULE: the clock and the power ioctls.

  The server keeps a cache of the clocks it has looked up and a table of the power domains it has
  attached. The kernel below it answers as it likes: every ioctl comes with the answers that the
  calls it makes would get. The calls that take or drop a reference are recorded.

  * `ScmiServer`: the cache and the table;
  * `KernelCall`: a call that takes or drops a reference;
  * `hvisorScmiClockIoctl`, `hvisorScmiPowerIoctl`: the two entry points, every subcommand;
  * `clockGetCached_spec`, `powerDomainInit_spec`: which ids they come through with.
-/
import Mathlib.Logic.Function.Basic
import Mathlib.Tactic.Common

namespace HvisorTool

/-! ## 1. What the kernel answers -/

/-- An error number as kernel functions return it. -/
structure Errno where
  val : Int
  neg : val < 0
  minErrno : -4095 ≤ val

def enoent : Errno := ⟨-2, by decide, by decide⟩

def efault : Errno := ⟨-14, by decide, by decide⟩

def enodev : Errno := ⟨-19, by decide, by decide⟩

def einval : Errno := ⟨-22, by decide, by decide⟩

/-- The `int` of a call that gives 0 or an error. -/
def retOf : Option Errno → Int
  | none => 0
  | some e => e.val

theorem retOf_nonneg_iff (r : Option Errno) : 0 ≤ retOf r ↔ r = none := by
  cases r with
  | none => exact iff_of_true (Int.le_refl 0) rfl
  | some e =>
    have hneg : ¬ 0 ≤ e.val := Int.not_le.mpr e.neg
    exact iff_of_false hneg (Option.some_ne_none e)

/-- A pointer that may be an error (`ERR_PTR`). -/
inductive KernelPtr where
  | null
  | err (e : Errno)
  | valid

/-- `IS_ERR`. -/
def KernelPtr.isErr : KernelPtr → Bool
  | .err _ => true
  | _ => false

/-- What the calls of one clock ioctl would answer. -/
structure ClkAnswers where
  ofClkGet : KernelPtr
  clkPrepareEnable : Option Errno
  clkSetRate : Option Errno
  clkIsEnabled : Bool
  clkGetName : Option String
  clkGetRate : UInt64
  copyToUser : Bool

/-- What the calls of one power ioctl would answer. -/
structure PmAnswers where
  genpdDevPmAttachById : KernelPtr
  pmRuntimeResumeAndGet : Option Errno
  pmRuntimeGetSync : Int
  pmRuntimePutSync : Int
  pmRuntimeActive : Bool
  copyToUser : Bool

/-- A call that takes or drops a reference, with its answer. -/
inductive KernelCall where
  | clkPrepareEnable (clockId : UInt32) (ret : Option Errno)
  | clkDisableUnprepare (clockId : UInt32)
  | pmRuntimeResumeAndGet (domainId : UInt32) (ret : Option Errno)
  | pmRuntimeGetSync (domainId : UInt32) (ret : Int)
  | pmRuntimePutNoidle (domainId : UInt32)
  | pmRuntimePutSync (domainId : UInt32) (ret : Int)

/-! ## 2. The server -/

/-- `clock_cache` with `clock_max_num`, and `power_devices` with `power_max_num`: the
    arrays have as many entries, and every access stands behind a test of the index. -/
structure ScmiServer where
  clockMaxNum : UInt32
  clockCache : UInt32 → KernelPtr
  powerMaxNum : UInt32
  attached : UInt32 → Bool

/-- What `hvisor_scmi_init` leaves, for the numbers of clocks and power domains of the
    device tree node. -/
def hvisorScmiInit (clocks domains : UInt32) : ScmiServer :=
  ⟨clocks, fun _ => .null, domains, fun _ => false⟩

/-- What an ioctl comes to: its return value, the server, the calls made, and what it
    copied to the caller's arguments. -/
structure IoctlResult (ρ : Type) where
  ret : Int
  server : ScmiServer
  calls : List KernelCall
  reply : Option ρ

variable {ρ : Type}

/-- An ioctl that ends without a call and without a reply. -/
def returns (s : ScmiServer) (ret : Int) : IoctlResult ρ := ⟨ret, s, [], none⟩

/-- `copy_to_user` at the end of an ioctl. -/
def copyReply (s : ScmiServer) (copied : Bool) (reply : ρ) : IoctlResult ρ :=
  if copied then ⟨0, s, [], some reply⟩ else returns s efault.val

/-- `strncpy` of 63 characters, with the terminator behind them. -/
def strncpy63 (name : String) : String := String.ofList (name.toList.take 63)

/-! ## 3. Clocks -/

/-- `struct hvisor_scmi_clock_args` as it comes in, by its subcommand. -/
inductive ClockArgs where
  | getCount
  | getAttributes (clockId : UInt32)
  | describeRates
  | rateGet (clockId : UInt32)
  | rateSet (clockId : UInt32) (rate : UInt64)
  | configGet (clockId : UInt32)
  | configSet (clockId config : UInt32)
  | nameGet (clockId : UInt32)
  | other (subcmd : UInt32)
  deriving DecidableEq, Repr

/-- The member of the arguments that is copied back. -/
inductive ClockReply where
  | clockCount (count : UInt32)
  | clockAttr (enabled parentId isValid : UInt32) (clockName : String)
  | clockRateInfo (rate : UInt64)
  | clockConfigInfo (config extendedConfigVal : UInt32)
  | clockNameInfo (name : String)
  deriving DecidableEq, Repr

/-- `clock_get_cached`: an error that `of_clk_get` gave stays in the cache. -/
def clockGetCached (s : ScmiServer) (k : ClkAnswers) (clkId : UInt32) : KernelPtr × ScmiServer :=
  if s.clockMaxNum ≤ clkId then (.err enoent, s)
  else
    match s.clockCache clkId with
    | .null =>
      (k.ofClkGet, { s with clockCache := Function.update s.clockCache clkId k.ofClkGet })
    | ptr => (ptr, s)

/-- The head of the functions on one clock: look it up, return its error. -/
def onClock (s : ScmiServer) (k : ClkAnswers) (clockId : UInt32)
    (body : ScmiServer → IoctlResult ρ) : IoctlResult ρ :=
  match clockGetCached s k clockId with
  | (.err e, s) => returns s e.val
  | (_, s) => body s

/-- The name of a clock as `get_clock_name` and `get_clock_attributes` give it. -/
def clockName (k : ClkAnswers) (clockId : UInt32) : String :=
  match k.clkGetName with
  | some name => strncpy63 name
  | none => strncpy63 s!"unknown_clk_{clockId}"

/-- `set_clock_rate`. -/
def setClockRate (s : ScmiServer) (k : ClkAnswers) (clockId : UInt32) : IoctlResult ClockReply :=
  onClock s k clockId fun s => returns s (retOf k.clkSetRate)

/-- `set_clock_config`. -/
def setClockConfig (s : ScmiServer) (k : ClkAnswers) (clockId config : UInt32) :
    IoctlResult ClockReply :=
  onClock s k clockId fun s =>
    if config &&& 1 ≠ 0 then
      ⟨retOf k.clkPrepareEnable, s, [.clkPrepareEnable clockId k.clkPrepareEnable], none⟩
    else ⟨0, s, [.clkDisableUnprepare clockId], none⟩

/-- `hvisor_scmi_clock_ioctl`; the arguments are `none` where `copy_from_user` fails. -/
def hvisorScmiClockIoctl (s : ScmiServer) (k : ClkAnswers) :
    Option ClockArgs → IoctlResult ClockReply
  | none => returns s efault.val
  | some .getCount =>
    -- get_clock_count gives an int
    let count := s.clockMaxNum.toInt32.toInt
    if count < 0 then returns s count
    else copyReply s k.copyToUser (.clockCount s.clockMaxNum)
  | some (.getAttributes clockId) =>
    onClock s k clockId fun s =>
      copyReply s k.copyToUser
        (.clockAttr (if k.clkIsEnabled then 1 else 0) (-1) 1 (strncpy63 (clockName k clockId)))
  | some .describeRates => returns s 0
  | some (.rateGet clockId) =>
    onClock s k clockId fun s => copyReply s k.copyToUser (.clockRateInfo k.clkGetRate)
  | some (.rateSet clockId _) => setClockRate s k clockId
  | some (.configGet clockId) =>
    onClock s k clockId fun s =>
      copyReply s k.copyToUser (.clockConfigInfo (if k.clkIsEnabled then 1 else 0) 0)
  | some (.configSet clockId config) => setClockConfig s k clockId config
  | some (.nameGet clockId) =>
    onClock s k clockId fun s =>
      copyReply s k.copyToUser (.clockNameInfo (strncpy63 (clockName k clockId)))
  | some (.other _) => returns s einval.val

/-- The id is one of the node's clocks, and its pointer, cached or looked up now, is no
    error. -/
def ScmiServer.hasClock (s : ScmiServer) (k : ClkAnswers) (clockId : UInt32) : Bool :=
  clockId < s.clockMaxNum &&
    match s.clockCache clockId with
    | .null => !k.ofClkGet.isErr
    | .err _ => false
    | .valid => true

/-- **A clock is found exactly where the node has it and the lookup is no error.** -/
theorem clockGetCached_spec (s : ScmiServer) (k : ClkAnswers) (clockId : UInt32) :
    s.hasClock k clockId = !(clockGetCached s k clockId).1.isErr := by
  unfold clockGetCached ScmiServer.hasClock
  by_cases hid : s.clockMaxNum ≤ clockId
  · rw [if_pos hid, decide_eq_false (UInt32.not_lt.mpr hid)]
    rfl
  · rw [if_neg hid, decide_eq_true (UInt32.not_le.mp hid), Bool.true_and]
    cases s.clockCache clockId with
    | null | err e | valid => rfl

/-- **A function on one clock** returns an error where the clock is not found, and runs
    its body where it is. -/
theorem onClock_cases (s : ScmiServer) (k : ClkAnswers) (clockId : UInt32)
    (body : ScmiServer → IoctlResult ρ) :
    (s.hasClock k clockId = false ∧ ∃ (e : Errno) (s' : ScmiServer),
      onClock s k clockId body = returns s' e.val) ∨
    (s.hasClock k clockId = true ∧ ∃ s', onClock s k clockId body = body s') := by
  have hspec := clockGetCached_spec s k clockId
  unfold onClock
  rcases hget : clockGetCached s k clockId with ⟨ptr, s'⟩
  rw [hget] at hspec
  cases ptr with
  | null => exact .inr ⟨hspec, s', rfl⟩
  | err e => exact .inl ⟨hspec, e, s', rfl⟩
  | valid => exact .inr ⟨hspec, s', rfl⟩

/-! ## 4. Power domains -/

/-- `SCMI_POWER_STATE_GENERIC_ON` and `SCMI_POWER_STATE_GENERIC_OFF`. -/
def scmiPowerStateGenericOn : UInt32 := 0x00000000

def scmiPowerStateGenericOff : UInt32 := 0x40000000

/-- `struct hvisor_scmi_power_args` as it comes in, by its subcommand. -/
inductive PowerArgs where
  | getCount
  | getAttributes (domainId : UInt32)
  | stateSet (domainId powerState : UInt32)
  | stateGet (domainId : UInt32)
  | other (subcmd : UInt32)
  deriving DecidableEq, Repr

/-- The member of the arguments that is copied back. -/
inductive PowerReply where
  | powerCount (count : UInt32)
  | powerAttr (flags : UInt32) (name : String)
  | powerStateInfo (powerState : UInt32)
  deriving DecidableEq, Repr

/-- `power_domain_init`. -/
def powerDomainInit (s : ScmiServer) (k : PmAnswers) (domainId : UInt32) : Int × ScmiServer :=
  if s.powerMaxNum ≤ domainId then (enoent.val, s)
  else if s.attached domainId then (0, s)
  else
    match k.genpdDevPmAttachById with
    | .null => (enodev.val, s)
    | .err e => (e.val, s)
    | .valid => (0, { s with attached := Function.update s.attached domainId true })

/-- `power_domain_state_set`, in a kernel from 5.10 on or before. -/
def powerDomainStateSet (since510 : Bool) (s : ScmiServer) (k : PmAnswers)
    (domainId powerState : UInt32) : IoctlResult PowerReply :=
  if s.powerMaxNum ≤ domainId ∨ s.attached domainId = false then returns s enodev.val
  else if powerState = scmiPowerStateGenericOn then
    if since510 then
      ⟨retOf k.pmRuntimeResumeAndGet, s,
        [.pmRuntimeResumeAndGet domainId k.pmRuntimeResumeAndGet], none⟩
    else
      -- pm_runtime_get_sync keeps its reference also where it fails
      let undo := if k.pmRuntimeGetSync < 0 then [.pmRuntimePutNoidle domainId] else []
      ⟨k.pmRuntimeGetSync, s, .pmRuntimeGetSync domainId k.pmRuntimeGetSync :: undo, none⟩
  else if powerState = scmiPowerStateGenericOff then
    ⟨k.pmRuntimePutSync, s, [.pmRuntimePutSync domainId k.pmRuntimePutSync], none⟩
  else returns s einval.val

/-- `power_domain_state_get` and `power_domain_get_attributes`: attach where needed, then
    give what was asked for. -/
def onDomain (s : ScmiServer) (k : PmAnswers) (domainId : UInt32) (reply : PowerReply) :
    IoctlResult PowerReply :=
  if s.powerMaxNum ≤ domainId then returns s enodev.val
  else if s.attached domainId then copyReply s k.copyToUser reply
  else
    match powerDomainInit s k domainId with
    | (ret, s) => if ret < 0 then returns s ret else copyReply s k.copyToUser reply

/-- `hvisor_scmi_power_ioctl`; the arguments are `none` where `copy_from_user` fails. -/
def hvisorScmiPowerIoctl (since510 : Bool) (s : ScmiServer) (k : PmAnswers) :
    Option PowerArgs → IoctlResult PowerReply
  | none => returns s efault.val
  | some .getCount => copyReply s k.copyToUser (.powerCount s.powerMaxNum)
  | some (.getAttributes domainId) =>
    match powerDomainInit s k domainId with
    | (ret, s) =>
      if ret < 0 then returns s ret
      else onDomain s k domainId (.powerAttr 0 (strncpy63 s!"pd_{domainId}"))
  | some (.stateSet domainId powerState) =>
    match powerDomainInit s k domainId with
    | (ret, s) =>
      if ret < 0 then returns s ret
      else powerDomainStateSet since510 s k domainId powerState
  | some (.stateGet domainId) =>
    onDomain s k domainId
      (.powerStateInfo
        (if k.pmRuntimeActive then scmiPowerStateGenericOn else scmiPowerStateGenericOff))
  | some (.other _) => returns s einval.val

/-- The id is one of the node's power domains, and it is attached or attaches now. -/
def ScmiServer.hasDomain (s : ScmiServer) (k : PmAnswers) (domainId : UInt32) : Bool :=
  domainId < s.powerMaxNum &&
    (s.attached domainId ||
      match k.genpdDevPmAttachById with
      | .valid => true
      | _ => false)

/-- **A power domain is attached behind `power_domain_init`** exactly where the node has
    it and it was attached or attaches; otherwise the result is an error. -/
theorem powerDomainInit_spec (s : ScmiServer) (k : PmAnswers) (domainId : UInt32) :
    (s.hasDomain k domainId = false ∧ (powerDomainInit s k domainId).1 < 0) ∨
    (s.hasDomain k domainId = true ∧ (powerDomainInit s k domainId).1 = 0 ∧
      ¬ ((powerDomainInit s k domainId).2.powerMaxNum ≤ domainId ∨
        (powerDomainInit s k domainId).2.attached domainId = false)) := by
  unfold powerDomainInit ScmiServer.hasDomain
  by_cases hid : s.powerMaxNum ≤ domainId
  · rw [if_pos hid, decide_eq_false (UInt32.not_lt.mpr hid), Bool.false_and]
    exact .inl ⟨rfl, enoent.neg⟩
  · rw [if_neg hid, decide_eq_true (UInt32.not_le.mp hid), Bool.true_and]
    cases hatt : s.attached domainId with
    | true =>
      rw [if_pos rfl]
      exact .inr ⟨rfl, rfl, by simp [hid, hatt]⟩
    | false =>
      rw [if_neg Bool.false_ne_true, Bool.false_or]
      cases k.genpdDevPmAttachById with
      | null => exact .inl ⟨rfl, enodev.neg⟩
      | err e => exact .inl ⟨rfl, e.neg⟩
      | valid => exact .inr ⟨rfl, rfl, by simp [hid]⟩

end HvisorTool
