/-
  File:      HvisorTool/Gpu/Completion.lean
  Subject:   THE COMPLETION OF GPU COMMANDS, from the available ring to the used ring.

  A notification takes chains off a queue and puts commands for them on the command queue;
  the worker takes commands from its front, runs them and posts their used entries. A chain
  without buffers gets no command, and a command whose header is cut off gets no entry.

  * `GPUThreads`, `gpuThreadsStep`: the two threads side by side, one request or one command a step,
    in any interleaving; guest memory and the answers from outside are the label's;
  * `Owes`: what the account of a queue says: the chains taken are those answered, then those
    on the command queue; `Owes.take`, `Owes.post`: the steps that keep it;
    `Owes.balance`: the number that a chain dropped changes;
  * `gpuThreadsOk`: chains announce buffers, and commands fit;
  * `gpu_completion_iff`: every chain taken is answered once, in order and by a response that
    is true, throughout a run, if and only if its steps meet this.
-/
import HvisorTool.Device.Handlers
import HvisorTool.Gpu.Effects
import HvisorTool.Gpu.Response
import HvisorTool.Virtio.Accounting

namespace HvisorTool

open Library

/-! ## 1. The two threads -/

/-- `gcmd->resp_iov`; `junk` is what a slot holds that was never stored to. -/
def GPUCommand.iovs (c : GPUCommand) (junk : Nat → Iovec) : List Iovec :=
  (List.range c.respIovCnt.toNat).map fun i =>
    match c.respIov i with
    | some slot => slot.iov
    | none => junk i

/-- The worker on a command: `virtio_gpu_simple_process_cmd`, with the queue that the response
    is posted on. -/
def runCommand (env : GPUEnv) (junk : Nat → Iovec) (c : GPUCommand) (q : CompletionQueue)
    (dev : GPUState) : Except GPUFault (CompletionQueue × GPUState) := do
  let o ← virtioGpuSimpleProcessCmd env (c.iovs junk) dev
  match o.resp with
  | none => .ok (q, o.dev)
  | some resp => do
      let (q, _) ← virtioGpuCtrlResponse q (c.iovs junk) c.respIdx resp
      .ok (q, o.dev)

/-- The device under both threads: its queues, each with the heads of the chains taken off
    it, the command queue, and what commands work on. -/
structure GPUThreads where
  queues : Nat → Ledger
  commandQueue : List GPUCommand
  dev : GPUState

/-- The device as `virtio_gpu_handle_single_request` finds it. It leaves the interrupt line. -/
def GPUThreads.ringState (s : GPUThreads) (vq : VirtQueue) (y : Sight) : RingState GPUDev :=
  { lastAvailIdx := vq.lastAvailIdx, lastUsedIdx := vq.lastUsedIdx, irq := .down
    dev := ⟨s.commandQueue⟩, batch := [], tape := [y] }

/-- A step: a request taken off a queue, or a command run. -/
inductive GPULabel where
  | request (i : Nat) (y : Sight)
  | command (env : GPUEnv) (junk : Nat → Iovec)

/-- The threads. The command queue has a lock, so a request and a removal do not overlap; a
    command at work shares nothing with a request. A fault ends the program. -/
def gpuThreadsStep (zm : ZoneTable) (s : GPUThreads) : GPULabel → Option GPUThreads
  | .request i y =>
    let l := s.queues i
    (virtioGpuHandleSingleRequest zm i l.q.vq (s.ringState l.q.vq y)).toOption.map fun r =>
      { s with
        queues := Function.update s.queues i
          (l.move { l.q with vq := r.2.queue l.q.vq } (l.q.vq.availHead y.mem))
        commandQueue := r.2.dev.commandQueue }
  | .command env junk =>
    match s.commandQueue with
    | [] => none
    | c :: rest =>
      let l := s.queues c.fromQueue
      (runCommand env junk c l.q s.dev).toOption.map fun r =>
        { queues := Function.update s.queues c.fromQueue { l with q := r.1 }
          commandQueue := rest
          dev := r.2 }

def gpuThreadsMachine (zm : ZoneTable) : Machine GPUThreads GPULabel := ⟨gpuThreadsStep zm⟩

/-! ## 2. What each step does -/

section Steps

variable {zm : ZoneTable} {s s' : GPUThreads}

/-- The command for a chain. -/
def ChainResult.command (r : ChainResult) (i : Nat) : GPUCommand :=
  ⟨r.arr, r.ret, r.descIdx.getD 0, i⟩

/-- `virtio_gpu_handle_single_request`, from the walk on. -/
theorem handleSingleRequest_ok {i : Nat} {vq : VirtQueue} {t t' : RingState GPUDev} {more : Bool}
    (h : virtioGpuHandleSingleRequest zm i vq t = .ok (more, t')) :
    ∃ y tape r, t.tape = y :: tape ∧
      processDescriptorChain zm y.mem (t.queue vq) y.fuel 0 true = .ok r ∧
      t' = { t with
        tape := tape
        lastAvailIdx := r.vq.lastAvailIdx
        dev := ⟨if 1 ≤ r.ret then t.dev.commandQueue ++ [r.command i] else t.dev.commandQueue⟩ } := by
  obtain ⟨r, t₁, hpass, h⟩ := of_bind_ok h
  obtain ⟨y, tape, htape, hwalk, rfl⟩ := chainPass_returns hpass
  obtain ⟨_, t₂, hqueue, h⟩ := of_bind_ok h
  cases h
  refine ⟨y, tape, r, htape, hwalk, ?_⟩
  unfold whenever at hqueue
  split at hqueue
  · next hret =>
    cases hqueue
    rw [if_pos hret]
    rfl
  · next hret =>
    cases hqueue
    rw [if_neg hret]

/-- How a request ends: with nothing taken; with a chain taken and its command queued; or,
    where the chain has no buffers, with a chain taken and nothing to show for it. -/
inductive RequestEnd (i : Nat) (y : Sight) (s : GPUThreads) : GPUThreads → Prop where
  | same (hbuf : HasBuffers y.mem (s.queues i).q.vq) : RequestEnd i y s s
  | queued (hbuf : HasBuffers y.mem (s.queues i).q.vq) (c : GPUCommand) (hqueue : c.fromQueue = i)
      (hidx : c.respIdx = (s.queues i).q.vq.availHead y.mem) :
      RequestEnd i y s
        { s with
          queues := Function.update s.queues i
            ((s.queues i).move { (s.queues i).q with vq := (s.queues i).q.vq.advance }
              ((s.queues i).q.vq.availHead y.mem))
          commandQueue := s.commandQueue ++ [c] }
  | lost (hbuf : ¬ HasBuffers y.mem (s.queues i).q.vq) :
      RequestEnd i y s
        { s with
          queues := Function.update s.queues i
            ((s.queues i).move { (s.queues i).q with vq := (s.queues i).q.vq.advance }
              ((s.queues i).q.vq.availHead y.mem)) }

theorem request_end {i : Nat} {y : Sight} (h : gpuThreadsStep zm s (.request i y) = some s') :
    RequestEnd i y s s' := by
  obtain ⟨⟨more, t⟩, hrun, rfl⟩ := Option.map_eq_some_iff.mp h
  obtain ⟨y', tape, r, htape, hwalk, rfl⟩ := handleSingleRequest_ok (toOption_eq_some.mp hrun)
  cases htape
  obtain ⟨hempty, hret, hvq⟩ | ⟨-, hiff, hvq, hidx⟩ := chain_walk hwalk
  · have hvq : r.vq = (s.queues i).q.vq := hvq
    rw [hvq, if_neg (by omega)]
    have hsame : (s.queues i).move (s.queues i).q ((s.queues i).q.vq.availHead y.mem) = s.queues i := by
      simp [Ledger.move]
    have hstay : RequestEnd i y s
        { s with
          queues := Function.update s.queues i
            ((s.queues i).move (s.queues i).q ((s.queues i).q.vq.availHead y.mem)) } := by
      rw [hsame, Function.update_eq_self]
      exact .same (hasBuffers_of_empty hempty)
    exact hstay
  · have hvq : r.vq = (s.queues i).q.vq.advance := hvq
    rw [hvq]
    by_cases hbuf : HasBuffers y.mem (s.queues i).q.vq
    · have hpos := hiff.mpr hbuf
      rw [if_pos (by omega)]
      refine .queued hbuf (r.command i) rfl ?_
      simp [ChainResult.command, hidx]
      rfl
    · have hneg := mt hiff.mp hbuf
      rw [if_neg (by omega)]
      exact .lost hbuf

/-- How a command ends: its entry is posted exactly if the buffers hold the header. -/
theorem command_end {env : GPUEnv} {junk : Nat → Iovec}
    (h : gpuThreadsStep zm s (.command env junk) = some s') :
    ∃ c rest o q', s.commandQueue = c :: rest ∧
      virtioGpuSimpleProcessCmd env (c.iovs junk) s.dev = .ok o ∧
      s' = ⟨Function.update s.queues c.fromQueue { s.queues c.fromQueue with q := q' }, rest, o.dev⟩ ∧
      ((24 ≤ iovTotal (c.iovs junk) ∧ ∃ len, q' =
          { (s.queues c.fromQueue).q with
            used := updateUsedRing (s.queues c.fromQueue).q.vq.num (s.queues c.fromQueue).q.used
              (c.respIdx, len) }) ∨
        (¬ 24 ≤ iovTotal (c.iovs junk) ∧ q' = (s.queues c.fromQueue).q)) := by
  unfold gpuThreadsStep at h
  cases hqueue : s.commandQueue with
  | nil =>
    rw [hqueue] at h
    cases h
  | cons c rest =>
    rw [hqueue] at h
    obtain ⟨⟨q', dev'⟩, hrun, rfl⟩ := Option.map_eq_some_iff.mp h
    obtain ⟨o, hproc, hresp⟩ := bind_eq_ok.mp (toOption_eq_some.mp hrun)
    have hiff := responds_iff hproc
    cases ho : o.resp with
    | none =>
      rw [ho] at hresp hiff
      cases hresp
      exact ⟨c, rest, o, _, rfl, hproc, rfl, .inr ⟨fun hfit => (by cases hiff.mpr hfit), rfl⟩⟩
    | some resp =>
      rw [ho] at hresp hiff
      obtain ⟨⟨q₁, copies⟩, hpost, hresp⟩ := bind_eq_ok.mp hresp
      cases hresp
      exact ⟨c, rest, o, _, rfl, hproc, rfl, .inl ⟨hiff.mp rfl, _, ctrlResponse_posts hpost⟩⟩

end Steps

/-! ## 3. The account of a queue -/

/-- **What a queue owes**: since `l₀`, with `pending₀` on the command queue, the index of the
    available ring has moved over the new heads; together they are the ids of the used entries
    posted, in order, and then what is on the command queue. -/
def Owes (l₀ : Ledger) (pending₀ : List UInt16) (l : Ledger) (pending : List UInt16) : Prop :=
  ∃ (new : List UInt16) (cs : List Completion), l.heads = l₀.heads ++ new ∧
    pending₀ ++ new = cs.map (·.1) ++ pending ∧
    l.q.vq = { l₀.q.vq with lastAvailIdx := l₀.q.vq.lastAvailIdx + UInt16.ofNat new.length } ∧
    l.q.used = postAll l₀.q.vq.num l₀.q.used cs

namespace Owes

variable {l₀ l : Ledger} {pending₀ pending : List UInt16} {head : UInt16}

theorem refl (l : Ledger) (pending : List UInt16) : Owes l pending l pending :=
  ⟨[], [], by simp, by simp, by simp, rfl⟩

/-- A chain is taken, and its command queued. -/
theorem take (h : Owes l₀ pending₀ l pending) (head : UInt16) :
    Owes l₀ pending₀ (l.move { l.q with vq := l.q.vq.advance } head) (pending ++ [head]) := by
  obtain ⟨new, cs, hheads, hall, hvq, hused⟩ := h
  refine ⟨new ++ [head], cs, ?_, ?_, ?_, hused⟩
  · rw [Balances.heads_advance rfl, hheads, List.append_assoc]
  · rw [← List.append_assoc, hall, List.append_assoc]
  · show l.q.vq.advance = _
    rw [hvq, List.length_append, UInt16.ofNat_add, ← UInt16.add_assoc]
    rfl

/-- A command is taken off the command queue, and its entry posted. -/
theorem post (h : Owes l₀ pending₀ l (head :: pending)) (len : UInt32) :
    Owes l₀ pending₀
      { l with q := { l.q with used := updateUsedRing l.q.vq.num l.q.used (head, len) } } pending := by
  obtain ⟨new, cs, hheads, hall, hvq, hused⟩ := h
  have hnum : l.q.vq.num = l₀.q.vq.num := by rw [hvq]
  refine ⟨new, cs ++ [(head, len)], hheads, ?_, hvq, ?_⟩
  · rw [hall, List.map_append, List.append_assoc]
    rfl
  · show updateUsedRing l.q.vq.num l.q.used (head, len) = _
    rw [postAll_append, ← hused, hnum]
    rfl

/-- **The balance**: what the used index is ahead by, with what is on the command queue, is
    what the available index is ahead by. -/
theorem balance (h : Owes l₀ pending₀ l pending) :
    l.q.used.idx + UInt16.ofNat pending.length + l₀.q.vq.lastAvailIdx =
      l₀.q.used.idx + UInt16.ofNat pending₀.length + l.q.vq.lastAvailIdx := by
  obtain ⟨new, cs, -, hall, hvq, hused⟩ := h
  have hlen := congrArg (fun hs => UInt16.ofNat (List.length hs)) hall
  simp only [List.length_append, List.length_map, UInt16.ofNat_add] at hlen
  rw [hused, hvq, postAll_idx]
  dsimp only
  grind

end Owes

/-! ## 4. Runs -/

/-- The heads of the commands for a queue. -/
def headsOn (i : Nat) (cmds : List GPUCommand) : List UInt16 :=
  cmds.filterMap fun c => if c.fromQueue = i then some c.respIdx else none

/-- **The account of every queue holds since `s₀`.** -/
def GPUBooks (s₀ s : GPUThreads) : Prop :=
  ∀ i, Owes (s₀.queues i) (headsOn i s₀.commandQueue) (s.queues i) (headsOn i s.commandQueue)

/-- What the account asks of a step: the chain announces a buffer, and the buffers of the
    command hold its header. -/
def GPUBooksOk (s : GPUThreads) : GPULabel → Prop
  | .request i y => HasBuffers y.mem (s.queues i).q.vq
  | .command _ junk => ∀ c ∈ s.commandQueue.head?, 24 ≤ iovTotal (c.iovs junk)

/-- The response to the command that is run is true. -/
def AnswersTrue (s : GPUThreads) : GPULabel → Prop
  | .request _ _ => True
  | .command env junk => ∀ c ∈ s.commandQueue.head?, ∀ o,
      virtioGpuSimpleProcessCmd env (c.iovs junk) s.dev = .ok o →
        Truthful (CommandDone env (c.iovs junk) s.dev) s.dev o

/-- **The chain announces a buffer, and the command fits.** -/
def gpuThreadsOk (s : GPUThreads) : GPULabel → Prop
  | .request i y => HasBuffers y.mem (s.queues i).q.vq
  | .command env junk => ∀ c ∈ s.commandQueue.head?, CommandOk env (c.iovs junk) s.dev

section Runs

variable {zm : ZoneTable} {s₀ s s' : GPUThreads} {a : GPULabel}

theorem request_books {i : Nat} {y : Sight} (hs : GPUBooks s₀ s) (h : RequestEnd i y s s') :
    GPUBooks s₀ s' ↔ HasBuffers y.mem (s.queues i).q.vq := by
  cases h with
  | same hbuf => exact iff_of_true hs hbuf
  | queued hbuf c hqueue hidx =>
    refine iff_of_true (fun j => ?_) hbuf
    by_cases hj : j = i
    · subst hj
      have htake := (hs j).take ((s.queues j).q.vq.availHead y.mem)
      simpa [headsOn, hqueue, hidx] using htake
    · have hother : ¬ c.fromQueue = j := fun e => hj (e.symm.trans hqueue)
      simpa [headsOn, hother, Function.update_of_ne hj] using hs j
  | lost hbuf =>
    refine iff_of_false (fun hbooks => ?_) hbuf
    -- the index has moved, and nothing else has
    have hbefore := (hs i).balance
    have hafter := (hbooks i).balance
    simp only [Function.update_self, Ledger.move, VirtQueue.advance] at hafter
    grind

theorem gpuThreadsStep_books (hs : GPUBooks s₀ s) (h : gpuThreadsStep zm s a = some s') :
    GPUBooks s₀ s' ↔ GPUBooksOk s a := by
  cases a with
  | request i y => exact request_books hs (request_end h)
  | command env junk =>
    obtain ⟨c, rest, o, q', hqueue, -, rfl, hcase⟩ := command_end h
    have hown : headsOn c.fromQueue s.commandQueue = c.respIdx :: headsOn c.fromQueue rest := by
      simp [headsOn, hqueue]
    rcases hcase with ⟨hfit, len, rfl⟩ | ⟨hfit, rfl⟩
    · refine iff_of_true (fun j => ?_) (by simp [GPUBooksOk, hqueue, hfit])
      by_cases hj : j = c.fromQueue
      · subst hj
        have hold := hs c.fromQueue
        rw [hown] at hold
        simpa using hold.post len
      · have hother : ¬ c.fromQueue = j := Ne.symm hj
        have hold := hs j
        rw [hqueue] at hold
        simpa [headsOn, hother, Function.update_of_ne hj] using hold
    · refine iff_of_false (fun hbooks => ?_) (by simp [GPUBooksOk, hqueue, hfit])
      -- a command is gone, and no entry is there for it
      have hbefore := (hs c.fromQueue).balance
      have hafter := (hbooks c.fromQueue).balance
      rw [hown, List.length_cons, UInt16.ofNat_add] at hbefore
      simp only [Function.update_self] at hafter
      grind

/-- A step meets the condition exactly if it keeps the account and answers truly. -/
theorem gpuThreadsOk_iff (h : gpuThreadsStep zm s a = some s') :
    gpuThreadsOk s a ↔ GPUBooksOk s a ∧ AnswersTrue s a := by
  cases a with
  | request i y => exact (and_iff_left trivial).symm
  | command env junk =>
    obtain ⟨c, rest, o, q', hqueue, hproc, -, -⟩ := command_end h
    have htrue := truthful_iff hproc
    simp only [gpuThreadsOk, GPUBooksOk, AnswersTrue, hqueue, List.head?_cons, Option.mem_some,
      forall_eq', hproc, Except.ok.injEq, htrue]
    exact ⟨fun hok => ⟨hok.1, hok⟩, fun hok => hok.2⟩

end Runs

/-- **Over every run of the two threads: in every state it comes to, the chains taken off each
    queue are those whose entry was posted on it, once each and in order, and then those on
    the command queue; and every command run is answered, with an OK code only if it was
    carried out and with an error only if nothing changed; if and only if every chain taken
    announces a buffer and every command run fits.** -/
theorem gpu_completion_iff (zm : ZoneTable) (s₀ : GPUThreads) (as : List GPULabel) :
    ((gpuThreadsMachine zm).Always (GPUBooks s₀) s₀ as ∧
      (gpuThreadsMachine zm).Throughout AnswersTrue s₀ as) ↔
      (gpuThreadsMachine zm).Throughout gpuThreadsOk s₀ as := by
  have hbooks : (gpuThreadsMachine zm).Always (GPUBooks s₀) s₀ as ↔
      (gpuThreadsMachine zm).Throughout GPUBooksOk s₀ as := by
    refine Machine.always_iff (I := fun _ => True) (fun s a s' _ hP hs => ⟨trivial, ?_⟩) trivial
      (fun i => .refl _ _) as
    exact gpuThreadsStep_books hP hs
  rw [hbooks]
  constructor
  · intro h p a t t' hp hr hs
    exact (gpuThreadsOk_iff hs).mpr ⟨h.1 p a t t' hp hr hs, h.2 p a t t' hp hr hs⟩
  · intro h
    exact ⟨fun p a t t' hp hr hs => ((gpuThreadsOk_iff hs).mp (h p a t t' hp hr hs)).1,
      fun p a t t' hp hr hs => ((gpuThreadsOk_iff hs).mp (h p a t t' hp hr hs)).2⟩

/-- A device with one request on each queue, at rest. -/
def gpuAtRest : GPUThreads where
  queues := fun _ => ⟨oneDescQueue, []⟩
  commandQueue := []
  dev := initGpuDev ⟨1024, 768⟩

/-- A look at guest memory. -/
def looking (mem : Mem) : Sight :=
  { mem := mem, readv := .failed, writev := none, kernel := fun _ => none, finishReq := -1, pad := 0
    fuel := 4 }

/-- The device with a picture that has no backing store. -/
def gpuWithPicture : GPUState :=
  { gpuAtRest.dev with resourceList := [(⟨1, 1, 16, 16⟩ : ResourceCreate2d).resource] }

/-- An `attach_backing` of no entries, and one of an entry that is in no memory of the guest. -/
def attachNothing : List UInt8 := commandHeader 0x106 ++ le32 1 ++ le32 0

def attachElsewhere : List UInt8 :=
  commandHeader 0x106 ++ le32 1 ++ le32 1 ++ le64 0x900000 ++ le32 1024 ++ le32 0

/-- **An indirect table of length 0 and a request of 8 bytes are taken and never completed;
    a `create_2d` that is cut off behind its header, one over the limit for memory, a
    `get_edid`, an `attach_backing` without memory and a `flush` whose `drmModeSetCrtc` fails
    are answered with OK and do nothing, or not what they are for.** -/
theorem gpu_commands_without_effect :
    (∃ s, (gpuThreadsMachine onePage).run gpuAtRest [.request 0 (looking (oneDescMem 0 4))] = some s ∧
      (s.queues 0).heads = [0] ∧ s.commandQueue.length = 0 ∧ (s.queues 0).q.used.idx = 0) ∧
    (∃ s, (gpuThreadsMachine onePage).run gpuAtRest
        [.request 0 (looking (oneDescMem 8 0)),
          .command (driverEnv drmFine (createCommand 1 16 16)) fun _ => ⟨0, 0⟩] = some s ∧
      (s.queues 0).heads = [0] ∧ s.commandQueue.length = 0 ∧ (s.queues 0).q.used.idx = 0) ∧
    (∀ bytes ∈ [commandHeader 0x101, createCommand 1 20000 20000, commandHeader 0x10a],
      ∃ o, virtioGpuSimpleProcessCmd (driverEnv drmFine bytes) (driverIov bytes) gpuAtRest.dev =
          .ok o ∧
        o.resp = some ⟨.okNodata, []⟩ ∧ o.dev.resourceList = []) ∧
    (∀ p ∈ [(attachNothing, none), (attachElsewhere, some [⟨0, 1024⟩])],
      ∃ o, virtioGpuSimpleProcessCmd (driverEnv drmFine p.1) (driverIov p.1) gpuWithPicture =
          .ok o ∧
        o.resp = some ⟨.okNodata, []⟩ ∧ o.dev.resourceList.map (·.iov) = [p.2]) ∧
    ∃ s o, gpuMachine.run (gpuStart ⟨1280, 800⟩ ⟨1280, 800⟩) showPicture = some s ∧
      virtioGpuSimpleProcessCmd
          (driverEnv { drmFine with setCrtc := false } (flushCommand 1 16 16))
          (driverIov (flushCommand 1 16 16)) s.dev = .ok o ∧
        drawnOn o.calls = [firstScanout] ∧ o.resp = some ⟨.okNodata, []⟩ := by
  refine ⟨⟨_, rfl, rfl, rfl, rfl⟩, ⟨_, rfl, rfl, rfl, rfl⟩, ?_, ?_, ⟨_, _, rfl, rfl, rfl, rfl⟩⟩
  · intro bytes hbytes
    simp only [List.mem_cons, List.not_mem_nil, or_false] at hbytes
    rcases hbytes with rfl | rfl | rfl <;> exact ⟨_, rfl, rfl, rfl⟩
  · intro p hp
    simp only [List.mem_cons, List.not_mem_nil, or_false] at hp
    rcases hp with rfl | rfl <;> exact ⟨_, rfl, rfl, rfl⟩

end HvisorTool
