/-
  File:      HvisorTool/Daemon/ControlFds.lean
  Subject:   THE DESCRIPTORS OF THE CONTROL SERVER'S CLIENTS: who may shut one down, and how
             often it is closed.

  The stopping thread copies the number of the current client under the lock and uses it
  behind it. In between the loop may be done with the client, close the descriptor, and see
  its number given to something else.

  * `FdHistory`: what the loop accepted is what it closed and the client it has;
    `fdHistory_path`: in every run;
  * `Custody`: a number that was copied is that of a client the loop still has;
    `KeepsCopied`: the steps that keep it so, `custody_path`;
  * `control_fd_lifetime`: in runs of such steps a descriptor is shut down while it is open;
    in all runs it is closed once;
  * `shutdown_hits_other`: a run in which another thread's descriptor is shut down.
-/
import HvisorTool.Daemon.Control
import Mathlib.Data.List.Nodup

namespace HvisorTool

open Library

/-! ## 1. Accepted and closed -/

/-- The descriptors of the clients so far, each of a socket of its own: all are closed but
    the one of the client that the loop has. -/
structure FdHistory (s : CtrlState) : Prop where
  accounted : s.accepted = s.closed ++ s.loop.client.toList
  fresh : ∀ c ∈ s.accepted, c.file < s.nextFile
  distinct : s.accepted.Nodup

section History

variable {s s' : CtrlState}

/-- A step that leaves the history and the client alone. -/
theorem FdHistory.same (h : FdHistory s) (haccepted : s'.accepted = s.accepted)
    (hclosed : s'.closed = s.closed) (hclient : s'.loop.client = s.loop.client)
    (hnext : s.nextFile ≤ s'.nextFile) : FdHistory s' where
  accounted := by
    rw [haccepted, hclosed, hclient]
    exact h.accounted
  fresh c hc := by
    rw [haccepted] at hc
    exact Nat.lt_of_lt_of_le (h.fresh c hc) hnext
  distinct := by
    rw [haccepted]
    exact h.distinct

theorem LoopMove.history (hm : LoopMove s s') (h : FdHistory s) : FdHistory s' := by
  cases hm with
  | quiet _ hclient | take _ _ hclient | release _ _ hclient =>
    exact h.same rfl rfl hclient (Nat.le_refl _)
  | publish c hpc | skip c hpc | clear c hpc =>
    exact h.same rfl rfl (by rw [hpc]; rfl) (Nat.le_refl _)
  | refuse c hpc =>
    rw [shutdown_eq]
    exact h.same rfl rfl (by rw [hpc]; rfl) (Nat.le_refl _)
  | accept fd hpc hfree =>
    have hall : s.accepted = s.closed := by
      rw [h.accounted, hpc]
      exact List.append_nil _
    have hnew : ∀ c ∈ s.accepted, c ≠ ⟨fd, s.nextFile⟩ := by
      intro c hc heq
      rw [heq] at hc
      exact Nat.lt_irrefl _ (h.fresh _ hc)
    refine ⟨?_, fun c hc => ?_, ?_⟩
    · show s.accepted ++ [_] = s.closed ++ [_]
      rw [hall]
    · show c.file < s.nextFile + 1
      obtain hc | hc := List.mem_append.mp hc
      · exact Nat.lt_succ_of_lt (h.fresh c hc)
      · rw [List.mem_singleton.mp hc]
        exact Nat.lt_succ_self _
    · refine List.nodup_append.mpr ⟨h.distinct, List.nodup_singleton _, fun c hc d hd => ?_⟩
      rw [List.mem_singleton.mp hd]
      exact hnew c hc
  | close c p hpc hnext =>
    have hhad : s.loop.client = some c := by obtain hpc | hpc := hpc <;> rw [hpc] <;> rfl
    have hgone : p.client = none := by obtain rfl | rfl := hnext <;> rfl
    refine ⟨?_, h.fresh, h.distinct⟩
    show s.accepted = s.closed ++ [c] ++ p.client.toList
    rw [h.accounted, hhad, hgone]
    exact (List.append_nil _).symm

/-- The stopping thread leaves the history and the loop alone. -/
theorem stopStep_frame (hs : stopStep s = some s') :
    s'.accepted = s.accepted ∧ s'.closed = s.closed ∧ s'.loop = s.loop ∧
      s'.nextFile = s.nextFile := by
  unfold stopStep at hs
  split at hs
  case h_3 hpc =>
    cases hs
    cases s.ctrlFd with
    | none => exact ⟨rfl, rfl, rfl, rfl⟩
    | some n =>
      dsimp only
      rw [shutdown_eq]
      exact ⟨rfl, rfl, rfl, rfl⟩
  case h_7 n hpc =>
    cases hs
    cases n with
    | none => exact ⟨rfl, rfl, rfl, rfl⟩
    | some n =>
      dsimp only
      rw [shutdown_eq]
      exact ⟨rfl, rfl, rfl, rfl⟩
  case h_12 hpc =>
    cases hs
    cases s.ctrlFd <;> exact ⟨rfl, rfl, rfl, rfl⟩
  case h_4 hpc | h_8 hpc | h_9 hpc =>
    obtain ⟨_, rfl⟩ := guarded hs
    exact ⟨rfl, rfl, rfl, rfl⟩
  case h_13 => cases hs
  all_goals
    cases hs
    exact ⟨rfl, rfl, rfl, rfl⟩

theorem ctrlStep_history {a : CtrlAction} (hs : ctrlStep s a = some s') (h : FdHistory s) :
    FdHistory s' := by
  cases a with
  | loop a => exact (loopStep_move hs).history h
  | stop =>
    obtain ⟨haccepted, hclosed, hloop, hnext⟩ := stopStep_frame hs
    exact h.same haccepted hclosed (by rw [hloop]) (Nat.le_of_eq hnext.symm)
  | openFd n =>
    obtain ⟨hfree, rfl⟩ := guarded hs
    exact h.same rfl rfl rfl (Nat.le_succ _)
  | closeFd n =>
    obtain ⟨hother, rfl⟩ := unguarded hs
    exact h.same rfl rfl rfl (Nat.le_refl _)

end History

variable {table : Nat → Option Nat} {s : CtrlState}

theorem fdHistory_path {ok : CtrlState → CtrlAction → Prop} {next fd : Nat}
    (h : ctrlMachine.Path ok (ctrlStart table next fd) s) : FdHistory s :=
  h.inv FdHistory ⟨rfl, fun _ hc => absurd hc List.not_mem_nil, List.nodup_nil⟩
    fun _ _ _ hI _ hs => ctrlStep_history hs hI

/-- **Each accepted descriptor is closed exactly once**, and not before the loop is done with it. -/
theorem FdHistory.closed_count (h : FdHistory s) {c : CtrlClient}
    (hc : c ∈ s.accepted) : s.closed.count c = if s.loop.client = some c then 0 else 1 := by
  have hone : (s.closed ++ s.loop.client.toList).count c = 1 := by
    rw [← h.accounted]
    exact List.count_eq_one_of_mem h.distinct hc
  rw [List.count_append] at hone
  cases hclient : s.loop.client with
  | none =>
    rw [hclient] at hone
    simpa using hone
  | some d =>
    rw [hclient] at hone
    by_cases hd : d = c
    · subst hd
      simpa using hone
    · rw [if_neg fun heq => hd (Option.some.inj heq)]
      simpa [hd] using hone

/-! ## 2. The number that was copied -/

/-- A number that the stopping thread copied and has not used yet is that of the loop's
    client. -/
def Custody (s : CtrlState) : Prop :=
  ∀ n, s.stop.copied = some n → ∃ c, s.loop.client = some c ∧ c.fd = n

/-- The loop does not close a client's descriptor while the stopping thread is between its
    copy of the number and its `shutdown`. -/
def KeepsCopied (s : CtrlState) : CtrlAction → Prop
  | .loop _ =>
    match s.loop with
    | .closing c | .refuseClose c => s.stop.copied ≠ some c.fd
    | _ => True
  | _ => True

instance (s : CtrlState) (a : CtrlAction) : Decidable (KeepsCopied s a) := by
  unfold KeepsCopied
  split
  · split <;> infer_instance
  · infer_instance

section Custody

variable {fd file : Nat} {s s' : CtrlState}

theorem LoopMove.custody (hm : LoopMove s s') (h : Custody s)
    {a : LoopAnswer} (hkeep : KeepsCopied s (.loop a)) : Custody s' := by
  intro n hn
  rw [hm.stop_eq] at hn
  obtain ⟨c, hclient, hfd⟩ := h n hn
  cases hm with
  | quiet _ hsame | take _ _ hsame | release _ _ hsame => exact ⟨c, hsame.trans hclient, hfd⟩
  | publish d hpc | skip d hpc | clear d hpc | refuse d hpc =>
    rw [hpc] at hclient
    exact ⟨c, hclient, hfd⟩
  | accept m hpc =>
    rw [hpc] at hclient
    cases hclient
  | close d p hpc =>
    have hd : s.loop.client = some d := by obtain hpc | hpc := hpc <;> rw [hpc] <;> rfl
    obtain rfl : d = c := Option.some.inj (hd.symm.trans hclient)
    rw [← hfd] at hn
    unfold KeepsCopied at hkeep
    obtain hpc | hpc := hpc
    · rw [hpc] at hkeep
      exact absurd hn hkeep
    · rw [hpc] at hkeep
      exact absurd hn hkeep

/-- Where a copy comes from. -/
theorem stopStep_copied {n : Nat} (hs : stopStep s = some s') (hn : s'.stop.copied = some n) :
    (s.stop = .copy ∧ s.clientFd = some n) ∨ s.stop.copied = some n := by
  unfold stopStep at hs
  split at hs
  case h_5 hpc =>
    cases hs
    exact .inl ⟨hpc, hn⟩
  case h_6 m hpc =>
    cases hs
    rw [hpc]
    exact .inr hn
  case h_1 hpc =>
    cases hs
    rw [CtrlState.toStop] at hn
    split at hn <;> cases hn
  case h_7 m hpc =>
    cases hs
    change (if s.threadStarted = true then StopPc.join else .lockReset).copied = some n at hn
    split at hn <;> cases hn
  case h_4 hpc | h_8 hpc | h_9 hpc =>
    obtain ⟨_, rfl⟩ := guarded hs
    cases hn
  case h_13 => cases hs
  all_goals
    cases hs
    cases hn

/-- The number is copied from `ctrl_client_fd`, so from a client that is published. -/
theorem stopStep_custody (hs : stopStep s = some s') (hsafe : CtrlSafe fd file s) (h : Custody s) :
    Custody s' := by
  obtain ⟨-, -, hloop, -⟩ := stopStep_frame hs
  intro n hn
  rw [hloop]
  obtain ⟨hpc, hfd⟩ | hcopied := stopStep_copied hs hn
  · have hinv : CtrlInv fd file s := hsafe (by rw [hpc]; simp)
    rw [hinv.clientFd] at hfd
    obtain ⟨c, hpublished, hc⟩ := Option.map_eq_some_iff.mp hfd
    exact ⟨c, LoopPc.client_of_published hpublished, hc⟩
  · exact h n hcopied

theorem ctrlStep_custody {a : CtrlAction} (hs : ctrlStep s a = some s') (hsafe : CtrlSafe fd file s)
    (hkeep : KeepsCopied s a) (h : Custody s) : Custody s' := by
  cases a with
  | loop a => exact (loopStep_move hs).custody h hkeep
  | stop => exact stopStep_custody hs hsafe h
  | openFd n =>
    obtain ⟨hfree, rfl⟩ := guarded hs
    exact h
  | closeFd n =>
    obtain ⟨hother, rfl⟩ := unguarded hs
    exact h

end Custody

theorem custody_path {next fd : Nat}
    (h : ctrlMachine.Path KeepsCopied (ctrlStart table next fd) s) : Custody s := by
  refine (h.inv (fun s => CtrlSafe fd next s ∧ Custody s)
    ⟨ctrlSafe_start table next fd, fun n hn => by cases hn⟩ fun s a s' hI hkeep hs => ?_).2
  exact ⟨ctrlStep_safe hs hI.1, ctrlStep_custody hs hI.1 hkeep hI.2⟩

/-! ## 3. The life of a client's descriptor -/

/-- **The life of a client's descriptor**: in every run in which the loop closes none while
    the stopping thread is between its copy of the number and its `shutdown`, that call is on
    the descriptor of a client that was accepted and not closed, and the number still refers
    to its socket; and each accepted descriptor is closed exactly once, none else is. -/
theorem control_fd_lifetime (table : Nat → Option Nat) (next fd : Nat) (s : CtrlState)
    (h : ctrlMachine.Path KeepsCopied (ctrlStart table next fd) s) :
    (∀ n, s.stop = .shutClient (some n) →
      ∃ c ∈ s.accepted, c.fd = n ∧ c ∉ s.closed ∧ s.table n = some c.file) ∧
    (∀ c ∈ s.accepted, s.closed.count c = if s.loop.client = some c then 0 else 1) ∧
    (∀ c ∈ s.closed, c ∈ s.accepted) := by
  have hhist : FdHistory s := fdHistory_path h
  refine ⟨fun n hpc => ?_, fun c hc => hhist.closed_count hc, fun c hc => ?_⟩
  · obtain ⟨c, hclient, hfd⟩ := custody_path h n (by rw [hpc]; rfl)
    have hinv : CtrlInv fd next s := ctrlSafe_path h (by rw [hpc]; simp)
    have hmem : c ∈ s.accepted := by
      rw [hhist.accounted, hclient]
      exact List.mem_append_right _ (List.mem_singleton.mpr rfl)
    have hopen : s.closed.count c = 0 := (hhist.closed_count hmem).trans (if_pos hclient)
    exact ⟨c, hmem, hfd, List.count_eq_zero.mp hopen, hfd ▸ (hinv.client c hclient).1⟩
  · rw [hhist.accounted]
    exact List.mem_append_left _ hc

/-- The client that stalls is the one that is shut down. -/
theorem control_fd_lifetime_stalled :
    ∃ s, ctrlMachine.Path KeepsCopied (ctrlStart (fun _ => none) 0 3) s ∧
      s.stop = .shutClient (some 5) ∧ ∃ c ∈ s.accepted, c.fd = 5 ∧ c ∉ s.closed := by
  obtain ⟨s, hrun, hstop⟩ :
      ∃ s, ctrlMachine.runWhile KeepsCopied (ctrlStart (fun _ => none) 0 3)
          (stalledClient ++ List.replicate 6 .stop) = some s ∧ s.stop = .shutClient (some 5) :=
    ⟨_, rfl, rfl⟩
  have hpath := Machine.path_of_runWhile hrun
  obtain ⟨c, hmem, hfd, hopen, -⟩ := (control_fd_lifetime _ 0 3 s hpath).1 5 hstop
  exact ⟨s, hpath, hstop, c, hmem, hfd, hopen⟩

/-- The client disconnects when the stopping thread has copied its number: the loop closes
    the descriptor, and another thread gets the number. -/
def numberReused : List CtrlAction :=
  stalledClient ++ List.replicate 6 .stop ++
    [.loop (.transferred 0), .loop .go, .loop .go, .loop .go, .loop .go, .loop .go, .openFd 5]

/-- **A descriptor of another thread is shut down**: the client's descriptor was closed, its
    number is in use again, and the next step of the stopping thread is the `shutdown`. -/
theorem shutdown_hits_other :
    ∃ s s', ctrlMachine.run (ctrlStart (fun _ => none) 0 3) numberReused = some s ∧
      s.stop = .shutClient (some 5) ∧ s.accepted = [⟨5, 1⟩] ∧ s.closed = [⟨5, 1⟩] ∧
      s.table 5 = some 2 ∧ s.shut 2 = false ∧
      ctrlMachine.step s .stop = some s' ∧ s'.shut 2 = true :=
  ⟨_, _, rfl, rfl, rfl, rfl, rfl, rfl, rfl, rfl⟩

end HvisorTool
