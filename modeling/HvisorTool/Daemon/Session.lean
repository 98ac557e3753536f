/-
  File:      HvisorTool/Daemon/Session.lean
  Subject:   ONE REQUEST ON THE CONTROL SOCKET: `virtio_add` of the tool against
             `handle_control_client` of the daemon.

  The socket cuts both messages into pieces as it likes, and every call of `read_full` and
  `write_full` can fail, at either end. A `write` to a socket that is shut down is taken to fail:
  neither end handles `SIGPIPE`, so both have to run with that signal ignored. `Control.lean` has
  the loop around the daemon's part.

  * `controlRequest`, `fillControlResponse`: the messages; `requestField`: a string taken out;
  * `sessionStep`: one call of either end; `Session.returned`: what the tool returns and prints;
  * `SessionInv`: what is under way, and what the daemon has done;
  * `session_answer`: the tool reports what the daemon did with its file.
-/
import HvisorTool.Boot.ReadFile
import HvisorTool.Daemon.Control
import HvisorTool.Library.Stream

namespace HvisorTool

open Library

/-! ## 1. The messages -/

def text (s : String) : List UInt8 := s.toList.map fun c => c.toNat.toUInt8

/-- A field of a zeroed struct behind `snprintf(field, size, "%s", s)`. -/
def snprintfField (size : Nat) (s : List UInt8) : List UInt8 :=
  s.take (size - 1) ++ List.replicate (size - min s.length (size - 1)) 0

/-- What `realpath` leaves in a buffer of `PATH_MAX` bytes. -/
structure RealPath where
  bytes : List UInt8
  noZero : 0 ∉ bytes
  short : bytes.length < 4096

variable (path : RealPath) (ok : Bool)

/-- The `VirtioControlRequest` of `virtio_add`. -/
def controlRequest : List UInt8 :=
  snprintfField 16 (text "add") ++ snprintfField 4096 path.bytes

/-- The string in a field of the request, with the last byte of the field set to 0. -/
def requestField (req : List UInt8) (start size : Nat) : List UInt8 :=
  cString (((req.drop start).take size).set (size - 1) 0)

def fillControlResponse (status : UInt32) (message : String) : List UInt8 :=
  le32 status ++ snprintfField 256 (text message)

/-- `resp.status`. -/
def responseStatus : List UInt8 → Int
  | b₀ :: b₁ :: b₂ :: b₃ :: _ =>
    asInt (b₀.toUInt32 ||| b₁.toUInt32 <<< 8 ||| b₂.toUInt32 <<< 16 ||| b₃.toUInt32 <<< 24)
  | _ => 0

/-- The response for what `virtio_add_from_json` returns. -/
def addResponse : Bool → List UInt8
  | true => fillControlResponse 0 "virtio add succeeded"
  | false => fillControlResponse 0xffffffff "virtio add failed"

/-- The daemon's calls of `virtio_add_from_json` for a request, with the result, and the
    response. -/
def serveRequest (req : List UInt8) (ok : Bool) : List (List UInt8 × Bool) × List UInt8 :=
  if requestField req 0 16 ≠ text "add" then
    ([], fillControlResponse 0xffffffff "unsupported virtio control operation")
  else ([(requestField req 16 4096, ok)], addResponse ok)

section Fields

variable {size : Nat} {s : List UInt8} (h : s.length < size)
include h

theorem snprintfField_eq : snprintfField size s = s ++ List.replicate (size - s.length) 0 := by
  rw [snprintfField, List.take_of_length_le (by omega), Nat.min_eq_left (by omega)]

theorem length_snprintfField : (snprintfField size s).length = size := by
  rw [snprintfField_eq h, List.length_append, List.length_replicate]
  omega

theorem set_snprintfField : (snprintfField size s).set (size - 1) 0 = snprintfField size s := by
  rw [snprintfField_eq h, List.set_append_right _ _ (by omega), List.set_replicate_self]

/-- **A string comes out of its field as it went in.** -/
theorem cString_snprintfField (hs : 0 ∉ s) : cString (snprintfField size s) = s := by
  have hne : ∀ b ∈ s, (b != 0) = true := fun b hb => bne_iff_ne.mpr fun h0 => hs (h0 ▸ hb)
  rw [snprintfField_eq h, cString, List.takeWhile_append_of_pos hne, List.takeWhile_replicate]
  exact List.append_nil s

end Fields

theorem length_controlRequest : (controlRequest path).length = ctrlRequestSize := by
  rw [controlRequest, List.length_append, length_snprintfField path.short,
    length_snprintfField (by decide)]
  rfl

theorem length_addResponse : (addResponse ok).length = ctrlResponseSize := by
  cases ok <;> rw [addResponse, fillControlResponse, List.length_append,
    length_snprintfField (by decide)] <;> rfl

/-- The daemon serves the request of the tool with its path. -/
theorem serveRequest_eq :
    serveRequest (controlRequest path) ok = ([(path.bytes, ok)], addResponse ok) := by
  have hop : (snprintfField 16 (text "add")).length = 16 := by decide
  have hfirst : requestField (controlRequest path) 0 16 = text "add" := by
    rw [requestField, controlRequest, List.drop_zero, List.take_left' hop]
    decide
  have hpath : requestField (controlRequest path) 16 4096 = path.bytes := by
    rw [requestField, controlRequest, List.drop_left' hop,
      List.take_of_length_le (Nat.le_of_eq (length_snprintfField path.short)),
      set_snprintfField path.short, cString_snprintfField path.short path.noZero]
  rw [serveRequest, if_neg (not_not.mpr hfirst), hpath]

/-! ## 2. The session -/

/-- The two directions, which ends are still at work, the response once there is one, and the
    daemon's calls of `virtio_add_from_json`. -/
structure Session where
  request : Chan UInt8
  response : Chan UInt8
  toolUp : Bool
  handlerUp : Bool
  resp : Option (List UInt8)
  added : List (List UInt8 × Bool)

def sessionStart : Session := ⟨.start, .start, true, true, none, []⟩

/-- A call of an end moves bytes, or ends it: it fails, or returns 0 on a socket that is shut
    down. An interrupted call is made again, and is no step. -/
inductive SessionLabel where
  | toolMoves (n : Nat)
  | toolStops
  | handlerMoves (n : Nat)
  | handlerStops
  /-- What `virtio_add_from_json` returns, and whether `ctrl_running` is set behind it. -/
  | serve (ok running : Bool)

def sessionStep (s : Session) : SessionLabel → Option Session
  | .toolMoves n =>
    if s.toolUp = false ∨ n = 0 then none
    else if s.request.sent < ctrlRequestSize then
      if s.request.sent + n ≤ ctrlRequestSize then
        some { s with request := s.request.send (controlRequest path) n }
      else none
    else if s.response.got.length + n ≤ ctrlResponseSize ∧ n ≤ s.response.rest.length then
      some { s with response := s.response.receive n }
    else none
  | .toolStops =>
    if s.toolUp = true ∧ s.response.got.length < ctrlResponseSize then
      some { s with toolUp := false }
    else none
  | .handlerMoves n =>
    if s.handlerUp = false ∨ n = 0 then none
    else if s.resp = none then
      if s.request.got.length + n ≤ ctrlRequestSize ∧ n ≤ s.request.rest.length then
        some { s with request := s.request.receive n }
      else none
    else if s.response.sent + n ≤ ctrlResponseSize then
      some { s with response := s.response.send (s.resp.getD []) n }
    else none
  | .handlerStops => if s.handlerUp = true then some { s with handlerUp := false } else none
  | .serve ok running =>
    if s.handlerUp = true ∧ s.resp = none ∧ s.request.got.length = ctrlRequestSize then
      some { s with
        handlerUp := running
        resp := some (serveRequest s.request.got ok).2
        added := s.added ++ (serveRequest s.request.got ok).1 }
    else none

def sessionMachine : Machine Session SessionLabel := ⟨sessionStep path⟩

/-- What `virtio_add` returns, with what it has printed. -/
def Session.returned (s : Session) : Option (Int × Option (List UInt8)) :=
  if s.toolUp = false then some (-1, none)
  else if s.response.got.length = ctrlResponseSize then
    some (responseStatus s.response.got, some (cString (s.response.got.drop 4)))
  else none

/-- The report of a request that was carried out, or not. -/
def addReport : Bool → Int × Option (List UInt8)
  | true => (0, some (text "virtio add succeeded"))
  | false => (-1, some (text "virtio add failed"))

/-- What the tool makes of a response. -/
theorem addResponse_report :
    (responseStatus (addResponse ok), some (cString ((addResponse ok).drop 4))) = addReport ok := by
  have hdrop : ∀ status message, (fillControlResponse status message).drop 4 =
      snprintfField 256 (text message) := fun _ _ => rfl
  cases ok <;> rw [addResponse, hdrop, cString_snprintfField (by decide) (by decide)] <;> rfl

/-! ## 3. What either end knows -/

structure SessionInv (s : Session) : Prop where
  request : s.request.Carries (controlRequest path)
  response : s.response.Carries (s.resp.getD [])
  served : s.added = [] ∧ s.resp = none ∧ s.response = .start ∨
    ∃ ok, s.added = [(path.bytes, ok)] ∧ s.resp = some (addResponse ok)

variable {path} {s s' : Session}

/-- **Every step of either end keeps what the two know.** -/
theorem sessionStep_inv {l : SessionLabel} (h : SessionInv path s)
    (hs : sessionStep path s l = some s') : SessionInv path s' := by
  cases l with
  | toolMoves n =>
    obtain ⟨-, hs⟩ := Option.ite_none_left_eq_some.mp hs
    split at hs
    · obtain ⟨-, rfl⟩ := guarded hs
      exact ⟨h.request.send n, h.response, h.served⟩
    · obtain ⟨-, rfl⟩ := guarded hs
      refine ⟨h.request, h.response.receive n, h.served.imp_left fun ⟨hadded, hnone, hstart⟩ => ?_⟩
      exact ⟨hadded, hnone, by rw [hstart, Chan.receive_start]⟩
  | handlerMoves n =>
    obtain ⟨-, hs⟩ := Option.ite_none_left_eq_some.mp hs
    split at hs
    · obtain ⟨-, rfl⟩ := guarded hs
      exact ⟨h.request.receive n, h.response, h.served⟩
    · next hresp =>
      obtain ⟨-, rfl⟩ := guarded hs
      refine ⟨h.request, h.response.send n, .inr (h.served.resolve_left ?_)⟩
      exact fun hnone => hresp hnone.2.1
  | toolStops | handlerStops =>
    obtain ⟨-, rfl⟩ := guarded hs
    exact ⟨h.request, h.response, h.served⟩
  | serve ok running =>
    obtain ⟨⟨-, hnone, hlen⟩, rfl⟩ := guarded hs
    have hheard := h.request.whole (hlen.trans (length_controlRequest path).symm)
    rcases h.served with ⟨hadded, -, hstart⟩ | ⟨_, -, hsome⟩
    · refine ⟨h.request, hstart ▸ .start _, .inr ⟨ok, ?_, ?_⟩⟩
      · rw [hadded, hheard, serveRequest_eq]
        rfl
      · rw [hheard, serveRequest_eq]
    · rw [hnone] at hsome
      cases hsome

theorem sessionInv_reach (h : (sessionMachine path).Reach sessionStart s) : SessionInv path s :=
  h.inv (SessionInv path) ⟨.start _, .start _, .inl ⟨rfl, rfl, rfl⟩⟩ fun _ _ _ hi _ hs =>
    sessionStep_inv hi hs

/-- **The tool reports what the daemon did with its file.** However the two messages are cut up
    and wherever either end stops, the daemon is asked at most once, for that file, and a report
    that the tool got is the result of this. -/
theorem session_answer (h : (sessionMachine path).Reach sessionStart s) :
    (s.added = [] ∨ ∃ ok, s.added = [(path.bytes, ok)]) ∧
      ∀ r, s.returned = some r →
        r = (-1, none) ∨ ∃ ok, s.added = [(path.bytes, ok)] ∧ r = addReport ok := by
  have hinv := sessionInv_reach h
  refine ⟨hinv.served.imp (·.1) fun ⟨ok, hadded, _⟩ => ⟨ok, hadded⟩, fun r hr => ?_⟩
  unfold Session.returned at hr
  split at hr
  · cases hr
    exact .inl rfl
  · obtain ⟨hlen, hr⟩ := Option.ite_none_right_eq_some.mp hr
    rcases hinv.served with ⟨-, -, hstart⟩ | ⟨ok, hadded, hsome⟩
    · -- nothing was sent
      rw [hstart] at hlen
      cases hlen
    · have hresp := hinv.response
      rw [hsome] at hresp
      have hgot := hresp.whole (hlen.trans (length_addResponse ok).symm)
      cases hr
      refine .inr ⟨ok, hadded, ?_⟩
      rw [hgot, Option.getD_some]
      exact addResponse_report ok

/-- A session with every call in one piece. -/
theorem session_completes (path : RealPath) (ok : Bool) :
    ∃ s, (sessionMachine path).Reach sessionStart s ∧ s.returned = some (addReport ok) := by
  have hreq : (controlRequest path).length = 4112 := length_controlRequest path
  have hresp : (addResponse ok).length = 260 := length_addResponse ok
  have hrun : (sessionMachine path).run sessionStart [.toolMoves 4112, .handlerMoves 4112,
      .serve ok true, .handlerMoves 260, .toolMoves 260] =
        some ⟨⟨4112, controlRequest path, []⟩, ⟨260, addResponse ok, []⟩, true, true,
          some (addResponse ok), [(path.bytes, ok)]⟩ := by
    simp [Machine.run, sessionMachine, sessionStep, sessionStart, Chan.send, Chan.receive,
      Chan.start, ctrlRequestSize, ctrlResponseSize, hreq, hresp, serveRequest_eq,
      List.take_of_length_le]
  refine ⟨_, Machine.reach_of_run hrun, ?_⟩
  rw [Session.returned, if_neg Bool.false_ne_true.symm]
  exact (if_pos hresp).trans (congrArg some (addResponse_report ok))

def filePath : RealPath := ⟨text "/root/virtio.json", by decide, by decide⟩

theorem file_added : ∃ s : Session, s.returned = some (addReport true) ∧
    ∃ ok, s.added = [(text "/root/virtio.json", ok)] ∧ addReport true = addReport ok := by
  obtain ⟨s, hreach, hret⟩ := session_completes filePath true
  exact ⟨s, hret, ((session_answer hreach).2 _ hret).resolve_left (by decide)⟩

end HvisorTool
