/-
  File:      HvisorTool/Library/Stream.lean
  Subject:   A MESSAGE ON ITS WAY, sent and received in pieces of any size.

  * `Chan`: how much is sent, what is received and what is under way;
  * `Chan.Carries`: what is received and what is under way are the part that is sent;
    `Carries.send`, `Carries.receive`: one piece more;
  * `Carries.whole`: what is as long as the message is the message.
-/
import Mathlib.Tactic.Common

namespace Library

/-- One direction of a stream. -/
structure Chan (α : Type) where
  sent : Nat
  got : List α
  rest : List α

namespace Chan

variable {α : Type} {msg : List α} {c : Chan α}

def start : Chan α := ⟨0, [], []⟩

def send (msg : List α) (n : Nat) (c : Chan α) : Chan α :=
  ⟨c.sent + n, c.got, c.rest ++ (msg.drop c.sent).take n⟩

def receive (n : Nat) (c : Chan α) : Chan α := ⟨c.sent, c.got ++ c.rest.take n, c.rest.drop n⟩

def Carries (c : Chan α) (msg : List α) : Prop := c.got ++ c.rest = msg.take c.sent

theorem receive_start (n : Nat) : (start : Chan α).receive n = start := by
  rw [receive, start, List.take_nil, List.drop_nil, List.append_nil]

namespace Carries

theorem start (msg : List α) : Chan.start.Carries msg := rfl

theorem send (h : c.Carries msg) (n : Nat) : (c.send msg n).Carries msg := by
  rw [Carries, Chan.send, ← List.append_assoc, h, List.take_add]

theorem receive (h : c.Carries msg) (n : Nat) : (c.receive n).Carries msg := by
  rw [Carries, Chan.receive, List.append_assoc, List.take_append_drop, h]

theorem whole (h : c.Carries msg) (hlen : c.got.length = msg.length) : c.got = msg := by
  have hsent : c.got <+: msg.take c.sent := ⟨c.rest, h⟩
  exact (hsent.trans (List.take_prefix c.sent msg)).eq_of_length hlen

end Carries

end Chan

end Library
