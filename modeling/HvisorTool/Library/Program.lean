/-
  File:      HvisorTool/Library/Program.lean
  Subject:   PROGRAMS WITH A STATE THAT CAN STOP: `StateT σ (Except ε)`, what such a program
             keeps, and how it comes to a stop.

  * `Keeps I ok m`: from a state that meets `I` the program ends in one that does, or stops
    for a reason that meets `ok`; one rule for each way to build a program;
  * `bind_error`, `bind_ok`: a sequence stops with its first part, or goes on from where
    that left the state;
  * `loop`: a program again and again, for so many rounds; `Rounds`: the states in which a
    round starts; `loop_error_iff`: a loop stops exactly where one of its rounds does.
-/
import Mathlib.Tactic.Common

namespace Library

universe u

variable {σ ε α β : Type u}

/-- What the program does if the condition holds. -/
def whenever (c : Prop) [Decidable c] (m : StateT σ (Except ε) PUnit) :
    StateT σ (Except ε) PUnit :=
  if c then m else pure ⟨⟩

/-- The program ends within `I`, or stops for a reason that meets `ok`. -/
def Keeps (I : σ → Prop) (ok : ε → Prop) (m : StateT σ (Except ε) α) : Prop :=
  ∀ s, I s →
    match m s with
    | .ok (_, s') => I s'
    | .error e => ok e

namespace Keeps

variable {I : σ → Prop} {ok : ε → Prop}

theorem pure (a : α) : Keeps I ok (Pure.pure a : StateT σ (Except ε) α) := fun _ h => h

theorem bind {m : StateT σ (Except ε) α} {f : α → StateT σ (Except ε) β} (hm : Keeps I ok m)
    (hf : ∀ a, Keeps I ok (f a)) : Keeps I ok (m >>= f) := by
  intro s hs
  have h := hm s hs
  change match (m s).bind fun p => f p.1 p.2 with
    | .ok (_, s') => I s'
    | .error e => ok e
  cases hms : m s with
  | error e =>
    rw [hms] at h
    exact h
  | ok p =>
    rw [hms] at h
    exact hf p.1 p.2 h

/-- Behind a look at the state, it is known to meet `I`. -/
theorem getBind {f : σ → StateT σ (Except ε) β} (hf : ∀ t, I t → Keeps I ok (f t)) :
    Keeps I ok (get >>= f) :=
  fun s hs => hf s hs s hs

theorem throw {e : ε} (he : ok e) : Keeps I ok (throw e : StateT σ (Except ε) α) := fun _ _ => he

theorem modify {f : σ → σ} (hf : ∀ s, I s → I (f s)) :
    Keeps I ok (modify f : StateT σ (Except ε) PUnit) := hf

theorem whenever {c : Prop} [Decidable c] {m : StateT σ (Except ε) PUnit}
    (hm : c → Keeps I ok m) : Keeps I ok (whenever c m) := by
  unfold Library.whenever
  split
  · next hc => exact hm hc
  · exact pure _

end Keeps

variable {m : StateT σ (Except ε) α}

theorem bind_error {s : σ} {e : ε} (h : m s = .error e)
    (f : α → StateT σ (Except ε) β) : (m >>= f) s = .error e := by
  change (m s).bind _ = _
  rw [h]
  rfl

theorem bind_ok {s s' : σ} {a : α} (h : m s = .ok (a, s'))
    (f : α → StateT σ (Except ε) β) : (m >>= f) s = f a s' := by
  change (m s).bind _ = _
  rw [h]
  rfl

/-- A sequence that returned: so did its first part, and the rest from there. -/
theorem of_bind_ok {f : α → StateT σ (Except ε) β} {s s' : σ} {b : β}
    (h : (m >>= f) s = .ok (b, s')) : ∃ a t, m s = .ok (a, t) ∧ f a t = .ok (b, s') := by
  cases hm : m s with
  | error e =>
    rw [bind_error hm] at h
    cases h
  | ok p =>
    rw [bind_ok hm] at h
    exact ⟨p.1, p.2, rfl, h⟩

/-! ## Loops -/

section Loops

variable {σ ε : Type} {out e : ε}

/-- A program again and again, as long as it says so; it stops with `out` where the rounds
    end. -/
def loop (out : ε) (m : StateT σ (Except ε) Bool) : Nat → StateT σ (Except ε) Unit
  | 0 => throw out
  | n + 1 => do
      let more ← m
      if more then loop out m n else pure ()

/-- What a program gives with some number of rounds inside, it gives with more. -/
def Grows (out : ε) {α : Type} (m : Nat → StateT σ (Except ε) α) : Prop :=
  ∀ n k s r, m n s = r → r ≠ .error out → n ≤ k → m k s = r

/-- The states in which a round starts, of a loop whose body may have rounds inside. -/
inductive Rounds (m : Nat → StateT σ (Except ε) Bool) (s : σ) : σ → Prop where
  | start : Rounds m s s
  | next {t t' : σ} (h : Rounds m s t) (n : Nat) (hm : m n t = .ok (true, t')) : Rounds m s t'

theorem Grows.bind {α β : Type} {m : Nat → StateT σ (Except ε) α} (hm : Grows out m)
    (f : α → StateT σ (Except ε) β) : Grows out fun n => m n >>= f := by
  intro n k s r h hr hle
  cases hms : m n s with
  | error e =>
    have hstop : r = .error e := h.symm.trans (bind_error hms f)
    subst hstop
    have hne : (.error e : Except ε (α × σ)) ≠ .error out := fun he => hr (by cases he; rfl)
    exact bind_error (hm n k s _ hms hne hle) f
  | ok p =>
    have hgo : f p.1 p.2 = r := (bind_ok hms f).symm.trans h
    exact (bind_ok (hm n k s _ hms (fun he => by cases he) hle) f).trans hgo

/-- A loop, too. -/
theorem Grows.loop (m : StateT σ (Except ε) Bool) : Grows out (loop out m) := by
  intro n
  induction n with
  | zero =>
    intro k s r h hr
    exact absurd h.symm hr
  | succ n ih =>
    intro k s r h hr hle
    obtain ⟨k, rfl⟩ : ∃ k', k = k' + 1 := ⟨k - 1, by omega⟩
    have hround : ∀ j, Library.loop out m (j + 1) =
        m >>= fun more => if more then Library.loop out m j else Pure.pure () := fun _ => rfl
    rw [hround] at h ⊢
    cases hms : m s with
    | error e => exact (bind_error hms _).trans ((bind_error hms _).symm.trans h)
    | ok p =>
      obtain ⟨more, t⟩ := p
      rw [bind_ok hms] at h ⊢
      cases more with
      | false => exact h
      | true => exact ih k t r h hr (by omega)

theorem Rounds.head {m : Nat → StateT σ (Except ε) Bool} {s s' t : σ} (n : Nat)
    (hm : m n s = .ok (true, s')) (h : Rounds m s' t) : Rounds m s t := by
  induction h with
  | start => exact .next .start n hm
  | next _ k hk ih => exact .next ih k hk

/-- **A loop stops, with enough rounds, exactly where a round stops**; the rounds of the
    loop and those inside its body are of one number. -/
theorem loop_error_iff {m : Nat → StateT σ (Except ε) Bool} (hm : Grows out m) (he : e ≠ out)
    {s : σ} : (∃ n, loop out (m n) n s = .error e) ↔ ∃ t n, Rounds m s t ∧ m n t = .error e := by
  have hne : ∀ {α : Type}, (.error e : Except ε (α × σ)) ≠ .error out :=
    fun h => he (by cases h; rfl)
  constructor
  · rintro ⟨n, h⟩
    -- down the rounds that are left, with the body as it is
    have hdown : ∀ k s, loop out (m n) k s = .error e → ∃ t n, Rounds m s t ∧ m n t = .error e := by
      intro k
      induction k with
      | zero => exact fun s h => absurd h.symm (fun h' => he (by cases h'; rfl))
      | succ k ih =>
        intro s h
        change (m n >>= fun more => if more then loop out (m n) k else Pure.pure ()) s = _ at h
        cases hms : m n s with
        | error e' =>
          rw [bind_error hms] at h
          cases h
          exact ⟨s, n, .start, hms⟩
        | ok p =>
          obtain ⟨more, s'⟩ := p
          rw [bind_ok hms] at h
          cases more with
          | false => cases h
          | true =>
            obtain ⟨t, j, ht, hj⟩ := ih s' h
            exact ⟨t, j, ht.head n hms, hj⟩
    exact hdown n s h
  · rintro ⟨t, n, ht, hstop⟩
    -- from the stop back to the start, with any number that is large enough
    have hup : ∃ N, ∀ k j, N ≤ k → N ≤ j → loop out (m k) j s = .error e := by
      have hlast : ∃ N, ∀ k j, N ≤ k → N ≤ j → loop out (m k) j t = .error e := by
        refine ⟨n + 1, fun k j hk hj => ?_⟩
        obtain ⟨j, rfl⟩ : ∃ j', j = j' + 1 := ⟨j - 1, by omega⟩
        exact bind_error (hm n k t _ hstop hne (by omega)) _
      clear hstop
      induction ht with
      | start => exact hlast
      | next _ i hi ih =>
        obtain ⟨N, hN⟩ := hlast
        refine ih ⟨max (N + 1) i, fun k j hk hj => ?_⟩
        obtain ⟨j, rfl⟩ : ∃ j', j = j' + 1 := ⟨j - 1, by omega⟩
        have hgo := hm i k _ _ hi (fun h => by cases h) (by omega)
        exact (bind_ok hgo _).trans (hN k j (by omega) (by omega))
    obtain ⟨N, hN⟩ := hup
    exact ⟨N, hN N N (Nat.le_refl N) (Nat.le_refl N)⟩

end Loops

end Library
