import Hangar.Lib.Program

namespace Lib

variable {σ ε ε' α β : Type}

namespace Program

theorem mapError_result {p : Program σ ε α} {f : ε → ε'} {s : σ} : (p.mapError f s).2 = (p s).2.mapError f := by
  unfold Program.mapError
  rcases p s with ⟨_, _ | a⟩ <;> rfl

theorem mapError_state {p : Program σ ε α} {f : ε → ε'} {s : σ} : (p.mapError f s).1 = (p s).1 := by
  unfold Program.mapError
  rcases p s with ⟨_, _ | a⟩ <;> rfl

/-- From `s` and `s'`, `p` has the same outcome, and `R` relates the states it leaves with a success. -/
structure Lockstep (p : Program σ ε α) (s s' : σ) (R : α → σ → σ → Prop) : Prop where
  outcome : (p s).2 = (p s').2
  states : ∀ a, (p s).2 = .ok a → R a (p s).1 (p s').1

namespace Lockstep

variable {s s' : σ} {R : α → σ → σ → Prop} {R' : β → σ → σ → Prop}

theorem pure {a : α} (related : R a s s') : Lockstep (Pure.pure a : Program σ ε α) s s' R where
  outcome := rfl
  states a' done := by
    cases done
    exact related

theorem query {f : σ → Except ε α} (same : f s = f s') (related : ∀ a, f s = .ok a → R a s s') :
    Lockstep (Program.query f) s s' R where
  outcome := same
  states := related

theorem update {f : σ → σ} {R : Unit → σ → σ → Prop} (related : R () (f s) (f s')) :
    Lockstep (Program.update f : Program σ ε Unit) s s' R where
  outcome := rfl
  states _ _ := related

theorem bind {p : Program σ ε α} {f : α → Program σ ε β} (first : Lockstep p s s' R)
    (rest : ∀ a t t', R a t t' → Lockstep (f a) t t' R') : Lockstep (p >>= f) s s' R' := by
  have same := first.outcome
  have related := first.states
  constructor
  · rw [bind_result, bind_result, ← same]
    apply bind_congr_ok
    intro a done
    exact (rest a _ _ (related a done)).outcome
  · intro b done
    rw [bind_result] at done
    rcases bind_eq_ok.mp done with ⟨a, first, second⟩
    rw [bind_run (run_of_result first), bind_run (run_of_result (same ▸ first))]
    exact (rest a _ _ (related a first)).states b second

theorem mapError {p : Program σ ε α} {f : ε → ε'} (first : Lockstep p s s' R) :
    Lockstep (p.mapError f) s s' R := by
  constructor
  · rw [mapError_result, mapError_result, first.outcome]
  · intro a done
    rw [mapError_state, mapError_state]
    apply first.states
    rw [mapError_result] at done
    cases ran : (p s).2 with
    | error e =>
      rw [ran] at done
      cases done
    | ok b =>
      rw [ran] at done
      cases done
      rfl

/-- Where nothing is asked of the states, only the outcomes have to agree. -/
theorem of_outcome {p : Program σ ε α} (same : (p s).2 = (p s').2) :
    Lockstep p s s' fun _ _ _ => True where
  outcome := same
  states _ _ := trivial

end Lockstep

end Program

end Lib
