import Hangar.Lib.Result
import Mathlib.Logic.Relation

namespace Lib

/-- A computation on a state whose changes outlive its own errors: what a call has done before it
    fails stays done. -/
def Program (σ ε α : Type) : Type := σ → σ × Except ε α

namespace Program

variable {σ ε α β : Type}

def ok (a : α) : Program σ ε α := fun s => (s, .ok a)

def fail (e : ε) : Program σ ε α := fun s => (s, .error e)

def andThen (p : Program σ ε α) (f : α → Program σ ε β) : Program σ ε β := fun s =>
  match p s with
  | (s', .ok a) => f a s'
  | (s', .error e) => (s', .error e)

instance : Monad (Program σ ε) where
  pure := ok
  bind := andThen

theorem bind_run {p : Program σ ε α} {f : α → Program σ ε β} {s s' : σ} {a : α} (run : p s = (s', .ok a)) :
    (p >>= f) s = f a s' := by
  show p.andThen f s = f a s'
  unfold andThen
  rw [run]

/-- What a program answers is what its first part answers, and then the rest from the state that leaves. -/
theorem bind_result {p : Program σ ε α} {f : α → Program σ ε β} {s : σ} :
    ((p >>= f) s).2 = (p s).2 >>= fun a => (f a (p s).1).2 := by
  show (p.andThen f s).2 = _
  unfold andThen
  rcases p s with ⟨s', _ | a⟩ <;> rfl

theorem run_of_result {p : Program σ ε α} {s : σ} {outcome : Except ε α} (result : (p s).2 = outcome) :
    p s = ((p s).1, outcome) := by
  rw [← result]

theorem discard_state {p : Program σ ε α} {b : β} {s : σ} : ((p >>= fun _ => Pure.pure b) s).1 = (p s).1 := by
  show ((p.andThen fun _ => ok b) s).1 = (p s).1
  unfold andThen
  cases p s with
  | mk s' result => cases result <;> rfl

def query (f : σ → Except ε α) : Program σ ε α := fun s => (s, f s)

theorem query_bind {f : σ → Except ε α} {g : α → Program σ ε β} {s : σ} :
    ((query f >>= g) s).2 = f s >>= fun a => (g a s).2 := bind_result

def update (f : σ → σ) : Program σ ε Unit := fun s => (f s, .ok ())

/-- Keeps the changes of `f` only where `f` succeeds. -/
def transaction (f : σ → Except ε (σ × α)) : Program σ ε α := fun s =>
  match f s with
  | .ok (s', a) => (s', .ok a)
  | .error e => (s, .error e)

/-- Runs `p` and hands its outcome on as a value. -/
def attempt (p : Program σ ε α) : Program σ ε (Except ε α) := fun s =>
  match p s with
  | (s', outcome) => (s', .ok outcome)

def mapError {ε' : Type} (f : ε → ε') (p : Program σ ε α) : Program σ ε' α := fun s =>
  match p s with
  | (s', .ok a) => (s', .ok a)
  | (s', .error e) => (s', .error (f e))

/-- Runs `p` and changes the state that an error leaves. -/
def onError (p : Program σ ε α) (undo : ε → σ → σ) : Program σ ε α := fun s =>
  match p s with
  | (s', .ok a) => (s', .ok a)
  | (s', .error e) => (undo e s', .error e)

/-- From `s`, a success of `p` ends in `Q` and an error in `E`. -/
structure Triple (p : Program σ ε α) (s : σ) (Q : α → σ → Prop) (E : ε → σ → Prop) : Prop where
  run : match p s with
    | (s', .ok a) => Q a s'
    | (s', .error e) => E e s'

variable {s : σ} {Q Q' : α → σ → Prop} {R : β → σ → Prop} {E E' : ε → σ → Prop}

theorem Triple.pure {a : α} (post : Q a s) : Triple (Pure.pure a) s Q E := ⟨post⟩

theorem Triple.fail {e : ε} (post : E e s) : Triple (Program.fail e) s Q E := ⟨post⟩

theorem Triple.bind {p : Program σ ε α} {f : α → Program σ ε β} (first : Triple p s Q E)
    (rest : ∀ a s', Q a s' → Triple (f a) s' R E) : Triple (p >>= f) s R E := by
  change Triple (p.andThen f) s R E
  have started := first.run
  constructor
  unfold andThen
  cases outcome : p s with
  | mk s' result =>
    rw [outcome] at started
    cases result with
    | ok a => exact (rest a s' started).run
    | error e => exact started

theorem Triple.weaken {p : Program σ ε α} (holds : Triple p s Q E)
    (post : ∀ a s', Q a s' → Q' a s') (error : ∀ e s', E e s' → E' e s') : Triple p s Q' E' := by
  have before := holds.run
  constructor
  cases outcome : p s with
  | mk s' result =>
    rw [outcome] at before
    cases result with
    | ok a => exact post a s' before
    | error e => exact error e s' before

theorem Triple.and {p : Program σ ε α} (left : Triple p s Q E) (right : Triple p s Q' E') :
    Triple p s (fun a s' => Q a s' ∧ Q' a s') (fun e s' => E e s' ∧ E' e s') := by
  have first := left.run
  have second := right.run
  constructor
  cases outcome : p s with
  | mk s' result =>
    rw [outcome] at first second
    cases result <;> exact ⟨first, second⟩

theorem Triple.query {f : σ → Except ε α} (post : ∀ a, f s = .ok a → Q a s)
    (error : ∀ e, f s = .error e → E e s) : Triple (Program.query f) s Q E := by
  constructor
  unfold Program.query
  cases outcome : f s with
  | ok a => exact post a outcome
  | error e => exact error e outcome

theorem Triple.update {f : σ → σ} {Q : Unit → σ → Prop} (post : Q () (f s)) :
    Triple (Program.update f) s Q E := ⟨post⟩

theorem Triple.transaction {f : σ → Except ε (σ × α)} (post : ∀ a s', f s = .ok (s', a) → Q a s')
    (error : ∀ e, f s = .error e → E e s) : Triple (Program.transaction f) s Q E := by
  constructor
  unfold Program.transaction
  cases outcome : f s with
  | ok result => exact post result.2 result.1 outcome
  | error e => exact error e outcome

theorem Triple.attempt {p : Program σ ε α} {Q : Except ε α → σ → Prop}
    (holds : Triple p s (fun a => Q (.ok a)) (fun e => Q (.error e))) : Triple p.attempt s Q E := by
  have before := holds.run
  constructor
  unfold Program.attempt
  cases outcome : p s with
  | mk s' result =>
    rw [outcome] at before
    cases result <;> exact before

theorem Triple.mapError {ε' : Type} {f : ε → ε'} {p : Program σ ε α} {E' : ε' → σ → Prop}
    (holds : Triple p s Q fun e s' => E' (f e) s') : Triple (p.mapError f) s Q E' := by
  have before := holds.run
  constructor
  unfold Program.mapError
  cases outcome : p s with
  | mk s' result =>
    rw [outcome] at before
    cases result <;> exact before

theorem Triple.onError {undo : ε → σ → σ} {p : Program σ ε α}
    (holds : Triple p s Q fun e s' => E e (undo e s')) : Triple (p.onError undo) s Q E := by
  have before := holds.run
  constructor
  unfold Program.onError
  cases outcome : p s with
  | mk s' result =>
    rw [outcome] at before
    cases result <;> exact before

theorem Triple.ite {condition : Prop} [Decidable condition] {p q : Program σ ε α}
    (first : condition → Triple p s Q E) (second : ¬condition → Triple q s Q E) :
    Triple (if condition then p else q) s Q E := by
  split
  · exact first ‹_›
  · exact second ‹_›

theorem Triple.state {p : Program σ ε α} (I : σ → Prop)
    (holds : Triple p s (fun _ => I) (fun _ => I)) : I (p s).1 := by
  have after := holds.run
  cases outcome : p s with
  | mk s' result =>
    rw [outcome] at after
    cases result <;> exact after

theorem Triple.of_state {p : Program σ ε α} {I : σ → Prop} (after : I (p s).1) :
    Triple p s (fun _ => I) (fun _ => I) := by
  constructor
  cases outcome : p s with
  | mk s' result =>
    rw [outcome] at after
    cases result <;> exact after

theorem Triple.ok {p : Program σ ε α} {s' : σ} {a : α} (holds : Triple p s Q E)
    (success : p s = (s', .ok a)) : Q a s' := by
  have after := holds.run
  rw [success] at after
  exact after

theorem Triple.error {p : Program σ ε α} {e : ε} (holds : Triple p s Q E) (failed : (p s).2 = .error e) :
    E e (p s).1 := by
  have after := holds.run
  cases outcome : p s with
  | mk s' result =>
    rw [outcome] at after failed
    cases failed
    exact after

theorem Triple.outcome {p : Program σ ε α} (P : Except ε α → σ → Prop)
    (holds : Triple p s (fun a => P (.ok a)) (fun e => P (.error e))) : P (p s).2 (p s).1 := by
  have after := holds.run
  cases ran : p s with
  | mk s' result =>
    rw [ran] at after
    cases result <;> exact after

theorem Triple.result {p : Program σ ε α} {outcome : Except ε α}
    (holds : Triple p s (fun a _ => outcome = .ok a) (fun e _ => outcome = .error e)) : (p s).2 = outcome := by
  have after := holds.run
  cases ran : p s with
  | mk s' result =>
    rw [ran] at after
    cases result <;> exact after.symm

/-- A loop whose iterations keep `I` after every outcome keeps it. -/
theorem Triple.forM {I : σ → Prop} {f : α → Program σ ε Unit} {items : List α}
    (step : ∀ a ∈ items, ∀ s, I s → Triple (f a) s (fun _ => I) (fun _ => I)) {s : σ} (initial : I s) :
    Triple (items.forM f) s (fun _ => I) (fun _ => I) := by
  induction items generalizing s with
  | nil => exact Triple.pure initial
  | cons a items ih =>
    change Triple (f a >>= fun _ => items.forM f) s _ _
    refine (step a List.mem_cons_self s initial).bind fun _ s' kept => ?_
    exact ih (fun a' member => step a' (List.mem_cons_of_mem _ member)) kept

/-- A loop whose every turn extends what holds of the turns done so far. -/
theorem Triple.forM_prefix {I : List α → σ → Prop} {f : α → Program σ ε Unit} {items : List α}
    (step : ∀ done a rest, items = done ++ a :: rest → ∀ s, I done s →
      Triple (f a) s (fun _ => I (done ++ [a])) E) {s : σ} (initial : I [] s) :
    Triple (items.forM f) s (fun _ => I items) E := by
  have loop (done rest : List α) (split : items = done ++ rest) (s : σ) (holds : I done s) :
      Triple (rest.forM f) s (fun _ => I items) E := by
    induction rest generalizing done s with
    | nil =>
      rw [List.append_nil] at split
      subst split
      exact Triple.pure holds
    | cons a rest ih =>
      change Triple (f a >>= fun _ => rest.forM f) s _ _
      apply (step done a rest split s holds).bind
      intro _ s' after
      exact ih (done ++ [a]) (by simpa using split) s' after
  exact loop [] items rfl s initial

theorem Triple.foldlM_prefix {I : List α → β → σ → Prop} {f : β → α → Program σ ε β} {items : List α}
    (step : ∀ done a rest, items = done ++ a :: rest → ∀ b s, I done b s →
      Triple (f b a) s (I (done ++ [a])) E) {b : β} {s : σ} (initial : I [] b s) :
    Triple (items.foldlM f b) s (I items) E := by
  have loop (done rest : List α) (split : items = done ++ rest) (b : β) (s : σ) (holds : I done b s) :
      Triple (rest.foldlM f b) s (I items) E := by
    induction rest generalizing done b s with
    | nil =>
      rw [List.append_nil] at split
      subst split
      exact Triple.pure holds
    | cons a rest ih =>
      apply (step done a rest split b s holds).bind
      intro b' s' after
      exact ih (done ++ [a]) (by simpa using split) b' s' after
  exact loop [] items rfl b s initial

def Avoids (bad : ε → Prop) (p : Program σ ε α) : Prop := ∀ s, Lib.Avoids bad (p s).2

section
variable {bad : ε → Prop}

theorem Avoids.pure {a : α} : Avoids bad (Pure.pure a : Program σ ε α) := fun _ => Lib.Avoids.ok

theorem Avoids.fail {e : ε} (good : ¬bad e) : Avoids bad (Program.fail e : Program σ ε α) :=
  fun _ => Lib.Avoids.error good

theorem Avoids.query {f : σ → Except ε α} (good : ∀ s, Lib.Avoids bad (f s)) :
    Avoids bad (Program.query f) := good

theorem Avoids.update {f : σ → σ} : Avoids bad (Program.update f : Program σ ε Unit) :=
  fun _ => Lib.Avoids.ok

theorem Avoids.attempt {p : Program σ ε α} : Avoids bad p.attempt := fun _ => Lib.Avoids.ok

theorem Avoids.transaction {f : σ → Except ε (σ × α)} (good : ∀ s, Lib.Avoids bad (f s)) :
    Avoids bad (Program.transaction f) := by
  intro s e failed
  unfold Program.transaction at failed
  cases outcome : f s with
  | ok result => simp [outcome] at failed
  | error e' =>
    simp only [outcome, Except.error.injEq] at failed
    subst failed
    exact good s _ outcome

theorem Avoids.bind {p : Program σ ε α} {f : α → Program σ ε β} (first : Avoids bad p)
    (rest : ∀ a, Avoids bad (f a)) : Avoids bad (p >>= f) := by
  intro s e failed
  change (p.andThen f s).2 = .error e at failed
  have before := first s
  unfold andThen at failed
  cases outcome : p s with
  | mk s' result =>
    rw [outcome] at failed before
    cases result with
    | ok a => exact rest a s' e failed
    | error e' =>
      cases failed
      exact before e rfl

theorem Avoids.ite {condition : Prop} [Decidable condition] {p q : Program σ ε α} (first : Avoids bad p)
    (second : Avoids bad q) : Avoids bad (if condition then p else q) := by
  split
  · exact first
  · exact second

theorem Avoids.mapError {ε' : Type} {bad : ε' → Prop} {f : ε → ε'} {p : Program σ ε α}
    (good : ∀ e, ¬bad (f e)) : Avoids bad (p.mapError f) := by
  intro s e failed
  unfold Program.mapError at failed
  cases run : p s with
  | mk s' outcome =>
    rw [run] at failed
    cases outcome with
    | ok a => cases failed
    | error e' =>
      cases failed
      exact good e'

theorem Avoids.triple {p : Program σ ε α} (good : Avoids bad p) {s : σ} :
    Triple p s (fun _ _ => True) (fun e _ => ¬bad e) := by
  constructor
  cases outcome : p s with
  | mk s' result =>
    cases result with
    | ok a => trivial
    | error e => exact good s e (by rw [outcome])

end

def Fails (bad : ε → Prop) (p : Program σ ε α) (s : σ) : Prop := ∃ e, (p s).2 = .error e ∧ bad e

section
variable {bad : ε → Prop}

instance [DecidablePred bad] {p : Program σ ε α} : Decidable (Fails bad p s) :=
  inferInstanceAs (Decidable (∃ e, (p s).2 = .error e ∧ bad e))

theorem Avoids.not_fails {p : Program σ ε α} (good : Avoids bad p) : ¬Fails bad p s := by
  intro failed
  obtain ⟨e, failed, wrong⟩ := failed
  exact good s e failed wrong

theorem fails_fail {e : ε} : Fails bad (Program.fail e : Program σ ε α) s ↔ bad e := by
  simp [Fails, Program.fail]

theorem fails_bind {p : Program σ ε α} {f : α → Program σ ε β} :
    Fails bad (p >>= f) s ↔ Fails bad p s ∨ ∃ a, (p s).2 = .ok a ∧ Fails bad (f a) (p s).1 := by
  show Fails bad (p.andThen f) s ↔ _
  unfold Fails andThen
  cases run : p s with
  | mk s' outcome => cases outcome <;> simp

theorem fails_bind_of_avoids {p : Program σ ε α} {f : α → Program σ ε β} (rest : ∀ a, Avoids bad (f a)) :
    Fails bad (p >>= f) s ↔ Fails bad p s := by
  rw [fails_bind]
  constructor
  · intro failed
    rcases failed with failed | ⟨a, _, failed⟩
    · exact failed
    · exact absurd failed (rest a).not_fails
  · exact .inl

theorem fails_query_bind {f : σ → Except ε α} {g : α → Program σ ε β} :
    Fails bad (Program.query f >>= g) s ↔
      (∃ e, f s = .error e ∧ bad e) ∨ ∃ a, f s = .ok a ∧ Fails bad (g a) s := fails_bind

theorem fails_avoids_bind {p : Program σ ε α} {f : α → Program σ ε β} (first : Avoids bad p) :
    Fails bad (p >>= f) s ↔ ∃ a, (p s).2 = .ok a ∧ Fails bad (f a) (p s).1 := by
  rw [fails_bind]
  simp [first.not_fails]

end

/-- Whatever its outcome, `p` leaves this part of the state as it was. -/
def Frames {γ : Type} (part : σ → γ) (p : Program σ ε α) : Prop := ∀ s, part (p s).1 = part s

section
variable {γ : Type} {part : σ → γ}

theorem Frames.pure {a : α} : Frames part (Pure.pure a : Program σ ε α) := fun _ => rfl

theorem Frames.fail {e : ε} : Frames part (Program.fail e : Program σ ε α) := fun _ => rfl

theorem Frames.query {f : σ → Except ε α} : Frames part (Program.query f) := fun _ => rfl

theorem Frames.bind {p : Program σ ε α} {f : α → Program σ ε β} (first : Frames part p)
    (rest : ∀ a, Frames part (f a)) : Frames part (p >>= f) := by
  intro s
  have kept := first s
  change part (p.andThen f s).1 = part s
  unfold andThen
  cases run : p s with
  | mk s' outcome =>
    rw [run] at kept
    cases outcome with
    | ok a => exact (rest a s').trans kept
    | error e => exact kept

theorem Frames.update {f : σ → σ} (kept : ∀ s, part (f s) = part s) :
    Frames part (Program.update f : Program σ ε Unit) := kept

theorem Frames.transaction {f : σ → Except ε (σ × α)}
    (kept : ∀ s s' a, f s = .ok (s', a) → part s' = part s) : Frames part (Program.transaction f) := by
  intro s
  unfold Program.transaction
  cases outcome : f s with
  | ok result => exact kept s result.1 result.2 outcome
  | error e => rfl

theorem Frames.attempt {p : Program σ ε α} (kept : Frames part p) : Frames part p.attempt := kept

theorem Frames.ite {condition : Prop} [Decidable condition] {p q : Program σ ε α}
    (first : Frames part p) (second : Frames part q) : Frames part (if condition then p else q) := by
  split
  · exact first
  · exact second

theorem Frames.forM {f : α → Program σ ε Unit} {items : List α} (step : ∀ a, Frames part (f a)) :
    Frames part (items.forM f) := by
  induction items with
  | nil => exact Frames.pure
  | cons a items ih => exact (step a).bind fun _ => ih

theorem Frames.triple {p : Program σ ε α} (kept : Frames part p) {s : σ} :
    Triple p s (fun _ s' => part s' = part s) (fun _ s' => part s' = part s) := by
  have same := kept s
  constructor
  cases outcome : p s with
  | mk s' result =>
    rw [outcome] at same
    cases result <;> exact same

theorem Frames.of {δ : Type} {p : Program σ ε α} (kept : Frames part p) {part' : σ → δ} {g : γ → δ}
    (factors : ∀ s, part' s = g (part s)) : Frames part' p := by
  intro s
  rw [factors, factors, kept s]

end

/-- Whatever its outcome, `p` takes the state only by steps of `R`. -/
def Moves (R : σ → σ → Prop) (p : Program σ ε α) : Prop := ∀ s, Relation.ReflTransGen R s (p s).1

section
variable {R : σ → σ → Prop}

theorem Moves.pure {a : α} : Moves R (Pure.pure a : Program σ ε α) := fun _ => .refl

theorem Moves.fail {e : ε} : Moves R (Program.fail e : Program σ ε α) := fun _ => .refl

theorem Moves.query {f : σ → Except ε α} : Moves R (Program.query f) := fun _ => .refl

theorem Moves.bind {p : Program σ ε α} {f : α → Program σ ε β} (first : Moves R p)
    (rest : ∀ a, Moves R (f a)) : Moves R (p >>= f) := by
  intro s
  have moved := first s
  show Relation.ReflTransGen R s (p.andThen f s).1
  unfold andThen
  cases run : p s with
  | mk s' outcome =>
    rw [run] at moved
    cases outcome with
    | ok a => exact moved.trans (rest a s')
    | error e => exact moved

theorem Moves.transaction {f : σ → Except ε (σ × α)} (step : ∀ s s' a, f s = .ok (s', a) → R s s') :
    Moves R (Program.transaction f) := by
  intro s
  unfold Program.transaction
  cases outcome : f s with
  | ok result => exact .single (step s result.1 result.2 outcome)
  | error e => exact .refl

theorem Moves.attempt {p : Program σ ε α} (moves : Moves R p) : Moves R p.attempt := moves

theorem Moves.forM {f : α → Program σ ε Unit} {items : List α} (step : ∀ a, Moves R (f a)) :
    Moves R (items.forM f) := by
  induction items with
  | nil => exact Moves.pure
  | cons a items ih => exact (step a).bind fun _ => ih

/-- Where `R` relates states that agree in a part, a program that frames that part moves by `R`. -/
theorem Frames.moves {γ : Type} {part : σ → γ} {p : Program σ ε α} (kept : Frames part p)
    (quiet : ∀ s s', part s' = part s → R s s') : Moves R p := fun s => .single (quiet s _ (kept s))

end

end Program

end Lib
