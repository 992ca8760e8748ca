import Mathlib.Data.List.Basic
import Mathlib.Data.List.Forall2

namespace Lib

variable {ε α β : Type}

def ensure (condition : Prop) [Decidable condition] (e : ε) : Except ε Unit :=
  if condition then .ok () else .error e

def context (value : Option α) (e : ε) : Except ε α :=
  match value with
  | some a => .ok a
  | none => .error e

theorem bind_eq_ok {x : Except ε α} {f : α → Except ε β} {b : β} :
    (x >>= f) = .ok b ↔ ∃ a, x = .ok a ∧ f a = .ok b := by
  cases x <;> simp [Bind.bind, Except.bind]

theorem bind_of_ok {x : Except ε α} {f : α → Except ε β} {a : α} (done : x = .ok a) : (x >>= f) = f a := by
  rw [done]
  rfl

theorem bind_congr_ok {x : Except ε α} {f g : α → Except ε β} (same : ∀ a, x = .ok a → f a = g a) :
    (x >>= f) = (x >>= g) := by
  cases x with
  | error e => rfl
  | ok a => exact same a rfl

theorem bind_succeeds {x : Except ε α} {f : α → Except ε β} {a : α} (done : x = .ok a)
    (rest : ∃ b, f a = .ok b) : ∃ b, (x >>= f) = .ok b := by
  rwa [bind_of_ok done]

theorem bind_eq_error {x : Except ε α} {f : α → Except ε β} {e : ε} :
    (x >>= f) = .error e ↔ x = .error e ∨ ∃ a, x = .ok a ∧ f a = .error e := by
  cases x <;> simp [Bind.bind, Except.bind]

theorem pure_eq_ok {a b : α} : (pure a : Except ε α) = .ok b ↔ a = b := by
  simp [Pure.pure, Except.pure]

section
variable {condition : Prop} [Decidable condition]

theorem ensure_eq_ok {e : ε} {u : Unit} : ensure condition e = .ok u ↔ condition := by
  unfold ensure
  split <;> simp_all

theorem ensure_eq_error {e e' : ε} : ensure condition e = .error e' ↔ ¬condition ∧ e = e' := by
  unfold ensure
  split <;> simp_all

end

theorem toOption_eq_some {outcome : Except ε α} {a : α} : outcome.toOption = some a ↔ outcome = .ok a := by
  cases outcome <;> simp [Except.toOption]

theorem context_eq_ok {value : Option α} {e : ε} {a : α} :
    context value e = .ok a ↔ value = some a := by
  cases value <;> simp [context]

theorem context_eq_error {value : Option α} {e e' : ε} :
    context value e = .error e' ↔ value = none ∧ e = e' := by
  cases value <;> simp [context]

instance decidableOk {x : Except ε α} {p : α → Prop} [DecidablePred p] : Decidable (∃ a, x = .ok a ∧ p a) :=
  match x with
  | .ok a => decidable_of_iff (p a) (by simp)
  | .error _ => isFalse (by simp)

instance decidableError {x : Except ε α} {p : ε → Prop} [DecidablePred p] : Decidable (∃ e, x = .error e ∧ p e) :=
  match x with
  | .ok _ => isFalse (by simp)
  | .error e => decidable_of_iff (p e) (by simp)

def Avoids (bad : ε → Prop) (x : Except ε α) : Prop := ∀ e, x = .error e → ¬bad e

section
variable {bad : ε → Prop}

theorem Avoids.ok {a : α} : Avoids bad (.ok a : Except ε α) := fun _ failed => by cases failed

theorem Avoids.pure {a : α} : Avoids bad (Pure.pure a : Except ε α) := Avoids.ok

theorem Avoids.of_ok {x : Except ε α} {a : α} (done : x = .ok a) : Avoids bad x := by
  rw [done]
  exact Avoids.ok

theorem Avoids.error {e : ε} (good : ¬bad e) : Avoids bad (.error e : Except ε α) := by
  intro e' failed
  cases failed
  exact good

theorem Avoids.bind {x : Except ε α} {f : α → Except ε β} (first : Avoids bad x)
    (rest : ∀ a, x = .ok a → Avoids bad (f a)) : Avoids bad (x >>= f) := by
  intro e failed
  rcases bind_eq_error.mp failed with failed | ⟨a, done, failed⟩
  · exact first e failed
  · exact rest a done e failed

theorem Avoids.ensure {condition : Prop} [Decidable condition] {e : ε} (good : ¬bad e) :
    Avoids bad (Lib.ensure condition e) := by
  intro e' failed
  obtain ⟨_, rfl⟩ := ensure_eq_error.mp failed
  exact good

theorem Avoids.context {value : Option α} {e : ε} (good : value = none → ¬bad e) :
    Avoids bad (Lib.context value e) := by
  intro e' failed
  obtain ⟨absent, rfl⟩ := context_eq_error.mp failed
  exact good absent

theorem Avoids.foldlM {f : β → α → Except ε β} {items : List α} {b : β}
    (step : ∀ a ∈ items, ∀ b, Avoids bad (f b a)) : Avoids bad (items.foldlM f b) := by
  induction items generalizing b with
  | nil => exact Avoids.pure
  | cons a items ih =>
    rw [List.foldlM_cons]
    refine (step a List.mem_cons_self b).bind fun b' _ => ?_
    exact ih fun a' member => step a' (List.mem_cons_of_mem _ member)

theorem Avoids.mapM {f : α → Except ε β} {items : List α} (step : ∀ a ∈ items, Avoids bad (f a)) :
    Avoids bad (items.mapM f) := by
  induction items with
  | nil => exact Avoids.pure
  | cons a items ih =>
    rw [List.mapM_cons]
    refine (step a List.mem_cons_self).bind fun b _ => ?_
    exact (ih fun a' member => step a' (List.mem_cons_of_mem _ member)).bind fun _ _ => Avoids.pure

end

theorem forM_eq_ok {f : α → Except ε Unit} {items : List α} :
    items.forM f = .ok () ↔ ∀ a ∈ items, f a = .ok () := by
  induction items with
  | nil => simp [List.forM, Pure.pure, Except.pure]
  | cons a items ih =>
    have rest : (forM items f = .ok ()) ↔ ∀ a ∈ items, f a = .ok () := ih
    rw [List.forM, bind_eq_ok]
    simp only [List.forM_eq_forM, rest, List.mem_cons, forall_eq_or_imp]
    constructor
    · intro run
      obtain ⟨⟨⟩, first, later⟩ := run
      exact ⟨first, later⟩
    · intro all
      exact ⟨(), all⟩

theorem mapM_eq_ok {f : α → Except ε β} {items : List α} {results : List β} :
    items.mapM f = .ok results ↔ List.Forall₂ (fun a b => f a = .ok b) items results := by
  induction items generalizing results with
  | nil =>
    rw [List.mapM_nil, pure_eq_ok, List.forall₂_nil_left_iff]
    exact eq_comm
  | cons a items ih =>
    rw [List.mapM_cons, bind_eq_ok, List.forall₂_cons_left_iff]
    constructor
    · intro run
      obtain ⟨b, first, run⟩ := run
      obtain ⟨rest, later, run⟩ := bind_eq_ok.mp run
      cases run
      exact ⟨b, rest, first, ih.mp later, rfl⟩
    · intro listed
      obtain ⟨b, rest, first, later, rfl⟩ := listed
      exact ⟨b, first, bind_eq_ok.mpr ⟨rest, ih.mpr later, rfl⟩⟩

theorem mapM_source {f : α → Except ε β} {items : List α} {results : List β} (run : items.mapM f = .ok results)
    {b : β} (member : b ∈ results) : ∃ a ∈ items, f a = .ok b := by
  have listed := mapM_eq_ok.mp run
  clear run
  induction listed with
  | nil => cases member
  | cons first _ ih =>
    rcases List.mem_cons.mp member with rfl | member
    · exact ⟨_, List.mem_cons_self, first⟩
    · obtain ⟨a, listed, made⟩ := ih member
      exact ⟨a, List.mem_cons_of_mem _ listed, made⟩

theorem mapM_result {f : α → Except ε β} {items : List α} {results : List β} (run : items.mapM f = .ok results)
    {a : α} (member : a ∈ items) : ∃ b ∈ results, f a = .ok b := by
  have listed := mapM_eq_ok.mp run
  clear run
  induction listed with
  | nil => cases member
  | cons first _ ih =>
    rcases List.mem_cons.mp member with rfl | member
    · exact ⟨_, List.mem_cons_self, first⟩
    · obtain ⟨b, listed, made⟩ := ih member
      exact ⟨b, List.mem_cons_of_mem _ listed, made⟩

theorem mapM_map {γ : Type} {f : α → Except ε β} {items : List α} {results : List β} {g : β → γ} {h : α → γ}
    (reads : ∀ a b, f a = .ok b → g b = h a) (run : items.mapM f = .ok results) :
    results.map g = items.map h := by
  have listed := mapM_eq_ok.mp run
  clear run
  induction listed with
  | nil => rfl
  | cons first _ ih => rw [List.map_cons, List.map_cons, reads _ _ first, ih]

theorem foldlM_preserves {P : β → Prop} {f : β → α → Except ε β} {items : List α}
    (step : ∀ a ∈ items, ∀ b b', P b → f b a = .ok b' → P b') {b b' : β} (initial : P b)
    (run : items.foldlM f b = .ok b') : P b' := by
  induction items generalizing b with
  | nil =>
    cases run
    exact initial
  | cons a items ih =>
    rw [List.foldlM_cons, bind_eq_ok] at run
    obtain ⟨middle, first, rest⟩ := run
    exact ih (fun a' member => step a' (List.mem_cons_of_mem _ member))
      (step a List.mem_cons_self b middle initial first) rest

/-- What `g` sees of a fallible loop is the loop of what it sees of the turns. -/
theorem foldlM_map {γ : Type} {f : β → α → Except ε β} {f' : γ → α → Except ε γ} {g : β → γ} {items : List α}
    (step : ∀ a ∈ items, ∀ b, (f b a).map g = f' (g b) a) (b : β) :
    (items.foldlM f b).map g = items.foldlM f' (g b) := by
  induction items generalizing b with
  | nil => rfl
  | cons a items ih =>
    rw [List.foldlM_cons, List.foldlM_cons, ← step a List.mem_cons_self b]
    cases f b a with
    | ok middle => exact ih (fun a' member => step a' (List.mem_cons_of_mem _ member)) middle
    | error e => rfl

/-- A loop whose every iteration succeeds while `P` holds, and keeps it, succeeds. -/
theorem foldlM_succeeds {P : β → Prop} {f : β → α → Except ε β} {items : List α}
    (step : ∀ a ∈ items, ∀ b, P b → ∃ b', f b a = .ok b' ∧ P b') {b : β} (initial : P b) :
    ∃ b', items.foldlM f b = .ok b' ∧ P b' := by
  induction items generalizing b with
  | nil => exact ⟨b, rfl, initial⟩
  | cons a items ih =>
    obtain ⟨middle, first, holds⟩ := step a List.mem_cons_self b initial
    obtain ⟨last, rest, final⟩ := ih (fun a' member => step a' (List.mem_cons_of_mem _ member)) holds
    exact ⟨last, by rw [List.foldlM_cons, bind_eq_ok]; exact ⟨middle, first, rest⟩, final⟩

theorem mapM_succeeds {f : α → Except ε β} {items : List α} (each : ∀ a ∈ items, ∃ b, f a = .ok b) :
    ∃ results, items.mapM f = .ok results := by
  induction items with
  | nil => exact ⟨[], List.mapM_nil⟩
  | cons a items ih =>
    obtain ⟨b, first⟩ := each a List.mem_cons_self
    obtain ⟨rest, later⟩ := ih fun other member => each other (List.mem_cons_of_mem _ member)
    rw [List.mapM_cons]
    exact ⟨b :: rest, bind_eq_ok.mpr ⟨b, first, bind_eq_ok.mpr ⟨rest, later, rfl⟩⟩⟩

end Lib
