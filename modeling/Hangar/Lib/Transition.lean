import Mathlib.Data.List.Basic

namespace Lib

/-- A run of a transition system, with the state before each step and the step's label. -/
inductive Run {σ ι : Type} (step : σ → ι → σ → Prop) (initial : σ) : List (σ × ι) → σ → Prop where
  | start : Run step initial [] initial
  | next {trace : List (σ × ι)} {s s' : σ} {i : ι} :
      Run step initial trace s → step s i s' → Run step initial (trace ++ [(s, i)]) s'

def Reaches {σ ι : Type} (step : σ → ι → σ → Prop) (initial s : σ) : Prop :=
  ∃ trace, Run step initial trace s

variable {σ ι : Type} {step : σ → ι → σ → Prop}

theorem Run.preserves {I : σ → Prop} {initial s : σ} {trace : List (σ × ι)}
    (run : Run step initial trace s) (holds : I initial)
    (kept : ∀ p ∈ trace, ∀ s', I p.1 → step p.1 p.2 s' → I s') : I s := by
  induction run with
  | start => exact holds
  | next _ taken ih =>
    have before := ih fun p member => kept p (List.mem_append_left _ member)
    exact kept _ (List.mem_append_right _ List.mem_cons_self) _ before taken

theorem Run.taken {initial s : σ} {trace : List (σ × ι)} (run : Run step initial trace s) {p : σ × ι}
    (member : p ∈ trace) : ∃ s', step p.1 p.2 s' := by
  induction run with
  | start => cases member
  | @next trace s s' i _ taken ih =>
    rcases List.mem_append.mp member with earlier | last
    · exact ih earlier
    · cases List.mem_singleton.mp last
      exact ⟨s', taken⟩

/-- A property of a state and the run up to it that holds before every step of a run and at its end. -/
def Throughout (I : List (σ × ι) → σ → Prop) (trace : List (σ × ι)) (s : σ) : Prop :=
  (∀ earlier p later, trace = earlier ++ p :: later → I earlier p.1) ∧ I trace s

theorem throughout_nil {I : List (σ × ι) → σ → Prop} {s : σ} : Throughout I [] s ↔ I [] s := by
  simp [Throughout]

theorem throughout_next {I : List (σ × ι) → σ → Prop} {trace : List (σ × ι)} {s s' : σ} {i : ι} :
    Throughout I (trace ++ [(s, i)]) s' ↔ Throughout I trace s ∧ I (trace ++ [(s, i)]) s' := by
  constructor
  · rintro ⟨before, after⟩
    have here : I trace s := before trace (s, i) [] rfl
    refine ⟨⟨?_, here⟩, after⟩
    intro earlier p later split
    apply before earlier p (later ++ [(s, i)])
    simp [split]
  · rintro ⟨⟨before, here⟩, after⟩
    refine ⟨?_, after⟩
    intro earlier p later split
    rcases List.eq_nil_or_concat later with rfl | ⟨rest, last, rfl⟩
    · obtain ⟨rfl, rfl⟩ := List.append_singleton_inj.mp split
      exact here
    · rw [List.concat_eq_append, ← List.cons_append, ← List.append_assoc] at split
      exact before earlier p rest (List.append_singleton_inj.mp split).1

/-- Where a step keeps a property exactly when it is not bad, the property holds throughout a run exactly
    when no step of the run is bad. -/
theorem Run.throughout_iff {I : List (σ × ι) → σ → Prop} {B : σ → ι → Prop} {initial s : σ}
    {trace : List (σ × ι)} (run : Run step initial trace s) (holds : I [] initial)
    (kept : ∀ trace s i s', Run step initial trace s → I trace s → step s i s' →
      (I (trace ++ [(s, i)]) s' ↔ ¬ B s i)) :
    Throughout I trace s ↔ ∀ p ∈ trace, ¬ B p.1 p.2 := by
  induction run with
  | start => simp [throughout_nil, holds]
  | @next trace s s' i before taken ih =>
    rw [throughout_next, ih]
    constructor
    · rintro ⟨good, after⟩ p member
      rcases List.mem_append.mp member with earlier | last
      · exact good p earlier
      · cases List.mem_singleton.mp last
        have here : I trace s := (ih.mpr good).2
        exact (kept trace s i s' before here taken).mp after
    · intro good
      have earlier : ∀ p ∈ trace, ¬ B p.1 p.2 := fun p member => good p (List.mem_append_left _ member)
      have here : I trace s := (ih.mpr earlier).2
      have last : ¬ B s i := good (s, i) (List.mem_append_right _ List.mem_cons_self)
      exact ⟨earlier, (kept trace s i s' before here taken).mpr last⟩

theorem Run.always_iff {I : σ → Prop} {B : σ → ι → Prop} {initial s : σ} {trace : List (σ × ι)}
    (run : Run step initial trace s) (holds : I initial)
    (kept : ∀ s i s', I s → step s i s' → (I s' ↔ ¬ B s i)) :
    ((∀ p ∈ trace, I p.1) ∧ I s) ↔ ∀ p ∈ trace, ¬ B p.1 p.2 := by
  rw [← run.throughout_iff (I := fun _ => I) holds fun _ s i s' _ here taken => kept s i s' here taken]
  have spread : (∀ p ∈ trace, I p.1) ↔ ∀ earlier p later, trace = earlier ++ p :: later → I p.1 := by
    constructor
    · intro all earlier p later split
      apply all
      simp [split]
    · intro all p member
      obtain ⟨earlier, later, split⟩ := List.append_of_mem member
      exact all earlier p later split
  rw [spread]
  rfl

theorem Run.append {initial middle s : σ} {first second : List (σ × ι)}
    (left : Run step initial first middle) (right : Run step middle second s) :
    Run step initial (first ++ second) s := by
  induction right with
  | start => simpa using left
  | next _ taken ih =>
    rw [← List.append_assoc]
    exact ih.next taken

theorem Run.single {s s' : σ} {i : ι} (taken : step s i s') : Run step s [(s, i)] s' :=
  Run.start.next taken

theorem Run.upto {initial s : σ} {p : σ × ι} {before after : List (σ × ι)}
    (run : Run step initial (before ++ p :: after) s) : Run step initial before p.1 := by
  generalize cut : before ++ p :: after = trace at run
  induction run generalizing after with
  | start => simp at cut
  | @next trace s s' i earlier _ ih =>
    rcases List.eq_nil_or_concat after with rfl | ⟨rest, last, rfl⟩
    · obtain ⟨rfl, rfl⟩ := List.append_singleton_inj.mp cut
      exact earlier
    · rw [List.concat_eq_append, ← List.cons_append, ← List.append_assoc] at cut
      exact ih (List.append_singleton_inj.mp cut).1

theorem Run.onward {initial s : σ} {p : σ × ι} {before after : List (σ × ι)}
    (run : Run step initial (before ++ p :: after) s) : Run step p.1 (p :: after) s := by
  generalize cut : before ++ p :: after = trace at run
  induction run generalizing after with
  | start => simp at cut
  | @next trace s s' i _ taken ih =>
    rcases List.eq_nil_or_concat after with rfl | ⟨rest, last, rfl⟩
    · obtain ⟨rfl, rfl⟩ := List.append_singleton_inj.mp cut
      exact .single taken
    · rw [List.concat_eq_append, ← List.cons_append, ← List.append_assoc] at cut
      obtain ⟨earlier, rfl⟩ := List.append_singleton_inj.mp cut
      rw [List.concat_eq_append, ← List.cons_append]
      exact (ih earlier).next taken

theorem Run.reaches_before {initial s : σ} {trace : List (σ × ι)} (run : Run step initial trace s) {p : σ × ι}
    (member : p ∈ trace) : Reaches step initial p.1 := by
  induction run with
  | start => simp at member
  | next before _ ih =>
    rcases List.mem_append.mp member with earlier | last
    · exact ih earlier
    · rw [List.mem_singleton.mp last]
      exact ⟨_, before⟩

theorem Reaches.refl {s : σ} : Reaches step s s := ⟨[], .start⟩

theorem Reaches.trans {a b c : σ} (left : Reaches step a b) (right : Reaches step b c) :
    Reaches step a c := by
  obtain ⟨_, left⟩ := left
  obtain ⟨_, right⟩ := right
  exact ⟨_, left.append right⟩

theorem Reaches.next {a b c : σ} {i : ι} (run : Reaches step a b) (taken : step b i c) :
    Reaches step a c := run.trans ⟨_, .single taken⟩

/-- An invariant that every step keeps holds in every state reached. -/
theorem Reaches.preserves {I : σ → Prop} {initial s : σ} (run : Reaches step initial s)
    (holds : I initial) (kept : ∀ s i s', I s → step s i s' → I s') : I s := by
  obtain ⟨trace, run⟩ := run
  exact run.preserves holds fun p _ s' inv taken => kept p.1 p.2 s' inv taken

end Lib
