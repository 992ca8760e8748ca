import Mathlib.Data.List.Nodup

namespace Lib

variable {α : Type} {next next' : α → Option α} {a b c : α} {path path' : List α}

/-- Following `next` from `a` passes through `path` and stops at `b`. -/
inductive Follows (next : α → Option α) : α → List α → α → Prop where
  | stop {a : α} (last : next a = none) : Follows next a [] a
  | pass {a b c : α} {path : List α} (step : next a = some b) (rest : Follows next b path c) :
      Follows next a (a :: path) c

theorem Follows.last (follows : Follows next a path b) : next b = none := by
  induction follows with
  | stop last => exact last
  | pass _ _ ih => exact ih

theorem Follows.unique (left : Follows next a path b) (right : Follows next a path' c) : path = path' ∧ b = c := by
  induction left generalizing path' with
  | stop last =>
    cases right with
    | stop => simp
    | pass step => simp [last] at step
  | pass step rest ih =>
    cases right with
    | stop last => simp [last] at step
    | pass step' rest' =>
      have same := step.symm.trans step'
      rw [Option.some.injEq] at same
      subst same
      have tails := ih rest'
      simp [tails]

theorem Follows.later (follows : Follows next a path b) (member : c ∈ path) :
    ∃ rest, Follows next c rest b ∧ rest.length ≤ path.length := by
  induction follows with
  | stop => simp at member
  | @pass a _ _ path step rest ih =>
    rcases List.mem_cons.mp member with here | later
    · subst here
      exact ⟨_, .pass step rest, by simp⟩
    · have shorter := ih later
      rcases shorter with ⟨tail, follows, bound⟩
      refine ⟨tail, follows, ?_⟩
      rw [List.length_cons]
      omega

theorem Follows.nodup (follows : Follows next a path b) : (path ++ [b]).Nodup := by
  induction follows with
  | stop => simp
  | @pass a _ c path step rest ih =>
    rw [List.cons_append, List.nodup_cons]
    refine ⟨?_, ih⟩
    intro member
    rcases List.mem_append.mp member with again | last
    · rcases rest.later again with ⟨tail, follows, bound⟩
      have same := (follows.unique (.pass step rest)).1
      have length := congrArg List.length same
      rw [List.length_cons] at length
      omega
    · have stopped := rest.last
      rw [← List.mem_singleton.mp last, step] at stopped
      simp at stopped

/-- The way goes on where another function agrees on the points passed. -/
theorem Follows.extend (follows : Follows next a path b) (agree : ∀ point ∈ path, next' point = next point)
    (rest : Follows next' b path' c) : Follows next' a (path ++ path') c := by
  induction follows with
  | stop => exact rest
  | pass step _ ih =>
    have here := (agree _ List.mem_cons_self).trans step
    apply Follows.pass here
    exact ih (fun point member => agree point (List.mem_cons_of_mem _ member)) rest

theorem Follows.passes (follows : Follows next a path b) (member : c ∈ path) : (next c).isSome = true := by
  induction follows with
  | stop => simp at member
  | pass step _ ih =>
    rcases List.mem_cons.mp member with here | later
    · simp [here, step]
    · exact ih later

end Lib
