import Mathlib.Data.List.Nodup
import Mathlib.Order.Bounds.Basic

/-! Breadth-first search from several seeds: walks and distances, and the queue that labels vertices in the
    order of their distance. -/

namespace Lib

variable {V : Type} {seeds : V → Prop} {joined : V → V → Prop} {label : V → Option Nat} {bound level m n : Nat} {v w : V}

inductive WalkTo (seeds : V → Prop) (joined : V → V → Prop) : Nat → V → Prop where
  | seed {v : V} : seeds v → WalkTo seeds joined 0 v
  | step {n : Nat} {v w : V} : WalkTo seeds joined n v → joined v w → WalkTo seeds joined (n + 1) w

def Distance (seeds : V → Prop) (joined : V → V → Prop) (v : V) (n : Nat) : Prop :=
  IsLeast {n | WalkTo seeds joined n v} n

/-- A labelling with lengths of walks that is closed under the steps from every label below the bound. -/
structure Levels (seeds : V → Prop) (joined : V → V → Prop) (bound : Nat) (label : V → Option Nat) : Prop where
  seeded : ∀ v, seeds v → label v = some 0
  sound : ∀ v n, label v = some n → WalkTo seeds joined n v
  closed : ∀ v w n, label v = some n → n < bound → joined v w → ∃ k, label w = some k ∧ k ≤ n + 1

theorem Levels.label_le (levels : Levels seeds joined bound label) (walk : WalkTo seeds joined n v) (near : n ≤ bound) :
    ∃ k, label v = some k ∧ k ≤ n := by
  induction walk with
  | seed start => exact ⟨0, levels.seeded _ start, Nat.le_refl 0⟩
  | @step n v w walk edge ih =>
    rcases ih (by omega) with ⟨k, labelled, less⟩
    rcases levels.closed v w k labelled (by omega) edge with ⟨k', labelled', less'⟩
    exact ⟨k', labelled', by omega⟩

/-- The labels up to the bound are the distances. -/
theorem Levels.distance_iff (levels : Levels seeds joined bound label) (near : n ≤ bound) :
    label v = some n ↔ Distance seeds joined v n := by
  constructor
  · intro labelled
    refine ⟨levels.sound v n labelled, ?_⟩
    intro m walk
    by_contra shorter
    rcases levels.label_le walk (by omega) with ⟨k, labelled', less⟩
    rw [labelled, Option.some.injEq] at labelled'
    omega
  · intro distance
    rcases levels.label_le distance.1 near with ⟨k, labelled, less⟩
    have least := distance.2 (levels.sound v k labelled)
    rw [labelled, Nat.le_antisymm less least]

structure Queue (V : Type) where
  frontier : List (V × Nat)
  label : V → Option Nat

section
variable [DecidableEq V]

/-- Labels a vertex where this improves on its label, and then queues it. -/
def Queue.reach (q : Queue V) (n : Nat) (w : V) : Queue V :=
  if (q.label w).all fun existing => n < existing then
    { frontier := q.frontier ++ [(w, n)], label := fun v => if w = v then some n else q.label v }
  else q

def Queue.reachAll (q : Queue V) (n : Nat) (vertices : List V) : Queue V :=
  vertices.foldl (fun q w => q.reach n w) q

end

/-- The queue stands in the order of its labels, which are walk lengths of at most one step more than the level. -/
structure Swept (seeds : V → Prop) (joined : V → V → Prop) (level : Nat) (done : List (V × Nat)) (q : Queue V) :
    Prop where
  ordered : q.frontier.Pairwise fun a b => a.2 ≤ b.2
  ahead : ∀ p ∈ q.frontier, level ≤ p.2
  labelled : ∀ p ∈ done ++ q.frontier, q.label p.1 = some p.2
  distinct : ((done ++ q.frontier).map Prod.fst).Nodup
  near : ∀ v n, q.label v = some n → n ≤ level + 1
  sound : ∀ v n, q.label v = some n → WalkTo seeds joined n v
  seeded : ∀ v, seeds v → q.label v = some 0

variable {done : List (V × Nat)} {q : Queue V} {rest : List (V × Nat)}

theorem Swept.start {vertices : List V} (distinct : vertices.Nodup)
    (labels : ∀ v n, label v = some n ↔ v ∈ vertices ∧ n = 0) :
    Swept (fun v => v ∈ vertices) joined 0 [] ⟨vertices.map fun v => (v, 0), label⟩ where
  ordered := List.pairwise_map.mpr (List.pairwise_of_forall fun _ _ => Nat.le_refl 0)
  ahead := by simp
  labelled := by
    intro p member
    simp only [List.nil_append, List.mem_map] at member
    rcases member with ⟨v, listed, rfl⟩
    exact (labels v 0).mpr ⟨listed, rfl⟩
  distinct := by simpa [Function.comp_def] using distinct
  near := by
    intro v n labelled
    have zero := ((labels v n).mp labelled).2
    omega
  sound := by
    intro v n labelled
    rcases (labels v n).mp labelled with ⟨listed, rfl⟩
    exact .seed listed
  seeded v listed := (labels v 0).mpr ⟨listed, rfl⟩

theorem Swept.expand (swept : Swept seeds joined level done ⟨(v, n) :: rest, label⟩) :
    Swept seeds joined n (done ++ [(v, n)]) ⟨rest, label⟩ where
  ordered := (List.pairwise_cons.mp swept.ordered).2
  ahead := (List.pairwise_cons.mp swept.ordered).1
  labelled := by simpa using swept.labelled
  distinct := by simpa using swept.distinct
  near := by
    intro w k labelled
    have before := swept.near w k labelled
    have least : level ≤ n := swept.ahead (v, n) List.mem_cons_self
    omega
  sound := swept.sound
  seeded := swept.seeded

theorem Swept.drop (swept : Swept seeds joined level done ⟨(v, n) :: rest, label⟩) :
    Swept seeds joined level done ⟨rest, label⟩ where
  ordered := (List.pairwise_cons.mp swept.ordered).2
  ahead p member := swept.ahead p (List.mem_cons_of_mem _ member)
  labelled := by
    intro p member
    apply swept.labelled p
    rcases List.mem_append.mp member with earlier | queued
    · exact List.mem_append_left _ earlier
    · exact List.mem_append_right _ (List.mem_cons_of_mem _ queued)
  distinct := swept.distinct.sublist (List.Sublist.map _ (List.Sublist.append_left (List.sublist_cons_self _ _) _))
  near := swept.near
  sound := swept.sound
  seeded := swept.seeded

theorem Swept.unlabelled (swept : Swept seeds joined level done q)
    (improves : (q.label w).all (fun existing => level + 1 < existing) = true) : q.label w = none := by
  cases labelled : q.label w with
  | none => rfl
  | some k =>
    have near := swept.near w k labelled
    simp only [labelled, Option.all_some, decide_eq_true_eq] at improves
    omega

section
variable [DecidableEq V]

theorem Queue.label_reach {n' : Nat} : (q.reach n w).label v = some n' ↔
    if w = v ∧ (q.label w).all (fun existing => n < existing) = true then n' = n else q.label v = some n' := by
  unfold Queue.reach
  by_cases improves : (q.label w).all (fun existing => n < existing) = true
  · rw [if_pos improves]
    by_cases same : w = v
    · rw [if_pos ⟨same, improves⟩]
      simp only [if_pos same, Option.some.injEq]
      exact eq_comm
    · rw [if_neg fun both => same both.1]
      simp only [if_neg same]
  · rw [if_neg improves, if_neg fun both => improves both.2]

theorem Swept.reach (swept : Swept seeds joined level done q) (walk : WalkTo seeds joined (level + 1) w) :
    Swept seeds joined level done (q.reach (level + 1) w) := by
  by_cases improves : (q.label w).all (fun existing => level + 1 < existing) = true
  · have absent := swept.unlabelled improves
    have reached : q.reach (level + 1) w =
        ⟨q.frontier ++ [(w, level + 1)], fun v => if w = v then some (level + 1) else q.label v⟩ := if_pos improves
    have other : ∀ p ∈ done ++ q.frontier, w ≠ p.1 := by
      intro p member same
      have labelled := swept.labelled p member
      rw [← same, absent] at labelled
      cases labelled
    rw [reached]
    constructor
    · rw [List.pairwise_append]
      refine ⟨swept.ordered, by simp, ?_⟩
      intro p member last listed
      rw [List.mem_singleton.mp listed]
      exact swept.near p.1 p.2 (swept.labelled p (List.mem_append_right _ member))
    · intro p member
      rcases List.mem_append.mp member with queued | last
      · exact swept.ahead p queued
      · rw [List.mem_singleton.mp last]
        exact Nat.le_succ level
    · intro p member
      rw [← List.append_assoc] at member
      rcases List.mem_append.mp member with earlier | last
      · simp only [if_neg (other p earlier)]
        exact swept.labelled p earlier
      · rw [List.mem_singleton.mp last]
        simp
    · rw [← List.append_assoc, List.map_append, List.nodup_append]
      refine ⟨swept.distinct, by simp, ?_⟩
      intro a listed b last same
      rcases List.mem_map.mp listed with ⟨p, member, named⟩
      rw [List.map_singleton, List.mem_singleton] at last
      exact other p member (by rw [named, same, last])
    · intro v n
      by_cases same : w = v
      · simp only [same, if_true, Option.some.injEq]
        omega
      · simp only [if_neg same]
        exact swept.near v n
    · intro v n
      by_cases same : w = v
      · simp only [← same, if_true, Option.some.injEq]
        rintro rfl
        exact walk
      · simp only [if_neg same]
        exact swept.sound v n
    · intro v start
      have labelled := swept.seeded v start
      have different : w ≠ v := by
        intro same
        rw [← same, absent] at labelled
        cases labelled
      simp only [if_neg different]
      exact labelled
  · have kept : q.reach (level + 1) w = q := if_neg improves
    rw [kept]
    exact swept

theorem Swept.reachAll {vertices : List V} (swept : Swept seeds joined level done q)
    (walks : ∀ w ∈ vertices, WalkTo seeds joined (level + 1) w) :
    Swept seeds joined level done (q.reachAll (level + 1) vertices) := by
  induction vertices generalizing q with
  | nil => exact swept
  | cons w vertices ih =>
    have first := swept.reach (walks w List.mem_cons_self)
    exact ih first fun w' listed => walks w' (List.mem_cons_of_mem _ listed)

end

/-- Every label below the bound is expanded or queued, and what was expanded has labelled its neighbours. -/
structure Covered (joined : V → V → Prop) (bound : Nat) (done : List (V × Nat)) (q : Queue V) : Prop where
  listed : ∀ v n, q.label v = some n → n < bound → (v, n) ∈ done ++ q.frontier
  closed : ∀ p ∈ done, ∀ w, joined p.1 w → ∃ k, q.label w = some k ∧ k ≤ p.2 + 1

theorem Covered.start {vertices : List V} (labels : ∀ v n, label v = some n ↔ v ∈ vertices ∧ n = 0) :
    Covered joined bound [] ⟨vertices.map fun v => (v, 0), label⟩ where
  listed := by
    intro v n labelled _
    rcases (labels v n).mp labelled with ⟨listed, rfl⟩
    exact List.mem_append_right _ (List.mem_map_of_mem listed)
  closed := by simp

theorem Covered.drop (covered : Covered joined bound done ⟨(v, n) :: rest, label⟩) (far : bound ≤ n) :
    Covered joined bound done ⟨rest, label⟩ where
  listed := by
    intro w k labelled near
    have member := covered.listed w k labelled near
    simp only [List.mem_append, List.mem_cons, Prod.mk.injEq] at member ⊢
    rcases member with earlier | ⟨_, rfl⟩ | queued
    · exact .inl earlier
    · omega
    · exact .inr queued
  closed := covered.closed

section
variable [DecidableEq V]

theorem Queue.reach_le {k : Nat} (labelled : q.label v = some k) : ∃ k', (q.reach n w).label v = some k' ∧ k' ≤ k := by
  by_cases reached : w = v ∧ (q.label w).all (fun existing => n < existing) = true
  · refine ⟨n, Queue.label_reach.mpr (by rw [if_pos reached]), ?_⟩
    rcases reached with ⟨rfl, improves⟩
    simp only [labelled, Option.all_some, decide_eq_true_eq] at improves
    omega
  · exact ⟨k, Queue.label_reach.mpr (by rw [if_neg reached, labelled]), Nat.le_refl k⟩

theorem Queue.reach_self : ∃ k, (q.reach n w).label w = some k ∧ k ≤ n := by
  by_cases improves : (q.label w).all (fun existing => n < existing) = true
  · exact ⟨n, Queue.label_reach.mpr (by rw [if_pos ⟨rfl, improves⟩]), Nat.le_refl n⟩
  · cases labelled : q.label w with
    | none => simp [labelled] at improves
    | some k =>
      simp only [labelled, Option.all_some, decide_eq_true_eq] at improves
      refine ⟨k, Queue.label_reach.mpr ?_, by omega⟩
      simp [labelled, improves]

theorem Queue.reachAll_le (vertices : List V) {k : Nat} (labelled : q.label v = some k) :
    ∃ k', (q.reachAll n vertices).label v = some k' ∧ k' ≤ k := by
  induction vertices generalizing q k with
  | nil => exact ⟨k, labelled, Nat.le_refl k⟩
  | cons w vertices ih =>
    rcases Queue.reach_le (n := n) (w := w) labelled with ⟨k', labelled', less⟩
    rcases ih labelled' with ⟨k'', labelled'', less'⟩
    exact ⟨k'', labelled'', by omega⟩

theorem Queue.reachAll_mem {vertices : List V} (member : w ∈ vertices) :
    ∃ k, (q.reachAll n vertices).label w = some k ∧ k ≤ n := by
  induction vertices generalizing q with
  | nil => simp at member
  | cons w' vertices ih =>
    rcases List.mem_cons.mp member with rfl | later
    · rcases Queue.reach_self (q := q) (n := n) (w := w) with ⟨k, labelled, less⟩
      rcases Queue.reachAll_le (n := n) vertices labelled with ⟨k', labelled', less'⟩
      exact ⟨k', labelled', by omega⟩
    · exact ih later

theorem Queue.frontier_reachAll {vertices : List V} {p : V × Nat} (member : p ∈ q.frontier) :
    p ∈ (q.reachAll n vertices).frontier := by
  induction vertices generalizing q with
  | nil => exact member
  | cons w vertices ih =>
    apply ih
    unfold Queue.reach
    by_cases improves : (q.label w).all (fun existing => n < existing) = true
    · simp [improves, member]
    · simp [improves, member]

theorem Queue.length_reachAll (vertices : List V) :
    (q.reachAll n vertices).frontier.length ≤ q.frontier.length + vertices.length := by
  induction vertices generalizing q with
  | nil => exact Nat.le_refl _
  | cons w vertices ih =>
    have first : (q.reach n w).frontier.length ≤ q.frontier.length + 1 := by
      unfold Queue.reach
      split <;> simp
    have later := ih (q := q.reach n w)
    show ((q.reach n w).reachAll n vertices).frontier.length ≤ _
    rw [List.length_cons]
    omega

/-- A label below the next level is an old one, and one on the next level is old or queued. -/
theorem Queue.listed_reachAll {vertices : List V} {k : Nat} (labelled : (q.reachAll n vertices).label v = some k) :
    q.label v = some k ∨ (v, k) ∈ (q.reachAll n vertices).frontier := by
  induction vertices generalizing q with
  | nil => exact .inl labelled
  | cons w vertices ih =>
    rcases ih labelled with before | queued
    · rw [Queue.label_reach] at before
      by_cases reached : w = v ∧ (q.label w).all (fun existing => n < existing) = true
      · rw [if_pos reached] at before
        right
        have queued : (v, k) ∈ (q.reach n w).frontier := by
          unfold Queue.reach
          rw [if_pos reached.2, before, reached.1]
          simp
        show (v, k) ∈ ((q.reach n w).reachAll n vertices).frontier
        exact Queue.frontier_reachAll queued
      · rw [if_neg reached] at before
        exact .inl before
    · exact .inr queued

theorem Covered.expand {vertices : List V} (covered : Covered joined bound done ⟨(v, n) :: rest, label⟩)
    (all : ∀ w, joined v w → w ∈ vertices) :
    Covered joined bound (done ++ [(v, n)]) (Queue.reachAll ⟨rest, label⟩ (n + 1) vertices) where
  listed := by
    intro w k labelled near
    rcases Queue.listed_reachAll labelled with before | queued
    · have member := covered.listed w k before near
      simp only [List.mem_append, List.mem_cons] at member ⊢
      rcases member with earlier | here | queued
      · exact .inl (.inl earlier)
      · exact .inl (.inr (.inl here))
      · exact .inr (Queue.frontier_reachAll queued)
    · exact List.mem_append_right _ queued
  closed := by
    intro p member w edge
    rcases List.mem_append.mp member with earlier | here
    · rcases covered.closed p earlier w edge with ⟨k, labelled, less⟩
      rcases Queue.reachAll_le (q := ⟨rest, label⟩) (n := n + 1) vertices labelled with ⟨k', labelled', less'⟩
      exact ⟨k', labelled', by omega⟩
    · rw [List.mem_singleton.mp here] at edge ⊢
      exact Queue.reachAll_mem (all w edge)

end

/-- Once the queue is empty the expanded vertices are those nearer than the bound, each with its distance. -/
theorem Swept.done_iff (swept : Swept seeds joined level done ⟨[], label⟩)
    (covered : Covered joined bound done ⟨[], label⟩) (below : ∀ p ∈ done, p.2 < bound) : (v, n) ∈ done ↔ n < bound ∧ Distance seeds joined v n := by
  have levels : Levels seeds joined bound label := by
    refine ⟨swept.seeded, swept.sound, ?_⟩
    intro v w n labelled near edge
    have member : (v, n) ∈ done := by simpa using covered.listed v n labelled near
    exact covered.closed (v, n) member w edge
  constructor
  · intro member
    have near := below (v, n) member
    have labelled : label v = some n := swept.labelled (v, n) (List.mem_append_left _ member)
    exact ⟨near, (levels.distance_iff (Nat.le_of_lt near)).mp labelled⟩
  · rintro ⟨near, distance⟩
    have labelled := (levels.distance_iff (Nat.le_of_lt near)).mpr distance
    simpa using covered.listed v n labelled near

end Lib
