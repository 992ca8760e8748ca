import Mathlib.Data.List.Basic

/-! A queue of work under lease. Tasks do not wait for each other, so a queue is told task by task. -/

namespace Lib

inductive Stage where
  | waiting (due : Nat)
  | leased
  | done
  | dead
deriving DecidableEq

/-- Where a task stands, and how often it was leased since it was accepted or last revived. -/
structure Task where
  stage : Stage
  attempts : Nat
deriving DecidableEq

inductive TaskAction where
  | accept
  | lease
  | complete
  | fail
  | release
  | revive
deriving DecidableEq

/-- After how many attempts a failing task is given up, how one more attempt is counted, and how long a task waits
    after it failed. -/
structure RetryPolicy where
  attempts : Nat
  count : Nat → Nat
  backoff : Nat → Nat

abbrev TaskHistory : Type := List (Nat × TaskAction)

namespace RetryPolicy

/-- What an action makes of a task; there is none before it is accepted. -/
inductive Acts (policy : RetryPolicy) (now : Nat) : TaskAction → Option Task → Task → Prop where
  | accept : Acts policy now .accept none ⟨.waiting 0, 0⟩
  | lease {due attempts : Nat} (ready : due ≤ now) :
      Acts policy now .lease (some ⟨.waiting due, attempts⟩) ⟨.leased, policy.count attempts⟩
  | complete {attempts : Nat} : Acts policy now .complete (some ⟨.leased, attempts⟩) ⟨.done, attempts⟩
  | retry {attempts : Nat} (left : attempts < policy.attempts) :
      Acts policy now .fail (some ⟨.leased, attempts⟩) ⟨.waiting (now + policy.backoff attempts), attempts⟩
  | abandon {attempts : Nat} (spent : policy.attempts ≤ attempts) :
      Acts policy now .fail (some ⟨.leased, attempts⟩) ⟨.dead, attempts⟩
  | release {attempts : Nat} : Acts policy now .release (some ⟨.leased, attempts⟩) ⟨.waiting 0, attempts⟩
  | revive {attempts : Nat} : Acts policy now .revive (some ⟨.dead, attempts⟩) ⟨.waiting 0, 0⟩

inductive Path (policy : RetryPolicy) : Option Task → TaskHistory → Option Task → Prop where
  | stay {task : Option Task} : Path policy task [] task
  | act {now : Nat} {action : TaskAction} {task last : Option Task} {task' : Task} {history : TaskHistory}
      (acts : policy.Acts now action task task') (rest : Path policy (some task') history last) :
      Path policy task ((now, action) :: history) last

def Takes (policy : RetryPolicy) (now : Nat) (task : Option Task) (action : Option TaskAction)
    (task' : Option Task) : Prop :=
  match action with
  | none => task' = task
  | some action => ∃ next, policy.Acts now action task next ∧ task' = some next

variable {policy : RetryPolicy} {now : Nat} {task middle last : Option Task} {history before after : TaskHistory}

theorem Path.single {action : TaskAction} {task' : Task} (acts : policy.Acts now action task task') :
    policy.Path task [(now, action)] (some task') := .act acts .stay

theorem Path.append (left : policy.Path task before middle) (right : policy.Path middle after last) :
    policy.Path task (before ++ after) last := by
  induction left with
  | stay => exact right
  | act acts _ ih => exact .act acts (ih right)

theorem Path.takes {action : Option TaskAction} (path : policy.Path task history middle)
    (taken : policy.Takes now middle action last) :
    policy.Path task (history ++ (action.map fun action => (now, action)).toList) last := by
  cases action with
  | none =>
    cases taken
    simpa using path
  | some action =>
    obtain ⟨next, acts, rfl⟩ := taken
    exact path.append (.single acts)

theorem Path.split (path : policy.Path task (before ++ after) last) :
    ∃ middle, policy.Path task before middle ∧ policy.Path middle after last := by
  induction before generalizing task with
  | nil => exact ⟨task, .stay, path⟩
  | cons _ _ ih =>
    cases path with
    | act acts rest =>
      obtain ⟨middle, left, right⟩ := ih rest
      exact ⟨middle, .act acts left, right⟩

theorem Path.done {attempts : Nat} (path : policy.Path (some ⟨.done, attempts⟩) history last) :
    history = [] ∧ last = some ⟨.done, attempts⟩ := by
  cases path with
  | stay => exact ⟨rfl, rfl⟩
  | act acts _ => cases acts

theorem Path.complete_last (path : policy.Path task (before ++ (now, .complete) :: after) last) :
    after = [] ∧ ∃ attempts, last = some ⟨.done, attempts⟩ := by
  obtain ⟨middle, _, right⟩ := path.split
  cases right with
  | act acts rest =>
    cases acts
    obtain ⟨none, same⟩ := rest.done
    exact ⟨none, _, same⟩

theorem Path.accepted {task' : Task} (path : policy.Path none history (some task')) :
    ∃ entry ∈ history, entry.2 = .accept := by
  cases path with
  | act acts _ =>
    cases acts
    exact ⟨_, List.mem_cons_self, rfl⟩

theorem Path.held {attempts : Nat} (path : policy.Path (some ⟨.leased, attempts⟩) history last)
    (kept : ∀ entry ∈ history, entry.2 ≠ .fail ∧ entry.2 ≠ .release) :
    last = some ⟨.leased, attempts⟩ ∨ last = some ⟨.done, attempts⟩ := by
  cases path with
  | stay => exact .inl rfl
  | act acts rest =>
    have first := kept _ List.mem_cons_self
    cases acts with
    | complete => exact .inr rest.done.2
    | retry => exact absurd rfl first.1
    | abandon => exact absurd rfl first.1
    | release => exact absurd rfl first.2

theorem Path.waits {due attempts : Nat} (path : policy.Path (some ⟨.waiting due, attempts⟩) history last)
    (unleased : ∀ entry ∈ history, entry.2 ≠ .lease) : last = some ⟨.waiting due, attempts⟩ := by
  cases path with
  | stay => rfl
  | act acts _ =>
    have first := unleased _ List.mem_cons_self
    cases acts
    exact absurd rfl first

/-- Between two leases of a task, the first one failed or was released. -/
theorem Path.leases_apart {now' : Nat} {between : TaskHistory}
    (path : policy.Path task (before ++ (now, .lease) :: (between ++ (now', .lease) :: after)) last) :
    ∃ entry ∈ between, entry.2 = .fail ∨ entry.2 = .release := by
  by_contra settled
  obtain ⟨middle, _, right⟩ := path.split
  cases right with
  | act acts rest =>
    cases acts
    obtain ⟨held, left, right⟩ := rest.split
    have kept := left.held fun entry member =>
      ⟨fun failed => settled ⟨entry, member, .inl failed⟩, fun released => settled ⟨entry, member, .inr released⟩⟩
    cases right with
    | act acts' _ =>
      rcases kept with rfl | rfl
      · cases acts'
      · cases acts'

def countAction (policy : RetryPolicy) (attempts : Nat) : TaskAction → Nat
  | .accept => 0
  | .revive => 0
  | .lease => policy.count attempts
  | .complete => attempts
  | .fail => attempts
  | .release => attempts

def tried (policy : RetryPolicy) (attempts : Nat) (history : TaskHistory) : Nat :=
  history.foldl (fun attempts entry => policy.countAction attempts entry.2) attempts

def attemptsOf (task : Option Task) : Nat := (task.map Task.attempts).getD 0

@[simp] theorem attemptsOf_none : attemptsOf none = 0 := rfl

@[simp] theorem attemptsOf_some {task : Task} : attemptsOf (some task) = task.attempts := rfl

theorem Path.attempts (path : policy.Path task history last) : attemptsOf last = policy.tried (attemptsOf task) history := by
  induction path with
  | stay => rfl
  | act acts _ ih =>
    rw [ih, tried, tried, List.foldl_cons]
    congr 1
    cases acts <;> rfl

/-- A failed task is not leased again before its wait is over, unless it is revived. -/
theorem Path.backoff {now' : Nat} {between : TaskHistory}
    (path : policy.Path task (before ++ (now, .fail) :: (between ++ (now', .lease) :: after)) last)
    (first : ∀ entry ∈ between, entry.2 ≠ .lease ∧ entry.2 ≠ .revive) :
    now + policy.backoff (policy.tried (attemptsOf task) before) ≤ now' := by
  obtain ⟨middle, left, right⟩ := path.split
  have attempts := left.attempts
  cases right with
  | act acts rest =>
    cases acts with
    | retry =>
      cases between with
      | nil =>
        cases rest with
        | act acts' _ =>
          cases acts' with
          | lease ready =>
            rw [← attempts]
            exact ready
      | cons entry between =>
        have other := first entry List.mem_cons_self
        cases rest with
        | act acts' _ =>
          cases acts' with
          | lease => exact absurd rfl other.1
    | abandon =>
      cases between with
      | nil =>
        cases rest with
        | act acts' _ => cases acts'
      | cons entry between =>
        have other := first entry List.mem_cons_self
        cases rest with
        | act acts' _ =>
          cases acts' with
          | revive => exact absurd rfl other.2

def leases (history : TaskHistory) : Nat := history.countP fun entry => entry.2 = .lease

def starts (history : TaskHistory) : Nat := history.countP fun entry => entry.2 = .accept ∨ entry.2 = .revive

/-- The leases that one action allows beyond those of a start: another one where a spent lease is released, and a
    start's where the count of attempts starts over. -/
def renews (policy : RetryPolicy) (attempts : Nat) : TaskAction → Nat
  | .release => if policy.attempts ≤ attempts then 1 else 0
  | .lease => if policy.count attempts ≤ attempts then policy.attempts else 0
  | .accept => 0
  | .complete => 0
  | .fail => 0
  | .revive => 0

def renewals (policy : RetryPolicy) (attempts : Nat) : TaskHistory → Nat
  | [] => 0
  | (_, action) :: rest => policy.renews attempts action + renewals policy (policy.countAction attempts action) rest

def Stage.credit (left : Nat) : Stage → Nat
  | .waiting _ => max left 1
  | .leased => left
  | .done => 0
  | .dead => 0

def credit (policy : RetryPolicy) (task : Option Task) : Nat :=
  (task.map fun task => Stage.credit (policy.attempts - task.attempts) task.stage).getD 0

@[simp] theorem credit_none : policy.credit none = 0 := rfl

@[simp] theorem credit_some {task : Task} :
    policy.credit (some task) = Stage.credit (policy.attempts - task.attempts) task.stage := rfl

theorem leases_cons {entry : Nat × TaskAction} : leases (entry :: history) =
    leases history + if entry.2 = .lease then 1 else 0 := by
  simp [leases, List.countP_cons]

theorem starts_cons {entry : Nat × TaskAction} : starts (entry :: history) =
    starts history + if entry.2 = .accept ∨ entry.2 = .revive then 1 else 0 := by
  simp [starts, List.countP_cons]

/-- The leases that the rules allow a task over a history: those it has left, the attempts of each start, and the
    renewals. -/
def allows (policy : RetryPolicy) (task : Option Task) (history : TaskHistory) : Nat :=
  policy.credit task + max policy.attempts 1 * starts history + policy.renewals (attemptsOf task) history

theorem Path.leases_le (path : policy.Path task history last) :
    leases history + policy.credit last ≤ policy.allows task history := by
  unfold allows
  induction path with
  | stay => simp [leases, starts, renewals]
  | act acts _ ih =>
    rw [leases_cons, starts_cons]
    simp only [renewals]
    rw [attemptsOf_some] at ih
    cases acts with
    | accept =>
      simp [Stage.credit, renews, countAction, Nat.mul_add] at ih ⊢
      omega
    | lease =>
      rw [attemptsOf_some]
      simp [Stage.credit, renews, countAction] at ih ⊢
      split <;> omega
    | complete =>
      simp [Stage.credit, renews, countAction] at ih ⊢
      omega
    | retry left =>
      simp [Stage.credit, renews, countAction] at ih ⊢
      omega
    | abandon spent =>
      simp [Stage.credit, renews, countAction] at ih ⊢
      omega
    | release =>
      rw [attemptsOf_some]
      simp [Stage.credit, renews, countAction] at ih ⊢
      split <;> omega
    | revive =>
      simp [Stage.credit, renews, countAction, Nat.mul_add] at ih ⊢
      omega

end RetryPolicy

end Lib
