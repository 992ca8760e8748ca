import Hangar.Ingestion.Worker
import Mathlib.Data.List.Flatten

namespace Hangar

open Lib

def Op.worked : Op → Bool
  | .ingestion .claimNextIngestionJob => true
  | .ingestion (.processClaimedIngestionJob _ _) => true
  | .ingestion (.failClaimedIngestionJob _ _) => true
  | _ => false

def WorkerAction (action : TaskAction) : Prop := action = .lease ∨ action = .complete ∨ action = .fail

/-- How often the worker can still lease a task. The count of attempts wraps around, and then starts over. -/
def leasesLeft (task : Task) : Nat :=
  match task.stage with
  | .waiting _ =>
    if task.attempts < maxIngestionAttempts then maxIngestionAttempts - task.attempts
    else if task.attempts + 1 < 2 ^ 32 then 1
    else maxIngestionAttempts + 1
  | .leased => maxIngestionAttempts - task.attempts
  | .done => 0
  | .dead => 0

/-- No process is down or starting, and no request is answered. -/
def Unattended (trace : List (Process × Option Event)) : Prop :=
  ∀ q ∈ trace, ∃ event, q.2 = some event ∧ event.op.requested = false

def Store.allDue (s : Store) (now : Nat) : Bool :=
  (Table.rows s.ingestion.jobs).all fun job =>
    match job.stage with
    | .waiting due => due ≤ now
    | _ => true

/-- The worker asks for a job when every wait is over. -/
def claimsWhenDue (q : Process × Option Event) : Bool :=
  q.2.any fun event => event.op.isClaim && q.1.server.store.allDue event.env.now

variable {x : Externals} {engines : SearchEngines} {p p' : Process} {event : Event} {id : Uuid}
  {trace : List (Process × Option Event)}

theorem leasesLeft_le {task : Task} : leasesLeft task ≤ maxIngestionAttempts + 1 := by
  unfold leasesLeft maxIngestionAttempts
  split
  · split
    · omega
    · split <;> omega
  all_goals omega

theorem leasesLeft_waiting {due attempts : Nat} : leasesLeft ⟨.waiting due, attempts⟩ =
    if attempts < 3 then 3 - attempts else if attempts + 1 < 2 ^ 32 then 1 else 4 := rfl

theorem leasesLeft_acts {now : Nat} {action : TaskAction} {task task' : Task}
    (acts : ingestionPolicy.Acts now action (some task) task') (worked : WorkerAction action) :
    (if action = .lease then 1 else 0) + leasesLeft task' ≤ leasesLeft task := by
  cases acts with
  | @lease due attempts ready =>
    have leased : leasesLeft ⟨.leased, ingestionPolicy.count attempts⟩ = 3 - (attempts + 1) % 2 ^ 32 := rfl
    rw [leasesLeft_waiting, leased, if_pos rfl]
    split
    · omega
    · split <;> omega
  | complete => simp [leasesLeft]
  | retry left =>
    simp only [ingestionPolicy, maxIngestionAttempts] at left
    simp [leasesLeft, maxIngestionAttempts, left]
  | abandon => simp [leasesLeft]
  | release => simp [WorkerAction] at worked
  | revive => simp [WorkerAction] at worked

/-- What the worker alone does to a task never leases it more often than it has left. -/
theorem path_leases_le {task : Task} {last : Option Task} {history : TaskHistory}
    (path : ingestionPolicy.Path (some task) history last) (worked : ∀ entry ∈ history, WorkerAction entry.2) :
    RetryPolicy.leases history ≤ leasesLeft task := by
  induction history generalizing task with
  | nil => simp [RetryPolicy.leases]
  | cons entry history ih =>
    cases path with
    | act acts rest =>
      have first := leasesLeft_acts acts (worked _ List.mem_cons_self)
      have later := ih rest fun entry member => worked entry (List.mem_cons_of_mem _ member)
      rw [RetryPolicy.leases_cons]
      dsimp only
      omega

section
variable {label : Option Event}

theorem Process.Moves.unattended (moves : Process.Moves x engines p (some event) p') (serving : p.phase.serving = true)
    (alone : event.op.requested = false) : p'.phase.serving = true ∧ event.op.worked = true := by
  cases moves with
  | answers _ _ requested =>
    rw [requested] at alone
    cases alone
  | proceeds =>
    obtain ⟨server, phase⟩ := p
    cases phase with
    | down => cases serving
    | starting => cases serving
    | claiming =>
      refine ⟨?_, rfl⟩
      simp only [Process.proceed, Phase.after, Phase.ofClaims]
      split <;> rfl
    | processing claimed =>
      refine ⟨?_, rfl⟩
      simp only [Process.proceed, Phase.after]
      split <;> rfl
    | failing => exact ⟨rfl, rfl⟩

theorem unattended_serving (run : Run (Process.Moves x engines) p trace p') (unattended : Unattended trace)
    (serving : p.phase.serving = true) :
    p'.phase.serving = true ∧ ∀ q ∈ trace, ∃ event, q.2 = some event ∧ event.op.worked = true := by
  induction run with
  | start => exact ⟨serving, fun _ member => absurd member List.not_mem_nil⟩
  | @next trace q q' label _ moves ih =>
    have own : ∃ event, label = some event ∧ event.op.requested = false :=
      unattended (q, label) (List.mem_append_right _ List.mem_cons_self)
    obtain ⟨event, rfl, alone⟩ := own
    obtain ⟨before, works⟩ := ih fun r member => unattended r (List.mem_append_left _ member)
    obtain ⟨after, worked⟩ := moves.unattended before alone
    refine ⟨after, fun r member => ?_⟩
    rcases List.mem_append.mp member with earlier | last
    · exact works r earlier
    · rw [List.mem_singleton.mp last]
      exact ⟨event, rfl, worked⟩

theorem worked_action {env : Env} {s : Store} {op : Op} {action : TaskAction} (worked : op.worked = true)
    (acts : op.action x env s id = some action) : WorkerAction action := by
  have single {c : Prop} [Decidable c] {a : TaskAction} (worker : WorkerAction a)
      (told : (if c then some a else none) = some action) : WorkerAction action := by
    split at told
    · cases told
      exact worker
    · cases told
  cases op with
  | ingestion call =>
    cases call with
    | claimNextIngestionJob =>
      simp only [Op.action] at acts
      obtain ⟨_, claimed, _, told⟩ := told_eq_some acts
      cases claimed with
      | none => cases told
      | some claimed => exact single (.inl rfl) told
    | processClaimedIngestionJob claimed fault =>
      simp only [Op.action] at acts
      exact single (.inr (.inl rfl)) acts
    | failClaimedIngestionJob jobId error =>
      simp only [Op.action] at acts
      obtain ⟨_, _, _, told⟩ := told_eq_some acts
      exact single (.inr (.inr rfl)) told
    | _ => cases worked
  | _ => cases worked

theorem mem_storeCalls {q : Server × Event} : q ∈ storeCalls trace ↔
    ∃ r ∈ trace, r.2 = some q.2 ∧ r.1.server = q.1 := by
  obtain ⟨server, event⟩ := q
  simp only [storeCalls, List.mem_filterMap, Option.map_eq_some_iff, Prod.mk.injEq]
  constructor
  · intro listed
    obtain ⟨r, member, _, called, rfl, rfl⟩ := listed
    exact ⟨r, member, called, rfl⟩
  · intro listed
    obtain ⟨r, member, called, rfl⟩ := listed
    exact ⟨r, member, event, called, rfl, rfl⟩

end

section
variable (run : Run (Process.Moves x engines) p trace p') (unattended : Unattended trace)
  (serving : p.phase.serving = true)
include run unattended serving

theorem unattended_history : ∀ entry ∈ jobHistory x (storeCalls trace) id, WorkerAction entry.2 := by
  intro entry member
  obtain ⟨q, listed, acts, _⟩ := mem_jobHistory.mp member
  obtain ⟨r, step, called, _⟩ := mem_storeCalls.mp listed
  obtain ⟨event, calls, worked⟩ := (unattended_serving run unattended serving).2 r step
  rw [calls] at called
  cases called
  exact worked_action worked acts

variable (entitled : p.Entitled) (valid : IngestionIntegrity x p.server.store.ingestion)
include entitled valid

theorem unattended_stored (stored : id ∈ p'.server.store.ingestion.jobs) : id ∈ p.server.store.ingestion.jobs := by
  by_contra absent
  have path : ingestionPolicy.Path (p.server.store.task id) (jobHistory x (storeCalls trace) id)
      (p'.server.store.task id) := run_path (Process.calls run entitled).2 valid
  have before : p.server.store.task id = none := by
    unfold Store.task
    rw [Std.ExtTreeMap.getElem?_eq_none absent]
    rfl
  have after : p'.server.store.task id = some (p'.server.store.ingestion.jobs[id]).task := by
    unfold Store.task
    rw [Std.ExtTreeMap.getElem?_eq_some_getElem stored]
    rfl
  rw [before, after] at path
  obtain ⟨entry, member, accepted⟩ := path.accepted
  have worked : WorkerAction entry.2 := unattended_history run unattended serving entry member
  simp [WorkerAction, accepted] at worked

/-- An unattended worker claims each job at most four times. -/
theorem unattended_claims_le :
    (claimsOf (storeCalls trace)).length ≤ (maxIngestionAttempts + 1) * p.server.store.ingestion.jobs.size := by
  have calls := (Process.calls run entitled).2
  have among (q : Server × Event) (member : q ∈ storeCalls trace) (claimed : ClaimedIngestionJob)
      (claim : claimed ∈ q.2.op.claims q.2.env q.1.store) :
      claimed.job.id ∈ p.server.store.ingestion.jobs.keys := by
    have here : IngestionIntegrity x q.1.store.ingestion := by
      obtain ⟨before, after, split⟩ := List.append_of_mem member
      rw [split] at calls
      exact run_integrity calls.upto valid
    obtain ⟨job, found, _⟩ := Op.claims_hold here claim
    have stored : claimed.job.id ∈ q.1.store.ingestion.jobs :=
      Std.ExtTreeMap.mem_iff_isSome_getElem?.mpr (by rw [found]; rfl)
    exact Std.ExtTreeMap.mem_keys.mpr
      (unattended_stored run unattended serving entitled valid (stored_throughout calls valid member stored))
  have each (id : Uuid) (member : id ∈ p.server.store.ingestion.jobs.keys) :
      RetryPolicy.leases (jobHistory x (storeCalls trace) id) ≤ maxIngestionAttempts + 1 := by
    have stored := Std.ExtTreeMap.mem_keys.mp member
    have path : ingestionPolicy.Path (p.server.store.task id) (jobHistory x (storeCalls trace) id)
        (p'.server.store.task id) := run_path calls valid
    have before : p.server.store.task id = some (p.server.store.ingestion.jobs[id]).task := by
      unfold Store.task
      rw [Std.ExtTreeMap.getElem?_eq_some_getElem stored]
      rfl
    rw [before] at path
    exact (path_leases_le path (unattended_history run unattended serving)).trans leasesLeft_le
  calc (claimsOf (storeCalls trace)).length
      ≤ (p.server.store.ingestion.jobs.keys.map fun id => RetryPolicy.leases (jobHistory x (storeCalls trace) id)).sum :=
        claimsOf_length_le among
    _ ≤ p.server.store.ingestion.jobs.keys.length • (maxIngestionAttempts + 1) := by
        rw [← List.length_map (f := fun id => RetryPolicy.leases (jobHistory x (storeCalls trace) id))]
        apply List.sum_le_card_nsmul
        intro count member
        obtain ⟨id, listed, rfl⟩ := List.mem_map.mp member
        exact each id listed
    _ = (maxIngestionAttempts + 1) * p.server.store.ingestion.jobs.size := by
        rw [Std.ExtTreeMap.length_keys]
        exact Nat.mul_comm _ _

end

/-- Nothing waits to be claimed, and the worker looks for it. -/
structure Process.Drained (p : Process) : Prop where
  claiming : p.phase = .claiming
  settled : ∀ id due attempts, p.server.store.task id ≠ some ⟨.waiting due, attempts⟩

theorem claimJob_takes {env : Env} {s : Store} {task' : Option Task}
    (takes : ingestionPolicy.Takes env.now (s.task id) (claimJob.action x env s id) task')
    (settled : ∀ due attempts, s.task id ≠ some ⟨.waiting due, attempts⟩) :
    claimJob.action x env s id = none ∧ task' = s.task id := by
  cases acts : claimJob.action x env s id with
  | none =>
    rw [acts] at takes
    exact ⟨rfl, takes⟩
  | some action =>
    exfalso
    have leases : action = .lease := by
      simp only [claimJob, Op.action] at acts
      obtain ⟨_, claimed, _, told⟩ := told_eq_some acts
      cases claimed with
      | none => cases told
      | some claimed =>
        rw [Option.bind_some] at told
        split at told
        · cases told
          rfl
        · cases told
    rw [acts, leases] at takes
    obtain ⟨next, leased, _⟩ := takes
    generalize s.task id = task at leased settled
    cases leased
    exact settled _ _ rfl

/-- An unattended worker finds nothing more to do once nothing waits. -/
theorem Process.Drained.next (drained : p.Drained) (valid : IngestionIntegrity x p.server.store.ingestion)
    (entitled : p.Entitled) (moves : Process.Moves x engines p (some event) p') (alone : event.op.requested = false) :
    p'.Drained := by
  have taken := moves.step entitled
  cases moves with
  | answers _ _ requested =>
    rw [requested] at alone
    cases alone
  | @proceeds env provider faults external fresh =>
    obtain ⟨server, phase⟩ := p
    have claiming : phase = .claiming := drained.claiming
    subst claiming
    have quiet (id : Uuid) := claimJob_takes (@Step.takes x engines id _ _ _ taken valid) (drained.settled id)
    have nothing : claimJob.claims env server.store = [] := by
      rcases @Op.claims_le_one env server.store claimJob with none | ⟨claimed, only⟩
      · exact none
      · have acts : claimJob.action x env server.store claimed.job.id = some .lease :=
          action_eq_lease.mpr ⟨claimed, by simp [only], rfl⟩
        have idle : claimJob.action x env server.store claimed.job.id = none := (quiet claimed.job.id).1
        rw [idle] at acts
        cases acts
    constructor
    · change Phase.ofClaims (claimJob.claims env server.store) = .claiming
      rw [nothing]
      rfl
    · intro id due attempts waiting
      rw [(quiet id).2] at waiting
      exact drained.settled id due attempts waiting

section
variable (run : Run (Process.Moves x engines) p trace p') (unattended : Unattended trace) (entitled : p.Entitled)
  (valid : IngestionIntegrity x p.server.store.ingestion)
include run unattended entitled valid

theorem drained_onward (drained : p.Drained) : p'.Drained := by
  have kept := run.preserves (I := fun q => q.Drained ∧ q.Entitled ∧ IngestionIntegrity x q.server.store.ingestion)
    ⟨drained, entitled, valid⟩ fun q member q' holds moves => ?_
  · exact kept.1
  · obtain ⟨drained, entitled, valid⟩ := holds
    obtain ⟨event, called, alone⟩ := unattended q member
    rw [called] at moves
    exact ⟨drained.next valid entitled moves alone, moves.entitled entitled, (moves.step entitled).integrity valid⟩

end

theorem Store.allDue_waiting {s : Store} {now due attempts : Nat} (elapsed : s.allDue now = true)
    (waiting : s.task id = some ⟨.waiting due, attempts⟩) : due ≤ now := by
  obtain ⟨job, found, same⟩ := Option.map_eq_some_iff.mp waiting
  have stage : job.stage = .waiting due := congrArg Task.stage same
  have each := List.all_eq_true.mp elapsed job (Table.mem_rows.mpr ⟨id, found⟩)
  rw [stage] at each
  simpa using each

theorem Phase.claiming_of_call {phase : Phase} {provider : EmbeddingProvider} {faults : Nat → Option Fault}
    (call : phase.call provider faults = claimJob) : phase = .claiming := by
  cases phase with
  | claiming => rfl
  | starting startup => cases startup <;> cases call
  | _ => cases call

/-- A claim call that comes when every wait is over, and finds nothing, finds the queue drained. -/
theorem claimsWhenDue_drained {q : Process × Option Event} (due : claimsWhenDue q = true)
    (moves : Process.Moves x engines q.1 q.2 p') (valid : IngestionIntegrity x q.1.server.store.ingestion)
    (nothing : ∀ event, q.2 = some event → event.op.claims event.env q.1.server.store = []) : q.1.Drained := by
  obtain ⟨p, label⟩ := q
  obtain ⟨event, rfl, asked⟩ := Option.any_eq_true _ _ |>.mp due
  obtain ⟨call, elapsed⟩ := Bool.and_eq_true _ _ |>.mp asked
  obtain ⟨env, op⟩ := event
  have op := Op.isClaim_iff.mp call
  dsimp only at op
  subst op
  constructor
  · dsimp only at moves
    generalize same : (⟨env, .ingestion .claimNextIngestionJob⟩ : Event) = event at moves
    cases moves with
    | answers _ _ requested =>
      subst same
      cases requested
    | proceeds => exact Phase.claiming_of_call (congrArg Event.op same).symm
  · intro id due attempts waiting
    obtain ⟨claimed, handed, _⟩ := claims_due valid waiting (Store.allDue_waiting elapsed waiting)
    have none : claimJob.claims env p.server.store = [] := nothing _ rfl
    change claimJob.claims env p.server.store = [claimed] at handed
    rw [none] at handed
    cases handed

theorem length_le_claims {calls : List (Process × Option Event)}
    (handed : ∀ q ∈ calls, ∃ event, q.2 = some event ∧ event.op.claims event.env q.1.server.store ≠ []) :
    calls.length ≤ (claimsOf (storeCalls calls)).length := by
  induction calls with
  | nil => simp
  | cons q calls ih =>
    have rest := ih fun r member => handed r (List.mem_cons_of_mem _ member)
    obtain ⟨event, called, some⟩ := handed q List.mem_cons_self
    have first := List.length_pos_iff.mpr some
    have split : (claimsOf (storeCalls (q :: calls))).length =
        (event.op.claims event.env q.1.server.store).length + (claimsOf (storeCalls calls)).length := by
      simp [storeCalls, claimsOf, called]
    rw [split, List.length_cons]
    omega

/-- The worker drains the queue: while no process starts and no request is answered, four claim calls for each stored
    job and one more, made when every wait is over, leave no job that has not succeeded or been given up. -/
theorem worker_drains {provider : EmbeddingProvider} {earlier : List (Process × Option Event)}
    (before : Run (Process.Moves x engines) (Process.initial provider) earlier p) (serving : p.phase.serving = true)
    (run : Run (Process.Moves x engines) p trace p') (unattended : Unattended trace)
    (enough : (maxIngestionAttempts + 1) * p.server.store.ingestion.jobs.size < trace.countP claimsWhenDue) :
    p'.phase = .claiming ∧ ∀ (id : Uuid) job, p'.server.store.ingestion.jobs[id]? = some job →
      job.status = .succeeded ∨ job.status = .deadLetter ∨ Unrecorded (earlier ++ trace) id := by
  obtain ⟨entitled, _⟩ := Process.accounts before
  have reachable : Reachable x engines p.server := ⟨provider, _, process_refines_server before⟩
  have valid := reachable.integrity
  have idle : ∃ q ∈ trace.filter claimsWhenDue, ∀ event, q.2 = some event →
      event.op.claims event.env q.1.server.store = [] := by
    by_contra busy
    push Not at busy
    have handed := length_le_claims busy
    have among : (claimsOf (storeCalls (trace.filter claimsWhenDue))).length ≤ (claimsOf (storeCalls trace)).length :=
      ((List.filter_sublist.filterMap _).flatMap _).length_le
    have few := unattended_claims_le run unattended serving entitled valid
    rw [List.countP_eq_length_filter] at enough
    omega
  obtain ⟨q, listed, nothing⟩ := idle
  obtain ⟨member, due⟩ := List.mem_filter.mp listed
  obtain ⟨sooner, later, split⟩ := List.append_of_mem member
  have drained : p'.Drained := by
    rw [split] at run
    have upto := run.upto
    have here := Process.calls upto entitled
    obtain ⟨after, moves⟩ := run.taken (List.mem_append_right _ List.mem_cons_self)
    have validHere := run_integrity here.2 valid
    have drained : q.1.Drained := claimsWhenDue_drained due moves validHere nothing
    refine drained_onward run.onward (fun r listed => unattended r ?_) here.1 validHere drained
    rw [split]
    exact List.mem_append_right _ listed
  refine ⟨drained.claiming, fun id job found => ?_⟩
  have whole := before.append run
  have recovered : p'.phase.recovered = true := by rw [drained.claiming]; rfl
  cases status : job.status with
  | succeeded => exact .inl rfl
  | deadLetter => exact .inr (.inl rfl)
  | processing =>
    rcases worker_holds_processing whole recovered found status with held | unrecorded
    · rw [drained.claiming] at held
      cases held
    · exact .inr (.inr unrecorded)
  | queued =>
    exact absurd (by simp [Store.task, found, IngestionJob.task, IngestionJob.stage, status]) (drained.settled id 0 job.attempts)
  | retryWait =>
    exact absurd (by simp [Store.task, found, IngestionJob.task, IngestionJob.stage, status])
      (drained.settled id (job.nextAttemptAtUnixMs.getD 0) job.attempts)

def acceptedTurns : List Turn := claimedTurns.dropLast

def acceptedProcess : Process := takeTurns sample noHits (Process.initial .hashingV1) 0 acceptedTurns

/-- The worker claims the document, processes it, and asks for more. -/
def drainingTurns : List Turn :=
  [.proceed 8 0, .proceed 9 8, .proceed 10 0, .proceed 11 0, .proceed 12 0, .proceed 13 0]

def drainedProcess : Process := takeTurns sample noHits acceptedProcess 4 drainingTurns

theorem worker_drains_accepted : drainedProcess.phase = .claiming ∧
    ∀ (id : Uuid) job, drainedProcess.server.store.ingestion.jobs[id]? = some job →
      job.status = .succeeded ∨ job.status = .deadLetter ∨
        Unrecorded (turnTrace sample noHits (Process.initial .hashingV1) 0 acceptedTurns ++
          turnTrace sample noHits acceptedProcess 4 drainingTurns) id := by
  have facts : TurnsLegal sample noHits (Process.initial .hashingV1) 0 acceptedTurns ∧ acceptedProcess.phase.serving = true ∧
      TurnsLegal sample noHits acceptedProcess 4 drainingTurns ∧
      (∀ q ∈ turnTrace sample noHits acceptedProcess 4 drainingTurns,
        q.2.any (fun event => !event.op.requested) = true) ∧
      (maxIngestionAttempts + 1) * acceptedProcess.server.store.ingestion.jobs.size <
        (turnTrace sample noHits acceptedProcess 4 drainingTurns).countP claimsWhenDue := by
    decide +kernel
  obtain ⟨accepted, serving, draining, alone, enough⟩ := facts
  refine worker_drains (turnTrace_run accepted) serving (turnTrace_run draining) (fun q member => ?_) enough
  obtain ⟨event, called, unrequested⟩ := Option.any_eq_true _ _ |>.mp (alone q member)
  exact ⟨event, called, by simpa using unrequested⟩

end Hangar
