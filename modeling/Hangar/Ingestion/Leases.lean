import Hangar.Ingestion.WorkQueue
import Mathlib.Algebra.Order.BigOperators.Group.List
import Mathlib.Algebra.Ring.Nat

namespace Hangar

open Lib

def Event.Claims (event : Event) (s : Store) (id : Uuid) : Prop :=
  ∃ claimed ∈ event.op.claims event.env s, claimed.job.id = id

def claimsOf (trace : List (Server × Event)) : List ClaimedIngestionJob :=
  trace.flatMap fun p => p.2.op.claims p.2.env p.1.store

def actionAt (x : Externals) (p : Server × Event) (id : Uuid) : Option TaskAction :=
  p.2.op.action x p.2.env p.1.store id

variable {x : Externals} {engines : SearchEngines} {env : Env} {s : Store} {id : Uuid}
  {trace : List (Server × Event)} {p : Server × Event}

theorem told_ne {α : Type} {tell : α → Option TaskAction} {outcome : Result (Store × α)} {action : TaskAction}
    (never : ∀ result, tell result ≠ some action) : told tell outcome ≠ some action := by
  cases outcome with
  | error _ => simp [told]
  | ok result => exact never result.2

theorem told_eq_some {α : Type} {tell : α → Option TaskAction} {outcome : Result (Store × α)} {action : TaskAction}
    (acts : told tell outcome = some action) : ∃ s' result, outcome = .ok (s', result) ∧ tell result = some action := by
  cases outcome with
  | error _ => cases acts
  | ok result => exact ⟨result.1, result.2, rfl, acts⟩

theorem Op.claims_le_one {op : Op} : op.claims env s = [] ∨ ∃ claimed, op.claims env s = [claimed] := by
  unfold Op.claims
  split
  · split
    · exact .inr ⟨_, rfl⟩
    · exact .inl rfl
  · exact .inl rfl

theorem Op.claims_claim : (Op.ingestion .claimNextIngestionJob).claims env s =
    match claimNextIngestionJob env s with
    | .ok (_, some claimed) => [claimed]
    | _ => [] := rfl

/-- Exactly the calls that hand out a claim on a job lease it. -/
theorem action_eq_lease {op : Op} : op.action x env s id = some .lease ↔ Event.Claims ⟨env, op⟩ s id := by
  unfold Event.Claims
  have nothing (quiet : op.claims env s = []) (other : op.action x env s id ≠ some .lease) :
      op.action x env s id = some .lease ↔ ∃ claimed ∈ op.claims env s, claimed.job.id = id := by
    simp [quiet, other]
  have single {action : TaskAction} {c : Prop} [Decidable c] (other : action ≠ .lease) :
      (if c then some action else none) ≠ some TaskAction.lease := by
    split <;> simp [other]
  cases op with
  | ingestion call =>
    cases call with
    | claimNextIngestionJob =>
      simp only [Op.action, Op.claims_claim]
      cases claimNextIngestionJob env s with
      | error _ => simp [told]
      | ok result =>
        obtain ⟨s', _ | claimed⟩ := result <;> simp [told]
    | enqueueDocument new => exact nothing rfl (told_ne fun _ => single (by simp))
    | enqueueDocumentWithLimits new limits => exact nothing rfl (told_ne fun _ => single (by simp))
    | recoverIncompleteIngestionJobs => exact nothing rfl (told_ne fun _ => single (by simp))
    | processClaimedIngestionJob claimed fault => exact nothing rfl (single (by simp))
    | failClaimedIngestionJob jobId error => exact nothing rfl (told_ne fun _ => single (by simp))
    | retryDeadLetterIngestionJob key organizationId workspaceId =>
      refine nothing rfl (told_ne fun revived => ?_)
      cases revived with
      | none => simp
      | some job => exact single (by simp)
  | _ => exact nothing rfl (by simp [Op.action])

theorem actionAt_eq_lease : actionAt x p id = some .lease ↔ p.2.Claims p.1.store id := action_eq_lease

theorem jobHistory_append {later : List (Server × Event)} :
    jobHistory x (trace ++ later) id = jobHistory x trace id ++ jobHistory x later id := List.flatMap_append

theorem jobHistory_cons : jobHistory x (p :: trace) id =
    ((actionAt x p id).map fun action => (p.2.env.now, action)).toList ++ jobHistory x trace id := List.flatMap_cons

theorem jobHistory_of_action {action : TaskAction} (acts : actionAt x p id = some action) :
    jobHistory x (p :: trace) id = (p.2.env.now, action) :: jobHistory x trace id := by
  rw [jobHistory_cons, acts]
  rfl

theorem mem_jobHistory {entry : Nat × TaskAction} : entry ∈ jobHistory x trace id ↔
    ∃ p ∈ trace, actionAt x p id = some entry.2 ∧ p.2.env.now = entry.1 := by
  obtain ⟨now, action⟩ := entry
  simp only [jobHistory, List.mem_flatMap, Option.mem_toList, Option.map_eq_some_iff, Prod.mk.injEq]
  constructor
  · intro listed
    obtain ⟨p, member, _, acts, rfl, rfl⟩ := listed
    exact ⟨p, member, acts, rfl⟩
  · intro listed
    obtain ⟨p, member, acts, rfl⟩ := listed
    exact ⟨p, member, action, acts, rfl, rfl⟩

section
variable {provider : EmbeddingProvider} {server : Server} {before between after : List (Server × Event)}
  {q : Server × Event}

/-- No two attempts at a document overlap, and none follows its success: between two claims of a job the first attempt
    has failed or was recovered, and once a job has succeeded no call does anything to it. -/
theorem attempts_exclusive (run : Run (Step x engines) (Server.initial provider) trace server) (id : Uuid) :
    (∀ before p between q after, trace = before ++ p :: (between ++ q :: after) → p.2.Claims p.1.store id →
      q.2.Claims q.1.store id → ∃ r ∈ between, actionAt x r id = some .fail ∨ actionAt x r id = some .release) ∧
    ∀ before p after, trace = before ++ p :: after → actionAt x p id = some .complete →
      (∀ q ∈ after, actionAt x q id = none) ∧ server.store.jobSucceeded id = true := by
  have path := ingestion_refines_workQueue run id
  constructor
  · intro before p between q after split first second
    rw [split, jobHistory_append, jobHistory_of_action (actionAt_eq_lease.mpr first), jobHistory_append,
      jobHistory_of_action (actionAt_eq_lease.mpr second)] at path
    obtain ⟨entry, member, settled⟩ := path.leases_apart
    obtain ⟨r, listed, acts, _⟩ := mem_jobHistory.mp member
    refine ⟨r, listed, ?_⟩
    rw [acts]
    simpa using settled
  · intro before p after split completes
    rw [split, jobHistory_append, jobHistory_of_action completes] at path
    obtain ⟨quiet, attempts, last⟩ := path.complete_last
    constructor
    · intro q member
      cases acts : actionAt x q id with
      | none => rfl
      | some action =>
        have listed : (q.2.env.now, action) ∈ jobHistory x after id := mem_jobHistory.mpr ⟨q, member, acts, rfl⟩
        rw [quiet] at listed
        cases listed
    · obtain ⟨job, jobFound, same⟩ := Option.map_eq_some_iff.mp last
      have stage : job.stage = .done := congrArg Task.stage same
      unfold Store.jobSucceeded
      rw [jobFound]
      unfold IngestionJob.stage at stage
      cases status : job.status <;> simp_all

/-- A failed job is not claimed again before its back-off is over, unless it was dead-lettered and revived by hand. -/
theorem retries_back_off (run : Run (Step x engines) (Server.initial provider) trace server)
    (split : trace = before ++ p :: (between ++ q :: after)) (failed : actionAt x p id = some .fail)
    (claimed : q.2.Claims q.1.store id)
    (first : ∀ r ∈ between, actionAt x r id ≠ some .lease ∧ actionAt x r id ≠ some .revive) :
    p.2.env.now + retryBackoffMs (ingestionPolicy.tried 0 (jobHistory x before id)) ≤ q.2.env.now := by
  have path := ingestion_refines_workQueue run id
  rw [split, jobHistory_append, jobHistory_of_action failed, jobHistory_append,
    jobHistory_of_action (actionAt_eq_lease.mpr claimed)] at path
  apply path.backoff
  intro entry member
  obtain ⟨r, listed, acts, _⟩ := mem_jobHistory.mp member
  have other := first r listed
  rw [acts] at other
  simpa using other

end

theorem failingTrace_counts : (failingTrace.map fun p => (p.2.env.now, actionAt sample p (serialUuid 0))) =
    [(1, some .accept), (2, some .lease), (3, some .fail), (4, none), (1003, some .lease)] ∧
      (claimsOf failingTrace).length = 2 := by
  decide +kernel

theorem failingTrace_actions : ∃ a b c d e, failingTrace = [a, b, c, d, e] ∧
    [a, b, c, d, e].map (fun p => (p.2.env.now, actionAt sample p (serialUuid 0))) =
      [(1, some .accept), (2, some .lease), (3, some .fail), (4, none), (1003, some .lease)] :=
  ⟨_, _, _, _, _, rfl, failingTrace_counts.1⟩

theorem attempts_exclusive_failing : ∃ (before between after : List (Server × Event)) (p q : Server × Event),
    failingTrace = before ++ p :: (between ++ q :: after) ∧ p.2.Claims p.1.store (serialUuid 0) ∧
      q.2.Claims q.1.store (serialUuid 0) ∧ ∃ r ∈ between, actionAt sample r (serialUuid 0) = some .fail ∨
        actionAt sample r (serialUuid 0) = some .release := by
  obtain ⟨a, b, c, d, e, trace, acts⟩ := failingTrace_actions
  simp only [List.map_cons, List.map_nil, List.cons.injEq, Prod.mk.injEq, and_true] at acts
  obtain ⟨_, ⟨_, first⟩, _, _, _, second⟩ := acts
  have firstClaims := actionAt_eq_lease.mp first
  have secondClaims := actionAt_eq_lease.mp second
  exact ⟨[a], [c, d], [], b, e, trace, firstClaims, secondClaims,
    (attempts_exclusive failingTrace_run (serialUuid 0)).1 [a] b [c, d] e [] trace firstClaims secondClaims⟩

theorem retries_back_off_failing : ∃ p q : Server × Event, p.2.env.now = 3 ∧ q.2.env.now = 1003 ∧
    p.2.env.now + retryBackoffMs 1 ≤ q.2.env.now := by
  obtain ⟨a, b, c, d, e, trace, acts⟩ := failingTrace_actions
  simp only [List.map_cons, List.map_nil, List.cons.injEq, Prod.mk.injEq, and_true] at acts
  obtain ⟨⟨one, accepted⟩, ⟨two, leased⟩, ⟨three, failed⟩, ⟨_, early⟩, later, claimed⟩ := acts
  have tried : ingestionPolicy.tried 0 (jobHistory sample [a, b] (serialUuid 0)) = 1 := by
    rw [jobHistory_of_action accepted, jobHistory_of_action leased]
    rfl
  have split : failingTrace = [a, b] ++ c :: ([d] ++ e :: []) := trace
  have waits := retries_back_off failingTrace_run split failed (actionAt_eq_lease.mp claimed) (by simp [early])
  rw [tried] at waits
  exact ⟨c, e, three, later, waits⟩

theorem action_eq_accept {op : Op} (accepts : op.action x env s id = some .accept) : env.uuid 0 = id := by
  have single {action : TaskAction} {c : Prop} [Decidable c] (other : action ≠ .accept) :
      (if c then some action else none) ≠ some TaskAction.accept := by
    split <;> simp [other]
  have enqueued {new : NewDocument} {s' : Store} {receipt : IngestionReceipt}
      (run : enqueueDocument x env s new = .ok (s', receipt)) (accepts : receipt.accepts id = some .accept) :
      env.uuid 0 = id := by
    obtain ⟨_, ⟨_, _, _, _, _, _, _, rfl⟩ | ⟨_, _, _, rfl⟩⟩ := enqueueDocument_ok run
    · simp [IngestionReceipt.accepts] at accepts
    · simp only [IngestionReceipt.accepts, Bool.not_false, Bool.true_and, decide_eq_true_eq] at accepts
      split at accepts
      · assumption
      · cases accepts
  cases op with
  | ingestion call =>
    cases call with
    | enqueueDocument new =>
      simp only [Op.action] at accepts
      obtain ⟨s', receipt, run, accepted⟩ := told_eq_some accepts
      exact enqueued run accepted
    | enqueueDocumentWithLimits new limits =>
      simp only [Op.action] at accepts
      obtain ⟨s', receipt, run, accepted⟩ := told_eq_some accepts
      exact enqueued (enqueueDocumentWithLimits_ok run) accepted
    | recoverIncompleteIngestionJobs => exact absurd accepts (told_ne fun _ => single (by simp))
    | claimNextIngestionJob =>
      refine absurd accepts (told_ne fun claimed => ?_)
      cases claimed with
      | none => simp
      | some claimed => exact single (by simp)
    | processClaimedIngestionJob claimed fault => exact absurd accepts (single (by simp))
    | failClaimedIngestionJob jobId error => exact absurd accepts (told_ne fun _ => single (by simp))
    | retryDeadLetterIngestionJob key organizationId workspaceId =>
      refine absurd accepts (told_ne fun revived => ?_)
      cases revived with
      | none => simp
      | some job => exact single (by simp)
  | _ => cases accepts

theorem run_integrity {server server' : Server} (run : Run (Step x engines) server trace server')
    (valid : IngestionIntegrity x server.store.ingestion) : IngestionIntegrity x server'.store.ingestion := by
  have holds : ∀ server : Server, ∀ event server', IngestionIntegrity x server.store.ingestion →
      Step x engines server event server' → IngestionIntegrity x server'.store.ingestion :=
    fun _ _ _ valid taken => taken.integrity valid
  exact Reaches.preserves (I := fun server : Server => IngestionIntegrity x server.store.ingestion) ⟨_, run⟩ valid holds

theorem stored_or_drawn {server server' : Server} (run : Run (Step x engines) server trace server')
    (valid : IngestionIntegrity x server.store.ingestion) (stored : id ∈ server'.store.ingestion.jobs) :
    id ∈ server.store.ingestion.jobs ∨ ∃ p ∈ trace, p.2.env.uuid 0 = id := by
  by_cases before : id ∈ server.store.ingestion.jobs
  · exact .inl before
  · have path := @run_path x engines id server server' trace run valid
    have absent : server.store.task id = none := by
      unfold Store.task
      rw [Std.ExtTreeMap.getElem?_eq_none before]
      rfl
    have present : server'.store.task id = some (server'.store.ingestion.jobs[id]).task := by
      unfold Store.task
      rw [Std.ExtTreeMap.getElem?_eq_some_getElem stored]
      rfl
    rw [absent, present] at path
    obtain ⟨entry, member, accepted⟩ := path.accepted
    obtain ⟨p, listed, acts, _⟩ := mem_jobHistory.mp member
    rw [accepted] at acts
    exact .inr ⟨p, listed, action_eq_accept acts⟩

theorem claimsOf_length_le {ids : List Uuid} (among : ∀ p ∈ trace, ∀ claimed ∈ p.2.op.claims p.2.env p.1.store,
    claimed.job.id ∈ ids) :
    (claimsOf trace).length ≤ (ids.map fun id => RetryPolicy.leases (jobHistory x trace id)).sum := by
  induction trace with
  | nil => simp [claimsOf]
  | cons p trace ih =>
    have rest := ih fun q member => among q (List.mem_cons_of_mem _ member)
    have leased (id : Uuid) : RetryPolicy.leases (jobHistory x (p :: trace) id) =
        RetryPolicy.leases (jobHistory x trace id) + if actionAt x p id = some .lease then 1 else 0 := by
      rw [jobHistory_cons]
      cases actionAt x p id with
      | none => simp
      | some action => simp [RetryPolicy.leases_cons]
    have first : (p.2.op.claims p.2.env p.1.store).length ≤
        (ids.map fun id => if actionAt x p id = some .lease then 1 else 0).sum := by
      rcases @Op.claims_le_one p.2.env p.1.store p.2.op with none | ⟨claimed, one⟩
      · simp [none]
      · have member : claimed ∈ p.2.op.claims p.2.env p.1.store := by simp [one]
        have listed := among p List.mem_cons_self claimed member
        have acts : actionAt x p claimed.job.id = some .lease := actionAt_eq_lease.mpr ⟨claimed, member, rfl⟩
        have counted : 1 ∈ ids.map fun id => if actionAt x p id = some .lease then 1 else 0 :=
          List.mem_map.mpr ⟨claimed.job.id, listed, by simp [acts]⟩
        rw [one]
        exact List.le_sum_of_mem counted
    have split : (claimsOf (p :: trace)).length =
        (p.2.op.claims p.2.env p.1.store).length + (claimsOf trace).length := by
      simp [claimsOf]
    have sums : (ids.map fun id => RetryPolicy.leases (jobHistory x (p :: trace) id)).sum =
        (ids.map fun id => RetryPolicy.leases (jobHistory x trace id)).sum +
          (ids.map fun id => if actionAt x p id = some .lease then 1 else 0).sum := by
      simp only [leased]
      exact List.sum_map_add
    omega

section
variable {server server' : Server}

theorem stored_throughout (run : Run (Step x engines) server trace server')
    (valid : IngestionIntegrity x server.store.ingestion) (member : p ∈ trace)
    (stored : id ∈ p.1.store.ingestion.jobs) : id ∈ server'.store.ingestion.jobs := by
  induction run with
  | start => cases member
  | @next trace before after event earlier taken ih =>
    have kept : id ∈ before.store.ingestion.jobs := by
      rcases List.mem_append.mp member with sooner | last
      · exact ih sooner
      · rw [List.mem_singleton.mp last] at stored
        exact stored
    obtain ⟨job', found, _⟩ := (taken.extends (run_integrity earlier valid)).job
      (Std.ExtTreeMap.getElem?_eq_some_getElem kept)
    exact Std.ExtTreeMap.mem_iff_isSome_getElem?.mpr (by rw [found]; rfl)

/-- The work of a whole run is bounded: it claims each job at most three times for each time the job was accepted or
    revived, and once for each restart that interrupted a last attempt. -/
theorem claims_bounded {provider : EmbeddingProvider}
    (run : Run (Step x engines) (Server.initial provider) trace server) :
    (claimsOf trace).length ≤ (server.store.ingestion.jobs.keys.map fun id =>
      ingestionPolicy.allows none (jobHistory x trace id)).sum := by
  have among (p : Server × Event) (member : p ∈ trace) (claimed : ClaimedIngestionJob)
      (claim : claimed ∈ p.2.op.claims p.2.env p.1.store) : claimed.job.id ∈ server.store.ingestion.jobs.keys := by
    have reached : Reachable x engines p.1 := ⟨provider, run.reaches_before member⟩
    obtain ⟨job, found, _⟩ := Op.claims_hold reached.integrity claim
    have stored : claimed.job.id ∈ p.1.store.ingestion.jobs :=
      Std.ExtTreeMap.mem_iff_isSome_getElem?.mpr (by rw [found]; rfl)
    exact Std.ExtTreeMap.mem_keys.mpr (stored_throughout run .empty member stored)
  apply (@claimsOf_length_le x trace _ among).trans
  apply List.sum_le_sum
  intro id _
  have bounded := (ingestion_refines_workQueue run id).leases_le
  omega

/-- The one document is accepted once, and claimed twice. -/
theorem claims_bounded_failing : (claimsOf failingTrace).length = 2 ∧ 2 ≤
    ((freshRun sample noHits failingCalls).store.ingestion.jobs.keys.map fun id =>
      ingestionPolicy.allows none (jobHistory sample failingTrace id)).sum := by
  have bounded := claims_bounded failingTrace_run
  rw [failingTrace_counts.2] at bounded
  exact ⟨failingTrace_counts.2, bounded⟩

/-- A claim takes a job that is due, or an older one. -/
theorem claims_due (valid : IngestionIntegrity x s.ingestion) {due attempts : Nat}
    (waiting : s.task id = some ⟨.waiting due, attempts⟩) (ready : due ≤ env.now) :
    ∃ claimed, (Op.ingestion .claimNextIngestionJob).claims env s = [claimed] ∧
      (claimed.job.id = id ∨ compare claimed.job.id id = .lt) := by
  obtain ⟨job, found, same⟩ := Option.map_eq_some_iff.mp waiting
  have eligible : job.eligible env = true := by
    have stage : job.stage = .waiting due := congrArg Task.stage same
    have schedule := (valid.shape found).schedule
    unfold IngestionJob.stage at stage
    unfold IngestionJob.eligible
    cases status : job.status with
    | queued => rfl
    | retryWait =>
      obtain ⟨next, scheduled⟩ := Option.isSome_iff_exists.mp (schedule.mpr (.inr status))
      simp [status, scheduled] at stage
      simp [scheduled, stage, ready]
    | processing => simp [status] at stage
    | succeeded => simp [status] at stage
    | deadLetter => simp [status] at stage
  have handed : ∀ key candidate, s.ingestion.jobs.toList.find? (fun entry => entry.2.eligible env) = some (key, candidate) →
      ∃ claimed, (Op.ingestion .claimNextIngestionJob).claims env s = [claimed] ∧ claimed.job.id = key := by
    intro key candidate first
    obtain ⟨⟨s', claimed⟩, run⟩ := @claimNextIngestionJob_total x env s valid
    have keyed : candidate.id = key := valid.jobId
      (Std.ExtTreeMap.mem_toList_iff_getElem?_eq_some.mp (List.mem_of_find?_eq_some first))
    rw [Op.claims_claim, run]
    unfold claimNextIngestionJob at run
    simp only [first] at run
    obtain ⟨_, _, run⟩ := bind_eq_ok.mp run
    obtain ⟨_, _, run⟩ := bind_eq_ok.mp run
    cases run
    exact ⟨_, rfl, keyed⟩
  cases first : s.ingestion.jobs.toList.find? fun entry => entry.2.eligible env with
  | none =>
    have listed : (id, job) ∈ s.ingestion.jobs.toList := Std.ExtTreeMap.mem_toList_iff_getElem?_eq_some.mpr found
    exact absurd eligible (List.find?_eq_none.mp first _ listed)
  | some entry =>
    obtain ⟨key, candidate⟩ := entry
    obtain ⟨claimed, claims, keyed⟩ := handed key candidate first
    refine ⟨claimed, claims, ?_⟩
    rw [keyed]
    exact (Table.find_first first found eligible).imp_left fun same => congrArg Prod.fst same

theorem still_waiting (run : Run (Step x engines) server trace server')
    (valid : IngestionIntegrity x server.store.ingestion) {due attempts : Nat}
    (waiting : server.store.task id = some ⟨.waiting due, attempts⟩)
    (passed : ∀ p ∈ trace, ¬ p.2.Claims p.1.store id) :
    server'.store.task id = some ⟨.waiting due, attempts⟩ := by
  have path := @run_path x engines id server server' trace run valid
  rw [waiting] at path
  apply path.waits
  intro entry member leased
  obtain ⟨p, listed, acts, _⟩ := mem_jobHistory.mp member
  rw [leased] at acts
  exact passed p listed (actionAt_eq_lease.mp acts)

def Op.isClaim : Op → Bool
  | .ingestion .claimNextIngestionJob => true
  | _ => false

theorem Op.isClaim_iff {op : Op} : op.isClaim = true ↔ op = .ingestion .claimNextIngestionJob := by
  unfold Op.isClaim
  split
  · simp
  · next other => simpa using other

theorem Op.isClaim_of_mem_claims {op : Op} {claimed : ClaimedIngestionJob} (claim : claimed ∈ op.claims env s) :
    op.isClaim = true := by
  unfold Op.claims at claim
  split at claim
  · rfl
  · cases claim

theorem claimCalls_le (handed : ∀ p ∈ trace, p.2.op.isClaim = true → p.2.op.claims p.2.env p.1.store ≠ []) :
    trace.countP (fun p => p.2.op.isClaim) ≤ (claimsOf trace).length := by
  induction trace with
  | nil => simp
  | cons p trace ih =>
    have rest := ih fun q member => handed q (List.mem_cons_of_mem _ member)
    have first : (if p.2.op.isClaim = true then 1 else 0) ≤ (p.2.op.claims p.2.env p.1.store).length := by
      split
      · next call => exact List.length_pos_iff.mpr (handed p List.mem_cons_self call)
      · exact Nat.zero_le _
    rw [List.countP_cons, claimsOf, List.flatMap_cons, List.length_append]
    unfold claimsOf at rest
    omega

/-- No job starves: while one is due, claims pass it over only for older jobs, and no more often than these are allowed
    attempts. -/
theorem due_job_claimed (reachable : Reachable x engines server) (run : Run (Step x engines) server trace server')
    {due attempts : Nat} (waiting : server.store.task id = some ⟨.waiting due, attempts⟩)
    (ready : ∀ p ∈ trace, due ≤ p.2.env.now) (drawn : ∀ p ∈ trace, compare id (p.2.env.uuid 0) = .lt)
    (passed : ∀ p ∈ trace, ¬ p.2.Claims p.1.store id) :
    trace.countP (fun p => p.2.op.isClaim) ≤
      ((server.store.ingestion.jobs.keys.filter fun key => compare key id = .lt).map fun key =>
        ingestionPolicy.allows (server.store.task key) (jobHistory x trace key)).sum := by
  have valid := reachable.integrity
  have claims (p : Server × Event) (member : p ∈ trace) (call : p.2.op.isClaim = true) :
      ∃ claimed, p.2.op.claims p.2.env p.1.store = [claimed] ∧
        claimed.job.id ∈ server.store.ingestion.jobs.keys.filter fun key => compare key id = .lt := by
    obtain ⟨before, after, split⟩ := List.append_of_mem member
    have sooner (q : Server × Event) (listed : q ∈ before) : q ∈ trace := by
      rw [split]
      exact List.mem_append_left _ listed
    have earlier : Run (Step x engines) server before p.1 := by
      rw [split] at run
      exact run.upto
    have still := still_waiting earlier valid waiting fun q listed => passed q (sooner q listed)
    have here := run_integrity earlier valid
    obtain ⟨claimed, handed, first⟩ := claims_due here still (ready p member)
    rw [← Op.isClaim_iff.mp call] at handed
    have claim : claimed ∈ p.2.op.claims p.2.env p.1.store := by simp [handed]
    have older : compare claimed.job.id id = .lt := by
      rcases first with same | older
      · exact absurd ⟨claimed, claim, same⟩ (passed p member)
      · exact older
    obtain ⟨job, found, _⟩ := Op.claims_hold here claim
    have stored : claimed.job.id ∈ p.1.store.ingestion.jobs :=
      Std.ExtTreeMap.mem_iff_isSome_getElem?.mpr (by rw [found]; rfl)
    rcases stored_or_drawn earlier valid stored with known | ⟨q, listed, fresh⟩
    · refine ⟨claimed, handed, List.mem_filter.mpr ⟨Std.ExtTreeMap.mem_keys.mpr known, ?_⟩⟩
      simpa using older
    · have newer := drawn q (sooner q listed)
      rw [fresh] at newer
      rw [Std.OrientedCmp.gt_of_lt newer] at older
      cases older
  have among (p : Server × Event) (member : p ∈ trace) (claimed : ClaimedIngestionJob)
      (claim : claimed ∈ p.2.op.claims p.2.env p.1.store) :
      claimed.job.id ∈ server.store.ingestion.jobs.keys.filter fun key => compare key id = .lt := by
    obtain ⟨one, handed, older⟩ := claims p member (Op.isClaim_of_mem_claims claim)
    rw [handed, List.mem_singleton] at claim
    rw [claim]
    exact older
  calc trace.countP (fun p => p.2.op.isClaim)
      ≤ (claimsOf trace).length := claimCalls_le fun p member call => by
        obtain ⟨claimed, handed, _⟩ := claims p member call
        simp [handed]
    _ ≤ _ := @claimsOf_length_le x trace _ among
    _ ≤ _ := by
      apply List.sum_le_sum
      intro key _
      have bounded := (@run_path x engines key server server' trace run valid).leases_le
      omega

end

def enqueueBeta : Op := .ingestion (.enqueueDocument (sampleDocument "acme" "lab" "beta" none))

def pairCalls : List (Nat × Op) := [(1, enqueueAlpha), (2, enqueueBeta)]

def starvingCalls : List (Nat × Op) := [(3, claimJob)]

def starvingTrace : List (Server × Event) := serialTrace sample noHits (freshRun sample noHits pairCalls) 32 starvingCalls

/-- The claim passes the second document over. -/
theorem due_job_claimed_starving : starvingTrace.countP (fun p => p.2.op.isClaim) = 1 ∧ 1 ≤
    (((freshRun sample noHits pairCalls).store.ingestion.jobs.keys.filter fun key =>
      compare key (serialUuid 16) = .lt).map fun key =>
        ingestionPolicy.allows ((freshRun sample noHits pairCalls).store.task key)
          (jobHistory sample starvingTrace key)).sum := by
  have facts : SerialLegal sample noHits (Server.initial .hashingV1) 0 pairCalls ∧
      SerialLegal sample noHits (freshRun sample noHits pairCalls) 32 starvingCalls ∧
      (freshRun sample noHits pairCalls).store.task (serialUuid 16) = some ⟨.waiting 0, 0⟩ ∧
      (∀ p ∈ starvingTrace, compare (serialUuid 16) (p.2.env.uuid 0) = .lt ∧
        actionAt sample p (serialUuid 16) ≠ some .lease) ∧
      starvingTrace.countP (fun p => p.2.op.isClaim) = 1 := by
    decide +kernel
  obtain ⟨paired, legal, waiting, passed, claims⟩ := facts
  have run : Run (Step sample noHits) (freshRun sample noHits pairCalls) starvingTrace
      (serialRun sample noHits (freshRun sample noHits pairCalls) 32 starvingCalls) := serialRun_run legal
  have few := due_job_claimed (freshRun_reachable paired) run waiting
    (fun _ _ => Nat.zero_le _) (fun p member => (passed p member).1)
    fun p member claims => (passed p member).2 (actionAt_eq_lease.mpr claims)
  rw [claims] at few
  exact ⟨claims, few⟩

end Hangar
