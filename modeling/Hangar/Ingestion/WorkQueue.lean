import Hangar.Ingestion.Attempts
import Hangar.Lib.WorkQueue

namespace Hangar

open Lib

def ingestionPolicy : RetryPolicy := ⟨maxIngestionAttempts, fun attempts => (attempts + 1) % 2 ^ 32, retryBackoffMs⟩

def IngestionJob.stage (job : IngestionJob) : Stage :=
  match job.status with
  | .queued => .waiting 0
  | .processing => .leased
  | .succeeded => .done
  | .retryWait => .waiting (job.nextAttemptAtUnixMs.getD 0)
  | .deadLetter => .dead

def IngestionJob.task (job : IngestionJob) : Task := ⟨job.stage, job.attempts⟩

def Store.task (s : Store) (id : Uuid) : Option Task := s.ingestion.jobs[id]?.map IngestionJob.task

def Store.jobSucceeded (s : Store) (id : Uuid) : Bool :=
  s.ingestion.jobs[id]?.any fun job => job.status == .succeeded

def IngestionReceipt.accepts (receipt : IngestionReceipt) (id : Uuid) : Option TaskAction :=
  if !receipt.deduplicated && receipt.job.id = id then some .accept else none

/-- What the result of a call tells; a call that fails has done nothing. -/
def told {α : Type} (action : α → Option TaskAction) : Result (Store × α) → Option TaskAction
  | .ok (_, result) => action result
  | .error _ => none

/-- What a call does to a job. A processing call may report an error after it has succeeded, and is told by the
    status it leaves. -/
def Op.action (x : Externals) (env : Env) (s : Store) (id : Uuid) : Op → Option TaskAction
  | .ingestion (.enqueueDocument new) => told (·.accepts id) (enqueueDocument x env s new)
  | .ingestion (.enqueueDocumentWithLimits new limits) =>
    told (·.accepts id) (enqueueDocumentWithLimits x env s new limits)
  | .ingestion .recoverIncompleteIngestionJobs =>
    told (fun _ => if (s.ingestion.jobs[id]?.any fun job => job.status == .processing) then some .release else none)
      (recoverIncompleteIngestionJobs env s)
  | .ingestion .claimNextIngestionJob =>
    told (fun claimed => claimed.bind fun claimed => if claimed.job.id = id then some .lease else none)
      (claimNextIngestionJob env s)
  | .ingestion (.processClaimedIngestionJob claimed fault) =>
    if !s.jobSucceeded id && (processClaimedIngestionJob x env fault claimed s).1.jobSucceeded id then some .complete
    else none
  | .ingestion (.failClaimedIngestionJob jobId error) =>
    told (fun _ => if jobId = id then some .fail else none) (failClaimedIngestionJob env s jobId error)
  | .ingestion (.retryDeadLetterIngestionJob key organizationId workspaceId) =>
    told (fun revived => revived.bind fun job => if job.id = id then some .revive else none)
      (retryDeadLetterIngestionJob env s key organizationId workspaceId)
  | _ => none

def jobHistory (x : Externals) (trace : List (Server × Event)) (id : Uuid) : TaskHistory :=
  trace.flatMap fun p => ((p.2.op.action x p.2.env p.1.store id).map fun action => (p.2.env.now, action)).toList

variable {x : Externals} {engines : SearchEngines} {env : Env} {s s' : Store} {id key : Uuid}

section
variable {job : IngestionJob}

theorem IngestionJob.acts_lease (eligible : job.eligible env = true) :
    ingestionPolicy.Acts env.now .lease (some job.task) (job.lease env).task := by
  simp only [IngestionJob.eligible, Bool.or_eq_true, Bool.and_eq_true, beq_iff_eq] at eligible
  simp only [IngestionJob.task, IngestionJob.stage, IngestionJob.lease]
  rcases eligible with queued | ⟨waiting, due⟩
  · rw [queued]
    exact .lease (Nat.zero_le _)
  · rw [waiting]
    apply RetryPolicy.Acts.lease
    cases scheduled : job.nextAttemptAtUnixMs with
    | none => exact Nat.zero_le _
    | some at' => simpa [scheduled] using due

theorem IngestionJob.acts_fail {error : String} (processing : job.status = .processing) :
    ingestionPolicy.Acts env.now .fail (some job.task) (job.fail env error).task := by
  unfold IngestionJob.fail
  dsimp only
  split
  · rename_i spent
    simp only [IngestionJob.task, IngestionJob.stage, processing]
    exact .abandon spent
  · rename_i left
    simp only [IngestionJob.task, IngestionJob.stage, processing]
    exact .retry (by simpa [ingestionPolicy] using left)

theorem IngestionJob.acts_release (processing : job.status = .processing) :
    ingestionPolicy.Acts env.now .release (some job.task) (job.requeue env).task := by
  simp only [IngestionJob.task, IngestionJob.stage, IngestionJob.requeue, processing]
  exact .release

theorem IngestionJob.acts_complete (processing : job.status = .processing) :
    ingestionPolicy.Acts env.now .complete (some job.task) (job.succeed env).task := by
  simp only [IngestionJob.task, IngestionJob.stage, IngestionJob.succeed, processing]
  exact .complete

theorem IngestionJob.acts_revive (dead : job.status = .deadLetter) :
    ingestionPolicy.Acts env.now .revive (some job.task) (job.restart env).task := by
  simp only [IngestionJob.task, IngestionJob.stage, IngestionJob.restart, dead]
  exact .revive

end

theorem takes_idle (same : s'.ingestion.jobs = s.ingestion.jobs) :
    ingestionPolicy.Takes env.now (s.task id) none (s'.task id) := by
  unfold Store.task
  rw [same]
  rfl

theorem takes_write {job job' : IngestionJob} {action : TaskAction} (jobFound : s.ingestion.jobs[key]? = some job)
    (acts : ingestionPolicy.Acts env.now action (some job.task) job'.task)
    (written : s'.ingestion.jobs = s.ingestion.jobs.insert key job') :
    ingestionPolicy.Takes env.now (s.task id) (if key = id then some action else none) (s'.task id) := by
  unfold Store.task
  rw [written, Table.find_insert]
  by_cases same : key = id
  · subst same
    rw [if_pos rfl, if_pos rfl, jobFound]
    exact ⟨_, acts, rfl⟩
  · rw [if_neg same, if_neg same]
    rfl

theorem enqueueDocument_takes {new : NewDocument} {receipt : IngestionReceipt}
    (unused : s.ingestion.jobs[env.uuid 0]? = none) (run : enqueueDocument x env s new = .ok (s', receipt)) :
    ingestionPolicy.Takes env.now (s.task id) (receipt.accepts id) (s'.task id) := by
  obtain ⟨_, ⟨_, _, _, _, _, _, rfl, rfl⟩ | ⟨_, written, _, rfl⟩⟩ := enqueueDocument_ok run
  · exact takes_idle rfl
  · have jobs : s'.ingestion.jobs = s.ingestion.jobs.insert (env.uuid 0) (newJob x env new) := by
      rw [written]
      rfl
    unfold Store.task
    rw [jobs, Table.find_insert]
    by_cases same : env.uuid 0 = id
    · subst same
      rw [if_pos rfl, unused]
      have accepted : (⟨newDocument x env new, newJob x env new, false⟩ : IngestionReceipt).accepts (env.uuid 0) =
          some .accept := if_pos (by simp [newJob])
      rw [accepted]
      exact ⟨_, .accept, rfl⟩
    · rw [if_neg same]
      have other : (⟨newDocument x env new, newJob x env new, false⟩ : IngestionReceipt).accepts id = none :=
        if_neg (by simp [newJob, same])
      rw [other]
      rfl

theorem recoverIncompleteIngestionJobs_takes {recovered : Nat}
    (run : recoverIncompleteIngestionJobs env s = .ok (s', recovered)) :
    ingestionPolicy.Takes env.now (s.task id)
      (if (s.ingestion.jobs[id]?.any fun job => job.status == .processing) then some .release else none)
      (s'.task id) := by
  unfold Store.task
  rw [recoverIncompleteIngestionJobs_jobs run]
  cases s.ingestion.jobs[id]? with
  | none => rfl
  | some job =>
    by_cases processing : job.status = .processing
    · simp only [Option.any_some, Option.map_some, processing, beq_self_eq_true, if_true]
      exact ⟨_, job.acts_release processing, rfl⟩
    · have other : (job.status == .processing) = false := beq_eq_false_iff_ne.mpr processing
      simp only [Option.any_some, Option.map_some, other]
      rfl

theorem processClaimedIngestionJob_takes (valid : IngestionIntegrity x s.ingestion) {fault : Option Fault}
    {claimed : ClaimedIngestionJob} (same : (processClaimedIngestionJob x env fault claimed s).1 = s') :
    ingestionPolicy.Takes env.now (s.task id)
      (if !s.jobSucceeded id && s'.jobSucceeded id then some .complete else none) (s'.task id) := by
  subst same
  rcases @processClaimedIngestionJob_ingestion x env fault s claimed valid with
    same | ⟨key, job, _, _, jobFound, processing, _, written⟩
  · unfold Store.jobSucceeded
    rw [same, Bool.not_and_self]
    exact takes_idle (congrArg IngestionTables.jobs same)
  · have jobs := congrArg IngestionTables.jobs written
    have takes := @takes_write _ _ _ id _ _ _ _ jobFound (job.acts_complete processing) jobs
    have told : (!s.jobSucceeded id && (processClaimedIngestionJob x env fault claimed s).1.jobSucceeded id) =
        decide (key = id) := by
      unfold Store.jobSucceeded
      rw [written, Table.find_insert]
      by_cases own : key = id
      · subst own
        simp [jobFound, processing, IngestionJob.succeed]
      · simp [own]
    rw [told]
    simpa using takes

theorem claimNextIngestionJob_takes (valid : IngestionIntegrity x s.ingestion)
    {claimed : Option ClaimedIngestionJob} (run : claimNextIngestionJob env s = .ok (s', claimed)) :
    ingestionPolicy.Takes env.now (s.task id)
      (claimed.bind fun claimed => if claimed.job.id = id then some .lease else none) (s'.task id) := by
  obtain ⟨rfl, rfl⟩ | ⟨key, job, _, _, jobFound, eligible, _, _, rfl, rfl⟩ := claimNextIngestionJob_ok run
  · exact takes_idle rfl
  · have keyed : job.id = key := valid.jobId jobFound
    have leased : (job.lease env).id = key := keyed
    rw [Option.bind_some, leased]
    exact takes_write jobFound (job.acts_lease eligible) rfl

theorem failClaimedIngestionJob_takes {jobId : Uuid} {error : String} {failed : IngestionJob}
    (run : failClaimedIngestionJob env s jobId error = .ok (s', failed)) :
    ingestionPolicy.Takes env.now (s.task id) (if jobId = id then some .fail else none) (s'.task id) := by
  obtain ⟨job, _, jobFound, processing, _, rfl, written⟩ := failClaimedIngestionJob_ok run
  have jobs := congrArg (fun s : Store => s.ingestion.jobs) written
  exact takes_write jobFound (job.acts_fail processing) jobs

theorem retryDeadLetterIngestionJob_takes (valid : IngestionIntegrity x s.ingestion) {key : Uuid}
    {organizationId workspaceId : String} {revived : Option IngestionJob}
    (run : retryDeadLetterIngestionJob env s key organizationId workspaceId = .ok (s', revived)) :
    ingestionPolicy.Takes env.now (s.task id)
      (revived.bind fun job => if job.id = id then some .revive else none) (s'.task id) := by
  obtain ⟨rfl, rfl⟩ | ⟨job, _, jobFound, dead, _, rfl, rfl⟩ := retryDeadLetterIngestionJob_ok run
  · exact takes_idle rfl
  · have keyed : job.id = key := valid.jobId jobFound
    have restarted : (job.restart env).id = key := keyed
    rw [Option.bind_some, restarted]
    exact takes_write jobFound (job.acts_revive dead) rfl

theorem transaction_takes {α : Type} {f : Store → Result (Store × α)} {action : α → Option TaskAction}
    (done : ∀ s' a, f s = .ok (s', a) → ingestionPolicy.Takes env.now (s.task id) (action a) (s'.task id)) :
    ingestionPolicy.Takes env.now (s.task id) (told action (f s))
      (((do let _ ← Program.transaction f : Call Unit) s).1.task id) := by
  cases run : f s with
  | error _ =>
    rw [transaction_of_error run]
    rfl
  | ok result =>
    rw [transaction_of_ok run]
    exact done _ _ run

theorem callIngestion_takes (valid : IngestionIntegrity x s.ingestion)
    (unused : s.ingestion.jobs[env.uuid 0]? = none) {op : IngestionOp} :
    ingestionPolicy.Takes env.now (s.task id) ((Op.ingestion op).action x env s id)
      ((callIngestion x env op s).1.task id) := by
  cases op with
  | enqueueDocument new =>
    simp only [Op.action, callIngestion]
    apply transaction_takes
    intro s' result run
    exact enqueueDocument_takes unused run
  | enqueueDocumentWithLimits new limits =>
    simp only [Op.action, callIngestion]
    apply transaction_takes
    intro s' result run
    exact enqueueDocument_takes unused (enqueueDocumentWithLimits_ok run)
  | recoverIncompleteIngestionJobs =>
    simp only [Op.action, callIngestion]
    apply transaction_takes
    intro s' result run
    exact recoverIncompleteIngestionJobs_takes run
  | claimNextIngestionJob =>
    simp only [Op.action, callIngestion]
    apply transaction_takes
    intro s' result run
    exact claimNextIngestionJob_takes valid run
  | processClaimedIngestionJob claimed fault =>
    simp only [Op.action, callIngestion]
    rw [Program.discard_state]
    exact processClaimedIngestionJob_takes valid rfl
  | failClaimedIngestionJob jobId error =>
    simp only [Op.action, callIngestion]
    apply transaction_takes
    intro s' result run
    exact failClaimedIngestionJob_takes run
  | retryDeadLetterIngestionJob key organizationId workspaceId =>
    simp only [Op.action, callIngestion]
    apply transaction_takes
    intro s' result run
    exact retryDeadLetterIngestionJob_takes valid run

section
variable {server server' : Server} {event : Event} {trace : List (Server × Event)}

/-- One call acts on each job by the rules of the queue. -/
theorem Step.takes (taken : Step x engines server event server') (valid : IngestionIntegrity x server.store.ingestion) :
    ingestionPolicy.Takes event.env.now (server.store.task id) (event.op.action x event.env server.store id)
      (server'.store.task id) := by
  have unused := taken.fresh.job_unused 0
  rw [taken.next]
  obtain ⟨env, op⟩ := event
  by_cases own : ∃ call, op = .ingestion call
  · obtain ⟨call, rfl⟩ := own
    exact callIngestion_takes valid unused
  · have other : ∀ call, op ≠ .ingestion call := fun call same => own ⟨call, same⟩
    have quiet : op.action x env server.store id = none := by
      cases op <;> first | rfl | exact absurd rfl (other _)
    rw [quiet]
    exact takes_idle (congrArg IngestionTables.jobs (callStore_ingestion other))

theorem jobHistory_next : jobHistory x (trace ++ [(server, event)]) id = jobHistory x trace id ++
    ((event.op.action x event.env server.store id).map fun action => (event.env.now, action)).toList := by
  simp [jobHistory, List.flatMap_append]

theorem run_path (run : Run (Step x engines) server trace server')
    (valid : IngestionIntegrity x server.store.ingestion) :
    ingestionPolicy.Path (server.store.task id) (jobHistory x trace id) (server'.store.task id) := by
  have both : IngestionIntegrity x server'.store.ingestion ∧
      ingestionPolicy.Path (server.store.task id) (jobHistory x trace id) (server'.store.task id) := by
    induction run with
    | start => exact ⟨valid, .stay⟩
    | next _ taken ih =>
      obtain ⟨kept, path⟩ := ih
      rw [jobHistory_next]
      exact ⟨taken.integrity kept, path.takes (taken.takes kept)⟩
  exact both.2

end

/-- The ingestion jobs of any run behave as a work queue: what the calls do to a job is a history that the queue's rules
    allow, and it ends where the job stands. -/
theorem ingestion_refines_workQueue {provider : EmbeddingProvider} {server : Server} {trace : List (Server × Event)}
    (run : Run (Step x engines) (Server.initial provider) trace server) (id : Uuid) :
    ingestionPolicy.Path none (jobHistory x trace id) (server.store.task id) := by
  have path := @run_path x engines id (Server.initial provider) server trace run .empty
  have absent : (Server.initial provider).store.task id = none := by simp [Server.initial, Store.empty, Store.task]
  rw [absent] at path
  exact path

def claimJob : Op := .ingestion .claimNextIngestionJob

/-- A document whose first attempt fails; one claim comes before the back-off is over, and one when it is. -/
def failingCalls : List (Nat × Op) :=
  [(1, enqueueAlpha), (2, claimJob), (3, .ingestion (.failClaimedIngestionJob (serialUuid 0) "disk full")),
    (4, claimJob), (1003, claimJob)]

def failingTrace : List (Server × Event) := serialTrace sample noHits (Server.initial .hashingV1) 0 failingCalls

theorem failingTrace_facts : SerialLegal sample noHits (Server.initial .hashingV1) 0 failingCalls ∧
    jobHistory sample failingTrace (serialUuid 0) = [(1, .accept), (2, .lease), (3, .fail), (1003, .lease)] := by
  decide +kernel

theorem failingTrace_run : Run (Step sample noHits) (Server.initial .hashingV1) failingTrace
    (freshRun sample noHits failingCalls) := serialRun_run failingTrace_facts.1

theorem ingestion_refines_workQueue_failing :
    jobHistory sample failingTrace (serialUuid 0) = [(1, .accept), (2, .lease), (3, .fail), (1003, .lease)] ∧
      ingestionPolicy.Path none (jobHistory sample failingTrace (serialUuid 0))
        ((freshRun sample noHits failingCalls).store.task (serialUuid 0)) :=
  ⟨failingTrace_facts.2, ingestion_refines_workQueue failingTrace_run (serialUuid 0)⟩

end Hangar
