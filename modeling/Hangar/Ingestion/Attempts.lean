import Hangar.Ingestion.MissingRecords

namespace Hangar

open Lib

def Op.retries (env : Env) (s : Store) : Op → Option Uuid
  | .ingestion (.retryDeadLetterIngestionJob id organizationId workspaceId) =>
    match retryDeadLetterIngestionJob env s id organizationId workspaceId with
    | .ok (_, some job) => some job.id
    | _ => none
  | _ => none

def Event.tally (event : Event) (s : Store) (id : Uuid) (count : Nat) : Nat :=
  if id ∈ (event.op.claims event.env s).map fun claimed => claimed.job.id then count + 1
  else if event.op.retries event.env s = some id then 0
  else count

/-- How often a run claimed a job since the job was enqueued or last retried by hand. -/
def claimsSince (trace : List (Server × Event)) (id : Uuid) : Nat :=
  trace.foldl (fun count p => p.2.tally p.1.store id count) 0

/-- The recovery of a job whose last allowed attempt was interrupted. -/
def Event.RecoversExhausted (server : Server) (event : Event) : Prop :=
  event.op = .ingestion .recoverIncompleteIngestionJobs ∧ ∃ id job,
    server.store.ingestion.jobs[(id : Uuid)]? = some job ∧ job.status = .processing ∧
      maxIngestionAttempts ≤ job.attempts

/-- Attempts are counted and bounded, and a job waits to be claimed only while it has one left. -/
structure AttemptsHold (trace : List (Server × Event)) (server : Server) : Prop where
  counted : ∀ (id : Uuid) (job : IngestionJob), server.store.ingestion.jobs[id]? = some job →
    job.attempts = claimsSince trace id
  bounded : ∀ (id : Uuid) (job : IngestionJob), server.store.ingestion.jobs[id]? = some job →
    job.attempts ≤ maxIngestionAttempts
  waiting : ∀ (id : Uuid) (job : IngestionJob), server.store.ingestion.jobs[id]? = some job →
    job.status = .queued ∨ job.status = .retryWait → job.attempts < maxIngestionAttempts

variable {x : Externals} {engines : SearchEngines} {env : Env} {s s' : Store} {id : Uuid}

theorem claimsSince_next {trace : List (Server × Event)} {server : Server} {event : Event} :
    claimsSince (trace ++ [(server, event)]) id = event.tally server.store id (claimsSince trace id) := by
  simp [claimsSince, List.foldl_append]

theorem Event.tally_quiet {event : Event} (unclaimed : event.op.claims event.env s = [])
    (unretried : event.op.retries event.env s = none) (count : Nat) : event.tally s id count = count := by
  simp [Event.tally, unclaimed, unretried]

inductive Attempt (event : Event) (s : Store) (id : Uuid) (job : IngestionJob) : IngestionJob → Prop where
  | unchanged (quiet : ∀ count, event.tally s id count = count) : Attempt event s id job job
  | recover (call : event.op = .ingestion .recoverIncompleteIngestionJobs) (processing : job.status = .processing)
      (quiet : ∀ count, event.tally s id count = count) : Attempt event s id job (job.requeue event.env)
  | claim (counted : ∀ count, event.tally s id count = count + 1) (eligible : job.eligible event.env = true) :
      Attempt event s id job (job.lease event.env)
  | fail (error : String) (quiet : ∀ count, event.tally s id count = count) :
      Attempt event s id job (job.fail event.env error)
  | retry (reset : ∀ count, event.tally s id count = 0) : Attempt event s id job (job.restart event.env)
  | succeed (quiet : ∀ count, event.tally s id count = count) : Attempt event s id job (job.succeed event.env)

def JobsAttempt (event : Event) (s s' : Store) : Prop :=
  ∀ (id : Uuid) (job' : IngestionJob), s'.ingestion.jobs[id]? = some job' →
    (s.ingestion.jobs[id]? = none ∧ job'.attempts = 0 ∧ ∀ count, event.tally s id count = count) ∨
      ∃ job, s.ingestion.jobs[id]? = some job ∧ Attempt event s id job job'

theorem JobsAttempt.idle {event : Event} (quiet : ∀ id count, event.tally s id count = count)
    (same : s'.ingestion.jobs = s.ingestion.jobs) : JobsAttempt event s s' := by
  intro id job found
  rw [same] at found
  exact .inr ⟨job, found, .unchanged (quiet id)⟩

theorem JobsAttempt.write {event : Event} {key : Uuid} {job job' : IngestionJob}
    (jobFound : s.ingestion.jobs[key]? = some job) (attempt : Attempt event s key job job')
    (quiet : ∀ id, id ≠ key → ∀ count, event.tally s id count = count)
    (written : s'.ingestion.jobs = s.ingestion.jobs.insert key job') : JobsAttempt event s s' := by
  intro id stored found
  rw [written, Table.find_insert] at found
  by_cases same : key = id
  · subst same
    rw [if_pos rfl] at found
    cases found
    exact .inr ⟨job, jobFound, attempt⟩
  · rw [if_neg same] at found
    exact .inr ⟨stored, found, .unchanged (quiet id (Ne.symm same))⟩

theorem enqueueDocument_attempts {event : Event} {new : NewDocument} {receipt : IngestionReceipt}
    (quiet : ∀ id count, event.tally s id count = count) (unused : s.ingestion.jobs[event.env.uuid 0]? = none)
    (run : enqueueDocument x event.env s new = .ok (s', receipt)) : JobsAttempt event s s' := by
  obtain ⟨_, ⟨_, _, _, _, _, _, rfl, _⟩ | ⟨_, written, _⟩⟩ := enqueueDocument_ok run
  · exact .idle quiet rfl
  · intro id job found
    rw [written] at found
    unfold IngestionTables.accept at found
    rw [Table.find_insert] at found
    by_cases same : event.env.uuid 0 = id
    · subst same
      rw [if_pos rfl] at found
      cases found
      exact .inl ⟨unused, rfl, quiet _⟩
    · rw [if_neg same] at found
      exact .inr ⟨job, found, .unchanged (quiet id)⟩

theorem recoverIncompleteIngestionJobs_jobs {recovered : Nat}
    (run : recoverIncompleteIngestionJobs env s = .ok (s', recovered)) :
    s'.ingestion.jobs[id]? =
      s.ingestion.jobs[id]?.map fun job => if job.status == .processing then job.requeue env else job := by
  unfold recoverIncompleteIngestionJobs at run
  obtain ⟨documents, _, run⟩ := bind_eq_ok.mp run
  cases run
  have rewritten := @Table.find_rewrite Uuid IngestionJob _ _ _ _ s.ingestion.jobs
    (fun job => job.status == .processing) (IngestionJob.requeue env) id
  exact rewritten

theorem callIngestion_attempts (valid : IngestionIntegrity x s.ingestion)
    (unused : s.ingestion.jobs[env.uuid 0]? = none) {op : IngestionOp} :
    JobsAttempt ⟨env, .ingestion op⟩ s (callIngestion x env op s).1 := by
  have transaction {α : Type} {f : Store → Result (Store × α)}
      (step : ∀ s' a, f s = .ok (s', a) → JobsAttempt ⟨env, .ingestion op⟩ s s')
      (failed : ∀ e, f s = .error e → JobsAttempt ⟨env, .ingestion op⟩ s s) :
      JobsAttempt ⟨env, .ingestion op⟩ s ((do let _ ← Program.transaction f : Call Unit) s).1 := by
    refine Program.Triple.state (fun s' : Store => JobsAttempt ⟨env, .ingestion op⟩ s s') ?_
    refine Program.Triple.bind ?_ fun _ _ taken => Program.Triple.pure taken
    exact Program.Triple.transaction (fun a s' => step s' a) failed
  cases op with
  | enqueueDocument new =>
    have quiet (id : Uuid) := @Event.tally_quiet s id ⟨env, .ingestion (.enqueueDocument new)⟩ rfl rfl
    exact transaction (fun s' receipt run => enqueueDocument_attempts quiet unused run)
      fun _ _ => .idle quiet rfl
  | enqueueDocumentWithLimits new limits =>
    have quiet (id : Uuid) :=
      @Event.tally_quiet s id ⟨env, .ingestion (.enqueueDocumentWithLimits new limits)⟩ rfl rfl
    exact transaction (fun s' receipt run =>
      enqueueDocument_attempts quiet unused (enqueueDocumentWithLimits_ok run)) fun _ _ => .idle quiet rfl
  | recoverIncompleteIngestionJobs =>
    have quiet (id : Uuid) :=
      @Event.tally_quiet s id ⟨env, .ingestion .recoverIncompleteIngestionJobs⟩ rfl rfl
    refine transaction (fun s' recovered run => ?_) fun _ _ => .idle quiet rfl
    intro id job' found
    rw [recoverIncompleteIngestionJobs_jobs run] at found
    obtain ⟨job, jobFound, rfl⟩ := Option.map_eq_some_iff.mp found
    refine .inr ⟨job, jobFound, ?_⟩
    by_cases processing : job.status = .processing
    · rw [if_pos (by simpa using processing)]
      exact .recover rfl processing (quiet id)
    · rw [if_neg (by simpa using processing)]
      exact .unchanged (quiet id)
  | claimNextIngestionJob =>
    refine transaction (fun s' claimed run => ?_) fun e run => ?_
    · have claims : (Op.ingestion .claimNextIngestionJob).claims env s = claimed.toList := by
        simp only [Op.claims, run]
        cases claimed <;> rfl
      have tally (id : Uuid) (count : Nat) :
          Event.tally ⟨env, .ingestion .claimNextIngestionJob⟩ s id count =
            if id ∈ claimed.toList.map fun claimed => claimed.job.id then count + 1 else count := by
        simp [Event.tally, claims, Op.retries]
      obtain ⟨rfl, rfl⟩ | ⟨key, job, document, _, jobFound, eligible, _, _, rfl, rfl⟩ :=
        claimNextIngestionJob_ok run
      · exact .idle (by simp [tally]) rfl
      · have keyed : job.id = key := valid.jobId jobFound
        have leased : (job.lease env).id = key := keyed
        refine JobsAttempt.write jobFound (.claim ?_ eligible) ?_ rfl
        · simp [tally, leased]
        · intro id other count
          simp [tally, leased, other]
    · have claims : (Op.ingestion .claimNextIngestionJob).claims env s = [] := by
        simp only [Op.claims, run]
      exact .idle (fun id => Event.tally_quiet claims rfl) rfl
  | processClaimedIngestionJob claimed fault =>
    have quiet (id : Uuid) :=
      @Event.tally_quiet s id ⟨env, .ingestion (.processClaimedIngestionJob claimed fault)⟩ rfl rfl
    have taken : JobsAttempt ⟨env, .ingestion (.processClaimedIngestionJob claimed fault)⟩ s
        (processClaimedIngestionJob x env fault claimed s).1 := by
      rcases @processClaimedIngestionJob_ingestion x env fault s claimed valid with
        same | ⟨key, job, _, _, jobFound, _, _, written⟩
      · exact .idle quiet (congrArg IngestionTables.jobs same)
      · have jobs := congrArg IngestionTables.jobs written
        exact .write jobFound (.succeed (quiet key)) (fun id _ => quiet id) jobs
    refine Program.Triple.state (fun s' : Store => JobsAttempt _ s s') ?_
    exact (Program.Triple.of_state taken).bind fun _ _ taken => Program.Triple.pure taken
  | failClaimedIngestionJob jobId error =>
    have quiet (id : Uuid) :=
      @Event.tally_quiet s id ⟨env, .ingestion (.failClaimedIngestionJob jobId error)⟩ rfl rfl
    refine transaction (fun s' job run => ?_) fun _ _ => .idle quiet rfl
    obtain ⟨job, _, jobFound, _, _, rfl, written⟩ := failClaimedIngestionJob_ok run
    have jobs := congrArg (fun s : Store => s.ingestion.jobs) written
    exact .write jobFound (.fail error (quiet jobId)) (fun id _ => quiet id) jobs
  | retryDeadLetterIngestionJob id organizationId workspaceId =>
    refine transaction (fun s' result run => ?_) fun e run => ?_
    · have retries : (Op.ingestion (.retryDeadLetterIngestionJob id organizationId workspaceId)).retries env s =
          result.map IngestionJob.id := by
        simp only [Op.retries, run]
        cases result <;> rfl
      have tally (id' : Uuid) (count : Nat) :
          Event.tally ⟨env, .ingestion (.retryDeadLetterIngestionJob id organizationId workspaceId)⟩ s id' count =
            if result.map IngestionJob.id = some id' then 0 else count := by
        simp [Event.tally, retries, Op.claims]
      obtain ⟨rfl, rfl⟩ | ⟨job, document, jobFound, dead, _, rfl, rfl⟩ := retryDeadLetterIngestionJob_ok run
      · exact .idle (by simp [tally]) rfl
      · have keyed : job.id = id := valid.jobId jobFound
        have restarted : (job.restart env).id = id := keyed
        refine JobsAttempt.write jobFound (.retry ?_) ?_ rfl
        · simp [tally, restarted]
        · intro id' other count
          simp [tally, restarted, Ne.symm other]
    · have retries :
          (Op.ingestion (.retryDeadLetterIngestionJob id organizationId workspaceId)).retries env s = none := by
        simp only [Op.retries, run]
      exact .idle (fun id' => Event.tally_quiet rfl retries) rfl

section
variable {server server' : Server} {event : Event} {trace : List (Server × Event)}

theorem Step.attempts (taken : Step x engines server event server')
    (valid : IngestionIntegrity x server.store.ingestion) : JobsAttempt event server.store server'.store := by
  rw [taken.next]
  obtain ⟨env, op⟩ := event
  by_cases own : ∃ call, op = .ingestion call
  · obtain ⟨call, rfl⟩ := own
    exact callIngestion_attempts valid (taken.fresh.job_unused 0)
  · have other : ∀ call, op ≠ .ingestion call := fun call same => own ⟨call, same⟩
    have quiet (id : Uuid) (count : Nat) : Event.tally ⟨env, op⟩ server.store id count = count := by
      apply Event.tally_quiet
      · cases op <;> first | rfl | exact absurd rfl (other _)
      · cases op <;> first | rfl | exact absurd rfl (other _)
    exact .idle quiet (congrArg IngestionTables.jobs (callStore_ingestion other))

theorem claimsSince_of_absent {provider : EmbeddingProvider}
    (run : Run (Step x engines) (Server.initial provider) trace server)
    (absent : server.store.ingestion.jobs[id]? = none) : claimsSince trace id = 0 := by
  induction run with
  | start => rfl
  | @next trace server server' event before taken ih =>
    have valid := Reachable.integrity ⟨provider, trace, before⟩
    have earlier : server.store.ingestion.jobs[id]? = none := by
      cases stored : server.store.ingestion.jobs[id]? with
      | none => rfl
      | some job =>
        obtain ⟨job', jobFound, _⟩ := (taken.extends valid).job stored
        simp [absent] at jobFound
    have unclaimed : id ∉ (event.op.claims event.env server.store).map fun claimed => claimed.job.id := by
      intro member
      obtain ⟨claimed, claim, rfl⟩ := List.mem_map.mp member
      obtain ⟨job, jobFound, _⟩ := Op.claims_hold valid claim
      simp [earlier] at jobFound
    rw [claimsSince_next, ih earlier]
    simp [Event.tally, unclaimed]

/-- One call keeps a job's count, and its bound unless it requeues an exhausted attempt. -/
theorem Attempt.bounded {job job' : IngestionJob} {count : Nat} (attempt : Attempt event s id job job')
    (counted : job.attempts = count) (bounded : job.attempts ≤ maxIngestionAttempts)
    (waiting : job.status = .queued ∨ job.status = .retryWait → job.attempts < maxIngestionAttempts)
    (unexhausted : event.op = .ingestion .recoverIncompleteIngestionJobs → job.status = .processing →
      job.attempts < maxIngestionAttempts) :
    job'.attempts = event.tally s id count ∧ job'.attempts ≤ maxIngestionAttempts ∧
      (job'.status = .queued ∨ job'.status = .retryWait → job'.attempts < maxIngestionAttempts) := by
  cases attempt with
  | unchanged quiet => exact ⟨by rw [quiet, counted], bounded, waiting⟩
  | recover call processing quiet =>
    have left : job.attempts < maxIngestionAttempts := unexhausted call processing
    exact ⟨by rw [quiet]; exact counted, bounded, fun _ => left⟩
  | claim counts eligible =>
    have ready : job.status = .queued ∨ job.status = .retryWait := by
      simp only [IngestionJob.eligible, Bool.or_eq_true, Bool.and_eq_true, beq_iff_eq] at eligible
      exact eligible.imp_right And.left
    have left : job.attempts < maxIngestionAttempts := waiting ready
    have leased : (job.lease event.env).attempts = job.attempts + 1 := by
      simp only [IngestionJob.lease, maxIngestionAttempts] at left ⊢
      omega
    refine ⟨by rw [counts, leased, counted], by omega, ?_⟩
    simp [IngestionJob.lease]
  | fail error quiet =>
    have same : (job.fail event.env error).attempts = job.attempts := by
      unfold IngestionJob.fail
      dsimp only
      split <;> rfl
    refine ⟨by rw [quiet, same, counted], by omega, ?_⟩
    unfold IngestionJob.fail
    dsimp only
    split
    · simp
    · intro _
      dsimp only
      omega
  | retry reset =>
    have fresh : (job.restart event.env).attempts = 0 := rfl
    refine ⟨by rw [reset, fresh], by omega, ?_⟩
    intro _
    rw [fresh]
    decide
  | succeed quiet =>
    refine ⟨by rw [quiet]; exact counted, bounded, ?_⟩
    simp [IngestionJob.succeed]

theorem AttemptsHold.initial {provider : EmbeddingProvider} : AttemptsHold [] (Server.initial provider) := by
  constructor <;> intro id job found <;> cases found

/-- A recovery that finds an exhausted attempt leaves a job waiting with no attempt left. -/
theorem Step.requeues_exhausted (taken : Step x engines server event server')
    (valid : IngestionIntegrity x server.store.ingestion) (exhausted : event.RecoversExhausted server) :
    ∃ id job, server'.store.ingestion.jobs[(id : Uuid)]? = some job ∧ job.status = .queued ∧
      maxIngestionAttempts ≤ job.attempts := by
  obtain ⟨env, op⟩ := event
  obtain ⟨call, id, job, jobFound, processing, used⟩ := exhausted
  cases call
  rw [taken.next]
  refine Program.Triple.state (fun s' : Store => ∃ id job, s'.ingestion.jobs[(id : Uuid)]? = some job ∧
    job.status = .queued ∧ maxIngestionAttempts ≤ job.attempts) ?_
  refine Program.Triple.bind (Program.Triple.transaction (fun recovered s' run => ?_) fun e run => ?_)
    fun _ _ done => Program.Triple.pure done
  · refine ⟨id, job.requeue env, ?_, rfl, used⟩
    rw [recoverIncompleteIngestionJobs_jobs run, jobFound]
    simp [processing]
  · obtain ⟨result, succeeded⟩ := @recoverIncompleteIngestionJobs_total x env _ valid
    rw [succeeded] at run
    cases run

theorem AttemptsHold.step_iff {provider : EmbeddingProvider}
    (run : Run (Step x engines) (Server.initial provider) trace server) (holds : AttemptsHold trace server)
    (taken : Step x engines server event server') :
    AttemptsHold (trace ++ [(server, event)]) server' ↔ ¬ event.RecoversExhausted server := by
  have valid := Reachable.integrity ⟨provider, trace, run⟩
  constructor
  · intro after exhausted
    obtain ⟨id, job, jobFound, queued, used⟩ := taken.requeues_exhausted valid exhausted
    have left := after.waiting id job jobFound (.inl queued)
    omega
  · intro unexhausted
    have each (id : Uuid) (job' : IngestionJob) (found : server'.store.ingestion.jobs[id]? = some job') :
        job'.attempts = claimsSince (trace ++ [(server, event)]) id ∧ job'.attempts ≤ maxIngestionAttempts ∧
          (job'.status = .queued ∨ job'.status = .retryWait → job'.attempts < maxIngestionAttempts) := by
      rw [claimsSince_next]
      rcases taken.attempts valid id job' found with ⟨absent, fresh, quiet⟩ | ⟨job, jobFound, attempt⟩
      · rw [quiet, claimsSince_of_absent run absent, fresh]
        exact ⟨rfl, Nat.zero_le _, fun _ => by decide⟩
      · refine attempt.bounded (holds.counted id job jobFound) (holds.bounded id job jobFound)
          (holds.waiting id job jobFound) ?_
        intro call processing
        by_contra used
        exact unexhausted ⟨call, id, job, jobFound, processing, by omega⟩
    exact ⟨fun id job found => (each id job found).1, fun id job found => (each id job found).2.1,
      fun id job found => (each id job found).2.2⟩

end

/-- Attempts are counted and bounded throughout a run exactly when no recovery of the run finds a job
    whose last allowed attempt was interrupted. -/
theorem attempts_hold_iff {provider : EmbeddingProvider} {server : Server} {trace : List (Server × Event)}
    (run : Run (Step x engines) (Server.initial provider) trace server) :
    Throughout AttemptsHold trace server ↔ ∀ p ∈ trace, ¬ p.2.RecoversExhausted p.1 :=
  run.throughout_iff (B := fun server event => event.RecoversExhausted server) .initial
    fun _ _ _ _ before holds taken => holds.step_iff before taken

def enqueueAlpha : Op := .ingestion (.enqueueDocument (sampleDocument "acme" "lab" "alpha" none))

/-- A server that crashes during each attempt and recovers the job when it starts again. -/
def crashingServer : Server := freshRun sample noHits
  [(1, enqueueAlpha), (2, .ingestion .claimNextIngestionJob), (3, .ingestion .recoverIncompleteIngestionJobs),
    (4, .ingestion .claimNextIngestionJob), (5, .ingestion .recoverIncompleteIngestionJobs),
    (6, .ingestion .claimNextIngestionJob), (7, .ingestion .recoverIncompleteIngestionJobs),
    (8, .ingestion .claimNextIngestionJob)]

/-- The job is claimed a fourth time. -/
theorem attempts_exceed_maximum : ¬ ∀ server, Reachable sample noHits server → ∀ (id : Uuid) (job : IngestionJob),
    server.store.ingestion.jobs[id]? = some job → job.attempts ≤ maxIngestionAttempts := by
  intro bounded
  have reachable : Reachable sample noHits crashingServer := freshRun_reachable (by decide +kernel)
  have attempts : (crashingServer.store.ingestion.jobs[serialUuid 0]?.map IngestionJob.attempts) = some 4 := by
    decide +kernel
  obtain ⟨job, jobFound, claims⟩ := Option.map_eq_some_iff.mp attempts
  have few := bounded _ reachable _ job jobFound
  simp [claims, maxIngestionAttempts] at few

/-- An attempt fails, a crash interrupts the next one, and the job is claimed a last time. -/
def interruptedCalls : List (Nat × Op) :=
  [(1, enqueueAlpha), (2, .ingestion .claimNextIngestionJob),
    (3, .ingestion (.failClaimedIngestionJob (serialUuid 0) "disk full")), (1003, .ingestion .claimNextIngestionJob),
    (1004, .ingestion .recoverIncompleteIngestionJobs), (1005, .ingestion .claimNextIngestionJob)]

def interruptedTrace : List (Server × Event) := serialTrace sample noHits (Server.initial .hashingV1) 0 interruptedCalls

theorem attempts_hold_interrupted : claimsSince interruptedTrace (serialUuid 0) = 3 ∧
    Throughout AttemptsHold interruptedTrace (freshRun sample noHits interruptedCalls) := by
  have facts : SerialLegal sample noHits (Server.initial .hashingV1) 0 interruptedCalls ∧
      claimsSince interruptedTrace (serialUuid 0) = 3 ∧ ∀ p ∈ interruptedTrace,
        ∀ job ∈ Table.rows p.1.store.ingestion.jobs, job.attempts < maxIngestionAttempts := by decide +kernel
  obtain ⟨legal, claims, few⟩ := facts
  refine ⟨claims, (attempts_hold_iff (serialRun_run legal)).mpr ?_⟩
  rintro p member ⟨call, id, job, jobFound, _, used⟩
  have left := few p member job (Table.mem_rows.mpr ⟨id, jobFound⟩)
  omega

end Hangar
