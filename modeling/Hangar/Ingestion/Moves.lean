import Hangar.Server
import Mathlib.Logic.Relation

namespace Hangar

open Lib

variable {x : Externals} {engines : SearchEngines} {env : Env} {s s' : Store} {t t' : IngestionTables}

/-- The state machine of a job and its document. -/
inductive Advance (env : Env) (job : IngestionJob) (document : Document) :
    IngestionJob → Document → Prop where
  | requeue (processing : job.status = .processing) :
      Advance env job document (job.requeue env) { document with ingestionStatus := .queued }
  | lease (eligible : job.eligible env = true) :
      Advance env job document (job.lease env) { document with ingestionStatus := .processing }
  | fail (processing : job.status = .processing) (error : String) :
      Advance env job document (job.fail env error)
        { document with ingestionStatus := (job.fail env error).status }
  | restart (dead : job.status = .deadLetter) :
      Advance env job document (job.restart env) { document with ingestionStatus := .queued }
  | succeed (processing : job.status = .processing) (chunkCount : Nat) :
      Advance env job document (job.succeed env) (document.succeed chunkCount)

structure IngestionJob.SameRequest (job job' : IngestionJob) : Prop where
  id : job'.id = job.id
  documentId : job'.documentId = job.documentId
  organizationId : job'.organizationId = job.organizationId
  workspaceId : job'.workspaceId = job.workspaceId
  inputSha256 : job'.inputSha256 = job.inputSha256
  idempotencyKey : job'.idempotencyKey = job.idempotencyKey

structure Document.SameRequest (document document' : Document) : Prop where
  id : document'.id = document.id
  organizationId : document'.organizationId = document.organizationId
  workspaceId : document'.workspaceId = document.workspaceId
  contentSha256 : document'.contentSha256 = document.contentSha256
  ingestionJobId : document'.ingestionJobId = document.ingestionJobId

structure IngestionJob.WellShaped (job : IngestionJob) : Prop where
  lease : job.leaseExpiresAtUnixMs.isSome ↔ job.status = .processing
  schedule : job.nextAttemptAtUnixMs.isSome ↔ job.status = .queued ∨ job.status = .retryWait
  error : job.status = .retryWait ∨ job.status = .deadLetter → job.lastError.isSome

section
variable {job job' : IngestionJob} {document document' : Document}

theorem IngestionJob.fail_status {error : String} :
    (job.fail env error).status = .deadLetter ∨ (job.fail env error).status = .retryWait := by
  unfold IngestionJob.fail
  dsimp only
  split
  · exact .inl rfl
  · exact .inr rfl

theorem IngestionJob.fail_sameRequest {error : String} : job.SameRequest (job.fail env error) := by
  unfold IngestionJob.fail
  dsimp only
  split <;> exact ⟨rfl, rfl, rfl, rfl, rfl, rfl⟩

theorem IngestionJob.fail_wellShaped {error : String} : (job.fail env error).WellShaped := by
  unfold IngestionJob.fail
  dsimp only
  split <;> constructor <;> simp

theorem Advance.job_sameRequest (advance : Advance env job document job' document') :
    job.SameRequest job' := by
  cases advance with
  | requeue => exact ⟨rfl, rfl, rfl, rfl, rfl, rfl⟩
  | lease => exact ⟨rfl, rfl, rfl, rfl, rfl, rfl⟩
  | fail => exact IngestionJob.fail_sameRequest
  | restart => exact ⟨rfl, rfl, rfl, rfl, rfl, rfl⟩
  | succeed => exact ⟨rfl, rfl, rfl, rfl, rfl, rfl⟩

theorem Advance.document_sameRequest (advance : Advance env job document job' document') :
    document.SameRequest document' := by
  cases advance <;> exact ⟨rfl, rfl, rfl, rfl, rfl⟩

theorem Advance.status (advance : Advance env job document job' document') :
    document'.ingestionStatus = job'.status := by
  cases advance <;> rfl

theorem Advance.wellShaped (advance : Advance env job document job' document') : job'.WellShaped := by
  cases advance with
  | requeue => constructor <;> simp [IngestionJob.requeue]
  | lease => constructor <;> simp [IngestionJob.lease]
  | fail => exact IngestionJob.fail_wellShaped
  | restart => constructor <;> simp [IngestionJob.restart]
  | succeed => constructor <;> simp [IngestionJob.succeed]

theorem Advance.not_succeeded (advance : Advance env job document job' document') :
    job.status ≠ .succeeded := by
  cases advance with
  | requeue processing => simp [processing]
  | lease eligible =>
    intro succeeded
    simp [IngestionJob.eligible, succeeded] at eligible
  | fail processing => simp [processing]
  | restart dead => simp [dead]
  | succeed processing => simp [processing]

end

/-- A stored job and its document are rewritten together. -/
inductive QueueMove (env : Env) (t : IngestionTables) : IngestionTables → Prop where
  | write {job job' : IngestionJob} {document document' : Document} {key : Uuid}
      (jobFound : t.jobs[key]? = some job) (documentFound : t.documents[job.documentId]? = some document)
      (advance : Advance env job document job' document') :
      QueueMove env t { t with
        jobs := t.jobs.insert key job'
        documents := t.documents.insert job.documentId document' }

inductive QueueStep (x : Externals) (env : Env) (t : IngestionTables) : IngestionTables → Prop where
  | accept (new : NewDocument) (valid : new.validate = .ok ()) (absent : existingJobId x t new = none) :
      QueueStep x env t (t.accept x env new)
  | moves {t' : IngestionTables} (moves : Relation.ReflTransGen (QueueMove env) t t') : QueueStep x env t t'

theorem QueueStep.idle : QueueStep x env t t := .moves .refl

theorem enqueueDocument_ok {new : NewDocument} {receipt : IngestionReceipt}
    (run : enqueueDocument x env s new = .ok (s', receipt)) :
    new.validate = .ok () ∧
      ((∃ id job document, existingJobId x s.ingestion new = some id ∧ s.ingestion.jobs[id]? = some job ∧
        s.ingestion.documents[job.documentId]? = some document ∧ s' = s ∧ receipt = ⟨document, job, true⟩) ∨
      (existingJobId x s.ingestion new = none ∧ s'.ingestion = s.ingestion.accept x env new ∧
        s' = { s with ingestion := s'.ingestion, journal := s'.journal } ∧
        receipt = ⟨newDocument x env new, newJob x env new, false⟩)) := by
  unfold enqueueDocument at run
  obtain ⟨⟨⟩, valid, run⟩ := bind_eq_ok.mp run
  refine ⟨valid, ?_⟩
  cases existing : existingJobId x s.ingestion new with
  | none =>
    simp only [existing] at run
    cases run
    exact .inr ⟨rfl, rfl, rfl, rfl⟩
  | some id =>
    simp only [existing] at run
    obtain ⟨job, jobFound, run⟩ := bind_eq_ok.mp run
    obtain ⟨document, documentFound, run⟩ := bind_eq_ok.mp run
    rw [context_eq_ok] at jobFound documentFound
    cases run
    exact .inl ⟨id, job, document, rfl, jobFound, documentFound, rfl, rfl⟩

theorem enqueueDocumentWithLimits_ok {new : NewDocument} {limits : WorkspaceLimits}
    {result : Store × IngestionReceipt} (run : enqueueDocumentWithLimits x env s new limits = .ok result) :
    enqueueDocument x env s new = .ok result := by
  unfold enqueueDocumentWithLimits at run
  split at run
  · exact (bind_eq_ok.mp run).choose_spec.2
  · exact run

theorem claimNextIngestionJob_ok {claimed : Option ClaimedIngestionJob}
    (run : claimNextIngestionJob env s = .ok (s', claimed)) :
    (s' = s ∧ claimed = none) ∨ ∃ key job document payload,
      s.ingestion.jobs[key]? = some job ∧ job.eligible env = true ∧
      s.ingestion.documents[job.documentId]? = some document ∧ s.ingestion.payloads[key]? = some payload ∧
      claimed = some ⟨job.lease env, payload.content⟩ ∧
      s' = { s with ingestion := { s.ingestion with
        jobs := s.ingestion.jobs.insert key (job.lease env)
        documents := s.ingestion.documents.insert job.documentId
          { document with ingestionStatus := .processing } } } := by
  unfold claimNextIngestionJob at run
  cases candidate : s.ingestion.jobs.toList.find? fun entry => entry.2.eligible env with
  | none =>
    simp only [candidate] at run
    cases run
    exact .inl ⟨rfl, rfl⟩
  | some entry =>
    obtain ⟨key, job⟩ := entry
    simp only [candidate] at run
    obtain ⟨document, documentFound, run⟩ := bind_eq_ok.mp run
    obtain ⟨payload, payloadFound, run⟩ := bind_eq_ok.mp run
    rw [context_eq_ok] at documentFound payloadFound
    cases run
    have member := List.mem_of_find?_eq_some candidate
    have eligible := List.find?_some candidate
    rw [Std.ExtTreeMap.mem_toList_iff_getElem?_eq_some] at member
    exact .inr ⟨key, job, document, payload, member, eligible, documentFound, payloadFound, rfl, rfl⟩

theorem failClaimedIngestionJob_ok {jobId : Uuid} {error : String} {job' : IngestionJob}
    (run : failClaimedIngestionJob env s jobId error = .ok (s', job')) :
    ∃ job document, s.ingestion.jobs[jobId]? = some job ∧ job.status = .processing ∧
      s.ingestion.documents[job.documentId]? = some document ∧ job' = job.fail env error ∧
      s' = { s with
        ingestion := { s.ingestion with
          documents := s.ingestion.documents.insert document.id
            { document with ingestionStatus := job'.status }
          jobs := s.ingestion.jobs.insert jobId job' }
        journal := s'.journal } := by
  unfold failClaimedIngestionJob at run
  obtain ⟨_, _, run⟩ := bind_eq_ok.mp run
  obtain ⟨job, jobFound, run⟩ := bind_eq_ok.mp run
  obtain ⟨_, processing, run⟩ := bind_eq_ok.mp run
  obtain ⟨document, documentFound, run⟩ := bind_eq_ok.mp run
  rw [context_eq_ok] at jobFound documentFound
  rw [ensure_eq_ok] at processing
  cases run
  exact ⟨job, document, jobFound, processing, documentFound, rfl, rfl⟩

theorem retryDeadLetterIngestionJob_ok {id : Uuid} {organizationId workspaceId : String}
    {result : Option IngestionJob}
    (run : retryDeadLetterIngestionJob env s id organizationId workspaceId = .ok (s', result)) :
    (s' = s ∧ result = none) ∨ ∃ job document, s.ingestion.jobs[id]? = some job ∧ job.status = .deadLetter ∧
      s.ingestion.documents[job.documentId]? = some document ∧ result = some (job.restart env) ∧
      s' = { s with ingestion := { s.ingestion with
        jobs := s.ingestion.jobs.insert id (job.restart env)
        documents := s.ingestion.documents.insert job.documentId
          { document with ingestionStatus := .queued } } } := by
  unfold retryDeadLetterIngestionJob at run
  cases stored : s.ingestion.jobs[id]? with
  | none =>
    simp only [stored] at run
    cases run
    exact .inl ⟨rfl, rfl⟩
  | some job =>
    simp only [stored] at run
    obtain ⟨_, _, run⟩ := bind_eq_ok.mp run
    obtain ⟨_, dead, run⟩ := bind_eq_ok.mp run
    obtain ⟨document, documentFound, run⟩ := bind_eq_ok.mp run
    rw [context_eq_ok] at documentFound
    rw [ensure_eq_ok] at dead
    cases run
    exact .inr ⟨job, document, rfl, dead, documentFound, rfl, rfl⟩

end Hangar
