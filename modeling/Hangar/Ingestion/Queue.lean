import Hangar.Store.Tables

namespace Hangar

open Lib

def ingestionPipelineVersion : Nat := 1
def maxIngestionAttempts : Nat := 3
def ingestionLeaseMs : Nat := 30000

variable (x : Externals) (env : Env) (s : Store)

def hashToken (token : String) : HexText := x.sha256Text token

def deduplicationKey (organizationId workspaceId : String) (inputSha256 : HexText) : String :=
  organizationId ++ ":" ++ workspaceId ++ ":" ++ inputSha256.text ++ ":" ++ toString ingestionPipelineVersion

def idempotencyTableKey (organizationId workspaceId key : String) : String :=
  organizationId ++ ":" ++ workspaceId ++ ":" ++ (hashToken x key).text

def NewDocument.deduplicationKey (new : NewDocument) : String :=
  Hangar.deduplicationKey new.organizationId new.workspaceId (x.sha256Text new.content)

def NewDocument.idempotencyTableKey (new : NewDocument) : Option String :=
  new.idempotencyKey.map (Hangar.idempotencyTableKey x new.organizationId new.workspaceId)

def documentIsDeduplicated (new : NewDocument) : Bool :=
  let byContent := s.ingestion.deduplication[new.deduplicationKey x]?.isSome
  let byIdempotency := (new.idempotencyTableKey x).any fun key => s.ingestion.idempotency[key]?.isSome
  byContent || byIdempotency

def NewDocument.validate (new : NewDocument) : Result Unit := do
  check (!isBlank new.organizationId) "organization_id cannot be empty"
  check (!isBlank new.workspaceId) "workspace_id cannot be empty"
  check (!isBlank new.name) "name cannot be empty"
  check (!isBlank new.content) "content cannot be empty"
  match new.idempotencyKey with
  | some key =>
    check (!isBlank key) "idempotency key cannot be empty"
    check (key.utf8ByteSize ≤ 256) "idempotency key is too long"
  | none => pure ()

/-- The job an earlier request stored under this key, or else under this content. -/
def existingJobId (t : IngestionTables) (new : NewDocument) : Option Uuid :=
  ((new.idempotencyTableKey x).bind fun key => t.idempotency[key]?) <|>
    t.deduplication[new.deduplicationKey x]?

def newDocument (new : NewDocument) : Document where
  id := env.uuid 1
  organizationId := new.organizationId
  workspaceId := new.workspaceId
  name := new.name
  source := new.source
  contentSha256 := x.sha256Text new.content
  createdBy := new.createdBy
  createdAtUnixMs := env.now
  chunkCount := 0
  ingestionJobId := env.uuid 0
  ingestionStatus := .queued

def newJob (new : NewDocument) : IngestionJob where
  id := env.uuid 0
  documentId := env.uuid 1
  organizationId := new.organizationId
  workspaceId := new.workspaceId
  status := .queued
  attempts := 0
  pipelineVersion := ingestionPipelineVersion
  inputSha256 := x.sha256Text new.content
  idempotencyKey := new.idempotencyKey
  lastError := none
  nextAttemptAtUnixMs := some env.now
  leaseExpiresAtUnixMs := none
  createdAtUnixMs := env.now
  updatedAtUnixMs := env.now

/-- The tables with a fresh document, its job and payload, and both of its lookup records. -/
def IngestionTables.accept (t : IngestionTables) (new : NewDocument) : IngestionTables where
  documents := t.documents.insert (env.uuid 1) (newDocument x env new)
  jobs := t.jobs.insert (env.uuid 0) (newJob x env new)
  payloads := t.payloads.insert (env.uuid 0) ⟨new.content⟩
  deduplication := t.deduplication.insert (new.deduplicationKey x) (env.uuid 0)
  idempotency :=
    match new.idempotencyTableKey x with
    | some key => t.idempotency.insert key (env.uuid 0)
    | none => t.idempotency

def enqueueDocument (new : NewDocument) : Result (Store × IngestionReceipt) := do
  new.validate
  match existingJobId x s.ingestion new with
  | some existing =>
    let job ← found s.ingestion.jobs[existing]? "ingestion deduplication record references a missing job"
    let document ← found s.ingestion.documents[job.documentId]?
      "ingestion job references a missing document"
    return (s, { document := document, job := job, deduplicated := true })
  | none =>
    let document := newDocument x env new
    let job := newJob x env new
    let data := Json.obj [("document_id", .str document.id.text), ("job_id", .str job.id.text),
      ("pipeline_version", .num job.pipelineVersion)]
    let s' := { s with
      ingestion := s.ingestion.accept x env new
      journal := insertOutboxEvent env (env.uuid 2) "document.ingestion_queued.v1"
        ("documents/" ++ document.id.text) document.organizationId (some document.workspaceId) data s.journal }
    return (s', { document := document, job := job, deduplicated := false })

def enqueueDocumentWithLimits (new : NewDocument) (limits : WorkspaceLimits) :
    Result (Store × IngestionReceipt) := do
  if !documentIsDeduplicated x s new then
    enforceDocumentLimits new.organizationId new.workspaceId limits s new.content.utf8ByteSize
  enqueueDocument x env s new

def IngestionTables.write (t : IngestionTables) (job : IngestionJob) (document : Document) :
    IngestionTables :=
  { t with
    jobs := t.jobs.insert job.id job
    documents := t.documents.insert document.id document }

def IngestionJob.requeue (job : IngestionJob) : IngestionJob :=
  { job with
    status := .queued
    leaseExpiresAtUnixMs := none
    nextAttemptAtUnixMs := some env.now
    updatedAtUnixMs := env.now }

def recoverIncompleteIngestionJobs : Result (Store × Nat) := do
  let candidates := s.ingestion.jobs.toList.filter fun entry => entry.2.status == .processing
  let jobs := Table.insertAll s.ingestion.jobs
    (candidates.map fun entry => (entry.1, entry.2.requeue env))
  let documents ← candidates.foldlM (fun (documents : Table Uuid Document) entry => do
    let document ← found documents[entry.2.documentId]? "ingestion document not found"
    return documents.insert entry.2.documentId { document with ingestionStatus := .queued })
    s.ingestion.documents
  return ({ s with ingestion := { s.ingestion with jobs := jobs, documents := documents } },
    candidates.length)

def IngestionJob.eligible (job : IngestionJob) : Bool :=
  job.status == .queued ||
    (job.status == .retryWait && job.nextAttemptAtUnixMs.any fun at' => at' ≤ env.now)

def IngestionJob.lease (job : IngestionJob) : IngestionJob :=
  { job with
    status := .processing
    attempts := (job.attempts + 1) % 2 ^ 32
    nextAttemptAtUnixMs := none
    leaseExpiresAtUnixMs := some (env.now + ingestionLeaseMs)
    updatedAtUnixMs := env.now }

def claimNextIngestionJob : Result (Store × Option ClaimedIngestionJob) := do
  match s.ingestion.jobs.toList.find? fun entry => entry.2.eligible env with
  | none => return (s, none)
  | some (jobKey, candidate) =>
    let job := candidate.lease env
    let document ← found s.ingestion.documents[job.documentId]? "ingestion document not found"
    let payload ← found s.ingestion.payloads[jobKey]? "ingestion job payload is missing"
    let ingestion := { s.ingestion with
      jobs := s.ingestion.jobs.insert jobKey job
      documents := s.ingestion.documents.insert job.documentId
        { document with ingestionStatus := .processing } }
    return ({ s with ingestion := ingestion }, some { job := job, content := payload.content })

/-- `1_000 * 2_u32.saturating_pow(attempt - 1)`. -/
def retryBackoffMs (attempt : Nat) : Nat := 1000 * min (2 ^ (attempt - 1)) (2 ^ 32 - 1)

def IngestionJob.fail (job : IngestionJob) (error : String) : IngestionJob :=
  let failed := { job with
    lastError := some (String.ofList (error.toList.take 512))
    leaseExpiresAtUnixMs := none
    updatedAtUnixMs := env.now }
  if job.attempts ≥ maxIngestionAttempts then
    { failed with status := .deadLetter, nextAttemptAtUnixMs := none }
  else
    { failed with
      status := .retryWait
      nextAttemptAtUnixMs := some (env.now + retryBackoffMs job.attempts) }

def documentWriter (document : Document) : Principal where
  id := document.createdBy
  organizationId := document.organizationId
  workspaceId := some document.workspaceId
  role := .writer
  subjectKind := .agent

/-- Audit events of one outcome, with the ids drawn for them from `first` on. -/
def auditAll (first : Nat) (principal : Principal) (actions : List String) (resource : String)
    (journal : Journal) : Journal :=
  (actions.zipIdx first).foldl
    (fun journal action => insertAuditEvent env (env.uuid action.2) principal action.1 resource journal)
    journal

def failClaimedIngestionJob (jobId : Uuid) (error : String) : Result (Store × IngestionJob) := do
  check (!isBlank error) "ingestion error cannot be empty"
  let job ← found s.ingestion.jobs[jobId]? "ingestion job not found"
  check (job.status = .processing) "only a processing job may fail"
  let document ← found s.ingestion.documents[job.documentId]? "ingestion document not found"
  let job := job.fail env error
  let document := { document with ingestionStatus := job.status }
  let outcome := if job.status = .deadLetter then "ingestion.dead_letter" else "ingestion.retry_wait"
  let data := Json.obj [("document_id", .str document.id.text), ("job_id", .str job.id.text),
    ("status", job.status.toJson)]
  let ingestion := { s.ingestion with
    documents := s.ingestion.documents.insert document.id document
    jobs := s.ingestion.jobs.insert jobId job }
  let journal := auditAll env 0 (documentWriter document)
    [outcome, "vector.projection.failed", "text.projection.failed", "graph.projection.failed"] jobId.text
    s.journal
  let journal := insertOutboxEvent env (env.uuid 4) "document.ingestion_failed.v1"
    ("documents/" ++ document.id.text) document.organizationId (some document.workspaceId) data journal
  return ({ s with ingestion := ingestion, journal := journal }, job)

def IngestionJob.restart (job : IngestionJob) : IngestionJob :=
  { job with
    status := .queued
    attempts := 0
    lastError := none
    nextAttemptAtUnixMs := some env.now
    leaseExpiresAtUnixMs := none
    updatedAtUnixMs := env.now }

def retryDeadLetterIngestionJob (id : Uuid) (organizationId workspaceId : String) :
    Result (Store × Option IngestionJob) := do
  match s.ingestion.jobs[id]? with
  | none => return (s, none)
  | some job =>
    check (job.organizationId = organizationId ∧ job.workspaceId = workspaceId)
      "ingestion job not found in this workspace"
    check (job.status = .deadLetter) "only dead-letter jobs can be retried manually"
    let job := job.restart env
    let document ← found s.ingestion.documents[job.documentId]? "ingestion document not found"
    let ingestion := { s.ingestion with
      jobs := s.ingestion.jobs.insert id job
      documents := s.ingestion.documents.insert job.documentId
        { document with ingestionStatus := .queued } }
    return ({ s with ingestion := ingestion }, some job)

end Hangar
