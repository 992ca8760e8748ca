import Hangar.Ingestion.ChunkText
import Hangar.Projection.Rebuild

namespace Hangar

open Lib

def maximumChunkChars : Nat := 1000

/-- The loop that passes used ANN keys; each turn passes another of them, so `used.length` turns are
    enough. -/
def skipUsedKeys (used : List Nat) : Nat → Nat → Result Nat
  | 0, next => .ok next
  | fuel + 1, next =>
    if used.contains next then do
      check (next + 1 < 2 ^ 64) "exhausted ANN key space for workspace"
      skipUsedKeys used fuel (next + 1)
    else .ok next

structure AnnAllocation where
  used : List Nat
  next : Nat
  mapped : Table (String × Nat) Uuid
  vectors : List (DocumentChunk × Nat)

def AnnAllocation.allocate (scope : String) (a : AnnAllocation) (chunk : DocumentChunk) :
    Result AnnAllocation := do
  let annKey ← skipUsedKeys a.used a.used.length a.next
  check (annKey + 1 < 2 ^ 64) "exhausted ANN key space for workspace"
  check a.mapped[(scope, annKey)]?.isNone "ANN key is already mapped in this workspace"
  return {
    used := annKey :: a.used
    next := annKey + 1
    mapped := a.mapped.insert (scope, annKey) chunk.id
    vectors := a.vectors ++ [(chunk, annKey)] }

/-- What `process_claimed_ingestion_job` carries from its first transaction to its second. -/
structure PreparedIngestion where
  jobKey : Uuid
  documentKey : Uuid
  job : IngestionJob
  document : Document
  chunks : List DocumentChunk
  vectors : List (DocumentChunk × Nat)

variable (x : Externals) (env : Env) (fault : Option Fault)

def newChunks (documentId : Uuid) (contents : List String) : List DocumentChunk :=
  contents.zipIdx.map fun content =>
    { id := env.uuid content.2, documentId := documentId, ordinal := content.2, content := content.1 }

def pendingVectorManifest (profile : EmbeddingProfile) (document : Document)
    (vector : DocumentChunk × Nat) : VectorManifest where
  chunkId := vector.1.id
  organizationId := document.organizationId
  workspaceId := document.workspaceId
  annKey := vector.2
  provider := profile.provider
  modelRevision := profile.modelRevision
  dimensions := profile.dimensions
  pipelineVersion := ingestionPipelineVersion
  sourceSha256 := x.sha256Text vector.1.content
  state := .pending
  updatedAtUnixMs := env.now

def pendingTextManifest (document : Document) (chunk : DocumentChunk) : TextManifest where
  chunkId := chunk.id
  organizationId := document.organizationId
  workspaceId := document.workspaceId
  sourceSha256 := x.sha256Text chunk.content
  pipelineVersion := ingestionPipelineVersion
  state := .pending
  updatedAtUnixMs := env.now

def pendingGraphManifest (document : Document) (chunk : DocumentChunk) : GraphManifest where
  chunkId := chunk.id
  organizationId := document.organizationId
  workspaceId := document.workspaceId
  sourceSha256 := x.sha256Text chunk.content
  pipelineVersion := ingestionPipelineVersion
  extractor := deterministicExtractor
  extractionVersion := extractionVersion
  state := .pending
  updatedAtUnixMs := env.now

def usedAnnKeys (document : Document) (t : ProjectionTables) : List Nat :=
  ((Table.rows t.vectorManifests).filter fun manifest =>
    inScope document.organizationId document.workspaceId manifest.organizationId manifest.workspaceId).map
      VectorManifest.annKey

def prepareProjection (profile : EmbeddingProfile) (document : Document) (chunks : List DocumentChunk)
    (t : ProjectionTables) : Result (ProjectionTables × List (DocumentChunk × Nat)) := do
  let scope := (vectorScopeKey x document.organizationId document.workspaceId).text
  let allocated ← chunks.foldlM (AnnAllocation.allocate scope)
    { used := usedAnnKeys document t
      next := (t.vectorNextKeys[scope]?).getD 1
      mapped := t.vectorChunks
      vectors := [] }
  return ({ t with
    chunks := Table.insertAll t.chunks (chunks.map fun chunk => ((document.id, chunk.ordinal), chunk))
    vectorChunks := allocated.mapped
    vectorNextKeys := t.vectorNextKeys.insert scope allocated.next
    vectorManifests := Table.insertAll t.vectorManifests (allocated.vectors.map fun vector =>
      (vector.1.id, pendingVectorManifest x env profile document vector))
    textManifests := Table.insertAll t.textManifests (chunks.map fun chunk =>
      (chunk.id, pendingTextManifest x env document chunk))
    graphManifests := Table.insertAll t.graphManifests (chunks.map fun chunk =>
      (chunk.id, pendingGraphManifest x env document chunk)) }, allocated.vectors)

/-- The first transaction of `process_claimed_ingestion_job`. -/
def prepareIngestion (claimed : ClaimedIngestionJob) (s : Store) : Result (Store × PreparedIngestion) := do
  let contents := chunkText claimed.content maximumChunkChars
  check (contents ≠ []) "document produced no indexable chunks"
  let job ← found s.ingestion.jobs[claimed.job.id]? "ingestion job not found"
  check (job.status = .processing) "ingestion job is not leased for processing"
  let document ← found s.ingestion.documents[claimed.job.documentId]? "ingestion document not found"
  check (document.ingestionJobId = job.id) "document/job mismatch"
  let chunks := newChunks env document.id contents
  let prepared ← prepareProjection x env s.embeddingProvider.profile document chunks s.projection
  return ({ s with projection := prepared.1 },
    { jobKey := claimed.job.id
      documentKey := claimed.job.documentId
      job := job
      document := document
      chunks := chunks
      vectors := prepared.2 })

/-- The loops of the second transaction that turn the chunks' manifests ready. -/
def markReady {M : Type} (message : String) (ready : M → M) (chunks : List DocumentChunk)
    (manifests : Table Uuid M) : Result (Table Uuid M) :=
  chunks.foldlM (fun manifests chunk => do
    let manifest ← found manifests[chunk.id]? message
    return manifests.insert chunk.id (ready manifest)) manifests

def VectorManifest.ready (manifest : VectorManifest) : VectorManifest :=
  { manifest with state := .ready, updatedAtUnixMs := env.now }

def TextManifest.ready (manifest : TextManifest) : TextManifest :=
  { manifest with state := .ready, updatedAtUnixMs := env.now }

def GraphManifest.ready (manifest : GraphManifest) : GraphManifest :=
  { manifest with state := .ready, updatedAtUnixMs := env.now }

def completeProjection (prepared : PreparedIngestion) (t : ProjectionTables) : Result ProjectionTables := do
  let vectorManifests ← markReady "vector manifest not found" (VectorManifest.ready env)
    (prepared.vectors.map Prod.fst) t.vectorManifests
  let textManifests ← markReady "text manifest not found" (TextManifest.ready env) prepared.chunks
    t.textManifests
  let graph ← materializeGraphChunks x env prepared.document.organizationId prepared.document.workspaceId
    t.graph prepared.chunks
  let graphManifests ← markReady "graph manifest not found" (GraphManifest.ready env) prepared.chunks
    t.graphManifests
  return { t with
    vectorManifests := vectorManifests
    textManifests := textManifests
    graph := graph
    graphManifests := graphManifests }

def IngestionJob.succeed (job : IngestionJob) : IngestionJob :=
  { job with
    status := .succeeded
    lastError := none
    nextAttemptAtUnixMs := none
    leaseExpiresAtUnixMs := none
    updatedAtUnixMs := env.now }

def Document.succeed (document : Document) (chunkCount : Nat) : Document :=
  { document with chunkCount := chunkCount, ingestionStatus := .succeeded }

def completionJournal (jobKey : Uuid) (document : Document) (job : IngestionJob) (chunkCount : Nat)
    (journal : Journal) : Journal :=
  let resource := "documents/" ++ document.id.text
  let journal := auditAll env (chunkCount + 1) (documentWriter document)
    ["ingestion.succeeded", "vector.projection.succeeded", "text.projection.succeeded",
      "graph.projection.succeeded"] jobKey.text journal
  let journal := insertOutboxEvent env (env.uuid (chunkCount + 5)) "document.ingestion_succeeded.v1" resource
    document.organizationId (some document.workspaceId)
    (.obj [("document_id", .str document.id.text), ("job_id", .str job.id.text),
      ("chunk_count", .num chunkCount), ("pipeline_version", .num job.pipelineVersion)]) journal
  insertOutboxEvent env (env.uuid (chunkCount + 6)) "graph.projection_ready.v1" resource
    document.organizationId (some document.workspaceId)
    (.obj [("document_id", .str document.id.text), ("job_id", .str job.id.text),
      ("extractor", .str deterministicExtractor), ("extraction_version", .num extractionVersion)]) journal

/-- The second transaction of `process_claimed_ingestion_job`; the job and the document it writes are
    the copies read by the first. -/
def completeIngestion (prepared : PreparedIngestion) (generation : String) (s : Store) :
    Result (Store × IngestionJob) := do
  let projection ← completeProjection x env prepared s.projection
  let s := insertActiveTextGeneration x env prepared.document.organizationId prepared.document.workspaceId
    generation { s with projection := projection }
  let chunkCount := prepared.chunks.length
  let document := prepared.document.succeed chunkCount
  let job := prepared.job.succeed env
  let ingestion := { s.ingestion with
    documents := s.ingestion.documents.insert prepared.documentKey document
    jobs := s.ingestion.jobs.insert prepared.jobKey job }
  let journal := completionJournal env prepared.jobKey document job chunkCount s.journal
  return ({ s with ingestion := ingestion, journal := journal }, job)

def pendingVectorEntries (prepared : PreparedIngestion) (s : Store) : Result (List (Nat × List ℚ)) :=
  prepared.vectors.mapM fun vector => do
    let embedding ← embed x s vector.1.content
    return (vector.2, embedding)

def pendingTextEntries (prepared : PreparedIngestion) : List TextEntry :=
  prepared.chunks.map fun chunk => ⟨chunk.id.text, chunk.content⟩

def processClaimedIngestionJob (claimed : ClaimedIngestionJob) : Call IngestionJob := do
  let prepared ← Program.transaction (prepareIngestion x env claimed)
  stopAt fault .prepared
  let organizationId := prepared.document.organizationId
  let workspaceId := prepared.document.workspaceId
  let pendingEntries ← Program.query (pendingVectorEntries x prepared)
  publishGenerationWithPending x fault organizationId workspaceId pendingEntries
  let generation ← publishTextGenerationWithPending x fault organizationId workspaceId
    (env.uuid prepared.chunks.length) (pendingTextEntries prepared)
  let job ← Program.transaction (completeIngestion x env prepared generation)
  stopAt fault .completed
  let _ ← Program.attempt (cleanupTextGenerations x)
  return job

end Hangar
