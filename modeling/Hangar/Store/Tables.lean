import Hangar.Lib.Program
import Hangar.Store.Records

namespace Hangar

open Lib

structure IngestionTables where
  documents : Table Uuid Document
  jobs : Table Uuid IngestionJob
  payloads : Table Uuid IngestionPayload
  deduplication : Table String Uuid
  idempotency : Table String Uuid

/-- Entities are keyed by graph scope and name, adjacency rows by graph scope, entity and edge, and
    evidence by edge and chunk. -/
structure GraphTables where
  entities : Table (String × String) GraphEntity
  edges : Table Uuid GraphEdge
  edgesBySource : Table (String × Uuid × Uuid) Uuid
  edgesByTarget : Table (String × Uuid × Uuid) Uuid
  edgeEvidence : Table (Uuid × Uuid) GraphEdgeEvidence

/-- Chunks and the records of their vector, text and graph projections. A chunk is keyed by document
    and ordinal, and an ANN key by vector scope and number. -/
structure ProjectionTables where
  chunks : Table (Uuid × Nat) DocumentChunk
  vectorChunks : Table (String × Nat) Uuid
  vectorManifests : Table Uuid VectorManifest
  vectorNextKeys : Table String Nat
  textManifests : Table Uuid TextManifest
  textActiveGenerations : Table String TextGeneration
  graphManifests : Table Uuid GraphManifest
  graph : GraphTables

/-- The files under `vectors/`, by name, and the directories under `text/`, by workspace directory
    and generation. -/
structure IndexFiles where
  vectors : Table String (List (Nat × List ℚ))
  text : Table (String × String) (List TextEntry)

structure KnowledgeTables where
  memories : Table Uuid Memory
  memoryShares : Table Uuid MemoryShare

structure CatalogTables where
  agentSkills : Table Uuid AgentSkill
  guardrailPolicies : Table Uuid GuardrailPolicy

structure Journal where
  auditEvents : Table Uuid AuditEvent
  outboxEvents : Table Uuid OutboxEvent

/-- The `BLOBS` table and the files under `blobs/`. -/
structure BlobStore where
  manifests : Table String BlobManifest
  files : Table String (List UInt8)

/-- The sessions a running server keeps in memory only. -/
structure WorkingMemoryStore where
  sessions : Table Uuid WorkingSession

/-- `HangarStore`: the tables of `canonical.redb`, the files beside it, and the working memory and
    embedding provider of the running server. -/
structure Store where
  ingestion : IngestionTables
  projection : ProjectionTables
  index : IndexFiles
  knowledge : KnowledgeTables
  catalog : CatalogTables
  blobs : BlobStore
  apiKeys : Table String ApiKeyRecord
  journal : Journal
  workingMemory : WorkingMemoryStore
  embeddingProvider : EmbeddingProvider

def Store.empty (provider : EmbeddingProvider) : Store where
  ingestion := ⟨∅, ∅, ∅, ∅, ∅⟩
  projection := ⟨∅, ∅, ∅, ∅, ∅, ∅, ∅, ⟨∅, ∅, ∅, ∅, ∅⟩⟩
  index := ⟨∅, ∅⟩
  knowledge := ⟨∅, ∅⟩
  catalog := ⟨∅, ∅⟩
  blobs := ⟨∅, ∅⟩
  apiKeys := ∅
  journal := ⟨∅, ∅⟩
  workingMemory := ⟨∅⟩
  embeddingProvider := provider

/-- A method of the store. Its transactions roll back; its files do not. -/
abbrev Call (α : Type) : Type := Program Store Failure α

def Journal.insertAudit (journal : Journal) (event : AuditEvent) : Journal :=
  { journal with auditEvents := journal.auditEvents.insert event.id event }

def Journal.insertOutbox (journal : Journal) (event : OutboxEvent) : Journal :=
  { journal with outboxEvents := journal.outboxEvents.insert event.id event }

def insertAuditEvent (env : Env) (id : Uuid) (principal : Principal) (action resource : String)
    (journal : Journal) : Journal :=
  journal.insertAudit
    { id := id
      principalId := principal.id
      organizationId := principal.organizationId
      workspaceId := principal.workspaceId
      action := action
      resource := resource
      createdAtUnixMs := env.now }

def insertOutboxEvent (env : Env) (id : Uuid) (eventType subject organizationId : String)
    (workspaceId : Option String) (data : Json) (journal : Journal) : Journal :=
  journal.insertOutbox
    { id := id
      specVersion := 1
      eventType := eventType
      subject := subject
      organizationId := organizationId
      workspaceId := workspaceId
      data := data
      occurredAtUnixMs := env.now }

def audit (env : Env) (s : Store) (principal : Principal) (action resource : String) : Store :=
  { s with journal := insertAuditEvent env (env.uuid 0) principal action resource s.journal }

def ensureScope (organizationId workspaceId : String) : Result Unit := do
  check (!isBlank organizationId) "organization_id cannot be empty"
  check (!isBlank workspaceId) "workspace_id cannot be empty"

section
variable (organizationId workspaceId : String) (s : Store)

def inScope (organizationId' workspaceId' : String) : Bool :=
  organizationId' == organizationId && workspaceId' == workspaceId

def scopedMemories : List Memory :=
  (Table.rows s.knowledge.memories).filter fun memory =>
    inScope organizationId workspaceId memory.organizationId memory.workspaceId

def scopedDocuments : List Document :=
  (Table.rows s.ingestion.documents).filter fun document =>
    inScope organizationId workspaceId document.organizationId document.workspaceId

def scopedBlobs : List BlobManifest :=
  (Table.rows s.blobs.manifests).filter fun blob =>
    inScope organizationId workspaceId blob.organizationId blob.workspaceId

def documentPayload (document : Document) : Result IngestionPayload :=
  found s.ingestion.payloads[document.ingestionJobId]? "document references a missing ingestion payload"

def workspaceUsage : Result WorkspaceUsage := do
  ensureScope organizationId workspaceId
  let memories := scopedMemories organizationId workspaceId s
  let documents := scopedDocuments organizationId workspaceId s
  let ingestionBytes ← documents.foldlM (fun total document => do
    let payload ← documentPayload s document
    return total + payload.content.utf8ByteSize) 0
  let blobs := scopedBlobs organizationId workspaceId s
  let jobs := (Table.rows s.ingestion.jobs).filter fun job =>
    inScope organizationId workspaceId job.organizationId job.workspaceId &&
      (job.status == .queued || job.status == .processing)
  return {
    organizationId := organizationId
    workspaceId := workspaceId
    memoryCount := memories.length
    memoryBytes := (memories.map fun memory => memory.content.utf8ByteSize).sum
    documentCount := documents.length
    ingestionBytes := ingestionBytes
    blobCount := blobs.length
    blobBytes := (blobs.map fun blob => blob.bytes).sum
    queuedOrProcessingJobs := jobs.length }

def exportWorkspace (env : Env) : Result ExportBundle := do
  ensureScope organizationId workspaceId
  let documents ← (scopedDocuments organizationId workspaceId s).mapM fun document => do
    let payload ← documentPayload s document
    return { document := document, content := payload.content : ExportDocument }
  return {
    format := "hangar.workspace.export.v1"
    organizationId := organizationId
    workspaceId := workspaceId
    exportedAtUnixMs := env.now
    retrievedContentIsUntrusted := true
    memories := scopedMemories organizationId workspaceId s
    documents := documents
    skills := (Table.rows s.catalog.agentSkills).filter fun skill =>
      inScope organizationId workspaceId skill.organizationId skill.workspaceId
    guardrailPolicies := (Table.rows s.catalog.guardrailPolicies).filter fun policy =>
      inScope organizationId workspaceId policy.organizationId policy.workspaceId }

end

section
variable (organizationId workspaceId : String) (limits : WorkspaceLimits) (s : Store)

def enforceMemoryLimits (contentBytes : Nat) : Result Unit := do
  let usage ← workspaceUsage organizationId workspaceId s
  check (usage.memoryCount < limits.maxMemories) "workspace memory quota exceeded"
  check (contentBytes ≤ limits.maxMemoryBytes ∧ usage.memoryBytes + contentBytes ≤ limits.maxMemoryBytes)
    "workspace memory byte quota exceeded"

def enforceDocumentLimits (contentBytes : Nat) : Result Unit := do
  check (contentBytes ≤ limits.maxDocumentBytes) "document exceeds the configured byte limit"
  let usage ← workspaceUsage organizationId workspaceId s
  check (usage.documentCount < limits.maxDocuments) "workspace document quota exceeded"
  check (usage.ingestionBytes + contentBytes ≤ limits.maxIngestionBytes)
    "workspace ingestion byte quota exceeded"

def blobKey (sha256 : String) : String := organizationId ++ ":" ++ workspaceId ++ ":" ++ sha256

def enforceBlobLimits (bytes : Nat) (sha256 : String) : Result Unit := do
  check (bytes ≤ limits.maxBlobBytes) "blob exceeds the configured byte limit"
  let usage ← workspaceUsage organizationId workspaceId s
  let alreadyCounted := s.blobs.manifests[blobKey organizationId workspaceId sha256]?.isSome
  check (alreadyCounted = true ∨ usage.blobBytes + bytes ≤ limits.maxBlobsBytes)
    "workspace blob byte quota exceeded"

end

end Hangar
