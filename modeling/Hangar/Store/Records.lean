import Hangar.Lib.Table
import Hangar.Platform

namespace Hangar

open Lib

inductive Json where
  | null
  | num (value : Nat)
  | str (value : String)
  | obj (fields : List (String × Json))

inductive IngestionStatus where
  | queued
  | processing
  | succeeded
  | retryWait
  | deadLetter
deriving DecidableEq

def IngestionStatus.toJson : IngestionStatus → Json
  | .queued => .str "queued"
  | .processing => .str "processing"
  | .succeeded => .str "succeeded"
  | .retryWait => .str "retry_wait"
  | .deadLetter => .str "dead_letter"

structure Document where
  id : Uuid
  organizationId : String
  workspaceId : String
  name : String
  source : Option String
  contentSha256 : HexText
  createdBy : Uuid
  createdAtUnixMs : Nat
  chunkCount : Nat
  ingestionJobId : Uuid
  ingestionStatus : IngestionStatus
deriving DecidableEq

structure IngestionJob where
  id : Uuid
  documentId : Uuid
  organizationId : String
  workspaceId : String
  status : IngestionStatus
  attempts : Nat
  pipelineVersion : Nat
  inputSha256 : HexText
  idempotencyKey : Option String
  lastError : Option String
  nextAttemptAtUnixMs : Option Nat
  leaseExpiresAtUnixMs : Option Nat
  createdAtUnixMs : Nat
  updatedAtUnixMs : Nat
deriving DecidableEq

structure IngestionPayload where
  content : String
deriving DecidableEq

structure IngestionReceipt where
  document : Document
  job : IngestionJob
  deduplicated : Bool
deriving DecidableEq

structure NewDocument where
  organizationId : String
  workspaceId : String
  name : String
  source : Option String
  content : String
  createdBy : Uuid
  idempotencyKey : Option String

structure ClaimedIngestionJob where
  job : IngestionJob
  content : String
deriving DecidableEq

structure DocumentChunk where
  id : Uuid
  documentId : Uuid
  ordinal : Nat
  content : String
deriving DecidableEq

/-- `VectorProjectionState`, `TextProjectionState` and `GraphProjectionState`. -/
inductive ProjectionState where
  | pending
  | ready
deriving DecidableEq

structure VectorManifest where
  chunkId : Uuid
  organizationId : String
  workspaceId : String
  annKey : Nat
  provider : String
  modelRevision : String
  dimensions : Nat
  pipelineVersion : Nat
  sourceSha256 : HexText
  state : ProjectionState
  updatedAtUnixMs : Nat
deriving DecidableEq

structure TextManifest where
  chunkId : Uuid
  organizationId : String
  workspaceId : String
  sourceSha256 : HexText
  pipelineVersion : Nat
  state : ProjectionState
  updatedAtUnixMs : Nat
deriving DecidableEq

structure TextGeneration where
  organizationId : String
  workspaceId : String
  generation : String
  pipelineVersion : Nat
  updatedAtUnixMs : Nat
deriving DecidableEq

structure GraphManifest where
  chunkId : Uuid
  organizationId : String
  workspaceId : String
  sourceSha256 : HexText
  pipelineVersion : Nat
  extractor : String
  extractionVersion : Nat
  state : ProjectionState
  updatedAtUnixMs : Nat
deriving DecidableEq

structure GraphEntity where
  id : Uuid
  organizationId : String
  workspaceId : String
  normalizedName : String
  displayName : String
  entityType : String
  extractor : String
  extractionVersion : Nat
  createdAtUnixMs : Nat
  updatedAtUnixMs : Nat
deriving DecidableEq

structure GraphEdge where
  id : Uuid
  organizationId : String
  workspaceId : String
  sourceEntityId : Uuid
  targetEntityId : Uuid
  relationType : String
  confidence : ℚ
  extractor : String
  extractionVersion : Nat
  createdAtUnixMs : Nat
  updatedAtUnixMs : Nat
deriving DecidableEq

structure GraphEdgeEvidence where
  edgeId : Uuid
  chunkId : Uuid
  sourceSha256 : HexText
  confidence : ℚ
  createdAtUnixMs : Nat
deriving DecidableEq

structure TextEntry where
  chunkId : String
  content : String
deriving DecidableEq

inductive MemoryLifecycle where
  | proposed
  | validated
  | published
  | superseded
  | expired
deriving DecidableEq

def MemoryLifecycle.toJson : MemoryLifecycle → Json
  | .proposed => .str "proposed"
  | .validated => .str "validated"
  | .published => .str "published"
  | .superseded => .str "superseded"
  | .expired => .str "expired"

inductive MemoryRetention where
  | indefinite
  | expireAt
deriving DecidableEq

inductive MemoryProvenance where
  | direct
  | sessionPromotion (sessionId entryId : Uuid) (entrySha256 : HexText) (sessionCreatedBy : Uuid)
deriving DecidableEq

def MemoryProvenance.toJson : MemoryProvenance → Json
  | .direct => .obj [("kind", .str "direct")]
  | .sessionPromotion sessionId entryId entrySha256 sessionCreatedBy =>
    .obj [("kind", .str "session_promotion"), ("session_id", .str sessionId.text),
      ("entry_id", .str entryId.text), ("entry_sha256", .str entrySha256.text),
      ("session_created_by", .str sessionCreatedBy.text)]

structure Memory where
  id : Uuid
  organizationId : String
  workspaceId : String
  content : String
  source : Option String
  contentSha256 : HexText
  createdBy : Uuid
  confidence : ℚ
  lifecycle : MemoryLifecycle
  createdAtUnixMs : Nat
  updatedAtUnixMs : Nat
  expiresAtUnixMs : Option Nat
  supersededBy : Option Uuid
  version : Nat
  retention : MemoryRetention
  provenance : MemoryProvenance
deriving DecidableEq

structure NewMemory where
  organizationId : String
  workspaceId : String
  content : String
  source : Option String
  createdBy : Uuid
  confidence : ℚ
  expiresAtUnixMs : Option Nat
  provenance : MemoryProvenance

structure MemoryTransition where
  lifecycle : MemoryLifecycle
  expiresAtUnixMs : Option Nat
  supersededBy : Option Uuid

inductive WorkingMemoryKind where
  | note
  | toolOutput
  | observation
deriving DecidableEq

structure WorkingMemoryEntry where
  id : Uuid
  kind : WorkingMemoryKind
  content : String
  contentSha256 : HexText
  createdBy : Uuid
  createdAtUnixMs : Nat
deriving DecidableEq

structure WorkingSessionSummary where
  content : String
  contentSha256 : HexText
  updatedBy : Uuid
  updatedAtUnixMs : Nat
  version : Nat
deriving DecidableEq

structure WorkingSession where
  id : Uuid
  organizationId : String
  workspaceId : String
  createdBy : Uuid
  createdAtUnixMs : Nat
  updatedAtUnixMs : Nat
  expiresAtUnixMs : Nat
  summary : Option WorkingSessionSummary
  entries : List WorkingMemoryEntry
deriving DecidableEq

structure NewWorkingSession where
  organizationId : String
  workspaceId : String
  createdBy : Uuid
  ttlMs : Option Nat

structure NewWorkingMemoryEntry where
  kind : WorkingMemoryKind
  content : String
  createdBy : Uuid

inductive SubjectKind where
  | agent
  | user
deriving DecidableEq

inductive ShareAudience where
  | organization
  | workspace (workspaceId : String)
  | agent (subjectId : Uuid)
  | user (subjectId : Uuid)
deriving DecidableEq

inductive ShareReviewState where
  | pending
  | approved
  | rejected
  | revoked
deriving DecidableEq

structure MemoryShare where
  id : Uuid
  organizationId : String
  sourceWorkspaceId : String
  memoryId : Uuid
  audience : ShareAudience
  state : ShareReviewState
  proposedBy : Uuid
  reviewedBy : Option Uuid
  reviewNote : Option String
  sourceMemoryVersion : Nat
  expiresAtUnixMs : Option Nat
  createdAtUnixMs : Nat
  updatedAtUnixMs : Nat
  version : Nat
deriving DecidableEq

inductive Role where
  | owner
  | writer
  | reader
deriving DecidableEq

structure Principal where
  id : Uuid
  organizationId : String
  workspaceId : Option String
  role : Role
  subjectKind : SubjectKind
deriving DecidableEq

structure ApiKeyRecord where
  principal : Principal
  tokenHash : HexText
  createdAtUnixMs : Nat
deriving DecidableEq

inductive GuardrailAction where
  | memoryRead
  | memoryShare
  | contextRead
  | export
  | skillRead
  | skillUse
  | toolInvoke
deriving DecidableEq

def GuardrailAction.asStr : GuardrailAction → String
  | .memoryRead => "memory.read"
  | .memoryShare => "memory.share"
  | .contextRead => "context.read"
  | .export => "workspace.export"
  | .skillRead => "skill.read"
  | .skillUse => "skill.use"
  | .toolInvoke => "tool.invoke"

structure SkillCapabilities where
  declaredTools : List String
  declaredContextActions : List GuardrailAction
deriving DecidableEq

inductive SkillLifecycle where
  | draft
  | published
  | revoked
deriving DecidableEq

structure AgentSkill where
  id : Uuid
  organizationId : String
  workspaceId : String
  name : String
  version : Nat
  description : String
  content : String
  contentSha256 : HexText
  capabilities : SkillCapabilities
  lifecycle : SkillLifecycle
  createdBy : Uuid
  createdAtUnixMs : Nat
  updatedAtUnixMs : Nat
deriving DecidableEq

inductive PolicyEffect where
  | allow
  | deny
deriving DecidableEq

inductive PolicyLifecycle where
  | draft
  | enforced
  | retired
deriving DecidableEq

structure GuardrailRule where
  id : String
  action : GuardrailAction
  effect : PolicyEffect
  roles : List Role
  targets : List String
deriving DecidableEq

structure GuardrailPolicy where
  id : Uuid
  organizationId : String
  workspaceId : String
  name : String
  version : Nat
  lifecycle : PolicyLifecycle
  rules : List GuardrailRule
  createdBy : Uuid
  createdAtUnixMs : Nat
  updatedAtUnixMs : Nat
deriving DecidableEq

structure AuditEvent where
  id : Uuid
  principalId : Uuid
  organizationId : String
  workspaceId : Option String
  action : String
  resource : String
  createdAtUnixMs : Nat
deriving DecidableEq

structure OutboxEvent where
  id : Uuid
  specVersion : Nat
  eventType : String
  subject : String
  organizationId : String
  workspaceId : Option String
  data : Json
  occurredAtUnixMs : Nat

structure BlobManifest where
  organizationId : String
  workspaceId : String
  sha256 : HexText
  bytes : Nat
  mediaType : String
deriving DecidableEq

structure BlobReceipt where
  sha256 : HexText
  bytes : Nat
  mediaType : String
  deduplicated : Bool
deriving DecidableEq

structure WorkspaceLimits where
  maxDocumentBytes : Nat
  maxDocuments : Nat
  maxIngestionBytes : Nat
  maxBlobBytes : Nat
  maxBlobsBytes : Nat
  maxMemories : Nat
  maxMemoryBytes : Nat

structure WorkspaceUsage where
  organizationId : String
  workspaceId : String
  memoryCount : Nat
  memoryBytes : Nat
  documentCount : Nat
  ingestionBytes : Nat
  blobCount : Nat
  blobBytes : Nat
  queuedOrProcessingJobs : Nat
deriving DecidableEq

structure ExportDocument where
  document : Document
  content : String

structure ExportBundle where
  format : String
  organizationId : String
  workspaceId : String
  exportedAtUnixMs : Nat
  retrievedContentIsUntrusted : Bool
  memories : List Memory
  documents : List ExportDocument
  skills : List AgentSkill
  guardrailPolicies : List GuardrailPolicy

end Hangar
