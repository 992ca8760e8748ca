import Hangar.Blob.Put
import Hangar.Catalog.Catalog
import Hangar.Ingestion.Process
import Hangar.Knowledge.Context
import Hangar.Knowledge.Sessions
import Hangar.Lib.Transition

namespace Hangar

open Lib

inductive IngestionOp where
  | enqueueDocument (new : NewDocument)
  | enqueueDocumentWithLimits (new : NewDocument) (limits : WorkspaceLimits)
  | recoverIncompleteIngestionJobs
  | claimNextIngestionJob
  | processClaimedIngestionJob (claimed : ClaimedIngestionJob) (fault : Option Fault)
  | failClaimedIngestionJob (jobId : Uuid) (error : String)
  | retryDeadLetterIngestionJob (id : Uuid) (organizationId workspaceId : String)

inductive ProjectionOp where
  | rebuildVectorWorkspace (organizationId workspaceId : String) (fault : Option Fault)
  | rebuildTextWorkspace (organizationId workspaceId : String) (fault : Option Fault)
  | rebuildGraphWorkspace (organizationId workspaceId : String)
  | reconcileVectorProjection (faults : Nat → Option Fault)
  | reconcileTextProjection (faults : Nat → Option Fault)
  | reconcileGraphProjection

inductive KnowledgeOp where
  | createMemory (new : NewMemory)
  | createMemoryWithLimits (new : NewMemory) (limits : WorkspaceLimits)
  | transitionMemory (id : Uuid) (organizationId workspaceId : String) (transition : MemoryTransition)
  | expireDueMemories
  | getMemory (id : Uuid) (organizationId workspaceId : String)
  | retrieve (organizationId workspaceId query : String) (limit : Nat)
  | proposeMemoryShare (organizationId sourceWorkspaceId : String) (memoryId : Uuid)
      (audience : ShareAudience) (proposedBy : Uuid) (expiresAtUnixMs : Option Nat)
  | reviewMemoryShare (organizationId sourceWorkspaceId : String) (id : Uuid) (state : ShareReviewState)
      (reviewedBy : Uuid) (reviewNote : Option String)
  | compileContextPackage (principal : Principal) (requestWorkspaceId query : String)
      (tokenBudget limit : Nat)
  | createWorkingSession (new : NewWorkingSession)
  | getWorkingSession (organizationId workspaceId : String) (principalId id : Uuid)
  | appendWorkingMemory (organizationId workspaceId : String) (principalId sessionId : Uuid)
      (new : NewWorkingMemoryEntry)
  | updateWorkingSummary (organizationId workspaceId : String) (principalId sessionId : Uuid) (content : String)
  | promoteWorkingMemory (organizationId workspaceId : String) (principalId sessionId entryId : Uuid)
      (promotion : Promotion)
  | promoteWorkingMemoryWithLimits (organizationId workspaceId : String)
      (principalId sessionId entryId : Uuid) (promotion : Promotion) (limits : WorkspaceLimits)

inductive CatalogOp where
  | createSkill (new : NewAgentSkill)
  | transitionSkill (id : Uuid) (organizationId workspaceId : String) (lifecycle : SkillLifecycle)
  | createGuardrailPolicy (new : NewGuardrailPolicy)
  | transitionGuardrailPolicy (id : Uuid) (organizationId workspaceId : String) (lifecycle : PolicyLifecycle)
  | issueApiKeyForSubject (organizationId : String) (workspaceId : Option String) (role : Role)
      (subjectKind : SubjectKind)

inductive BlobOp where
  | putBlob (organizationId workspaceId mediaType : String) (content : List UInt8) (sha256 : String)
      (fault : Option WriteFault)
  | putBlobWithLimits (organizationId workspaceId mediaType : String) (content : List UInt8)
      (sha256 : String) (limits : WorkspaceLimits) (fault : Option WriteFault)

/-- The calls that may change the store. A restart keeps the data, forgets the working memory and selects
    an embedding provider. -/
inductive Op where
  | ingestion (op : IngestionOp)
  | projection (op : ProjectionOp)
  | knowledge (op : KnowledgeOp)
  | catalog (op : CatalogOp)
  | blob (op : BlobOp)
  | audit (principal : Principal) (action resource : String)
  | restart (provider : EmbeddingProvider)

variable (x : Externals) (engines : SearchEngines) (env : Env)

def callIngestion : IngestionOp → Call Unit
  | .enqueueDocument new => do
    let _ ← Program.transaction (enqueueDocument x env · new)
  | .enqueueDocumentWithLimits new limits => do
    let _ ← Program.transaction (enqueueDocumentWithLimits x env · new limits)
  | .recoverIncompleteIngestionJobs => do
    let _ ← Program.transaction (recoverIncompleteIngestionJobs env)
  | .claimNextIngestionJob => do
    let _ ← Program.transaction (claimNextIngestionJob env)
  | .processClaimedIngestionJob claimed fault => do
    let _ ← processClaimedIngestionJob x env fault claimed
  | .failClaimedIngestionJob jobId error => do
    let _ ← Program.transaction (failClaimedIngestionJob env · jobId error)
  | .retryDeadLetterIngestionJob id organizationId workspaceId => do
    let _ ← Program.transaction (retryDeadLetterIngestionJob env · id organizationId workspaceId)

def callProjection : ProjectionOp → Call Unit
  | .rebuildVectorWorkspace organizationId workspaceId fault => do
    let _ ← rebuildVectorWorkspace x fault organizationId workspaceId
  | .rebuildTextWorkspace organizationId workspaceId fault => do
    let _ ← rebuildTextWorkspace x env fault organizationId workspaceId (env.uuid 0)
  | .rebuildGraphWorkspace organizationId workspaceId => do
    let _ ← rebuildGraphWorkspace x env organizationId workspaceId
  | .reconcileVectorProjection faults => do
    let _ ← reconcileVectorProjection x env faults
  | .reconcileTextProjection faults => do
    let _ ← reconcileTextProjection x env faults
  | .reconcileGraphProjection => do
    let _ ← reconcileGraphProjection x env

def callKnowledge : KnowledgeOp → Call Unit
  | .createMemory new => do
    let _ ← Program.transaction (createMemory x env new)
  | .createMemoryWithLimits new limits => do
    let _ ← Program.transaction (createMemoryWithLimits x env new limits)
  | .transitionMemory id organizationId workspaceId transition => do
    let _ ← Program.transaction (transitionMemory env id organizationId workspaceId transition)
  | .expireDueMemories => do
    let _ ← expireDueMemories env
  | .getMemory id organizationId workspaceId => do
    let _ ← getMemory env organizationId workspaceId id
  | .retrieve organizationId workspaceId query limit => do
    let _ ← retrieve x env organizationId workspaceId query limit
  | .proposeMemoryShare organizationId sourceWorkspaceId memoryId audience proposedBy expiresAtUnixMs => do
    let _ ← Program.transaction (proposeMemoryShare env organizationId sourceWorkspaceId memoryId audience
      proposedBy expiresAtUnixMs)
  | .reviewMemoryShare organizationId sourceWorkspaceId id state reviewedBy reviewNote => do
    let _ ← Program.transaction (reviewMemoryShare env organizationId sourceWorkspaceId id state reviewedBy
      reviewNote)
  | .compileContextPackage principal requestWorkspaceId query tokenBudget limit => do
    let _ ← compileContextPackage x engines env principal requestWorkspaceId query tokenBudget limit
  | .createWorkingSession new => do
    let _ ← createWorkingSession env new
  | .getWorkingSession organizationId workspaceId principalId id => do
    let _ ← getWorkingSession env organizationId workspaceId principalId id
  | .appendWorkingMemory organizationId workspaceId principalId sessionId new => do
    let _ ← appendWorkingMemory x env organizationId workspaceId principalId sessionId new
  | .updateWorkingSummary organizationId workspaceId principalId sessionId content => do
    let _ ← updateWorkingSummary x env organizationId workspaceId principalId sessionId content
  | .promoteWorkingMemory organizationId workspaceId principalId sessionId entryId promotion => do
    let _ ← promoteWorkingMemory x env organizationId workspaceId principalId sessionId entryId promotion
  | .promoteWorkingMemoryWithLimits organizationId workspaceId principalId sessionId entryId promotion limits => do
    let _ ← promoteWorkingMemoryWithLimits x env organizationId workspaceId principalId sessionId entryId promotion
      limits

def callCatalog : CatalogOp → Call Unit
  | .createSkill new => do
    let _ ← Program.transaction (createSkill x env new)
  | .transitionSkill id organizationId workspaceId lifecycle => do
    let _ ← Program.transaction (transitionSkill env id organizationId workspaceId lifecycle)
  | .createGuardrailPolicy new => do
    let _ ← Program.transaction (createGuardrailPolicy env new)
  | .transitionGuardrailPolicy id organizationId workspaceId lifecycle => do
    let _ ← Program.transaction (transitionGuardrailPolicy env id organizationId workspaceId lifecycle)
  | .issueApiKeyForSubject organizationId workspaceId role subjectKind => do
    let _ ← Program.transaction (issueApiKeyForSubject x env organizationId workspaceId role subjectKind)

def callBlob : BlobOp → Call Unit
  | .putBlob organizationId workspaceId mediaType content sha256 fault => do
    let _ ← putBlob x fault organizationId workspaceId mediaType content sha256
  | .putBlobWithLimits organizationId workspaceId mediaType content sha256 limits fault => do
    let _ ← putBlobWithLimits x fault organizationId workspaceId mediaType content sha256 limits

def callStore : Op → Call Unit
  | .ingestion op => callIngestion x env op
  | .projection op => callProjection x env op
  | .knowledge op => callKnowledge x engines env op
  | .catalog op => callCatalog x env op
  | .blob op => callBlob x op
  | .audit principal action resource => Program.update fun s => audit env s principal action resource
  | .restart provider => Program.update fun s => { s with
      workingMemory := ⟨∅⟩
      embeddingProvider := provider }

theorem transaction_of_ok {α : Type} {s s' : Store} {f : Store → Result (Store × α)} {a : α} (run : f s = .ok (s', a)) :
    ((do let _ ← Program.transaction f : Call Unit) s).1 = s' := by
  change (Program.andThen (Program.transaction f) (fun _ => Pure.pure ()) s).1 = _
  unfold Program.andThen Program.transaction
  rw [run]
  rfl

theorem transaction_of_error {α : Type} {s : Store} {f : Store → Result (Store × α)} {e : Failure} (run : f s = .error e) :
    ((do let _ ← Program.transaction f : Call Unit) s).1 = s := by
  change (Program.andThen (Program.transaction f) (fun _ => Pure.pure ()) s).1 = _
  unfold Program.andThen Program.transaction
  rw [run]

/-- A running server: its store and the claims it has handed out. `minted` records, for the proofs
    only, which chunk ids were drawn for which document. -/
structure Server where
  store : Store
  claimed : List ClaimedIngestionJob
  minted : List (Uuid × Uuid)

def Server.initial (provider : EmbeddingProvider) : Server := ⟨Store.empty provider, [], []⟩

structure Event where
  env : Env
  op : Op

def Op.claims (s : Store) : Op → List ClaimedIngestionJob
  | .ingestion .claimNextIngestionJob =>
    match claimNextIngestionJob env s with
    | .ok (_, some claimed) => [claimed]
    | _ => []
  | _ => []

def Op.mints : Op → List (Uuid × Uuid)
  | .ingestion (.processClaimedIngestionJob claimed _) =>
    (newChunks env claimed.job.documentId (chunkText claimed.content maximumChunkChars)).map
      fun chunk => (chunk.documentId, chunk.id)
  | _ => []

/-- A claim may be processed once some earlier call has returned it, however long ago. -/
def Op.Permitted (server : Server) : Op → Prop
  | .ingestion (.processClaimedIngestionJob claimed _) => claimed ∈ server.claimed
  | _ => True

def Server.next (server : Server) (event : Event) : Server where
  store := (callStore x engines event.env event.op server.store).1
  claimed := server.claimed ++ event.op.claims event.env server.store
  minted := server.minted ++ event.op.mints event.env

def Server.Uses (server : Server) (id : Uuid) : Prop :=
  id ∈ server.store.ingestion.documents ∨ id ∈ server.store.ingestion.jobs ∨
    (∃ document, (document, id) ∈ server.minted) ∨ id ∈ server.store.knowledge.memories ∨
    id ∈ server.store.knowledge.memoryShares ∨ id ∈ server.store.catalog.agentSkills ∨
    id ∈ server.store.catalog.guardrailPolicies ∨ id ∈ server.store.workingMemory.sessions ∨
    ∃ session ∈ Table.rows server.store.workingMemory.sessions, ∃ entry ∈ session.entries, entry.id = id

/-- `Uuid::now_v7` returns a new id each time. -/
structure Env.Fresh (env : Env) (server : Server) : Prop where
  distinct : Function.Injective env.uuid
  unused : ∀ i, ¬ server.Uses (env.uuid i)

structure Step (server : Server) (event : Event) (server' : Server) : Prop where
  fresh : event.env.Fresh server
  permitted : event.op.Permitted server
  next : server' = server.next x engines event

def Reachable (server : Server) : Prop :=
  ∃ provider, Reaches (Step x engines) (Server.initial provider) server

end Hangar
