import Hangar.Ingestion.Queue
import Hangar.Projection.Graph

namespace Hangar

open Lib

variable (x : Externals) (env : Env) (fault : Option Fault) (organizationId workspaceId : String)

/-- `chunks_by_id`: the stored chunks by their own ids. -/
def chunksById (s : Store) : Table Uuid DocumentChunk :=
  Table.insertAll ∅ ((Table.rows s.projection.chunks).map fun chunk => (chunk.id, chunk))

def documentsById (s : Store) : Table Uuid Document :=
  Table.insertAll ∅ ((Table.rows s.ingestion.documents).map fun document => (document.id, document))

/-- The chunk a ready manifest stands for, if its document is visible in this workspace and its text
    is still the one the manifest was made from. -/
def readyChunk (s : Store) (chunkId : Uuid) (sourceSha256 : HexText) : Option DocumentChunk := do
  let chunk ← (chunksById s)[chunkId]?
  let document ← (documentsById s)[chunk.documentId]?
  if inScope organizationId workspaceId document.organizationId document.workspaceId &&
      document.ingestionStatus == .succeeded && sourceSha256 == x.sha256Text chunk.content then
    some chunk
  else none

def readyVectorManifest (s : Store) (manifest : VectorManifest) : Bool :=
  inScope organizationId workspaceId manifest.organizationId manifest.workspaceId &&
    manifest.state == .ready &&
    s.embeddingProvider.profile.matchesManifest manifest.provider manifest.modelRevision manifest.dimensions &&
    manifest.pipelineVersion == ingestionPipelineVersion

def embed (s : Store) (text : String) : Result (List ℚ) :=
  match x.embed s.embeddingProvider text with
  | .ok vector => .ok vector
  | .error message => .error (.external message)

def readyVectorEntries (s : Store) : Result (List (Nat × List ℚ)) :=
  (Table.rows s.projection.vectorManifests).foldlM (fun entries manifest =>
    if readyVectorManifest organizationId workspaceId s manifest then
      match readyChunk x organizationId workspaceId s manifest.chunkId manifest.sourceSha256 with
      | some chunk =>
        if entries.any fun entry => entry.1 == manifest.annKey then return entries
        else do
          let vector ← embed x s chunk.content
          return entries ++ [(manifest.annKey, vector)]
      | none => return entries
    else return entries) []

def readyTextEntries (s : Store) : List TextEntry :=
  (Table.rows s.projection.textManifests).filterMap fun manifest =>
    if inScope organizationId workspaceId manifest.organizationId manifest.workspaceId &&
        manifest.state == .ready && manifest.pipelineVersion == ingestionPipelineVersion then
      (readyChunk x organizationId workspaceId s manifest.chunkId manifest.sourceSha256).map fun chunk =>
        ⟨chunk.id.text, chunk.content⟩
    else none

def readyGraphChunks (s : Store) : List DocumentChunk :=
  (Table.rows s.projection.graphManifests).filterMap fun manifest =>
    if inScope organizationId workspaceId manifest.organizationId manifest.workspaceId &&
        manifest.state == .ready && manifest.pipelineVersion == ingestionPipelineVersion &&
        manifest.extractor == deterministicExtractor && manifest.extractionVersion == extractionVersion then
      readyChunk x organizationId workspaceId s manifest.chunkId manifest.sourceSha256
    else none

def publishGenerationWithPending (pendingEntries : List (Nat × List ℚ)) : Call Unit := do
  let entries ← Program.query (readyVectorEntries x organizationId workspaceId)
  let entries ← Program.query fun _ => pendingEntries.foldlM (fun entries pending => do
    check (¬ entries.any fun entry => entry.1 == pending.1) "duplicate ANN key in vector generation"
    return entries ++ [pending]) entries
  let profile ← Program.query fun s => .ok s.embeddingProvider.profile
  WorkspaceVectorIndex.publishGeneration x fault organizationId workspaceId profile entries

/-- `generation` is the id this call draws after the chunk ids. -/
def publishTextGenerationWithPending (generation : Uuid) (pendingEntries : List TextEntry) : Call String := do
  let entries ← Program.query fun s => .ok (readyTextEntries x organizationId workspaceId s)
  WorkspaceTextIndex.publishGeneration x fault organizationId workspaceId generation.text
    (entries ++ pendingEntries)
  return generation.text

def insertActiveTextGeneration (generation : String) (s : Store) : Store :=
  let record : TextGeneration :=
    { organizationId := organizationId
      workspaceId := workspaceId
      generation := generation
      pipelineVersion := ingestionPipelineVersion
      updatedAtUnixMs := env.now }
  { s with projection := { s.projection with
      textActiveGenerations :=
        s.projection.textActiveGenerations.insert (textGenerationKey x organizationId workspaceId) record } }

def activeTextGeneration (s : Store) : Option TextGeneration :=
  s.projection.textActiveGenerations[textGenerationKey x organizationId workspaceId]?

def activePaths (s : Store) : List (String × String) :=
  (Table.rows s.projection.textActiveGenerations).map fun record =>
    generationPath x record.organizationId record.workspaceId record.generation

def cleanupTextGenerations : Call Nat := do
  let active ← Program.query fun s => .ok (activePaths x s)
  WorkspaceTextIndex.cleanupUnreferencedGenerations active

def rebuildVectorWorkspace : Call Nat := do
  let entries ← Program.query (readyVectorEntries x organizationId workspaceId)
  let profile ← Program.query fun s => .ok s.embeddingProvider.profile
  WorkspaceVectorIndex.publishGeneration x fault organizationId workspaceId profile entries
  return entries.length

def rebuildTextWorkspace (generation : Uuid) : Call Nat := do
  let entries ← Program.query fun s => .ok (readyTextEntries x organizationId workspaceId s)
  WorkspaceTextIndex.publishGeneration x fault organizationId workspaceId generation.text entries
  Program.transaction fun s =>
    .ok (insertActiveTextGeneration x env organizationId workspaceId generation.text s, ())
  stopAt fault .textActivated
  let _ ← cleanupTextGenerations x
  return entries.length

def rebuildGraphWorkspace : Call Nat :=
  Program.transaction fun s => do
    let chunks := readyGraphChunks x organizationId workspaceId s
    let cleared := clearGraphWorkspace x organizationId workspaceId s.projection.graph
    let graph ← materializeGraphChunks x env organizationId workspaceId cleared chunks
    return ({ s with projection := { s.projection with graph := graph } }, chunks.length)

def systemPrincipal : Principal where
  id := Uuid.nil
  organizationId := organizationId
  workspaceId := some workspaceId
  role := .owner
  subjectKind := .agent

def auditSystem (id : Uuid) (action : String) : Call Unit :=
  Program.transaction fun s =>
    let principal := systemPrincipal organizationId workspaceId
    .ok ({ s with journal := insertAuditEvent env id principal action "workspace" s.journal }, ())

def scopeSet (scopes : List (String × String)) : List (String × String) :=
  (Table.insertAll (∅ : Table (String × String) Unit) (scopes.map fun scope => (scope, ()))).keys

/-- The loop of the three reconciliations; its turn `i` draws its audit id at `auditId i`. -/
def reconcileScopes (kind : String) (rebuild : Nat → String → String → Call Nat) (auditId : Nat → Nat)
    (scopes : List (String × String)) : Call Unit :=
  scopes.zipIdx.forM fun turn => do
    match ← Program.attempt (rebuild turn.2 turn.1.1 turn.1.2) with
    | .ok _ =>
      auditSystem env turn.1.1 turn.1.2 (env.uuid (auditId turn.2)) (kind ++ ".reconciliation.succeeded")
    | .error e =>
      let _ ← Program.attempt
        (auditSystem env turn.1.1 turn.1.2 (env.uuid (auditId turn.2)) (kind ++ ".reconciliation.failed"))
      Program.fail e

section
variable (faults : Nat → Option Fault)

def reconcileVectorProjection : Call Nat := do
  let removed ← WorkspaceVectorIndex.removeStaleTemporaryFiles
  let scopes ← Program.query fun s => .ok (scopeSet ((Table.rows s.projection.vectorManifests).map
    fun manifest => (manifest.organizationId, manifest.workspaceId)))
  reconcileScopes env "vector" (fun i => rebuildVectorWorkspace x (faults i)) id scopes
  return removed

def reconcileTextProjection : Call Nat := do
  let scopes ← Program.query fun s => .ok (scopeSet ((Table.rows s.projection.textManifests).map
    fun manifest => (manifest.organizationId, manifest.workspaceId)))
  reconcileScopes env "text" (fun i organizationId workspaceId =>
    rebuildTextWorkspace x env (faults i) organizationId workspaceId (env.uuid (2 * i)))
    (fun i => 2 * i + 1) scopes
  cleanupTextGenerations x

def reconcileGraphProjection : Call Nat := do
  let scopes ← Program.query fun s => .ok (scopeSet ((Table.rows s.projection.graphManifests).map
    fun manifest => (manifest.organizationId, manifest.workspaceId)))
  reconcileScopes env "graph" (fun _ => rebuildGraphWorkspace x env) id scopes
  return scopes.length

end

end Hangar
