import Hangar.Projection.Rebuild
import Mathlib.Algebra.Field.Rat
import Mathlib.Algebra.Order.Ring.Unbundled.Rat
import Mathlib.Data.List.Sort

namespace Hangar

open Lib

def graphMaxHops : Nat := 3
def graphMaxTraversedEdges : Nat := 128

/-- The search engines behind the two indexes: what they answer from the entries of a file. -/
structure SearchEngines where
  text : List TextEntry → String → Nat → Except String (List (String × ℚ))
  vector : List (Nat × List ℚ) → List ℚ → Nat → Except String (List (Nat × ℚ))

structure GraphCandidate where
  edgeId : Uuid
  chunkId : Uuid
  score : ℚ
  hops : Nat
deriving DecidableEq

structure GraphResult where
  sourceEntity : String
  targetEntity : String
  relationType : String
  confidence : ℚ
  hops : Nat
  documentId : Uuid
  documentName : String
  source : Option String
  ordinal : Nat
  content : String
deriving DecidableEq

structure RetrievedChunk where
  documentId : Uuid
  documentName : String
  source : Option String
  ordinal : Nat
  content : String
  score : ℚ
  vectorScore : Option ℚ
  graphScore : Option ℚ
  graphHops : Option Nat
  finalScore : ℚ
  embeddingProvider : Option String
  embeddingModelRevision : Option String
deriving DecidableEq

/-- `limit.saturating_mul(4).max(limit)` on `usize`. -/
def candidateLimit (limit : Nat) : Nat := max (min (limit * 4) (2 ^ 64 - 1)) limit

structure Traversal where
  frontier : List (Uuid × Nat)
  visited : Table Uuid Nat
  candidates : Table Uuid GraphCandidate
  traversedEdges : Nat

def Traversal.consider (t : Traversal) (edge : GraphEdge) (nextHops : Nat) (evidence : GraphEdgeEvidence) :
    Traversal :=
  let candidate : GraphCandidate :=
    { edgeId := edge.id
      chunkId := evidence.chunkId
      score := edge.confidence / nextHops
      hops := nextHops }
  let replace := (t.candidates[candidate.chunkId]?).all fun current => candidate.score > current.score
  if replace then { t with candidates := t.candidates.insert candidate.chunkId candidate } else t

def Traversal.follow (evidence : Uuid → List GraphEdgeEvidence) (entityId : Uuid) (hops : Nat) (t : Traversal)
    (edge : GraphEdge) : Traversal :=
  let next := if edge.sourceEntityId = entityId then edge.targetEntityId else edge.sourceEntityId
  let nextHops := hops + 1
  let t := { t with traversedEdges := t.traversedEdges + 1 }
  let t := if (t.visited[next]?).all fun existing => nextHops < existing then
      { t with
        visited := t.visited.insert next nextHops
        frontier := t.frontier ++ [(next, nextHops)] }
    else t
  (evidence edge.id).foldl (fun t evidence => t.consider edge nextHops evidence) t

/-- The edges of one entity, until the budget of traversed edges is used up. -/
def Traversal.followAll (evidence : Uuid → List GraphEdgeEvidence) (entityId : Uuid) (hops : Nat) :
    List GraphEdge → Traversal → Traversal
  | [], t => t
  | edge :: rest, t =>
    let t := t.follow evidence entityId hops edge
    if t.traversedEdges ≥ graphMaxTraversedEdges then t else followAll evidence entityId hops rest t

/-- The queue of `graph_candidates`. Only the seeds and one entity for each traversed edge ever enter
    it, so `fuel` turns empty it. -/
def Traversal.run (edges : List GraphEdge) (evidence : Uuid → List GraphEdgeEvidence) (maxHops : Nat) :
    Nat → Traversal → Traversal
  | 0, t => t
  | fuel + 1, t =>
    match t.frontier with
    | [] => t
    | (entityId, hops) :: frontier =>
      let t := { t with frontier := frontier }
      if hops ≥ maxHops ∨ t.traversedEdges ≥ graphMaxTraversedEdges then run edges evidence maxHops fuel t
      else
        let incident := edges.filter fun edge =>
          edge.sourceEntityId == entityId || edge.targetEntityId == entityId
        run edges evidence maxHops fuel (t.followAll evidence entityId hops incident)

variable (x : Externals) (engines : SearchEngines) (organizationId workspaceId : String)

def entityMap (t : GraphTables) : Table Uuid GraphEntity :=
  Table.insertAll ∅ (((Table.rows t.entities).filter fun entity =>
    inScope organizationId workspaceId entity.organizationId entity.workspaceId).map fun entity =>
      (entity.id, entity))

def edgeMap (t : GraphTables) : Table Uuid GraphEdge :=
  Table.insertAll ∅ (((Table.rows t.edges).filter fun edge =>
    inScope organizationId workspaceId edge.organizationId edge.workspaceId).map fun edge => (edge.id, edge))

def evidenceByEdge (t : GraphTables) (edgeId : Uuid) : List GraphEdgeEvidence :=
  (Table.rows t.edgeEvidence).filter fun evidence => evidence.edgeId == edgeId

def graphCandidates (query : String) (limit maxHops : Nat) (s : Store) : List GraphCandidate :=
  let terms := queryTerms x query
  if terms.isEmpty then []
  else
    let graph := s.projection.graph
    let edges := Table.rows (edgeMap organizationId workspaceId graph)
    let seeds := ((Table.rows (entityMap organizationId workspaceId graph)).filter fun entity =>
      terms.contains entity.normalizedName).map fun entity => (entity.id, 0)
    let traversal := Traversal.run edges (evidenceByEdge graph) (max 1 (min maxHops graphMaxHops))
      (seeds.length + graphMaxTraversedEdges)
      { frontier := seeds, visited := Table.insertAll ∅ seeds, candidates := ∅, traversedEdges := 0 }
    ((Table.rows traversal.candidates).insertionSort fun left right => right.score ≤ left.score).take limit

/-- The chunk, document and manifest checks of `retrieve_graph`, and the result they let through. -/
def graphResult (s : Store) (candidate : GraphCandidate) : Option GraphResult := do
  let chunk ← (chunksById s)[candidate.chunkId]?
  let document ← (documentsById s)[chunk.documentId]?
  let manifest ← s.projection.graphManifests[candidate.chunkId]?
  if inScope organizationId workspaceId document.organizationId document.workspaceId &&
      document.ingestionStatus == .succeeded &&
      inScope organizationId workspaceId manifest.organizationId manifest.workspaceId &&
      manifest.state == .ready && manifest.pipelineVersion == ingestionPipelineVersion then
    let edge ← s.projection.graph.edges[candidate.edgeId]?
    let entities := entityMap organizationId workspaceId s.projection.graph
    let sourceEntity ← entities[edge.sourceEntityId]?
    let targetEntity ← entities[edge.targetEntityId]?
    some {
      sourceEntity := sourceEntity.displayName
      targetEntity := targetEntity.displayName
      relationType := edge.relationType
      confidence := edge.confidence
      hops := candidate.hops
      documentId := document.id
      documentName := document.name
      source := document.source
      ordinal := chunk.ordinal
      content := chunk.content }
  else none

def retrieveGraph (query : String) (limit maxHops : Nat) (s : Store) : Result (List GraphResult) := do
  check (!isBlank query) "query cannot be empty"
  let candidates := graphCandidates x organizationId workspaceId query (candidateLimit limit) maxHops s
  let results := candidates.filterMap (graphResult organizationId workspaceId s)
  return (results.insertionSort fun left right => left.hops ≤ right.hops).take limit

/-- `WorkspaceTextIndex::search`. -/
def searchText (generation query : String) (limit : Nat) (s : Store) : Result (List (String × ℚ)) := do
  check (!isBlank query) "query cannot be empty"
  match s.index.text[generationPath x organizationId workspaceId generation]? with
  | none => return []
  | some entries =>
    match engines.text entries query limit with
    | .ok hits => return hits
    | .error message => .error (.external message)

/-- `WorkspaceVectorIndex::search`. -/
def searchVector (profile : EmbeddingProfile) (query : List ℚ) (limit : Nat) (s : Store) :
    Result (List (Nat × ℚ)) := do
  check (query.length = profile.dimensions) "invalid vector dimensions"
  match s.index.vectors[indexPath x organizationId workspaceId profile]? with
  | none => return []
  | some entries =>
    match engines.vector entries query limit with
    | .ok hits => return hits
    | .error message => .error (.external message)

/-- The three candidate maps of `retrieve_chunks`. -/
structure ChunkCandidates where
  text : Table String ℚ
  vector : Table Nat ℚ
  graph : Table Uuid GraphCandidate

def chunkCandidates (query : String) (limit : Nat) (s : Store) : Result ChunkCandidates := do
  let active := (activeTextGeneration x organizationId workspaceId s).filter fun generation =>
    inScope organizationId workspaceId generation.organizationId generation.workspaceId &&
      generation.pipelineVersion == ingestionPipelineVersion
  let text ← match active with
    | some generation =>
      searchText x engines organizationId workspaceId generation.generation query (candidateLimit limit) s
    | none => pure []
  let embedding ← embed x s query
  let vector ← searchVector x engines organizationId workspaceId s.embeddingProvider.profile embedding
    (candidateLimit limit) s
  let graph := graphCandidates x organizationId workspaceId query (candidateLimit limit) 2 s
  return {
    text := Table.insertAll ∅ text
    vector := Table.insertAll ∅ (vector.map fun hit => (hit.1, max (1 - hit.2) 0))
    graph := Table.insertAll ∅ (graph.map fun candidate => (candidate.chunkId, candidate)) }

def lexicalScore (candidates : ChunkCandidates) (s : Store) (chunk : DocumentChunk) : Option ℚ := do
  let manifest ← s.projection.textManifests[chunk.id]?
  if inScope organizationId workspaceId manifest.organizationId manifest.workspaceId &&
      manifest.state == .ready && manifest.pipelineVersion == ingestionPipelineVersion then
    candidates.text[chunk.id.text]?
  else none

def vectorScore (candidates : ChunkCandidates) (s : Store) (chunk : DocumentChunk) : Option ℚ := do
  let manifest ← s.projection.vectorManifests[chunk.id]?
  if readyVectorManifest organizationId workspaceId s manifest then candidates.vector[manifest.annKey]?
  else none

def graphScore (candidates : ChunkCandidates) (s : Store) (chunk : DocumentChunk) : Option GraphCandidate := do
  let manifest ← s.projection.graphManifests[chunk.id]?
  if inScope organizationId workspaceId manifest.organizationId manifest.workspaceId &&
      manifest.state == .ready && manifest.pipelineVersion == ingestionPipelineVersion &&
      manifest.extractor == deterministicExtractor && manifest.extractionVersion == extractionVersion then
    candidates.graph[chunk.id]?
  else none

/-- The result for one row of `CHUNKS`, before the final score. -/
def retrievedChunk (candidates : ChunkCandidates) (s : Store) (chunk : DocumentChunk) :
    Option RetrievedChunk := do
  let document ← s.ingestion.documents[chunk.documentId]?
  if inScope organizationId workspaceId document.organizationId document.workspaceId &&
      document.ingestionStatus == .succeeded then
    let lexical := lexicalScore organizationId workspaceId candidates s chunk
    let vector := vectorScore organizationId workspaceId candidates s chunk
    let graph := graphScore organizationId workspaceId candidates s chunk
    if lexical.isSome || vector.isSome || graph.isSome then
      some {
        documentId := document.id
        documentName := document.name
        source := document.source
        ordinal := chunk.ordinal
        content := chunk.content
        score := lexical.getD 0
        vectorScore := vector
        graphScore := graph.map GraphCandidate.score
        graphHops := graph.map GraphCandidate.hops
        finalScore := 0
        embeddingProvider := vector.map fun _ => s.embeddingProvider.profile.provider
        embeddingModelRevision := vector.map fun _ => s.embeddingProvider.profile.modelRevision }
    else none
  else none

def RetrievedChunk.withFinalScore (maximumLexicalScore : ℚ) (result : RetrievedChunk) : RetrievedChunk :=
  let normalizedLexical := if maximumLexicalScore > 0 then result.score / maximumLexicalScore else 0
  { result with finalScore :=
      normalizedLexical + result.vectorScore.getD 0 * 2 + result.graphScore.getD 0 * (1 / 2) }

def RetrievedChunk.precedes (left right : RetrievedChunk) : Bool :=
  right.finalScore < left.finalScore || (right.finalScore == left.finalScore &&
    (compare (left.documentId, left.ordinal) (right.documentId, right.ordinal)).isLE)

def retrieveChunks (query : String) (limit : Nat) (s : Store) : Result (List RetrievedChunk) := do
  check (!isBlank query) "query cannot be empty"
  let candidates ← chunkCandidates x engines organizationId workspaceId query limit s
  let results := (Table.rows s.projection.chunks).filterMap
    (retrievedChunk organizationId workspaceId candidates s)
  let maximumLexicalScore := results.foldl (fun best result => max best result.score) 0
  let results := results.map (RetrievedChunk.withFinalScore maximumLexicalScore)
  return (results.insertionSort fun left right => left.precedes right).take limit

end Hangar
