import Hangar.Projection.Index

namespace Hangar

open Lib

def deterministicExtractor : String := "deterministic-keyword-v1"
def extractionVersion : Nat := 1
def maxEntitiesPerChunk : Nat := 8

structure EntityCandidate where
  normalizedName : String
  displayName : String
deriving DecidableEq

structure RelationCandidate where
  sourceNormalizedName : String
  targetNormalizedName : String
  relationType : String
  confidence : ℚ
deriving DecidableEq

structure Extraction where
  entities : List EntityCandidate
  relations : List RelationCandidate

def stopwords : List String :=
  ["the", "and", "for", "with", "from", "that", "this", "are", "was", "were", "into", "about", "para", "com",
    "uma", "que", "dos", "das", "por", "não", "nos", "nas", "tem", "são"]

def isStopword (term : String) : Bool := stopwords.contains term

variable (x : Externals) (env : Env)

/-- The loop of `extract` over the words of a text. -/
def extractEntities : List String → List EntityCandidate → List EntityCandidate
  | [], entities => entities
  | raw :: rest, entities =>
    let trimmed := trim raw
    let normalizedName := x.toLowercase trimmed
    if normalizedName.utf8ByteSize < 3 || isStopword normalizedName ||
        !normalizedName.toList.any x.isAlphabetic then
      extractEntities rest entities
    else if entities.any fun entity => entity.normalizedName == normalizedName then
      extractEntities rest entities
    else
      let entities := entities ++ [⟨normalizedName, trimmed⟩]
      if entities.length ≥ maxEntitiesPerChunk then entities else extractEntities rest entities

def relate (source target : EntityCandidate) : RelationCandidate :=
  let ordered := if source.normalizedName ≤ target.normalizedName then (source, target) else (target, source)
  { sourceNormalizedName := ordered.1.normalizedName
    targetNormalizedName := ordered.2.normalizedName
    relationType := "co_occurs_with"
    confidence := 1 / 2 }

def extractRelations : List EntityCandidate → List RelationCandidate
  | [] => []
  | source :: rest => rest.map (relate source) ++ extractRelations rest

def extract (content : String) : Extraction :=
  let entities := extractEntities x (split (fun c => !x.isAlphanumeric c) content) []
  { entities := entities, relations := extractRelations entities }

def queryTerms (query : String) : List String :=
  (extract x query).entities.map EntityCandidate.normalizedName

/-- The state of the loops of `materialize_graph_chunks`: the tables, and the two maps that start
    from the workspace's own rows. -/
structure GraphBuild where
  tables : GraphTables
  entitiesByName : Table String GraphEntity
  edgesByIdentity : Table String GraphEdge

def entityIdText (organizationId workspaceId normalizedName : String) : String :=
  "hangar:entity:" ++ organizationId ++ ":" ++ workspaceId ++ ":" ++ normalizedName

def edgeIdText (organizationId workspaceId identity : String) : String :=
  "hangar:edge:" ++ organizationId ++ ":" ++ workspaceId ++ ":" ++ identity

def edgeIdentity (source target : Uuid) (relationType : String) : String :=
  source.text ++ ":" ++ target.text ++ ":" ++ relationType

section
variable (organizationId workspaceId : String)

def graphEntityKey (normalizedName : String) : String × String :=
  (graphScopeKey x organizationId workspaceId, normalizedName)

def graphEdgeAdjacencyKey (entityId edgeId : Uuid) : String × Uuid × Uuid :=
  (graphScopeKey x organizationId workspaceId, entityId, edgeId)

def newEntity (candidate : EntityCandidate) : GraphEntity where
  id := x.newV5 (bytes (entityIdText organizationId workspaceId candidate.normalizedName))
  organizationId := organizationId
  workspaceId := workspaceId
  normalizedName := candidate.normalizedName
  displayName := candidate.displayName
  entityType := "keyword"
  extractor := deterministicExtractor
  extractionVersion := extractionVersion
  createdAtUnixMs := env.now
  updatedAtUnixMs := env.now

def newEdge (source target : Uuid) (relation : RelationCandidate) : GraphEdge where
  id := x.newV5 (bytes (edgeIdText organizationId workspaceId (edgeIdentity source target relation.relationType)))
  organizationId := organizationId
  workspaceId := workspaceId
  sourceEntityId := source
  targetEntityId := target
  relationType := relation.relationType
  confidence := relation.confidence
  extractor := deterministicExtractor
  extractionVersion := extractionVersion
  createdAtUnixMs := env.now
  updatedAtUnixMs := env.now

def GraphTables.insertEntity (t : GraphTables) (entity : GraphEntity) : GraphTables :=
  { t with entities :=
      t.entities.insert (graphEntityKey x organizationId workspaceId entity.normalizedName) entity }

def GraphTables.insertEdge (t : GraphTables) (edge : GraphEdge) : GraphTables :=
  { t with
    edges := t.edges.insert edge.id edge
    edgesBySource := t.edgesBySource.insert
      (graphEdgeAdjacencyKey x organizationId workspaceId edge.sourceEntityId edge.id) edge.id
    edgesByTarget := t.edgesByTarget.insert
      (graphEdgeAdjacencyKey x organizationId workspaceId edge.targetEntityId edge.id) edge.id }

def GraphTables.insertEvidence (t : GraphTables) (evidence : GraphEdgeEvidence) : GraphTables :=
  { t with edgeEvidence := t.edgeEvidence.insert (evidence.edgeId, evidence.chunkId) evidence }

def GraphBuild.addEntity (build : GraphBuild) (candidate : EntityCandidate) : GraphBuild :=
  if build.entitiesByName.contains candidate.normalizedName then build
  else
    let entity := newEntity x env organizationId workspaceId candidate
    { build with
      tables := build.tables.insertEntity x organizationId workspaceId entity
      entitiesByName := build.entitiesByName.insert candidate.normalizedName entity }

def GraphBuild.ensureEdge (build : GraphBuild) (source target : GraphEntity)
    (relation : RelationCandidate) : GraphBuild × GraphEdge :=
  let identity := edgeIdentity source.id target.id relation.relationType
  match build.edgesByIdentity[identity]? with
  | some edge => (build, edge)
  | none =>
    let edge := newEdge x env organizationId workspaceId source.id target.id relation
    ({ build with
      tables := build.tables.insertEdge x organizationId workspaceId edge
      edgesByIdentity := build.edgesByIdentity.insert identity edge }, edge)

def newEvidence (chunk : DocumentChunk) (edge : GraphEdge) (relation : RelationCandidate) :
    GraphEdgeEvidence where
  edgeId := edge.id
  chunkId := chunk.id
  sourceSha256 := x.sha256Text chunk.content
  confidence := relation.confidence
  createdAtUnixMs := env.now

def GraphBuild.addRelation (chunk : DocumentChunk) (build : GraphBuild) (relation : RelationCandidate) :
    Result GraphBuild := do
  let source ← found build.entitiesByName[relation.sourceNormalizedName]? "graph source entity is missing"
  let target ← found build.entitiesByName[relation.targetNormalizedName]? "graph target entity is missing"
  let ensured := build.ensureEdge x env organizationId workspaceId source target relation
  return { ensured.1 with
    tables := ensured.1.tables.insertEvidence (newEvidence x env chunk ensured.2 relation) }

def GraphBuild.addChunk (build : GraphBuild) (chunk : DocumentChunk) : Result GraphBuild :=
  let extraction := extract x chunk.content
  let build := extraction.entities.foldl (GraphBuild.addEntity x env organizationId workspaceId) build
  extraction.relations.foldlM (GraphBuild.addRelation x env organizationId workspaceId chunk) build

def GraphTables.build (t : GraphTables) : GraphBuild where
  tables := t
  entitiesByName := Table.insertAll ∅ (((Table.rows t.entities).filter fun entity =>
    inScope organizationId workspaceId entity.organizationId entity.workspaceId).map fun entity =>
      (entity.normalizedName, entity))
  edgesByIdentity := Table.insertAll ∅ (((Table.rows t.edges).filter fun edge =>
    inScope organizationId workspaceId edge.organizationId edge.workspaceId).map fun edge =>
      (edgeIdentity edge.sourceEntityId edge.targetEntityId edge.relationType, edge))

def materializeGraphChunks (t : GraphTables) (chunks : List DocumentChunk) : Result GraphTables := do
  let build ← chunks.foldlM (GraphBuild.addChunk x env organizationId workspaceId)
    (t.build organizationId workspaceId)
  return build.tables

def GraphTables.edgeIds (t : GraphTables) : List Uuid :=
  ((Table.rows t.edges).filter fun edge =>
    inScope organizationId workspaceId edge.organizationId edge.workspaceId).map GraphEdge.id

def clearGraphWorkspace (t : GraphTables) : GraphTables :=
  let edgeIds := t.edgeIds organizationId workspaceId
  let scope := graphScopeKey x organizationId workspaceId
  { entities := t.entities.filter fun _ entity =>
      !inScope organizationId workspaceId entity.organizationId entity.workspaceId
    edges := Table.eraseAll t.edges edgeIds
    edgesBySource := t.edgesBySource.filter fun key _ => key.1 != scope
    edgesByTarget := t.edgesByTarget.filter fun key _ => key.1 != scope
    edgeEvidence := t.edgeEvidence.filter fun _ evidence => !edgeIds.contains evidence.edgeId }

end

end Hangar
