import Hangar.Projection.Graph

/-! What a graph holds besides its timestamps, and that materialization never looks at them. -/

namespace Hangar

open Lib

def GraphEntity.untimed (entity : GraphEntity) : GraphEntity :=
  { entity with
    createdAtUnixMs := 0
    updatedAtUnixMs := 0 }

def GraphEdge.untimed (edge : GraphEdge) : GraphEdge :=
  { edge with
    createdAtUnixMs := 0
    updatedAtUnixMs := 0 }

def GraphEdgeEvidence.untimed (evidence : GraphEdgeEvidence) : GraphEdgeEvidence :=
  { evidence with createdAtUnixMs := 0 }

def GraphTables.untimed (t : GraphTables) : GraphTables where
  entities := t.entities.map fun _ entity => entity.untimed
  edges := t.edges.map fun _ edge => edge.untimed
  edgesBySource := t.edgesBySource
  edgesByTarget := t.edgesByTarget
  edgeEvidence := t.edgeEvidence.map fun _ evidence => evidence.untimed

def GraphBuild.untimed (build : GraphBuild) : GraphBuild where
  tables := build.tables.untimed
  entitiesByName := build.entitiesByName.map fun _ entity => entity.untimed
  edgesByIdentity := build.edgesByIdentity.map fun _ edge => edge.untimed

def timeless : Env := ⟨0, fun _ => Uuid.nil⟩

section
variable {x : Externals} {env : Env} {organizationId workspaceId : String} {t : GraphTables} {build : GraphBuild}

theorem untimed_insertEntity {entity : GraphEntity} : (t.insertEntity x organizationId workspaceId entity).untimed =
    t.untimed.insertEntity x organizationId workspaceId entity.untimed := by
  unfold GraphTables.untimed GraphTables.insertEntity
  dsimp only
  rw [Table.map_insert]
  rfl

theorem untimed_insertEdge {edge : GraphEdge} : (t.insertEdge x organizationId workspaceId edge).untimed =
    t.untimed.insertEdge x organizationId workspaceId edge.untimed := by
  unfold GraphTables.untimed GraphTables.insertEdge
  dsimp only
  rw [Table.map_insert]
  rfl

theorem untimed_insertEvidence {evidence : GraphEdgeEvidence} :
    (t.insertEvidence evidence).untimed = t.untimed.insertEvidence evidence.untimed := by
  unfold GraphTables.untimed GraphTables.insertEvidence
  dsimp only
  rw [Table.map_insert]
  rfl

theorem untimed_addEntity {candidate : EntityCandidate} :
    (build.addEntity x env organizationId workspaceId candidate).untimed =
      build.untimed.addEntity x timeless organizationId workspaceId candidate := by
  have known : build.untimed.entitiesByName.contains candidate.normalizedName =
      build.entitiesByName.contains candidate.normalizedName := Std.ExtTreeMap.contains_map
  unfold GraphBuild.addEntity
  rw [known]
  split
  · rfl
  · unfold GraphBuild.untimed
    dsimp only
    rw [untimed_insertEntity, Table.map_insert]
    rfl

theorem untimed_addEntities {candidates : List EntityCandidate} :
    (candidates.foldl (GraphBuild.addEntity x env organizationId workspaceId) build).untimed =
      candidates.foldl (GraphBuild.addEntity x timeless organizationId workspaceId) build.untimed := by
  induction candidates generalizing build with
  | nil => rfl
  | cons candidate candidates ih => rw [List.foldl_cons, List.foldl_cons, ih, untimed_addEntity]

variable (env) in
theorem untimed_ensureEdge {source target : GraphEntity} {relation : RelationCandidate} :
    (build.untimed.ensureEdge x timeless organizationId workspaceId source.untimed target.untimed relation) =
      ((build.ensureEdge x env organizationId workspaceId source target relation).1.untimed,
        (build.ensureEdge x env organizationId workspaceId source target relation).2.untimed) := by
  have listed (identity : String) : build.untimed.edgesByIdentity[identity]? =
      build.edgesByIdentity[identity]?.map GraphEdge.untimed := Table.find_map
  have identity : edgeIdentity source.untimed.id target.untimed.id relation.relationType =
      edgeIdentity source.id target.id relation.relationType := rfl
  unfold GraphBuild.ensureEdge
  dsimp only
  rw [identity, listed]
  cases build.edgesByIdentity[edgeIdentity source.id target.id relation.relationType]? with
  | some edge => rfl
  | none =>
    unfold GraphBuild.untimed
    dsimp only [Option.map_none]
    rw [untimed_insertEdge, Table.map_insert]
    rfl

theorem untimed_addRelation {chunk : DocumentChunk} {relation : RelationCandidate} :
    (build.addRelation x env organizationId workspaceId chunk relation).map GraphBuild.untimed =
      build.untimed.addRelation x timeless organizationId workspaceId chunk relation := by
  have listed (name : String) : build.untimed.entitiesByName[name]? =
      build.entitiesByName[name]?.map GraphEntity.untimed := Table.find_map
  unfold GraphBuild.addRelation
  rw [listed, listed]
  cases build.entitiesByName[relation.sourceNormalizedName]? with
  | none => rfl
  | some source =>
    cases build.entitiesByName[relation.targetNormalizedName]? with
    | none => rfl
    | some target =>
      show Except.ok (GraphBuild.untimed _) = Except.ok _
      rw [untimed_ensureEdge env]
      unfold GraphBuild.untimed
      dsimp only
      rw [untimed_insertEvidence]
      rfl

theorem untimed_addChunk {chunk : DocumentChunk} :
    (build.addChunk x env organizationId workspaceId chunk).map GraphBuild.untimed =
      build.untimed.addChunk x timeless organizationId workspaceId chunk := by
  unfold GraphBuild.addChunk
  dsimp only
  rw [foldlM_map (fun _ _ _ => untimed_addRelation), untimed_addEntities]

theorem untimed_build :
    (t.build organizationId workspaceId).untimed = t.untimed.build organizationId workspaceId := by
  unfold GraphTables.build GraphBuild.untimed GraphTables.untimed
  dsimp only
  rw [Table.map_insertAll, Table.map_insertAll, Table.rows_map, Table.rows_map, List.filter_map, List.filter_map]
  simp only [List.map_map]
  rfl

/-- Graphs that agree up to timestamps agree up to timestamps after the same chunks, whatever the time. -/
theorem untimed_materialize {chunks : List DocumentChunk} :
    (materializeGraphChunks x env organizationId workspaceId t chunks).map GraphTables.untimed =
      materializeGraphChunks x timeless organizationId workspaceId t.untimed chunks := by
  have loop : (chunks.foldlM (GraphBuild.addChunk x env organizationId workspaceId)
      (t.build organizationId workspaceId)).map GraphBuild.untimed =
        chunks.foldlM (GraphBuild.addChunk x timeless organizationId workspaceId)
          (t.build organizationId workspaceId).untimed := foldlM_map (fun _ _ _ => untimed_addChunk) _
  unfold materializeGraphChunks
  rw [← untimed_build, ← loop]
  cases chunks.foldlM (GraphBuild.addChunk x env organizationId workspaceId) (t.build organizationId workspaceId) with
  | ok build => rfl
  | error e => rfl

end

end Hangar
