import Hangar.Projection.Materialize

namespace Hangar

open Lib

def GraphTables.HasEntity (t : GraphTables) (id : Uuid) : Prop :=
  ∃ (key : String × String) (entity : GraphEntity), t.entities[key]? = some entity ∧ entity.id = id

/-- The graph of one workspace: its rows belong to the workspace, the adjacency tables list exactly the edges, and
    every edge has both its entities and some evidence. -/
structure GraphTables.Linked (x : Externals) (organizationId workspaceId : String) (t : GraphTables) : Prop where
  entity : ∀ {key : String × String} {entity : GraphEntity}, t.entities[key]? = some entity →
    entity.organizationId = organizationId ∧ entity.workspaceId = workspaceId
  edge : ∀ {id : Uuid} {edge : GraphEdge}, t.edges[id]? = some edge →
    edge.id = id ∧ edge.organizationId = organizationId ∧ edge.workspaceId = workspaceId
  bySource : ∀ (key : String × Uuid × Uuid) (id : Uuid), t.edgesBySource[key]? = some id ↔ ∃ edge,
    t.edges[id]? = some edge ∧ key = graphEdgeAdjacencyKey x organizationId workspaceId edge.sourceEntityId id
  byTarget : ∀ (key : String × Uuid × Uuid) (id : Uuid), t.edgesByTarget[key]? = some id ↔ ∃ edge,
    t.edges[id]? = some edge ∧ key = graphEdgeAdjacencyKey x organizationId workspaceId edge.targetEntityId id
  source : ∀ {id : Uuid} {edge : GraphEdge}, t.edges[id]? = some edge → t.HasEntity edge.sourceEntityId
  target : ∀ {id : Uuid} {edge : GraphEdge}, t.edges[id]? = some edge → t.HasEntity edge.targetEntityId
  evidenced : ∀ {id : Uuid} {edge : GraphEdge}, t.edges[id]? = some edge →
    ∃ (chunkId : Uuid) (evidence : GraphEdgeEvidence), t.edgeEvidence[(id, chunkId)]? = some evidence
  evidence : ∀ {key : Uuid × Uuid} {evidence : GraphEdgeEvidence}, t.edgeEvidence[key]? = some evidence →
    evidence.edgeId = key.1 ∧ ∃ edge, t.edges[key.1]? = some edge

structure GraphBuild.Mirrors (x : Externals) (organizationId workspaceId : String) (build : GraphBuild) : Prop where
  entity : ∀ name : String, build.entitiesByName[name]? =
    build.tables.entities[graphEntityKey x organizationId workspaceId name]?
  edge : ∀ identity : String, build.edgesByIdentity[identity]? =
    build.tables.edges[x.newV5 (bytes (edgeIdText organizationId workspaceId identity))]?

/-- What the loops of `materialize_graph_chunks` keep in a graph of this workspace alone. -/
structure GraphBuild.Tracks (x : Externals) (organizationId workspaceId : String) (build : GraphBuild) : Prop where
  extracted : build.Extracted x organizationId workspaceId
  linked : build.tables.Linked x organizationId workspaceId
  mirrors : build.Mirrors x organizationId workspaceId

section
variable {x : Externals} {env : Env} {organizationId workspaceId : String} {t t' : GraphTables}
  {build build' : GraphBuild}

theorem GraphTables.Linked.empty : GraphTables.Linked x organizationId workspaceId ⟨∅, ∅, ∅, ∅, ∅⟩ := by
  constructor <;> simp

theorem GraphTables.Linked.cleared (linked : t.Linked x organizationId workspaceId) :
    clearGraphWorkspace x organizationId workspaceId t = ⟨∅, ∅, ∅, ∅, ∅⟩ := by
  have own {id : Uuid} {edge : GraphEdge} (found : t.edges[id]? = some edge) :
      id ∈ t.edgeIds organizationId workspaceId := by
    obtain ⟨named, organization, workspace⟩ := linked.edge found
    exact GraphTables.mem_edgeIds.mpr ⟨id, edge, found, organization, workspace, named⟩
  have edges : Table.eraseAll t.edges (t.edgeIds organizationId workspaceId) = ∅ := by
    apply Table.ext_find
    intro id
    rw [Table.find_eraseAll, Std.ExtTreeMap.getElem?_empty]
    split
    · rfl
    · rename_i foreign
      cases found : t.edges[id]? with
      | none => rfl
      | some edge => exact absurd (own found) foreign
  unfold clearGraphWorkspace
  dsimp only
  rw [edges, Table.filter_eq_empty, Table.filter_eq_empty, Table.filter_eq_empty, Table.filter_eq_empty]
  · intro key evidence found
    obtain ⟨named, edge, stored⟩ := linked.evidence found
    simp [named, own stored]
  · intro key id found
    obtain ⟨edge, _, rfl⟩ := (linked.byTarget key id).mp found
    simp [graphEdgeAdjacencyKey]
  · intro key id found
    obtain ⟨edge, _, rfl⟩ := (linked.bySource key id).mp found
    simp [graphEdgeAdjacencyKey]
  · intro key entity found
    obtain ⟨organization, workspace⟩ := linked.entity found
    simp [inScope, organization, workspace]

section
variable {entity source target : GraphEntity} {edge : GraphEdge} {evidence : GraphEdgeEvidence}

theorem GraphTables.Linked.insertEntity (linked : t.Linked x organizationId workspaceId)
    (fresh : t.entities[graphEntityKey x organizationId workspaceId entity.normalizedName]? = none)
    (organization : entity.organizationId = organizationId) (workspace : entity.workspaceId = workspaceId) :
    (t.insertEntity x organizationId workspaceId entity).Linked x organizationId workspaceId := by
  have kept {id : Uuid} (stored : t.HasEntity id) :
      (t.insertEntity x organizationId workspaceId entity).HasEntity id := by
    obtain ⟨key, other, found, named⟩ := stored
    refine ⟨key, other, ?_, named⟩
    unfold GraphTables.insertEntity
    rw [Table.find_insert_ne, found]
    rintro rfl
    rw [fresh] at found
    cases found
  constructor
  case entity =>
    intro key other found
    unfold GraphTables.insertEntity at found
    rw [Table.find_insert] at found
    split at found
    · cases found
      exact ⟨organization, workspace⟩
    · exact linked.entity found
  case edge => exact linked.edge
  case bySource => exact linked.bySource
  case byTarget => exact linked.byTarget
  case source => exact fun found => kept (linked.source found)
  case target => exact fun found => kept (linked.target found)
  case evidenced => exact linked.evidenced
  case evidence => exact linked.evidence

theorem GraphTables.Linked.insertEvidence (linked : t.Linked x organizationId workspaceId)
    (stored : t.edges[evidence.edgeId]? = some edge) :
    (t.insertEvidence evidence).Linked x organizationId workspaceId := by
  constructor
  case entity => exact linked.entity
  case edge => exact linked.edge
  case bySource => exact linked.bySource
  case byTarget => exact linked.byTarget
  case source => exact linked.source
  case target => exact linked.target
  case evidenced =>
    intro id other found
    obtain ⟨chunkId, known, listed⟩ := linked.evidenced found
    unfold GraphTables.insertEvidence
    by_cases same : (evidence.edgeId, evidence.chunkId) = (id, chunkId)
    · exact ⟨chunkId, evidence, by rw [Table.find_insert, if_pos same]⟩
    · exact ⟨chunkId, known, by rw [Table.find_insert_ne same, listed]⟩
  case evidence =>
    intro key other found
    unfold GraphTables.insertEvidence at found
    rw [Table.find_insert] at found
    split at found
    · rename_i same
      cases found
      rw [← same]
      exact ⟨rfl, edge, stored⟩
    · exact linked.evidence found

theorem adjacency_insert {table : Table (String × Uuid × Uuid) Uuid} {edges : Table Uuid GraphEdge}
    {side : GraphEdge → Uuid} (fresh : edges[edge.id]? = none)
    (listed : ∀ (key : String × Uuid × Uuid) (id : Uuid), table[key]? = some id ↔ ∃ edge,
      edges[id]? = some edge ∧ key = graphEdgeAdjacencyKey x organizationId workspaceId (side edge) id)
    (key : String × Uuid × Uuid) (id : Uuid) :
    (table.insert (graphEdgeAdjacencyKey x organizationId workspaceId (side edge) edge.id) edge.id)[key]? = some id ↔
      ∃ edge', (edges.insert edge.id edge)[id]? = some edge' ∧
        key = graphEdgeAdjacencyKey x organizationId workspaceId (side edge') id := by
  rw [Table.find_insert, Table.find_insert]
  constructor
  · intro found
    split at found
    · rename_i same
      cases found
      exact ⟨edge, if_pos rfl, same.symm⟩
    · obtain ⟨edge', stored, named⟩ := (listed key id).mp found
      refine ⟨edge', ?_, named⟩
      rw [if_neg, stored]
      rintro rfl
      rw [fresh] at stored
      cases stored
  · intro found
    obtain ⟨edge', stored, rfl⟩ := found
    split at stored
    · rename_i same
      cases stored
      rw [if_pos (by rw [same]), same]
    · rename_i other
      rw [if_neg]
      · exact (listed _ id).mpr ⟨edge', stored, rfl⟩
      · intro same
        exact other (congrArg (fun key => key.2.2) same)

theorem GraphTables.Linked.insertEdge (linked : t.Linked x organizationId workspaceId)
    (fresh : t.edges[edge.id]? = none) (organization : edge.organizationId = organizationId)
    (workspace : edge.workspaceId = workspaceId)
    (sourceStored : t.HasEntity edge.sourceEntityId) (targetStored : t.HasEntity edge.targetEntityId)
    (own : evidence.edgeId = edge.id) :
    ((t.insertEdge x organizationId workspaceId edge).insertEvidence evidence).Linked x organizationId workspaceId := by
  have cases' {id : Uuid} {edge' : GraphEdge} (found : (t.edges.insert edge.id edge)[id]? = some edge') :
      id = edge.id ∧ edge' = edge ∨ t.edges[id]? = some edge' := by
    rw [Table.find_insert] at found
    split at found
    · rename_i same
      cases found
      exact .inl ⟨same.symm, rfl⟩
    · exact .inr found
  constructor
  case entity => exact linked.entity
  case edge =>
    intro id edge' found
    rcases cases' found with ⟨rfl, rfl⟩ | old
    · exact ⟨rfl, organization, workspace⟩
    · exact linked.edge old
  case bySource => exact adjacency_insert fresh linked.bySource
  case byTarget => exact adjacency_insert fresh linked.byTarget
  case source =>
    intro id edge' found
    rcases cases' found with ⟨rfl, rfl⟩ | old
    · exact sourceStored
    · exact linked.source old
  case target =>
    intro id edge' found
    rcases cases' found with ⟨rfl, rfl⟩ | old
    · exact targetStored
    · exact linked.target old
  case evidenced =>
    intro id edge' found
    unfold GraphTables.insertEvidence
    rcases cases' found with ⟨rfl, rfl⟩ | old
    · exact ⟨evidence.chunkId, evidence, by rw [Table.find_insert, if_pos (by rw [own])]⟩
    · obtain ⟨chunkId, known, listed⟩ := linked.evidenced old
      refine ⟨chunkId, known, ?_⟩
      rw [Table.find_insert_ne]
      · exact listed
      · intro same
        have same : evidence.edgeId = id := congrArg Prod.fst same
        rw [← same, own, fresh] at old
        cases old
  case evidence =>
    intro key other found
    unfold GraphTables.insertEvidence at found
    rw [Table.find_insert] at found
    unfold GraphTables.insertEvidence GraphTables.insertEdge
    dsimp only
    split at found
    · rename_i same
      cases found
      rw [← same]
      exact ⟨rfl, edge, by rw [Table.find_insert, if_pos own.symm]⟩
    · obtain ⟨named, edge', stored⟩ := linked.evidence found
      refine ⟨named, edge', ?_⟩
      rw [Table.find_insert_ne, stored]
      intro same
      rw [← same, fresh] at stored
      cases stored

end

theorem GraphBuild.Mirrors.unique (left : build.Mirrors x organizationId workspaceId)
    (right : build'.Mirrors x organizationId workspaceId) (same : build.tables = build'.tables) : build = build' := by
  have entities : build.entitiesByName = build'.entitiesByName := by
    apply Table.ext_find
    intro name
    rw [left.entity, right.entity, same]
  have edges : build.edgesByIdentity = build'.edgesByIdentity := by
    apply Table.ext_find
    intro identity
    rw [left.edge, right.edge, same]
  cases build
  cases build'
  simp_all

theorem graphEntityKey_injective {name name' : String}
    (same : graphEntityKey x organizationId workspaceId name = graphEntityKey x organizationId workspaceId name') :
    name = name' := congrArg Prod.snd same

section
variable (names : Function.Injective x.newV5)
include names

theorem edgeIdText_injective {identity identity' : String}
    (same : x.newV5 (bytes (edgeIdText organizationId workspaceId identity)) =
      x.newV5 (bytes (edgeIdText organizationId workspaceId identity'))) : identity = identity' := by
  have texts := bytes_injective (names same)
  rwa [edgeIdText, edgeIdText, String.append_right_inj] at texts

theorem GraphTables.Linked.mirrors (linked : t.Linked x organizationId workspaceId) (extracted : t.Extracted x) :
    (t.build organizationId workspaceId).Mirrors x organizationId workspaceId := by
  have named {key : String × String} {entity : GraphEntity} (found : t.entities[key]? = some entity) :
      key = graphEntityKey x organizationId workspaceId entity.normalizedName := by
    obtain ⟨organization, workspace⟩ := linked.entity found
    rw [(extracted.entity found).1, organization, workspace]
  have identified {id : Uuid} {edge : GraphEdge} (found : t.edges[id]? = some edge) :
      id = x.newV5 (bytes (edgeIdText organizationId workspaceId
        (edgeIdentity edge.sourceEntityId edge.targetEntityId edge.relationType))) := by
    obtain ⟨own, organization, workspace⟩ := linked.edge found
    rw [← own, (extracted.edge found).2.named.id, organization, workspace]
  constructor
  · intro name
    have start := @GraphTables.Extracted.start x organizationId workspaceId t extracted
    cases stored : t.entities[graphEntityKey x organizationId workspaceId name]? with
    | none =>
      cases listed : (t.build organizationId workspaceId).entitiesByName[name]? with
      | none => exact stored.symm
      | some entity =>
        have found := (start.entity listed).1
        exact found.symm
    | some entity =>
      rw [show (t.build organizationId workspaceId).tables = t from rfl, stored]
      apply Table.find_insertAll_of_mem
      · rw [List.map_map, List.Nodup, List.pairwise_map]
        apply List.Pairwise.filter
        apply Table.pairwise_rows
        intro key key' entity entity' found found' apart same
        apply apart
        rw [named found, named found']
        exact congrArg _ same
      · obtain ⟨organization, workspace⟩ := linked.entity stored
        have own := graphEntityKey_injective (named stored)
        rw [own]
        apply List.mem_map_of_mem (f := fun entity : GraphEntity => (entity.normalizedName, entity))
        rw [List.mem_filter]
        exact ⟨Table.mem_rows.mpr ⟨_, stored⟩, inScope_iff.mpr ⟨organization, workspace⟩⟩
  · intro identity
    have indexed := @GraphTables.Extracted.indexed x organizationId workspaceId t extracted
    cases stored : t.edges[x.newV5 (bytes (edgeIdText organizationId workspaceId identity))]? with
    | none =>
      cases listed : (t.build organizationId workspaceId).edgesByIdentity[identity]? with
      | none => exact stored.symm
      | some edge =>
        obtain ⟨found, _, _, own⟩ := indexed listed
        rw [identified found, own] at found
        exact found.symm
    | some edge =>
      rw [show (t.build organizationId workspaceId).tables = t from rfl, stored]
      apply Table.find_insertAll_of_mem
      · rw [List.map_map, List.Nodup, List.pairwise_map]
        apply List.Pairwise.filter
        apply Table.pairwise_rows
        intro id id' edge edge' found found' apart same
        apply apart
        rw [identified found, identified found']
        exact congrArg (fun identity => x.newV5 (bytes (edgeIdText organizationId workspaceId identity))) same
      · obtain ⟨_, organization, workspace⟩ := linked.edge stored
        have own := edgeIdText_injective names (identified stored)
        rw [own]
        apply List.mem_map_of_mem (f := fun edge : GraphEdge =>
          (edgeIdentity edge.sourceEntityId edge.targetEntityId edge.relationType, edge))
        rw [List.mem_filter]
        exact ⟨Table.mem_rows.mpr ⟨_, stored⟩, inScope_iff.mpr ⟨organization, workspace⟩⟩

theorem GraphTables.Linked.tracks (linked : t.Linked x organizationId workspaceId) (extracted : t.Extracted x) :
    (t.build organizationId workspaceId).Tracks x organizationId workspaceId :=
  ⟨extracted.start, linked, linked.mirrors names extracted⟩

/-- Reading the maps again gives the build itself. -/
theorem GraphBuild.Tracks.rebuild (tracks : build.Tracks x organizationId workspaceId) :
    build.tables.build organizationId workspaceId = build :=
  (tracks.linked.mirrors names tracks.extracted.tables).unique tracks.mirrors rfl

omit names in
theorem GraphBuild.Tracks.addEntity (tracks : build.Tracks x organizationId workspaceId)
    {candidate : EntityCandidate} :
    (build.addEntity x env organizationId workspaceId candidate).Tracks x organizationId workspaceId := by
  refine ⟨tracks.extracted.addEntity, ?_, ?_⟩
  · unfold GraphBuild.addEntity
    split
    · exact tracks.linked
    · rename_i absent
      apply tracks.linked.insertEntity _ rfl rfl
      show build.tables.entities[graphEntityKey x organizationId workspaceId candidate.normalizedName]? = none
      rw [← tracks.mirrors.entity]
      simpa using absent
  · unfold GraphBuild.addEntity
    split
    · exact tracks.mirrors
    · refine ⟨?_, tracks.mirrors.edge⟩
      intro name
      have written : (newEntity x env organizationId workspaceId candidate).normalizedName =
          candidate.normalizedName := rfl
      unfold GraphTables.insertEntity
      rw [Table.find_insert, Table.find_insert, tracks.mirrors.entity, written]
      by_cases same : candidate.normalizedName = name
      · rw [if_pos same, if_pos (congrArg _ same)]
      · rw [if_neg same, if_neg fun keys => same (graphEntityKey_injective keys)]

omit names in
theorem GraphBuild.Tracks.addEntities (tracks : build.Tracks x organizationId workspaceId)
    {candidates : List EntityCandidate} :
    (candidates.foldl (GraphBuild.addEntity x env organizationId workspaceId) build).Tracks x organizationId
      workspaceId := by
  induction candidates generalizing build with
  | nil => exact tracks
  | cons candidate candidates ih => exact ih tracks.addEntity

theorem GraphBuild.Tracks.addRelation (tracks : build.Tracks x organizationId workspaceId) {chunk : DocumentChunk}
    {relation : RelationCandidate} (proposed : relation.Extracted)
    (run : build.addRelation x env organizationId workspaceId chunk relation = .ok build') :
    build'.Tracks x organizationId workspaceId := by
  have extracted := tracks.extracted.addRelation proposed run
  obtain ⟨source, sourceFound, run⟩ := bind_eq_ok.mp run
  obtain ⟨target, targetFound, run⟩ := bind_eq_ok.mp run
  cases run
  rw [context_eq_ok] at sourceFound targetFound
  have sourceStored : build.tables.HasEntity source.id := ⟨_, source, tracks.mirrors.entity _ ▸ sourceFound, rfl⟩
  have targetStored : build.tables.HasEntity target.id := ⟨_, target, tracks.mirrors.entity _ ▸ targetFound, rfl⟩
  refine ⟨extracted, ?_, ?_⟩
  · unfold GraphBuild.ensureEdge
    dsimp only
    split
    · rename_i edge listed
      rw [tracks.mirrors.edge] at listed
      obtain ⟨own, _⟩ := tracks.linked.edge listed
      rw [← own] at listed
      exact tracks.linked.insertEvidence listed
    · rename_i absent
      rw [tracks.mirrors.edge] at absent
      exact tracks.linked.insertEdge absent rfl rfl sourceStored targetStored rfl
  · unfold GraphBuild.ensureEdge
    dsimp only
    split
    · exact ⟨tracks.mirrors.entity, tracks.mirrors.edge⟩
    · refine ⟨tracks.mirrors.entity, ?_⟩
      intro identity
      have named : (newEdge x env organizationId workspaceId source.id target.id relation).id =
          x.newV5 (bytes (edgeIdText organizationId workspaceId
            (edgeIdentity source.id target.id relation.relationType))) := rfl
      unfold GraphTables.insertEvidence GraphTables.insertEdge
      dsimp only
      rw [Table.find_insert, Table.find_insert, tracks.mirrors.edge, named]
      by_cases same : edgeIdentity source.id target.id relation.relationType = identity
      · rw [if_pos same, if_pos (by rw [same])]
      · rw [if_neg same, if_neg fun ids => same (edgeIdText_injective names ids)]

theorem GraphBuild.Tracks.addChunk (tracks : build.Tracks x organizationId workspaceId) {chunk : DocumentChunk}
    (run : build.addChunk x env organizationId workspaceId chunk = .ok build') :
    build'.Tracks x organizationId workspaceId := by
  apply foldlM_preserves _ tracks.addEntities run
  intro relation member before after kept step
  exact kept.addRelation names (relation_extracted member) step

theorem GraphBuild.Tracks.addChunks (tracks : build.Tracks x organizationId workspaceId) {chunks : List DocumentChunk}
    (run : chunks.foldlM (GraphBuild.addChunk x env organizationId workspaceId) build = .ok build') :
    build'.Tracks x organizationId workspaceId := by
  apply foldlM_preserves _ tracks run
  intro chunk _ before after kept step
  exact kept.addChunk names step

theorem GraphTables.Linked.materialize (linked : t.Linked x organizationId workspaceId) (extracted : t.Extracted x)
    {chunks : List DocumentChunk}
    (run : materializeGraphChunks x env organizationId workspaceId t chunks = .ok t') :
    t'.Linked x organizationId workspaceId := by
  obtain ⟨build, loop, same⟩ := bind_eq_ok.mp run
  cases same
  exact ((linked.tracks names extracted).addChunks names loop).linked

/-- Chunks may be materialized in one call or in two. -/
theorem materializeGraphChunks_append (linked : t.Linked x organizationId workspaceId) (extracted : t.Extracted x)
    {chunks chunks' : List DocumentChunk} :
    materializeGraphChunks x env organizationId workspaceId t (chunks ++ chunks') =
      (do
        let t' ← materializeGraphChunks x env organizationId workspaceId t chunks
        materializeGraphChunks x env organizationId workspaceId t' chunks') := by
  unfold materializeGraphChunks
  rw [List.foldlM_append]
  cases run : chunks.foldlM (GraphBuild.addChunk x env organizationId workspaceId)
      (t.build organizationId workspaceId) with
  | error e => rfl
  | ok build =>
    have tracks := (linked.tracks names extracted).addChunks names run
    show (do
      let build ← chunks'.foldlM (GraphBuild.addChunk x env organizationId workspaceId) build
      return build.tables : Result GraphTables) = _
    show _ = (do
      let build ← chunks'.foldlM (GraphBuild.addChunk x env organizationId workspaceId)
        (build.tables.build organizationId workspaceId)
      return build.tables : Result GraphTables)
    rw [tracks.rebuild names]

end

end

end Hangar
