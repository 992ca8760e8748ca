import Hangar.Projection.Effects

namespace Hangar

open Lib

/-- The ids of a scope as file paths and name-based ids join them. -/
def colonScope (organizationId workspaceId : String) : String := organizationId ++ ":" ++ workspaceId

/-- The ids of a scope as the hashed table keys join them. -/
def zeroScope (organizationId workspaceId : String) : List UInt8 := bytes organizationId ++ [0] ++ bytes workspaceId

@[mk_iff]
structure Apart (organizationId workspaceId organizationId' workspaceId' : String) : Prop where
  colon : colonScope organizationId workspaceId ≠ colonScope organizationId' workspaceId'
  zero : zeroScope organizationId workspaceId ≠ zeroScope organizationId' workspaceId'

instance {organizationId workspaceId organizationId' workspaceId' : String} :
    Decidable (Apart organizationId workspaceId organizationId' workspaceId') :=
  decidable_of_iff _ (apart_iff organizationId workspaceId organizationId' workspaceId').symm

theorem inScope_iff {organizationId workspaceId organizationId' workspaceId' : String} :
    inScope organizationId workspaceId organizationId' workspaceId' = true ↔
      organizationId' = organizationId ∧ workspaceId' = workspaceId := by
  simp [inScope]

section
variable {x : Externals} {organizationId workspaceId organizationId' workspaceId' : String}

theorem Apart.not_inScope (apart : Apart organizationId workspaceId organizationId' workspaceId') :
    inScope organizationId workspaceId organizationId' workspaceId' = false := by
  rw [Bool.eq_false_iff]
  intro same
  obtain ⟨rfl, rfl⟩ := inScope_iff.mp same
  exact apart.colon rfl

theorem vectorScopeKey_eq_iff (digests : Function.Injective x.sha256) :
    vectorScopeKey x organizationId workspaceId = vectorScopeKey x organizationId' workspaceId' ↔
      zeroScope organizationId workspaceId = zeroScope organizationId' workspaceId' := digests.eq_iff

theorem textGenerationKey_eq_iff (digests : Function.Injective x.sha256) :
    textGenerationKey x organizationId workspaceId = textGenerationKey x organizationId' workspaceId' ↔
      zeroScope organizationId workspaceId = zeroScope organizationId' workspaceId' := by
  rw [← vectorScopeKey_eq_iff digests, textGenerationKey, textGenerationKey, String.append_right_inj]
  exact ⟨HexText.ext, congrArg HexText.text⟩

theorem graphScopeKey_eq_iff (digests : Function.Injective x.sha256) :
    graphScopeKey x organizationId workspaceId = graphScopeKey x organizationId' workspaceId' ↔
      zeroScope organizationId workspaceId = zeroScope organizationId' workspaceId' := by
  rw [← vectorScopeKey_eq_iff digests, graphScopeKey, graphScopeKey, String.append_right_inj]
  exact ⟨HexText.ext, congrArg HexText.text⟩

theorem indexScope_eq_iff {profile : EmbeddingProfile} :
    indexScope organizationId workspaceId profile = indexScope organizationId' workspaceId' profile ↔
      colonScope organizationId workspaceId = colonScope organizationId' workspaceId' := by
  simp only [indexScope, colonScope, String.append_left_inj]

theorem textScope_eq_iff : textScope organizationId workspaceId = textScope organizationId' workspaceId' ↔
    colonScope organizationId workspaceId = colonScope organizationId' workspaceId' := by
  simp only [textScope, colonScope, String.append_left_inj]

theorem indexPath_eq_iff (digests : Function.Injective x.sha256) {profile : EmbeddingProfile} :
    indexPath x organizationId workspaceId profile = indexPath x organizationId' workspaceId' profile ↔
      colonScope organizationId workspaceId = colonScope organizationId' workspaceId' := by
  have texts := @indexScope_eq_iff organizationId workspaceId organizationId' workspaceId' profile
  rw [← texts, indexPath, indexPath, String.append_left_inj]
  constructor
  · intro same
    exact Externals.sha256Text_injective digests (HexText.ext same)
  · intro same
    rw [same]

theorem workspaceDir_eq_iff (digests : Function.Injective x.sha256) :
    workspaceDir x organizationId workspaceId = workspaceDir x organizationId' workspaceId' ↔
      colonScope organizationId workspaceId = colonScope organizationId' workspaceId' := by
  rw [← textScope_eq_iff, workspaceDir, workspaceDir]
  constructor
  · intro same
    exact Externals.sha256Text_injective digests (HexText.ext same)
  · intro same
    rw [same]

end

theorem edgeIdText_colonScope {organizationId workspaceId organizationId' workspaceId' : String}
    {source target source' target' : Uuid} {relation relation' : String} (clear : ':' ∉ relation.toList)
    (clear' : ':' ∉ relation'.toList)
    (same : edgeIdText organizationId workspaceId (edgeIdentity source target relation) =
      edgeIdText organizationId' workspaceId' (edgeIdentity source' target' relation')) :
    colonScope organizationId workspaceId = colonScope organizationId' workspaceId' := by
  have split (o w : String) (s t : Uuid) (r : String) : edgeIdText o w (edgeIdentity s t r) =
      "hangar:edge:" ++ colonScope o w ++ ":" ++ s.text ++ ":" ++ t.text ++ ":" ++ r := by
    simp only [edgeIdText, edgeIdentity, colonScope, String.append_assoc]
  rw [split, split, colon_inj clear clear', colon_inj target.no_colon target'.no_colon,
    colon_inj source.no_colon source'.no_colon, String.append_right_inj] at same
  exact same.1.1.1

structure GraphEdge.Named (x : Externals) (edge : GraphEdge) : Prop where
  id : edge.id = x.newV5 (bytes (edgeIdText edge.organizationId edge.workspaceId
    (edgeIdentity edge.sourceEntityId edge.targetEntityId edge.relationType)))
  relation : ':' ∉ edge.relationType.toList

theorem GraphEdge.Named.apart {x : Externals} {edge edge' : GraphEdge} (names : Function.Injective x.newV5)
    (named : edge.Named x) (named' : edge'.Named x)
    (apart : Apart edge.organizationId edge.workspaceId edge'.organizationId edge'.workspaceId) :
    edge.id ≠ edge'.id := by
  intro same
  rw [named.id, named'.id] at same
  exact apart.colon (edgeIdText_colonScope named.relation named'.relation (bytes_injective (names same)))

structure GraphTables.Keyed (x : Externals) (t : GraphTables) : Prop where
  entity : ∀ {key : String × String} {entity : GraphEntity}, t.entities[key]? = some entity →
    key.1 = graphScopeKey x entity.organizationId entity.workspaceId
  edge : ∀ {id : Uuid} {edge : GraphEdge}, t.edges[id]? = some edge → edge.id = id ∧ edge.Named x
  evidence : ∀ {key : Uuid × Uuid} {evidence : GraphEdgeEvidence}, t.edgeEvidence[key]? = some evidence →
    evidence.edgeId = key.1

/-- The part of the graph that belongs to one scope: its entities, its edges and the evidence of these. -/
@[ext]
structure GraphReads where
  entities : Table (String × String) GraphEntity
  edges : Table Uuid GraphEdge
  edgeEvidence : Table (Uuid × Uuid) GraphEdgeEvidence

def GraphTables.reads (organizationId workspaceId : String) (t : GraphTables) : GraphReads where
  entities := t.entities.filter fun _ entity =>
    inScope organizationId workspaceId entity.organizationId entity.workspaceId
  edges := t.edges.filter fun _ edge => inScope organizationId workspaceId edge.organizationId edge.workspaceId
  edgeEvidence := t.edgeEvidence.filter fun _ evidence =>
    (t.edgeIds organizationId workspaceId).contains evidence.edgeId

section
variable {x : Externals} {env : Env} {t t' : GraphTables}
  {organizationId workspaceId organizationId' workspaceId' : String}

theorem GraphTables.edgeIds_eq : t.edgeIds organizationId workspaceId =
    (Table.rows (t.reads organizationId workspaceId).edges).map GraphEdge.id := by
  unfold GraphTables.edgeIds GraphTables.reads
  rw [Table.rows_filter]

theorem GraphTables.edgeIds_congr
    (same : (t.reads organizationId workspaceId).edges = (t'.reads organizationId workspaceId).edges) :
    t.edgeIds organizationId workspaceId = t'.edgeIds organizationId workspaceId := by
  rw [GraphTables.edgeIds_eq, GraphTables.edgeIds_eq, same]

theorem GraphTables.mem_edgeIds {id : Uuid} : id ∈ t.edgeIds organizationId workspaceId ↔
    ∃ (key : Uuid) (edge : GraphEdge), t.edges[key]? = some edge ∧ edge.organizationId = organizationId ∧
      edge.workspaceId = workspaceId ∧ edge.id = id := by
  unfold GraphTables.edgeIds
  simp only [List.mem_map, List.mem_filter, Table.mem_rows, inScope_iff]
  constructor
  · rintro ⟨edge, ⟨⟨key, found⟩, organization, workspace⟩, same⟩
    exact ⟨key, edge, found, organization, workspace, same⟩
  · rintro ⟨key, edge, found, organization, workspace, same⟩
    exact ⟨edge, ⟨⟨key, found⟩, organization, workspace⟩, same⟩

/-- The ids of a scope's edges are not those of edges written in another. -/
theorem GraphTables.Keyed.foreign (keyed : t.Keyed x) (names : Function.Injective x.newV5) {edge : GraphEdge}
    (named : edge.Named x) (apart : Apart organizationId workspaceId edge.organizationId edge.workspaceId) :
    edge.id ∉ t.edgeIds organizationId workspaceId := by
  intro member
  obtain ⟨key, own, found, rfl, rfl, same⟩ := GraphTables.mem_edgeIds.mp member
  exact (keyed.edge found).2.apart names named apart same

section
variable {entity : GraphEntity}

theorem GraphTables.Keyed.insertEntity (keyed : t.Keyed x) :
    (t.insertEntity x entity.organizationId entity.workspaceId entity).Keyed x where
  entity {key stored} found := by
    unfold GraphTables.insertEntity at found
    rw [Table.find_insert] at found
    split at found
    · rename_i same
      cases found
      exact same ▸ rfl
    · exact keyed.entity found
  edge := keyed.edge
  evidence := keyed.evidence

theorem GraphTables.Keyed.reads_insertEntity (keyed : t.Keyed x) (digests : Function.Injective x.sha256)
    (apart : Apart organizationId workspaceId entity.organizationId entity.workspaceId) :
    (t.insertEntity x entity.organizationId entity.workspaceId entity).reads organizationId workspaceId =
      t.reads organizationId workspaceId := by
  refine GraphReads.ext ?_ rfl rfl
  apply Table.filter_insert
  · exact apart.not_inScope
  · intro replaced found
    rw [Bool.eq_false_iff]
    intro own
    obtain ⟨organization, workspace⟩ := inScope_iff.mp own
    have key := keyed.entity found
    rw [organization, workspace, graphEntityKey] at key
    exact apart.zero ((graphScopeKey_eq_iff digests).mp key.symm)

end

section
variable {edge : GraphEdge}

theorem GraphTables.Keyed.insertEdge (keyed : t.Keyed x) (named : edge.Named x) :
    (t.insertEdge x organizationId workspaceId edge).Keyed x where
  entity := keyed.entity
  edge {id stored} found := by
    unfold GraphTables.insertEdge at found
    rw [Table.find_insert] at found
    split at found
    · rename_i same
      cases found
      exact ⟨same, named⟩
    · exact keyed.edge found
  evidence := keyed.evidence

theorem GraphTables.Keyed.reads_insertEdge (keyed : t.Keyed x) (names : Function.Injective x.newV5)
    (named : edge.Named x) (apart : Apart organizationId workspaceId edge.organizationId edge.workspaceId) :
    (t.insertEdge x organizationId' workspaceId' edge).reads organizationId workspaceId =
      t.reads organizationId workspaceId := by
  have edges : ((t.insertEdge x organizationId' workspaceId' edge).reads organizationId workspaceId).edges =
      (t.reads organizationId workspaceId).edges := by
    apply Table.filter_insert
    · exact apart.not_inScope
    · intro replaced found
      rw [Bool.eq_false_iff]
      intro own
      obtain ⟨rfl, rfl⟩ := inScope_iff.mp own
      obtain ⟨same, own⟩ := keyed.edge found
      exact own.apart names named apart same
  refine GraphReads.ext rfl edges ?_
  have ids := GraphTables.edgeIds_congr edges
  show Std.ExtTreeMap.filter _ _ = Std.ExtTreeMap.filter _ _
  rw [ids]
  rfl

theorem GraphTables.Keyed.insertEvidence (keyed : t.Keyed x) {evidence : GraphEdgeEvidence} :
    (t.insertEvidence evidence).Keyed x where
  entity := keyed.entity
  edge := keyed.edge
  evidence {key stored} found := by
    unfold GraphTables.insertEvidence at found
    rw [Table.find_insert] at found
    split at found
    · rename_i same
      cases found
      exact same ▸ rfl
    · exact keyed.evidence found

theorem GraphTables.Keyed.reads_insertEvidence (keyed : t.Keyed x) (names : Function.Injective x.newV5)
    {evidence : GraphEdgeEvidence} (named : edge.Named x) (cited : evidence.edgeId = edge.id)
    (apart : Apart organizationId workspaceId edge.organizationId edge.workspaceId) :
    (t.insertEvidence evidence).reads organizationId workspaceId = t.reads organizationId workspaceId := by
  have foreign : (t.edgeIds organizationId workspaceId).contains edge.id = false := by
    simpa using keyed.foreign names named apart
  refine GraphReads.ext rfl rfl ?_
  apply Table.filter_insert
  · show (t.edgeIds organizationId workspaceId).contains evidence.edgeId = false
    rw [cited, foreign]
  · intro replaced found
    show (t.edgeIds organizationId workspaceId).contains replaced.edgeId = false
    rw [keyed.evidence found, cited, foreign]

end

theorem GraphTables.Keyed.clear (keyed : t.Keyed x) :
    (clearGraphWorkspace x organizationId workspaceId t).Keyed x where
  entity found := keyed.entity (Table.find_filter_eq_some.mp found).1
  edge {id edge} found := by
    unfold clearGraphWorkspace at found
    rw [Table.find_eraseAll] at found
    split at found
    · cases found
    · exact keyed.edge found
  evidence found := keyed.evidence (Table.find_filter_eq_some.mp found).1

theorem GraphTables.Keyed.reads_clear (keyed : t.Keyed x) (names : Function.Injective x.newV5)
    (apart : Apart organizationId workspaceId organizationId' workspaceId') :
    (clearGraphWorkspace x organizationId' workspaceId' t).reads organizationId workspaceId =
      t.reads organizationId workspaceId := by
  have other {organization workspace : String}
      (own : inScope organizationId workspaceId organization workspace = true) :
      inScope organizationId' workspaceId' organization workspace = false := by
    obtain ⟨rfl, rfl⟩ := inScope_iff.mp own
    rw [Bool.eq_false_iff]
    intro same
    obtain ⟨rfl, rfl⟩ := inScope_iff.mp same
    exact apart.colon rfl
  have disjoint {id : Uuid} (own : id ∈ t.edgeIds organizationId workspaceId) :
      id ∉ t.edgeIds organizationId' workspaceId' := by
    obtain ⟨key, edge, found, rfl, rfl, rfl⟩ := GraphTables.mem_edgeIds.mp own
    intro member
    obtain ⟨key', edge', found', rfl, rfl, same⟩ := GraphTables.mem_edgeIds.mp member
    exact (keyed.edge found).2.apart names (keyed.edge found').2 apart same.symm
  have entities : ((clearGraphWorkspace x organizationId' workspaceId' t).reads organizationId workspaceId).entities =
      (t.reads organizationId workspaceId).entities := by
    apply Table.filter_eq_filter
    intro key entity
    rw [clearGraphWorkspace, Table.find_filter_eq_some, and_assoc]
    apply and_congr_right
    intro _
    constructor
    · exact And.right
    · intro own
      exact ⟨by rw [other own, Bool.not_false], own⟩
  have edges : ((clearGraphWorkspace x organizationId' workspaceId' t).reads organizationId workspaceId).edges =
      (t.reads organizationId workspaceId).edges := by
    apply Table.filter_eq_filter
    intro key edge
    rw [clearGraphWorkspace, Table.find_eraseAll]
    apply and_congr_left
    intro own
    split
    · rename_i cleared
      constructor
      · intro found
        cases found
      · intro found
        obtain ⟨rfl, rfl⟩ := inScope_iff.mp own
        have same := (keyed.edge found).1
        exact absurd cleared (disjoint (GraphTables.mem_edgeIds.mpr ⟨key, edge, found, rfl, rfl, same⟩))
    · exact Iff.rfl
  have edgeEvidence :
      ((clearGraphWorkspace x organizationId' workspaceId' t).reads organizationId workspaceId).edgeEvidence =
        (t.reads organizationId workspaceId).edgeEvidence := by
    apply Table.filter_eq_filter
    intro key evidence
    rw [GraphTables.edgeIds_congr edges, clearGraphWorkspace, Table.find_filter_eq_some, and_assoc]
    apply and_congr_right
    intro _
    constructor
    · exact And.right
    · intro own
      have absent := disjoint (by simpa using own)
      exact ⟨by simpa using absent, own⟩
  exact GraphReads.ext entities edges edgeEvidence

end

theorem relate_relationType {source target : EntityCandidate} :
    (relate source target).relationType = "co_occurs_with" := rfl

theorem extractRelations_relationType {entities : List EntityCandidate} {relation : RelationCandidate}
    (member : relation ∈ extractRelations entities) : relation.relationType = "co_occurs_with" := by
  induction entities with
  | nil => cases member
  | cons source rest ih =>
    rcases List.mem_append.mp member with own | later
    · obtain ⟨target, _, rfl⟩ := List.mem_map.mp own
      exact relate_relationType
    · exact ih later

/-- What the loops of `materialize_graph_chunks` keep: well-keyed rows, a map of this scope's edges, and
    what other scopes read. -/
structure GraphBuild.Within (x : Externals) (organizationId workspaceId : String) (t : GraphTables)
    (build : GraphBuild) : Prop where
  keyed : build.tables.Keyed x
  edge : ∀ {identity : String} {edge : GraphEdge}, build.edgesByIdentity[identity]? = some edge →
    edge.Named x ∧ edge.organizationId = organizationId ∧ edge.workspaceId = workspaceId
  reads : ∀ {organizationId' workspaceId' : String},
    Apart organizationId' workspaceId' organizationId workspaceId →
      build.tables.reads organizationId' workspaceId' = t.reads organizationId' workspaceId'

section
variable {x : Externals} {env : Env} {organizationId workspaceId : String} {t t' : GraphTables}
  {build build' : GraphBuild}

theorem GraphTables.Keyed.within_build (keyed : t.Keyed x) :
    (t.build organizationId workspaceId).Within x organizationId workspaceId t where
  keyed := keyed
  edge {identity edge} found := by
    rcases Table.find_insertAll found with listed | ⟨_, absent⟩
    · obtain ⟨stored, member, same⟩ := List.mem_map.mp listed
      cases same
      obtain ⟨member, own⟩ := List.mem_filter.mp member
      obtain ⟨key, found⟩ := Table.mem_rows.mp member
      exact ⟨(keyed.edge found).2, inScope_iff.mp own⟩
    · simp at absent
  reads _ := rfl

theorem GraphBuild.Within.addEntity (within : build.Within x organizationId workspaceId t)
    (digests : Function.Injective x.sha256) {candidate : EntityCandidate} :
    (build.addEntity x env organizationId workspaceId candidate).Within x organizationId workspaceId t := by
  unfold GraphBuild.addEntity
  split
  · exact within
  · constructor
    · exact @GraphTables.Keyed.insertEntity x _ (newEntity x env organizationId workspaceId candidate) within.keyed
    · exact within.edge
    · intro organizationId' workspaceId' apart
      rw [← within.reads apart]
      exact @GraphTables.Keyed.reads_insertEntity x _ _ _ (newEntity x env organizationId workspaceId candidate)
        within.keyed digests apart

theorem newEdge_named {source target : Uuid} {relation : RelationCandidate}
    (clear : ':' ∉ relation.relationType.toList) :
    (newEdge x env organizationId workspaceId source target relation).Named x := ⟨rfl, clear⟩

theorem GraphBuild.Within.ensureEdge (within : build.Within x organizationId workspaceId t)
    (names : Function.Injective x.newV5) {source target : GraphEntity} {relation : RelationCandidate}
    (clear : ':' ∉ relation.relationType.toList) {ensured : GraphBuild × GraphEdge}
    (run : build.ensureEdge x env organizationId workspaceId source target relation = ensured) :
    ensured.1.Within x organizationId workspaceId t ∧ ensured.2.Named x ∧
      ensured.2.organizationId = organizationId ∧ ensured.2.workspaceId = workspaceId := by
  unfold GraphBuild.ensureEdge at run
  dsimp only at run
  split at run
  · rename_i edge found
    subst run
    exact ⟨within, within.edge found⟩
  · subst run
    have named := @newEdge_named x env organizationId workspaceId source.id target.id relation clear
    refine ⟨⟨within.keyed.insertEdge named, ?_, ?_⟩, named, rfl, rfl⟩
    · intro identity edge found
      rw [Table.find_insert] at found
      split at found
      · cases found
        exact ⟨named, rfl, rfl⟩
      · exact within.edge found
    · intro organizationId' workspaceId' apart
      rw [← within.reads apart]
      exact within.keyed.reads_insertEdge names named apart

theorem GraphBuild.Within.addRelation (within : build.Within x organizationId workspaceId t)
    (names : Function.Injective x.newV5) {chunk : DocumentChunk} {relation : RelationCandidate}
    (clear : ':' ∉ relation.relationType.toList)
    (run : build.addRelation x env organizationId workspaceId chunk relation = .ok build') :
    build'.Within x organizationId workspaceId t := by
  obtain ⟨source, _, run⟩ := bind_eq_ok.mp run
  obtain ⟨target, _, run⟩ := bind_eq_ok.mp run
  cases run
  obtain ⟨ensured, named, organization, workspace⟩ :=
    @GraphBuild.Within.ensureEdge x env _ _ _ _ within names source target relation clear _ rfl
  refine ⟨ensured.keyed.insertEvidence, ensured.edge, ?_⟩
  intro organizationId' workspaceId' apart
  rw [← ensured.reads apart]
  apply ensured.keyed.reads_insertEvidence names named rfl
  rw [organization, workspace]
  exact apart

theorem GraphBuild.Within.addChunk (within : build.Within x organizationId workspaceId t)
    (digests : Function.Injective x.sha256) (names : Function.Injective x.newV5) {chunk : DocumentChunk}
    (run : build.addChunk x env organizationId workspaceId chunk = .ok build') :
    build'.Within x organizationId workspaceId t := by
  have entities (candidates : List EntityCandidate) (build : GraphBuild)
      (within : build.Within x organizationId workspaceId t) :
      (candidates.foldl (GraphBuild.addEntity x env organizationId workspaceId) build).Within x organizationId
        workspaceId t := by
    induction candidates generalizing build with
    | nil => exact within
    | cons candidate candidates ih => exact ih _ (within.addEntity digests)
  apply foldlM_preserves _ (entities _ build within) run
  intro relation member before after kept step
  apply kept.addRelation names _ step
  rw [extractRelations_relationType member]
  decide

/-- A materialization keeps the rows well keyed and what the scopes apart from its own read. -/
theorem materializeGraphChunks_within (digests : Function.Injective x.sha256)
    (names : Function.Injective x.newV5) (keyed : t.Keyed x) {chunks : List DocumentChunk}
    (run : materializeGraphChunks x env organizationId workspaceId t chunks = .ok t') :
    t'.Keyed x ∧ ∀ {organizationId' workspaceId' : String},
      Apart organizationId' workspaceId' organizationId workspaceId →
        t'.reads organizationId' workspaceId' = t.reads organizationId' workspaceId' := by
  obtain ⟨build, loop, same⟩ := bind_eq_ok.mp run
  cases same
  have within : build.Within x organizationId workspaceId t := by
    apply foldlM_preserves _ keyed.within_build loop
    intro chunk _ before after kept step
    exact kept.addChunk digests names step
  exact ⟨within.keyed, within.reads⟩

theorem rebuiltGraph_within (digests : Function.Injective x.sha256) (names : Function.Injective x.newV5)
    (keyed : t.Keyed x) {chunks : List DocumentChunk}
    (run : materializeGraphChunks x env organizationId workspaceId
      (clearGraphWorkspace x organizationId workspaceId t) chunks = .ok t') :
    t'.Keyed x ∧ ∀ {organizationId' workspaceId' : String},
      Apart organizationId' workspaceId' organizationId workspaceId →
        t'.reads organizationId' workspaceId' = t.reads organizationId' workspaceId' := by
  obtain ⟨rebuilt, reads⟩ := materializeGraphChunks_within digests names keyed.clear run
  refine ⟨rebuilt, ?_⟩
  intro organizationId' workspaceId' apart
  rw [reads apart, keyed.reads_clear names apart]

end

end Hangar
