import Hangar.Projection.Extract
import Hangar.Projection.Isolation

namespace Hangar

open Lib

section
variable (x : Externals) (env : Env) (organizationId workspaceId : String)

def entityId (normalizedName : String) : Uuid :=
  x.newV5 (bytes (entityIdText organizationId workspaceId normalizedName))

def RelationCandidate.identity (relation : RelationCandidate) : String :=
  edgeIdentity (entityId x organizationId workspaceId relation.sourceNormalizedName)
    (entityId x organizationId workspaceId relation.targetNormalizedName) relation.relationType

def RelationCandidate.edgeId (relation : RelationCandidate) : Uuid :=
  x.newV5 (bytes (edgeIdText organizationId workspaceId (relation.identity x organizationId workspaceId)))

def evidenceRow (chunk : DocumentChunk) (relation : RelationCandidate) : (Uuid × Uuid) × GraphEdgeEvidence :=
  let edgeId := relation.edgeId x organizationId workspaceId
  ((edgeId, chunk.id), ⟨edgeId, chunk.id, x.sha256Text chunk.content, relation.confidence, env.now⟩)

def chunkEvidence (chunk : DocumentChunk) : List ((Uuid × Uuid) × GraphEdgeEvidence) :=
  (extract x chunk.content).relations.map (evidenceRow x env organizationId workspaceId chunk)

end

structure RelationCandidate.Extracted (relation : RelationCandidate) : Prop where
  ordered : relation.sourceNormalizedName < relation.targetNormalizedName
  kind : relation.relationType = "co_occurs_with"
  confidence : relation.confidence = 1 / 2

structure GraphEdge.Extracted (x : Externals) (edge : GraphEdge) : Prop where
  named : edge.Named x
  kind : edge.relationType = "co_occurs_with"
  confidence : edge.confidence = 1 / 2
  ends : ∃ source target : String, source < target ∧
    edge.sourceEntityId = entityId x edge.organizationId edge.workspaceId source ∧
    edge.targetEntityId = entityId x edge.organizationId edge.workspaceId target

/-- Every entity and edge of the graph comes from the extractor. -/
structure GraphTables.Extracted (x : Externals) (t : GraphTables) : Prop where
  entity : ∀ {key : String × String} {entity : GraphEntity}, t.entities[key]? = some entity →
    key = graphEntityKey x entity.organizationId entity.workspaceId entity.normalizedName ∧
      entity.id = entityId x entity.organizationId entity.workspaceId entity.normalizedName
  edge : ∀ {id : Uuid} {edge : GraphEdge}, t.edges[id]? = some edge → edge.id = id ∧ edge.Extracted x

/-- What the loops of `materialize_graph_chunks` keep: the tables come from the extractor, and the map of names
    lists entities that are stored. -/
structure GraphBuild.Extracted (x : Externals) (organizationId workspaceId : String) (build : GraphBuild) : Prop where
  tables : build.tables.Extracted x
  entity : ∀ {name : String} {entity : GraphEntity}, build.entitiesByName[name]? = some entity →
    build.tables.entities[graphEntityKey x organizationId workspaceId name]? = some entity ∧
      entity.id = entityId x organizationId workspaceId name

def GraphBuild.Indexed (organizationId workspaceId : String) (build : GraphBuild) : Prop :=
  ∀ {identity : String} {edge : GraphEdge}, build.edgesByIdentity[identity]? = some edge →
    build.tables.edges[edge.id]? = some edge ∧ edge.organizationId = organizationId ∧
      edge.workspaceId = workspaceId ∧
      edgeIdentity edge.sourceEntityId edge.targetEntityId edge.relationType = identity

structure GraphBuild.Sound (x : Externals) (organizationId workspaceId : String) (build : GraphBuild) : Prop where
  extracted : build.Extracted x organizationId workspaceId
  indexed : build.Indexed organizationId workspaceId

/-- What steps of the loops add: both maps grow, the relations have their entities and edge in them, and the
    evidence rows are written. -/
structure GraphBuild.Adds (x : Externals) (organizationId workspaceId : String) (relations : List RelationCandidate)
    (rows : List ((Uuid × Uuid) × GraphEdgeEvidence)) (build build' : GraphBuild) : Prop where
  entities : ∀ name ∈ build.entitiesByName, name ∈ build'.entitiesByName
  edges : ∀ identity ∈ build.edgesByIdentity, identity ∈ build'.edgesByIdentity
  joined : ∀ relation ∈ relations, relation.sourceNormalizedName ∈ build'.entitiesByName ∧
    relation.targetNormalizedName ∈ build'.entitiesByName ∧
    relation.identity x organizationId workspaceId ∈ build'.edgesByIdentity
  evidence : build'.tables.edgeEvidence = build.tables.edgeEvidence.insertAll rows

section
variable {x : Externals} {env : Env} {organizationId workspaceId : String} {t t' : GraphTables}
  {build build' build'' : GraphBuild}

theorem GraphTables.Extracted.empty : GraphTables.Extracted x ⟨∅, ∅, ∅, ∅, ∅⟩ where
  entity found := by simp at found
  edge found := by simp at found

theorem GraphTables.Extracted.clear (extracted : t.Extracted x) :
    (clearGraphWorkspace x organizationId workspaceId t).Extracted x where
  entity found := extracted.entity (Table.find_filter_eq_some.mp found).1
  edge {id edge} found := by
    unfold clearGraphWorkspace at found
    rw [Table.find_eraseAll] at found
    split at found
    · cases found
    · exact extracted.edge found

theorem relation_extracted {content : String} {relation : RelationCandidate}
    (member : relation ∈ (extract x content).relations) : relation.Extracted where
  ordered := by
    have listed := List.mem_map_of_mem (f := RelationCandidate.ends) member
    exact ((mem_extractRelations extract_entities_nodup).mp listed).2.2
  kind := extractRelations_of (P := fun relation => relation.relationType = "co_occurs_with") (fun _ _ => rfl) member
  confidence := extractRelations_of (P := fun relation => relation.confidence = 1 / 2) (fun _ _ => rfl) member

theorem GraphTables.Extracted.start (extracted : t.Extracted x) :
    (t.build organizationId workspaceId).Extracted x organizationId workspaceId where
  tables := extracted
  entity {name entity} found := by
    rcases Table.find_insertAll found with listed | ⟨_, absent⟩
    · obtain ⟨stored, member, same⟩ := List.mem_map.mp listed
      cases same
      obtain ⟨member, own⟩ := List.mem_filter.mp member
      obtain ⟨key, kept⟩ := Table.mem_rows.mp member
      obtain ⟨rfl, rfl⟩ := inScope_iff.mp own
      obtain ⟨rfl, id⟩ := extracted.entity kept
      exact ⟨kept, id⟩
    · simp at absent

theorem GraphTables.Extracted.indexed (extracted : t.Extracted x) :
    (t.build organizationId workspaceId).Indexed organizationId workspaceId := by
  intro identity edge found
  rcases Table.find_insertAll found with listed | ⟨_, absent⟩
  · obtain ⟨stored, member, same⟩ := List.mem_map.mp listed
    cases same
    obtain ⟨member, own⟩ := List.mem_filter.mp member
    obtain ⟨key, kept⟩ := Table.mem_rows.mp member
    obtain ⟨organization, workspace⟩ := inScope_iff.mp own
    obtain ⟨rfl, _⟩ := extracted.edge kept
    exact ⟨kept, organization, workspace, rfl⟩
  · simp at absent

theorem GraphBuild.Extracted.addEntity (extracted : build.Extracted x organizationId workspaceId)
    {candidate : EntityCandidate} :
    (build.addEntity x env organizationId workspaceId candidate).Extracted x organizationId workspaceId := by
  unfold GraphBuild.addEntity
  split
  · exact extracted
  · constructor
    · constructor
      · intro key entity found
        unfold GraphTables.insertEntity at found
        rw [Table.find_insert] at found
        split at found
        · rename_i same
          cases found
          exact ⟨same.symm, rfl⟩
        · exact extracted.tables.entity found
      · exact extracted.tables.edge
    · intro name entity found
      unfold GraphTables.insertEntity
      rw [Table.find_insert] at found ⊢
      split at found
      · rename_i same
        cases found
        subst same
        exact ⟨if_pos rfl, rfl⟩
      · rename_i other
        rw [if_neg]
        · exact extracted.entity found
        · intro same
          exact other (congrArg Prod.snd same)

theorem newEdge_extracted {relation : RelationCandidate} (proposed : relation.Extracted) :
    (newEdge x env organizationId workspaceId (entityId x organizationId workspaceId relation.sourceNormalizedName)
      (entityId x organizationId workspaceId relation.targetNormalizedName) relation).Extracted x where
  named := by
    apply newEdge_named
    rw [proposed.kind]
    decide
  kind := proposed.kind
  confidence := proposed.confidence
  ends := ⟨_, _, proposed.ordered, rfl, rfl⟩

variable (env) in
theorem GraphBuild.Extracted.ensureEdge (extracted : build.Extracted x organizationId workspaceId)
    {source target : GraphEntity} {relation : RelationCandidate} (proposed : relation.Extracted)
    (sourceId : source.id = entityId x organizationId workspaceId relation.sourceNormalizedName)
    (targetId : target.id = entityId x organizationId workspaceId relation.targetNormalizedName) :
    (build.ensureEdge x env organizationId workspaceId source target relation).1.Extracted x organizationId
      workspaceId := by
  unfold GraphBuild.ensureEdge
  dsimp only
  split
  · exact extracted
  · refine ⟨⟨extracted.tables.entity, ?_⟩, extracted.entity⟩
    intro id edge found
    unfold GraphTables.insertEdge at found
    rw [Table.find_insert] at found
    split at found
    · rename_i same
      cases found
      rw [sourceId, targetId] at same ⊢
      exact ⟨same, newEdge_extracted proposed⟩
    · exact extracted.tables.edge found

theorem GraphBuild.Extracted.addRelation (extracted : build.Extracted x organizationId workspaceId)
    {chunk : DocumentChunk} {relation : RelationCandidate} (proposed : relation.Extracted)
    (run : build.addRelation x env organizationId workspaceId chunk relation = .ok build') :
    build'.Extracted x organizationId workspaceId := by
  obtain ⟨source, sourceFound, run⟩ := bind_eq_ok.mp run
  obtain ⟨target, targetFound, run⟩ := bind_eq_ok.mp run
  cases run
  have sourceId := (extracted.entity (context_eq_ok.mp sourceFound)).2
  have targetId := (extracted.entity (context_eq_ok.mp targetFound)).2
  have ensured := extracted.ensureEdge env proposed sourceId targetId
  exact ⟨⟨ensured.tables.entity, ensured.tables.edge⟩, ensured.entity⟩

theorem GraphBuild.Extracted.addEntities (extracted : build.Extracted x organizationId workspaceId)
    {candidates : List EntityCandidate} :
    (candidates.foldl (GraphBuild.addEntity x env organizationId workspaceId) build).Extracted x organizationId
      workspaceId := by
  induction candidates generalizing build with
  | nil => exact extracted
  | cons candidate candidates ih => exact ih extracted.addEntity

theorem GraphBuild.Extracted.addChunk (extracted : build.Extracted x organizationId workspaceId)
    {chunk : DocumentChunk} (run : build.addChunk x env organizationId workspaceId chunk = .ok build') :
    build'.Extracted x organizationId workspaceId := by
  apply foldlM_preserves _ extracted.addEntities run
  intro relation member before after kept step
  exact kept.addRelation (relation_extracted member) step

theorem GraphTables.Extracted.materialize (extracted : t.Extracted x) {chunks : List DocumentChunk}
    (run : materializeGraphChunks x env organizationId workspaceId t chunks = .ok t') : t'.Extracted x := by
  obtain ⟨build, loop, same⟩ := bind_eq_ok.mp run
  cases same
  have kept : build.Extracted x organizationId workspaceId := by
    apply foldlM_preserves _ extracted.start loop
    intro chunk _ before after kept step
    exact kept.addChunk step
  exact kept.tables

theorem GraphBuild.Adds.refl : GraphBuild.Adds x organizationId workspaceId [] [] build build where
  entities _ member := member
  edges _ member := member
  joined _ member := by cases member
  evidence := rfl

theorem GraphBuild.Adds.trans {relations relations' : List RelationCandidate}
    {rows rows' : List ((Uuid × Uuid) × GraphEdgeEvidence)}
    (first : GraphBuild.Adds x organizationId workspaceId relations rows build build')
    (second : GraphBuild.Adds x organizationId workspaceId relations' rows' build' build'') :
    GraphBuild.Adds x organizationId workspaceId (relations ++ relations') (rows ++ rows') build build'' where
  entities name member := second.entities name (first.entities name member)
  edges identity member := second.edges identity (first.edges identity member)
  joined relation member := by
    rcases List.mem_append.mp member with earlier | later
    · obtain ⟨source, target, edge⟩ := first.joined relation earlier
      exact ⟨second.entities _ source, second.entities _ target, second.edges _ edge⟩
    · exact second.joined relation later
  evidence := by
    rw [second.evidence, first.evidence]
    exact List.foldl_append.symm

theorem GraphBuild.Sound.foldlM {α : Type} {f : GraphBuild → α → Result GraphBuild}
    (relations : α → List RelationCandidate) (rows : α → List ((Uuid × Uuid) × GraphEdgeEvidence)) (items : List α)
    (step : ∀ a ∈ items, ∀ before : GraphBuild, before.Sound x organizationId workspaceId →
      (∀ name ∈ build.entitiesByName, name ∈ before.entitiesByName) → ∃ after, f before a = .ok after ∧
        after.Sound x organizationId workspaceId ∧
        GraphBuild.Adds x organizationId workspaceId (relations a) (rows a) before after)
    (sound : build.Sound x organizationId workspaceId) : ∃ after, items.foldlM f build = .ok after ∧
      after.Sound x organizationId workspaceId ∧
      GraphBuild.Adds x organizationId workspaceId (items.flatMap relations) (items.flatMap rows) build after := by
  induction items generalizing build with
  | nil => exact ⟨build, rfl, sound, .refl⟩
  | cons a items ih =>
    obtain ⟨middle, first, kept, adds⟩ := step a List.mem_cons_self build sound fun _ member => member
    obtain ⟨last, rest, final, more⟩ := ih (fun a' member before sound known =>
      step a' (List.mem_cons_of_mem _ member) before sound fun name old => known name (adds.entities name old)) kept
    refine ⟨last, ?_, final, ?_⟩
    · rw [List.foldlM_cons, bind_of_ok first]
      exact rest
    · rw [List.flatMap_cons, List.flatMap_cons]
      exact adds.trans more

variable (env) in
theorem GraphBuild.Sound.addEntity (sound : build.Sound x organizationId workspaceId) (candidate : EntityCandidate) :
    (build.addEntity x env organizationId workspaceId candidate).Sound x organizationId workspaceId where
  extracted := sound.extracted.addEntity
  indexed := by
    unfold GraphBuild.addEntity
    split <;> exact sound.indexed

theorem GraphBuild.addEntity_adds {candidate : EntityCandidate} : GraphBuild.Adds x organizationId workspaceId [] []
      build (build.addEntity x env organizationId workspaceId candidate) ∧
    candidate.normalizedName ∈ (build.addEntity x env organizationId workspaceId candidate).entitiesByName := by
  unfold GraphBuild.addEntity
  split
  · rename_i known
    exact ⟨.refl, Std.ExtTreeMap.contains_iff_mem.mp known⟩
  · constructor
    · constructor
      · intro name member
        exact Std.ExtTreeMap.mem_insert.mpr (.inr member)
      · exact fun _ member => member
      · exact fun _ member => by cases member
      · rfl
    · exact Std.ExtTreeMap.mem_insert_self

variable (env) in
theorem GraphBuild.Sound.addEntities (sound : build.Sound x organizationId workspaceId)
    (candidates : List EntityCandidate) : ∃ after, candidates.foldl (GraphBuild.addEntity x env organizationId workspaceId)
      build = after ∧ after.Sound x organizationId workspaceId ∧
    GraphBuild.Adds x organizationId workspaceId [] [] build after ∧
    ∀ candidate ∈ candidates, candidate.normalizedName ∈ after.entitiesByName := by
  induction candidates generalizing build with
  | nil => exact ⟨build, rfl, sound, .refl, fun _ member => by cases member⟩
  | cons candidate candidates ih =>
    obtain ⟨adds, known⟩ := @GraphBuild.addEntity_adds x env organizationId workspaceId build candidate
    obtain ⟨after, run, kept, more, listed⟩ := ih (sound.addEntity env candidate)
    refine ⟨after, run, kept, adds.trans more, ?_⟩
    intro other member
    rcases List.mem_cons.mp member with rfl | member
    · exact more.entities _ known
    · exact listed other member

section
variable (names : Function.Injective x.newV5)
include names

variable (env) in
theorem GraphBuild.Sound.ensureEdge (sound : build.Sound x organizationId workspaceId)
    {source target : GraphEntity} {relation : RelationCandidate} (proposed : relation.Extracted)
    (sourceId : source.id = entityId x organizationId workspaceId relation.sourceNormalizedName)
    (targetId : target.id = entityId x organizationId workspaceId relation.targetNormalizedName)
    {ensured : GraphBuild × GraphEdge}
    (run : build.ensureEdge x env organizationId workspaceId source target relation = ensured) :
    ensured.1.Sound x organizationId workspaceId ∧ ensured.2.id = relation.edgeId x organizationId workspaceId ∧
      ensured.1.entitiesByName = build.entitiesByName ∧
      ensured.1.tables.edgeEvidence = build.tables.edgeEvidence ∧
      (∀ identity ∈ build.edgesByIdentity, identity ∈ ensured.1.edgesByIdentity) ∧
      relation.identity x organizationId workspaceId ∈ ensured.1.edgesByIdentity := by
  have extracted := sound.extracted.ensureEdge env proposed sourceId targetId
  have identity : edgeIdentity source.id target.id relation.relationType =
      relation.identity x organizationId workspaceId := by
    rw [sourceId, targetId]
    rfl
  rw [run] at extracted
  unfold GraphBuild.ensureEdge at run
  dsimp only at run
  rw [identity] at run
  split at run
  · rename_i edge found
    subst run
    obtain ⟨stored, organization, workspace, own⟩ := sound.indexed found
    have id := (sound.extracted.tables.edge stored).2.named.id
    rw [organization, workspace, own] at id
    have member : relation.identity x organizationId workspaceId ∈ build.edgesByIdentity :=
      Std.ExtTreeMap.mem_iff_isSome_getElem?.mpr (by rw [found]; rfl)
    exact ⟨sound, id, rfl, rfl, fun _ known => known, member⟩
  · rename_i absent
    subst run
    have id : (newEdge x env organizationId workspaceId source.id target.id relation).id =
        relation.edgeId x organizationId workspaceId := by
      unfold newEdge
      dsimp only
      rw [identity]
      rfl
    refine ⟨⟨extracted, ?_⟩, id, rfl, rfl, ?_, Std.ExtTreeMap.mem_insert_self⟩
    · intro other edge found
      rw [Table.find_insert] at found
      unfold GraphTables.insertEdge
      rw [Table.find_insert]
      split at found
      · rename_i same
        cases found
        exact ⟨if_pos rfl, rfl, rfl, identity.trans same⟩
      · rename_i apart
        obtain ⟨stored, organization, workspace, own⟩ := sound.indexed found
        have distinct : (newEdge x env organizationId workspaceId source.id target.id relation).id ≠ edge.id := by
          intro same
          have known := (sound.extracted.tables.edge stored).2.named.id
          rw [organization, workspace, own, ← same, id] at known
          have texts := bytes_injective (names known)
          rw [edgeIdText, edgeIdText, String.append_right_inj] at texts
          exact apart texts
        rw [if_neg distinct]
        exact ⟨stored, organization, workspace, own⟩
    · intro other member
      exact Std.ExtTreeMap.mem_insert.mpr (.inr member)

/-- A relation between known names is added, whatever the graph already holds. -/
theorem GraphBuild.Sound.addRelation (sound : build.Sound x organizationId workspaceId) {chunk : DocumentChunk}
    {relation : RelationCandidate} (proposed : relation.Extracted)
    (sourceKnown : relation.sourceNormalizedName ∈ build.entitiesByName)
    (targetKnown : relation.targetNormalizedName ∈ build.entitiesByName) :
    ∃ after, build.addRelation x env organizationId workspaceId chunk relation = .ok after ∧
      after.Sound x organizationId workspaceId ∧
      GraphBuild.Adds x organizationId workspaceId [relation]
        [evidenceRow x env organizationId workspaceId chunk relation] build after := by
  obtain ⟨source, sourceFound⟩ := Option.isSome_iff_exists.mp (Std.ExtTreeMap.mem_iff_isSome_getElem?.mp sourceKnown)
  obtain ⟨target, targetFound⟩ := Option.isSome_iff_exists.mp (Std.ExtTreeMap.mem_iff_isSome_getElem?.mp targetKnown)
  have sourceId := (sound.extracted.entity sourceFound).2
  have targetId := (sound.extracted.entity targetFound).2
  obtain ⟨ensured, id, entities, evidence, edges, listed⟩ :=
    sound.ensureEdge env names proposed sourceId targetId rfl
  refine ⟨_, bind_eq_ok.mpr ⟨source, context_eq_ok.mpr sourceFound,
    bind_eq_ok.mpr ⟨target, context_eq_ok.mpr targetFound, rfl⟩⟩, ?_, ?_⟩
  · exact ⟨⟨⟨ensured.extracted.tables.entity, ensured.extracted.tables.edge⟩, ensured.extracted.entity⟩,
      ensured.indexed⟩
  · constructor
    · intro name member
      exact entities ▸ member
    · exact edges
    · intro other member
      obtain rfl := List.mem_singleton.mp member
      exact ⟨entities ▸ sourceKnown, entities ▸ targetKnown, listed⟩
    · show Std.ExtTreeMap.insert _ _ _ = Std.ExtTreeMap.insert _ _ _
      unfold newEvidence evidenceRow
      dsimp only
      rw [evidence, id]

theorem GraphBuild.Sound.addChunk (sound : build.Sound x organizationId workspaceId) {chunk : DocumentChunk} :
    ∃ after, build.addChunk x env organizationId workspaceId chunk = .ok after ∧
      after.Sound x organizationId workspaceId ∧
      GraphBuild.Adds x organizationId workspaceId (extract x chunk.content).relations
        (chunkEvidence x env organizationId workspaceId chunk) build after := by
  obtain ⟨middle, run, kept, adds, known⟩ :=
    sound.addEntities env (extract x chunk.content).entities
  have listed {name : String} (member : name ∈ (extract x chunk.content).entities.map EntityCandidate.normalizedName) :
      name ∈ middle.entitiesByName := by
    obtain ⟨candidate, own, rfl⟩ := List.mem_map.mp member
    exact known candidate own
  obtain ⟨after, done, final, more⟩ := kept.foldlM (f := GraphBuild.addRelation x env organizationId workspaceId chunk)
    (fun relation => [relation]) (fun relation => [evidenceRow x env organizationId workspaceId chunk relation])
    (extract x chunk.content).relations (by
      intro relation member before sound grown
      have ends := (mem_extractRelations extract_entities_nodup).mp
        (List.mem_map_of_mem (f := RelationCandidate.ends) member)
      exact sound.addRelation names (relation_extracted member) (grown _ (listed ends.1))
        (grown _ (listed ends.2.1)))
  refine ⟨after, ?_, final, ?_⟩
  · unfold GraphBuild.addChunk
    dsimp only
    rw [run]
    exact done
  · have both := adds.trans more
    rw [List.nil_append, List.nil_append, List.flatMap_singleton'] at both
    rw [chunkEvidence, List.map_eq_flatMap]
    exact both

theorem entityId_injective {name name' : String}
    (same : entityId x organizationId workspaceId name = entityId x organizationId workspaceId name') :
    name = name' := by
  rw [entityId, entityId] at same
  have texts := bytes_injective (names same)
  unfold entityIdText at texts
  exact (String.append_right_inj _).mp texts

theorem RelationCandidate.edgeId_ends {relation relation' : RelationCandidate} (proposed : relation.Extracted)
    (proposed' : relation'.Extracted)
    (same : relation.edgeId x organizationId workspaceId = relation'.edgeId x organizationId workspaceId) :
    relation.ends = relation'.ends := by
  have texts : edgeIdText organizationId workspaceId (relation.identity x organizationId workspaceId) =
      edgeIdText organizationId workspaceId (relation'.identity x organizationId workspaceId) :=
    bytes_injective (names same)
  rw [edgeIdText, edgeIdText, String.append_right_inj, RelationCandidate.identity, RelationCandidate.identity,
    edgeIdentity, edgeIdentity, proposed.kind, proposed'.kind, String.append_left_inj, String.append_left_inj,
    colon_inj (Uuid.no_colon _) (Uuid.no_colon _)] at texts
  have source := entityId_injective names (Uuid.ext texts.1)
  have target := entityId_injective names (Uuid.ext texts.2)
  exact Prod.ext source target

theorem chunkEvidence_nodup {chunks : List DocumentChunk} (distinct : (chunks.map DocumentChunk.id).Nodup) :
    ((chunks.flatMap (chunkEvidence x env organizationId workspaceId)).map Prod.fst).Nodup := by
  have chunkOf {chunk : DocumentChunk} {key : Uuid × Uuid}
      (member : key ∈ (chunkEvidence x env organizationId workspaceId chunk).map Prod.fst) : key.2 = chunk.id := by
    obtain ⟨row, listed, rfl⟩ := List.mem_map.mp member
    obtain ⟨relation, _, rfl⟩ := List.mem_map.mp listed
    rfl
  induction chunks with
  | nil => exact List.nodup_nil
  | cons chunk chunks ih =>
    rw [List.map_cons, List.nodup_cons] at distinct
    rw [List.flatMap_cons, List.map_append, List.nodup_append]
    refine ⟨?_, ih distinct.2, ?_⟩
    · have ends : ((extract x chunk.content).relations.map RelationCandidate.ends).Nodup :=
        extractRelations_nodup extract_entities_nodup
      rw [chunkEvidence, List.map_map]
      rw [List.Nodup, List.pairwise_map] at ends ⊢
      apply ends.imp_of_mem
      intro relation relation' member member' apart same
      exact apart (RelationCandidate.edgeId_ends names (relation_extracted member) (relation_extracted member')
        (congrArg Prod.fst same))
    · intro key own key' later same
      subst same
      obtain ⟨row, listed, named⟩ := List.mem_map.mp later
      obtain ⟨other, member, listed⟩ := List.mem_flatMap.mp listed
      have same : other.id = chunk.id := by
        rw [← chunkOf own, ← named]
        exact (chunkOf (List.mem_map_of_mem listed)).symm
      exact distinct.1 (same ▸ List.mem_map_of_mem member)

theorem GraphEdge.Extracted.not_loop {edge : GraphEdge} (extracted : edge.Extracted x) :
    edge.sourceEntityId ≠ edge.targetEntityId := by
  obtain ⟨source, target, ordered, sourceId, targetId⟩ := extracted.ends
  rw [sourceId, targetId]
  intro same
  exact ordered.ne (entityId_injective names same)

/-- Two edges of a scope between the same two entities, in whichever direction, are one. -/
theorem GraphEdge.Extracted.id_eq {edge edge' : GraphEdge} (extracted : edge.Extracted x)
    (extracted' : edge'.Extracted x) (organization : edge.organizationId = edge'.organizationId)
    (workspace : edge.workspaceId = edge'.workspaceId)
    (ends : (edge.sourceEntityId = edge'.sourceEntityId ∧ edge.targetEntityId = edge'.targetEntityId) ∨
      (edge.sourceEntityId = edge'.targetEntityId ∧ edge.targetEntityId = edge'.sourceEntityId)) :
    edge.id = edge'.id := by
  rcases ends with ⟨source, target⟩ | ⟨source, target⟩
  · rw [extracted.named.id, extracted'.named.id, organization, workspace, source, target, extracted.kind,
      extracted'.kind]
  · obtain ⟨first, last, ordered, firstId, lastId⟩ := extracted.ends
    obtain ⟨first', last', ordered', firstId', lastId'⟩ := extracted'.ends
    rw [firstId, lastId', organization, workspace] at source
    rw [lastId, firstId', organization, workspace] at target
    rw [entityId_injective names source, entityId_injective names target] at ordered
    exact absurd ordered' (lt_asymm ordered)

end

end

/-- The graph holds for reachable servers what the empty graph has and clears and materializations keep. -/
theorem Reachable.graph {x : Externals} {engines : SearchEngines} {server : Server} {I : GraphTables → Prop}
    (reachable : Reachable x engines server) (empty : I ⟨∅, ∅, ∅, ∅, ∅⟩)
    (clear : ∀ organizationId workspaceId t, I t → I (clearGraphWorkspace x organizationId workspaceId t))
    (materialize : ∀ env organizationId workspaceId t chunks t', I t →
      materializeGraphChunks x env organizationId workspaceId t chunks = .ok t' → I t') :
    I server.store.projection.graph := by
  have reprojected {env : Env} {s s' : Store} (step : Reprojection x env s s') (holds : I s.projection.graph) :
      I s'.projection.graph := by
    cases step with
    | keep _ projection => exact projection ▸ holds
    | graph organizationId workspaceId graph built _ projection =>
      rw [projection]
      exact materialize env organizationId workspaceId _ _ _ (clear organizationId workspaceId _ holds) built
    | activate organizationId workspaceId generation _ projection =>
      rw [projection]
      exact holds
  have processed {env : Env} {claimed : ClaimedIngestionJob} {s s' : Store}
      (effect : ProcessEffect x env claimed s s') (holds : I s.projection.graph) : I s'.projection.graph := by
    have same {left right : Store} (records : left.records = right.records) :
        left.projection.graph = right.projection.graph := by
      have part := congrArg (fun s : Store => s.projection.graph) records
      exact part
    have prepared {s s' : Store} {prepared : PreparedIngestion}
        (run : prepareIngestion x env claimed s = .ok (s', prepared)) (holds : I s.projection.graph) :
        I s'.projection.graph := by
      obtain ⟨_, _, projection, _, _, _, _, _, _, projected, rfl, _⟩ := prepareIngestion_ok run
      have graph : projection.graph = s.projection.graph := by
        have part := congrArg ProjectionTables.graph (prepareProjection_ok projected).2
        exact part
      exact graph ▸ holds
    cases effect with
    | none records => exact same records ▸ holds
    | prepared first records => exact same records ▸ prepared first holds
    | completed first between second records =>
      have middle := prepared first holds
      rw [← same between] at middle
      obtain ⟨projection, projected, _, written⟩ := completeIngestion_ok second
      obtain ⟨_, _, materialized, _, _⟩ := completeProjection_ok projected
      rw [same records, written]
      exact materialize env _ _ _ _ _ middle materialized
  obtain ⟨provider, reached⟩ := reachable
  have both := reached.preserves
    (I := fun server => IngestionIntegrity x server.store.ingestion ∧ I server.store.projection.graph)
    ⟨.empty, empty⟩ fun server event server' holds taken => ⟨taken.integrity holds.1, by
      rw [taken.next]
      have effect := @callStore_effect x engines event.env server.store holds.1 event.op
      show I (callStore x engines event.env event.op server.store).1.projection.graph
      generalize (callStore x engines event.env event.op server.store).1 = s' at effect
      generalize event.op = op at effect
      cases effect with
      | process effect => exact processed effect holds.2
      | project moves =>
        induction moves with
        | refl => exact holds.2
        | tail _ step ih => exact reprojected step ih
      | queue _ quiet => exact quiet.projection ▸ holds.2⟩
  exact both.2

theorem Reachable.extracted {x : Externals} {engines : SearchEngines} {server : Server}
    (reachable : Reachable x engines server) : server.store.projection.graph.Extracted x :=
  reachable.graph .empty (fun _ _ _ extracted => extracted.clear) fun _ _ _ _ _ _ extracted run =>
    extracted.materialize run

/-- The entities are the first mentions of at most eight names, and the relations are all pairs of these names,
    each once and in order. -/
structure Extraction.WellFormed (x : Externals) (content : String) (extraction : Extraction) : Prop where
  bounded : extraction.entities.length ≤ maxEntitiesPerChunk
  distinct : (extraction.entities.map EntityCandidate.normalizedName).Nodup
  first : extraction.entities =
    (firstsBy EntityCandidate.normalizedName (mentions x content)).take maxEntitiesPerChunk
  pairs : ∀ source target : String, (source, target) ∈ extraction.relations.map RelationCandidate.ends ↔
    source ∈ extraction.entities.map EntityCandidate.normalizedName ∧
      target ∈ extraction.entities.map EntityCandidate.normalizedName ∧ source < target
  once : (extraction.relations.map RelationCandidate.ends).Nodup

theorem extract_wellFormed {x : Externals} {content : String} : (extract x content).WellFormed x content where
  bounded := extract_entities_length
  distinct := extract_entities_nodup
  first := extract_entities
  pairs _ _ := mem_extractRelations extract_entities_nodup
  once := extractRelations_nodup extract_entities_nodup

/-- The second graph is the first one with the chunks' relations recorded: one new evidence row for each chunk and
    pair, an edge between the two entities of each pair, no loop and no second edge between two entities. -/
structure GraphTables.Records (x : Externals) (env : Env) (organizationId workspaceId : String)
    (chunks : List DocumentChunk) (t t' : GraphTables) : Prop where
  evidence : t'.edgeEvidence =
    t.edgeEvidence.insertAll (chunks.flatMap (chunkEvidence x env organizationId workspaceId))
  once : ((chunks.flatMap (chunkEvidence x env organizationId workspaceId)).map Prod.fst).Nodup
  joined : ∀ chunk ∈ chunks, ∀ relation ∈ (extract x chunk.content).relations, ∃ source target edge,
    t'.entities[graphEntityKey x organizationId workspaceId relation.sourceNormalizedName]? = some source ∧
    t'.entities[graphEntityKey x organizationId workspaceId relation.targetNormalizedName]? = some target ∧
    t'.edges[relation.edgeId x organizationId workspaceId]? = some edge ∧
    edge.organizationId = organizationId ∧ edge.workspaceId = workspaceId ∧
    edge.sourceEntityId = source.id ∧ edge.targetEntityId = target.id
  loopless : ∀ {id : Uuid} {edge : GraphEdge}, t'.edges[id]? = some edge → edge.sourceEntityId ≠ edge.targetEntityId
  simple : ∀ {id id' : Uuid} {edge edge' : GraphEdge}, t'.edges[id]? = some edge → t'.edges[id']? = some edge' →
    edge.organizationId = edge'.organizationId → edge.workspaceId = edge'.workspaceId →
    (edge.sourceEntityId = edge'.sourceEntityId ∧ edge.targetEntityId = edge'.targetEntityId) ∨
      (edge.sourceEntityId = edge'.targetEntityId ∧ edge.targetEntityId = edge'.sourceEntityId) → id = id'

theorem GraphBuild.Sound.records {x : Externals} {env : Env} {organizationId workspaceId : String} {t : GraphTables}
    {build : GraphBuild} (names : Function.Injective x.newV5) (sound : build.Sound x organizationId workspaceId)
    {chunks : List DocumentChunk} (distinct : (chunks.map DocumentChunk.id).Nodup)
    (adds : GraphBuild.Adds x organizationId workspaceId
      (chunks.flatMap fun chunk => (extract x chunk.content).relations)
      (chunks.flatMap (chunkEvidence x env organizationId workspaceId)) (t.build organizationId workspaceId) build) :
    GraphTables.Records x env organizationId workspaceId chunks t build.tables where
  evidence := adds.evidence
  once := chunkEvidence_nodup names distinct
  joined chunk listed relation member := by
    obtain ⟨sourceKnown, targetKnown, edgeKnown⟩ :=
      adds.joined relation (List.mem_flatMap.mpr ⟨chunk, listed, member⟩)
    obtain ⟨source, sourceFound⟩ :=
      Option.isSome_iff_exists.mp (Std.ExtTreeMap.mem_iff_isSome_getElem?.mp sourceKnown)
    obtain ⟨target, targetFound⟩ :=
      Option.isSome_iff_exists.mp (Std.ExtTreeMap.mem_iff_isSome_getElem?.mp targetKnown)
    obtain ⟨edge, edgeFound⟩ := Option.isSome_iff_exists.mp (Std.ExtTreeMap.mem_iff_isSome_getElem?.mp edgeKnown)
    obtain ⟨sourceStored, sourceId⟩ := sound.extracted.entity sourceFound
    obtain ⟨targetStored, targetId⟩ := sound.extracted.entity targetFound
    obtain ⟨edgeStored, organization, workspace, own⟩ := sound.indexed edgeFound
    have named := (sound.extracted.tables.edge edgeStored).2.named.id
    rw [organization, workspace, own] at named
    have kind := (sound.extracted.tables.edge edgeStored).2.kind
    rw [RelationCandidate.identity, edgeIdentity, edgeIdentity, kind, (relation_extracted member).kind,
      String.append_left_inj, String.append_left_inj, colon_inj (Uuid.no_colon _) (Uuid.no_colon _)] at own
    refine ⟨source, target, edge, sourceStored, targetStored, ?_, organization, workspace, ?_, ?_⟩
    · rw [RelationCandidate.edgeId, ← named]
      exact edgeStored
    · rw [sourceId]
      exact Uuid.ext own.1
    · rw [targetId]
      exact Uuid.ext own.2
  loopless found := (sound.extracted.tables.edge found).2.not_loop names
  simple found found' organization workspace ends := by
    obtain ⟨rfl, extracted⟩ := sound.extracted.tables.edge found
    obtain ⟨rfl, extracted'⟩ := sound.extracted.tables.edge found'
    exact extracted.id_eq names extracted' organization workspace ends

theorem GraphTables.Extracted.materializes {x : Externals} {env : Env} {organizationId workspaceId : String}
    {t : GraphTables} (extracted : t.Extracted x) (names : Function.Injective x.newV5) {chunks : List DocumentChunk}
    (distinct : (chunks.map DocumentChunk.id).Nodup) :
    ∃ t', materializeGraphChunks x env organizationId workspaceId t chunks = .ok t' ∧
      GraphTables.Records x env organizationId workspaceId chunks t t' := by
  have start : (t.build organizationId workspaceId).Sound x organizationId workspaceId :=
    ⟨extracted.start, extracted.indexed⟩
  obtain ⟨build, run, sound, adds⟩ :=
    start.foldlM (f := GraphBuild.addChunk x env organizationId workspaceId) _ _ chunks
      fun chunk _ before sound _ => sound.addChunk names
  exact ⟨build.tables, bind_of_ok run, sound.records names distinct adds⟩

/-- Extraction is well formed, and from every graph that a server can hold, cleared or not, materialization
    succeeds and records what was extracted. -/
theorem extraction_materializes {x : Externals} {engines : SearchEngines} {env : Env}
    {organizationId workspaceId : String} {server : Server} {t : GraphTables} {chunks : List DocumentChunk}
    (names : Function.Injective x.newV5) (reachable : Reachable x engines server)
    (prior : t = server.store.projection.graph ∨
      t = clearGraphWorkspace x organizationId workspaceId server.store.projection.graph)
    (distinct : (chunks.map DocumentChunk.id).Nodup) :
    (∀ content, (extract x content).WellFormed x content) ∧
      ∃ t', materializeGraphChunks x env organizationId workspaceId t chunks = .ok t' ∧
        GraphTables.Records x env organizationId workspaceId chunks t t' := by
  have extracted : t.Extracted x := by
    rcases prior with rfl | rfl
    · exact reachable.extracted
    · exact reachable.extracted.clear
  exact ⟨fun _ => extract_wellFormed, extracted.materializes names distinct⟩

def zephyrChunk : DocumentChunk := ⟨(serialEnv 4 48).uuid 0, (serialEnv 4 48).uuid 1, 0, "Alpha rotates Zephyr keys"⟩

def payrollChunk : DocumentChunk := ⟨(serialEnv 4 48).uuid 2, (serialEnv 4 48).uuid 1, 1, "payroll uses alpha"⟩

/-- Two chunks are added to the graph of a workspace that knows one of their entities already. -/
theorem extraction_materializes_zephyr :
    (∀ content, (extract sample content).WellFormed sample content) ∧
      ∃ t', materializeGraphChunks sample (serialEnv 4 48) "acme" "lab:x" labServer.store.projection.graph
          [zephyrChunk, payrollChunk] = .ok t' ∧
        GraphTables.Records sample (serialEnv 4 48) "acme" "lab:x" [zephyrChunk, payrollChunk]
          labServer.store.projection.graph t' := by
  have reachable : Reachable sample noHits labServer := freshRun_reachable (by decide +kernel)
  exact extraction_materializes sample_names reachable (.inl rfl) (by decide +kernel)

end Hangar
