import Hangar.Projection.AllOrNothing
import Hangar.Projection.Depth

namespace Hangar

open Lib

/-- Each evidence row stands under its key for a relation of the text it hashes, each edge has such a row, and each
    entity goes by the lower case of the name it displays. -/
structure GraphTables.Attested (x : Externals) (t : GraphTables) : Prop where
  evidence : ∀ {key : Uuid × Uuid} {evidence : GraphEdgeEvidence}, t.edgeEvidence[key]? = some evidence →
    key = (evidence.edgeId, evidence.chunkId) ∧ ∃ organizationId workspaceId content,
      ∃ relation ∈ (extract x content).relations, evidence.sourceSha256 = x.sha256Text content ∧
        evidence.edgeId = relation.edgeId x organizationId workspaceId
  edge : ∀ {id : Uuid} {edge : GraphEdge}, t.edges[id]? = some edge → ∃ chunkId, (id, chunkId) ∈ t.edgeEvidence
  displayed : ∀ {key : String × String} {entity : GraphEntity}, t.entities[key]? = some entity →
    entity.normalizedName = x.toLowercase entity.displayName

section
variable {x : Externals} {env : Env} {organizationId workspaceId : String} {t t' : GraphTables}
  {build build' : GraphBuild}

theorem GraphTables.Attested.empty : GraphTables.Attested x ⟨∅, ∅, ∅, ∅, ∅⟩ where
  evidence found := by simp at found
  edge found := by simp at found
  displayed found := by simp at found

theorem GraphTables.Attested.clear (attested : t.Attested x) :
    (clearGraphWorkspace x organizationId workspaceId t).Attested x where
  evidence found := attested.evidence (clearGraphWorkspace_evidence found)
  edge {id edge} found := by
    unfold clearGraphWorkspace at found ⊢
    rw [Table.find_eraseAll] at found
    split at found
    · cases found
    · rename_i kept
      obtain ⟨chunkId, member⟩ := attested.edge found
      obtain ⟨evidence, stored⟩ := Option.isSome_iff_exists.mp (Std.ExtTreeMap.mem_iff_isSome_getElem?.mp member)
      have owner : id = evidence.edgeId := congrArg Prod.fst (attested.evidence stored).1
      rw [owner] at kept
      refine ⟨chunkId, Std.ExtTreeMap.mem_iff_isSome_getElem?.mpr (Option.isSome_iff_exists.mpr ⟨evidence, ?_⟩)⟩
      apply Table.find_filter_eq_some.mpr
      refine ⟨stored, ?_⟩
      simpa using kept
  displayed found := attested.displayed (Table.find_filter_eq_some.mp found).1

theorem extract_displayed {content : String} {candidate : EntityCandidate}
    (member : candidate ∈ (extract x content).entities) :
    candidate.normalizedName = x.toLowercase candidate.displayName := by
  rw [extract_entities] at member
  obtain ⟨raw, _, named⟩ := List.mem_filterMap.mp (mem_firstsBy (List.mem_of_mem_take member))
  unfold mention at named
  dsimp only at named
  split at named
  · cases named
  · cases named
    rfl

theorem GraphTables.Attested.addEntity (attested : build.tables.Attested x) {candidate : EntityCandidate}
    (displayed : candidate.normalizedName = x.toLowercase candidate.displayName) :
    (build.addEntity x env organizationId workspaceId candidate).tables.Attested x := by
  unfold GraphBuild.addEntity
  split
  · exact attested
  · refine ⟨attested.evidence, attested.edge, ?_⟩
    intro key entity found
    unfold GraphTables.insertEntity at found
    rw [Table.find_insert] at found
    split at found
    · cases found
      exact displayed
    · exact attested.displayed found

theorem GraphTables.Attested.addEntities (attested : build.tables.Attested x) {candidates : List EntityCandidate}
    (displayed : ∀ candidate ∈ candidates, candidate.normalizedName = x.toLowercase candidate.displayName) :
    (candidates.foldl (GraphBuild.addEntity x env organizationId workspaceId) build).tables.Attested x := by
  induction candidates generalizing build with
  | nil => exact attested
  | cons candidate candidates ih =>
    have first := displayed candidate List.mem_cons_self
    exact ih (attested.addEntity first) fun other member => displayed other (List.mem_cons_of_mem _ member)

theorem ensureEdge_edges {source target : GraphEntity} {relation : RelationCandidate} {id : Uuid} {edge : GraphEdge}
    (found : (build.ensureEdge x env organizationId workspaceId source target relation).1.tables.edges[id]? = some edge) :
    build.tables.edges[id]? = some edge ∨
      id = (build.ensureEdge x env organizationId workspaceId source target relation).2.id := by
  unfold GraphBuild.ensureEdge at found ⊢
  dsimp only at found ⊢
  split at found
  · exact .inl found
  · unfold GraphTables.insertEdge at found
    rw [Table.find_insert] at found
    split at found
    · rename_i same
      exact .inr same.symm
    · exact .inl found

theorem ensureEdge_entities {source target : GraphEntity} {relation : RelationCandidate} :
    (build.ensureEdge x env organizationId workspaceId source target relation).1.tables.entities =
      build.tables.entities := by
  unfold GraphBuild.ensureEdge
  dsimp only
  split <;> rfl

section
variable (names : Function.Injective x.newV5)
include names

theorem GraphTables.Attested.addRelation (attested : build.tables.Attested x)
    (sound : build.Sound x organizationId workspaceId) {chunk : DocumentChunk} {relation : RelationCandidate}
    (member : relation ∈ (extract x chunk.content).relations)
    (run : build.addRelation x env organizationId workspaceId chunk relation = .ok build') :
    build'.Sound x organizationId workspaceId ∧ build'.tables.Attested x := by
  obtain ⟨source, sourceFound, run⟩ := bind_eq_ok.mp run
  obtain ⟨target, targetFound, run⟩ := bind_eq_ok.mp run
  cases run
  have proposed := relation_extracted member
  have sourceId := (sound.extracted.entity (context_eq_ok.mp sourceFound)).2
  have targetId := (sound.extracted.entity (context_eq_ok.mp targetFound)).2
  obtain ⟨ensured, id, _, evidence, _, _⟩ := sound.ensureEdge env names proposed sourceId targetId rfl
  refine ⟨⟨⟨⟨ensured.extracted.tables.entity, ensured.extracted.tables.edge⟩, ensured.extracted.entity⟩,
    ensured.indexed⟩, ?_, ?_, ?_⟩
  · intro key row found
    unfold GraphTables.insertEvidence at found
    rw [Table.find_insert, evidence] at found
    split at found
    · rename_i same
      cases found
      exact ⟨same.symm, organizationId, workspaceId, chunk.content, relation, member, rfl, id⟩
    · exact attested.evidence found
  · intro edgeId edge found
    rcases ensureEdge_edges found with old | new
    · obtain ⟨chunkId, stored⟩ := attested.edge old
      refine ⟨chunkId, Std.ExtTreeMap.mem_insert.mpr (.inr ?_)⟩
      rw [evidence]
      exact stored
    · refine ⟨chunk.id, ?_⟩
      rw [new]
      exact Std.ExtTreeMap.mem_insert_self
  · intro key entity found
    have old : build.tables.entities[key]? = some entity := by
      rw [← @ensureEdge_entities x env organizationId workspaceId build source target relation]
      exact found
    exact attested.displayed old

theorem GraphTables.Attested.addChunk (attested : build.tables.Attested x)
    (sound : build.Sound x organizationId workspaceId) {chunk : DocumentChunk}
    (run : build.addChunk x env organizationId workspaceId chunk = .ok build') :
    build'.Sound x organizationId workspaceId ∧ build'.tables.Attested x := by
  obtain ⟨middle, entities, kept, _, _⟩ := sound.addEntities env (extract x chunk.content).entities
  have start : middle.tables.Attested x := by
    rw [← entities]
    exact attested.addEntities fun candidate member => extract_displayed member
  unfold GraphBuild.addChunk at run
  dsimp only at run
  rw [entities] at run
  apply foldlM_preserves (P := fun build : GraphBuild => build.Sound x organizationId workspaceId ∧ build.tables.Attested x)
    _ ⟨kept, start⟩ run
  intro relation member before after holds step
  exact holds.2.addRelation names holds.1 member step

theorem GraphTables.Attested.materialize (attested : t.Attested x) (extracted : t.Extracted x)
    {chunks : List DocumentChunk}
    (run : materializeGraphChunks x env organizationId workspaceId t chunks = .ok t') : t'.Attested x := by
  obtain ⟨build, loop, same⟩ := bind_eq_ok.mp run
  cases same
  have start : (t.build organizationId workspaceId).Sound x organizationId workspaceId :=
    ⟨extracted.start, extracted.indexed⟩
  have both : build.Sound x organizationId workspaceId ∧ build.tables.Attested x := by
    apply foldlM_preserves (P := fun build : GraphBuild => build.Sound x organizationId workspaceId ∧ build.tables.Attested x)
      _ ⟨start, attested⟩ loop
    intro chunk _ before after holds step
    exact holds.2.addChunk names holds.1 step
  exact both.2

theorem Reachable.attested {engines : SearchEngines} {server : Server} (reachable : Reachable x engines server) :
    server.store.projection.graph.Attested x := by
  have both := reachable.graph (I := fun t => t.Extracted x ∧ t.Attested x) ⟨.empty, .empty⟩
    (fun _ _ _ holds => ⟨holds.1.clear, holds.2.clear⟩)
    fun _ _ _ _ _ _ holds run => ⟨holds.1.materialize run, holds.2.materialize names holds.1 run⟩
  exact both.2

/-- An edge under the id of a relation joins the entities of its names, even if the relation was found in a
    workspace whose ids read the same. -/
theorem GraphEdge.Extracted.ends_of_relation {edge : GraphEdge} (extracted : edge.Extracted x)
    {relation : RelationCandidate} (proposed : relation.Extracted)
    (same : edge.id = relation.edgeId x organizationId workspaceId) :
    edge.sourceEntityId = entityId x edge.organizationId edge.workspaceId relation.sourceNormalizedName ∧
      edge.targetEntityId = entityId x edge.organizationId edge.workspaceId relation.targetNormalizedName := by
  have texts := bytes_injective (names (extracted.named.id.symm.trans same))
  have shape (o w : String) (s t : Uuid) (r : String) : edgeIdText o w (edgeIdentity s t r) =
      "hangar:edge:" ++ colonScope o w ++ ":" ++ s.text ++ ":" ++ t.text ++ (":" ++ r) := by
    simp only [edgeIdText, edgeIdentity, colonScope, String.append_assoc]
  rw [RelationCandidate.identity, shape, shape, extracted.kind, proposed.kind, String.append_left_inj,
    colon_inj (Uuid.no_colon _) (Uuid.no_colon _), colon_inj (Uuid.no_colon _) (Uuid.no_colon _),
    String.append_right_inj] at texts
  obtain ⟨⟨scope, source⟩, target⟩ := texts
  have entities (name : String) : entityId x organizationId workspaceId name =
      entityId x edge.organizationId edge.workspaceId name := by
    have text (o w : String) : entityIdText o w name = "hangar:entity:" ++ colonScope o w ++ ":" ++ name := by
      unfold entityIdText colonScope
      generalize "hangar:entity:" = start
      simp only [String.append_assoc]
    rw [entityId, entityId, text, text, scope]
  rw [← entities, ← entities]
  exact ⟨Uuid.ext source, Uuid.ext target⟩

end

end

structure GraphCandidate.Reached (edges : List GraphEdge) (evidence : Uuid → List GraphEdgeEvidence) (seeds : List Uuid)
    (maxHops : Nat) (candidate : GraphCandidate) : Prop where
  near : candidate.hops ≤ maxHops
  cited : ∃ edge ∈ edges, edge.id = candidate.edgeId ∧ (∃ item ∈ evidence edge.id, item.chunkId = candidate.chunkId) ∧
    ∃ v hops, edge.Touches v ∧ candidate.hops = hops + 1 ∧ WalkTo (fun v => v ∈ seeds) (Joined edges) hops v

/-- The frontier is reached by walks from the seeds, and so are the candidates. -/
structure Traversal.Reached (edges : List GraphEdge) (evidence : Uuid → List GraphEdgeEvidence) (seeds : List Uuid)
    (maxHops : Nat) (t : Traversal) : Prop where
  frontier : ∀ p ∈ t.frontier, WalkTo (fun v => v ∈ seeds) (Joined edges) p.2 p.1
  candidate : ∀ (chunkId : Uuid) candidate, t.candidates[chunkId]? = some candidate →
    candidate.Reached edges evidence seeds maxHops

section
variable {edges traversed : List GraphEdge} {evidence : Uuid → List GraphEdgeEvidence} {seeds : List Uuid}
  {maxHops hops fuel : Nat} {t : Traversal} {edge : GraphEdge} {v : Uuid}

theorem Traversal.Reached.follow (reached : t.Reached edges evidence seeds maxHops) (near : hops < maxHops)
    (walk : WalkTo (fun v => v ∈ seeds) (Joined edges) hops v) (member : edge ∈ incident edges v) :
    (t.follow evidence v hops edge).Reached edges evidence seeds maxHops := by
  obtain ⟨listed, touches⟩ := mem_incident.mp member
  constructor
  · have queue : (t.follow evidence v hops edge).queue = t.queue.reach (hops + 1) (edge.other v) :=
      followed_queue evidence v hops [edge]
    have frontier := congrArg Queue.frontier queue
    intro p queued
    rw [show (t.follow evidence v hops edge).frontier = _ from frontier] at queued
    unfold Queue.reach at queued
    split at queued
    · rcases List.mem_append.mp queued with old | last
      · exact reached.frontier p old
      · obtain rfl := List.mem_singleton.mp last
        exact .step walk (joined_iff.mpr ⟨edge, member, rfl⟩)
    · exact reached.frontier p queued
  · have considered (items : List GraphEdgeEvidence) (own : ∀ item ∈ items, item ∈ evidence edge.id) (t : Traversal)
        (holds : ∀ (chunkId : Uuid) candidate, t.candidates[chunkId]? = some candidate →
          candidate.Reached edges evidence seeds maxHops) (chunkId : Uuid) (candidate : GraphCandidate)
        (found : (items.foldl (fun t item => t.consider edge (hops + 1) item) t).candidates[chunkId]? = some candidate) :
        candidate.Reached edges evidence seeds maxHops := by
      induction items generalizing t with
      | nil => exact holds chunkId candidate found
      | cons item items ih =>
        refine ih (fun other later => own other (List.mem_cons_of_mem _ later)) _ ?_ found
        intro chunkId' candidate' found'
        dsimp only at found'
        rw [consider_eq] at found'
        dsimp only at found'
        split at found'
        · rw [Table.find_insert] at found'
          split at found'
          · cases found'
            exact ⟨near, edge, listed, rfl, ⟨item, own item List.mem_cons_self, rfl⟩, v, hops, touches, rfl, walk⟩
          · exact holds chunkId' candidate' found'
        · exact holds chunkId' candidate' found'
    intro chunkId candidate found
    rw [follow_eq] at found
    refine considered _ (fun _ own => own) _ ?_ chunkId candidate found
    intro chunkId' candidate' found'
    rw [advance_candidates] at found'
    exact reached.candidate chunkId' candidate' found'

theorem Traversal.Reached.followAll (reached : t.Reached edges evidence seeds maxHops) (near : hops < maxHops)
    (walk : WalkTo (fun v => v ∈ seeds) (Joined edges) hops v) (listed : ∀ edge ∈ traversed, edge ∈ incident edges v) :
    (t.followAll evidence v hops traversed).Reached edges evidence seeds maxHops := by
  induction traversed generalizing t with
  | nil => exact reached
  | cons edge traversed ih =>
    have followed := reached.follow near walk (listed edge List.mem_cons_self)
    unfold Traversal.followAll
    dsimp only
    split
    · exact followed
    · exact ih followed fun other later => listed other (List.mem_cons_of_mem _ later)

theorem Traversal.Reached.run (reached : t.Reached edges evidence seeds maxHops) :
    (Traversal.run edges evidence maxHops fuel t).Reached edges evidence seeds maxHops := by
  induction fuel generalizing t with
  | zero => exact reached
  | succ fuel ih =>
    unfold Traversal.run
    cases first : t.frontier with
    | nil => exact reached
    | cons entry rest =>
      have walk := reached.frontier entry (by rw [first]; exact List.mem_cons_self)
      have dropped : Traversal.Reached edges evidence seeds maxHops { t with frontier := rest } := by
        refine ⟨?_, reached.candidate⟩
        intro p later
        apply reached.frontier
        rw [first]
        exact List.mem_cons_of_mem _ later
      dsimp only
      split
      · exact ih dropped
      · rename_i expanded
        rw [not_or, Nat.not_le] at expanded
        exact ih (dropped.followAll expanded.1 walk fun _ member => member)

theorem Traversal.Reached.start : (Traversal.start seeds).Reached edges evidence seeds maxHops where
  frontier p queued := by
    obtain ⟨v, listed, rfl⟩ := List.mem_map.mp queued
    exact .seed listed
  candidate chunkId candidate found := by simp [Traversal.start] at found

end

section
variable {x : Externals} {engines : SearchEngines} {server : Server} {s : Store}
  {organizationId workspaceId query : String} {limit maxHops : Nat}

def Relates (x : Externals) (content name name' : String) : Prop :=
  ∃ relation ∈ (extract x content).relations, relation.ends = (name, name') ∨ relation.ends = (name', name)

def Store.CoOccur (x : Externals) (s : Store) (name name' : String) : Prop :=
  ∃ (key : Uuid × Nat) (chunk : DocumentChunk) (document : Document), s.projection.chunks[key]? = some chunk ∧
    s.ingestion.documents[key.1]? = some document ∧ document.ingestionStatus = .succeeded ∧
      Relates x chunk.content name name'

/-- A graph result as the stored texts bear it out: its text is a chunk of a succeeded document of the workspace, that
    text relates the two entities, and one of them is linked to the query by texts, one for each further hop. -/
structure GraphResult.Attested (x : Externals) (s : Store) (organizationId workspaceId query : String) (maxHops : Nat)
    (result : GraphResult) : Prop where
  document : ∃ document payload, s.ingestion.documents[result.documentId]? = some document ∧
    document.organizationId = organizationId ∧ document.workspaceId = workspaceId ∧
    document.ingestionStatus = .succeeded ∧ document.name = result.documentName ∧ document.source = result.source ∧
    s.ingestion.payloads[document.ingestionJobId]? = some payload ∧
    (chunkText payload.content maximumChunkChars)[result.ordinal]? = some result.content
  relation : ∃ relation ∈ (extract x result.content).relations,
    relation.ends = (x.toLowercase result.sourceEntity, x.toLowercase result.targetEntity) ∧
    relation.relationType = result.relationType ∧ relation.confidence = result.confidence
  path : ∃ hops name, result.hops = hops + 1 ∧ result.hops ≤ clampedHops maxHops ∧
    (name = x.toLowercase result.sourceEntity ∨ name = x.toLowercase result.targetEntity) ∧
    WalkTo (fun term => term ∈ queryTerms x query) (s.CoOccur x) hops name

theorem mem_graphEdges_scope {t : GraphTables} {edge : GraphEdge} (member : edge ∈ graphEdges organizationId workspaceId t) :
    (∃ id : Uuid, t.edges[id]? = some edge) ∧ edge.organizationId = organizationId ∧ edge.workspaceId = workspaceId := by
  refine ⟨mem_graphEdges member, ?_⟩
  obtain ⟨key, found⟩ := Table.mem_rows.mp member
  rcases Table.find_insertAll found with listed | ⟨_, absent⟩
  · obtain ⟨stored, kept, same⟩ := List.mem_map.mp listed
    cases same
    exact inScope_iff.mp (List.mem_filter.mp kept).2
  · simp at absent

theorem entityMap_find {t : GraphTables} {id : Uuid} {entity : GraphEntity}
    (found : (entityMap organizationId workspaceId t)[id]? = some entity) : entity.id = id ∧
      entity.organizationId = organizationId ∧ entity.workspaceId = workspaceId ∧
      ∃ key : String × String, t.entities[key]? = some entity := by
  rcases Table.find_insertAll found with listed | ⟨_, absent⟩
  · obtain ⟨stored, kept, same⟩ := List.mem_map.mp listed
    cases same
    obtain ⟨member, own⟩ := List.mem_filter.mp kept
    obtain ⟨organization, workspace⟩ := inScope_iff.mp own
    exact ⟨rfl, organization, workspace, Table.mem_rows.mp member⟩
  · simp at absent

theorem GraphTables.Extracted.entityId_of_find {t : GraphTables} (extracted : t.Extracted x) {id : Uuid}
    {entity : GraphEntity} (found : (entityMap organizationId workspaceId t)[id]? = some entity) :
    id = entityId x organizationId workspaceId entity.normalizedName := by
  obtain ⟨named, rfl, rfl, key, stored⟩ := entityMap_find found
  rw [← named]
  exact (extracted.entity stored).2

variable (reachable : Reachable x engines server) (digests : Function.Injective x.sha256)
  (names : Function.Injective x.newV5)
include reachable digests names

/-- The chunk that is evidence for an edge is stored, of a succeeded document, and relates the ends of the edge. -/
theorem evidence_relates {edge : GraphEdge}
    (member : edge ∈ graphEdges organizationId workspaceId server.store.projection.graph) {key : Uuid × Uuid}
    {evidence : GraphEdgeEvidence} (found : server.store.projection.graph.edgeEvidence[key]? = some evidence)
    (own : evidence.edgeId = edge.id) :
    ∃ (place : Uuid × Nat) (chunk : DocumentChunk) (document : Document),
      server.store.projection.chunks[place]? = some chunk ∧ chunk.id = evidence.chunkId ∧
      server.store.ingestion.documents[place.1]? = some document ∧ document.ingestionStatus = .succeeded ∧
      ∃ relation ∈ (extract x chunk.content).relations,
        edge.sourceEntityId = entityId x organizationId workspaceId relation.sourceNormalizedName ∧
        edge.targetEntityId = entityId x organizationId workspaceId relation.targetNormalizedName := by
  obtain ⟨⟨id, stored⟩, rfl, rfl⟩ := mem_graphEdges_scope member
  obtain ⟨_, organizationId, workspaceId, content, relation, listed, hashed, cited⟩ :=
    (reachable.attested names).evidence found
  obtain ⟨place, chunk, document, chunkFound, named, same, documentFound, succeeded⟩ :=
    reachable.output.evidence found
  rw [hashed] at same
  obtain rfl := Externals.sha256Text_injective digests same
  refine ⟨place, chunk, document, chunkFound, named, documentFound, succeeded, relation, listed, ?_⟩
  exact (reachable.extracted.edge stored).2.ends_of_relation names (relation_extracted listed) (own.symm.trans cited)

theorem joined_coOccur {v w : Uuid} {name : String}
    (joined : Joined (graphEdges organizationId workspaceId server.store.projection.graph) v w)
    (named : v = entityId x organizationId workspaceId name) :
    ∃ name', w = entityId x organizationId workspaceId name' ∧ server.store.CoOccur x name name' := by
  obtain ⟨edge, member, ends⟩ := joined
  obtain ⟨⟨id, stored⟩, _, _⟩ := mem_graphEdges_scope member
  obtain ⟨chunkId, cited⟩ := (reachable.attested names).edge stored
  obtain ⟨evidence, found⟩ := Option.isSome_iff_exists.mp (Std.ExtTreeMap.mem_iff_isSome_getElem?.mp cited)
  have own : evidence.edgeId = edge.id := by
    have owner := congrArg Prod.fst ((reachable.attested names).evidence found).1
    rw [(reachable.extracted.edge stored).1]
    exact owner.symm
  obtain ⟨place, chunk, document, chunkFound, _, documentFound, succeeded, relation, listed, source, target⟩ :=
    evidence_relates reachable digests names member found own
  rcases ends with ⟨first, last⟩ | ⟨first, last⟩
  · have same := entityId_injective names (source.symm.trans (first.trans named))
    exact ⟨_, last.symm.trans target, place, chunk, document, chunkFound, documentFound, succeeded, relation, listed,
      .inl (Prod.ext same rfl)⟩
  · have same := entityId_injective names (target.symm.trans (last.trans named))
    exact ⟨_, first.symm.trans source, place, chunk, document, chunkFound, documentFound, succeeded, relation, listed,
      .inr (Prod.ext rfl same)⟩

theorem walk_coOccur {hops : Nat} {v : Uuid}
    (walk : WalkTo (fun v => v ∈ graphSeeds x organizationId workspaceId query server.store.projection.graph)
      (Joined (graphEdges organizationId workspaceId server.store.projection.graph)) hops v) :
    ∃ name, v = entityId x organizationId workspaceId name ∧
      WalkTo (fun term => term ∈ queryTerms x query) (server.store.CoOccur x) hops name := by
  induction walk with
  | seed listed =>
    obtain ⟨entity, member, rfl⟩ := List.mem_map.mp listed
    obtain ⟨member, named⟩ := List.mem_filter.mp member
    obtain ⟨id, found⟩ := Table.mem_rows.mp member
    refine ⟨entity.normalizedName, ?_, .seed (List.contains_iff_mem.mp named)⟩
    rw [(entityMap_find found).1]
    exact reachable.extracted.entityId_of_find found
  | step _ joined ih =>
    obtain ⟨name, named, walk⟩ := ih
    obtain ⟨name', named', related⟩ := joined_coOccur reachable digests names joined named
    exact ⟨name', named', .step walk related⟩

/-- Whatever `retrieve_graph` returns, the stored texts bear out. -/
theorem graph_results_attested {results : List GraphResult}
    (run : retrieveGraph x organizationId workspaceId query limit maxHops server.store = .ok results)
    {result : GraphResult} (member : result ∈ results) :
    result.Attested x server.store organizationId workspaceId query maxHops := by
  obtain ⟨_, _, run⟩ := bind_eq_ok.mp run
  cases run
  have listed := (List.mem_insertionSort _).mp (List.mem_of_mem_take member)
  obtain ⟨candidate, proposed, retrieved⟩ := List.mem_filterMap.mp listed
  rw [graphCandidates_eq] at proposed
  obtain ⟨chunkId, found⟩ := Table.mem_rows.mp ((List.mem_insertionSort _).mp (List.mem_of_mem_take proposed))
  have reached := Traversal.Reached.start.run.candidate chunkId candidate found
  obtain ⟨reachedEdge, member, named, ⟨item, attests, cited⟩, v, hops, touches, counted, walk⟩ := reached.cited
  obtain ⟨attests, own⟩ := List.mem_filter.mp attests
  obtain ⟨key, evidenceFound⟩ := Table.mem_rows.mp attests
  obtain ⟨place, evident, _, evidentFound, evidentId, _, _, relation, related, source, target⟩ :=
    evidence_relates reachable digests names member evidenceFound (beq_iff_eq.mp own)
  obtain ⟨name, reachedName, path⟩ := walk_coOccur reachable digests names walk
  obtain ⟨⟨edgeKey, edgeStored⟩, organization, workspace⟩ := mem_graphEdges_scope member
  unfold graphResult at retrieved
  obtain ⟨chunk, chunkFound, retrieved⟩ := Option.bind_eq_some_iff.mp retrieved
  obtain ⟨document, documentFound, retrieved⟩ := Option.bind_eq_some_iff.mp retrieved
  obtain ⟨manifest, _, retrieved⟩ := Option.bind_eq_some_iff.mp retrieved
  split at retrieved
  · rename_i allowed
    simp only [Bool.and_eq_true, beq_iff_eq] at allowed
    obtain ⟨edge, edgeFound, retrieved⟩ := Option.bind_eq_some_iff.mp retrieved
    obtain ⟨sourceEntity, sourceFound, retrieved⟩ := Option.bind_eq_some_iff.mp retrieved
    obtain ⟨targetEntity, targetFound, retrieved⟩ := Option.bind_eq_some_iff.mp retrieved
    cases retrieved
    obtain ⟨rfl, extracted⟩ := reachable.extracted.edge edgeStored
    rw [← named, edgeStored] at edgeFound
    cases edgeFound
    obtain ⟨identified, place', chunkStored⟩ := chunksById_find chunkFound
    obtain rfl := reachable.output.chunkId chunkStored evidentFound (identified.trans (cited.symm.trans evidentId.symm))
    rw [chunkStored] at evidentFound
    cases evidentFound
    have sourceName : relation.sourceNormalizedName = x.toLowercase sourceEntity.displayName := by
      obtain ⟨_, _, _, _, stored⟩ := entityMap_find sourceFound
      rw [← (reachable.attested names).displayed stored]
      exact entityId_injective names (source.symm.trans (reachable.extracted.entityId_of_find sourceFound))
    have targetName : relation.targetNormalizedName = x.toLowercase targetEntity.displayName := by
      obtain ⟨_, _, _, _, stored⟩ := entityMap_find targetFound
      rw [← (reachable.attested names).displayed stored]
      exact entityId_injective names (target.symm.trans (reachable.extracted.entityId_of_find targetFound))
    have documentStored := documentsById_find reachable.integrity documentFound
    have documentNamed := reachable.integrity.documentId documentStored
    obtain ⟨_, _, document', payload, documentFound', payloadFound, content⟩ := reachable.output.chunk chunkStored
    rw [documentStored] at documentFound'
    cases documentFound'
    have proposed := relation_extracted related
    constructor
    · obtain ⟨organization, workspace⟩ := inScope_iff.mp allowed.1.1.1.1
      refine ⟨document, payload, ?_, organization, workspace, allowed.1.1.1.2, rfl, rfl, payloadFound, content⟩
      rw [documentNamed]
      exact documentStored
    · refine ⟨relation, related, Prod.ext sourceName targetName, ?_, ?_⟩
      · rw [proposed.kind, extracted.kind]
      · rw [proposed.confidence, extracted.confidence]
    · refine ⟨hops, name, counted, reached.near, ?_, path⟩
      rcases touches with first | last
      · left
        rw [← sourceName]
        exact entityId_injective names (reachedName.symm.trans (first.symm.trans source))
      · right
        rw [← targetName]
        exact entityId_injective names (reachedName.symm.trans (last.symm.trans target))
  · cases retrieved

end

def namedCalls : List (Nat × Op) :=
  [(1, .ingestion (.enqueueDocument betaDocument)), (2, .ingestion .claimNextIngestionJob),
    (3, .ingestion (.processClaimedIngestionJob
      ⟨(newJob uniformSample (serialEnv 1 0) betaDocument).lease (serialEnv 2 16), "alpha beta"⟩ none))]

def namedServer : Server := freshRun uniformSample noHits namedCalls

def namedResults : Result (List GraphResult) := retrieveGraph uniformSample "acme" "lab" "beta" 2 1 namedServer.store

theorem graph_results_attested_named : ∃ results, namedResults = .ok results ∧ results.length = 1 ∧
    ∀ result ∈ results, result.Attested uniformSample namedServer.store "acme" "lab" "beta" 1 := by
  have facts : SerialLegal uniformSample noHits (Server.initial .hashingV1) 0 namedCalls ∧
      namedResults.toOption.map List.length = some 1 := by
    decide +kernel
  obtain ⟨legal, answered⟩ := facts
  have attested {results : List GraphResult} (run : namedResults = .ok results) :
      ∀ result ∈ results, result.Attested uniformSample namedServer.store "acme" "lab" "beta" 1 :=
    fun result member => graph_results_attested (freshRun_reachable legal) sample_injective sample_names run member
  obtain ⟨results, found, length⟩ := Option.map_eq_some_iff.mp answered
  exact ⟨results, toOption_eq_some.mp found, length, attested (toOption_eq_some.mp found)⟩

end Hangar
