import Hangar.Concrete
import Hangar.Projection.Scopes

namespace Hangar

open Lib

/-- Every row of the graph and every active generation is one that some scope wrote under its own keys. -/
structure ProjectionTables.Keyed (x : Externals) (t : ProjectionTables) : Prop where
  graph : t.graph.Keyed x
  generation : ∀ {key : String} {record : TextGeneration}, t.textActiveGenerations[key]? = some record →
    ∃ id : Uuid, record.generation = id.text

/-- What the retrieval of one scope reads of the projections. -/
@[ext]
structure ScopeReads where
  graph : GraphReads
  activeTextGeneration : Option TextGeneration
  activeDirectory : Option (List TextEntry)
  vectors : Option (List (Nat × List ℚ))

def Store.ownTextGeneration (x : Externals) (organizationId workspaceId : String) (s : Store) :
    Option TextGeneration :=
  (activeTextGeneration x organizationId workspaceId s).filter fun generation =>
    inScope organizationId workspaceId generation.organizationId generation.workspaceId

def Store.reads (x : Externals) (organizationId workspaceId : String) (s : Store) : ScopeReads where
  graph := s.projection.graph.reads organizationId workspaceId
  activeTextGeneration := Hangar.activeTextGeneration x organizationId workspaceId s
  activeDirectory := (s.ownTextGeneration x organizationId workspaceId).bind fun generation =>
    s.index.text[generationPath x organizationId workspaceId generation.generation]?
  vectors := s.index.vectors[indexPath x organizationId workspaceId s.embeddingProvider.profile]?

section
variable {x : Externals} {env : Env} {organizationId workspaceId organizationId' workspaceId' : String}
  {s s' : Store}

theorem insertActiveTextGeneration_keyed (keyed : s.projection.Keyed x) {generation : Uuid} :
    (insertActiveTextGeneration x env organizationId workspaceId generation.text s).projection.Keyed x where
  graph := keyed.graph
  generation {key record} found := by
    unfold insertActiveTextGeneration at found
    rw [Table.find_insert] at found
    split at found
    · cases found
      exact ⟨generation, rfl⟩
    · exact keyed.generation found

theorem Store.reads_insertActiveTextGeneration (digests : Function.Injective x.sha256) {generation : String}
    (apart : Apart organizationId workspaceId organizationId' workspaceId') :
    (insertActiveTextGeneration x env organizationId' workspaceId' generation s).reads x organizationId
      workspaceId = s.reads x organizationId workspaceId := by
  have key : textGenerationKey x organizationId' workspaceId' ≠ textGenerationKey x organizationId workspaceId :=
    fun same => apart.zero ((textGenerationKey_eq_iff digests).mp same).symm
  have kept : activeTextGeneration x organizationId workspaceId
      (insertActiveTextGeneration x env organizationId' workspaceId' generation s) =
        activeTextGeneration x organizationId workspaceId s := Table.find_insert_ne key
  refine ScopeReads.ext rfl kept ?_ rfl
  show Option.bind (Option.filter _ _) _ = Option.bind (Option.filter _ _) _
  rw [kept]
  rfl

theorem Store.reads_writeVectors {path : String} {entries : List (Nat × List ℚ)}
    (other : path ≠ indexPath x organizationId workspaceId s.embeddingProvider.profile) :
    (s.writeVectors path entries).reads x organizationId workspaceId = s.reads x organizationId workspaceId :=
  ScopeReads.ext rfl rfl rfl (Table.find_insert_ne other)

theorem Store.reads_removeVectors {path : String}
    (other : path ≠ indexPath x organizationId workspaceId s.embeddingProvider.profile) :
    (s.removeVectors path).reads x organizationId workspaceId = s.reads x organizationId workspaceId := by
  refine ScopeReads.ext rfl rfl rfl ?_
  exact Table.find_erase.trans (if_neg other)

theorem Store.reads_writeText {path : String × String} {entries : List TextEntry}
    (other : path.1 ≠ workspaceDir x organizationId workspaceId) :
    (s.writeText path entries).reads x organizationId workspaceId = s.reads x organizationId workspaceId := by
  refine ScopeReads.ext rfl rfl ?_ rfl
  show Option.bind _ _ = Option.bind _ _
  congr 1
  funext generation
  apply Table.find_insert_ne
  intro same
  exact other (congrArg Prod.fst same)

theorem Store.reads_removeText {path : String × String}
    (other : path.1 ≠ workspaceDir x organizationId workspaceId) :
    (s.removeText path).reads x organizationId workspaceId = s.reads x organizationId workspaceId := by
  refine ScopeReads.ext rfl rfl ?_ rfl
  show Option.bind _ _ = Option.bind _ _
  congr 1
  funext generation
  show (s.index.text.erase path)[_]? = _
  rw [Table.find_erase, if_neg]
  intro same
  exact other (congrArg Prod.fst same)

theorem indexTemporary_ne_indexPath {profile profile' : EmbeddingProfile} :
    indexTemporary x organizationId' workspaceId' profile' ≠ indexPath x organizationId workspaceId profile := by
  intro same
  have last := congrArg (fun name : String => name.toList.getLast?) same
  simp [indexTemporary, indexPath, String.toList_append, List.getLast?_append] at last

theorem generation_visible {generation : String} (named : ∃ id : Uuid, generation = id.text) :
    generation.toList.head? ≠ some '.' := by
  obtain ⟨id, rfl⟩ := named
  intro hidden
  have member := List.mem_of_head? hidden
  exact absurd (List.all_eq_true.mp id.isUuid '.' member) (by decide)

theorem isStale_active {key : String} {record : TextGeneration} (named : ∃ id : Uuid, record.generation = id.text)
    (active : s.projection.textActiveGenerations[key]? = some record) :
    WorkspaceTextIndex.isStale (activePaths x s)
      (generationPath x record.organizationId record.workspaceId record.generation) = false := by
  have listed : generationPath x record.organizationId record.workspaceId record.generation ∈ activePaths x s :=
    List.mem_map_of_mem (Table.mem_rows.mpr ⟨key, active⟩)
  have visible := generation_visible named
  rw [WorkspaceTextIndex.isStale, Bool.or_eq_false_iff]
  constructor
  · rw [beq_eq_false_iff_ne]
    exact visible
  · simpa using listed

theorem isStale_ownTextGeneration (keyed : s.projection.Keyed x) {generation : TextGeneration}
    (own : s.ownTextGeneration x organizationId workspaceId = some generation) :
    WorkspaceTextIndex.isStale (activePaths x s)
      (generationPath x organizationId workspaceId generation.generation) = false := by
  obtain ⟨active, scope⟩ := Option.filter_eq_some_iff.mp own
  obtain ⟨rfl, rfl⟩ := inScope_iff.mp scope
  exact isStale_active (keyed.generation active) active

end

structure Undisturbed (x : Externals) (organizationId workspaceId : String) (before : ScopeReads) (s : Store) :
    Prop where
  keyed : s.projection.Keyed x
  reads : s.reads x organizationId workspaceId = before

abbrev Undisturbing {α : Type} (x : Externals) (organizationId workspaceId : String) (before : ScopeReads)
    (p : Call α) (s : Store) : Prop :=
  Program.Triple p s (fun _ => Undisturbed x organizationId workspaceId before)
    (fun _ => Undisturbed x organizationId workspaceId before)

section
variable {x : Externals} {env : Env} {fault : Option Fault}
  {organizationId workspaceId organizationId' workspaceId' : String} {before : ScopeReads} {s s' : Store}

theorem Undisturbed.query (undisturbed : Undisturbed x organizationId workspaceId before s) {α : Type}
    {f : Store → Result α} : Program.Triple (Program.query f) s
      (fun a s' => Undisturbed x organizationId workspaceId before s' ∧ s' = s ∧ f s = .ok a)
      (fun _ => Undisturbed x organizationId workspaceId before) :=
  Program.Triple.query (fun _ run => ⟨undisturbed, rfl, run⟩) fun _ _ => undisturbed

theorem Undisturbed.stopAt (undisturbed : Undisturbed x organizationId workspaceId before s) {point : Fault} :
    Undisturbing x organizationId workspaceId before (stopAt fault point) s :=
  Program.Triple.ite (fun _ => Program.Triple.fail undisturbed) fun _ => Program.Triple.pure undisturbed

theorem Undisturbed.update (undisturbed : Undisturbed x organizationId workspaceId before s) {f : Store → Store}
    (projection : (f s).projection = s.projection)
    (reads : (f s).reads x organizationId workspaceId = s.reads x organizationId workspaceId) :
    Undisturbing x organizationId workspaceId before (Program.update f) s := by
  apply Program.Triple.update
  exact ⟨projection ▸ undisturbed.keyed, reads.trans undisturbed.reads⟩

theorem Undisturbed.transaction (undisturbed : Undisturbed x organizationId workspaceId before s) {α : Type}
    {f : Store → Result (Store × α)}
    (step : ∀ a s', f s = .ok (s', a) → Undisturbed x organizationId workspaceId before s') :
    Undisturbing x organizationId workspaceId before (Program.transaction f) s :=
  Program.Triple.transaction step fun _ _ => undisturbed

section
variable (digests : Function.Injective x.sha256)
  (apart : Apart organizationId workspaceId organizationId' workspaceId')
include digests apart

theorem Undisturbed.publishVectors (undisturbed : Undisturbed x organizationId workspaceId before s)
    {profile : EmbeddingProfile} (current : profile = s.embeddingProvider.profile)
    {entries : List (Nat × List ℚ)} : Undisturbing x organizationId workspaceId before
      (WorkspaceVectorIndex.publishGeneration x fault organizationId' workspaceId' profile entries) s := by
  have path : indexPath x organizationId' workspaceId' profile ≠
      indexPath x organizationId workspaceId s.embeddingProvider.profile := by
    rw [current]
    exact fun same => apart.colon ((indexPath_eq_iff digests).mp same).symm
  have temporary : indexTemporary x organizationId' workspaceId' profile ≠
      indexPath x organizationId workspaceId s.embeddingProvider.profile := indexTemporary_ne_indexPath
  refine undisturbed.query.bind fun _ s' checked => ?_
  obtain ⟨_, rfl, _⟩ := checked
  dsimp only
  split
  · refine (undisturbed.update rfl ?_).bind fun _ _ kept => Program.Triple.fail kept
    exact Store.reads_writeVectors temporary
  · refine (undisturbed.update rfl ?_).bind fun _ _ kept => kept.stopAt
    have removed := Store.reads_removeVectors (s := s') temporary
    exact (Store.reads_writeVectors (s := s'.removeVectors _) path).trans removed

theorem Undisturbed.publishText (undisturbed : Undisturbed x organizationId workspaceId before s)
    {generation : String} {entries : List TextEntry} : Undisturbing x organizationId workspaceId before
      (WorkspaceTextIndex.publishGeneration x fault organizationId' workspaceId' generation entries) s := by
  have directory : workspaceDir x organizationId' workspaceId' ≠ workspaceDir x organizationId workspaceId :=
    fun same => apart.colon ((workspaceDir_eq_iff digests).mp same).symm
  refine undisturbed.query.bind fun _ s' checked => ?_
  obtain ⟨_, rfl, _⟩ := checked
  refine undisturbed.query.bind fun _ s'' absent => ?_
  obtain ⟨_, rfl, _⟩ := absent
  split
  · refine (undisturbed.update rfl ?_).bind fun _ _ kept => Program.Triple.fail kept
    exact Store.reads_writeText directory
  · refine (undisturbed.update rfl ?_).bind fun _ _ kept => kept.stopAt
    have removed : (s''.removeText (generationPath x organizationId' workspaceId'
        (temporaryGeneration generation))).reads x organizationId workspaceId =
          s''.reads x organizationId workspaceId := Store.reads_removeText directory
    exact (Store.reads_writeText (s := s''.removeText _) directory).trans removed

theorem Undisturbed.activate (undisturbed : Undisturbed x organizationId workspaceId before s)
    {generation : Uuid} : Undisturbed x organizationId workspaceId before
      (insertActiveTextGeneration x env organizationId' workspaceId' generation.text s) where
  keyed := insertActiveTextGeneration_keyed undisturbed.keyed
  reads := (Store.reads_insertActiveTextGeneration digests apart).trans undisturbed.reads

end

theorem Undisturbed.cleanup (undisturbed : Undisturbed x organizationId workspaceId before s) :
    Undisturbing x organizationId workspaceId before (cleanupTextGenerations x) s := by
  refine undisturbed.query.bind fun active s' listed => ?_
  obtain ⟨_, rfl, listed⟩ := listed
  cases listed
  refine undisturbed.query.bind fun stale s'' counted => ?_
  obtain ⟨_, rfl, _⟩ := counted
  refine (undisturbed.update rfl ?_).bind fun _ _ kept => Program.Triple.pure kept
  refine ScopeReads.ext rfl rfl ?_ rfl
  show Option.bind (s''.ownTextGeneration x organizationId workspaceId) _ =
    Option.bind (s''.ownTextGeneration x organizationId workspaceId) _
  cases own : s''.ownTextGeneration x organizationId workspaceId with
  | none => rfl
  | some generation =>
    have kept := isStale_ownTextGeneration undisturbed.keyed own
    simp only [Option.bind_some, Table.find_filter, kept, Bool.not_false]
    cases s''.index.text[generationPath x organizationId workspaceId generation.generation]? <;> rfl

theorem Undisturbed.project (undisturbed : Undisturbed x organizationId workspaceId before s)
    {projection : ProjectionTables} (keyed : projection.graph.Keyed x)
    (reads : projection.graph.reads organizationId workspaceId = s.projection.graph.reads organizationId workspaceId)
    (active : projection.textActiveGenerations = s.projection.textActiveGenerations) :
    Undisturbed x organizationId workspaceId before { s with projection := projection } := by
  refine ⟨⟨keyed, active ▸ undisturbed.keyed.generation⟩, ?_⟩
  rw [← undisturbed.reads]
  have found : activeTextGeneration x organizationId workspaceId { s with projection := projection } =
      activeTextGeneration x organizationId workspaceId s := by
    unfold activeTextGeneration
    dsimp only
    rw [active]
  refine ScopeReads.ext reads found ?_ rfl
  show Option.bind (Option.filter _ _) _ = Option.bind (Option.filter _ _) _
  rw [found]

theorem Undisturbed.prepare (undisturbed : Undisturbed x organizationId workspaceId before s)
    {claimed : ClaimedIngestionJob} {prepared : PreparedIngestion}
    (run : prepareIngestion x env claimed s = .ok (s', prepared)) :
    Undisturbed x organizationId workspaceId before s' ∧
      s.ingestion.documents[claimed.job.documentId]? = some prepared.document := by
  obtain ⟨job, document, projection, vectors, _, _, _, documentFound, _, projected, rfl, rfl⟩ :=
    prepareIngestion_ok run
  have written := (prepareProjection_ok projected).2
  have graph : projection.graph = s.projection.graph := by
    have part := congrArg ProjectionTables.graph written
    exact part
  have active : projection.textActiveGenerations = s.projection.textActiveGenerations := by
    have part := congrArg ProjectionTables.textActiveGenerations written
    exact part
  refine ⟨?_, documentFound⟩
  apply undisturbed.project _ _ active
  · rw [graph]
    exact undisturbed.keyed.graph
  · rw [graph]

section
variable (digests : Function.Injective x.sha256) (names : Function.Injective x.newV5)
  (apart : Apart organizationId workspaceId organizationId' workspaceId')
include digests names apart

theorem Undisturbed.complete (undisturbed : Undisturbed x organizationId workspaceId before s)
    {prepared : PreparedIngestion} {generation : Uuid} {job : IngestionJob}
    (organization : prepared.document.organizationId = organizationId')
    (workspace : prepared.document.workspaceId = workspaceId')
    (run : completeIngestion x env prepared generation.text s = .ok (s', job)) :
    Undisturbed x organizationId workspaceId before s' := by
  obtain ⟨projection, projected, _, written⟩ := completeIngestion_ok run
  obtain ⟨_, _, materialized, _, shape⟩ := completeProjection_ok projected
  obtain ⟨keyed, reads⟩ := materializeGraphChunks_within digests names undisturbed.keyed.graph materialized
  have active : projection.textActiveGenerations = s.projection.textActiveGenerations := by
    have part := congrArg ProjectionTables.textActiveGenerations shape
    exact part
  rw [organization, workspace] at reads written
  have projectedState := undisturbed.project keyed (reads apart) active
  have activated : Undisturbed x organizationId workspaceId before
      (insertActiveTextGeneration x env organizationId' workspaceId' generation.text
        { s with projection := projection }) := projectedState.activate digests apart
  rw [written]
  exact ⟨activated.keyed, activated.reads⟩

omit names in
theorem rebuildVectorWorkspace_undisturbing (undisturbed : Undisturbed x organizationId workspaceId before s) :
    Undisturbing x organizationId workspaceId before
      (rebuildVectorWorkspace x fault organizationId' workspaceId') s := by
  refine undisturbed.query.bind fun entries s₁ kept => ?_
  refine kept.1.query.bind fun profile s₂ kept => ?_
  obtain ⟨undisturbed, rfl, current⟩ := kept
  cases current
  exact (undisturbed.publishVectors digests apart rfl).bind fun _ _ kept => Program.Triple.pure kept

omit names in
theorem rebuildTextWorkspace_undisturbing (undisturbed : Undisturbed x organizationId workspaceId before s)
    {generation : Uuid} : Undisturbing x organizationId workspaceId before
      (rebuildTextWorkspace x env fault organizationId' workspaceId' generation) s := by
  refine undisturbed.query.bind fun entries s₁ kept => ?_
  refine (kept.1.publishText digests apart).bind fun _ s₂ kept => ?_
  refine Program.Triple.bind (kept.transaction ?_) ?_
  · intro _ s₃ run
    cases run
    exact kept.activate digests apart
  · intro _ s₃ kept
    refine kept.stopAt.bind fun _ s₄ kept => ?_
    exact kept.cleanup.bind fun _ _ kept => Program.Triple.pure kept

theorem rebuildGraphWorkspace_undisturbing (undisturbed : Undisturbed x organizationId workspaceId before s) :
    Undisturbing x organizationId workspaceId before
      (rebuildGraphWorkspace x env organizationId' workspaceId') s := by
  apply undisturbed.transaction
  intro _ s₁ run
  obtain ⟨graph, built, same⟩ := rebuildGraph_ok run
  obtain ⟨keyed, reads⟩ := rebuiltGraph_within digests names undisturbed.keyed.graph built
  rw [show s₁ = _ from same]
  exact undisturbed.project keyed (reads apart) rfl

theorem processClaimedIngestionJob_undisturbing (undisturbed : Undisturbed x organizationId workspaceId before s)
    {claimed : ClaimedIngestionJob} {document : Document}
    (documentFound : s.ingestion.documents[claimed.job.documentId]? = some document)
    (organization : document.organizationId = organizationId') (workspace : document.workspaceId = workspaceId') :
    Undisturbing x organizationId workspaceId before (processClaimedIngestionJob x env fault claimed) s := by
  have first : Program.Triple (Program.transaction (prepareIngestion x env claimed)) s
      (fun prepared s₁ => Undisturbed x organizationId workspaceId before s₁ ∧ prepared.document = document)
      (fun _ => Undisturbed x organizationId workspaceId before) := by
    apply Program.Triple.transaction
    · intro prepared s₁ run
      obtain ⟨kept, found⟩ := undisturbed.prepare run
      rw [documentFound] at found
      cases found
      exact ⟨kept, rfl⟩
    · exact fun _ _ => undisturbed
  refine first.bind fun prepared s₁ ⟨kept, same⟩ => ?_
  rw [same, organization, workspace]
  refine kept.stopAt.bind fun _ s₂ kept => ?_
  refine kept.query.bind fun pendingEntries s₃ kept => ?_
  have vectors : Undisturbing x organizationId workspaceId before
      (publishGenerationWithPending x fault organizationId' workspaceId' pendingEntries) s₃ := by
    refine kept.1.query.bind fun _ s₄ kept => kept.1.query.bind fun _ s₅ kept => ?_
    refine kept.1.query.bind fun profile s₆ kept => ?_
    obtain ⟨undisturbed, rfl, current⟩ := kept
    cases current
    exact undisturbed.publishVectors digests apart rfl
  refine vectors.bind fun _ s₄ kept => ?_
  have text : Program.Triple (publishTextGenerationWithPending x fault organizationId' workspaceId'
      (env.uuid prepared.chunks.length) (pendingTextEntries prepared)) s₄
      (fun name s₅ => Undisturbed x organizationId workspaceId before s₅ ∧
        name = (env.uuid prepared.chunks.length).text)
      (fun _ => Undisturbed x organizationId workspaceId before) := by
    refine kept.query.bind fun _ s₅ kept => ?_
    exact (kept.1.publishText digests apart).bind fun _ _ kept => Program.Triple.pure ⟨kept, rfl⟩
  refine text.bind fun name s₅ ⟨kept, named⟩ => ?_
  subst named
  refine Program.Triple.bind (kept.transaction ?_) ?_
  · intro job s₆ run
    exact kept.complete digests names apart (same ▸ organization) (same ▸ workspace) run
  · intro job s₆ kept
    refine kept.stopAt.bind fun _ s₇ kept => ?_
    have cleaned : Undisturbing x organizationId workspaceId before
        (Program.attempt (cleanupTextGenerations x)) s₇ := Program.Triple.attempt kept.cleanup
    exact cleaned.bind fun _ _ kept => Program.Triple.pure kept

end

end

section
variable {x : Externals} {engines : SearchEngines} {env : Env} {s s' : Store}

theorem prepareIngestion_keyed (keyed : s.projection.Keyed x) {claimed : ClaimedIngestionJob}
    {prepared : PreparedIngestion} (run : prepareIngestion x env claimed s = .ok (s', prepared)) :
    s'.projection.Keyed x := by
  have undisturbed : Undisturbed x "" "" (s.reads x "" "") s := ⟨keyed, rfl⟩
  exact (undisturbed.prepare run).1.keyed

section
variable (digests : Function.Injective x.sha256) (names : Function.Injective x.newV5)
include digests names

theorem completeIngestion_keyed (keyed : s.projection.Keyed x) {prepared : PreparedIngestion} {generation : Uuid}
    {job : IngestionJob} (run : completeIngestion x env prepared generation.text s = .ok (s', job)) :
    s'.projection.Keyed x := by
  obtain ⟨projection, projected, _, written⟩ := completeIngestion_ok run
  obtain ⟨_, _, materialized, _, shape⟩ := completeProjection_ok projected
  have graph := (materializeGraphChunks_within digests names keyed.graph materialized).1
  have active : projection.textActiveGenerations = s.projection.textActiveGenerations := by
    have part := congrArg ProjectionTables.textActiveGenerations shape
    exact part
  have projectedState : ({ s with projection := projection } : Store).projection.Keyed x :=
    ⟨graph, active ▸ keyed.generation⟩
  rw [written]
  have activated : (insertActiveTextGeneration x env prepared.document.organizationId
      prepared.document.workspaceId generation.text { s with projection := projection }).projection.Keyed x :=
    insertActiveTextGeneration_keyed projectedState
  exact ⟨activated.graph, activated.generation⟩

theorem Reprojection.keyed (step : Reprojection x env s s') (keyed : s.projection.Keyed x) :
    s'.projection.Keyed x := by
  cases step with
  | keep _ projection => exact projection ▸ keyed
  | graph organizationId workspaceId graph built _ projection =>
    rw [projection]
    exact ⟨(rebuiltGraph_within digests names keyed.graph built).1, keyed.generation⟩
  | activate organizationId workspaceId generation _ projection =>
    rw [projection]
    exact insertActiveTextGeneration_keyed keyed

theorem ProcessEffect.keyed {claimed : ClaimedIngestionJob} (effect : ProcessEffect x env claimed s s')
    (keyed : s.projection.Keyed x) : s'.projection.Keyed x := by
  cases effect with
  | none records => exact Store.projection_of_records records ▸ keyed
  | prepared first records => exact Store.projection_of_records records ▸ prepareIngestion_keyed keyed first
  | completed first between second records =>
    have middle := prepareIngestion_keyed keyed first
    rw [← Store.projection_of_records between] at middle
    exact Store.projection_of_records records ▸ completeIngestion_keyed digests names middle second

theorem CallEffect.keyed {op : Op} (effect : CallEffect x env s op s') (keyed : s.projection.Keyed x) :
    s'.projection.Keyed x := by
  cases effect with
  | process effect => exact effect.keyed digests names keyed
  | project moves =>
    induction moves with
    | refl => exact keyed
    | tail _ step ih => exact step.keyed digests names ih
  | queue _ quiet => exact quiet.projection ▸ keyed

theorem Reachable.keyed {server : Server} (reachable : Reachable x engines server) :
    server.store.projection.Keyed x := by
  obtain ⟨provider, reached⟩ := reachable
  have both := reached.preserves
    (I := fun server => IngestionIntegrity x server.store.ingestion ∧ server.store.projection.Keyed x)
    ⟨.empty, ⟨⟨by simp [Server.initial, Store.empty], by simp [Server.initial, Store.empty],
      by simp [Server.initial, Store.empty]⟩, by simp [Server.initial, Store.empty]⟩⟩
    fun server event server' holds taken => ⟨taken.integrity holds.1, by
      rw [taken.next]
      exact (callStore_effect holds.1).keyed digests names holds.2⟩
  exact both.2

end

end

def Op.ProjectsInto (s : Store) (organizationId workspaceId : String) : Op → Prop
  | .ingestion (.processClaimedIngestionJob claimed _) =>
    ∃ document, s.ingestion.documents[claimed.job.documentId]? = some document ∧
      document.organizationId = organizationId ∧ document.workspaceId = workspaceId
  | .projection (.rebuildVectorWorkspace organization workspace _) =>
    organization = organizationId ∧ workspace = workspaceId
  | .projection (.rebuildTextWorkspace organization workspace _) =>
    organization = organizationId ∧ workspace = workspaceId
  | .projection (.rebuildGraphWorkspace organization workspace) =>
    organization = organizationId ∧ workspace = workspaceId
  | _ => False

section
variable (x : Externals) (engines : SearchEngines)
  (organizationId workspaceId organizationId' workspaceId' : String)

/-- From no reachable server does a call completed in the second scope change what the first one reads. -/
def ProjectionsIsolated : Prop := ∀ (server server' : Server) (event : Event), Reachable x engines server →
  Step x engines server event server' → event.op.ProjectsInto server.store organizationId' workspaceId' →
    (callStore x engines event.env event.op server.store).2 = .ok () →
      server'.store.reads x organizationId workspaceId = server.store.reads x organizationId workspaceId

end

section
variable {x : Externals} {engines : SearchEngines} {env : Env}
  {organizationId workspaceId organizationId' workspaceId' : String}

theorem Op.ProjectsInto.undisturbed (digests : Function.Injective x.sha256) (names : Function.Injective x.newV5)
    (apart : Apart organizationId workspaceId organizationId' workspaceId') {s : Store} {op : Op}
    (keyed : s.projection.Keyed x) (projects : op.ProjectsInto s organizationId' workspaceId') :
    (callStore x engines env op s).1.reads x organizationId workspaceId =
      s.reads x organizationId workspaceId := by
  have start : Undisturbed x organizationId workspaceId (s.reads x organizationId workspaceId) s := ⟨keyed, rfl⟩
  have finish {α : Type} {p : Call α}
      (kept : Undisturbing x organizationId workspaceId (s.reads x organizationId workspaceId) p s) :
      ((do let _ ← p : Call Unit) s).1.reads x organizationId workspaceId =
        s.reads x organizationId workspaceId := by
    have after : Undisturbed x organizationId workspaceId (s.reads x organizationId workspaceId)
        ((do let _ ← p : Call Unit) s).1 := by
      apply Program.Triple.state
      exact kept.bind fun _ _ kept => Program.Triple.pure kept
    exact after.reads
  cases op with
  | ingestion call =>
    cases call with
    | processClaimedIngestionJob claimed fault =>
      obtain ⟨document, found, organization, workspace⟩ := projects
      exact finish (processClaimedIngestionJob_undisturbing digests names apart start found organization workspace)
    | _ => exact projects.elim
  | projection call =>
    cases call with
    | rebuildVectorWorkspace organization workspace fault =>
      obtain ⟨rfl, rfl⟩ := projects
      exact finish (rebuildVectorWorkspace_undisturbing digests apart start)
    | rebuildTextWorkspace organization workspace fault =>
      obtain ⟨rfl, rfl⟩ := projects
      exact finish (rebuildTextWorkspace_undisturbing digests apart start)
    | rebuildGraphWorkspace organization workspace =>
      obtain ⟨rfl, rfl⟩ := projects
      exact finish (rebuildGraphWorkspace_undisturbing digests names apart start)
    | _ => exact projects.elim
  | _ => exact projects.elim

theorem initial_step (op : Op) (permitted : op.Permitted (Server.initial .hashingV1)) :
    Step x engines (Server.initial .hashingV1) ⟨serialEnv 0 1, op⟩
      ((Server.initial .hashingV1).next x engines ⟨serialEnv 0 1, op⟩) := by
  refine ⟨?_, permitted, rfl⟩
  apply Server.Serial.fresh
  decide +kernel

/-- A vector rebuild writes the file that a scope with the same colon-joined ids reads. -/
theorem ProjectionsIsolated.colon (digests : Function.Injective x.sha256)
    (isolated : ProjectionsIsolated x engines organizationId workspaceId organizationId' workspaceId') :
    colonScope organizationId workspaceId ≠ colonScope organizationId' workspaceId' := by
  intro same
  have path : indexPath x organizationId workspaceId EmbeddingProvider.hashingV1.profile =
      indexPath x organizationId' workspaceId' EmbeddingProvider.hashingV1.profile :=
    (indexPath_eq_iff digests).mpr same
  have kept := isolated _ _ _ ⟨.hashingV1, .refl⟩
    (initial_step (.projection (.rebuildVectorWorkspace organizationId' workspaceId' none)) trivial)
    ⟨rfl, rfl⟩ rfl
  have vectors := congrArg ScopeReads.vectors kept
  have written : (((∅ : Table String (List (Nat × List ℚ))).erase
      (indexTemporary x organizationId' workspaceId' EmbeddingProvider.hashingV1.profile)).insert
        (indexPath x organizationId' workspaceId' EmbeddingProvider.hashingV1.profile)
        [])[indexPath x organizationId workspaceId EmbeddingProvider.hashingV1.profile]? = some [] := by
    rw [path, Table.find_insert_self]
  have absent : (none : Option (List (Nat × List ℚ))) = some [] := vectors.symm.trans written
  cases absent

theorem publishText_empty {provider : EmbeddingProvider} {generation : String}
    (named : isBlank generation = false) :
    WorkspaceTextIndex.publishGeneration x none organizationId workspaceId generation [] (Store.empty provider) =
      (((Store.empty provider).removeText (generationPath x organizationId workspaceId
        (temporaryGeneration generation))).writeText (generationPath x organizationId workspaceId generation) [],
        .ok ()) := by
  have checked : check (!isBlank generation) "text generation cannot be empty" = .ok () := by
    rw [ensure_eq_ok, named]
    rfl
  have queried : (Program.query fun _ => check (!isBlank generation) "text generation cannot be empty")
      (Store.empty provider) = (Store.empty provider, .ok ()) := by
    rw [Program.query, checked]
  exact Program.bind_run queried

theorem rebuildTextWorkspace_empty {provider : EmbeddingProvider} {generation : Uuid}
    (named : isBlank generation.text = false) :
    ∃ s, rebuildTextWorkspace x env none organizationId workspaceId generation (Store.empty provider) = (s, .ok 0) ∧
      s.projection = (insertActiveTextGeneration x env organizationId workspaceId generation.text
        (Store.empty provider)).projection := by
  have cleaned (s : Store) : ∃ s' removed, cleanupTextGenerations x s = (s', .ok removed) ∧
      s'.projection = s.projection := ⟨_, _, rfl, rfl⟩
  have queried : (Program.query fun s => .ok (readyTextEntries x organizationId workspaceId s) : Call (List TextEntry))
      (Store.empty provider) = (Store.empty provider, .ok []) := rfl
  obtain ⟨s, removed, run, same⟩ := cleaned (insertActiveTextGeneration x env organizationId workspaceId
    generation.text (((Store.empty provider).removeText (generationPath x organizationId workspaceId
      (temporaryGeneration generation.text))).writeText
        (generationPath x organizationId workspaceId generation.text) []))
  refine ⟨s, ?_, same⟩
  apply (Program.bind_run queried).trans
  apply (Program.bind_run (publishText_empty named)).trans
  have activated (s : Store) : (Program.transaction fun s =>
      .ok (insertActiveTextGeneration x env organizationId workspaceId generation.text s, ()) : Call Unit) s =
        (insertActiveTextGeneration x env organizationId workspaceId generation.text s, .ok ()) := rfl
  apply (Program.bind_run (activated _)).trans
  have passed (s : Store) : stopAt none .textActivated s = (s, .ok ()) := rfl
  apply (Program.bind_run (passed _)).trans
  exact Program.bind_run run

/-- A text rebuild writes the record that a scope with the same zero-joined ids reads. -/
theorem ProjectionsIsolated.zero (digests : Function.Injective x.sha256)
    (isolated : ProjectionsIsolated x engines organizationId workspaceId organizationId' workspaceId') :
    zeroScope organizationId workspaceId ≠ zeroScope organizationId' workspaceId' := by
  intro same
  have key := (textGenerationKey_eq_iff digests).mpr same
  have named : isBlank ((serialEnv 0 1).uuid 0).text = false := by decide +kernel
  obtain ⟨s, run, projection⟩ := @rebuildTextWorkspace_empty x (serialEnv 0 1) organizationId' workspaceId'
    .hashingV1 ((serialEnv 0 1).uuid 0) named
  let op : Op := .projection (.rebuildTextWorkspace organizationId' workspaceId' none)
  have called : callStore x engines (serialEnv 0 1) op (Server.initial .hashingV1).store = (s, .ok ()) :=
    Program.bind_run run
  have taken : Step x engines (Server.initial .hashingV1) ⟨serialEnv 0 1, op⟩ ⟨s, [], []⟩ := by
    have first : Step x engines (Server.initial .hashingV1) ⟨serialEnv 0 1, op⟩ _ := initial_step op trivial
    refine ⟨first.fresh, trivial, ?_⟩
    unfold Server.next
    rw [called]
    rfl
  have kept := isolated _ _ _ ⟨.hashingV1, .refl⟩ taken ⟨rfl, rfl⟩ (congrArg Prod.snd called)
  have active : activeTextGeneration x organizationId workspaceId s =
      activeTextGeneration x organizationId workspaceId (Store.empty .hashingV1) :=
    congrArg ScopeReads.activeTextGeneration kept
  have absent : activeTextGeneration x organizationId workspaceId (Store.empty .hashingV1) = none := by
    simp [activeTextGeneration, Store.empty]
  rw [absent, activeTextGeneration, projection, key] at active
  have written := active.symm.trans Table.find_insert_self
  cases written

/-- Projections of one scope leave those of another alone exactly when the ids of the two differ both joined
    with a colon and joined with a zero byte. -/
theorem projections_isolated_iff (digests : Function.Injective x.sha256) (names : Function.Injective x.newV5) :
    ProjectionsIsolated x engines organizationId workspaceId organizationId' workspaceId' ↔
      Apart organizationId workspaceId organizationId' workspaceId' := by
  constructor
  · intro isolated
    exact ⟨isolated.colon digests, isolated.zero digests⟩
  · intro apart server server' event reachable taken projects _
    rw [taken.next]
    exact projects.undisturbed digests names apart (reachable.keyed digests names)

end

theorem projections_isolated_ops : ProjectionsIsolated sample noHits "acme" "lab" "acme" "ops" :=
  (projections_isolated_iff sample_injective sample_names).mpr ⟨by decide, by decide⟩

def labDocument : NewDocument := sampleDocument "acme" "lab:x" "alpha" none

def labClaim : ClaimedIngestionJob := ⟨(newJob sample (serialEnv 1 0) labDocument).lease (serialEnv 2 16), "alpha"⟩

def labServer : Server := freshRun sample noHits
  [(1, .ingestion (.enqueueDocument labDocument)), (2, .ingestion .claimNextIngestionJob),
    (3, .ingestion (.processClaimedIngestionJob labClaim none))]

/-- A vector rebuild of the workspace `x` of `acme:lab` empties the index of `lab:x` of `acme`. -/
theorem rebuild_empties_other_scope :
    Function.Injective sample.sha256 ∧ Function.Injective sample.newV5 ∧
    ∃ server server' event, Reachable sample noHits server ∧ Step sample noHits server event server' ∧
      event.op.ProjectsInto server.store "acme:lab" "x" ∧
      (callStore sample noHits event.env event.op server.store).2 = .ok () ∧
      (server.store.reads sample "acme" "lab:x").vectors = some [(1, unitVector 14 (-1))] ∧
      (server'.store.reads sample "acme" "lab:x").vectors = some [] ∧
      ¬ ProjectionsIsolated sample noHits "acme" "lab:x" "acme:lab" "x" := by
  have reachable : Reachable sample noHits labServer := freshRun_reachable (by decide +kernel)
  let event : Event := ⟨serialEnv 4 48, .projection (.rebuildVectorWorkspace "acme:lab" "x" none)⟩
  have serial : labServer.Serial 48 := by decide +kernel
  have taken : Step sample noHits labServer event (labServer.next sample noHits event) :=
    ⟨serial.fresh, trivial, rfl⟩
  have completed : (callStore sample noHits event.env event.op labServer.store).2 = .ok () := by decide +kernel
  have before : (labServer.store.reads sample "acme" "lab:x").vectors = some [(1, unitVector 14 (-1))] := by
    decide +kernel
  have after : ((labServer.next sample noHits event).store.reads sample "acme" "lab:x").vectors = some [] := by
    decide +kernel
  refine ⟨sample_injective, sample_names, labServer, _, event, reachable, taken, ⟨rfl, rfl⟩, completed, before,
    after, ?_⟩
  intro isolated
  have kept := congrArg ScopeReads.vectors (isolated _ _ _ reachable taken ⟨rfl, rfl⟩ completed)
  rw [after, before] at kept
  cases kept

end Hangar
