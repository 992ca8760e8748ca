import Hangar.Projection.Searchable

namespace Hangar

open Lib

section
variable {x : Externals} {env : Env} {workspaces : Set (String × String)} {minted minted' : List (Uuid × Uuid)}
  {s s' : Store} {organizationId workspaceId : String}

structure Store.Carries (s s' : Store) : Prop where
  index : s'.index = s.index
  active : s'.projection.textActiveGenerations = s.projection.textActiveGenerations
  unfinished : s.ingestion.Unfinished s'.ingestion
  vector : ∀ {id : Uuid} {manifest : VectorManifest}, s.projection.vectorManifests[id]? = some manifest →
    s'.projection.vectorManifests[id]? = some manifest
  chunk : ∀ {id : Uuid} {manifest : VectorManifest} {chunk : DocumentChunk},
    s.projection.vectorManifests[id]? = some manifest → s'.StoresChunk id chunk → s.StoresChunk id chunk
  ready : ∀ {id : Uuid} {manifest : VectorManifest}, s'.projection.vectorManifests[id]? = some manifest →
    manifest.state = .ready → s.projection.vectorManifests[id]? = some manifest
  text : ∀ {organizationId workspaceId : String} {id : Uuid} {content : String},
    s'.ReadyText organizationId workspaceId id content ↔ s.ReadyText organizationId workspaceId id content

theorem Store.ReadyText.congr {entries : List TextEntry}
    (same : ∀ id content, s'.ReadyText organizationId workspaceId id content ↔
      s.ReadyText organizationId workspaceId id content) (covers : s.CoversText organizationId workspaceId entries) :
    s'.CoversText organizationId workspaceId entries := by
  refine ⟨covers.1, ?_⟩
  intro entry
  rw [covers.2]
  simp only [same]

theorem Searchable.carry (valid : Searchable x workspaces minted s) (carries : s.Carries s')
    (canonical : Canonical x workspaces minted' s') : Searchable x workspaces minted' s' where
  canonical := canonical
  vectors := by
    constructor
    · intro provider a here entries found
      rw [carries.index] at found
      obtain ⟨distinct, own⟩ := valid.vectors.entries provider a here entries found
      refine ⟨distinct, ?_⟩
      intro entry member
      obtain ⟨id, manifest, manifestFound, organization, workspace, key, matched, embedded⟩ := own entry member
      refine ⟨id, manifest, carries.vector manifestFound, organization, workspace, key, matched, ?_⟩
      intro chunk stored
      exact embedded chunk (carries.chunk manifestFound stored)
    · intro id manifest provider found ready matched
      rw [carries.index]
      exact valid.vectors.ready id manifest provider (carries.ready found ready) ready matched
  texts := by
    intro separate
    have texts := valid.texts separate
    have same {organizationId workspaceId : String} : activeTextGeneration x organizationId workspaceId s' =
        activeTextGeneration x organizationId workspaceId s := by
      unfold activeTextGeneration
      rw [carries.active]
    constructor
    · rw [carries.active]
      exact texts.named
    · intro a here record active
      rw [same] at active
      obtain ⟨organization, workspace, version, entries, stored, covers⟩ := texts.active a here record active
      rw [carries.index]
      exact ⟨organization, workspace, version, entries, stored, Store.ReadyText.congr (fun _ _ => carries.text) covers⟩
    · intro id document found succeeded
      rw [same]
      exact texts.recorded id document (carries.unfinished found succeeded) succeeded

theorem Store.Carries.of_tables (index : s'.index = s.index) (unfinished : s.ingestion.Unfinished s'.ingestion)
    (active : s'.projection.textActiveGenerations = s.projection.textActiveGenerations)
    (vectors : s'.projection.vectorManifests = s.projection.vectorManifests)
    (texts : s'.projection.textManifests = s.projection.textManifests)
    (chunks : s'.projection.chunks = s.projection.chunks) : s.Carries s' := by
  have stored {id : Uuid} {chunk : DocumentChunk} : s'.StoresChunk id chunk ↔ s.StoresChunk id chunk := by
    unfold Store.StoresChunk
    rw [chunks]
  constructor
  case index => exact index
  case active => exact active
  case unfinished => exact unfinished
  case vector =>
    rw [vectors]
    exact id
  case chunk => exact fun _ => stored.mp
  case ready =>
    rw [vectors]
    exact fun found _ => found
  case text =>
    intro organizationId workspaceId id content
    unfold Store.ReadyText
    simp only [texts, stored]

theorem Canonical.workspace_of_manifest (canonical : Canonical x workspaces minted s) {kind : ProjectionKind}
    {id : Uuid} {view : ManifestView} (found : (s.projection.manifests kind)[id]? = some view) :
    (view.organizationId, view.workspaceId) ∈ workspaces := by
  obtain ⟨_, _, d, document, _, documentFound, organization, workspace⟩ := canonical.output.manifest found
  rw [organization, workspace]
  exact canonical.within d document documentFound

theorem Canonical.reproject (canonical : Canonical x workspaces minted s) (step : Reprojection x env s s') :
    Canonical x workspaces minted s' where
  records := step.ingestion_eq ▸ canonical.records
  output := canonical.output.reproject canonical.records step
  keys := canonical.keys.reproject step
  within := step.ingestion_eq ▸ canonical.within

theorem Searchable.activate (valid : Searchable x workspaces minted s)
    (here : (organizationId, workspaceId) ∈ workspaces) {generation : Uuid} {entries : List TextEntry}
    (stored : s.index.text[generationPath x organizationId workspaceId generation.text]? = some entries)
    (covers : s.CoversText organizationId workspaceId entries) : Searchable x workspaces minted
      (insertActiveTextGeneration x env organizationId workspaceId generation.text s) where
  canonical := valid.canonical.reproject (.activate organizationId workspaceId generation rfl rfl)
  vectors := ⟨valid.vectors.entries, valid.vectors.ready⟩
  texts := by
    intro separate
    have texts := valid.texts separate
    constructor
    · intro key record found
      simp only [insertActiveTextGeneration, Table.find_insert] at found
      split at found
      · cases found
        exact ⟨generation, rfl⟩
      · exact texts.named key record found
    · intro a inside record active
      simp only [activeTextGeneration, insertActiveTextGeneration, Table.find_insert] at active
      split at active
      · rename_i same
        have own := separate _ here a inside same
        subst own
        cases active
        exact ⟨rfl, rfl, rfl, entries, stored, covers⟩
      · exact texts.active a inside record active
    · intro id document found succeeded
      obtain ⟨record, active⟩ := texts.recorded id document found succeeded
      simp only [activeTextGeneration, insertActiveTextGeneration, Table.find_insert]
      split
      · exact ⟨_, rfl⟩
      · exact ⟨record, active⟩

theorem Searchable.cleanup (valid : Searchable x workspaces minted s) :
    KeepsSearchable x workspaces minted (cleanupTextGenerations x) s := by
  apply Program.Triple.bind (Q := fun active s' => s' = s ∧ active = activePaths x s)
  · apply Program.Triple.query
    · intro active listed
      cases listed
      exact ⟨rfl, rfl⟩
    · exact fun _ _ => valid
  intro active s' listed
  obtain ⟨rfl, rfl⟩ := listed
  apply Program.Triple.bind (Q := fun _ s'' => s'' = s')
  · exact Program.Triple.query (fun _ _ => rfl) fun _ _ => valid
  intro _ s'' same
  subst same
  apply Program.Triple.bind (Q := fun _ => Searchable x workspaces minted)
  · apply Program.Triple.update
    apply valid.withText
    intro texts a here record entries active stored
    obtain ⟨organization, workspace, _⟩ := texts.active a here record active
    have kept := @isStale_active x _ _ _ (texts.named _ record active) active
    rw [organization, workspace] at kept
    rw [Table.find_filter_eq_some]
    exact ⟨stored, by rw [kept]; rfl⟩
  · exact fun _ _ kept => Program.Triple.pure kept

theorem OutputIntegrity.storesChunk_ready (valid : OutputIntegrity x s minted) {kind : ProjectionKind} {id : Uuid}
    {view : ManifestView} {chunk : DocumentChunk} (found : (s.projection.manifests kind)[id]? = some view)
    (ready : view.ready = true) (stored : s.StoresChunk id chunk) :
    ∃ (key : Uuid × Nat) (document : Document), s.projection.chunks[key]? = some chunk ∧
      s.ingestion.documents[key.1]? = some document ∧ document.ingestionStatus = .succeeded := by
  obtain ⟨key, chunk', document, chunkFound, named, _, documentFound, succeeded⟩ := valid.ready found ready
  have same := valid.storesChunk_unique stored ⟨named, key, chunkFound⟩
  subst same
  exact ⟨key, document, chunkFound, documentFound, succeeded⟩

section
variable {claimed : ClaimedIngestionJob} {prepared : PreparedIngestion} {kind : ProjectionKind} {id : Uuid}
  {view : ManifestView} {chunk : DocumentChunk}

theorem OutputIntegrity.newChunk_ne (valid : OutputIntegrity x s minted) (unminted : ∀ i d, (d, env.uuid i) ∉ minted)
    {documentId : Uuid} {contents : List String} (found : (s.projection.manifests kind)[id]? = some view)
    (member : chunk ∈ newChunks env documentId contents) : chunk.id ≠ id := by
  rintro rfl
  obtain ⟨_, _, d, _, known, _⟩ := valid.manifest found
  exact newChunks_id_unminted unminted member d known

variable (canonical : Canonical x workspaces minted s) (run : prepareIngestion x env claimed s = .ok (s', prepared))

include canonical run

theorem Canonical.prepare_keeps (found : (s.projection.manifests kind)[id]? = some view) (ready : view.ready = true)
    (stored : s.StoresChunk id chunk) : s'.StoresChunk id chunk := by
  obtain ⟨job, document, projection, _, _, jobFound, processing, documentFound, matched, projected, rfl, rfl⟩ :=
    prepareIngestion_ok run
  have unfinished := prepared_unfinished canonical.records jobFound processing documentFound matched
  rw [← canonical.records.documentId documentFound] at documentFound
  obtain ⟨key, owner, chunkFound, ownerFound, succeeded⟩ := canonical.output.storesChunk_ready found ready stored
  refine ⟨stored.1, key, ?_⟩
  show projection.chunks[key]? = some chunk
  rw [prepareProjection_otherChunks projected, chunkFound]
  intro own
  rw [own, documentFound] at ownerFound
  cases ownerFound
  exact unfinished succeeded

variable (unminted : ∀ i d, (d, env.uuid i) ∉ minted)

include unminted

theorem Canonical.prepare_stored (found : (s.projection.manifests kind)[id]? = some view)
    (stored : s'.StoresChunk id chunk) : s.StoresChunk id chunk := by
  obtain ⟨_, document, projection, _, _, _, _, _, _, projected, rfl, rfl⟩ := prepareIngestion_ok run
  obtain ⟨named, key, chunkFound⟩ := stored
  rcases (prepareProjection_chunks projected).2 chunkFound with ⟨member, _⟩ | old
  · exact absurd named (canonical.output.newChunk_ne unminted found member)
  · exact ⟨named, key, old⟩

/-- The first transaction of an attempt writes only under new chunk ids. -/
theorem Canonical.prepare_carries : s.Carries s' := by
  have keeps {kind : ProjectionKind} {id : Uuid} {view : ManifestView} {chunk : DocumentChunk}
      (found : (s.projection.manifests kind)[id]? = some view) :=
    @Canonical.prepare_keeps _ _ _ _ _ _ _ _ kind id view chunk canonical run found
  have stored {kind : ProjectionKind} {id : Uuid} {view : ManifestView} {chunk : DocumentChunk}
      (found : (s.projection.manifests kind)[id]? = some view) :=
    @Canonical.prepare_stored _ _ _ _ _ _ _ _ kind id view chunk canonical run unminted found
  obtain ⟨_, document, projection, vectors, _, _, _, _, _, projected, rfl, rfl⟩ := prepareIngestion_ok run
  obtain ⟨listed, written⟩ := prepareProjection_ok projected
  have vectorManifests := congrArg ProjectionTables.vectorManifests written
  have textManifests := congrArg ProjectionTables.textManifests written
  have active := congrArg ProjectionTables.textActiveGenerations written
  dsimp only at vectorManifests textManifests active
  constructor
  case index => rfl
  case active => exact active
  case unfinished => exact fun found _ => found
  case vector =>
    intro id manifest found
    show projection.vectorManifests[id]? = some manifest
    rw [vectorManifests, Table.find_insertAll_of_notMem, found]
    intro member
    rw [List.map_map] at member
    obtain ⟨vector, given, named⟩ := List.mem_map.mp member
    have own := List.mem_map_of_mem (f := Prod.fst) given
    rw [listed] at own
    exact canonical.output.newChunk_ne unminted (find_vectorView found) own named
  case chunk => exact fun found => stored (find_vectorView found)
  case ready =>
    intro id manifest found ready
    have found : projection.vectorManifests[id]? = some manifest := found
    rw [vectorManifests] at found
    rcases Table.find_insertAll found with new | ⟨_, before⟩
    · obtain ⟨vector, _, same⟩ := List.mem_map.mp new
      cases same
      cases ready
    · exact before
  case text =>
    intro organizationId workspaceId id content
    constructor
    · intro readyText
      obtain ⟨manifest, chunk, found, organization, workspace, ready, chunkStored, same⟩ := readyText
      have found : projection.textManifests[id]? = some manifest := found
      rw [textManifests] at found
      rcases Table.find_insertAll found with new | ⟨_, before⟩
      · obtain ⟨chunk, _, same⟩ := List.mem_map.mp new
        cases same
        cases ready
      · exact ⟨manifest, chunk, before, organization, workspace, ready, stored (find_textView before) chunkStored, same⟩
    · intro readyText
      obtain ⟨manifest, chunk, found, organization, workspace, ready, chunkStored, same⟩ := readyText
      have isReady : manifest.view.ready = true := by simp [TextManifest.view, ready]
      refine ⟨manifest, chunk, ?_, organization, workspace, ready, keeps (find_textView found) isReady chunkStored, same⟩
      show projection.textManifests[id]? = some manifest
      rw [textManifests, Table.find_insertAll_of_notMem, found]
      intro member
      rw [chunkIds_map] at member
      obtain ⟨own, given, named⟩ := List.mem_map.mp member
      exact canonical.output.newChunk_ne unminted (find_textView found) given named

end

section
variable {prepared : PreparedIngestion} {generation : Uuid}

theorem PreparedIngestion.Placed.stores (placed : prepared.Placed x env s) {chunk : DocumentChunk}
    (member : chunk ∈ prepared.chunks) : s.StoresChunk chunk.id chunk := ⟨rfl, _, placed.chunk chunk member⟩

theorem PreparedIngestion.Placed.textManifest (placed : prepared.Placed x env s) {chunk : DocumentChunk}
    (member : chunk ∈ prepared.chunks) : ∃ manifest, s.projection.textManifests[chunk.id]? = some manifest ∧
      manifest.view = pendingView x prepared.document chunk := by
  have found := placed.manifest chunk member .text
  rw [find_textManifest] at found
  exact Option.map_eq_some_iff.mp found

structure PreparedIngestion.Activates (x : Externals) (env : Env) (prepared : PreparedIngestion) (generation : Uuid)
    (s s' : Store) : Prop where
  index : s'.index = s.index
  documents : s'.ingestion.documents = s.ingestion.documents.insert prepared.documentKey
    (prepared.document.succeed prepared.chunks.length)
  chunks : s'.projection.chunks = s.projection.chunks
  vectors : ∀ id : Uuid, s'.projection.vectorManifests[id]? = if id ∈ prepared.chunks.map DocumentChunk.id then
    s.projection.vectorManifests[id]?.map (VectorManifest.ready env) else s.projection.vectorManifests[id]?
  texts : ∀ id : Uuid, s'.projection.textManifests[id]? = if id ∈ prepared.chunks.map DocumentChunk.id then
    s.projection.textManifests[id]?.map (TextManifest.ready env) else s.projection.textManifests[id]?
  active : s'.projection.textActiveGenerations = s.projection.textActiveGenerations.insert
    (textGenerationKey x prepared.document.organizationId prepared.document.workspaceId)
    ⟨prepared.document.organizationId, prepared.document.workspaceId, generation.text, ingestionPipelineVersion, env.now⟩

theorem completeIngestion_activates (placed : prepared.Placed x env s) (distinct : Function.Injective env.uuid)
    {job : IngestionJob} (run : completeIngestion x env prepared generation.text s = .ok (s', job)) :
    prepared.Activates x env generation s s' := by
  obtain ⟨projection, projected, rfl, written⟩ := completeIngestion_ok run
  obtain ⟨vectorsMarked, textsMarked, _, _, shape⟩ := completeProjection_ok projected
  rw [placed.vectors] at vectorsMarked
  rw [written]
  constructor
  case index => rfl
  case documents => rfl
  case chunks =>
    have part := congrArg ProjectionTables.chunks shape
    exact part
  case vectors => exact find_markReady (placed.ids_nodup distinct) vectorsMarked
  case texts => exact find_markReady (placed.ids_nodup distinct) textsMarked
  case active =>
    have before : projection.textActiveGenerations = s.projection.textActiveGenerations := by
      have part := congrArg ProjectionTables.textActiveGenerations shape
      exact part
    rw [← before]
    rfl

theorem PreparedIngestion.Activates.stored (activates : prepared.Activates x env generation s s') {id : Uuid}
    {chunk : DocumentChunk} : s'.StoresChunk id chunk ↔ s.StoresChunk id chunk := by
  unfold Store.StoresChunk
  rw [activates.chunks]

/-- The second transaction makes the texts of its chunks ready, and no other. -/
theorem Canonical.readyText_complete (canonical : Canonical x workspaces minted s) (placed : prepared.Placed x env s)
    (activates : prepared.Activates x env generation s s') {id : Uuid} {content : String} :
    s'.ReadyText organizationId workspaceId id content ↔ s.ReadyText organizationId workspaceId id content ∨
      (prepared.document.organizationId = organizationId ∧ prepared.document.workspaceId = workspaceId) ∧
        ∃ chunk ∈ prepared.chunks, chunk.id = id ∧ chunk.content = content := by
  have found := activates.texts
  constructor
  · intro readyText
    obtain ⟨manifest', chunk, after, organization, workspace, ready, chunkStored, same⟩ := readyText
    rw [found] at after
    split at after
    · rename_i own
      obtain ⟨own, member, rfl⟩ := List.mem_map.mp own
      obtain ⟨manifest, before, view⟩ := placed.textManifest member
      rw [before, Option.map_some, Option.some.injEq] at after
      subst after
      have chunkSame := canonical.output.storesChunk_unique (activates.stored.mp chunkStored) (placed.stores member)
      subst chunkSame
      refine .inr ⟨⟨?_, ?_⟩, chunk, member, rfl, same⟩
      · exact (congrArg ManifestView.organizationId view).symm.trans organization
      · exact (congrArg ManifestView.workspaceId view).symm.trans workspace
    · exact .inl ⟨manifest', chunk, after, organization, workspace, ready, activates.stored.mp chunkStored, same⟩
  · intro readyText
    rcases readyText with old | ⟨⟨organization, workspace⟩, chunk, member, rfl, same⟩
    · obtain ⟨manifest, chunk, before, organization, workspace, ready, chunkStored, same⟩ := old
      refine ⟨manifest, chunk, ?_, organization, workspace, ready, activates.stored.mpr chunkStored, same⟩
      rw [found, if_neg, before]
      intro own
      obtain ⟨own, member, rfl⟩ := List.mem_map.mp own
      obtain ⟨manifest', before', view⟩ := placed.textManifest member
      rw [before] at before'
      cases before'
      have pending := congrArg ManifestView.ready view
      simp [TextManifest.view, pendingView, ready] at pending
    · obtain ⟨manifest, before, view⟩ := placed.textManifest member
      refine ⟨manifest.ready env, chunk, ?_, ?_, ?_, rfl, activates.stored.mpr (placed.stores member), same⟩
      · rw [found, if_pos (List.mem_map_of_mem member), before]
        rfl
      · exact (congrArg ManifestView.organizationId view).trans organization
      · exact (congrArg ManifestView.workspaceId view).trans workspace

/-- The texts that an attempt publishes are those ready when its second transaction commits. -/
theorem Canonical.coversText_complete (canonical : Canonical x workspaces minted s) (placed : prepared.Placed x env s)
    (distinct : Function.Injective env.uuid) (activates : prepared.Activates x env generation s s') :
    s'.CoversText prepared.document.organizationId prepared.document.workspaceId
      (readyTextEntries x prepared.document.organizationId prepared.document.workspaceId s ++
        pendingTextEntries prepared) := by
  obtain ⟨readyDistinct, readyListed⟩ := @Canonical.rebuildsText x workspaces minted s
    prepared.document.organizationId prepared.document.workspaceId canonical
  have pendingIds : (pendingTextEntries prepared).map TextEntry.chunkId =
      (prepared.chunks.map DocumentChunk.id).map Uuid.text := by
    simp [pendingTextEntries, Function.comp_def]
  constructor
  · rw [List.map_append, pendingIds]
    apply List.nodup_append.mpr
    refine ⟨readyDistinct, (placed.ids_nodup distinct).map fun _ _ => Uuid.ext, ?_⟩
    intro name listed name' given same
    obtain ⟨entry, member, rfl⟩ := List.mem_map.mp listed
    obtain ⟨_, listed', rfl⟩ := List.mem_map.mp given
    obtain ⟨chunk, own, rfl⟩ := List.mem_map.mp listed'
    obtain ⟨id, named, manifest, _, found, _, _, ready, _⟩ := (readyListed entry).mp member
    obtain ⟨manifest', found', view⟩ := placed.textManifest own
    have one : id = chunk.id := Uuid.ext (named.symm.trans same)
    rw [← one, found] at found'
    cases found'
    have pending := congrArg ManifestView.ready view
    simp [TextManifest.view, pendingView, ready] at pending
  · intro entry
    have after (id : Uuid) := @Canonical.readyText_complete x env workspaces minted s s'
      prepared.document.organizationId prepared.document.workspaceId prepared generation canonical placed activates id
      entry.content
    rw [List.mem_append, readyListed]
    simp only [after, and_self, true_and]
    constructor
    · intro listed
      rcases listed with ⟨id, named, ready⟩ | own
      · exact ⟨id, named, .inl ready⟩
      · obtain ⟨chunk, member, rfl⟩ := List.mem_map.mp own
        exact ⟨chunk.id, rfl, .inr ⟨chunk, member, rfl, rfl⟩⟩
    · intro listed
      obtain ⟨id, named, ready | ⟨chunk, member, rfl, same⟩⟩ := listed
      · exact .inl ⟨id, named, ready⟩
      · right
        apply List.mem_map.mpr
        refine ⟨chunk, member, ?_⟩
        rw [← named, same]

/-- What the second transaction of an attempt finds: the records of the first, and the two generations that were
    published between them. -/
structure PreparedIngestion.Published (x : Externals) (env : Env) (s : Store) (prepared : PreparedIngestion)
    (generation : Uuid) : Prop where
  placed : prepared.Placed x env s
  keyed : prepared.Keyed x env s
  matched : prepared.document.ingestionJobId = prepared.job.id
  vectors : ∃ entries, s.index.vectors[indexPath x prepared.document.organizationId prepared.document.workspaceId
    s.embeddingProvider.profile]? = some entries ∧ ∀ vector ∈ prepared.vectors, ∃ v, (vector.2, v) ∈ entries
  texts : s.index.text[generationPath x prepared.document.organizationId prepared.document.workspaceId
    generation.text]? = some (readyTextEntries x prepared.document.organizationId prepared.document.workspaceId s ++
      pendingTextEntries prepared)

theorem EmbeddingProvider.profile_of_matches {provider : EmbeddingProvider} {manifest : VectorManifest}
    {profile : EmbeddingProfile} (matched : provider.matches manifest = true)
    (names : manifest.provider = profile.provider ∧ manifest.modelRevision = profile.modelRevision ∧
      manifest.dimensions = profile.dimensions) : provider.profile = profile := by
  simp only [EmbeddingProvider.matches, EmbeddingProfile.matchesManifest, Bool.and_eq_true, beq_iff_eq] at matched
  obtain ⟨⟨name, revision⟩, dimensions⟩ := matched
  cases own : provider.profile
  cases profile
  simp_all

theorem Canonical.complete (canonical : Canonical x workspaces minted s) (distinct : Function.Injective env.uuid)
    (published : prepared.Published x env s generation) {job : IngestionJob}
    (run : completeIngestion x env prepared generation.text s = .ok (s', job)) :
    Canonical x workspaces minted s' := by
  have placed := published.placed
  obtain ⟨projection, projected, rfl, written⟩ := completeIngestion_ok run
  have owned := canonical.records.documentId_of_job placed.job placed.document published.matched
  constructor
  case records =>
    have move : QueueMove env s.ingestion s'.ingestion := by
      have documentFound := placed.document
      rw [written, ← owned]
      rw [← owned] at documentFound
      exact .write placed.job documentFound (.succeed placed.processing prepared.chunks.length)
    exact canonical.records.move move
  case output => exact canonical.output.complete distinct placed run
  case keys =>
    have done := canonical.keys.complete published.keyed.distinct published.keyed.listed projected
    rw [written]
    exact done.carry rfl rfl fun id manifest found => ⟨manifest, found, rfl, rfl, rfl⟩
  case within =>
    intro id document found
    rw [written] at found
    simp only [Table.find_insert] at found
    split at found
    · cases found
      have here := canonical.within _ _ placed.document
      exact here
    · exact canonical.within id document found

theorem VectorFiles.complete (valid : VectorFiles x workspaces s) (published : prepared.Published x env s generation)
    (activates : prepared.Activates x env generation s s') : VectorFiles x workspaces s' := by
  constructor
  · intro provider a inside entries found
    rw [activates.index] at found
    obtain ⟨keys, own⟩ := valid.entries provider a inside entries found
    refine ⟨keys, ?_⟩
    intro entry member
    obtain ⟨id, manifest, before, organization, workspace, key, matched, embedded⟩ := own entry member
    have kept : ∀ chunk, s'.StoresChunk id chunk → x.embed provider chunk.content = .ok entry.2 :=
      fun chunk chunkStored => embedded chunk (activates.stored.mp chunkStored)
    by_cases finished : id ∈ prepared.chunks.map DocumentChunk.id
    · refine ⟨id, manifest.ready env, ?_, organization, workspace, key, matched, kept⟩
      rw [activates.vectors, if_pos finished, before]
      rfl
    · refine ⟨id, manifest, ?_, organization, workspace, key, matched, kept⟩
      rw [activates.vectors, if_neg finished, before]
  · intro id manifest' provider found ready matched
    rw [activates.index]
    rw [activates.vectors] at found
    split at found
    · rename_i finished
      rw [← published.placed.vectors, List.map_map] at finished
      obtain ⟨vector, given, rfl⟩ := List.mem_map.mp finished
      have pending := published.keyed.pending vector given
      simp only [Function.comp_apply] at found
      rw [pending, Option.map_some, Option.some.injEq] at found
      subst found
      have profile := @EmbeddingProvider.profile_of_matches provider _ s.embeddingProvider.profile matched
        ⟨rfl, rfl, rfl⟩
      obtain ⟨entries, file, listed⟩ := published.vectors
      rw [profile]
      exact ⟨entries, file, listed vector given⟩
    · exact valid.ready id manifest' provider found ready matched

theorem TextFiles.complete (valid : TextFiles x workspaces s) (canonical : Canonical x workspaces minted s)
    (separate : SeparateGenerations x workspaces) (distinct : Function.Injective env.uuid)
    (published : prepared.Published x env s generation) (activates : prepared.Activates x env generation s s') :
    TextFiles x workspaces s' := by
  have placed := published.placed
  have here := canonical.within _ _ placed.document
  constructor
  · intro key record found
    rw [activates.active, Table.find_insert] at found
    split at found
    · cases found
      exact ⟨generation, rfl⟩
    · exact valid.named key record found
  · intro a inside record found
    rw [activates.index]
    rw [activeTextGeneration, activates.active, Table.find_insert] at found
    split at found
    · rename_i same
      have own := separate _ here a inside same
      subst own
      cases found
      exact ⟨rfl, rfl, rfl, _, published.texts, canonical.coversText_complete placed distinct activates⟩
    · rename_i other
      obtain ⟨organization, workspace, version, entries, file, covers⟩ := valid.active a inside record found
      refine ⟨organization, workspace, version, entries, file, Store.ReadyText.congr ?_ covers⟩
      intro id content
      rw [canonical.readyText_complete placed activates]
      constructor
      · intro readyText
        rcases readyText with old | ⟨⟨organization, workspace⟩, _⟩
        · exact old
        · exact absurd (by rw [organization, workspace]) other
      · exact .inl
  · intro id document found succeeded
    rw [activeTextGeneration, activates.active, Table.find_insert]
    split
    · exact ⟨_, rfl⟩
    · rename_i other
      rw [activates.documents, Table.find_insert] at found
      split at found
      · cases found
        exact absurd rfl other
      · exact valid.recorded id document found succeeded

/-- The second transaction of an attempt makes nothing ready that the published generations lack. -/
theorem Searchable.complete (valid : Searchable x workspaces minted s)
    (distinct : Function.Injective env.uuid) (published : prepared.Published x env s generation)
    {job : IngestionJob} (run : completeIngestion x env prepared generation.text s = .ok (s', job)) :
    Searchable x workspaces minted s' := by
  have activates := completeIngestion_activates published.placed distinct run
  constructor
  case canonical => exact valid.canonical.complete distinct published run
  case vectors => exact valid.vectors.complete published activates
  case texts =>
    intro separate
    exact (valid.texts separate).complete valid.canonical separate distinct published activates

end

end

end Hangar
