import Hangar.Projection.AnnKeys

namespace Hangar

open Lib

def SeparateFiles (x : Externals) (workspaces : Set (String × String)) : Prop :=
  ∀ a ∈ workspaces, ∀ b ∈ workspaces, ∀ provider provider' : EmbeddingProvider,
    indexPath x a.1 a.2 provider.profile = indexPath x b.1 b.2 provider'.profile → a = b ∧ provider = provider'

def SeparateGenerations (x : Externals) (workspaces : Set (String × String)) : Prop :=
  ∀ a ∈ workspaces, ∀ b ∈ workspaces, textGenerationKey x a.1 a.2 = textGenerationKey x b.1 b.2 → a = b

def Store.StoresChunk (s : Store) (id : Uuid) (chunk : DocumentChunk) : Prop :=
  chunk.id = id ∧ ∃ key : Uuid × Nat, s.projection.chunks[key]? = some chunk

def Store.ReadyText (s : Store) (organizationId workspaceId : String) (id : Uuid) (content : String) : Prop :=
  ∃ (manifest : TextManifest) (chunk : DocumentChunk), s.projection.textManifests[id]? = some manifest ∧
    manifest.organizationId = organizationId ∧ manifest.workspaceId = workspaceId ∧ manifest.state = .ready ∧
    s.StoresChunk id chunk ∧ chunk.content = content

def Store.CoversText (s : Store) (organizationId workspaceId : String) (entries : List TextEntry) : Prop :=
  (entries.map TextEntry.chunkId).Nodup ∧ ∀ entry, entry ∈ entries ↔
    ∃ id, entry.chunkId = id.text ∧ s.ReadyText organizationId workspaceId id entry.content

def EmbeddingProvider.matches (provider : EmbeddingProvider) (manifest : VectorManifest) : Bool :=
  provider.profile.matchesManifest manifest.provider manifest.modelRevision manifest.dimensions

def Store.VectorOf (x : Externals) (s : Store) (provider : EmbeddingProvider) (organizationId workspaceId : String)
    (entry : Nat × List ℚ) : Prop :=
  ∃ (id : Uuid) (manifest : VectorManifest), s.projection.vectorManifests[id]? = some manifest ∧
    manifest.organizationId = organizationId ∧ manifest.workspaceId = workspaceId ∧ manifest.annKey = entry.1 ∧
    provider.matches manifest = true ∧
    ∀ chunk, s.StoresChunk id chunk → x.embed provider chunk.content = .ok entry.2

def Store.CoversVectors (s : Store) (provider : EmbeddingProvider) (organizationId workspaceId : String)
    (entries : List (Nat × List ℚ)) : Prop :=
  ∀ (id : Uuid) (manifest : VectorManifest), s.projection.vectorManifests[id]? = some manifest →
    manifest.organizationId = organizationId → manifest.workspaceId = workspaceId → manifest.state = .ready →
    provider.matches manifest = true → ∃ vector, (manifest.annKey, vector) ∈ entries

section
variable (x : Externals) (workspaces : Set (String × String)) (minted : List (Uuid × Uuid)) (s : Store)

/-- The canonical tables fit together, and every document is in one of these workspaces. -/
structure Canonical : Prop where
  records : IngestionIntegrity x s.ingestion
  output : OutputIntegrity x s minted
  keys : AnnIntegrity x s.projection
  within : ∀ (id : Uuid) (document : Document), s.ingestion.documents[id]? = some document →
    (document.organizationId, document.workspaceId) ∈ workspaces

/-- The vector index files hold vectors of their own workspace and profile, under different keys, and those of
    every ready manifest. -/
structure VectorFiles : Prop where
  entries : ∀ provider, ∀ a ∈ workspaces, ∀ entries,
    s.index.vectors[indexPath x a.1 a.2 provider.profile]? = some entries →
      (entries.map Prod.fst).Nodup ∧ ∀ entry ∈ entries, s.VectorOf x provider a.1 a.2 entry
  ready : ∀ (id : Uuid) (manifest : VectorManifest) (provider : EmbeddingProvider),
    s.projection.vectorManifests[id]? = some manifest → manifest.state = .ready →
    provider.matches manifest = true → ∃ entries,
      s.index.vectors[indexPath x manifest.organizationId manifest.workspaceId provider.profile]? = some entries ∧
      ∃ vector, (manifest.annKey, vector) ∈ entries

/-- The active text generations are directories of their own workspace that cover it, and a workspace with a
    succeeded document has one. -/
structure TextFiles : Prop where
  named : ∀ (key : String) (record : TextGeneration), s.projection.textActiveGenerations[key]? = some record →
    ∃ id : Uuid, record.generation = id.text
  active : ∀ a ∈ workspaces, ∀ record, activeTextGeneration x a.1 a.2 s = some record →
    record.organizationId = a.1 ∧ record.workspaceId = a.2 ∧ record.pipelineVersion = ingestionPipelineVersion ∧
    ∃ entries, s.index.text[generationPath x a.1 a.2 record.generation]? = some entries ∧
      s.CoversText a.1 a.2 entries
  recorded : ∀ (id : Uuid) (document : Document), s.ingestion.documents[id]? = some document →
    document.ingestionStatus = .succeeded →
      ∃ record, activeTextGeneration x document.organizationId document.workspaceId s = some record

structure Searchable : Prop where
  canonical : Canonical x workspaces minted s
  vectors : VectorFiles x workspaces s
  texts : SeparateGenerations x workspaces → TextFiles x workspaces s

end

section
variable {x : Externals} {env : Env} {workspaces : Set (String × String)} {minted : List (Uuid × Uuid)} {s s' : Store}
  {organizationId workspaceId : String} {id : Uuid} {chunk : DocumentChunk}

theorem OutputIntegrity.storesChunk_unique (valid : OutputIntegrity x s minted) {chunk' : DocumentChunk}
    (left : s.StoresChunk id chunk) (right : s.StoresChunk id chunk') : chunk = chunk' := by
  obtain ⟨named, key, found⟩ := left
  obtain ⟨named', key', found'⟩ := right
  have same := valid.chunkId found found' (named.trans named'.symm)
  rw [same, found'] at found
  exact (Option.some.inj found).symm

theorem OutputIntegrity.chunksById_stored (valid : OutputIntegrity x s minted) (stored : s.StoresChunk id chunk) :
    (chunksById s)[id]? = some chunk := by
  obtain ⟨rfl, key, found⟩ := stored
  apply Table.find_insertAll_of_mem
  · rw [List.map_map, List.Nodup, List.pairwise_map]
    apply Table.pairwise_rows
    intro k k' left right foundLeft foundRight apart same
    exact apart (valid.chunkId foundLeft foundRight same)
  · exact List.mem_map_of_mem (Table.mem_rows.mpr ⟨key, found⟩)

theorem IngestionIntegrity.documentsById_stored (valid : IngestionIntegrity x s.ingestion) {document : Document}
    (found : s.ingestion.documents[id]? = some document) : (documentsById s)[id]? = some document := by
  rw [← valid.documentId found]
  apply Table.find_insertAll_of_mem
  · rw [List.map_map, List.Nodup, List.pairwise_map]
    apply Table.pairwise_rows
    intro k k' left right foundLeft foundRight apart same
    apply apart
    rw [← valid.documentId foundLeft, ← valid.documentId foundRight]
    exact same
  · exact List.mem_map_of_mem (Table.mem_rows.mpr ⟨id, found⟩)

theorem readyChunk_stores {hash : HexText} (made : readyChunk x organizationId workspaceId s id hash = some chunk) :
    s.StoresChunk id chunk := by
  obtain ⟨stored, found, made⟩ := Option.bind_eq_some_iff.mp made
  obtain ⟨_, _, made⟩ := Option.bind_eq_some_iff.mp made
  split at made
  · cases made
    exact chunksById_find found
  · cases made

theorem Canonical.chunk_of_ready (canonical : Canonical x workspaces minted s) {kind : ProjectionKind}
    {view : ManifestView} (found : (s.projection.manifests kind)[id]? = some view) (ready : view.ready = true) :
    ∃ (d : Uuid) (document : Document) (ordinal : Nat) (chunk : DocumentChunk),
      s.ingestion.documents[d]? = some document ∧ document.organizationId = view.organizationId ∧
      document.workspaceId = view.workspaceId ∧ document.ingestionStatus = .succeeded ∧
      s.projection.chunks[(d, ordinal)]? = some chunk ∧ chunk.id = id ∧ chunk.documentId = d ∧
      x.sha256Text chunk.content = view.sourceSha256 := by
  obtain ⟨_, _, d, document, drawn, documentFound, organization, workspace⟩ := canonical.output.manifest found
  obtain ⟨key, chunk, owner, chunkFound, named, hashed, ownerFound, succeeded⟩ := canonical.output.ready found ready
  obtain ⟨place, drawn', _⟩ := canonical.output.chunk chunkFound
  rw [named] at drawn'
  have same : chunk.documentId = d := canonical.output.mintedOnce drawn' drawn
  have ownKey : key.1 = d := by rw [place, same]
  rw [ownKey, documentFound] at ownerFound
  cases ownerFound
  refine ⟨d, document, key.2, chunk, documentFound, organization.symm, workspace.symm, succeeded, ?_, named, same, hashed⟩
  rw [← ownKey]
  exact chunkFound

theorem Canonical.findsChunk (canonical : Canonical x workspaces minted s) {kind : ProjectionKind} {view : ManifestView}
    (found : (s.projection.manifests kind)[id]? = some view) (ready : view.ready = true) :
    ∃ chunk, s.StoresChunk id chunk ∧
      readyChunk x view.organizationId view.workspaceId s view.chunkId view.sourceSha256 = some chunk := by
  obtain ⟨d, document, ordinal, chunk, documentFound, organization, workspace, succeeded, chunkFound, named, owner,
    hashed⟩ := canonical.chunk_of_ready found ready
  have stored : s.StoresChunk id chunk := ⟨named, _, chunkFound⟩
  have own : view.chunkId = id := (canonical.output.manifest found).1
  refine ⟨chunk, stored, ?_⟩
  unfold readyChunk
  rw [own, canonical.output.chunksById_stored stored, Option.bind_eq_bind, Option.bind_some, owner,
    canonical.records.documentsById_stored documentFound, Option.bind_eq_bind, Option.bind_some]
  apply if_pos
  simp [inScope, organization, workspace, succeeded, hashed]

theorem embed_eq_ok {text : String} {vector : List ℚ} :
    embed x s text = .ok vector ↔ x.embed s.embeddingProvider text = .ok vector := by
  unfold embed
  split
  · rename_i found
    rw [found]
    simp
  · rename_i failed
    rw [failed]
    simp

/-- What a vector rebuild lists: the chunks of the ready manifests of the provider in force. -/
theorem Canonical.mem_readyVectors (canonical : Canonical x workspaces minted s) {k : Nat} :
    (k, chunk) ∈ readyVectors x organizationId workspaceId s ↔ ∃ (id : Uuid) (manifest : VectorManifest),
      s.projection.vectorManifests[id]? = some manifest ∧ manifest.organizationId = organizationId ∧
      manifest.workspaceId = workspaceId ∧ manifest.state = .ready ∧
      s.embeddingProvider.matches manifest = true ∧ manifest.annKey = k ∧ s.StoresChunk id chunk := by
  rw [Hangar.mem_readyVectors]
  constructor
  · intro listed
    obtain ⟨id, manifest, found, ready, key, made⟩ := listed
    obtain ⟨organization, workspace, state, matched, _⟩ := readyVectorManifest_scope ready
    have stored := readyChunk_stores made
    rw [canonical.keys.named id manifest found] at stored
    exact ⟨id, manifest, found, organization, workspace, state, matched, key, stored⟩
  · intro listed
    obtain ⟨id, manifest, found, rfl, rfl, state, matched, key, stored⟩ := listed
    have view := find_vectorView found
    have isReady : manifest.view.ready = true := by simp [VectorManifest.view, state]
    have version : manifest.pipelineVersion = ingestionPipelineVersion := (canonical.output.manifest view).2.1
    obtain ⟨chunk', stored', made⟩ := canonical.findsChunk view isReady
    have same := canonical.output.storesChunk_unique stored' stored
    subst same
    refine ⟨id, manifest, found, ?_, key, made⟩
    have matched : s.embeddingProvider.profile.matchesManifest manifest.provider manifest.modelRevision
        manifest.dimensions = true := matched
    simp [readyVectorManifest, inScope, state, matched, version]

/-- A vector rebuild has a vector of its own for each ready manifest, and no other. -/
theorem Canonical.rebuildsVectors (canonical : Canonical x workspaces minted s) {entries : List (Nat × List ℚ)}
    (run : readyVectorEntries x organizationId workspaceId s = .ok entries) :
    (entries.map Prod.fst).Nodup ∧
      (∀ entry ∈ entries, s.VectorOf x s.embeddingProvider organizationId workspaceId entry) ∧
      s.CoversVectors s.embeddingProvider organizationId workspaceId entries := by
  rw [canonical.keys.readyVectorEntries_eq] at run
  refine ⟨?_, ?_, ?_⟩
  · rw [mapM_map (fun _ _ => vectorEntry_key) run]
    exact canonical.keys.readyVectors_nodup
  · intro entry member
    obtain ⟨⟨k, chunk⟩, listed, made⟩ := mapM_source run member
    obtain ⟨id, manifest, found, organization, workspace, _, matched, key, stored⟩ :=
      canonical.mem_readyVectors.mp listed
    obtain ⟨vector, embedded, made⟩ := bind_eq_ok.mp made
    cases made
    refine ⟨id, manifest, found, organization, workspace, key, matched, ?_⟩
    intro chunk' stored'
    rw [canonical.output.storesChunk_unique stored' stored]
    exact embed_eq_ok.mp embedded
  · intro id manifest found organization workspace state matched
    have view := find_vectorView found
    have isReady : manifest.view.ready = true := by simp [VectorManifest.view, state]
    obtain ⟨chunk, stored, _⟩ := canonical.findsChunk view isReady
    have listed : (manifest.annKey, chunk) ∈ readyVectors x organizationId workspaceId s :=
      canonical.mem_readyVectors.mpr ⟨id, manifest, found, organization, workspace, state, matched, rfl, stored⟩
    obtain ⟨entry, member, made⟩ := mapM_result run listed
    have key : entry.1 = manifest.annKey := vectorEntry_key made
    exact ⟨entry.2, by rw [← key]; exact member⟩

theorem Canonical.rebuildsText (canonical : Canonical x workspaces minted s) :
    s.CoversText organizationId workspaceId (readyTextEntries x organizationId workspaceId s) := by
  have made {id : Uuid} {manifest : TextManifest} {entry : TextEntry}
      (found : s.projection.textManifests[id]? = some manifest)
      (listed : (if inScope organizationId workspaceId manifest.organizationId manifest.workspaceId &&
          manifest.state == .ready && manifest.pipelineVersion == ingestionPipelineVersion then
        (readyChunk x organizationId workspaceId s manifest.chunkId manifest.sourceSha256).map fun chunk =>
          (⟨chunk.id.text, chunk.content⟩ : TextEntry)
      else none) = some entry) :
      entry.chunkId = id.text ∧ s.ReadyText organizationId workspaceId id entry.content := by
    split at listed
    · rename_i ready
      obtain ⟨chunk, chunkFound, rfl⟩ := Option.map_eq_some_iff.mp listed
      simp only [Bool.and_eq_true, beq_iff_eq] at ready
      obtain ⟨organization, workspace⟩ := inScope_iff.mp ready.1.1
      have view := find_textView found
      have named : manifest.chunkId = id := (canonical.output.manifest view).1
      have stored := readyChunk_stores chunkFound
      rw [named] at stored
      exact ⟨congrArg Uuid.text stored.1, manifest, chunk, found, organization, workspace, ready.1.2, stored, rfl⟩
    · cases listed
  constructor
  · unfold readyTextEntries
    rw [List.Nodup, List.pairwise_map, List.pairwise_filterMap]
    apply Table.pairwise_rows
    intro id id' manifest manifest' found found' apart entry listed entry' listed' same
    rw [(made found listed).1, (made found' listed').1] at same
    exact apart (Uuid.ext same)
  · intro entry
    constructor
    · intro member
      obtain ⟨manifest, row, listed⟩ := List.mem_filterMap.mp member
      obtain ⟨id, found⟩ := Table.mem_rows.mp row
      exact ⟨id, made found listed⟩
    · intro ready
      obtain ⟨id, named, manifest, chunk, found, rfl, rfl, state, stored, content⟩ := ready
      have view := find_textView found
      have isReady : manifest.view.ready = true := by simp [TextManifest.view, state]
      have version : manifest.pipelineVersion = ingestionPipelineVersion := (canonical.output.manifest view).2.1
      obtain ⟨chunk', stored', chunkFound⟩ := canonical.findsChunk view isReady
      have same := canonical.output.storesChunk_unique stored' stored
      subst same
      apply List.mem_filterMap.mpr
      refine ⟨manifest, Table.mem_rows.mpr ⟨id, found⟩, ?_⟩
      rw [if_pos (by simp [inScope, state, version])]
      have chunkFound : readyChunk x manifest.organizationId manifest.workspaceId s manifest.chunkId
          manifest.sourceSha256 = some chunk' := chunkFound
      rw [chunkFound, Option.map_some, stored'.1, content, ← named]

theorem Canonical.of_tables (canonical : Canonical x workspaces minted s) (ingestion : s'.ingestion = s.ingestion)
    (projection : s'.projection = s.projection) : Canonical x workspaces minted s' := by
  constructor
  case records => exact ingestion ▸ canonical.records
  case output =>
    apply canonical.output.queue projection
    · rw [ingestion]
      exact .refl
    · rw [ingestion]
      exact fun found _ => found
    · rw [ingestion]
      exact fun _ _ found _ => found
  case keys => exact projection ▸ canonical.keys
  case within => exact ingestion ▸ canonical.within

theorem Canonical.records_eq (canonical : Canonical x workspaces minted s) (same : s'.records = s.records) :
    Canonical x workspaces minted s' := by
  exact canonical.of_tables (Store.ingestion_of_records same) (Store.projection_of_records same)

theorem Searchable.withVectors (valid : Searchable x workspaces minted s) {vectors : Table String (List (Nat × List ℚ))}
    (each : ∀ provider : EmbeddingProvider, ∀ a ∈ workspaces,
      vectors[indexPath x a.1 a.2 provider.profile]? = s.index.vectors[indexPath x a.1 a.2 provider.profile]? ∨
        ∃ entries, vectors[indexPath x a.1 a.2 provider.profile]? = some entries ∧ (entries.map Prod.fst).Nodup ∧
          (∀ entry ∈ entries, s.VectorOf x provider a.1 a.2 entry) ∧ s.CoversVectors provider a.1 a.2 entries) :
    Searchable x workspaces minted { s with index := { s.index with vectors := vectors } } where
  canonical := valid.canonical.records_eq rfl
  texts := by
    intro separate
    have texts := valid.texts separate
    exact ⟨texts.named, texts.active, texts.recorded⟩
  vectors := by
    constructor
    · intro provider a here entries found
      rcases each provider a here with same | ⟨written, at', distinct, own, _⟩
      · exact valid.vectors.entries provider a here entries (same.symm.trans found)
      · cases at'.symm.trans found
        exact ⟨distinct, own⟩
    · intro id manifest provider found ready matched
      have here : (manifest.organizationId, manifest.workspaceId) ∈ workspaces := by
        have view := find_vectorView found
        obtain ⟨_, _, d, document, _, documentFound, organization, workspace⟩ := valid.canonical.output.manifest view
        have inside := valid.canonical.within d document documentFound
        rw [← organization, ← workspace] at inside
        exact inside
      rcases each provider _ here with same | ⟨written, at', _, _, covers⟩
      · obtain ⟨entries, stored, listed⟩ := valid.vectors.ready id manifest provider found ready matched
        exact ⟨entries, same.trans stored, listed⟩
      · exact ⟨written, at', covers id manifest found rfl rfl ready matched⟩

theorem Searchable.withText (valid : Searchable x workspaces minted s) {text : Table (String × String) (List TextEntry)}
    (each : TextFiles x workspaces s → ∀ a ∈ workspaces, ∀ record entries,
      activeTextGeneration x a.1 a.2 s = some record → s.index.text[generationPath x a.1 a.2 record.generation]? = some entries → text[generationPath x a.1 a.2 record.generation]? = some entries) :
    Searchable x workspaces minted { s with index := { s.index with text := text } } where
  canonical := valid.canonical.records_eq rfl
  vectors := ⟨valid.vectors.entries, valid.vectors.ready⟩
  texts := by
    intro separate
    have texts := valid.texts separate
    refine ⟨texts.named, ?_, texts.recorded⟩
    intro a here record active
    obtain ⟨organization, workspace, version, entries, stored, covers⟩ := texts.active a here record active
    exact ⟨organization, workspace, version, entries, each texts a here record entries active stored, covers⟩

theorem temporaryGeneration_hidden {generation : String} :
    (temporaryGeneration generation).toList.head? = some '.' := by
  simp [temporaryGeneration, String.toList_append]

abbrev KeepsSearchable {α : Type} (x : Externals) (workspaces : Set (String × String)) (minted : List (Uuid × Uuid))
    (p : Call α) (s : Store) : Prop :=
  Program.Triple p s (fun _ => Searchable x workspaces minted) (fun _ => Searchable x workspaces minted)

section
variable {fault : Option Fault}

theorem Searchable.stopAt (valid : Searchable x workspaces minted s) {point : Fault} :
    Program.Triple (Hangar.stopAt fault point) s (fun _ s' => s' = s) (fun _ => Searchable x workspaces minted) :=
  Program.Triple.ite (fun _ => Program.Triple.fail valid) fun _ => Program.Triple.pure rfl

/-- A vector generation of the provider in force may be published once it covers its workspace. -/
theorem Searchable.publishVectors (valid : Searchable x workspaces minted s) (separate : SeparateFiles x workspaces)
    (here : (organizationId, workspaceId) ∈ workspaces) {entries : List (Nat × List ℚ)}
    (distinct : (entries.map Prod.fst).Nodup)
    (own : ∀ entry ∈ entries, s.VectorOf x s.embeddingProvider organizationId workspaceId entry)
    (covers : s.CoversVectors s.embeddingProvider organizationId workspaceId entries) :
    Program.Triple (WorkspaceVectorIndex.publishGeneration x fault organizationId workspaceId
      s.embeddingProvider.profile entries) s
      (fun _ s' => Searchable x workspaces minted s' ∧ s'.records = s.records ∧
        s'.index.vectors[indexPath x organizationId workspaceId s.embeddingProvider.profile]? = some entries)
      (fun _ => Searchable x workspaces minted) := by
  have temporary (provider : EmbeddingProvider) (a : String × String) :
      indexTemporary x organizationId workspaceId s.embeddingProvider.profile ≠
        indexPath x a.1 a.2 provider.profile := indexTemporary_ne_indexPath
  apply Program.Triple.bind (Q := fun _ s' => s' = s)
  · exact Program.Triple.query (fun _ _ => rfl) fun _ _ => valid
  intro _ s' same
  subst same
  dsimp only
  split
  · apply Program.Triple.bind (Q := fun _ => Searchable x workspaces minted)
    · apply Program.Triple.update
      apply valid.withVectors
      intro provider a _
      exact .inl (Table.find_insert_ne (temporary provider a))
    · exact fun _ _ kept => Program.Triple.fail kept
  · apply Program.Triple.bind (Q := fun _ s'' => Searchable x workspaces minted s'' ∧ s''.records = s'.records ∧
        s''.index.vectors[indexPath x organizationId workspaceId s'.embeddingProvider.profile]? = some entries)
    · apply Program.Triple.update
      refine ⟨?_, rfl, Table.find_insert_self⟩
      apply valid.withVectors
      intro provider a inside
      by_cases same : indexPath x organizationId workspaceId s'.embeddingProvider.profile =
          indexPath x a.1 a.2 provider.profile
      · obtain ⟨rfl, rfl⟩ := separate _ here a inside _ provider same
        exact .inr ⟨entries, Table.find_insert_self, distinct, own, covers⟩
      · left
        rw [Table.find_insert_ne same]
        show (s'.index.vectors.erase _)[_]? = _
        rw [Table.find_erase, if_neg (temporary provider a)]
    · intro _ s'' published
      exact (published.1.stopAt).weaken (fun _ _ same => same ▸ published) fun _ _ kept => kept

theorem Searchable.publishText (valid : Searchable x workspaces minted s) {generation : String}
    {entries : List TextEntry} :
    Program.Triple (WorkspaceTextIndex.publishGeneration x fault organizationId workspaceId generation entries) s
      (fun _ s' => Searchable x workspaces minted s' ∧ s'.records = s.records ∧
        s'.index.vectors = s.index.vectors ∧
        s'.index.text[generationPath x organizationId workspaceId generation]? = some entries)
      (fun _ => Searchable x workspaces minted) := by
  have temporary (texts : TextFiles x workspaces s) {a : String × String} {record : TextGeneration}
      (active : activeTextGeneration x a.1 a.2 s = some record) :
      generationPath x organizationId workspaceId (temporaryGeneration generation) ≠
        generationPath x a.1 a.2 record.generation := by
    intro same
    have visible := generation_visible (texts.named _ record active)
    rw [← (Prod.mk.inj same).2] at visible
    exact visible temporaryGeneration_hidden
  apply Program.Triple.bind (Q := fun _ s' => s' = s)
  · exact Program.Triple.query (fun _ _ => rfl) fun _ _ => valid
  intro _ s' same
  subst same
  apply Program.Triple.bind (Q := fun _ s'' => s'' = s' ∧
    s'.index.text[generationPath x organizationId workspaceId generation]? = none)
  · apply Program.Triple.query
    · intro _ absent
      exact ⟨rfl, by simpa using ensure_eq_ok.mp absent⟩
    · exact fun _ _ => valid
  intro _ s'' new
  obtain ⟨rfl, absent⟩ := new
  split
  · apply Program.Triple.bind (Q := fun _ => Searchable x workspaces minted)
    · apply Program.Triple.update
      apply valid.withText
      intro texts a _ record entries active stored
      rw [Table.find_insert_ne (temporary texts active), stored]
    · exact fun _ _ kept => Program.Triple.fail kept
  · apply Program.Triple.bind (Q := fun _ s' => Searchable x workspaces minted s' ∧ s'.records = s''.records ∧
        s'.index.vectors = s''.index.vectors ∧
        s'.index.text[generationPath x organizationId workspaceId generation]? = some entries)
    · apply Program.Triple.update
      refine ⟨?_, rfl, rfl, Table.find_insert_self⟩
      apply valid.withText
      intro texts a _ record old active stored
      have other : generationPath x organizationId workspaceId generation ≠
          generationPath x a.1 a.2 record.generation := by
        intro same
        rw [← same, absent] at stored
        cases stored
      rw [Table.find_insert_ne other]
      show (s''.index.text.erase _)[_]? = _
      rw [Table.find_erase, if_neg (temporary texts active), stored]
    · intro _ s' published
      exact (published.1.stopAt).weaken (fun _ _ same => same ▸ published) fun _ _ kept => kept

end

end

end Hangar
