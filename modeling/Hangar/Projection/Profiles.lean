import Hangar.Projection.Coverage

namespace Hangar

open Lib

/-- The index of the profile in force has one vector for every chunk of every succeeded document of the workspace. -/
def Store.VectorComplete (x : Externals) (s : Store) (organizationId workspaceId : String) : Prop :=
  ∀ (id : Uuid) (document : Document) (ordinal : Nat) (chunk : DocumentChunk),
    s.ingestion.documents[id]? = some document → document.organizationId = organizationId →
    document.workspaceId = workspaceId → document.ingestionStatus = .succeeded →
    s.projection.chunks[(id, ordinal)]? = some chunk → ∃ manifest entries vector,
      s.projection.vectorManifests[chunk.id]? = some manifest ∧
      s.index.vectors[indexPath x organizationId workspaceId s.embeddingProvider.profile]? = some entries ∧
      x.embed s.embeddingProvider chunk.content = .ok vector ∧
      (entries.filter fun entry => entry.1 == manifest.annKey) = [(manifest.annKey, vector)]

def Store.ReadyVector (s : Store) (organizationId workspaceId : String) (id : Uuid) (manifest : VectorManifest) :
    Prop :=
  s.projection.vectorManifests[id]? = some manifest ∧ manifest.organizationId = organizationId ∧
    manifest.workspaceId = workspaceId ∧ manifest.state = .ready

def Store.ProfileInForce (s : Store) (organizationId workspaceId : String) : Prop :=
  ∀ id manifest, s.ReadyVector organizationId workspaceId id manifest → s.embeddingProvider.matches manifest = true

/-- Every ready vector manifest of the workspace has its key and its embedding among the ready manifests that
    `writer` has under the profile in force. -/
def Store.WrittenBy (x : Externals) (s : Store) (writer : String × String) (organizationId workspaceId : String) :
    Prop :=
  ∀ id manifest, s.ReadyVector organizationId workspaceId id manifest → ∃ id' manifest',
    s.ReadyVector writer.1 writer.2 id' manifest' ∧ s.embeddingProvider.matches manifest' = true ∧
    manifest'.annKey = manifest.annKey ∧ ∀ chunk chunk', s.StoresChunk id chunk → s.StoresChunk id' chunk' →
      x.embed s.embeddingProvider chunk'.content = x.embed s.embeddingProvider chunk.content

section
variable {x : Externals} {engines : SearchEngines} {env : Env} {fault : Option Fault}
  {workspaces : Set (String × String)} {minted : List (Uuid × Uuid)} {s s' : Store} {server : Server}
  {organizationId workspaceId : String}

theorem Reachable.canonical (reachable : Reachable x engines server) :
    Canonical x Set.univ server.minted server.store :=
  ⟨reachable.integrity, reachable.output, reachable.annKeys, fun _ _ _ => trivial⟩

theorem Canonical.writtenBy_self (canonical : Canonical x workspaces minted s) :
    s.WrittenBy x (organizationId, workspaceId) organizationId workspaceId ↔
      s.ProfileInForce organizationId workspaceId := by
  constructor
  · intro written id manifest ready
    obtain ⟨id', manifest', ready', matched, key, _⟩ := written id manifest ready
    obtain ⟨found, organization, workspace, _⟩ := ready
    obtain ⟨found', organization', workspace', _⟩ := ready'
    have scope : annScope x manifest' = annScope x manifest := by
      rw [annScope, annScope, organization, workspace, organization', workspace']
    have same := canonical.keys.distinct found' found scope key
    subst same
    rw [found] at found'
    cases found'
    exact matched
  · intro inForce id manifest ready
    refine ⟨id, manifest, ready, inForce id manifest ready, rfl, ?_⟩
    intro chunk chunk' stored stored'
    rw [canonical.output.storesChunk_unique stored' stored]

theorem Canonical.readyVector_of_chunk (canonical : Canonical x workspaces minted s) {id : Uuid} {document : Document}
    {ordinal : Nat} {chunk : DocumentChunk} (found : s.ingestion.documents[id]? = some document)
    (succeeded : document.ingestionStatus = .succeeded)
    (chunkFound : s.projection.chunks[(id, ordinal)]? = some chunk) :
    ∃ manifest, s.ReadyVector document.organizationId document.workspaceId chunk.id manifest := by
  have complete := canonical.output.succeeded found succeeded
  obtain ⟨chunk', chunkFound', ready⟩ := complete.chunk (canonical.output.chunkAt chunkFound)
  rw [chunkFound] at chunkFound'
  cases chunkFound'
  obtain ⟨view, viewFound, isReady, _⟩ := ready .vector
  obtain ⟨_, _, d, document', drawn, documentFound, organization, workspace⟩ := canonical.output.manifest viewFound
  obtain ⟨place, drawn', _⟩ := canonical.output.chunk chunkFound
  have owner := canonical.output.mintedOnce drawn drawn'
  rw [owner, ← (Prod.mk.inj place).1, found] at documentFound
  cases documentFound
  rw [find_vectorManifest] at viewFound
  obtain ⟨manifest, manifestFound, rfl⟩ := Option.map_eq_some_iff.mp viewFound
  refine ⟨manifest, manifestFound, organization, workspace, ?_⟩
  simpa [VectorManifest.view] using isReady

theorem Canonical.chunk_of_readyVector (canonical : Canonical x workspaces minted s) {id : Uuid}
    {manifest : VectorManifest} (ready : s.ReadyVector organizationId workspaceId id manifest) :
    ∃ (d : Uuid) (document : Document) (ordinal : Nat) (chunk : DocumentChunk),
      s.ingestion.documents[d]? = some document ∧ document.organizationId = organizationId ∧
      document.workspaceId = workspaceId ∧ document.ingestionStatus = .succeeded ∧
      s.projection.chunks[(d, ordinal)]? = some chunk ∧ chunk.id = id := by
  obtain ⟨found, rfl, rfl, state⟩ := ready
  have view := find_vectorView found
  have isReady : manifest.view.ready = true := by simp [VectorManifest.view, state]
  obtain ⟨d, document, ordinal, chunk, documentFound, organization, workspace, succeeded, chunkFound, named, _⟩ :=
    canonical.chunk_of_ready view isReady
  exact ⟨d, document, ordinal, chunk, documentFound, organization, workspace, succeeded, chunkFound, named⟩

/-- What a published file holds decides whether the workspace is complete. -/
theorem Canonical.vectorComplete_iff (canonical : Canonical x workspaces minted s) {writer : String × String}
    {entries : List (Nat × List ℚ)} (run : readyVectorEntries x writer.1 writer.2 s = .ok entries)
    (ingestion : s'.ingestion = s.ingestion) (projection : s'.projection = s.projection)
    (provider : s'.embeddingProvider = s.embeddingProvider)
    (file : s'.index.vectors[indexPath x organizationId workspaceId s.embeddingProvider.profile]? = some entries) :
    s'.VectorComplete x organizationId workspaceId ↔ s.WrittenBy x writer organizationId workspaceId := by
  obtain ⟨distinct, _⟩ := canonical.rebuildsVectors run
  rw [canonical.keys.readyVectorEntries_eq] at run
  unfold Store.VectorComplete
  rw [ingestion, projection, provider, file]
  constructor
  · intro complete id manifest ready
    obtain ⟨d, document, ordinal, chunk, found, organization, workspace, succeeded, chunkFound, rfl⟩ :=
      canonical.chunk_of_readyVector ready
    obtain ⟨manifest', entries', vector, found', same, embedded, only⟩ :=
      complete d document ordinal chunk found organization workspace succeeded chunkFound
    cases same
    rw [ready.1] at found'
    cases found'
    have member : (manifest.annKey, vector) ∈ entries.filter fun entry => entry.1 == manifest.annKey := by
      rw [only]
      exact List.mem_cons_self
    obtain ⟨⟨k, chunk'⟩, listed, made⟩ := mapM_source run (List.mem_filter.mp member).1
    obtain ⟨id', manifest', found', organization', workspace', state', matched', key', stored'⟩ :=
      canonical.mem_readyVectors.mp listed
    obtain ⟨vector', embedded', made⟩ := bind_eq_ok.mp made
    cases made
    refine ⟨id', manifest', ⟨found', organization', workspace', state'⟩, matched', key', ?_⟩
    intro other other' stored otherStored
    rw [canonical.output.storesChunk_unique stored ⟨rfl, _, chunkFound⟩,
      canonical.output.storesChunk_unique otherStored stored', embedded]
    exact embed_eq_ok.mp embedded'
  · intro written id document ordinal chunk found organization workspace succeeded chunkFound
    obtain ⟨manifest, ready⟩ := canonical.readyVector_of_chunk found succeeded chunkFound
    rw [organization, workspace] at ready
    obtain ⟨id', manifest', ready', matched, key, same⟩ := written chunk.id manifest ready
    obtain ⟨d, _, ordinal', chunk', _, _, _, _, chunkFound', named'⟩ := canonical.chunk_of_readyVector ready'
    have stored' : s.StoresChunk id' chunk' := ⟨named', _, chunkFound'⟩
    have listed : (manifest.annKey, chunk') ∈ readyVectors x writer.1 writer.2 s :=
      canonical.mem_readyVectors.mpr ⟨id', manifest', ready'.1, ready'.2.1, ready'.2.2.1, ready'.2.2.2, matched, key,
        stored'⟩
    obtain ⟨entry, member, made⟩ := mapM_result run listed
    obtain ⟨vector, embedded, made⟩ := bind_eq_ok.mp made
    cases made
    refine ⟨manifest, entries, vector, ready.1, rfl, ?_, filter_key distinct member⟩
    rw [← same chunk chunk' ⟨rfl, _, chunkFound⟩ stored']
    exact embed_eq_ok.mp embedded

theorem readyVectorEntries_congr (ingestion : s'.ingestion = s.ingestion) (projection : s'.projection = s.projection)
    (provider : s'.embeddingProvider = s.embeddingProvider) :
    readyVectorEntries x organizationId workspaceId s' = readyVectorEntries x organizationId workspaceId s := by
  unfold readyVectorEntries readyVectorManifest readyChunk chunksById documentsById embed
  rw [ingestion, projection, provider]

theorem rebuildVectorWorkspace_file :
    Program.Triple (rebuildVectorWorkspace x fault organizationId workspaceId) s
      (fun _ s' => s'.records = s.records ∧ ∃ entries,
        readyVectorEntries x organizationId workspaceId s = .ok entries ∧
        s'.index.vectors =
          (s.index.vectors.erase (indexTemporary x organizationId workspaceId s.embeddingProvider.profile)).insert
            (indexPath x organizationId workspaceId s.embeddingProvider.profile) entries)
      (fun _ _ => True) := by
  have quiet {α : Type} {f : Store → Result α} : Program.Triple (Program.query f) s
      (fun a s' => s' = s ∧ f s = .ok a) (fun _ _ => True) :=
    Program.Triple.query (fun _ run => ⟨rfl, run⟩) fun _ _ => trivial
  apply quiet.bind
  intro entries s' listed
  obtain ⟨rfl, listed⟩ := listed
  apply quiet.bind
  intro profile s'' current
  obtain ⟨rfl, current⟩ := current
  cases current
  have published : Program.Triple (WorkspaceVectorIndex.publishGeneration x fault organizationId workspaceId
      s''.embeddingProvider.profile entries) s'' (fun _ s' => s'.records = s''.records ∧ s'.index.vectors =
        (s''.index.vectors.erase (indexTemporary x organizationId workspaceId s''.embeddingProvider.profile)).insert
          (indexPath x organizationId workspaceId s''.embeddingProvider.profile) entries) (fun _ _ => True) := by
    apply quiet.bind
    intro _ s₁ checked
    obtain ⟨rfl, _⟩ := checked
    dsimp only
    split
    · apply Program.Triple.bind (Q := fun _ _ => True)
      · exact Program.Triple.update trivial
      · exact fun _ _ _ => Program.Triple.fail trivial
    · apply Program.Triple.bind (Q := fun _ s' => s'.records = s₁.records ∧ s'.index.vectors =
        (s₁.index.vectors.erase (indexTemporary x organizationId workspaceId s₁.embeddingProvider.profile)).insert
          (indexPath x organizationId workspaceId s₁.embeddingProvider.profile) entries)
      · exact Program.Triple.update ⟨rfl, rfl⟩
      · intro _ s₂ written
        exact Program.Triple.ite (fun _ => Program.Triple.fail trivial) fun _ => Program.Triple.pure written
  apply published.bind
  exact fun _ _ written => Program.Triple.pure ⟨written.1, entries, listed, written.2⟩

def vectorScopes (s : Store) : List (String × String) :=
  scopeSet ((Table.rows s.projection.vectorManifests).map fun manifest =>
    (manifest.organizationId, manifest.workspaceId))

def writersOf (x : Externals) (s : Store) (scopes : List (String × String)) (path : String) : List (String × String) :=
  scopes.filter fun scope => indexPath x scope.1 scope.2 s.embeddingProvider.profile == path

/-- The workspace whose rebuild a reconciliation leaves in the file of this one: itself, unless the ids of another
    workspace give the same file name. -/
def lastWriter (x : Externals) (s : Store) (organizationId workspaceId : String) : String × String :=
  (writersOf x s (vectorScopes s) (indexPath x organizationId workspaceId s.embeddingProvider.profile)).getLast?.getD
    (organizationId, workspaceId)

/-- After these workspaces have been rebuilt, each file holds the entries of its last writer. -/
structure Reconciled (x : Externals) (s : Store) (done : List (String × String)) (s' : Store) : Prop where
  ingestion : s'.ingestion = s.ingestion
  projection : s'.projection = s.projection
  provider : s'.embeddingProvider = s.embeddingProvider
  files : ∀ path writer, (writersOf x s done path).getLast? = some writer → ∃ entries,
    readyVectorEntries x writer.1 writer.2 s = .ok entries ∧ s'.index.vectors[path]? = some entries

theorem Reconciled.rebuild {done : List (String × String)} {a : String × String} (before : Reconciled x s done s') :
    Program.Triple (rebuildVectorWorkspace x fault a.1 a.2) s' (fun _ => Reconciled x s (done ++ [a]))
      (fun _ _ => True) := by
  apply rebuildVectorWorkspace_file.weaken
  · intro _ s'' rebuilt
    obtain ⟨records, entries, listed, written⟩ := rebuilt
    rw [readyVectorEntries_congr before.ingestion before.projection before.provider] at listed
    rw [before.provider] at written
    have ingestion := Store.ingestion_of_records records
    have projection := Store.projection_of_records records
    have provider := Store.provider_of_records records
    refine ⟨ingestion.trans before.ingestion, projection.trans before.projection, provider.trans before.provider, ?_⟩
    intro path writer last
    rw [written]
    unfold writersOf at last
    rw [List.filter_append] at last
    by_cases own : indexPath x a.1 a.2 s.embeddingProvider.profile = path
    · subst own
      have found : writer = a := by simpa using last.symm
      subst found
      exact ⟨entries, listed, Table.find_insert_self⟩
    · have earlier : (writersOf x s done path).getLast? = some writer := by
        simpa [own, writersOf] using last
      obtain ⟨entries', listed', found'⟩ := before.files path writer earlier
      have named := List.mem_of_getLast? earlier
      have path' : indexPath x writer.1 writer.2 s.embeddingProvider.profile = path := by
        simpa using (List.mem_filter.mp named).2
      refine ⟨entries', listed', ?_⟩
      rw [Table.find_insert_ne own, Table.find_erase, if_neg, found']
      rw [← path']
      exact indexTemporary_ne_indexPath
  · exact fun _ _ _ => trivial

theorem Reconciled.audit {done : List (String × String)} (before : Reconciled x s done s') {id : Uuid} {action : String} :
    Program.Triple (auditSystem env organizationId workspaceId id action) s' (fun _ => Reconciled x s done)
      (fun _ _ => True) := by
  apply Program.Triple.transaction
  · intro _ s'' run
    cases run
    exact ⟨before.ingestion, before.projection, before.provider, before.files⟩
  · exact fun _ _ => trivial

theorem reconcileScopes_prefix {I : List (String × String) → Store → Prop} {kind : String}
    {rebuild : Nat → String → String → Call Nat} {auditId : Nat → Nat} {scopes : List (String × String)}
    (rebuilt : ∀ i done a s, I done s →
      Program.Triple (rebuild i a.1 a.2) s (fun _ => I (done ++ [a])) (fun _ _ => True))
    (audited : ∀ done organizationId workspaceId id action s, I done s →
      Program.Triple (auditSystem env organizationId workspaceId id action) s (fun _ => I done) (fun _ _ => True))
    (initial : I [] s) :
    Program.Triple (reconcileScopes env kind rebuild auditId scopes) s (fun _ => I scopes) (fun _ _ => True) := by
  have loop : Program.Triple (reconcileScopes env kind rebuild auditId scopes) s
      (fun _ => I (scopes.zipIdx.map Prod.fst)) (fun _ _ => True) := by
    apply Program.Triple.forM_prefix (I := fun done => I (done.map Prod.fst)) _ initial
    intro done turn rest _ s before
    rw [List.map_append]
    have outcome : Program.Triple (Program.attempt (rebuild turn.2 turn.1.1 turn.1.2)) s
        (fun outcome s' => outcome.isOk = true → I (done.map Prod.fst ++ [turn.1]) s') (fun _ _ => True) := by
      apply Program.Triple.attempt
      exact (rebuilt turn.2 _ turn.1 s before).weaken (fun _ _ after _ => after) fun _ _ _ failed => by cases failed
    apply outcome.bind
    intro outcome s' after
    cases outcome with
    | ok _ => exact audited _ _ _ _ _ s' (after rfl)
    | error e =>
      apply Program.Triple.bind (Q := fun _ _ => True)
      · exact (Program.Triple.of_state (I := fun _ => True) trivial).weaken (fun _ _ _ => trivial) fun _ _ _ => trivial
      · exact fun _ _ _ => Program.Triple.fail trivial
  rw [List.zipIdx_map_fst] at loop
  exact loop

theorem reconcileVectorProjection_files {faults : Nat → Option Fault} :
    Program.Triple (reconcileVectorProjection x env faults) s (fun _ => Reconciled x s (vectorScopes s))
      (fun _ _ => True) := by
  have removed : Program.Triple WorkspaceVectorIndex.removeStaleTemporaryFiles s
      (fun _ s' => s'.records = s.records) (fun _ _ => True) :=
    WorkspaceVectorIndex.removeStaleTemporaryFiles_frames.triple.weaken (fun _ _ same => same) fun _ _ _ => trivial
  apply removed.bind
  intro _ s₁ same
  have ingestion := Store.ingestion_of_records same
  have projection := Store.projection_of_records same
  have provider := Store.provider_of_records same
  apply Program.Triple.bind (Q := fun scopes s₂ => s₂ = s₁ ∧ scopes = vectorScopes s)
  · apply Program.Triple.query
    · intro scopes listed
      rw [projection] at listed
      cases listed
      exact ⟨rfl, rfl⟩
    · exact fun _ _ => trivial
  intro scopes s₂ listed
  obtain ⟨rfl, rfl⟩ := listed
  have start : Reconciled x s [] s₂ := by
    refine ⟨ingestion, projection, provider, ?_⟩
    intro path writer last
    cases last
  apply Program.Triple.bind (Q := fun _ => Reconciled x s (vectorScopes s))
  · apply reconcileScopes_prefix _ _ start
    · exact fun i done a s' before => before.rebuild
    · exact fun done organizationId workspaceId id action s' before => before.audit
  · exact fun _ _ done => Program.Triple.pure done

theorem mem_vectorScopes {id : Uuid} {manifest : VectorManifest}
    (ready : s.ReadyVector organizationId workspaceId id manifest) : (organizationId, workspaceId) ∈ vectorScopes s := by
  obtain ⟨found, rfl, rfl, _⟩ := ready
  exact mem_scopeSet.mpr (List.mem_map.mpr ⟨manifest, Table.mem_rows.mpr ⟨id, found⟩, rfl⟩)

theorem Canonical.reconciled_iff (canonical : Canonical x workspaces minted s)
    (reconciled : Reconciled x s (vectorScopes s) s') : s'.VectorComplete x organizationId workspaceId ↔
      s.WrittenBy x (lastWriter x s organizationId workspaceId) organizationId workspaceId := by
  by_cases listed : (organizationId, workspaceId) ∈ vectorScopes s
  · have own : (organizationId, workspaceId) ∈ writersOf x s (vectorScopes s)
        (indexPath x organizationId workspaceId s.embeddingProvider.profile) := by
      simp [writersOf, listed]
    cases last : (writersOf x s (vectorScopes s)
        (indexPath x organizationId workspaceId s.embeddingProvider.profile)).getLast? with
    | none =>
      rw [List.getLast?_eq_none_iff] at last
      rw [last] at own
      cases own
    | some writer =>
      obtain ⟨entries, run, file⟩ := reconciled.files _ writer last
      have chosen : lastWriter x s organizationId workspaceId = writer := by
        unfold lastWriter
        rw [last, Option.getD_some]
      rw [chosen]
      exact canonical.vectorComplete_iff run reconciled.ingestion reconciled.projection reconciled.provider file
  · have none (id : Uuid) (manifest : VectorManifest) : ¬ s.ReadyVector organizationId workspaceId id manifest :=
      fun ready => listed (mem_vectorScopes ready)
    constructor
    · exact fun _ id manifest ready => absurd ready (none id manifest)
    · intro _ id document ordinal chunk found organization workspace succeeded chunkFound
      rw [reconciled.ingestion] at found
      rw [reconciled.projection] at chunkFound
      obtain ⟨manifest, ready⟩ := canonical.readyVector_of_chunk found succeeded chunkFound
      rw [organization, workspace] at ready
      exact absurd ready (none chunk.id manifest)

/-- The file of a workspace whose name no other workspace shares is its own. -/
theorem lastWriter_of_alone (alone : ∀ a ∈ vectorScopes s, indexPath x a.1 a.2 s.embeddingProvider.profile =
      indexPath x organizationId workspaceId s.embeddingProvider.profile → a = (organizationId, workspaceId)) :
    lastWriter x s organizationId workspaceId = (organizationId, workspaceId) := by
  unfold lastWriter
  cases last : (writersOf x s (vectorScopes s)
      (indexPath x organizationId workspaceId s.embeddingProvider.profile)).getLast? with
  | none => rfl
  | some writer =>
    obtain ⟨listed, same⟩ := List.mem_filter.mp (List.mem_of_getLast? last)
    exact alone writer listed (by simpa using same)

/-- A vector rebuild that succeeds is complete exactly when every ready manifest of the workspace was made under the
    profile in force; so is a reconciliation, where no other workspace has the workspace's index file. -/
theorem vector_rebuild_complete_iff (reachable : Reachable x engines server) :
    (∀ fault organizationId workspaceId count s',
      rebuildVectorWorkspace x fault organizationId workspaceId server.store = (s', .ok count) →
        (s'.VectorComplete x organizationId workspaceId ↔
          server.store.ProfileInForce organizationId workspaceId)) ∧
    ∀ env faults count s', reconcileVectorProjection x env faults server.store = (s', .ok count) →
      ∀ organizationId workspaceId,
        (s'.VectorComplete x organizationId workspaceId ↔ server.store.WrittenBy x
          (lastWriter x server.store organizationId workspaceId) organizationId workspaceId) ∧
        ((∀ a ∈ vectorScopes server.store, indexPath x a.1 a.2 server.store.embeddingProvider.profile =
            indexPath x organizationId workspaceId server.store.embeddingProvider.profile →
              a = (organizationId, workspaceId)) →
          (s'.VectorComplete x organizationId workspaceId ↔
            server.store.ProfileInForce organizationId workspaceId)) := by
  have canonical := reachable.canonical
  constructor
  · intro fault organizationId workspaceId count s' run
    obtain ⟨records, entries, listed, written⟩ := rebuildVectorWorkspace_file.ok run
    have ingestion := congrArg Store.ingestion records
    have projection := congrArg Store.projection records
    have provider := congrArg Store.embeddingProvider records
    have file : s'.index.vectors[indexPath x organizationId workspaceId server.store.embeddingProvider.profile]? =
        some entries := by
      rw [written]
      exact Table.find_insert_self
    rw [← canonical.writtenBy_self]
    exact canonical.vectorComplete_iff listed ingestion projection provider file
  · intro env faults count s' run organizationId workspaceId
    have done : s'.VectorComplete x organizationId workspaceId ↔ server.store.WrittenBy x
        (lastWriter x server.store organizationId workspaceId) organizationId workspaceId :=
      canonical.reconciled_iff (reconcileVectorProjection_files.ok run)
    refine ⟨done, ?_⟩
    intro alone
    rw [done, lastWriter_of_alone alone]
    exact canonical.writtenBy_self

end

theorem labServer_inForce : labServer.store.ProfileInForce "acme" "lab:x" := by
  intro id manifest ready
  have all : ∀ manifest ∈ Table.rows labServer.store.projection.vectorManifests,
      labServer.store.embeddingProvider.matches manifest = true := by decide +kernel
  exact all manifest (Table.mem_rows.mpr ⟨id, ready.1⟩)

theorem vector_rebuild_complete_lab :
    (∃ s', rebuildVectorWorkspace sample none "acme" "lab:x" labServer.store = (s', .ok 1) ∧
      s'.VectorComplete sample "acme" "lab:x") ∧
    ∃ s', reconcileVectorProjection sample (serialEnv 4 48) (fun _ => none) labServer.store = (s', .ok 0) ∧
      s'.VectorComplete sample "acme" "lab:x" := by
  have reachable : Reachable sample noHits labServer := freshRun_reachable (by decide +kernel)
  obtain ⟨rebuild, reconcile⟩ := vector_rebuild_complete_iff reachable
  constructor
  · have rebuilt : (rebuildVectorWorkspace sample none "acme" "lab:x" labServer.store).2 = .ok 1 := by decide +kernel
    have run := Program.run_of_result rebuilt
    have complete := rebuild _ _ _ _ _ run
    exact ⟨_, run, complete.mpr labServer_inForce⟩
  · have reconciled : (reconcileVectorProjection sample (serialEnv 4 48) (fun _ => none) labServer.store).2 = .ok 0 := by
      decide +kernel
    have run := Program.run_of_result reconciled
    have only : ∀ a ∈ vectorScopes labServer.store, a = ("acme", "lab:x") := by decide +kernel
    obtain ⟨_, alone⟩ := reconcile _ _ _ _ run "acme" "lab:x"
    have complete := alone fun a listed _ => only a listed
    exact ⟨_, run, complete.mpr labServer_inForce⟩

def bilingual : Externals where
  sha256 := sample.sha256
  newV5 := sample.newV5
  toLowercase := sample.toLowercase
  isAlphanumeric := sample.isAlphanumeric
  isAlphabetic := sample.isAlphabetic
  embed
    | .hashingV1, text => sampleEmbed .hashingV1 text
    | .localMultilingualV1, _ => .ok ((List.range 384).map fun i => if i = 7 then 1 else 0)

/-- A document is indexed under one profile, and the server is restarted with the other. -/
def switchedCalls : List (Nat × Op) :=
  [(1, .ingestion (.enqueueDocument labDocument)), (2, .ingestion .claimNextIngestionJob),
    (3, .ingestion (.processClaimedIngestionJob labClaim none)), (4, .restart .localMultilingualV1)]

def switchedServer : Server := freshRun bilingual noHits switchedCalls

@[mk_iff]
structure Emptied (s : Store) : Prop where
  document : (s.ingestion.documents[(serialEnv 1 0).uuid 1]?).map (fun document =>
    (document.organizationId, document.workspaceId, document.ingestionStatus)) = some ("acme", "lab:x", .succeeded)
  chunk : (s.projection.chunks[((serialEnv 1 0).uuid 1, 0)]?).isSome = true
  file : s.index.vectors[indexPath bilingual "acme" "lab:x" s.embeddingProvider.profile]? = some []

instance {s : Store} : Decidable (Emptied s) := decidable_of_iff _ (emptied_iff s).symm

theorem Emptied.not_complete {s : Store} (emptied : Emptied s) : ¬ s.VectorComplete bilingual "acme" "lab:x" := by
  intro complete
  obtain ⟨document, found, facts⟩ := Option.map_eq_some_iff.mp emptied.document
  obtain ⟨chunk, chunkFound⟩ := Option.isSome_iff_exists.mp emptied.chunk
  simp only [Prod.mk.injEq] at facts
  obtain ⟨manifest, entries, vector, _, same, _, only⟩ :=
    complete _ document 0 chunk found facts.1 facts.2.1 facts.2.2 chunkFound
  rw [emptied.file] at same
  cases same
  simp at only

/-- After the profile has changed, a rebuild and a reconciliation succeed and leave the index empty. -/
theorem switched_rebuild_not_complete : Reachable bilingual noHits switchedServer ∧
    (∃ s', rebuildVectorWorkspace bilingual none "acme" "lab:x" switchedServer.store = (s', .ok 0) ∧
      ¬ s'.VectorComplete bilingual "acme" "lab:x") ∧
    ∃ s', reconcileVectorProjection bilingual (serialEnv 5 64) (fun _ => none) switchedServer.store = (s', .ok 0) ∧
      ¬ s'.VectorComplete bilingual "acme" "lab:x" := by
  have facts : SerialLegal bilingual noHits (Server.initial .hashingV1) 0 switchedCalls ∧
      (rebuildVectorWorkspace bilingual none "acme" "lab:x" switchedServer.store).2 = .ok 0 ∧
      Emptied (rebuildVectorWorkspace bilingual none "acme" "lab:x" switchedServer.store).1 ∧
      (reconcileVectorProjection bilingual (serialEnv 5 64) (fun _ => none) switchedServer.store).2 = .ok 0 ∧
      Emptied (reconcileVectorProjection bilingual (serialEnv 5 64) (fun _ => none) switchedServer.store).1 := by
    decide +kernel
  obtain ⟨legal, rebuilt, afterRebuild, reconciled, afterReconcile⟩ := facts
  exact ⟨freshRun_reachable legal, ⟨_, Program.run_of_result rebuilt, afterRebuild.not_complete⟩,
    ⟨_, Program.run_of_result reconciled, afterReconcile.not_complete⟩⟩

end Hangar
