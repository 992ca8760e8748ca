import Hangar.Projection.Coverage
import Hangar.Projection.Linked
import Hangar.Projection.Timestamps

/-! The graph of a workspace is what one pass over its ready chunks, in the order of their ids, would write. -/

namespace Hangar

open Lib

/-- The workspaces an operation names, those of graph rebuilds included. -/
def Op.graphWorkspaces : Op → List (String × String)
  | .projection (.rebuildGraphWorkspace organizationId workspaceId) => [(organizationId, workspaceId)]
  | op => op.workspaces

def Store.GraphReady (s : Store) (chunk : DocumentChunk) : Prop :=
  s.StoresChunk chunk.id chunk ∧ ∃ view, (s.projection.manifests .graph)[chunk.id]? = some view ∧ view.ready = true

def ProjectionTables.Deterministic (t : ProjectionTables) : Prop :=
  ∀ (id : Uuid) (manifest : GraphManifest), t.graphManifests[id]? = some manifest →
    manifest.extractor = deterministicExtractor ∧ manifest.extractionVersion = extractionVersion

/-- The graph of the one workspace of a store is, up to timestamps, its ready chunks materialized from nothing. -/
structure Replayed (x : Externals) (organizationId workspaceId : String) (minted : List (Uuid × Uuid)) (s : Store) :
    Prop where
  canonical : Canonical x {(organizationId, workspaceId)} minted s
  deterministic : s.projection.Deterministic
  extracted : s.projection.graph.Extracted x
  linked : s.projection.graph.Linked x organizationId workspaceId
  replay : materializeGraphChunks x timeless organizationId workspaceId ⟨∅, ∅, ∅, ∅, ∅⟩
    (readyGraphChunks x organizationId workspaceId s) = .ok s.projection.graph.untimed

section
variable {x : Externals} {env : Env} {organizationId workspaceId : String} {minted minted' : List (Uuid × Uuid)}
  {s s' : Store} {chunk : DocumentChunk}

section
variable (canonical : Canonical x {(organizationId, workspaceId)} minted s)
include canonical

theorem Canonical.graphChunk {id : Uuid} {manifest : GraphManifest}
    (found : s.projection.graphManifests[id]? = some manifest)
    (made : (if inScope organizationId workspaceId manifest.organizationId manifest.workspaceId &&
        manifest.state == .ready && manifest.pipelineVersion == ingestionPipelineVersion &&
        manifest.extractor == deterministicExtractor && manifest.extractionVersion == extractionVersion then
      readyChunk x organizationId workspaceId s manifest.chunkId manifest.sourceSha256
    else none) = some chunk) : chunk.id = id ∧ s.GraphReady chunk := by
  have view := find_graphView found
  split at made
  · rename_i checks
    simp only [Bool.and_eq_true, beq_iff_eq] at checks
    have stored := readyChunk_stores made
    have own : manifest.chunkId = id := (canonical.output.manifest view).1
    rw [own] at stored
    have isReady : manifest.view.ready = true := by simp [GraphManifest.view, checks.1.1.1.2]
    have named : chunk.id = id := stored.1
    subst named
    exact ⟨rfl, stored, manifest.view, view, isReady⟩
  · cases made

theorem Canonical.mem_readyGraphChunks (deterministic : s.projection.Deterministic) :
    chunk ∈ readyGraphChunks x organizationId workspaceId s ↔ s.GraphReady chunk := by
  constructor
  · intro member
    obtain ⟨manifest, row, made⟩ := List.mem_filterMap.mp member
    obtain ⟨id, found⟩ := Table.mem_rows.mp row
    exact (canonical.graphChunk found made).2
  · intro ready
    obtain ⟨stored, view, found, isReady⟩ := ready
    obtain ⟨own, version, _⟩ := canonical.output.manifest found
    have here := canonical.workspace_of_manifest found
    obtain ⟨chunk', stored', made⟩ := canonical.findsChunk found isReady
    have same := canonical.output.storesChunk_unique stored' stored
    subst same
    rw [find_graphManifest] at found
    obtain ⟨manifest, manifestFound, rfl⟩ := Option.map_eq_some_iff.mp found
    obtain ⟨extractor, extraction⟩ := deterministic _ manifest manifestFound
    have here : manifest.organizationId = organizationId ∧ manifest.workspaceId = workspaceId := Prod.mk.inj here
    have state : manifest.state = .ready := by simpa [GraphManifest.view] using isReady
    have version : manifest.pipelineVersion = ingestionPipelineVersion := version
    apply List.mem_filterMap.mpr
    refine ⟨manifest, Table.mem_rows.mpr ⟨_, manifestFound⟩, ?_⟩
    rw [if_pos (by simp [inScope, here, state, version, extractor, extraction]), ← here.1, ← here.2]
    exact made

theorem Canonical.readyGraphChunks_ordered : (readyGraphChunks x organizationId workspaceId s).Pairwise
    fun chunk chunk' => compare chunk.id chunk'.id = .lt := by
  unfold readyGraphChunks
  rw [List.pairwise_filterMap]
  apply Table.ordered_rows
  intro id id' manifest manifest' found found' before chunk made chunk' made'
  rw [(canonical.graphChunk found made).1, (canonical.graphChunk found' made').1]
  exact before

/-- Chunks that become ready come last where their ids are later ones. -/
theorem Canonical.readyGraphChunks_append (deterministic : s.projection.Deterministic)
    (canonical' : Canonical x {(organizationId, workspaceId)} minted' s') (deterministic' : s'.projection.Deterministic)
    {added : List DocumentChunk} (ready : ∀ chunk, s'.GraphReady chunk ↔ s.GraphReady chunk ∨ chunk ∈ added)
    (ascending : added.Pairwise fun chunk chunk' => compare chunk.id chunk'.id = .lt)
    (later : ∀ chunk, s.GraphReady chunk → ∀ chunk' ∈ added, compare chunk.id chunk'.id = .lt) :
    readyGraphChunks x organizationId workspaceId s' = readyGraphChunks x organizationId workspaceId s ++ added := by
  have keyed {chunks : List DocumentChunk}
      (ordered : chunks.Pairwise fun chunk chunk' => compare chunk.id chunk'.id = .lt) :
      (chunks.map fun chunk => (chunk.id, chunk)).Pairwise fun entry entry' => compare entry.1 entry'.1 = .lt :=
    List.pairwise_map.mpr ordered
  have ordered : (readyGraphChunks x organizationId workspaceId s ++ added).Pairwise
      fun chunk chunk' => compare chunk.id chunk'.id = .lt := by
    refine List.pairwise_append.mpr ⟨canonical.readyGraphChunks_ordered, ascending, ?_⟩
    intro chunk member chunk' new
    exact later chunk ((canonical.mem_readyGraphChunks deterministic).mp member) chunk' new
  have same := Table.eq_of_ordered (keyed canonical'.readyGraphChunks_ordered) (keyed ordered) (by
    intro entry
    simp only [List.mem_map, List.mem_append, canonical.mem_readyGraphChunks deterministic,
      canonical'.mem_readyGraphChunks deterministic', ready])
  have chunks := congrArg (List.map Prod.snd) same
  simpa [Function.comp_def] using chunks

end

theorem Replayed.extend (names : Function.Injective x.newV5) (valid : Replayed x organizationId workspaceId minted s)
    (canonical' : Canonical x {(organizationId, workspaceId)} minted' s') (deterministic' : s'.projection.Deterministic)
    {added : List DocumentChunk} (ready : ∀ chunk, s'.GraphReady chunk ↔ s.GraphReady chunk ∨ chunk ∈ added)
    (ascending : added.Pairwise fun chunk chunk' => compare chunk.id chunk'.id = .lt)
    (later : ∀ chunk, s.GraphReady chunk → ∀ chunk' ∈ added, compare chunk.id chunk'.id = .lt)
    (written : materializeGraphChunks x env organizationId workspaceId s.projection.graph added =
      .ok s'.projection.graph) : Replayed x organizationId workspaceId minted' s' where
  canonical := canonical'
  deterministic := deterministic'
  extracted := valid.extracted.materialize written
  linked := valid.linked.materialize names valid.extracted written
  replay := by
    have listed := valid.canonical.readyGraphChunks_append valid.deterministic canonical' deterministic' ready ascending
      later
    have untimed := @untimed_materialize x env organizationId workspaceId s.projection.graph added
    rw [written] at untimed
    rw [listed, materializeGraphChunks_append names .empty .empty, valid.replay]
    exact untimed.symm

theorem Replayed.carry (names : Function.Injective x.newV5) (valid : Replayed x organizationId workspaceId minted s)
    (canonical' : Canonical x {(organizationId, workspaceId)} minted' s') (deterministic' : s'.projection.Deterministic)
    (ready : ∀ chunk, s'.GraphReady chunk ↔ s.GraphReady chunk)
    (graph : s'.projection.graph = s.projection.graph) : Replayed x organizationId workspaceId minted' s' := by
  have written : materializeGraphChunks x timeless organizationId workspaceId s.projection.graph [] =
      .ok s'.projection.graph := graph ▸ rfl
  apply valid.extend names canonical' deterministic' _ List.Pairwise.nil _ written
  · simp [ready]
  · simp

theorem Replayed.of_projection (names : Function.Injective x.newV5)
    (valid : Replayed x organizationId workspaceId minted s)
    (canonical' : Canonical x {(organizationId, workspaceId)} minted' s') (graph : s'.projection.graph = s.projection.graph)
    (manifests : s'.projection.graphManifests = s.projection.graphManifests)
    (chunks : s'.projection.chunks = s.projection.chunks) : Replayed x organizationId workspaceId minted' s' := by
  apply valid.carry names canonical' _ _ graph
  · unfold ProjectionTables.Deterministic
    rw [manifests]
    exact valid.deterministic
  · intro chunk
    unfold Store.GraphReady Store.StoresChunk
    simp only [find_graphManifest, manifests, chunks]

/-- The rebuild clears the graph and writes it again as it was, up to timestamps. -/
theorem Replayed.rebuilds (valid : Replayed x organizationId workspaceId minted s) (env : Env) :
    ∃ graph, materializeGraphChunks x env organizationId workspaceId
        (clearGraphWorkspace x organizationId workspaceId s.projection.graph)
        (readyGraphChunks x organizationId workspaceId s) = .ok graph ∧
      graph.untimed = s.projection.graph.untimed := by
  rw [valid.linked.cleared]
  have untimed := @untimed_materialize x env organizationId workspaceId ⟨∅, ∅, ∅, ∅, ∅⟩
    (readyGraphChunks x organizationId workspaceId s)
  have empty : GraphTables.untimed ⟨∅, ∅, ∅, ∅, ∅⟩ = ⟨∅, ∅, ∅, ∅, ∅⟩ := rfl
  rw [empty, valid.replay] at untimed
  cases written : materializeGraphChunks x env organizationId workspaceId ⟨∅, ∅, ∅, ∅, ∅⟩
      (readyGraphChunks x organizationId workspaceId s) with
  | error e =>
    rw [written] at untimed
    cases untimed
  | ok graph =>
    rw [written] at untimed
    exact ⟨graph, rfl, Except.ok.inj untimed⟩

theorem Replayed.rebuilt (names : Function.Injective x.newV5) (valid : Replayed x organizationId workspaceId minted s)
    {graph : GraphTables}
    (built : materializeGraphChunks x env organizationId workspaceId
      (clearGraphWorkspace x organizationId workspaceId s.projection.graph)
      (readyGraphChunks x organizationId workspaceId s) = .ok graph) :
    Replayed x organizationId workspaceId minted
      { s with projection := { s.projection with graph := graph } } where
  canonical := valid.canonical.reproject (.graph organizationId workspaceId graph built rfl rfl)
  deterministic := valid.deterministic
  extracted := valid.extracted.clear.materialize built
  linked := by
    rw [valid.linked.cleared] at built
    exact GraphTables.Linked.empty.materialize names .empty built
  replay := by
    obtain ⟨graph', built', untimed⟩ := valid.rebuilds env
    rw [built] at built'
    cases built'
    show materializeGraphChunks x timeless organizationId workspaceId ⟨∅, ∅, ∅, ∅, ∅⟩
      (readyGraphChunks x organizationId workspaceId s) = .ok graph.untimed
    rw [untimed]
    exact valid.replay

theorem prepareIngestion_deterministic (deterministic : s.projection.Deterministic) {claimed : ClaimedIngestionJob}
    {prepared : PreparedIngestion} (run : prepareIngestion x env claimed s = .ok (s', prepared)) :
    s'.projection.Deterministic := by
  obtain ⟨_, document, projection, _, _, _, _, _, _, projected, rfl, rfl⟩ := prepareIngestion_ok run
  intro id manifest found
  have found : projection.graphManifests[id]? = some manifest := found
  have table := congrArg ProjectionTables.graphManifests (prepareProjection_ok projected).2
  dsimp only at table
  rw [table] at found
  rcases Table.find_insertAll found with new | ⟨_, old⟩
  · obtain ⟨chunk, _, same⟩ := List.mem_map.mp new
    cases same
    exact ⟨rfl, rfl⟩
  · exact deterministic id manifest old

theorem completeIngestion_deterministic (deterministic : s.projection.Deterministic) {prepared : PreparedIngestion}
    (distinct : (prepared.chunks.map DocumentChunk.id).Nodup) {generation : String} {job : IngestionJob}
    (run : completeIngestion x env prepared generation s = .ok (s', job)) : s'.projection.Deterministic := by
  obtain ⟨projection, projected, _, written⟩ := completeIngestion_ok run
  obtain ⟨_, _, _, graphs, _⟩ := completeProjection_ok projected
  have manifests : s'.projection.graphManifests = projection.graphManifests := by
    rw [written]
    rfl
  intro id manifest found
  rw [manifests, find_markReady distinct graphs] at found
  split at found
  · obtain ⟨before, old, rfl⟩ := Option.map_eq_some_iff.mp found
    exact deterministic id before old
  · exact deterministic id manifest found

theorem Canonical.prepare_graphReady {workspaces : Set (String × String)} (canonical : Canonical x workspaces minted s)
    (distinct : Function.Injective env.uuid) (unminted : ∀ i d, (d, env.uuid i) ∉ minted)
    {claimed : ClaimedIngestionJob} {prepared : PreparedIngestion}
    (run : prepareIngestion x env claimed s = .ok (s', prepared)) : s'.GraphReady chunk ↔ s.GraphReady chunk := by
  have keeps {view : ManifestView} := @Canonical.prepare_keeps _ _ _ _ _ _ _ _ .graph chunk.id view chunk canonical run
  have stored {view : ManifestView} := @Canonical.prepare_stored _ _ _ _ _ _ _ _ .graph chunk.id view chunk canonical run
  obtain ⟨_, document, projection, _, _, _, _, _, _, projected, rfl, rfl⟩ := prepareIngestion_ok run
  constructor
  · intro ready
    obtain ⟨chunkStored, view, found, isReady⟩ := ready
    rcases prepareProjection_manifest_cases projected distinct found with ⟨_, _, _, rfl⟩ | old
    · cases isReady
    · exact ⟨stored unminted old chunkStored, view, old, isReady⟩
  · intro ready
    obtain ⟨chunkStored, view, found, isReady⟩ := ready
    refine ⟨keeps found isReady chunkStored, view, ?_, isReady⟩
    show (projection.manifests .graph)[chunk.id]? = some view
    rw [(prepareProjection_manifests (newChunks_distinct distinct) projected .graph).2, found]
    intro member
    obtain ⟨new, listed, named⟩ := List.mem_map.mp member
    exact canonical.output.newChunk_ne unminted found listed named

/-- The second transaction makes the chunks of its attempt ready, and no other. -/
theorem OutputIntegrity.complete_graphReady (valid : OutputIntegrity x s minted)
    (distinct : Function.Injective env.uuid) {prepared : PreparedIngestion} (placed : prepared.Placed x env s)
    {generation : String} {job : IngestionJob}
    (run : completeIngestion x env prepared generation s = .ok (s', job)) :
    s'.GraphReady chunk ↔ s.GraphReady chunk ∨ chunk ∈ prepared.chunks := by
  have finishes := completeIngestion_finishes placed distinct run
  have stored {id : Uuid} {chunk : DocumentChunk} : s'.StoresChunk id chunk ↔ s.StoresChunk id chunk := by
    unfold Store.StoresChunk
    rw [finishes.chunks]
  unfold Store.GraphReady
  rw [stored, finishes.manifests]
  constructor
  · intro ready
    obtain ⟨here, view, found, isReady⟩ := ready
    split at found
    · rename_i finished
      obtain ⟨own, member, named⟩ := List.mem_map.mp finished
      have placed' := placed.stores member
      rw [named] at placed'
      rw [valid.storesChunk_unique here placed']
      exact .inr member
    · exact .inl ⟨here, view, found, isReady⟩
  · intro ready
    rcases ready with ⟨here, view, found, isReady⟩ | member
    · refine ⟨here, ?_⟩
      rw [found]
      split
      · exact ⟨view.markReady, rfl, rfl⟩
      · exact ⟨view, rfl, isReady⟩
    · refine ⟨placed.stores member, ?_⟩
      rw [if_pos (List.mem_map_of_mem member), placed.manifest chunk member .graph]
      exact ⟨_, rfl, rfl⟩

theorem Store.GraphReady.congr (projection : s'.projection = s.projection) :
    s'.GraphReady chunk ↔ s.GraphReady chunk := by
  unfold Store.GraphReady Store.StoresChunk
  rw [projection]

section
variable (names : Function.Injective x.newV5)
include names

/-- An attempt at a job, wherever it stops, adds its chunks to the graph when it makes them ready. -/
theorem ProcessEffect.replayed {claimed : ClaimedIngestionJob} (effect : ProcessEffect x env claimed s s')
    (valid : Replayed x organizationId workspaceId minted s)
    (canonical' : Canonical x {(organizationId, workspaceId)} minted' s') (distinct : Function.Injective env.uuid)
    (unminted : ∀ i d, (d, env.uuid i) ∉ minted)
    (payload : s.ingestion.payloads[claimed.job.id]? = some ⟨claimed.content⟩)
    (ascending : (newChunks env claimed.job.documentId (chunkText claimed.content maximumChunkChars)).Pairwise
      fun chunk chunk' => compare chunk.id chunk'.id = .lt)
    (later : ∀ p ∈ minted, ∀ chunk ∈ newChunks env claimed.job.documentId (chunkText claimed.content maximumChunkChars),
      compare p.2 chunk.id = .lt) : Replayed x organizationId workspaceId minted' s' := by
  have first {s₁ : Store} {prepared : PreparedIngestion} (run : prepareIngestion x env claimed s = .ok (s₁, prepared)) :
      s₁.projection.graph = s.projection.graph ∧
        prepared.chunks = newChunks env claimed.job.documentId (chunkText claimed.content maximumChunkChars) ∧
        prepared.document.organizationId = organizationId ∧ prepared.document.workspaceId = workspaceId := by
    obtain ⟨_, document, projection, _, _, _, _, documentFound, _, written, rfl, rfl⟩ := prepareIngestion_ok run
    have graph := congrArg ProjectionTables.graph (prepareProjection_ok written).2
    have here := Prod.mk.inj (valid.canonical.within _ _ documentFound)
    rw [← valid.canonical.records.documentId documentFound]
    exact ⟨graph, rfl, here⟩
  cases effect with
  | none same =>
    have kept := Store.projection_of_records same
    exact valid.of_projection names canonical' (kept ▸ rfl) (kept ▸ rfl) (kept ▸ rfl)
  | prepared run same =>
    have kept := Store.projection_of_records same
    have deterministic := prepareIngestion_deterministic valid.deterministic run
    apply valid.carry names canonical' (kept ▸ deterministic) _ (kept ▸ (first run).1)
    intro chunk
    rw [Store.GraphReady.congr kept]
    exact valid.canonical.prepare_graphReady distinct unminted run
  | @completed s₁ s₂ s₃ prepared _ _ run between second same =>
    obtain ⟨graph, listed, organization, workspace⟩ := first run
    have middle := Store.projection_of_records between
    have kept := Store.projection_of_records same
    obtain ⟨output, placed⟩ := valid.canonical.output.prepare valid.canonical.records distinct unminted payload run
    have output := output.records between
    have placed := placed.records between
    have deterministic : s₂.projection.Deterministic :=
      middle ▸ prepareIngestion_deterministic valid.deterministic run
    have added : materializeGraphChunks x env organizationId workspaceId s.projection.graph prepared.chunks =
        .ok s'.projection.graph := by
      have materialized := (completeIngestion_finishes placed distinct second).graph
      rw [organization, workspace, middle, graph] at materialized
      rw [kept]
      exact materialized
    apply valid.extend names canonical' _ _ _ _ added
    · rw [kept]
      exact completeIngestion_deterministic deterministic (placed.ids_nodup distinct) second
    · intro chunk
      rw [Store.GraphReady.congr kept, output.complete_graphReady distinct placed second, Store.GraphReady.congr middle,
        valid.canonical.prepare_graphReady distinct unminted run]
    · rw [listed]
      exact ascending
    · intro chunk ready chunk' member
      obtain ⟨⟨_, key, found⟩, _⟩ := ready
      rw [listed] at member
      exact later _ (valid.canonical.output.chunk found).2.1 chunk' member

theorem Replayed.quiet {α : Type} {p : Call α} (valid : Replayed x organizationId workspaceId minted s)
    (frames : Program.Frames Store.records p) : Program.Triple p s
      (fun _ => Replayed x organizationId workspaceId minted) (fun _ => Replayed x organizationId workspaceId minted) := by
  have kept {s' : Store} (same : s'.records = s.records) : Replayed x organizationId workspaceId minted s' := by
    have projection := Store.projection_of_records same
    exact valid.of_projection names (valid.canonical.records_eq same) (projection ▸ rfl) (projection ▸ rfl)
      (projection ▸ rfl)
  exact frames.triple.weaken (fun _ _ => kept) fun _ _ => kept

end

end

end Hangar
