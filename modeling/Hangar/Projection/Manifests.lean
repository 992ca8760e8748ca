import Hangar.Projection.Effects

namespace Hangar

open Lib

inductive ProjectionKind where
  | vector
  | text
  | graph
deriving DecidableEq

/-- What the manifests of the three projections have in common. -/
structure ManifestView where
  chunkId : Uuid
  organizationId : String
  workspaceId : String
  pipelineVersion : Nat
  sourceSha256 : HexText
  ready : Bool
deriving DecidableEq

def VectorManifest.view (manifest : VectorManifest) : ManifestView where
  chunkId := manifest.chunkId
  organizationId := manifest.organizationId
  workspaceId := manifest.workspaceId
  pipelineVersion := manifest.pipelineVersion
  sourceSha256 := manifest.sourceSha256
  ready := manifest.state == .ready

def TextManifest.view (manifest : TextManifest) : ManifestView where
  chunkId := manifest.chunkId
  organizationId := manifest.organizationId
  workspaceId := manifest.workspaceId
  pipelineVersion := manifest.pipelineVersion
  sourceSha256 := manifest.sourceSha256
  ready := manifest.state == .ready

def GraphManifest.view (manifest : GraphManifest) : ManifestView where
  chunkId := manifest.chunkId
  organizationId := manifest.organizationId
  workspaceId := manifest.workspaceId
  pipelineVersion := manifest.pipelineVersion
  sourceSha256 := manifest.sourceSha256
  ready := manifest.state == .ready

def ProjectionTables.manifests (t : ProjectionTables) : ProjectionKind → Table Uuid ManifestView
  | .vector => t.vectorManifests.map fun _ manifest => manifest.view
  | .text => t.textManifests.map fun _ manifest => manifest.view
  | .graph => t.graphManifests.map fun _ manifest => manifest.view

def pendingView (x : Externals) (document : Document) (chunk : DocumentChunk) : ManifestView where
  chunkId := chunk.id
  organizationId := document.organizationId
  workspaceId := document.workspaceId
  pipelineVersion := ingestionPipelineVersion
  sourceSha256 := x.sha256Text chunk.content
  ready := false

def ManifestView.markReady (view : ManifestView) : ManifestView := { view with ready := true }

variable {x : Externals} {env : Env} {t t' : ProjectionTables}

theorem find_vectorManifest {id : Uuid} :
    (t.manifests .vector)[id]? = t.vectorManifests[id]?.map VectorManifest.view := Table.find_map

theorem find_textManifest {id : Uuid} :
    (t.manifests .text)[id]? = t.textManifests[id]?.map TextManifest.view := Table.find_map

theorem find_graphManifest {id : Uuid} :
    (t.manifests .graph)[id]? = t.graphManifests[id]?.map GraphManifest.view := Table.find_map

theorem find_vectorView {id : Uuid} {manifest : VectorManifest} (found : t.vectorManifests[id]? = some manifest) :
    (t.manifests .vector)[id]? = some manifest.view := by
  rw [find_vectorManifest, found]
  rfl

theorem find_textView {id : Uuid} {manifest : TextManifest} (found : t.textManifests[id]? = some manifest) :
    (t.manifests .text)[id]? = some manifest.view := by
  rw [find_textManifest, found]
  rfl

theorem find_graphView {id : Uuid} {manifest : GraphManifest} (found : t.graphManifests[id]? = some manifest) :
    (t.manifests .graph)[id]? = some manifest.view := by
  rw [find_graphManifest, found]
  rfl

section
variable {M : Type} {chunks : List DocumentChunk} {manifests manifests' : Table Uuid M}

theorem chunkIds_map {f : DocumentChunk → M} :
    (chunks.map fun chunk => (chunk.id, f chunk)).map Prod.fst = chunks.map DocumentChunk.id := by
  rw [List.map_map]
  rfl

theorem find_pendingManifests {f : DocumentChunk → M} (distinct : (chunks.map DocumentChunk.id).Nodup) :
    (∀ chunk ∈ chunks, (Table.insertAll manifests (chunks.map fun chunk => (chunk.id, f chunk)))[chunk.id]? =
        some (f chunk)) ∧
      ∀ id, id ∉ chunks.map DocumentChunk.id →
        (Table.insertAll manifests (chunks.map fun chunk => (chunk.id, f chunk)))[id]? = manifests[id]? := by
  constructor
  · intro chunk member
    apply Table.find_insertAll_of_mem
    · rw [chunkIds_map]
      exact distinct
    · exact List.mem_map_of_mem member
  · intro id absent
    apply Table.find_insertAll_of_notMem
    rw [chunkIds_map]
    exact absent

theorem find_markReady {message : String} {ready : M → M} (distinct : (chunks.map DocumentChunk.id).Nodup)
    (run : markReady message ready chunks manifests = .ok manifests') (id : Uuid) :
    manifests'[id]? = if id ∈ chunks.map DocumentChunk.id then manifests[id]?.map ready else manifests[id]? := by
  unfold markReady at run
  induction chunks generalizing manifests with
  | nil =>
    cases run
    simp
  | cons chunk chunks ih =>
    rw [List.foldlM_cons] at run
    obtain ⟨middle, first, rest⟩ := bind_eq_ok.mp run
    obtain ⟨manifest, found, first⟩ := bind_eq_ok.mp first
    rw [context_eq_ok] at found
    cases first
    rw [List.map_cons, List.nodup_cons] at distinct
    rw [ih distinct.2 rest, List.map_cons, Table.find_insert]
    by_cases same : chunk.id = id
    · subst same
      simp [distinct.1, found]
    · simp [same, Ne.symm same]

end

section
variable {profile : EmbeddingProfile} {document : Document} {chunks : List DocumentChunk}
  {vectors : List (DocumentChunk × Nat)}

/-- The first transaction gives each of its chunks a pending manifest in every projection. -/
theorem prepareProjection_manifests (distinct : (chunks.map DocumentChunk.id).Nodup)
    (run : prepareProjection x env profile document chunks t = .ok (t', vectors)) (kind : ProjectionKind) :
    (∀ chunk ∈ chunks, (t'.manifests kind)[chunk.id]? = some (pendingView x document chunk)) ∧
      ∀ id, id ∉ chunks.map DocumentChunk.id → (t'.manifests kind)[id]? = (t.manifests kind)[id]? := by
  obtain ⟨listed, written⟩ := prepareProjection_ok run
  cases kind with
  | vector =>
    have keys : (vectors.map fun vector =>
        (vector.1.id, pendingVectorManifest x env profile document vector)).map Prod.fst =
          chunks.map DocumentChunk.id := by
      rw [← listed, List.map_map, List.map_map]
      rfl
    have table : t'.vectorManifests = Table.insertAll t.vectorManifests (vectors.map fun vector =>
        (vector.1.id, pendingVectorManifest x env profile document vector)) := by
      have part := congrArg ProjectionTables.vectorManifests written
      exact part
    constructor
    · intro chunk member
      rw [← listed] at member
      obtain ⟨vector, given, rfl⟩ := List.mem_map.mp member
      rw [find_vectorManifest, table]
      have found : (Table.insertAll t.vectorManifests (vectors.map fun vector =>
          (vector.1.id, pendingVectorManifest x env profile document vector)))[vector.1.id]? =
            some (pendingVectorManifest x env profile document vector) := by
        apply Table.find_insertAll_of_mem
        · rw [keys]
          exact distinct
        · exact List.mem_map.mpr ⟨vector, given, rfl⟩
      rw [found]
      rfl
    · intro id absent
      rw [find_vectorManifest, find_vectorManifest, table, Table.find_insertAll_of_notMem]
      rw [keys]
      exact absent
  | text =>
    have table := congrArg ProjectionTables.textManifests written
    have pending := @find_pendingManifests _ chunks t.textManifests (pendingTextManifest x env document) distinct
    constructor
    · intro chunk member
      rw [find_textManifest, table]
      exact congrArg (Option.map TextManifest.view) (pending.1 chunk member)
    · intro id absent
      rw [find_textManifest, find_textManifest, table]
      exact congrArg (Option.map TextManifest.view) (pending.2 id absent)
  | graph =>
    have table := congrArg ProjectionTables.graphManifests written
    have pending := @find_pendingManifests _ chunks t.graphManifests (pendingGraphManifest x env document) distinct
    constructor
    · intro chunk member
      rw [find_graphManifest, table]
      exact congrArg (Option.map GraphManifest.view) (pending.1 chunk member)
    · intro id absent
      rw [find_graphManifest, find_graphManifest, table]
      exact congrArg (Option.map GraphManifest.view) (pending.2 id absent)

theorem completeProjection_manifests {prepared : PreparedIngestion}
    (distinct : (prepared.chunks.map DocumentChunk.id).Nodup)
    (listed : prepared.vectors.map Prod.fst = prepared.chunks)
    (run : completeProjection x env prepared t = .ok t') (kind : ProjectionKind) (id : Uuid) :
    (t'.manifests kind)[id]? = if id ∈ prepared.chunks.map DocumentChunk.id
      then (t.manifests kind)[id]?.map ManifestView.markReady else (t.manifests kind)[id]? := by
  obtain ⟨vectors, texts, _, graphs, _⟩ := completeProjection_ok run
  rw [listed] at vectors
  cases kind with
  | vector =>
    rw [find_vectorManifest, find_vectorManifest, find_markReady distinct vectors]
    split
    · rw [Option.map_map, Option.map_map]
      rfl
    · rfl
  | text =>
    rw [find_textManifest, find_textManifest, find_markReady distinct texts]
    split
    · rw [Option.map_map, Option.map_map]
      rfl
    · rfl
  | graph =>
    rw [find_graphManifest, find_graphManifest, find_markReady distinct graphs]
    split
    · rw [Option.map_map, Option.map_map]
      rfl
    · rfl

end

end Hangar
