import Hangar.Ingestion.History
import Hangar.Projection.Manifests

namespace Hangar

open Lib

section
variable {env : Env} {documentId : Uuid} {contents : List String}

theorem mem_newChunks {chunk : DocumentChunk} : chunk ∈ newChunks env documentId contents ↔
    contents[chunk.ordinal]? = some chunk.content ∧ chunk.id = env.uuid chunk.ordinal ∧
      chunk.documentId = documentId := by
  unfold newChunks
  simp only [List.mem_map, Prod.exists, List.mem_zipIdx_iff_getElem?]
  constructor
  · intro listed
    obtain ⟨content, ordinal, found, rfl⟩ := listed
    exact ⟨found, rfl, rfl⟩
  · intro found
    obtain ⟨found, id, owner⟩ := found
    refine ⟨chunk.content, chunk.ordinal, found, ?_⟩
    rw [← id, ← owner]

theorem newChunks_ids : (newChunks env documentId contents).map DocumentChunk.id =
    (List.range' 0 contents.length).map env.uuid := by
  unfold newChunks
  rw [← List.zipIdx_map_snd 0 contents, List.map_map, List.map_map]
  rfl

theorem newChunks_distinct (distinct : Function.Injective env.uuid) :
    ((newChunks env documentId contents).map DocumentChunk.id).Nodup := by
  rw [newChunks_ids]
  exact List.Nodup.map distinct List.nodup_range'

theorem newChunks_keys : ((newChunks env documentId contents).map fun chunk =>
    ((documentId, chunk.ordinal), chunk)).map Prod.fst =
      (List.range' 0 contents.length).map fun ordinal => (documentId, ordinal) := by
  unfold newChunks
  rw [← List.zipIdx_map_snd 0 contents, List.map_map, List.map_map, List.map_map]
  rfl

theorem newChunks_id_unminted {minted : List (Uuid × Uuid)} (unminted : ∀ i d, (d, env.uuid i) ∉ minted)
    {chunk : DocumentChunk} (member : chunk ∈ newChunks env documentId contents) (d : Uuid) :
    (d, chunk.id) ∉ minted := by
  rw [(mem_newChunks.mp member).2.1]
  exact unminted _ d

end

def IngestionTables.HasChunk (t : IngestionTables) (documentId : Uuid) (ordinal : Nat) (content : String) : Prop :=
  ∃ document payload, t.documents[documentId]? = some document ∧
    t.payloads[document.ingestionJobId]? = some payload ∧
    (chunkText payload.content maximumChunkChars)[ordinal]? = some content

def Store.Backed (x : Externals) (s : Store) (id : Uuid) (sourceSha256 : HexText) : Prop :=
  ∃ (key : Uuid × Nat) (chunk : DocumentChunk) (document : Document), s.projection.chunks[key]? = some chunk ∧
    chunk.id = id ∧ x.sha256Text chunk.content = sourceSha256 ∧
    s.ingestion.documents[key.1]? = some document ∧ document.ingestionStatus = .succeeded

structure Store.Complete (x : Externals) (s : Store) (documentId : Uuid) (document : Document) : Prop where
  chunkCount : ∃ payload, s.ingestion.payloads[document.ingestionJobId]? = some payload ∧
    document.chunkCount = (chunkText payload.content maximumChunkChars).length
  chunk : ∀ {ordinal : Nat} {content : String}, s.ingestion.HasChunk documentId ordinal content →
    ∃ chunk, s.projection.chunks[(documentId, ordinal)]? = some chunk ∧
      ∀ kind, ∃ view, (s.projection.manifests kind)[chunk.id]? = some view ∧ view.ready = true ∧
        view.sourceSha256 = x.sha256Text chunk.content

/-- Chunks, manifests and graph evidence fit the documents, where `minted` lists the chunk ids drawn so far. -/
structure OutputIntegrity (x : Externals) (s : Store) (minted : List (Uuid × Uuid)) : Prop where
  mintedOnce : ∀ {d d' id : Uuid}, (d, id) ∈ minted → (d', id) ∈ minted → d = d'
  chunk : ∀ {key : Uuid × Nat} {chunk : DocumentChunk}, s.projection.chunks[key]? = some chunk →
    key = (chunk.documentId, chunk.ordinal) ∧ (chunk.documentId, chunk.id) ∈ minted ∧
      s.ingestion.HasChunk chunk.documentId chunk.ordinal chunk.content
  chunkId : ∀ {key key' : Uuid × Nat} {chunk chunk' : DocumentChunk}, s.projection.chunks[key]? = some chunk →
    s.projection.chunks[key']? = some chunk' → chunk.id = chunk'.id → key = key'
  manifest : ∀ {kind : ProjectionKind} {id : Uuid} {view : ManifestView},
    (s.projection.manifests kind)[id]? = some view → view.chunkId = id ∧
      view.pipelineVersion = ingestionPipelineVersion ∧
      ∃ d document, (d, id) ∈ minted ∧ s.ingestion.documents[d]? = some document ∧
        view.organizationId = document.organizationId ∧ view.workspaceId = document.workspaceId
  ready : ∀ {kind : ProjectionKind} {id : Uuid} {view : ManifestView},
    (s.projection.manifests kind)[id]? = some view → view.ready = true → s.Backed x id view.sourceSha256
  evidence : ∀ {key : Uuid × Uuid} {evidence : GraphEdgeEvidence},
    s.projection.graph.edgeEvidence[key]? = some evidence → s.Backed x evidence.chunkId evidence.sourceSha256
  succeeded : ∀ {id : Uuid} {document : Document}, s.ingestion.documents[id]? = some document →
    document.ingestionStatus = .succeeded → s.Complete x id document

section
variable {x : Externals} {env : Env} {s s' : Store} {minted : List (Uuid × Uuid)}

theorem OutputIntegrity.empty {provider : EmbeddingProvider} : OutputIntegrity x (Store.empty provider) [] := by
  constructor
  case manifest =>
    intro kind id view found
    cases kind <;> simp [ProjectionTables.manifests, Store.empty] at found
  case ready =>
    intro kind id view found
    cases kind <;> simp [ProjectionTables.manifests, Store.empty] at found
  all_goals
    intros
    simp_all [Store.empty]

theorem IngestionTables.Extends.hasChunk {t t' : IngestionTables} (extended : t.Extends t') {documentId : Uuid}
    {ordinal : Nat} {content : String} (stored : t.HasChunk documentId ordinal content) :
    t'.HasChunk documentId ordinal content := by
  obtain ⟨document, payload, documentFound, payloadFound, listed⟩ := stored
  obtain ⟨document', documentFound', same⟩ := extended.document documentFound
  refine ⟨document', payload, documentFound', ?_, listed⟩
  rw [same.ingestionJobId]
  exact extended.payload payloadFound

theorem IngestionTables.HasChunk.unique {t : IngestionTables} {documentId : Uuid} {ordinal : Nat}
    {content content' : String} (left : t.HasChunk documentId ordinal content)
    (right : t.HasChunk documentId ordinal content') : content = content' := by
  obtain ⟨document, payload, documentFound, payloadFound, listed⟩ := left
  obtain ⟨document', payload', documentFound', payloadFound', listed'⟩ := right
  rw [documentFound] at documentFound'
  cases documentFound'
  rw [payloadFound] at payloadFound'
  cases payloadFound'
  rw [listed] at listed'
  exact Option.some.inj listed'

theorem OutputIntegrity.mint (valid : OutputIntegrity x s minted) {documentId : Uuid} {contents : List String}
    (unminted : ∀ i d, (d, env.uuid i) ∉ minted) : OutputIntegrity x s
      (minted ++ (newChunks env documentId contents).map fun chunk => (chunk.documentId, chunk.id)) where
  mintedOnce {d d' id} left right := by
    have drawn {e : Uuid} (member : (e, id) ∈ (newChunks env documentId contents).map fun chunk =>
        (chunk.documentId, chunk.id)) : e = documentId ∧ ∃ i, id = env.uuid i := by
      obtain ⟨chunk, listed, same⟩ := List.mem_map.mp member
      cases same
      obtain ⟨_, named, owner⟩ := mem_newChunks.mp listed
      exact ⟨owner, _, named⟩
    rcases List.mem_append.mp left with left | left
    · rcases List.mem_append.mp right with right | right
      · exact valid.mintedOnce left right
      · obtain ⟨_, i, rfl⟩ := drawn right
        exact absurd left (unminted i d)
    · obtain ⟨rfl, i, rfl⟩ := drawn left
      rcases List.mem_append.mp right with right | right
      · exact absurd right (unminted i d')
      · exact (drawn right).1.symm
  chunk found := by
    obtain ⟨key, member, stored⟩ := valid.chunk found
    exact ⟨key, List.mem_append_left _ member, stored⟩
  chunkId := valid.chunkId
  manifest found := by
    obtain ⟨key, version, d, document, member, rest⟩ := valid.manifest found
    exact ⟨key, version, d, document, List.mem_append_left _ member, rest⟩
  ready := valid.ready
  evidence := valid.evidence
  succeeded := valid.succeeded

theorem OutputIntegrity.queue (valid : OutputIntegrity x s minted) (projection : s'.projection = s.projection)
    (extended : s.ingestion.Extends s'.ingestion) (unfinished : s.ingestion.Unfinished s'.ingestion)
    (kept : ∀ (id : Uuid) (document : Document), s.ingestion.documents[id]? = some document →
      document.ingestionStatus = .succeeded → s'.ingestion.documents[id]? = some document) :
    OutputIntegrity x s' minted := by
  have backed {id : Uuid} {hash : HexText} (old : s.Backed x id hash) : s'.Backed x id hash := by
    obtain ⟨key, chunk, document, found, named, hashed, documentFound, succeeded⟩ := old
    refine ⟨key, chunk, document, ?_, named, hashed, kept _ _ documentFound succeeded, succeeded⟩
    rw [projection]
    exact found
  constructor
  case mintedOnce => exact valid.mintedOnce
  case chunk =>
    intro key chunk found
    rw [projection] at found
    obtain ⟨same, member, stored⟩ := valid.chunk found
    exact ⟨same, member, extended.hasChunk stored⟩
  case chunkId =>
    rw [projection]
    exact valid.chunkId
  case manifest =>
    intro kind id view found
    rw [projection] at found
    obtain ⟨named, version, d, document, member, documentFound, organization, workspace⟩ := valid.manifest found
    obtain ⟨document', documentFound', same⟩ := extended.document documentFound
    refine ⟨named, version, d, document', member, documentFound', ?_, ?_⟩
    · rw [same.organizationId, organization]
    · rw [same.workspaceId, workspace]
  case ready =>
    intro kind id view found isReady
    rw [projection] at found
    exact backed (valid.ready found isReady)
  case evidence =>
    intro key evidence found
    rw [projection] at found
    exact backed (valid.evidence found)
  case succeeded =>
    intro id document found isSucceeded
    have before := unfinished found isSucceeded
    have complete := valid.succeeded before isSucceeded
    obtain ⟨payload, payloadFound, counted⟩ := complete.chunkCount
    refine ⟨⟨payload, extended.payload payloadFound, counted⟩, ?_⟩
    intro ordinal content stored
    rw [projection]
    have storedBefore : s.ingestion.HasChunk id ordinal content := by
      obtain ⟨document', payload', documentFound', payloadFound', listed⟩ := stored
      rw [found] at documentFound'
      cases documentFound'
      rw [extended.payload payloadFound] at payloadFound'
      cases payloadFound'
      exact ⟨document, payload, before, payloadFound, listed⟩
    exact complete.chunk storedBefore

theorem materializeGraphChunks_evidence {organizationId workspaceId : String} {t t' : GraphTables}
    {chunks : List DocumentChunk}
    (run : materializeGraphChunks x env organizationId workspaceId t chunks = .ok t') {key : Uuid × Uuid}
    {evidence : GraphEdgeEvidence} (found : t'.edgeEvidence[key]? = some evidence) :
    t.edgeEvidence[key]? = some evidence ∨
      ∃ chunk ∈ chunks, evidence.chunkId = chunk.id ∧ evidence.sourceSha256 = x.sha256Text chunk.content := by
  obtain ⟨build, loop, same⟩ := bind_eq_ok.mp run
  cases same
  revert found
  apply foldlM_preserves (P := fun build : GraphBuild => build.tables.edgeEvidence[key]? = some evidence →
    t.edgeEvidence[key]? = some evidence ∨
      ∃ chunk ∈ chunks, evidence.chunkId = chunk.id ∧ evidence.sourceSha256 = x.sha256Text chunk.content) _ _ loop
  · intro chunk member before after kept step
    have entities (candidates : List EntityCandidate) (build : GraphBuild) :
        (candidates.foldl (GraphBuild.addEntity x env organizationId workspaceId) build).tables.edgeEvidence =
          build.tables.edgeEvidence := by
      induction candidates generalizing build with
      | nil => rfl
      | cons candidate candidates ih =>
        rw [List.foldl_cons, ih]
        unfold GraphBuild.addEntity
        split <;> rfl
    apply foldlM_preserves _ _ step
    · intro relation _ first second kept step
      obtain ⟨source, _, step⟩ := bind_eq_ok.mp step
      obtain ⟨target, _, step⟩ := bind_eq_ok.mp step
      cases step
      intro found
      have edges : (first.ensureEdge x env organizationId workspaceId source target relation).1.tables.edgeEvidence =
          first.tables.edgeEvidence := by
        unfold GraphBuild.ensureEdge
        dsimp only
        split <;> rfl
      dsimp only [GraphTables.insertEvidence] at found
      rw [Table.find_insert, edges] at found
      split at found
      · cases found
        exact .inr ⟨chunk, member, rfl, rfl⟩
      · exact kept found
    · rw [entities]
      exact kept
  · exact .inl

theorem clearGraphWorkspace_evidence {organizationId workspaceId : String} {t : GraphTables} {key : Uuid × Uuid}
    {evidence : GraphEdgeEvidence}
    (found : (clearGraphWorkspace x organizationId workspaceId t).edgeEvidence[key]? = some evidence) :
    t.edgeEvidence[key]? = some evidence := (Table.find_filter_eq_some.mp found).1

theorem chunksById_find {id : Uuid} {chunk : DocumentChunk} (found : (chunksById s)[id]? = some chunk) :
    chunk.id = id ∧ ∃ key : Uuid × Nat, s.projection.chunks[key]? = some chunk := by
  rcases Table.find_insertAll found with listed | ⟨_, absent⟩
  · obtain ⟨stored, member, same⟩ := List.mem_map.mp listed
    cases same
    exact ⟨rfl, Table.mem_rows.mp member⟩
  · simp at absent

theorem documentsById_find (records : IngestionIntegrity x s.ingestion) {id : Uuid} {document : Document}
    (found : (documentsById s)[id]? = some document) : s.ingestion.documents[id]? = some document := by
  rcases Table.find_insertAll found with listed | ⟨_, absent⟩
  · obtain ⟨stored, member, same⟩ := List.mem_map.mp listed
    cases same
    obtain ⟨key, found⟩ := Table.mem_rows.mp member
    rw [records.documentId found]
    exact found
  · simp at absent

theorem readyChunk_backed (valid : OutputIntegrity x s minted) (records : IngestionIntegrity x s.ingestion)
    {organizationId workspaceId : String} {id : Uuid} {hash : HexText} {chunk : DocumentChunk}
    (ready : readyChunk x organizationId workspaceId s id hash = some chunk) :
    s.Backed x chunk.id (x.sha256Text chunk.content) := by
  unfold readyChunk at ready
  obtain ⟨stored, found, ready⟩ := Option.bind_eq_some_iff.mp ready
  obtain ⟨document, documentFound, ready⟩ := Option.bind_eq_some_iff.mp ready
  split at ready
  · rename_i checks
    cases ready
    obtain ⟨named, key, placed⟩ := chunksById_find found
    have owner : key = (chunk.documentId, chunk.ordinal) := (valid.chunk placed).1
    simp only [Bool.and_eq_true, beq_iff_eq] at checks
    refine ⟨key, chunk, document, placed, rfl, rfl, ?_, checks.1.2⟩
    rw [owner]
    exact documentsById_find records documentFound
  · cases ready

theorem readyGraphChunks_backed (valid : OutputIntegrity x s minted) (records : IngestionIntegrity x s.ingestion)
    {organizationId workspaceId : String} {chunk : DocumentChunk}
    (member : chunk ∈ readyGraphChunks x organizationId workspaceId s) :
    s.Backed x chunk.id (x.sha256Text chunk.content) := by
  unfold readyGraphChunks at member
  obtain ⟨manifest, _, ready⟩ := List.mem_filterMap.mp member
  split at ready
  · exact readyChunk_backed valid records ready
  · cases ready

/-- A rebuild keeps the output: it only cites chunks of succeeded documents. -/
theorem OutputIntegrity.reproject (valid : OutputIntegrity x s minted)
    (records : IngestionIntegrity x s.ingestion) (step : Reprojection x env s s') :
    OutputIntegrity x s' minted := by
  have ingestion := step.ingestion_eq
  have transfer (chunks : s'.projection.chunks = s.projection.chunks)
      (manifests : s'.projection.manifests = s.projection.manifests)
      (evidence : ∀ {key : Uuid × Uuid} {evidence : GraphEdgeEvidence},
        s'.projection.graph.edgeEvidence[key]? = some evidence →
          s.Backed x evidence.chunkId evidence.sourceSha256) : OutputIntegrity x s' minted := by
    have backed {id : Uuid} {hash : HexText} (old : s.Backed x id hash) : s'.Backed x id hash := by
      unfold Store.Backed
      rw [chunks, ingestion]
      exact old
    constructor
    case mintedOnce => exact valid.mintedOnce
    case chunk =>
      rw [chunks, ingestion]
      exact valid.chunk
    case chunkId =>
      rw [chunks]
      exact valid.chunkId
    case manifest =>
      rw [manifests, ingestion]
      exact valid.manifest
    case ready =>
      rw [manifests]
      exact fun found isReady => backed (valid.ready found isReady)
    case evidence => exact fun found => backed (evidence found)
    case succeeded =>
      rw [ingestion]
      intro id document found succeeded
      have complete := valid.succeeded found succeeded
      refine ⟨ingestion ▸ complete.chunkCount, ?_⟩
      rw [ingestion, chunks, manifests]
      exact complete.chunk
  cases step with
  | keep _ projection =>
    apply transfer
    · rw [projection]
    · rw [projection]
    · rw [projection]
      exact valid.evidence
  | graph organizationId workspaceId graph built _ projection =>
    apply transfer
    · rw [projection]
    · rw [projection]
      funext kind
      cases kind <;> rfl
    · rw [projection]
      intro key evidence found
      rcases materializeGraphChunks_evidence built found with old | ⟨chunk, member, named, hashed⟩
      · exact valid.evidence (clearGraphWorkspace_evidence old)
      · rw [named, hashed]
        exact readyGraphChunks_backed valid records member
  | activate organizationId workspaceId generation _ projection =>
    apply transfer
    · rw [projection]
      rfl
    · rw [projection]
      funext kind
      cases kind <;> rfl
    · rw [projection]
      exact valid.evidence

theorem OutputIntegrity.reprojects (valid : OutputIntegrity x s minted)
    (records : IngestionIntegrity x s.ingestion) (moves : Relation.ReflTransGen (Reprojection x env) s s') :
    OutputIntegrity x s' minted := by
  have both : s'.ingestion = s.ingestion ∧ OutputIntegrity x s' minted := by
    induction moves with
    | refl => exact ⟨rfl, valid⟩
    | tail _ step ih =>
      obtain ⟨same, kept⟩ := ih
      exact ⟨step.ingestion_eq.trans same, kept.reproject (same ▸ records) step⟩
  exact both.2

/-- What the first transaction of an attempt has made sure of when the second starts. -/
structure PreparedIngestion.Placed (x : Externals) (env : Env) (s : Store) (prepared : PreparedIngestion) : Prop where
  document : s.ingestion.documents[prepared.documentKey]? = some prepared.document
  job : s.ingestion.jobs[prepared.jobKey]? = some prepared.job
  processing : prepared.job.status = .processing
  unfinished : prepared.document.ingestionStatus ≠ .succeeded
  payload : ∃ payload, s.ingestion.payloads[prepared.document.ingestionJobId]? = some payload ∧
    prepared.chunks = newChunks env prepared.documentKey (chunkText payload.content maximumChunkChars)
  vectors : prepared.vectors.map Prod.fst = prepared.chunks
  chunk : ∀ chunk ∈ prepared.chunks, s.projection.chunks[(prepared.documentKey, chunk.ordinal)]? = some chunk
  manifest : ∀ chunk ∈ prepared.chunks, ∀ kind,
    (s.projection.manifests kind)[chunk.id]? = some (pendingView x prepared.document chunk)

theorem prepareProjection_chunks {profile : EmbeddingProfile} {document : Document} {contents : List String}
    {t t' : ProjectionTables} {vectors : List (DocumentChunk × Nat)}
    (run : prepareProjection x env profile document (newChunks env document.id contents) t = .ok (t', vectors)) :
    (∀ chunk ∈ newChunks env document.id contents, t'.chunks[(document.id, chunk.ordinal)]? = some chunk) ∧
      ∀ {key : Uuid × Nat} {chunk : DocumentChunk}, t'.chunks[key]? = some chunk →
        chunk ∈ newChunks env document.id contents ∧ key = (document.id, chunk.ordinal) ∨
          t.chunks[key]? = some chunk := by
  have table : t'.chunks = Table.insertAll t.chunks ((newChunks env document.id contents).map fun chunk =>
      ((document.id, chunk.ordinal), chunk)) := by
    have part := congrArg ProjectionTables.chunks (prepareProjection_ok run).2
    exact part
  rw [table]
  constructor
  · intro chunk member
    apply Table.find_insertAll_of_mem
    · rw [newChunks_keys]
      apply List.Nodup.map _ List.nodup_range'
      intro i j same
      exact congrArg Prod.snd same
    · exact List.mem_map.mpr ⟨chunk, member, rfl⟩
  · intro key chunk found
    rcases Table.find_insertAll found with listed | ⟨_, old⟩
    · obtain ⟨own, member, same⟩ := List.mem_map.mp listed
      cases same
      exact .inl ⟨member, rfl⟩
    · exact .inr old

theorem prepareProjection_otherChunks {profile : EmbeddingProfile} {document : Document} {contents : List String}
    {t t' : ProjectionTables} {vectors : List (DocumentChunk × Nat)}
    (run : prepareProjection x env profile document (newChunks env document.id contents) t = .ok (t', vectors))
    {key : Uuid × Nat} (other : key.1 ≠ document.id) : t'.chunks[key]? = t.chunks[key]? := by
  have table : t'.chunks = Table.insertAll t.chunks ((newChunks env document.id contents).map fun chunk =>
      ((document.id, chunk.ordinal), chunk)) := by
    have part := congrArg ProjectionTables.chunks (prepareProjection_ok run).2
    exact part
  rw [table]
  apply Table.find_insertAll_of_notMem
  rw [newChunks_keys]
  intro member
  obtain ⟨ordinal, _, rfl⟩ := List.mem_map.mp member
  exact other rfl

section
variable {profile : EmbeddingProfile} {document : Document} {contents : List String} {projection : ProjectionTables}
  {vectors : List (DocumentChunk × Nat)}
  (projected : prepareProjection x env profile document (newChunks env document.id contents) s.projection =
    .ok (projection, vectors))
include projected

theorem prepareProjection_manifest_cases (distinct : Function.Injective env.uuid) {kind : ProjectionKind} {id : Uuid}
    {view : ManifestView} (found : (projection.manifests kind)[id]? = some view) :
    (∃ chunk ∈ newChunks env document.id contents, chunk.id = id ∧ view = pendingView x document chunk) ∨
      (s.projection.manifests kind)[id]? = some view := by
  obtain ⟨pending, others⟩ := prepareProjection_manifests (newChunks_distinct distinct) projected kind
  by_cases own : id ∈ (newChunks env document.id contents).map DocumentChunk.id
  · obtain ⟨chunk, member, rfl⟩ := List.mem_map.mp own
    have written := pending chunk member
    rw [found] at written
    exact .inl ⟨chunk, member, rfl, Option.some.inj written⟩
  · exact .inr ((others id own).symm.trans found)

theorem Store.Backed.place (unfinished : ∀ (id : Uuid) (stored : Document), s.ingestion.documents[id]? = some stored →
      stored.ingestionStatus = .succeeded → id ≠ document.id) {id : Uuid} {hash : HexText} (old : s.Backed x id hash) :
    ({ s with projection := projection } : Store).Backed x id hash := by
  obtain ⟨key, chunk, stored, found, named, hashed, storedFound, succeeded⟩ := old
  refine ⟨key, chunk, stored, ?_, named, hashed, storedFound, succeeded⟩
  exact (prepareProjection_otherChunks projected (unfinished _ _ storedFound succeeded)).trans found

theorem Store.Complete.place (valid : OutputIntegrity x s minted) (distinct : Function.Injective env.uuid)
    (unminted : ∀ i d, (d, env.uuid i) ∉ minted) {id : Uuid} {stored : Document} (other : id ≠ document.id)
    (complete : s.Complete x id stored) : ({ s with projection := projection } : Store).Complete x id stored := by
  refine ⟨complete.chunkCount, ?_⟩
  intro ordinal content listed
  obtain ⟨chunk, chunkFound, ready⟩ := complete.chunk listed
  refine ⟨chunk, (prepareProjection_otherChunks projected other).trans chunkFound, ?_⟩
  have known := (valid.chunk chunkFound).2.1
  have foreign : chunk.id ∉ (newChunks env document.id contents).map DocumentChunk.id := by
    intro member
    obtain ⟨own, member, same⟩ := List.mem_map.mp member
    rw [← same] at known
    exact newChunks_id_unminted unminted member _ known
  intro kind
  obtain ⟨view, viewFound, rest⟩ := ready kind
  have kept := (prepareProjection_manifests (newChunks_distinct distinct) projected kind).2 chunk.id foreign
  exact ⟨view, kept.trans viewFound, rest⟩

theorem OutputIntegrity.place (valid : OutputIntegrity x s minted) (distinct : Function.Injective env.uuid)
    (unminted : ∀ i d, (d, env.uuid i) ∉ minted)
    (documentFound : s.ingestion.documents[document.id]? = some document)
    (unfinished : document.ingestionStatus ≠ .succeeded)
    (payload : ∃ payload, s.ingestion.payloads[document.ingestionJobId]? = some payload ∧
      contents = chunkText payload.content maximumChunkChars) :
    OutputIntegrity x { s with projection := projection } (minted ++ (newChunks env document.id contents).map
      fun chunk => (chunk.documentId, chunk.id)) := by
  have rows {key : Uuid × Nat} {chunk : DocumentChunk} (found : projection.chunks[key]? = some chunk) :=
    (prepareProjection_chunks projected).2 found
  have graph : projection.graph = s.projection.graph := by
    have part := congrArg ProjectionTables.graph (prepareProjection_ok projected).2
    exact part
  have minting := @OutputIntegrity.mint x env s minted valid document.id contents unminted
  have drawn {chunk : DocumentChunk} (member : chunk ∈ newChunks env document.id contents) :
      (chunk.documentId, chunk.id) ∈ minted ++ (newChunks env document.id contents).map fun chunk =>
        (chunk.documentId, chunk.id) := List.mem_append_right _ (List.mem_map.mpr ⟨chunk, member, rfl⟩)
  have other : ∀ (id : Uuid) (stored : Document), s.ingestion.documents[id]? = some stored →
      stored.ingestionStatus = .succeeded → id ≠ document.id := by
    rintro _ stored found succeeded rfl
    rw [documentFound] at found
    cases found
    exact unfinished succeeded
  constructor
  case mintedOnce => exact minting.mintedOnce
  case chunk =>
    intro key chunk found
    rcases rows found with ⟨member, rfl⟩ | old
    · obtain ⟨listed, _, owner⟩ := mem_newChunks.mp member
      obtain ⟨stored, payloadFound, same⟩ := payload
      refine ⟨by rw [owner], drawn member, ?_⟩
      rw [owner]
      exact ⟨document, stored, documentFound, payloadFound, same ▸ listed⟩
    · exact minting.chunk old
  case chunkId =>
    intro key key' chunk chunk' found found' same
    rcases rows found with ⟨member, rfl⟩ | old
    · rcases rows found' with ⟨member', rfl⟩ | old'
      · rw [(mem_newChunks.mp member).2.1, (mem_newChunks.mp member').2.1] at same
        rw [distinct same]
      · have known := (valid.chunk old').2.1
        rw [← same] at known
        exact absurd known (newChunks_id_unminted unminted member _)
    · rcases rows found' with ⟨member', rfl⟩ | old'
      · have known := (valid.chunk old).2.1
        rw [same] at known
        exact absurd known (newChunks_id_unminted unminted member' _)
      · exact valid.chunkId old old' same
  case manifest =>
    intro kind id view found
    rcases prepareProjection_manifest_cases projected distinct found with ⟨chunk, member, rfl, rfl⟩ | old
    · have owner := (mem_newChunks.mp member).2.2
      refine ⟨rfl, rfl, chunk.documentId, document, drawn member, ?_, rfl, rfl⟩
      rw [owner]
      exact documentFound
    · exact minting.manifest old
  case ready =>
    intro kind id view found isReady
    rcases prepareProjection_manifest_cases projected distinct found with ⟨chunk, member, rfl, rfl⟩ | old
    · cases isReady
    · exact (valid.ready old isReady).place projected other
  case evidence =>
    intro key evidence found
    apply Store.Backed.place projected other
    apply @OutputIntegrity.evidence x s minted valid key
    rw [← graph]
    exact found
  case succeeded =>
    intro id stored found succeeded
    exact (valid.succeeded found succeeded).place projected valid distinct unminted (other id stored found succeeded)

end

/-- The document of a claim that the first transaction accepts has not succeeded. -/
theorem prepared_unfinished (records : IngestionIntegrity x s.ingestion) {key documentKey : Uuid}
    {job : IngestionJob} {document : Document} (jobFound : s.ingestion.jobs[key]? = some job)
    (processing : job.status = .processing) (documentFound : s.ingestion.documents[documentKey]? = some document)
    (matched : document.ingestionJobId = job.id) : document.ingestionStatus ≠ .succeeded := by
  obtain ⟨own, ownFound, _, status, _⟩ := records.document jobFound
  have owned := records.documentId_of_job jobFound documentFound matched
  rw [owned, documentFound] at ownFound
  cases ownFound
  rw [status, processing]
  simp

theorem OutputIntegrity.prepare (valid : OutputIntegrity x s minted) (records : IngestionIntegrity x s.ingestion)
    (distinct : Function.Injective env.uuid) (unminted : ∀ i d, (d, env.uuid i) ∉ minted)
    {claimed : ClaimedIngestionJob}
    (payload : s.ingestion.payloads[claimed.job.id]? = some ⟨claimed.content⟩)
    {prepared : PreparedIngestion} (run : prepareIngestion x env claimed s = .ok (s', prepared)) :
    OutputIntegrity x s' (minted ++ (newChunks env claimed.job.documentId
      (chunkText claimed.content maximumChunkChars)).map fun chunk => (chunk.documentId, chunk.id)) ∧
      prepared.Placed x env s' := by
  obtain ⟨job, document, projection, vectors, _, jobFound, processing, documentFound, matched, projected, rfl, rfl⟩ :=
    prepareIngestion_ok run
  have documentId : document.id = claimed.job.documentId := records.documentId documentFound
  have jobId : job.id = claimed.job.id := records.jobId jobFound
  have unfinished := prepared_unfinished records jobFound processing documentFound matched
  have stored : ∃ payload, s.ingestion.payloads[document.ingestionJobId]? = some payload ∧
      chunkText claimed.content maximumChunkChars = chunkText payload.content maximumChunkChars := by
    refine ⟨⟨claimed.content⟩, ?_, rfl⟩
    rw [matched, jobId]
    exact payload
  generalize chunkText claimed.content maximumChunkChars = contents at stored projected ⊢
  rw [← documentId] at documentFound ⊢
  refine ⟨valid.place projected distinct unminted documentFound unfinished stored, ?_⟩
  have manifests := prepareProjection_manifests (newChunks_distinct distinct) projected
  constructor
  case document => exact documentFound
  case job => exact jobFound
  case processing => exact processing
  case unfinished => exact unfinished
  case payload =>
    obtain ⟨payload, payloadFound, same⟩ := stored
    exact ⟨payload, payloadFound, by rw [← same]⟩
  case vectors => exact (prepareProjection_ok projected).1
  case chunk => exact (prepareProjection_chunks projected).1
  case manifest => exact fun chunk member kind => (manifests kind).1 chunk member

theorem PreparedIngestion.Placed.records {prepared : PreparedIngestion} (placed : prepared.Placed x env s)
    (same : s'.records = s.records) : prepared.Placed x env s' := by
  have ingestion := Store.ingestion_of_records same
  have projection := Store.projection_of_records same
  constructor
  case document => exact ingestion ▸ placed.document
  case job => exact ingestion ▸ placed.job
  case processing => exact placed.processing
  case unfinished => exact placed.unfinished
  case payload => exact ingestion ▸ placed.payload
  case vectors => exact placed.vectors
  case chunk => exact projection ▸ placed.chunk
  case manifest => exact projection ▸ placed.manifest

theorem OutputIntegrity.records (valid : OutputIntegrity x s minted) (same : s'.records = s.records) :
    OutputIntegrity x s' minted := by
  have ingestion := Store.ingestion_of_records same
  have projection := Store.projection_of_records same
  apply valid.queue projection
  · rw [ingestion]
    exact .refl
  · rw [ingestion]
    exact fun found _ => found
  · rw [ingestion]
    exact fun _ _ found _ => found

/-- What the second transaction does to the tables that the output is read from. -/
structure PreparedIngestion.Finishes (x : Externals) (env : Env) (prepared : PreparedIngestion) (s s' : Store) :
    Prop where
  documents : s'.ingestion.documents = s.ingestion.documents.insert prepared.documentKey
    (prepared.document.succeed prepared.chunks.length)
  payloads : s'.ingestion.payloads = s.ingestion.payloads
  chunks : s'.projection.chunks = s.projection.chunks
  manifests : ∀ (kind : ProjectionKind) (id : Uuid), (s'.projection.manifests kind)[id]? =
    if id ∈ prepared.chunks.map DocumentChunk.id then (s.projection.manifests kind)[id]?.map ManifestView.markReady
    else (s.projection.manifests kind)[id]?
  graph : materializeGraphChunks x env prepared.document.organizationId prepared.document.workspaceId s.projection.graph
    prepared.chunks = .ok s'.projection.graph

section
variable {prepared : PreparedIngestion} {id : Uuid} {kind : ProjectionKind}

theorem PreparedIngestion.Placed.ids_nodup (placed : prepared.Placed x env s)
    (distinct : Function.Injective env.uuid) : (prepared.chunks.map DocumentChunk.id).Nodup := by
  obtain ⟨payload, _, listed⟩ := placed.payload
  rw [listed]
  exact newChunks_distinct distinct

theorem completeIngestion_finishes (placed : prepared.Placed x env s) (distinct : Function.Injective env.uuid)
    {generation : String} {job : IngestionJob}
    (run : completeIngestion x env prepared generation s = .ok (s', job)) : prepared.Finishes x env s s' := by
  obtain ⟨projection, projected, _, written⟩ := completeIngestion_ok run
  have marked := completeProjection_manifests (placed.ids_nodup distinct) placed.vectors projected
  obtain ⟨_, _, materialized, _, shape⟩ := completeProjection_ok projected
  have manifests (kind : ProjectionKind) : s'.projection.manifests kind = projection.manifests kind := by
    rw [written]
    cases kind <;> rfl
  constructor
  case documents => rw [written]
  case payloads => rw [written]
  case chunks =>
    have part := congrArg ProjectionTables.chunks shape
    rw [written]
    exact part
  case manifests =>
    intro kind id
    rw [manifests, marked]
  case graph =>
    rw [written]
    exact materialized

theorem PreparedIngestion.Placed.other (placed : prepared.Placed x env s) {document : Document}
    (found : s.ingestion.documents[id]? = some document) (succeeded : document.ingestionStatus = .succeeded) :
    prepared.documentKey ≠ id := by
  rintro rfl
  rw [placed.document] at found
  cases found
  exact placed.unfinished succeeded

section
variable (finishes : prepared.Finishes x env s s')
include finishes

theorem PreparedIngestion.Finishes.own {chunk : DocumentChunk} (placed : prepared.Placed x env s)
    (member : chunk ∈ prepared.chunks) : s'.Backed x chunk.id (x.sha256Text chunk.content) := by
  refine ⟨(prepared.documentKey, chunk.ordinal), chunk, prepared.document.succeed prepared.chunks.length, ?_, rfl, rfl,
    ?_, rfl⟩
  · rw [finishes.chunks]
    exact placed.chunk chunk member
  · rw [finishes.documents]
    exact Table.find_insert_self

theorem PreparedIngestion.Finishes.readied (placed : prepared.Placed x env s) {chunk : DocumentChunk}
    (member : chunk ∈ prepared.chunks) (kind : ProjectionKind) : (s'.projection.manifests kind)[chunk.id]? =
      some (pendingView x prepared.document chunk).markReady := by
  rw [finishes.manifests, if_pos (List.mem_map_of_mem member), placed.manifest chunk member kind]
  rfl

theorem PreparedIngestion.Finishes.manifest_cases (placed : prepared.Placed x env s) {view : ManifestView}
    (found : (s'.projection.manifests kind)[id]? = some view) :
    (∃ chunk ∈ prepared.chunks, chunk.id = id ∧ view = (pendingView x prepared.document chunk).markReady) ∨
      (s.projection.manifests kind)[id]? = some view := by
  by_cases finished : id ∈ prepared.chunks.map DocumentChunk.id
  · obtain ⟨chunk, member, rfl⟩ := List.mem_map.mp finished
    rw [finishes.readied placed member kind] at found
    exact .inl ⟨chunk, member, rfl, (Option.some.inj found).symm⟩
  · rw [finishes.manifests, if_neg finished] at found
    exact .inr found

theorem PreparedIngestion.Finishes.document (placed : prepared.Placed x env s) {document : Document}
    (found : s.ingestion.documents[id]? = some document) :
    ∃ document', s'.ingestion.documents[id]? = some document' ∧ document.SameRequest document' := by
  rw [finishes.documents]
  by_cases own : prepared.documentKey = id
  · subst own
    rw [placed.document] at found
    cases found
    exact ⟨_, Table.find_insert_self, rfl, rfl, rfl, rfl, rfl⟩
  · exact ⟨document, by rw [Table.find_insert_ne own, found], .refl⟩

theorem PreparedIngestion.Finishes.hasChunk (placed : prepared.Placed x env s) {ordinal : Nat} {content : String}
    (stored : s.ingestion.HasChunk id ordinal content) : s'.ingestion.HasChunk id ordinal content := by
  obtain ⟨document, payload, documentFound, payloadFound, at'⟩ := stored
  obtain ⟨document', documentFound', same⟩ := finishes.document placed documentFound
  refine ⟨document', payload, documentFound', ?_, at'⟩
  rw [same.ingestionJobId, finishes.payloads]
  exact payloadFound

theorem PreparedIngestion.Finishes.backed (placed : prepared.Placed x env s) {hash : HexText} (old : s.Backed x id hash) :
    s'.Backed x id hash := by
  obtain ⟨key, chunk, document, found, named, hashed, documentFound, succeeded⟩ := old
  refine ⟨key, chunk, document, finishes.chunks ▸ found, named, hashed, ?_, succeeded⟩
  rw [finishes.documents, Table.find_insert_ne (placed.other documentFound succeeded), documentFound]

theorem PreparedIngestion.Finishes.completed (placed : prepared.Placed x env s) :
    s'.Complete x prepared.documentKey (prepared.document.succeed prepared.chunks.length) := by
  obtain ⟨payload, payloadFound, listed⟩ := placed.payload
  constructor
  · refine ⟨payload, finishes.payloads ▸ payloadFound, ?_⟩
    show prepared.chunks.length = _
    rw [listed, newChunks, List.length_map, List.length_zipIdx]
  · intro ordinal content stored
    obtain ⟨document, payload', documentFound, payloadFound', at'⟩ := stored
    rw [finishes.documents, Table.find_insert_self] at documentFound
    cases documentFound
    rw [finishes.payloads] at payloadFound'
    rw [show (prepared.document.succeed prepared.chunks.length).ingestionJobId =
      prepared.document.ingestionJobId from rfl, payloadFound] at payloadFound'
    cases payloadFound'
    have member : (⟨env.uuid ordinal, prepared.documentKey, ordinal, content⟩ : DocumentChunk) ∈ prepared.chunks := by
      rw [listed]
      exact mem_newChunks.mpr ⟨at', rfl, rfl⟩
    refine ⟨_, ?_, fun kind => ⟨_, finishes.readied placed member kind, rfl, rfl⟩⟩
    rw [finishes.chunks]
    exact placed.chunk _ member

theorem PreparedIngestion.Finishes.complete (other : prepared.documentKey ≠ id) {document : Document}
    (complete : s.Complete x id document) : s'.Complete x id document := by
  refine ⟨finishes.payloads ▸ complete.chunkCount, ?_⟩
  intro ordinal content stored
  have before : s.ingestion.HasChunk id ordinal content := by
    obtain ⟨document', payload', documentFound', payloadFound', at'⟩ := stored
    rw [finishes.documents, Table.find_insert_ne other] at documentFound'
    exact ⟨document', payload', documentFound', finishes.payloads ▸ payloadFound', at'⟩
  obtain ⟨chunk, chunkFound, ready⟩ := complete.chunk before
  refine ⟨chunk, finishes.chunks ▸ chunkFound, ?_⟩
  intro kind
  obtain ⟨view, viewFound, isReady, hashed⟩ := ready kind
  rw [finishes.manifests, viewFound]
  split
  · exact ⟨view.markReady, rfl, rfl, hashed⟩
  · exact ⟨view, rfl, isReady, hashed⟩

end

/-- The second transaction finishes its document with everything a succeeded one needs. -/
theorem OutputIntegrity.complete (valid : OutputIntegrity x s minted) (distinct : Function.Injective env.uuid)
    (placed : prepared.Placed x env s) {generation : String} {job : IngestionJob}
    (run : completeIngestion x env prepared generation s = .ok (s', job)) : OutputIntegrity x s' minted := by
  have finishes := completeIngestion_finishes placed distinct run
  constructor
  case mintedOnce => exact valid.mintedOnce
  case chunk =>
    intro key chunk found
    rw [finishes.chunks] at found
    obtain ⟨same, member, stored⟩ := valid.chunk found
    exact ⟨same, member, finishes.hasChunk placed stored⟩
  case chunkId =>
    rw [finishes.chunks]
    exact valid.chunkId
  case manifest =>
    intro kind id view found
    have keep {before : ManifestView} (old : (s.projection.manifests kind)[id]? = some before)
        (same : view.chunkId = before.chunkId ∧ view.pipelineVersion = before.pipelineVersion ∧
          view.organizationId = before.organizationId ∧ view.workspaceId = before.workspaceId) :
        view.chunkId = id ∧ view.pipelineVersion = ingestionPipelineVersion ∧
          ∃ d document, (d, id) ∈ minted ∧ s'.ingestion.documents[d]? = some document ∧
            view.organizationId = document.organizationId ∧ view.workspaceId = document.workspaceId := by
      obtain ⟨named, version, d, document, member, documentFound, organization, workspace⟩ := valid.manifest old
      obtain ⟨document', documentFound', kept⟩ := finishes.document placed documentFound
      refine ⟨same.1.trans named, same.2.1.trans version, d, document', member, documentFound', ?_, ?_⟩
      · rw [same.2.2.1, kept.organizationId, organization]
      · rw [same.2.2.2, kept.workspaceId, workspace]
    rcases finishes.manifest_cases placed found with ⟨chunk, member, rfl, rfl⟩ | old
    · exact keep (placed.manifest chunk member kind) ⟨rfl, rfl, rfl, rfl⟩
    · exact keep old ⟨rfl, rfl, rfl, rfl⟩
  case ready =>
    intro kind id view found isReady
    rcases finishes.manifest_cases placed found with ⟨chunk, member, rfl, rfl⟩ | old
    · exact finishes.own placed member
    · exact finishes.backed placed (valid.ready old isReady)
  case evidence =>
    intro key evidence found
    rcases materializeGraphChunks_evidence finishes.graph found with old | ⟨chunk, member, named, hashed⟩
    · exact finishes.backed placed (valid.evidence old)
    · rw [named, hashed]
      exact finishes.own placed member
  case succeeded =>
    intro id document found succeeded
    rw [finishes.documents, Table.find_insert] at found
    split at found
    · rename_i same
      cases found
      exact same ▸ finishes.completed placed
    · rename_i other
      exact finishes.complete other (valid.succeeded found succeeded)

end

end

end Hangar
