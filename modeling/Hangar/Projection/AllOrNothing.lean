import Hangar.Projection.Isolation
import Hangar.Projection.Output

namespace Hangar

open Lib

variable {x : Externals} {engines : SearchEngines} {env : Env} {s s' : Store} {t t' : IngestionTables}
  {server server' : Server} {event : Event}

theorem QueueMove.succeeded (valid : IngestionIntegrity x t) (move : QueueMove env t t') {id : Uuid}
    {document : Document} (found : t.documents[id]? = some document)
    (succeeded : document.ingestionStatus = .succeeded) : t'.documents[id]? = some document := by
  cases move with
  | @write job job' moved moved' key jobFound documentFound advance =>
    have other : job.documentId ≠ id := by
      rintro rfl
      obtain ⟨own, ownFound, _, status, _⟩ := valid.document jobFound
      rw [found] at ownFound
      cases ownFound
      exact advance.not_succeeded (status.symm.trans succeeded)
    exact (Table.find_insert_ne other).trans found

theorem Step.succeeded (taken : Step x engines server event server')
    (valid : IngestionIntegrity x server.store.ingestion) {id : Uuid} {document : Document}
    (found : server.store.ingestion.documents[id]? = some document)
    (succeeded : document.ingestionStatus = .succeeded) :
    server'.store.ingestion.documents[id]? = some document := by
  have step := taken.queue valid
  have unused := taken.fresh.document_unused 1
  generalize server'.store.ingestion = t' at step ⊢
  cases step with
  | accept new _ _ =>
    have other : event.env.uuid 1 ≠ id := by
      rintro rfl
      rw [found] at unused
      cases unused
    exact (Table.find_insert_ne other).trans found
  | moves moves =>
    have both : IngestionIntegrity x t' ∧ t'.documents[id]? = some document := by
      induction moves with
      | refl => exact ⟨valid, found⟩
      | tail _ move ih => exact ⟨ih.1.move move, move.succeeded ih.1 ih.2 succeeded⟩
    exact both.2

theorem Env.Fresh.unminted (fresh : env.Fresh server) (i : Nat) (d : Uuid) : (d, env.uuid i) ∉ server.minted := by
  intro member
  exact fresh.unused i (.inr (.inr (.inl ⟨d, member⟩)))

theorem Step.output (taken : Step x engines server event server')
    (records : IngestionIntegrity x server.store.ingestion) (claims : server.ClaimsHold)
    (valid : OutputIntegrity x server.store server.minted) : OutputIntegrity x server'.store server'.minted := by
  have effect := @callStore_effect x engines event.env server.store records event.op
  have extended := taken.extends records
  have succeeded := @Step.succeeded x engines server server' event taken records
  have permitted := taken.permitted
  have store : server'.store = (callStore x engines event.env event.op server.store).1 := by rw [taken.next]; rfl
  have minted : server'.minted = server.minted ++ event.op.mints event.env := by rw [taken.next]; rfl
  rw [store] at extended succeeded
  rw [store, minted]
  generalize (callStore x engines event.env event.op server.store).1 = s' at effect extended succeeded
  obtain ⟨env, op⟩ := event
  have fresh := taken.fresh
  have minting := @OutputIntegrity.mint x env server.store server.minted valid
  dsimp only at effect fresh permitted minting ⊢
  have drawn : OutputIntegrity x server.store (server.minted ++ op.mints env) := by
    unfold Op.mints
    split
    · exact minting fresh.unminted
    · rw [List.append_nil]
      exact valid
  cases effect with
  | @process claimed fault _ effect =>
    obtain ⟨job, jobFound, owned, payload⟩ := claims claimed permitted
    cases effect with
    | none same => exact drawn.records same
    | prepared first same =>
      have prepared := valid.prepare records fresh.distinct fresh.unminted payload first
      exact prepared.1.records same
    | completed first between second same =>
      have prepared := valid.prepare records fresh.distinct fresh.unminted payload first
      have middle := prepared.1.records between
      have placed := prepared.2.records between
      exact (middle.complete fresh.distinct placed second).records same
  | project moves => exact drawn.reprojects records moves
  | queue _ quiet =>
    exact drawn.queue quiet.projection extended quiet.unfinished fun _ _ found done => succeeded found done

theorem Reachable.output (reachable : Reachable x engines server) :
    OutputIntegrity x server.store server.minted := by
  obtain ⟨provider, reached⟩ := reachable
  have all := reached.preserves
    (I := fun server => IngestionIntegrity x server.store.ingestion ∧ server.ClaimsHold ∧
      OutputIntegrity x server.store server.minted)
    ⟨.empty, fun _ member => (nomatch member), .empty⟩
    fun _ _ _ holds taken => ⟨taken.integrity holds.1, taken.claims holds.1 holds.2.1,
      taken.output holds.1 holds.2.1 holds.2.2⟩
  exact all.2.2

def Server.ChunkOf (server : Server) (documentId id : Uuid) : Prop :=
  (documentId, id) ∈ server.minted ∨ ∃ (key : Uuid × Nat) (chunk : DocumentChunk),
    server.store.projection.chunks[key]? = some chunk ∧ chunk.documentId = documentId ∧ chunk.id = id

def Store.ReadyManifest (s : Store) (kind : ProjectionKind) (id : Uuid) (row : Uuid × ManifestView) : Prop :=
  (s.projection.manifests kind)[row.1]? = some row.2 ∧ row.2.chunkId = id ∧ row.2.ready = true

/-- The document's chunks are those of its payload, each of them is ready once in every projection, and no
    other chunk of the document is ready in any. -/
structure Server.Published (x : Externals) (server : Server) (document : Document) : Prop where
  payload : ∃ payload, server.store.ingestion.payloads[document.ingestionJobId]? = some payload ∧
    document.chunkCount = (chunkText payload.content maximumChunkChars).length ∧
    ∀ ordinal : Nat, server.store.projection.chunks[(document.id, ordinal)]?.map DocumentChunk.content =
      (chunkText payload.content maximumChunkChars)[ordinal]?
  placed : ∀ {key : Uuid × Nat} {chunk : DocumentChunk}, server.store.projection.chunks[key]? = some chunk →
    (key.1 = document.id ↔ chunk.documentId = document.id) ∧ key.2 = chunk.ordinal
  ready : ∀ {ordinal : Nat} {chunk : DocumentChunk},
    server.store.projection.chunks[(document.id, ordinal)]? = some chunk → ∀ kind,
      (∃! row, server.store.ReadyManifest kind chunk.id row) ∧
        ∀ row, server.store.ReadyManifest kind chunk.id row → row.2.sourceSha256 = x.sha256Text chunk.content
  only : ∀ {id : Uuid}, server.ChunkOf document.id id → ∀ kind row, server.store.ReadyManifest kind id row →
    ∃ (ordinal : Nat) (chunk : DocumentChunk),
      server.store.projection.chunks[(document.id, ordinal)]? = some chunk ∧ chunk.id = id

/-- No chunk of the document is ready or cited, and no retrieval returns one, whatever the indexes answer. -/
structure Server.Hidden (x : Externals) (server : Server) (documentId : Uuid) : Prop where
  manifest : ∀ {id : Uuid}, server.ChunkOf documentId id → ∀ kind row, ¬ server.store.ReadyManifest kind id row
  evidence : ∀ {id : Uuid}, server.ChunkOf documentId id → ∀ (key : Uuid × Uuid) (evidence : GraphEdgeEvidence),
    server.store.projection.graph.edgeEvidence[key]? = some evidence → evidence.chunkId ≠ id
  chunks : ∀ (engines : SearchEngines) (organizationId workspaceId query : String) (limit : Nat) results,
    retrieveChunks x engines organizationId workspaceId query limit server.store = .ok results →
      ∀ result ∈ results, result.documentId ≠ documentId
  graph : ∀ (organizationId workspaceId query : String) (limit maxHops : Nat) results,
    retrieveGraph x organizationId workspaceId query limit maxHops server.store = .ok results →
      ∀ result ∈ results, result.documentId ≠ documentId

structure Server.SamePublication (server later : Server) (document : Document) : Prop where
  stored : later.store.ingestion.documents[document.id]? = some document
  chunks : ∀ ordinal : Nat, later.store.projection.chunks[(document.id, ordinal)]? =
    server.store.projection.chunks[(document.id, ordinal)]?
  manifests : ∀ {id : Uuid}, server.ChunkOf document.id id → ∀ kind,
    (later.store.projection.manifests kind)[id]? = (server.store.projection.manifests kind)[id]?

theorem Server.ChunkOf.minted {documentId id : Uuid} (chunk : server.ChunkOf documentId id)
    (valid : OutputIntegrity x server.store server.minted) : (documentId, id) ∈ server.minted := by
  rcases chunk with member | ⟨key, chunk, found, rfl, rfl⟩
  · exact member
  · exact (valid.chunk found).2.1

theorem Store.Backed.chunkOf {minted : List (Uuid × Uuid)} {documentId id : Uuid} {hash : HexText}
    (backed : s.Backed x id hash) (valid : OutputIntegrity x s minted) (member : (documentId, id) ∈ minted) :
    ∃ (ordinal : Nat) (chunk : DocumentChunk) (document : Document),
      s.projection.chunks[(documentId, ordinal)]? = some chunk ∧ chunk.id = id ∧
        s.ingestion.documents[documentId]? = some document ∧ document.ingestionStatus = .succeeded := by
  obtain ⟨key, chunk, document, found, named, _, documentFound, succeeded⟩ := backed
  obtain ⟨same, drawn, _⟩ := valid.chunk found
  rw [named] at drawn
  have owner := valid.mintedOnce drawn member
  rw [owner] at same
  subst same
  exact ⟨chunk.ordinal, chunk, document, found, named, documentFound, succeeded⟩

theorem OutputIntegrity.chunkAt {minted : List (Uuid × Uuid)} (valid : OutputIntegrity x s minted)
    {documentId : Uuid} {ordinal : Nat} {chunk : DocumentChunk}
    (found : s.projection.chunks[(documentId, ordinal)]? = some chunk) :
    s.ingestion.HasChunk documentId ordinal chunk.content := by
  obtain ⟨same, _, stored⟩ := valid.chunk found
  rw [Prod.mk.injEq] at same
  rw [same.1, same.2]
  exact stored

theorem OutputIntegrity.published (valid : OutputIntegrity x server.store server.minted)
    (records : IngestionIntegrity x server.store.ingestion) {id : Uuid} {document : Document}
    (found : server.store.ingestion.documents[id]? = some document)
    (succeeded : document.ingestionStatus = .succeeded) : server.Published x document := by
  have named := records.documentId found
  subst named
  have complete := valid.succeeded found succeeded
  obtain ⟨payload, payloadFound, counted⟩ := complete.chunkCount
  constructor
  case payload =>
    refine ⟨payload, payloadFound, counted, ?_⟩
    intro ordinal
    cases listed : (chunkText payload.content maximumChunkChars)[ordinal]? with
    | none =>
      rw [Option.map_eq_none_iff]
      cases stored : server.store.projection.chunks[(document.id, ordinal)]? with
      | none => rfl
      | some chunk =>
        obtain ⟨document', payload', documentFound, payloadFound', at'⟩ := valid.chunkAt stored
        rw [found] at documentFound
        cases documentFound
        rw [payloadFound] at payloadFound'
        cases payloadFound'
        rw [listed] at at'
        cases at'
    | some content =>
      have stored : server.store.ingestion.HasChunk document.id ordinal content :=
        ⟨document, payload, found, payloadFound, listed⟩
      obtain ⟨chunk, chunkFound, _⟩ := complete.chunk stored
      rw [chunkFound, Option.map_some, (valid.chunkAt chunkFound).unique stored]
  case placed =>
    intro key chunk stored
    have same := (valid.chunk stored).1
    rw [same]
    exact ⟨Iff.rfl, rfl⟩
  case ready =>
    intro ordinal chunk stored kind
    obtain ⟨chunk', chunkFound, ready⟩ := complete.chunk (valid.chunkAt stored)
    rw [stored] at chunkFound
    cases chunkFound
    obtain ⟨view, viewFound, isReady, hashed⟩ := ready kind
    have only : ∀ row, server.store.ReadyManifest kind chunk.id row → row = (chunk.id, view) := by
      intro row other
      obtain ⟨rowFound, owner, _⟩ := other
      have key := (valid.manifest rowFound).1
      rw [owner] at key
      rw [← key, viewFound] at rowFound
      exact Prod.ext key.symm (Option.some.inj rowFound).symm
    constructor
    · exact ⟨(chunk.id, view), ⟨viewFound, (valid.manifest viewFound).1, isReady⟩, only⟩
    · intro row other
      rw [only row other]
      exact hashed
  case only =>
    intro id owned kind row ready
    obtain ⟨rowFound, owner, isReady⟩ := ready
    have key := (valid.manifest rowFound).1
    have backed := valid.ready rowFound isReady
    rw [← key, owner] at backed
    obtain ⟨ordinal, chunk, _, chunkFound, same, _⟩ := backed.chunkOf valid (owned.minted valid)
    exact ⟨ordinal, chunk, chunkFound, same⟩

/-- Every result of `retrieve_chunks` is of a succeeded document. -/
theorem retrieveChunks_succeeded (records : IngestionIntegrity x s.ingestion)
    {organizationId workspaceId query : String} {limit : Nat} {results : List RetrievedChunk}
    (run : retrieveChunks x engines organizationId workspaceId query limit s = .ok results) {result : RetrievedChunk}
    (member : result ∈ results) : ∃ document, s.ingestion.documents[result.documentId]? = some document ∧
      document.ingestionStatus = .succeeded := by
  obtain ⟨_, _, run⟩ := bind_eq_ok.mp run
  obtain ⟨candidates, _, run⟩ := bind_eq_ok.mp run
  cases run
  have listed := (List.mem_insertionSort _).mp (List.mem_of_mem_take member)
  obtain ⟨unscored, unscoredListed, rfl⟩ := List.mem_map.mp listed
  obtain ⟨chunk, _, retrieved⟩ := List.mem_filterMap.mp unscoredListed
  unfold retrievedChunk at retrieved
  obtain ⟨document, found, retrieved⟩ := Option.bind_eq_some_iff.mp retrieved
  split at retrieved
  · rename_i allowed
    rw [Bool.and_eq_true, beq_iff_eq] at allowed
    dsimp only at retrieved
    split at retrieved
    · cases retrieved
      refine ⟨document, ?_, allowed.2⟩
      show s.ingestion.documents[document.id]? = some document
      rw [records.documentId found]
      exact found
    · cases retrieved
  · cases retrieved

theorem retrieveGraph_succeeded (records : IngestionIntegrity x s.ingestion)
    {organizationId workspaceId query : String} {limit maxHops : Nat} {results : List GraphResult}
    (run : retrieveGraph x organizationId workspaceId query limit maxHops s = .ok results) {result : GraphResult}
    (member : result ∈ results) : ∃ document, s.ingestion.documents[result.documentId]? = some document ∧
      document.ingestionStatus = .succeeded := by
  obtain ⟨_, _, run⟩ := bind_eq_ok.mp run
  cases run
  have listed := (List.mem_insertionSort _).mp (List.mem_of_mem_take member)
  obtain ⟨candidate, _, retrieved⟩ := List.mem_filterMap.mp listed
  unfold graphResult at retrieved
  obtain ⟨chunk, _, retrieved⟩ := Option.bind_eq_some_iff.mp retrieved
  obtain ⟨document, found, retrieved⟩ := Option.bind_eq_some_iff.mp retrieved
  obtain ⟨manifest, _, retrieved⟩ := Option.bind_eq_some_iff.mp retrieved
  split at retrieved
  · rename_i allowed
    simp only [Bool.and_eq_true, beq_iff_eq] at allowed
    obtain ⟨edge, _, retrieved⟩ := Option.bind_eq_some_iff.mp retrieved
    obtain ⟨source, _, retrieved⟩ := Option.bind_eq_some_iff.mp retrieved
    obtain ⟨target, _, retrieved⟩ := Option.bind_eq_some_iff.mp retrieved
    cases retrieved
    have stored := documentsById_find records found
    refine ⟨document, ?_, allowed.1.1.1.2⟩
    show s.ingestion.documents[document.id]? = some document
    rw [records.documentId stored]
    exact stored
  · cases retrieved

theorem OutputIntegrity.hidden (valid : OutputIntegrity x server.store server.minted)
    (records : IngestionIntegrity x server.store.ingestion) {id : Uuid} {document : Document}
    (found : server.store.ingestion.documents[id]? = some document)
    (unfinished : document.ingestionStatus ≠ .succeeded) : server.Hidden x id := by
  have absent {stored : Document} (storedFound : server.store.ingestion.documents[id]? = some stored)
      (succeeded : stored.ingestionStatus = .succeeded) : False := by
    rw [found] at storedFound
    cases storedFound
    exact unfinished succeeded
  have unbacked {chunkId : Uuid} {hash : HexText} (owned : server.ChunkOf id chunkId)
      (backed : server.store.Backed x chunkId hash) : False := by
    obtain ⟨_, _, stored, _, _, storedFound, succeeded⟩ := backed.chunkOf valid (owned.minted valid)
    exact absent storedFound succeeded
  constructor
  case manifest =>
    intro chunkId owned kind row ready
    obtain ⟨rowFound, owner, isReady⟩ := ready
    have backed := valid.ready rowFound isReady
    rw [← (valid.manifest rowFound).1, owner] at backed
    exact unbacked owned backed
  case evidence =>
    intro chunkId owned key evidence evidenceFound same
    have backed := valid.evidence evidenceFound
    rw [same] at backed
    exact unbacked owned backed
  case chunks =>
    intro engines organizationId workspaceId query limit results run result member same
    obtain ⟨stored, storedFound, succeeded⟩ := retrieveChunks_succeeded records run member
    rw [same] at storedFound
    exact absent storedFound succeeded
  case graph =>
    intro organizationId workspaceId query limit maxHops results run result member same
    obtain ⟨stored, storedFound, succeeded⟩ := retrieveGraph_succeeded records run member
    rw [same] at storedFound
    exact absent storedFound succeeded

structure Store.Retains (s s' : Store) (minted : List (Uuid × Uuid)) (documentId : Uuid) : Prop where
  chunks : ∀ ordinal : Nat, s'.projection.chunks[(documentId, ordinal)]? = s.projection.chunks[(documentId, ordinal)]?
  manifests : ∀ {id : Uuid}, (documentId, id) ∈ minted → ∀ kind,
    (s'.projection.manifests kind)[id]? = (s.projection.manifests kind)[id]?

theorem Store.Retains.of_projection {minted : List (Uuid × Uuid)} {documentId : Uuid}
    (same : s'.projection = s.projection) : s.Retains s' minted documentId := by
  constructor
  · intro ordinal
    rw [same]
  · intro id _ kind
    rw [same]

theorem Store.Retains.of_records {minted : List (Uuid × Uuid)} {documentId : Uuid} (same : s'.records = s.records) :
    s.Retains s' minted documentId := by
  exact Store.Retains.of_projection (Store.projection_of_records same)

theorem Store.Retains.trans {s'' : Store} {minted : List (Uuid × Uuid)} {documentId : Uuid}
    (first : s.Retains s' minted documentId) (second : s'.Retains s'' minted documentId) :
    s.Retains s'' minted documentId := by
  constructor
  · intro ordinal
    rw [second.chunks, first.chunks]
  · intro id member kind
    rw [second.manifests member, first.manifests member]

theorem Reprojection.retains (step : Reprojection x env s s') {minted : List (Uuid × Uuid)} {documentId : Uuid} :
    s.Retains s' minted documentId := by
  cases step with
  | keep _ projection => exact .of_projection projection
  | graph _ _ _ _ _ projection =>
    constructor
    · intro ordinal
      rw [projection]
    · intro id _ kind
      rw [projection]
      cases kind <;> rfl
  | activate _ _ _ _ projection =>
    constructor
    · intro ordinal
      rw [projection]
      rfl
    · intro id _ kind
      rw [projection]
      cases kind <;> rfl

/-- The first transaction writes rows of its own document and manifests of ids not drawn before. -/
theorem prepareIngestion_retains {minted : List (Uuid × Uuid)} (records : IngestionIntegrity x s.ingestion)
    (distinct : Function.Injective env.uuid) (unminted : ∀ i d, (d, env.uuid i) ∉ minted)
    {claimed : ClaimedIngestionJob} {prepared : PreparedIngestion} {id : Uuid} {document : Document}
    (run : prepareIngestion x env claimed s = .ok (s', prepared))
    (found : s.ingestion.documents[id]? = some document) (succeeded : document.ingestionStatus = .succeeded) :
    s.Retains s' minted id := by
  obtain ⟨job, own, projection, vectors, _, jobFound, processing, ownFound, matched, projected, rfl, rfl⟩ :=
    prepareIngestion_ok run
  have unfinished := prepared_unfinished records jobFound processing ownFound matched
  have named : own.id = claimed.job.documentId := records.documentId ownFound
  have other : id ≠ own.id := by
    rintro rfl
    rw [named, ownFound] at found
    cases found
    exact unfinished succeeded
  generalize chunkText claimed.content maximumChunkChars = contents at projected
  constructor
  · intro ordinal
    exact prepareProjection_otherChunks projected other
  · intro chunkId member kind
    apply (prepareProjection_manifests (newChunks_distinct distinct) projected kind).2
    intro drawn
    obtain ⟨chunk, listed, same⟩ := List.mem_map.mp drawn
    rw [← same] at member
    exact newChunks_id_unminted unminted listed _ member

theorem completeIngestion_retains {minted : List (Uuid × Uuid)} (distinct : Function.Injective env.uuid)
    (unminted : ∀ i d, (d, env.uuid i) ∉ minted) {prepared : PreparedIngestion} (placed : prepared.Placed x env s)
    {generation : String} {job : IngestionJob} {documentId : Uuid}
    (run : completeIngestion x env prepared generation s = .ok (s', job)) : s.Retains s' minted documentId := by
  have finishes := completeIngestion_finishes placed distinct run
  obtain ⟨payload, _, listed⟩ := placed.payload
  constructor
  · intro ordinal
    rw [finishes.chunks]
  · intro id member kind
    have foreign : id ∉ prepared.chunks.map DocumentChunk.id := by
      intro drawn
      obtain ⟨chunk, own, same⟩ := List.mem_map.mp drawn
      rw [listed] at own
      rw [← same] at member
      exact newChunks_id_unminted unminted own _ member
    rw [finishes.manifests, if_neg foreign]

theorem Step.retains (taken : Step x engines server event server')
    (records : IngestionIntegrity x server.store.ingestion) (claims : server.ClaimsHold)
    (valid : OutputIntegrity x server.store server.minted) {id : Uuid} {document : Document}
    (found : server.store.ingestion.documents[id]? = some document)
    (succeeded : document.ingestionStatus = .succeeded) :
    server.store.Retains server'.store server.minted id := by
  have effect := @callStore_effect x engines event.env server.store records event.op
  have store : server'.store = (callStore x engines event.env event.op server.store).1 := by rw [taken.next]; rfl
  have permitted := taken.permitted
  have distinct := taken.fresh.distinct
  have unminted := taken.fresh.unminted
  rw [store]
  generalize (callStore x engines event.env event.op server.store).1 = s' at effect
  obtain ⟨env, op⟩ := event
  dsimp only at effect permitted distinct unminted
  cases effect with
  | @process claimed fault _ effect =>
    obtain ⟨_, _, _, payload⟩ := claims claimed permitted
    cases effect with
    | none same => exact .of_records same
    | prepared first same =>
      exact (prepareIngestion_retains records distinct unminted first found succeeded).trans (.of_records same)
    | completed first between second same =>
      have placed := (valid.prepare records distinct unminted payload first).2.records between
      have start := prepareIngestion_retains records distinct unminted first found succeeded
      have finish : Store.Retains _ _ server.minted id := completeIngestion_retains distinct unminted placed second
      exact ((start.trans (.of_records between)).trans finish).trans (.of_records same)
  | project moves =>
    induction moves with
    | refl => exact .of_projection rfl
    | tail _ step ih => exact ih.trans step.retains
  | queue _ quiet => exact .of_projection quiet.projection

theorem Step.minted (taken : Step x engines server event server') {entry : Uuid × Uuid}
    (member : entry ∈ server.minted) : entry ∈ server'.minted := by
  rw [taken.next]
  exact List.mem_append_left _ member

theorem Reaches.samePublication (records : IngestionIntegrity x server.store.ingestion) (claims : server.ClaimsHold)
    (valid : OutputIntegrity x server.store server.minted) {document : Document} {later : Server}
    (found : server.store.ingestion.documents[document.id]? = some document)
    (succeeded : document.ingestionStatus = .succeeded) (reached : Reaches (Step x engines) server later) :
    server.SamePublication later document := by
  have all := reached.preserves
    (I := fun later => IngestionIntegrity x later.store.ingestion ∧ later.ClaimsHold ∧
      OutputIntegrity x later.store later.minted ∧ (∀ entry ∈ server.minted, entry ∈ later.minted) ∧
      later.store.ingestion.documents[document.id]? = some document ∧
      server.store.Retains later.store server.minted document.id)
    ⟨records, claims, valid, fun _ member => member, found, .of_projection rfl⟩
    fun before event after holds taken => by
      obtain ⟨records, claims, valid, grown, stored, kept⟩ := holds
      have step := taken.retains records claims valid stored succeeded
      refine ⟨taken.integrity records, taken.claims records claims, taken.output records claims valid,
        fun entry member => taken.minted (grown entry member), taken.succeeded records stored succeeded, ?_⟩
      constructor
      · intro ordinal
        rw [step.chunks, kept.chunks]
      · intro id member kind
        rw [step.manifests (grown _ member), kept.manifests member]
  obtain ⟨_, _, _, _, stored, kept⟩ := all
  exact ⟨stored, kept.chunks, fun owned => kept.manifests (owned.minted valid)⟩

/-- A document is published whole and for good, or nothing of it shows. -/
theorem ingestion_all_or_nothing (reachable : Reachable x engines server) {id : Uuid} {document : Document}
    (found : server.store.ingestion.documents[id]? = some document) :
    (document.ingestionStatus = .succeeded ∧ server.Published x document ∧
      ∀ later, Reaches (Step x engines) server later →
        later.Published x document ∧ server.SamePublication later document) ∨
    (document.ingestionStatus ≠ .succeeded ∧ server.Hidden x id) := by
  have records := reachable.integrity
  have output := reachable.output
  by_cases succeeded : document.ingestionStatus = .succeeded
  · left
    refine ⟨succeeded, output.published records found succeeded, ?_⟩
    intro later reached
    have named := records.documentId found
    subst named
    have same := Reaches.samePublication records reachable.claims output found succeeded reached
    obtain ⟨provider, before⟩ := reachable
    have after : Reachable x engines later := ⟨provider, before.trans reached⟩
    exact ⟨after.output.published after.integrity same.stored succeeded, same⟩
  · right
    exact ⟨succeeded, output.hidden records found succeeded⟩

theorem ingestion_all_or_nothing_lab : ∃ document,
    labServer.store.ingestion.documents[(serialEnv 1 0).uuid 1]? = some document ∧
      labServer.Published sample document := by
  have reachable : Reachable sample noHits labServer := freshRun_reachable (by decide +kernel)
  have status : (labServer.store.ingestion.documents[(serialEnv 1 0).uuid 1]?).map Document.ingestionStatus =
      some .succeeded := by decide +kernel
  obtain ⟨document, found, succeeded⟩ := Option.map_eq_some_iff.mp status
  refine ⟨document, found, ?_⟩
  rcases ingestion_all_or_nothing reachable found with ⟨_, published, _⟩ | ⟨unfinished, _⟩
  · exact published
  · exact absurd succeeded unfinished

end Hangar
