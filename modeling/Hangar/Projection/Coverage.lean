import Hangar.Concrete
import Hangar.Projection.Maintenance

namespace Hangar

open Lib

def Op.workspaces : Op → List (String × String)
  | .ingestion (.enqueueDocument new) => [(new.organizationId, new.workspaceId)]
  | .ingestion (.enqueueDocumentWithLimits new _) => [(new.organizationId, new.workspaceId)]
  | .projection (.rebuildVectorWorkspace organizationId workspaceId _) => [(organizationId, workspaceId)]
  | .projection (.rebuildTextWorkspace organizationId workspaceId _) => [(organizationId, workspaceId)]
  | _ => []

def namedWorkspaces (trace : List (Server × Event)) : Set (String × String) :=
  {a | ∃ p ∈ trace, a ∈ p.2.op.workspaces}

section
variable {x : Externals} {engines : SearchEngines} {env : Env} {workspaces : Set (String × String)} {s s' : Store}
  {server server' : Server} {event : Event}

theorem documents_of_moves {t t' : IngestionTables} (moves : Relation.ReflTransGen (QueueMove env) t t') {id : Uuid}
    {document' : Document} (found : t'.documents[id]? = some document') :
    ∃ document, t.documents[id]? = some document ∧ document.SameRequest document' := by
  induction moves generalizing document' with
  | refl => exact ⟨document', found, .refl⟩
  | tail _ move ih =>
    cases move with
    | write _ documentFound advance =>
      obtain ⟨middle, middleFound, same, _⟩ := QueueMove.find_document advance documentFound found
      obtain ⟨document, before, first⟩ := ih middleFound
      exact ⟨document, before, first.trans same⟩

theorem callStore_documents (valid : IngestionIntegrity x s.ingestion) {op : Op} {id : Uuid} {document' : Document}
    (found : (callStore x engines env op s).1.ingestion.documents[id]? = some document') :
    (∃ document, s.ingestion.documents[id]? = some document ∧ document.SameRequest document') ∨
      (document'.organizationId, document'.workspaceId) ∈ op.workspaces := by
  have enqueue {new : NewDocument} {f : Store → Result (Store × IngestionReceipt)}
      (same : ∀ result, f s = .ok result → enqueueDocument x env s new = .ok result)
      (found : (Program.transaction f s).1.ingestion.documents[id]? = some document') :
      (∃ document, s.ingestion.documents[id]? = some document ∧ document.SameRequest document') ∨
        (document'.organizationId, document'.workspaceId) ∈ [(new.organizationId, new.workspaceId)] := by
    revert found
    apply Program.Triple.state fun s' : Store => s'.ingestion.documents[id]? = some document' →
      (∃ document, s.ingestion.documents[id]? = some document ∧ document.SameRequest document') ∨
        (document'.organizationId, document'.workspaceId) ∈ [(new.organizationId, new.workspaceId)]
    apply Program.Triple.transaction
    · intro receipt s' run after
      obtain ⟨_, ⟨_, _, _, _, _, _, kept, _⟩ | ⟨_, written, _⟩⟩ := enqueueDocument_ok (same _ run)
      · rw [kept] at after
        exact .inl ⟨document', after, .refl⟩
      · rw [written] at after
        simp only [IngestionTables.accept, Table.find_insert] at after
        split at after
        · cases after
          exact .inr List.mem_cons_self
        · exact .inl ⟨document', after, .refl⟩
    · exact fun _ _ after => .inl ⟨document', after, .refl⟩
  by_cases plain : ∃ new, op = .ingestion (.enqueueDocument new)
  · obtain ⟨new, rfl⟩ := plain
    simp only [callStore, callIngestion, Program.discard_state] at found
    refine enqueue ?_ found
    exact fun _ run => run
  by_cases bounded : ∃ new limits, op = .ingestion (.enqueueDocumentWithLimits new limits)
  · obtain ⟨new, limits, rfl⟩ := bounded
    simp only [callStore, callIngestion, Program.discard_state] at found
    refine enqueue ?_ found
    exact fun _ run => enqueueDocumentWithLimits_ok run
  by_cases own : ∃ call, op = .ingestion call
  · obtain ⟨call, rfl⟩ := own
    left
    have moves : Relation.ReflTransGen (QueueMove env) s.ingestion (callIngestion x env call s).1.ingestion := by
      apply callIngestion_moves valid
      · exact fun new same => plain ⟨new, congrArg Op.ingestion same⟩
      · exact fun new limits same => bounded ⟨new, limits, congrArg Op.ingestion same⟩
    exact documents_of_moves moves found
  · rw [callStore_ingestion fun call same => own ⟨call, same⟩] at found
    exact .inl ⟨document', found, .refl⟩

theorem callStore_index {op : Op} (other : ∀ call, op ≠ .projection call)
    (quiet : ∀ claimed fault, op ≠ .ingestion (.processClaimedIngestionJob claimed fault)) :
    (callStore x engines env op s).1.index = s.index := by
  have transaction {α : Type} {f : Store → Result (Store × α)}
      (kept : ∀ s' a, f s = .ok (s', a) → s'.index = s.index) : (Program.transaction f s).1.index = s.index := by
    apply Program.Triple.state fun s' : Store => s'.index = s.index
    exact Program.Triple.transaction (fun a s' => kept s' a) fun _ _ => rfl
  have enqueue {new : NewDocument} {s' : Store} {receipt : IngestionReceipt}
      (run : enqueueDocument x env s new = .ok (s', receipt)) : s'.index = s.index := by
    obtain ⟨_, ⟨_, _, _, _, _, _, rfl, _⟩ | ⟨_, _, written, _⟩⟩ := enqueueDocument_ok run
    · rfl
    · rw [written]
  by_cases own : ∃ call, op = .ingestion call
  · obtain ⟨call, rfl⟩ := own
    cases call with
    | processClaimedIngestionJob claimed fault => exact absurd rfl (quiet claimed fault)
    | enqueueDocument new =>
      simp only [callStore, callIngestion, Program.discard_state]
      exact transaction fun s' receipt run => enqueue run
    | enqueueDocumentWithLimits new limits =>
      simp only [callStore, callIngestion, Program.discard_state]
      exact transaction fun s' receipt run => enqueue (enqueueDocumentWithLimits_ok run)
    | recoverIncompleteIngestionJobs =>
      simp only [callStore, callIngestion, Program.discard_state]
      apply transaction
      intro s' recovered run
      obtain ⟨documents, _, run⟩ := bind_eq_ok.mp run
      cases run
      rfl
    | claimNextIngestionJob =>
      simp only [callStore, callIngestion, Program.discard_state]
      apply transaction
      intro s' claimed run
      obtain ⟨rfl, _⟩ | ⟨_, _, _, _, _, _, _, _, _, rfl⟩ := claimNextIngestionJob_ok run
      · rfl
      · rfl
    | failClaimedIngestionJob jobId error =>
      simp only [callStore, callIngestion, Program.discard_state]
      apply transaction
      intro s' job run
      obtain ⟨_, _, _, _, _, _, written⟩ := failClaimedIngestionJob_ok run
      rw [written]
    | retryDeadLetterIngestionJob id organizationId workspaceId =>
      simp only [callStore, callIngestion, Program.discard_state]
      apply transaction
      intro s' result run
      obtain ⟨rfl, _⟩ | ⟨_, _, _, _, _, _, rfl⟩ := retryDeadLetterIngestionJob_ok run
      · rfl
      · rfl
  · apply callStore_frame (g := Store.index)
    case ingestion => exact fun call same => absurd ⟨call, same⟩ own
    case projection => exact fun call same => absurd same (other call)
    all_goals intros; rfl

theorem callStore_quiet {op : Op} (other : ∀ call, op ≠ .projection call)
    (quiet : ∀ claimed fault, op ≠ .ingestion (.processClaimedIngestionJob claimed fault)) :
    s.Quiet (callStore x engines env op s).1 := by
  have untouched {s' : Store} (ingestion : s'.ingestion = s.ingestion) (projection : s'.projection = s.projection) :
      s.Quiet s' := by
    refine ⟨?_, projection⟩
    rw [ingestion]
    exact fun found _ => found
  by_cases ingests : ∃ call, op = .ingestion call
  · obtain ⟨call, rfl⟩ := ingests
    apply callIngestion_quiet
    exact fun claimed fault same => quiet claimed fault (congrArg Op.ingestion same)
  have idle : ∀ call, op ≠ .ingestion call := fun call same => ingests ⟨call, same⟩
  exact untouched (callStore_ingestion idle) (callStore_projection idle other)

theorem callProjection_searchable {minted : List (Uuid × Uuid)} (valid : Searchable x workspaces minted s)
    (separate : SeparateFiles x workspaces) {op : ProjectionOp}
    (named : ∀ a ∈ (Op.projection op).workspaces, a ∈ workspaces) :
    KeepsSearchable x workspaces minted (callProjection x env op) s := by
  have discard {α : Type} {p : Call α} (kept : KeepsSearchable x workspaces minted p s) :
      KeepsSearchable x workspaces minted (do let _ ← p : Call Unit) s :=
    kept.bind fun _ _ kept => Program.Triple.pure kept
  cases op with
  | rebuildVectorWorkspace organizationId workspaceId fault =>
    exact discard (rebuildVectorWorkspace_searchable valid separate (named _ List.mem_cons_self))
  | rebuildTextWorkspace organizationId workspaceId fault =>
    exact discard (rebuildTextWorkspace_searchable valid (named _ List.mem_cons_self))
  | rebuildGraphWorkspace organizationId workspaceId => exact discard (rebuildGraphWorkspace_searchable valid)
  | reconcileVectorProjection faults => exact discard (reconcileVectorProjection_searchable valid separate)
  | reconcileTextProjection faults => exact discard (reconcileTextProjection_searchable valid)
  | reconcileGraphProjection => exact discard (reconcileGraphProjection_searchable valid)

theorem Step.canonical (taken : Step x engines server event server') (claims : server.ClaimsHold)
    (canonical : Canonical x workspaces server.minted server.store) (named : ∀ a ∈ event.op.workspaces, a ∈ workspaces) :
    Canonical x workspaces server'.minted server'.store := by
  refine ⟨taken.integrity canonical.records, taken.output canonical.records claims canonical.output,
    taken.annKeys canonical.records canonical.keys, ?_⟩
  intro id document found
  rw [taken.next] at found
  rcases callStore_documents canonical.records found with ⟨before, beforeFound, same⟩ | own
  · rw [same.organizationId, same.workspaceId]
    exact canonical.within id before beforeFound
  · exact named _ own

theorem Step.searchable (taken : Step x engines server event server') (claims : server.ClaimsHold)
    (valid : Searchable x workspaces server.minted server.store) (separate : SeparateFiles x workspaces)
    (named : ∀ a ∈ event.op.workspaces, a ∈ workspaces) :
    Searchable x workspaces server'.minted server'.store := by
  have after := taken.canonical claims valid.canonical named
  by_cases processes : ∃ claimed fault, event.op = .ingestion (.processClaimedIngestionJob claimed fault)
  · obtain ⟨claimed, fault, same⟩ := processes
    have permitted := taken.permitted
    rw [taken.next]
    unfold Server.next
    rw [same] at permitted ⊢
    obtain ⟨_, _, _, payload⟩ := claims claimed permitted
    have kept := @processClaimedIngestionJob_searchable x event.env fault workspaces server.minted server.store valid
      separate taken.fresh.distinct taken.fresh.unminted claimed payload
    apply Program.Triple.state (Searchable x workspaces (server.minted ++ _))
    exact kept.bind fun _ _ kept => Program.Triple.pure kept
  by_cases projects : ∃ call, event.op = .projection call
  · obtain ⟨call, same⟩ := projects
    rw [taken.next]
    unfold Server.next
    rw [same] at named ⊢
    rw [show (Op.projection call).mints event.env = [] from rfl, List.append_nil]
    exact Program.Triple.state (Searchable x workspaces server.minted) (callProjection_searchable valid separate named)
  · have other : ∀ call, event.op ≠ .projection call := fun call same => projects ⟨call, same⟩
    have quiet : ∀ claimed fault, event.op ≠ .ingestion (.processClaimedIngestionJob claimed fault) :=
      fun claimed fault same => processes ⟨claimed, fault, same⟩
    have index : server'.store.index = server.store.index := by
      rw [taken.next]
      exact callStore_index other quiet
    have still : server.store.Quiet server'.store := by
      rw [taken.next]
      exact callStore_quiet other quiet
    apply valid.carry _ after
    apply Store.Carries.of_tables index still.unfinished
    all_goals rw [still.projection]

theorem Searchable.initial {provider : EmbeddingProvider} :
    Searchable x workspaces (Server.initial provider).minted (Server.initial provider).store := by
  refine ⟨⟨.empty, .empty, .empty, ?_⟩, ⟨?_, ?_⟩, fun _ => ⟨?_, ?_, ?_⟩⟩
  all_goals simp [Server.initial, Store.empty, activeTextGeneration]

theorem run_searchable {provider : EmbeddingProvider} {trace : List (Server × Event)}
    (run : Run (Step x engines) (Server.initial provider) trace server)
    (separate : SeparateFiles x (namedWorkspaces trace)) :
    Searchable x (namedWorkspaces trace) server.minted server.store := by
  have both := run.preserves
    (I := fun server => server.ClaimsHold ∧ Searchable x (namedWorkspaces trace) server.minted server.store)
    ⟨fun _ member => (nomatch member), .initial⟩ fun p member server' holds taken => by
      obtain ⟨claims, valid⟩ := holds
      refine ⟨taken.claims valid.canonical.records claims, ?_⟩
      exact taken.searchable claims valid separate fun a named => ⟨p, member, named⟩
  exact both.2

theorem TextFiles.cleanup_keeps (texts : TextFiles x workspaces s) {key : String} {record : TextGeneration}
    (active : s.projection.textActiveGenerations[key]? = some record) :
    (cleanupTextGenerations x s).1.index.text[generationPath x record.organizationId record.workspaceId
      record.generation]? = s.index.text[generationPath x record.organizationId record.workspaceId
      record.generation]? := by
  have kept := @isStale_active x s key record (texts.named key record active) active
  show (s.index.text.filter fun path _ => !WorkspaceTextIndex.isStale (activePaths x s) path)[_]? = _
  rw [Table.find_filter]
  cases s.index.text[generationPath x record.organizationId record.workspaceId record.generation]? with
  | none => rfl
  | some entries => simp [kept]

structure Store.Covered (x : Externals) (s : Store) (organizationId workspaceId : String) : Prop where
  text : (∃ (id : Uuid) (document : Document), s.ingestion.documents[id]? = some document ∧
      document.organizationId = organizationId ∧ document.workspaceId = workspaceId ∧
      document.ingestionStatus = .succeeded) →
    ∃ record entries, activeTextGeneration x organizationId workspaceId s = some record ∧
      record.organizationId = organizationId ∧ record.workspaceId = workspaceId ∧
      s.index.text[generationPath x organizationId workspaceId record.generation]? = some entries ∧
      s.CoversText organizationId workspaceId entries
  vector : ∀ (id : Uuid) (manifest : VectorManifest), s.projection.vectorManifests[id]? = some manifest →
    manifest.organizationId = organizationId → manifest.workspaceId = workspaceId → manifest.state = .ready →
    s.embeddingProvider.matches manifest = true → ∃ chunk entries vector, s.StoresChunk id chunk ∧
      s.index.vectors[indexPath x organizationId workspaceId s.embeddingProvider.profile]? = some entries ∧
      x.embed s.embeddingProvider chunk.content = .ok vector ∧ (entries.map Prod.fst).Nodup ∧
      (manifest.annKey, vector) ∈ entries
  cleanup : ∀ record, activeTextGeneration x organizationId workspaceId s = some record →
    (cleanupTextGenerations x s).1.index.text[generationPath x record.organizationId record.workspaceId
      record.generation]? = s.index.text[generationPath x record.organizationId record.workspaceId
      record.generation]?

theorem Searchable.vector_of_manifest {minted : List (Uuid × Uuid)} (valid : Searchable x workspaces minted s)
    {provider : EmbeddingProvider} {entries : List (Nat × List ℚ)} {id : Uuid} {manifest : VectorManifest}
    (found : s.projection.vectorManifests[id]? = some manifest)
    (stored : s.index.vectors[indexPath x manifest.organizationId manifest.workspaceId provider.profile]? =
      some entries) {chunk : DocumentChunk} (chunkStored : s.StoresChunk id chunk) {vector : List ℚ}
    (member : (manifest.annKey, vector) ∈ entries) : x.embed provider chunk.content = .ok vector := by
  have view := find_vectorView found
  have here := valid.canonical.workspace_of_manifest view
  obtain ⟨_, own⟩ := valid.vectors.entries provider _ here entries stored
  obtain ⟨id', manifest', found', organization, workspace, key, _, embedded⟩ := own _ member
  have scope : annScope x manifest' = annScope x manifest := by
    rw [annScope, annScope, organization, workspace]
    rfl
  have same := valid.canonical.keys.distinct found' found scope key
  subst same
  exact embedded chunk chunkStored

theorem Searchable.vector_covered {minted : List (Uuid × Uuid)} (valid : Searchable x workspaces minted s) {id : Uuid}
    {manifest : VectorManifest} (found : s.projection.vectorManifests[id]? = some manifest)
    (ready : manifest.state = .ready) {provider : EmbeddingProvider} (matched : provider.matches manifest = true) :
    ∃ chunk entries vector, s.StoresChunk id chunk ∧
      s.index.vectors[indexPath x manifest.organizationId manifest.workspaceId provider.profile]? = some entries ∧
      x.embed provider chunk.content = .ok vector ∧ (entries.map Prod.fst).Nodup ∧
      (manifest.annKey, vector) ∈ entries := by
  have view := find_vectorView found
  have isReady : manifest.view.ready = true := by simp [VectorManifest.view, ready]
  obtain ⟨chunk, chunkStored, _⟩ := valid.canonical.findsChunk view isReady
  obtain ⟨entries, stored, vector, member⟩ := valid.vectors.ready id manifest _ found ready matched
  have here := valid.canonical.workspace_of_manifest view
  obtain ⟨distinct, _⟩ := valid.vectors.entries _ _ here entries stored
  have embedded := valid.vector_of_manifest found stored chunkStored member
  exact ⟨chunk, entries, vector, chunkStored, stored, embedded, distinct, member⟩

theorem Searchable.covered {minted : List (Uuid × Uuid)} (valid : Searchable x workspaces minted s)
    (separate : SeparateGenerations x workspaces) (organizationId workspaceId : String) :
    s.Covered x organizationId workspaceId where
  text := by
    intro finished
    obtain ⟨id, document, found, rfl, rfl, succeeded⟩ := finished
    have texts := valid.texts separate
    obtain ⟨record, active⟩ := texts.recorded id document found succeeded
    have here := valid.canonical.within id document found
    obtain ⟨organization, workspace, _, entries, stored, covers⟩ := texts.active _ here record active
    exact ⟨record, entries, active, organization, workspace, stored, covers⟩
  vector := by
    intro id manifest found organization workspace ready matched
    subst organization workspace
    exact valid.vector_covered found ready matched
  cleanup := fun _ active => (valid.texts separate).cleanup_keeps active

/-- Whatever a run does to its jobs and projections, every workspace stays covered. -/
theorem projections_cover_ready {provider : EmbeddingProvider} {trace : List (Server × Event)}
    (run : Run (Step x engines) (Server.initial provider) trace server)
    (files : SeparateFiles x (namedWorkspaces trace)) (generations : SeparateGenerations x (namedWorkspaces trace))
    (organizationId workspaceId : String) : server.store.Covered x organizationId workspaceId :=
  (run_searchable run files).covered generations organizationId workspaceId

theorem indexScope_provider {organizationId workspaceId organizationId' workspaceId' : String}
    {provider provider' : EmbeddingProvider} (same : indexScope organizationId workspaceId provider.profile =
      indexScope organizationId' workspaceId' provider'.profile) : provider = provider' := by
  have last := congrArg (fun text : String => text.toList.reverse.head?) same
  have hashing : toString 128 = "128" := by decide
  have multilingual : toString 384 = "384" := by decide
  cases provider <;> cases provider' <;>
    simp [indexScope, EmbeddingProvider.profile, String.toList_append, hashing, multilingual] at last ⊢

/-- Where digests do not collide, workspaces whose ids are joined to different texts have files of their own. -/
theorem separateFiles_of_apart (digests : Function.Injective x.sha256)
    (apart : ∀ a ∈ workspaces, ∀ b ∈ workspaces, a ≠ b → Apart a.1 a.2 b.1 b.2) : SeparateFiles x workspaces := by
  intro a here b there provider provider' same
  have scopes : indexScope a.1 a.2 provider.profile = indexScope b.1 b.2 provider'.profile := by
    apply Externals.sha256Text_injective digests
    exact HexText.ext (String.append_left_inj _ |>.mp same)
  have providers := indexScope_provider scopes
  subst providers
  refine ⟨?_, rfl⟩
  by_contra different
  exact (apart a here b there different).colon (indexScope_eq_iff.mp scopes)

theorem separateGenerations_of_apart (digests : Function.Injective x.sha256)
    (apart : ∀ a ∈ workspaces, ∀ b ∈ workspaces, a ≠ b → Apart a.1 a.2 b.1 b.2) :
    SeparateGenerations x workspaces := by
  intro a here b there same
  by_contra different
  exact (apart a here b there different).zero ((textGenerationKey_eq_iff digests).mp same)

end

def mixedCalls : List (Nat × Op) :=
  [(1, .ingestion (.enqueueDocument labDocument)), (2, .ingestion .claimNextIngestionJob),
    (3, .ingestion (.processClaimedIngestionJob labClaim none)),
    (4, .ingestion (.enqueueDocument (sampleDocument "acme" "ops" "beta" none)))]

def mixedServer : Server := freshRun sample noHits mixedCalls

theorem serialTrace_apart {x : Externals} {engines : SearchEngines} {server : Server} {first : Nat}
    {calls : List (Nat × Op)} (apart : ∀ call ∈ calls, ∀ a ∈ call.2.workspaces, ∀ call' ∈ calls,
      ∀ b ∈ call'.2.workspaces, a ≠ b → Apart a.1 a.2 b.1 b.2) :
    ∀ a ∈ namedWorkspaces (serialTrace x engines server first calls),
      ∀ b ∈ namedWorkspaces (serialTrace x engines server first calls), a ≠ b → Apart a.1 a.2 b.1 b.2 := by
  have named {a : String × String} (member : a ∈ namedWorkspaces (serialTrace x engines server first calls)) :
      ∃ call ∈ calls, a ∈ call.2.workspaces := by
    obtain ⟨p, listed, own⟩ := member
    obtain ⟨call, called, same⟩ := mem_serialTrace listed
    exact ⟨call, called, same ▸ own⟩
  intro a here b there
  obtain ⟨call, called, own⟩ := named here
  obtain ⟨call', called', own'⟩ := named there
  exact apart call called a own call' called' b own'

theorem projections_cover_ready_lab : (Table.rows mixedServer.store.ingestion.documents).map Document.ingestionStatus =
    [.succeeded, .queued] ∧ mixedServer.store.Covered sample "acme" "lab:x" := by
  have legal : SerialLegal sample noHits (Server.initial .hashingV1) 0 mixedCalls := by decide +kernel
  have apart := @serialTrace_apart sample noHits (Server.initial .hashingV1) 0 mixedCalls (by decide +kernel)
  exact ⟨by decide +kernel, projections_cover_ready (serialRun_run legal)
    (separateFiles_of_apart sample_injective apart)
    (separateGenerations_of_apart sample_injective apart) "acme" "lab:x"⟩

end Hangar
