import Hangar.Ingestion.Leases
import Hangar.Projection.Scopes

namespace Hangar

open Lib

structure Acceptance where
  documentId : Uuid
  organizationId : String
  workspaceId : String
  content : String
deriving DecidableEq

def NewDocument.acceptance (new : NewDocument) : Result (Store × IngestionReceipt) → Option Acceptance
  | .ok (_, receipt) =>
    if receipt.deduplicated then none
    else some ⟨receipt.document.id, new.organizationId, new.workspaceId, new.content⟩
  | .error _ => none

/-- The document that a call accepts, unless it was stored before. -/
def Op.acceptance (x : Externals) (env : Env) (s : Store) : Op → Option Acceptance
  | .ingestion (.enqueueDocument new) => new.acceptance (enqueueDocument x env s new)
  | .ingestion (.enqueueDocumentWithLimits new limits) =>
    new.acceptance (enqueueDocumentWithLimits x env s new limits)
  | _ => none

def acceptances (x : Externals) (trace : List (Server × Event)) : List Acceptance :=
  trace.filterMap fun p => p.2.op.acceptance x p.2.env p.1.store

def ExportDocument.acceptance (exported : ExportDocument) : Acceptance :=
  ⟨exported.document.id, exported.document.organizationId, exported.document.workspaceId, exported.content⟩

def IngestionTables.Holds (t : IngestionTables) (accepted : Acceptance) : Prop :=
  ∃ document payload, t.documents[accepted.documentId]? = some document ∧
    document.organizationId = accepted.organizationId ∧ document.workspaceId = accepted.workspaceId ∧
    t.payloads[document.ingestionJobId]? = some payload ∧ payload.content = accepted.content

variable {x : Externals} {engines : SearchEngines} {env : Env} {s s' : Store} {t t' : IngestionTables} {id : Uuid}
  {accepted : Acceptance}

theorem QueueMove.holds_iff (move : QueueMove env t t') : t'.Holds accepted ↔ t.Holds accepted := by
  cases move with
  | @write job job' document document' key jobFound documentFound advance =>
    have same := advance.document_sameRequest
    unfold IngestionTables.Holds
    dsimp only
    rw [Table.find_insert]
    by_cases own : job.documentId = accepted.documentId
    · rw [if_pos own, ← own, documentFound]
      constructor
      · rintro ⟨_, payload, ⟨⟩, organization, workspace, payloadFound, content⟩
        rw [same.ingestionJobId] at payloadFound
        exact ⟨document, payload, rfl, same.organizationId.symm.trans organization,
          same.workspaceId.symm.trans workspace, payloadFound, content⟩
      · rintro ⟨_, payload, ⟨⟩, organization, workspace, payloadFound, content⟩
        rw [← same.ingestionJobId] at payloadFound
        exact ⟨document', payload, rfl, same.organizationId.trans organization, same.workspaceId.trans workspace,
          payloadFound, content⟩
    · rw [if_neg own]

theorem IngestionTables.holds_accept (valid : IngestionIntegrity x t) {new : NewDocument}
    (jobFresh : t.jobs[env.uuid 0]? = none) (documentFresh : t.documents[env.uuid 1]? = none) :
    (t.accept x env new).Holds accepted ↔
      t.Holds accepted ∨ accepted = ⟨env.uuid 1, new.organizationId, new.workspaceId, new.content⟩ := by
  have other {document : Document} (found : t.documents[accepted.documentId]? = some document) :
      env.uuid 0 ≠ document.ingestionJobId := by
    intro same
    obtain ⟨job, jobFound, _⟩ := valid.job found
    rw [← same, jobFresh] at jobFound
    cases jobFound
  unfold IngestionTables.Holds IngestionTables.accept
  dsimp only
  rw [Table.find_insert]
  by_cases own : env.uuid 1 = accepted.documentId
  · rw [if_pos own, ← own, documentFresh]
    constructor
    · rintro ⟨_, payload, ⟨⟩, organization, workspace, payloadFound, content⟩
      right
      have first : (newDocument x env new).ingestionJobId = env.uuid 0 := rfl
      rw [first, Table.find_insert_self] at payloadFound
      cases payloadFound
      obtain ⟨documentId, organizationId, workspaceId, text⟩ := accepted
      dsimp only at own organization workspace content
      subst own content
      rw [← organization, ← workspace]
      rfl
    · rintro (⟨_, _, absent, _⟩ | rfl)
      · cases absent
      · exact ⟨_, ⟨new.content⟩, rfl, rfl, rfl, Table.find_insert_self, rfl⟩
  · rw [if_neg own]
    constructor
    · rintro ⟨document, payload, found, organization, workspace, payloadFound, content⟩
      rw [Table.find_insert_ne (other found)] at payloadFound
      exact .inl ⟨document, payload, found, organization, workspace, payloadFound, content⟩
    · rintro (⟨document, payload, found, organization, workspace, payloadFound, content⟩ | rfl)
      · refine ⟨document, payload, found, organization, workspace, ?_, content⟩
        rw [Table.find_insert_ne (other found)]
        exact payloadFound
      · exact absurd rfl own

theorem NewDocument.acceptance_eq_some {new : NewDocument} {outcome : Result (Store × IngestionReceipt)}
    (accepts : new.acceptance outcome = some accepted) : ∃ s' receipt, outcome = .ok (s', receipt) ∧
      receipt.deduplicated = false ∧
      accepted = ⟨receipt.document.id, new.organizationId, new.workspaceId, new.content⟩ := by
  cases outcome with
  | error _ => cases accepts
  | ok result =>
    obtain ⟨s', receipt⟩ := result
    unfold NewDocument.acceptance at accepts
    dsimp only at accepts
    split at accepts
    · cases accepts
    · rename_i fresh
      cases accepts
      exact ⟨s', receipt, rfl, Bool.not_eq_true _ ▸ fresh, rfl⟩

variable (engines) in
/-- What a call accepts is what it adds to the tables. -/
theorem acceptance_eq_some {op : Op} (accepts : op.acceptance x env s = some accepted) :
    ∃ new, accepted = ⟨env.uuid 1, new.organizationId, new.workspaceId, new.content⟩ ∧
      (callStore x engines env op s).1.ingestion = s.ingestion.accept x env new := by
  have fresh {new : NewDocument} {s' : Store} {receipt : IngestionReceipt}
      (run : enqueueDocument x env s new = .ok (s', receipt)) (new' : receipt.deduplicated = false) :
      receipt.document.id = env.uuid 1 ∧ s'.ingestion = s.ingestion.accept x env new := by
    obtain ⟨_, ⟨_, _, _, _, _, _, _, rfl⟩ | ⟨_, written, _, rfl⟩⟩ := enqueueDocument_ok run
    · cases new'
    · exact ⟨rfl, written⟩
  cases op with
  | ingestion call =>
    cases call with
    | enqueueDocument new =>
      obtain ⟨s', receipt, run, new', rfl⟩ := NewDocument.acceptance_eq_some accepts
      obtain ⟨id, written⟩ := fresh run new'
      refine ⟨new, by rw [id], ?_⟩
      rw [← written]
      exact congrArg Store.ingestion (transaction_of_ok (f := fun s => enqueueDocument x env s new) run)
    | enqueueDocumentWithLimits new limits =>
      obtain ⟨s', receipt, run, new', rfl⟩ := NewDocument.acceptance_eq_some accepts
      obtain ⟨id, written⟩ := fresh (enqueueDocumentWithLimits_ok run) new'
      refine ⟨new, by rw [id], ?_⟩
      rw [← written]
      exact congrArg Store.ingestion (transaction_of_ok (f := fun s => enqueueDocumentWithLimits x env s new limits) run)
    | _ => cases accepts
  | _ => cases accepts

theorem acceptance_of_accept {op : Op} (accepts : op.action x env s id = some .accept) :
    ∃ accepted, op.acceptance x env s = some accepted := by
  have single {action : TaskAction} {c : Prop} [Decidable c] (other : action ≠ .accept) :
      (if c then some action else none) ≠ some TaskAction.accept := by
    split <;> simp [other]
  have enqueued {new : NewDocument} {s' : Store} {receipt : IngestionReceipt} (accepts : receipt.accepts id = some .accept) :
      ∃ accepted, new.acceptance (.ok (s', receipt)) = some accepted := by
    unfold IngestionReceipt.accepts at accepts
    split at accepts
    · rename_i fresh
      rw [Bool.and_eq_true, Bool.not_eq_true'] at fresh
      exact ⟨_, if_neg (by simp [fresh.1])⟩
    · cases accepts
  cases op with
  | ingestion call =>
    cases call with
    | enqueueDocument new =>
      simp only [Op.action] at accepts
      obtain ⟨s', receipt, run, accepted⟩ := told_eq_some accepts
      simp only [Op.acceptance, run]
      exact enqueued accepted
    | enqueueDocumentWithLimits new limits =>
      simp only [Op.action] at accepts
      obtain ⟨s', receipt, run, accepted⟩ := told_eq_some accepts
      simp only [Op.acceptance, run]
      exact enqueued accepted
    | recoverIncompleteIngestionJobs => exact absurd accepts (told_ne fun _ => single (by simp))
    | claimNextIngestionJob =>
      refine absurd accepts (told_ne fun claimed => ?_)
      cases claimed with
      | none => simp
      | some claimed => exact single (by simp)
    | processClaimedIngestionJob claimed fault => exact absurd accepts (single (by simp))
    | failClaimedIngestionJob jobId error => exact absurd accepts (told_ne fun _ => single (by simp))
    | retryDeadLetterIngestionJob key organizationId workspaceId =>
      refine absurd accepts (told_ne fun revived => ?_)
      cases revived with
      | none => simp
      | some job => exact single (by simp)
  | _ => cases accepts

section
variable {server server' : Server} {event : Event} {trace : List (Server × Event)} {provider : EmbeddingProvider}

theorem Step.holds_iff (taken : Step x engines server event server') (valid : IngestionIntegrity x server.store.ingestion) :
    server'.store.ingestion.Holds accepted ↔ server.store.ingestion.Holds accepted ∨
      event.op.acceptance x event.env server.store = some accepted := by
  have jobFresh := taken.fresh.job_unused 0
  have documentFresh := taken.fresh.document_unused 1
  cases accepts : event.op.acceptance x event.env server.store with
  | some own =>
    obtain ⟨new, rfl, written⟩ := acceptance_eq_some engines accepts
    rw [taken.next]
    change (callStore x engines event.env event.op server.store).1.ingestion.Holds accepted ↔ _
    rw [written, IngestionTables.holds_accept valid jobFresh documentFresh, Option.some.injEq]
    exact or_congr_right eq_comm
  | none =>
    rw [or_iff_left (by simp)]
    have takes := @Step.takes _ _ (event.env.uuid 0) _ _ _ taken valid
    have step := taken.queue valid
    unfold Store.task at takes
    generalize server'.store.ingestion = t' at step takes ⊢
    cases step with
    | accept new _ _ =>
      exfalso
      rw [jobFresh, show (server.store.ingestion.accept x event.env new).jobs[event.env.uuid 0]? = _ from
        Table.find_insert_self] at takes
      cases acts : event.op.action x event.env server.store (event.env.uuid 0) with
      | none =>
        rw [acts] at takes
        cases takes
      | some action =>
        rw [acts] at takes
        obtain ⟨_, acts', _⟩ := takes
        cases acts'
        obtain ⟨own, found⟩ := acceptance_of_accept acts
        rw [accepts] at found
        cases found
    | moves moves =>
      clear takes
      induction moves with
      | refl => exact Iff.rfl
      | tail _ move ih => exact move.holds_iff.trans ih

theorem Step.accepts_fresh (taken : Step x engines server event server')
    (accepts : event.op.acceptance x event.env server.store = some accepted) :
    server.store.ingestion.documents[accepted.documentId]? = none := by
  obtain ⟨new, rfl, _⟩ := acceptance_eq_some engines accepts
  exact taken.fresh.document_unused 1

/-- The tables hold the documents that the run accepted, each accepted once. -/
structure IngestionTables.Records (t : IngestionTables) (log : List Acceptance) : Prop where
  holds : ∀ accepted, accepted ∈ log ↔ t.Holds accepted
  once : (log.map Acceptance.documentId).Nodup

theorem Step.records (taken : Step x engines server event server') (valid : IngestionIntegrity x server.store.ingestion)
    {log : List Acceptance} (records : server.store.ingestion.Records log) : server'.store.ingestion.Records
      (log ++ (event.op.acceptance x event.env server.store).toList) where
  holds accepted := by
    rw [List.mem_append, Option.mem_toList, records.holds accepted, taken.holds_iff valid]
  once := by
    cases accepts : event.op.acceptance x event.env server.store with
    | none => simpa using records.once
    | some own =>
      rw [Option.toList_some, List.map_append, List.map_singleton, List.nodup_append]
      refine ⟨records.once, List.nodup_singleton _, ?_⟩
      intro id earlier id' last same
      obtain ⟨accepted, member, rfl⟩ := List.mem_map.mp earlier
      obtain ⟨document, _, found, _⟩ := (records.holds accepted).mp member
      rw [same, List.mem_singleton.mp last, taken.accepts_fresh accepts] at found
      cases found

theorem acceptances_next : acceptances x (trace ++ [(server, event)]) =
    acceptances x trace ++ (event.op.acceptance x event.env server.store).toList := by
  cases accepts : event.op.acceptance x event.env server.store <;> simp [acceptances, accepts]

theorem run_records (run : Run (Step x engines) (Server.initial provider) trace server) :
    IngestionIntegrity x server.store.ingestion ∧ server.store.ingestion.Records (acceptances x trace) := by
  induction run with
  | start =>
    refine ⟨.empty, ?_, List.nodup_nil⟩
    intro accepted
    simp [acceptances, IngestionTables.Holds, Server.initial, Store.empty]
  | next _ taken ih =>
    refine ⟨taken.integrity ih.1, ?_⟩
    have records := taken.records ih.1 ih.2
    rw [acceptances_next]
    exact records

variable {organizationId workspaceId : String}

def exportDocument (s : Store) (document : Document) : Result ExportDocument := do
  let payload ← documentPayload s document
  return { document := document, content := payload.content }

theorem exportDocument_eq_ok {document : Document} {exported : ExportDocument} :
    exportDocument s document = .ok exported ↔ exported.document = document ∧ ∃ payload,
      s.ingestion.payloads[document.ingestionJobId]? = some payload ∧ exported.content = payload.content := by
  unfold exportDocument documentPayload
  simp only [bind_eq_ok, context_eq_ok, pure_eq_ok]
  constructor
  · rintro ⟨payload, found, rfl⟩
    exact ⟨rfl, payload, found, rfl⟩
  · obtain ⟨own, content⟩ := exported
    rintro ⟨rfl, payload, found, rfl⟩
    exact ⟨payload, found, rfl⟩

theorem mem_scopedDocuments {document : Document} : document ∈ scopedDocuments organizationId workspaceId s ↔
    (∃ id : Uuid, s.ingestion.documents[id]? = some document) ∧ document.organizationId = organizationId ∧
      document.workspaceId = workspaceId := by
  rw [scopedDocuments, List.mem_filter, Table.mem_rows, inScope_iff]

theorem scopedDocuments_ordered (valid : IngestionIntegrity x s.ingestion) :
    (scopedDocuments organizationId workspaceId s).Pairwise fun left right => compare left.id right.id = .lt := by
  apply List.Pairwise.filter
  apply Table.ordered_rows
  intro id id' document document' found found' before
  rw [valid.documentId found, valid.documentId found']
  exact before

theorem exportWorkspace_ok {bundle : ExportBundle} :
    exportWorkspace organizationId workspaceId s env = .ok bundle ↔ ensureScope organizationId workspaceId = .ok () ∧
      ∃ documents, (scopedDocuments organizationId workspaceId s).mapM (exportDocument s) = .ok documents ∧
      bundle = {
        format := "hangar.workspace.export.v1"
        organizationId := organizationId
        workspaceId := workspaceId
        exportedAtUnixMs := env.now
        retrievedContentIsUntrusted := true
        memories := scopedMemories organizationId workspaceId s
        documents := documents
        skills := (Table.rows s.catalog.agentSkills).filter fun skill =>
          inScope organizationId workspaceId skill.organizationId skill.workspaceId
        guardrailPolicies := (Table.rows s.catalog.guardrailPolicies).filter fun policy =>
          inScope organizationId workspaceId policy.organizationId policy.workspaceId } := by
  show (ensureScope organizationId workspaceId >>= fun _ => (scopedDocuments organizationId workspaceId s).mapM
    (exportDocument s) >>= fun documents => _) = _ ↔ _
  simp only [bind_eq_ok, pure_eq_ok]
  constructor
  · rintro ⟨⟨⟩, scope, documents, listed, rfl⟩
    exact ⟨scope, documents, listed, rfl⟩
  · rintro ⟨scope, documents, listed, rfl⟩
    exact ⟨(), scope, documents, listed, rfl⟩

/-- An export lists exactly the documents accepted for its workspace in the whole run, by their ids and each once, with
    the texts that were accepted and that the documents' digests are of. -/
theorem export_lists_acceptances (run : Run (Step x engines) (Server.initial provider) trace server) (env : Env)
    (scope : ensureScope organizationId workspaceId = .ok ()) :
    ∃ bundle, exportWorkspace organizationId workspaceId server.store env = .ok bundle ∧
      (bundle.documents.map ExportDocument.acceptance).Perm ((acceptances x trace).filter fun accepted =>
        inScope organizationId workspaceId accepted.organizationId accepted.workspaceId) ∧
      (bundle.documents.Pairwise fun left right => compare left.document.id right.document.id = .lt) ∧
      ∀ exported ∈ bundle.documents, exported.document.contentSha256 = x.sha256Text exported.content := by
  obtain ⟨valid, records⟩ := run_records run
  have payloads : ∀ document ∈ scopedDocuments organizationId workspaceId server.store, ∃ exported,
      exportDocument server.store document = .ok exported := by
    intro document member
    obtain ⟨id, stored⟩ := Table.mem_rows.mp (List.mem_filter.mp member).1
    obtain ⟨payload, found⟩ := documentPayload_found valid stored
    exact ⟨_, bind_of_ok found⟩
  obtain ⟨documents, listed⟩ := mapM_succeeds payloads
  have same : documents.map ExportDocument.document = scopedDocuments organizationId workspaceId server.store := by
    have read := mapM_map (h := id) (fun _ _ made => (exportDocument_eq_ok.mp made).1) listed
    rw [read, List.map_id]
  have ordered : documents.Pairwise fun left right => compare left.document.id right.document.id = .lt := by
    have rows := @scopedDocuments_ordered x server.store organizationId workspaceId valid
    rw [← same, List.pairwise_map] at rows
    exact rows
  refine ⟨_, exportWorkspace_ok.mpr ⟨scope, documents, listed, rfl⟩, ?_, ?_, ?_⟩
  · rw [List.perm_ext_iff_of_nodup]
    · intro accepted
      rw [List.mem_filter, records.holds, inScope_iff, List.mem_map]
      constructor
      · rintro ⟨exported, member, rfl⟩
        obtain ⟨document, inside, made⟩ := mapM_source listed member
        obtain ⟨rfl, payload, payloadFound, content⟩ := exportDocument_eq_ok.mp made
        obtain ⟨⟨id, stored⟩, own⟩ := mem_scopedDocuments.mp inside
        refine ⟨⟨exported.document, payload, ?_, rfl, rfl, payloadFound, content.symm⟩, own⟩
        show server.store.ingestion.documents[exported.document.id]? = _
        rw [valid.documentId stored]
        exact stored
      · rintro ⟨⟨document, payload, stored, organization, workspace, payloadFound, content⟩, own⟩
        rw [← organization, ← workspace] at own
        obtain ⟨exported, member, made⟩ := mapM_result listed (mem_scopedDocuments.mpr ⟨⟨_, stored⟩, own⟩)
        obtain ⟨rfl, payload', payloadFound', text⟩ := exportDocument_eq_ok.mp made
        rw [payloadFound] at payloadFound'
        cases payloadFound'
        refine ⟨exported, member, ?_⟩
        obtain ⟨documentId, organizationId, workspaceId, written⟩ := accepted
        unfold ExportDocument.acceptance
        rw [valid.documentId stored, organization, workspace, text, content]
    · apply List.Nodup.of_map Acceptance.documentId
      rw [List.map_map, List.Nodup, List.pairwise_map]
      apply ordered.imp
      intro left right before equal
      rw [show left.document.id = right.document.id from equal, Std.LawfulEqOrd.compare_eq_iff_eq.mpr rfl] at before
      cases before
    · exact (List.Nodup.of_map _ records.once).filter _
  · exact ordered
  · intro exported member
    obtain ⟨document, inside, made⟩ := mapM_source listed member
    obtain ⟨rfl, payload, payloadFound, content⟩ := exportDocument_eq_ok.mp made
    obtain ⟨⟨id, stored⟩, _⟩ := mem_scopedDocuments.mp inside
    obtain ⟨job, jobFound, owned⟩ := valid.job stored
    obtain ⟨document', stored', _, _, digest, _⟩ := valid.document jobFound
    obtain ⟨payload', payloadFound', hashed⟩ := valid.payload jobFound
    rw [owned, stored] at stored'
    cases stored'
    rw [payloadFound] at payloadFound'
    cases payloadFound'
    rw [digest, content, hashed]

end

/-- Two documents are accepted for a workspace, one of them asked for again, and one for another workspace. -/
def acceptedCalls : List (Nat × Op) :=
  [(1, enqueueAlpha), (2, enqueueAlpha), (3, .ingestion (.enqueueDocument (sampleDocument "acme" "lab" "beta" none))),
    (4, .ingestion (.enqueueDocument (sampleDocument "acme" "ops" "alpha" none)))]

def acceptedTrace : List (Server × Event) := serialTrace sample noHits (Server.initial .hashingV1) 0 acceptedCalls

theorem export_lists_acceptances_lab : ∃ bundle,
    exportWorkspace "acme" "lab" (freshRun sample noHits acceptedCalls).store (serialEnv 5 64) = .ok bundle ∧
      (bundle.documents.map ExportDocument.acceptance).Perm
        [⟨serialUuid 1, "acme", "lab", "alpha"⟩, ⟨serialUuid 33, "acme", "lab", "beta"⟩] ∧
      (bundle.documents.Pairwise fun left right => compare left.document.id right.document.id = .lt) ∧
      ∀ exported ∈ bundle.documents, exported.document.contentSha256 = sample.sha256Text exported.content := by
  have facts : SerialLegal sample noHits (Server.initial .hashingV1) 0 acceptedCalls ∧
      (acceptances sample acceptedTrace).filter (fun accepted =>
        inScope "acme" "lab" accepted.organizationId accepted.workspaceId) =
          [⟨serialUuid 1, "acme", "lab", "alpha"⟩, ⟨serialUuid 33, "acme", "lab", "beta"⟩] := by decide +kernel
  obtain ⟨legal, accepted⟩ := facts
  have scope : ensureScope "acme" "lab" = .ok () := by decide
  obtain ⟨bundle, exported, same, ordered, digests⟩ :=
    export_lists_acceptances (serialRun_run legal) (serialEnv 5 64) scope
  exact ⟨bundle, exported, accepted ▸ same, ordered, digests⟩

end Hangar
