import Hangar.Concrete
import Hangar.Ingestion.Failures
import Hangar.Ingestion.History

namespace Hangar

open Lib

def missingRecordMessages : List String :=
  ["ingestion deduplication record references a missing job", "ingestion job references a missing document",
    "ingestion job not found", "ingestion document not found", "ingestion job payload is missing",
    "document references a missing ingestion payload"]

def Failure.IsMissingRecord (e : Failure) : Prop := ∃ message ∈ missingRecordMessages, e = .check message

variable {x : Externals} {engines : SearchEngines} {env : Env} {fault : Option Fault} {s s' : Store}
  {organizationId workspaceId : String}

section
variable (valid : IngestionIntegrity x s.ingestion)
include valid

theorem documentPayload_found {id : Uuid} {document : Document}
    (stored : s.ingestion.documents[id]? = some document) : ∃ payload, documentPayload s document = .ok payload := by
  obtain ⟨job, jobFound, _⟩ := valid.job stored
  obtain ⟨payload, payloadFound, _⟩ := valid.payload jobFound
  exact ⟨payload, context_eq_ok.mpr payloadFound⟩

theorem documentPayload_avoids {document : Document}
    (member : document ∈ scopedDocuments organizationId workspaceId s) :
    Avoids Failure.IsMissingRecord (documentPayload s document) := by
  obtain ⟨id, stored⟩ := Table.mem_rows.mp (List.mem_filter.mp member).1
  obtain ⟨payload, payloadFound⟩ := documentPayload_found valid stored
  rw [payloadFound]
  exact Avoids.ok

theorem workspaceUsage_avoids :
    Avoids Failure.IsMissingRecord (workspaceUsage organizationId workspaceId s) := by
  have scope : Avoids Failure.IsMissingRecord (ensureScope organizationId workspaceId) :=
    (check_avoids (by decide)).bind fun _ _ => check_avoids (by decide)
  refine scope.bind fun _ _ => ?_
  refine Avoids.bind (Avoids.foldlM fun document member total => ?_) fun _ _ => Avoids.pure
  exact (documentPayload_avoids valid member).bind fun _ _ => Avoids.pure

theorem exportWorkspace_avoids :
    Avoids Failure.IsMissingRecord (exportWorkspace organizationId workspaceId s env) := by
  have scope : Avoids Failure.IsMissingRecord (ensureScope organizationId workspaceId) :=
    (check_avoids (by decide)).bind fun _ _ => check_avoids (by decide)
  refine scope.bind fun _ _ => ?_
  refine Avoids.bind (Avoids.mapM fun document member => ?_) fun _ _ => Avoids.pure
  exact (documentPayload_avoids valid member).bind fun _ _ => Avoids.pure

theorem existingJobId_found {new : NewDocument} {id : Uuid}
    (existing : existingJobId x s.ingestion new = some id) : ∃ job, s.ingestion.jobs[id]? = some job := by
  rcases existingJobId_eq_some existing with ⟨key, _, stored⟩ | stored
  · obtain ⟨job, _, jobFound, _⟩ := valid.idempotency stored
    exact ⟨job, jobFound⟩
  · obtain ⟨job, jobFound, _⟩ := valid.deduplication stored
    exact ⟨job, jobFound⟩

theorem enqueueDocument_avoids {new : NewDocument} :
    Avoids Failure.IsMissingRecord (enqueueDocument x env s new) := by
  have validate : Avoids Failure.IsMissingRecord new.validate := by
    unfold NewDocument.validate
    refine (check_avoids (by decide)).bind fun _ _ => (check_avoids (by decide)).bind fun _ _ => ?_
    refine (check_avoids (by decide)).bind fun _ _ => (check_avoids (by decide)).bind fun _ _ => ?_
    cases new.idempotencyKey with
    | some key => exact (check_avoids (by decide)).bind fun _ _ => check_avoids (by decide)
    | none => exact Avoids.pure
  refine validate.bind fun _ _ => ?_
  cases existing : existingJobId x s.ingestion new with
  | none => exact Avoids.ok
  | some id =>
    obtain ⟨job, jobFound⟩ := existingJobId_found valid existing
    obtain ⟨document, documentFound, _⟩ := valid.document jobFound
    refine (found_avoids fun absent => ?_).bind fun stored storedFound => ?_
    · simp [jobFound] at absent
    rw [context_eq_ok, jobFound] at storedFound
    cases storedFound
    refine (found_avoids fun absent => ?_).bind fun _ _ => Avoids.pure
    simp [documentFound] at absent

theorem enqueueDocumentWithLimits_avoids {new : NewDocument} {limits : WorkspaceLimits} :
    Avoids Failure.IsMissingRecord (enqueueDocumentWithLimits x env s new limits) := by
  unfold enqueueDocumentWithLimits
  split
  · refine Avoids.bind ?_ fun _ _ => enqueueDocument_avoids valid
    refine (check_avoids (by decide)).bind fun _ _ => (workspaceUsage_avoids valid).bind fun _ _ => ?_
    exact (check_avoids (by decide)).bind fun _ _ => check_avoids (by decide)
  · exact enqueueDocument_avoids valid

theorem claimNextIngestionJob_total : ∃ result, claimNextIngestionJob env s = .ok result := by
  unfold claimNextIngestionJob
  cases candidate : s.ingestion.jobs.toList.find? fun entry => entry.2.eligible env with
  | none => exact ⟨_, rfl⟩
  | some entry =>
    obtain ⟨key, job⟩ := entry
    have stored := List.mem_of_find?_eq_some candidate
    rw [Std.ExtTreeMap.mem_toList_iff_getElem?_eq_some] at stored
    obtain ⟨document, documentFound, _⟩ := valid.document stored
    obtain ⟨payload, payloadFound, _⟩ := valid.payload stored
    refine bind_succeeds (context_eq_ok.mpr documentFound) ?_
    exact bind_succeeds (context_eq_ok.mpr payloadFound) ⟨_, rfl⟩

theorem recoverIncompleteIngestionJobs_total : ∃ result, recoverIncompleteIngestionJobs env s = .ok result := by
  have loop := @foldlM_succeeds Failure (Uuid × IngestionJob) (Table Uuid Document)
    (fun documents => ∀ id, id ∈ s.ingestion.documents → id ∈ documents)
    (fun (documents : Table Uuid Document) entry => do
      let document ← found documents[entry.2.documentId]? "ingestion document not found"
      return documents.insert entry.2.documentId { document with ingestionStatus := .queued })
    (s.ingestion.jobs.toList.filter fun entry => entry.2.status == .processing) ?_ s.ingestion.documents
    fun _ member => member
  · obtain ⟨documents, run, _⟩ := loop
    exact ⟨_, bind_of_ok run⟩
  · intro entry member documents present
    have stored := (List.mem_filter.mp member).1
    rw [Std.ExtTreeMap.mem_toList_iff_getElem?_eq_some] at stored
    obtain ⟨document, documentFound, _⟩ := valid.document stored
    have kept := present _ (Std.ExtTreeMap.mem_iff_isSome_getElem?.mpr (by rw [documentFound]; rfl))
    obtain ⟨current, currentFound⟩ := Option.isSome_iff_exists.mp (Std.ExtTreeMap.mem_iff_isSome_getElem?.mp kept)
    refine ⟨_, bind_of_ok (context_eq_ok.mpr currentFound), ?_⟩
    intro id inside
    exact Std.ExtTreeMap.mem_insert.mpr (.inr (present id inside))

end

theorem processClaimedIngestionJob_avoids (valid : IngestionIntegrity x s.ingestion)
    {claimed : ClaimedIngestionJob} {job : IngestionJob}
    (jobFound : s.ingestion.jobs[claimed.job.id]? = some job)
    (owned : job.documentId = claimed.job.documentId) :
    Avoids Failure.IsMissingRecord (processClaimedIngestionJob x env fault claimed s).2 := by
  obtain ⟨document, documentFound, _⟩ := valid.document jobFound
  rw [owned] at documentFound
  refine processClaimedIngestionJob_avoids_of (by decide) (by decide) ?_
  refine (check_avoids (by decide)).bind fun _ _ => ?_
  refine (found_avoids fun absent => ?_).bind fun _ _ => ?_
  · simp [jobFound] at absent
  refine (check_avoids (by decide)).bind fun _ _ => ?_
  refine (found_avoids fun absent => ?_).bind fun _ _ => ?_
  · simp [documentFound] at absent
  refine (check_avoids (by decide)).bind fun _ _ => ?_
  exact (prepareProjection_avoids (by decide)).bind fun _ _ => Avoids.pure

/-- No state of a run lets a call fail for want of a job, a document or a payload. -/
structure NoMissingRecord (x : Externals) (server : Server) : Prop where
  enqueue : ∀ env new, Avoids Failure.IsMissingRecord (enqueueDocument x env server.store new)
  enqueueWithLimits : ∀ env new limits,
    Avoids Failure.IsMissingRecord (enqueueDocumentWithLimits x env server.store new limits)
  claim : ∀ env, Avoids Failure.IsMissingRecord (claimNextIngestionJob env server.store)
  process : ∀ env fault, ∀ claimed ∈ server.claimed,
    Avoids Failure.IsMissingRecord (processClaimedIngestionJob x env fault claimed server.store).2
  recover : ∀ env, Avoids Failure.IsMissingRecord (recoverIncompleteIngestionJobs env server.store)
  usage : ∀ organizationId workspaceId,
    Avoids Failure.IsMissingRecord (workspaceUsage organizationId workspaceId server.store)
  exported : ∀ organizationId workspaceId env,
    Avoids Failure.IsMissingRecord (exportWorkspace organizationId workspaceId server.store env)

theorem IngestionIntegrity.content_unique {t : IngestionTables} (valid : IngestionIntegrity x t) {id id' : Uuid}
    {document document' : Document} (found : t.documents[id]? = some document)
    (found' : t.documents[id']? = some document')
    (organization : document.organizationId = document'.organizationId)
    (workspace : document.workspaceId = document'.workspaceId)
    (content : document.contentSha256 = document'.contentSha256) : id = id' := by
  obtain ⟨job, jobFound, owned⟩ := valid.job found
  obtain ⟨job', jobFound', owned'⟩ := valid.job found'
  obtain ⟨own, ownFound, _, _, hash, org, work⟩ := valid.document jobFound
  obtain ⟨own', ownFound', _, _, hash', org', work'⟩ := valid.document jobFound'
  rw [owned, found] at ownFound
  rw [owned', found'] at ownFound'
  cases ownFound
  cases ownFound'
  have stored := valid.deduplicated jobFound
  have stored' := valid.deduplicated jobFound'
  rw [← org, ← work, ← hash, organization, workspace, content] at stored
  rw [← org', ← work', ← hash', stored] at stored'
  have same := Option.some.inj stored'
  rw [same, jobFound'] at jobFound
  cases jobFound
  exact owned.symm.trans owned'

/-- In every state of every run the ingestion records fit together, no content is stored twice in one
    workspace, and no call can report a missing record. -/
theorem ingestion_record_integrity {server : Server} (reachable : Reachable x engines server) :
    IngestionIntegrity x server.store.ingestion ∧
    (∀ (id id' : Uuid) (document document' : Document),
      server.store.ingestion.documents[id]? = some document →
      server.store.ingestion.documents[id']? = some document' →
      document.organizationId = document'.organizationId → document.workspaceId = document'.workspaceId →
      document.contentSha256 = document'.contentSha256 → id = id') ∧
    NoMissingRecord x server := by
  have valid := reachable.integrity
  refine ⟨valid, fun _ _ _ _ found found' => valid.content_unique found found', ?_⟩
  constructor
  case enqueue => exact fun _ _ => enqueueDocument_avoids valid
  case enqueueWithLimits => exact fun _ _ _ => enqueueDocumentWithLimits_avoids valid
  case claim =>
    intro env
    obtain ⟨result, done⟩ := @claimNextIngestionJob_total x env _ valid
    rw [done]
    exact Avoids.ok
  case process =>
    intro env fault claimed member
    obtain ⟨job, jobFound, owned, _⟩ := reachable.claims claimed member
    exact processClaimedIngestionJob_avoids valid jobFound owned
  case recover =>
    intro env
    obtain ⟨result, done⟩ := @recoverIncompleteIngestionJobs_total x env _ valid
    rw [done]
    exact Avoids.ok
  case usage => exact fun _ _ => workspaceUsage_avoids valid
  case exported => exact fun _ _ _ => exportWorkspace_avoids valid

def failedOnce : List (Nat × Op) :=
  [(1, .ingestion (.enqueueDocument (sampleDocument "acme" "core" "alpha" none))),
    (2, .ingestion .claimNextIngestionJob),
    (3, .ingestion (.failClaimedIngestionJob (serialUuid 0) "timeout"))]

theorem ingestion_record_integrity_failedOnce :
    ((freshRun sample noHits failedOnce).store.ingestion.jobs.toList.map fun entry => entry.2.status) =
      [.retryWait] ∧
    IngestionIntegrity sample (freshRun sample noHits failedOnce).store.ingestion ∧
    NoMissingRecord sample (freshRun sample noHits failedOnce) := by
  have holds := ingestion_record_integrity (@freshRun_reachable sample noHits failedOnce (by decide +kernel))
  exact ⟨by decide +kernel, holds.1, holds.2.2⟩

end Hangar
