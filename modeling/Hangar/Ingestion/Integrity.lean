import Hangar.Ingestion.Moves

namespace Hangar

open Lib

/-- The ingestion records fit together: jobs, documents and payloads correspond one to one, and each
    job is found again under its content and under its idempotency key. -/
structure IngestionIntegrity (x : Externals) (t : IngestionTables) : Prop where
  jobId : ∀ {id : Uuid} {job : IngestionJob}, t.jobs[id]? = some job → job.id = id
  documentId : ∀ {id : Uuid} {document : Document}, t.documents[id]? = some document → document.id = id
  document : ∀ {id : Uuid} {job : IngestionJob}, t.jobs[id]? = some job → ∃ document, t.documents[job.documentId]? = some document ∧
    document.ingestionJobId = id ∧ document.ingestionStatus = job.status ∧
    document.contentSha256 = job.inputSha256 ∧ document.organizationId = job.organizationId ∧
    document.workspaceId = job.workspaceId
  job : ∀ {id : Uuid} {document : Document}, t.documents[id]? = some document →
    ∃ job, t.jobs[document.ingestionJobId]? = some job ∧ job.documentId = id
  payload : ∀ {id : Uuid} {job : IngestionJob}, t.jobs[id]? = some job →
    ∃ payload, t.payloads[id]? = some payload ∧ x.sha256Text payload.content = job.inputSha256
  payloadJob : ∀ {id : Uuid} {payload : IngestionPayload}, t.payloads[id]? = some payload → ∃ job, t.jobs[id]? = some job
  shape : ∀ {id : Uuid} {job : IngestionJob}, t.jobs[id]? = some job → job.WellShaped
  deduplication : ∀ {key : String} {id : Uuid}, t.deduplication[key]? = some id → ∃ job, t.jobs[id]? = some job ∧
    key = deduplicationKey job.organizationId job.workspaceId job.inputSha256
  deduplicated : ∀ {id : Uuid} {job : IngestionJob}, t.jobs[id]? = some job →
    t.deduplication[deduplicationKey job.organizationId job.workspaceId job.inputSha256]? = some id
  idempotency : ∀ {key : String} {id : Uuid}, t.idempotency[key]? = some id → ∃ job k, t.jobs[id]? = some job ∧
    job.idempotencyKey = some k ∧ key = idempotencyTableKey x job.organizationId job.workspaceId k
  idempotent : ∀ {id : Uuid} {job : IngestionJob} {k : String}, t.jobs[id]? = some job → job.idempotencyKey = some k →
    t.idempotency[idempotencyTableKey x job.organizationId job.workspaceId k]? = some id

variable {x : Externals} {engines : SearchEngines} {env : Env} {s s' : Store} {t t' : IngestionTables}

theorem IngestionIntegrity.empty : IngestionIntegrity x ⟨∅, ∅, ∅, ∅, ∅⟩ := by
  constructor <;> intros <;> simp_all

section
variable {key : Uuid} {job job' : IngestionJob} {document document' : Document}

theorem IngestionIntegrity.documentId_of_job (valid : IngestionIntegrity x t) {documentKey : Uuid}
    (jobFound : t.jobs[key]? = some job) (documentFound : t.documents[documentKey]? = some document)
    (matched : document.ingestionJobId = job.id) : job.documentId = documentKey := by
  obtain ⟨owner, ownerFound, same⟩ := valid.job documentFound
  rw [matched, valid.jobId jobFound, jobFound] at ownerFound
  cases ownerFound
  exact same

theorem IngestionIntegrity.document_injective (valid : IngestionIntegrity x t) {key' : Uuid}
    (found : t.jobs[key]? = some job) (found' : t.jobs[key']? = some job')
    (same : job.documentId = job'.documentId) : key = key' := by
  obtain ⟨document, documentFound, owner, _⟩ := valid.document found
  obtain ⟨document', documentFound', owner', _⟩ := valid.document found'
  rw [← same, documentFound] at documentFound'
  cases documentFound'
  exact owner.symm.trans owner'

theorem QueueMove.find_job (advance : Advance env job document job' document')
    (jobFound : t.jobs[key]? = some job) {id : Uuid} {stored : IngestionJob}
    (found : (t.jobs.insert key job')[id]? = some stored) :
    ∃ before, t.jobs[id]? = some before ∧ before.SameRequest stored ∧
      (id = key ∧ stored = job' ∨ id ≠ key ∧ stored = before) := by
  rw [Table.find_insert] at found
  by_cases same : key = id
  · rw [if_pos same] at found
    cases found
    subst same
    exact ⟨job, jobFound, advance.job_sameRequest, .inl ⟨rfl, rfl⟩⟩
  · rw [if_neg same] at found
    exact ⟨stored, found, ⟨rfl, rfl, rfl, rfl, rfl, rfl⟩, .inr ⟨Ne.symm same, rfl⟩⟩

theorem QueueMove.find_document (advance : Advance env job document job' document') {documentKey : Uuid}
    (documentFound : t.documents[documentKey]? = some document) {id : Uuid} {stored : Document}
    (found : (t.documents.insert documentKey document')[id]? = some stored) :
    ∃ before, t.documents[id]? = some before ∧ before.SameRequest stored ∧
      (id = documentKey ∧ stored = document' ∨ id ≠ documentKey ∧ stored = before) := by
  rw [Table.find_insert] at found
  by_cases same : documentKey = id
  · rw [if_pos same] at found
    cases found
    subst same
    exact ⟨document, documentFound, advance.document_sameRequest, .inl ⟨rfl, rfl⟩⟩
  · rw [if_neg same] at found
    exact ⟨stored, found, ⟨rfl, rfl, rfl, rfl, rfl⟩, .inr ⟨Ne.symm same, rfl⟩⟩

theorem QueueMove.still_job (advance : Advance env job document job' document')
    (jobFound : t.jobs[key]? = some job) {id : Uuid} {before : IngestionJob}
    (found : t.jobs[id]? = some before) :
    ∃ stored, (t.jobs.insert key job')[id]? = some stored ∧ before.SameRequest stored := by
  rw [Table.find_insert]
  by_cases same : key = id
  · subst same
    rw [jobFound] at found
    cases found
    exact ⟨job', by simp, advance.job_sameRequest⟩
  · exact ⟨before, by rw [if_neg same, found], ⟨rfl, rfl, rfl, rfl, rfl, rfl⟩⟩

end

/-- A single move keeps the records fitting together. -/
theorem IngestionIntegrity.move (valid : IngestionIntegrity x t) (move : QueueMove env t t') :
    IngestionIntegrity x t' := by
  cases move with
  | @write job job' document document' key jobFound documentFound advance =>
    constructor
    case jobId =>
      intro id stored found
      obtain ⟨before, foundBefore, same, _⟩ := QueueMove.find_job advance jobFound found
      rw [same.id, valid.jobId foundBefore]
    case documentId =>
      intro id stored found
      obtain ⟨before, foundBefore, same, _⟩ := QueueMove.find_document advance documentFound found
      rw [same.id, valid.documentId foundBefore]
    case document =>
      intro id stored found
      obtain ⟨before, foundBefore, same, written⟩ := QueueMove.find_job advance jobFound found
      obtain ⟨owned, ownedFound, owner, status, content, organization, workspace⟩ := valid.document foundBefore
      rw [same.documentId, same.inputSha256, same.organizationId, same.workspaceId]
      rcases written with ⟨rfl, rfl⟩ | ⟨other, rfl⟩
      · rw [jobFound] at foundBefore
        cases foundBefore
        rw [documentFound] at ownedFound
        cases ownedFound
        have kept := advance.document_sameRequest
        refine ⟨document', by simp, ?_⟩
        rw [kept.ingestionJobId, kept.contentSha256, kept.organizationId, kept.workspaceId]
        exact ⟨owner, advance.status, content, organization, workspace⟩
      · have apart : job.documentId ≠ stored.documentId := fun shared =>
          other (valid.document_injective jobFound foundBefore shared).symm
        refine ⟨owned, ?_, owner, status, content, organization, workspace⟩
        rw [Table.find_insert_ne apart, ownedFound]
    case job =>
      intro id stored found
      obtain ⟨before, foundBefore, same, _⟩ := QueueMove.find_document advance documentFound found
      obtain ⟨owner, ownerFound, owned⟩ := valid.job foundBefore
      obtain ⟨after, afterFound, kept⟩ := QueueMove.still_job advance jobFound ownerFound
      rw [same.ingestionJobId]
      exact ⟨after, afterFound, kept.documentId.trans owned⟩
    case payload =>
      intro id stored found
      obtain ⟨before, foundBefore, same, _⟩ := QueueMove.find_job advance jobFound found
      rw [same.inputSha256]
      exact valid.payload foundBefore
    case payloadJob =>
      intro id payload found
      obtain ⟨before, foundBefore⟩ := valid.payloadJob found
      obtain ⟨after, afterFound, _⟩ := QueueMove.still_job advance jobFound foundBefore
      exact ⟨after, afterFound⟩
    case shape =>
      intro id stored found
      obtain ⟨before, foundBefore, _, ⟨_, rfl⟩ | ⟨_, rfl⟩⟩ := QueueMove.find_job advance jobFound found
      · exact advance.wellShaped
      · exact valid.shape foundBefore
    case deduplication =>
      intro key id found
      obtain ⟨before, foundBefore, same⟩ := valid.deduplication found
      obtain ⟨after, afterFound, kept⟩ := QueueMove.still_job advance jobFound foundBefore
      refine ⟨after, afterFound, ?_⟩
      rw [same, kept.organizationId, kept.workspaceId, kept.inputSha256]
    case deduplicated =>
      intro id stored found
      obtain ⟨before, foundBefore, same, _⟩ := QueueMove.find_job advance jobFound found
      rw [same.organizationId, same.workspaceId, same.inputSha256]
      exact valid.deduplicated foundBefore
    case idempotency =>
      intro key id found
      obtain ⟨before, k, foundBefore, keyed, same⟩ := valid.idempotency found
      obtain ⟨after, afterFound, kept⟩ := QueueMove.still_job advance jobFound foundBefore
      refine ⟨after, k, afterFound, ?_, ?_⟩
      · rw [kept.idempotencyKey, keyed]
      · rw [same, kept.organizationId, kept.workspaceId]
    case idempotent =>
      intro id stored k found keyed
      obtain ⟨before, foundBefore, same, _⟩ := QueueMove.find_job advance jobFound found
      rw [same.idempotencyKey] at keyed
      rw [same.organizationId, same.workspaceId]
      exact valid.idempotent foundBefore keyed

theorem existingJobId_eq_none {new : NewDocument} : existingJobId x t new = none ↔
    (∀ key, new.idempotencyTableKey x = some key → t.idempotency[key]? = none) ∧
      t.deduplication[new.deduplicationKey x]? = none := by
  unfold existingJobId
  cases keyed : new.idempotencyTableKey x with
  | none => simp
  | some key =>
    simp only [Option.bind_some, Option.some.injEq, forall_eq']
    cases t.idempotency[key]? <;> simp

theorem existingJobId_eq_some {new : NewDocument} {id : Uuid} (existing : existingJobId x t new = some id) :
    (∃ key, new.idempotencyTableKey x = some key ∧ t.idempotency[key]? = some id) ∨
      t.deduplication[new.deduplicationKey x]? = some id := by
  unfold existingJobId at existing
  cases keyed : (new.idempotencyTableKey x).bind fun key => t.idempotency[key]? with
  | none =>
    rw [keyed] at existing
    exact .inr existing
  | some stored =>
    rw [keyed] at existing
    cases existing
    obtain ⟨key, named, found⟩ := Option.bind_eq_some_iff.mp keyed
    exact .inl ⟨key, named, found⟩

theorem IngestionTables.find_accept_idempotency {new : NewDocument} {key : String} :
    (t.accept x env new).idempotency[key]? =
      if new.idempotencyTableKey x = some key then some (env.uuid 0) else t.idempotency[key]? := by
  unfold IngestionTables.accept
  cases keyed : new.idempotencyTableKey x with
  | none => simp
  | some stored => simp [Table.find_insert]

theorem IngestionIntegrity.accept (valid : IngestionIntegrity x t) {new : NewDocument}
    (jobFresh : t.jobs[env.uuid 0]? = none) (documentFresh : t.documents[env.uuid 1]? = none)
    (absent : existingJobId x t new = none) : IngestionIntegrity x (t.accept x env new) := by
  obtain ⟨keyAbsent, contentAbsent⟩ := existingJobId_eq_none.mp absent
  have jobs {id : Uuid} : (t.accept x env new).jobs[id]? =
      if env.uuid 0 = id then some (newJob x env new) else t.jobs[id]? := Table.find_insert
  have documents {id : Uuid} : (t.accept x env new).documents[id]? =
      if env.uuid 1 = id then some (newDocument x env new) else t.documents[id]? := Table.find_insert
  have payloads {id : Uuid} : (t.accept x env new).payloads[id]? =
      if env.uuid 0 = id then some ⟨new.content⟩ else t.payloads[id]? := Table.find_insert
  have contents {key : String} : (t.accept x env new).deduplication[key]? =
      if new.deduplicationKey x = key then some (env.uuid 0) else t.deduplication[key]? := Table.find_insert
  have oldJob {id : Uuid} {job : IngestionJob} (found : t.jobs[id]? = some job) :
      (t.accept x env new).jobs[id]? = some job := by
    rw [jobs, if_neg]
    · exact found
    · rintro rfl
      simp [jobFresh] at found
  have oldDocument {id : Uuid} {document : Document} (found : t.documents[id]? = some document) :
      (t.accept x env new).documents[id]? = some document := by
    rw [documents, if_neg]
    · exact found
    · rintro rfl
      simp [documentFresh] at found
  have ownJob : (t.accept x env new).jobs[env.uuid 0]? = some (newJob x env new) := by simp [jobs]
  have ownDocument : (t.accept x env new).documents[env.uuid 1]? = some (newDocument x env new) := by
    simp [documents]
  have split {id : Uuid} {job : IngestionJob} (found : (t.accept x env new).jobs[id]? = some job) :
      id = env.uuid 0 ∧ job = newJob x env new ∨ t.jobs[id]? = some job := by
    rw [jobs] at found
    by_cases same : env.uuid 0 = id
    · rw [if_pos same] at found
      cases found
      exact .inl ⟨same.symm, rfl⟩
    · rw [if_neg same] at found
      exact .inr found
  constructor
  case jobId =>
    intro id job found
    rcases split found with ⟨rfl, rfl⟩ | found
    · rfl
    · exact valid.jobId found
  case documentId =>
    intro id document found
    rw [documents] at found
    by_cases same : env.uuid 1 = id
    · rw [if_pos same] at found
      cases found
      exact same
    · rw [if_neg same] at found
      exact valid.documentId found
  case document =>
    intro id job found
    rcases split found with ⟨rfl, rfl⟩ | found
    · exact ⟨_, ownDocument, rfl, rfl, rfl, rfl, rfl⟩
    · obtain ⟨document, documentFound, rest⟩ := valid.document found
      exact ⟨document, oldDocument documentFound, rest⟩
  case job =>
    intro id document found
    rw [documents] at found
    by_cases same : env.uuid 1 = id
    · rw [if_pos same] at found
      cases found
      exact ⟨_, ownJob, same⟩
    · rw [if_neg same] at found
      obtain ⟨job, jobFound, owned⟩ := valid.job found
      exact ⟨job, oldJob jobFound, owned⟩
  case payload =>
    intro id job found
    rcases split found with ⟨rfl, rfl⟩ | found
    · exact ⟨⟨new.content⟩, by simp [payloads], rfl⟩
    · obtain ⟨payload, payloadFound, same⟩ := valid.payload found
      refine ⟨payload, ?_, same⟩
      rw [payloads, if_neg]
      · exact payloadFound
      · rintro rfl
        simp [jobFresh] at found
  case payloadJob =>
    intro id payload found
    rw [payloads] at found
    by_cases same : env.uuid 0 = id
    · subst same
      exact ⟨_, ownJob⟩
    · rw [if_neg same] at found
      obtain ⟨job, jobFound⟩ := valid.payloadJob found
      exact ⟨job, oldJob jobFound⟩
  case shape =>
    intro id job found
    rcases split found with ⟨rfl, rfl⟩ | found
    · constructor <;> simp [newJob]
    · exact valid.shape found
  case deduplication =>
    intro key id found
    rw [contents] at found
    by_cases same : new.deduplicationKey x = key
    · rw [if_pos same] at found
      cases found
      exact ⟨_, ownJob, same.symm⟩
    · rw [if_neg same] at found
      obtain ⟨job, jobFound, keyed⟩ := valid.deduplication found
      exact ⟨job, oldJob jobFound, keyed⟩
  case deduplicated =>
    intro id job found
    rw [contents]
    rcases split found with ⟨rfl, rfl⟩ | found
    · exact if_pos rfl
    · have stored := valid.deduplicated found
      rw [if_neg]
      · exact stored
      · intro same
        rw [← same, contentAbsent] at stored
        cases stored
  case idempotency =>
    intro key id found
    rw [IngestionTables.find_accept_idempotency] at found
    by_cases same : new.idempotencyTableKey x = some key
    · rw [if_pos same] at found
      cases found
      obtain ⟨k, keyed, rfl⟩ := Option.map_eq_some_iff.mp same
      exact ⟨_, k, ownJob, keyed, rfl⟩
    · rw [if_neg same] at found
      obtain ⟨job, k, jobFound, rest⟩ := valid.idempotency found
      exact ⟨job, k, oldJob jobFound, rest⟩
  case idempotent =>
    intro id job k found keyed
    rw [IngestionTables.find_accept_idempotency]
    rcases split found with ⟨rfl, rfl⟩ | found
    · have keyed : new.idempotencyKey = some k := keyed
      exact if_pos (by rw [NewDocument.idempotencyTableKey, keyed]; rfl)
    · have stored := valid.idempotent found keyed
      rw [if_neg]
      · exact stored
      · intro same
        rw [keyAbsent _ same] at stored
        cases stored

end Hangar
