import Hangar.Reachability

namespace Hangar

open Lib

theorem IngestionJob.SameRequest.refl {job : IngestionJob} : job.SameRequest job := ⟨rfl, rfl, rfl, rfl, rfl, rfl⟩

theorem IngestionJob.SameRequest.trans {first second third : IngestionJob} (left : first.SameRequest second)
    (right : second.SameRequest third) : first.SameRequest third :=
  ⟨right.id.trans left.id, right.documentId.trans left.documentId,
    right.organizationId.trans left.organizationId, right.workspaceId.trans left.workspaceId,
    right.inputSha256.trans left.inputSha256, right.idempotencyKey.trans left.idempotencyKey⟩

theorem Document.SameRequest.refl {document : Document} : document.SameRequest document :=
  ⟨rfl, rfl, rfl, rfl, rfl⟩

theorem Document.SameRequest.trans {first second third : Document} (left : first.SameRequest second)
    (right : second.SameRequest third) : first.SameRequest third :=
  ⟨right.id.trans left.id, right.organizationId.trans left.organizationId,
    right.workspaceId.trans left.workspaceId, right.contentSha256.trans left.contentSha256,
    right.ingestionJobId.trans left.ingestionJobId⟩

/-- Nothing recorded is lost: jobs and documents keep their requests, payloads and lookup records stay
    as they are. -/
structure IngestionTables.Extends (t t' : IngestionTables) : Prop where
  job : ∀ {id : Uuid} {job : IngestionJob}, t.jobs[id]? = some job →
    ∃ job', t'.jobs[id]? = some job' ∧ job.SameRequest job'
  document : ∀ {id : Uuid} {document : Document}, t.documents[id]? = some document →
    ∃ document', t'.documents[id]? = some document' ∧ document.SameRequest document'
  payload : ∀ {id : Uuid} {payload : IngestionPayload}, t.payloads[id]? = some payload →
    t'.payloads[id]? = some payload
  deduplication : ∀ {key : String} {id : Uuid}, t.deduplication[key]? = some id → t'.deduplication[key]? = some id
  idempotency : ∀ {key : String} {id : Uuid}, t.idempotency[key]? = some id → t'.idempotency[key]? = some id

variable {x : Externals} {engines : SearchEngines} {env : Env} {t t' : IngestionTables}

theorem IngestionTables.Extends.refl : t.Extends t :=
  ⟨fun found => ⟨_, found, .refl⟩, fun found => ⟨_, found, .refl⟩, id, id, id⟩

theorem IngestionTables.Extends.trans {t'' : IngestionTables} (left : t.Extends t') (right : t'.Extends t'') :
    t.Extends t'' where
  job found := by
    obtain ⟨middle, middleFound, same⟩ := left.job found
    obtain ⟨last, lastFound, same'⟩ := right.job middleFound
    exact ⟨last, lastFound, same.trans same'⟩
  document found := by
    obtain ⟨middle, middleFound, same⟩ := left.document found
    obtain ⟨last, lastFound, same'⟩ := right.document middleFound
    exact ⟨last, lastFound, same.trans same'⟩
  payload found := right.payload (left.payload found)
  deduplication found := right.deduplication (left.deduplication found)
  idempotency found := right.idempotency (left.idempotency found)

theorem QueueMove.extends (move : QueueMove env t t') : t.Extends t' := by
  cases move with
  | @write job job' document document' key jobFound documentFound advance =>
    refine ⟨fun found => QueueMove.still_job advance jobFound found, ?_, id, id, id⟩
    intro id before found
    rw [Table.find_insert]
    by_cases same : job.documentId = id
    · subst same
      rw [documentFound] at found
      cases found
      exact ⟨document', by simp, advance.document_sameRequest⟩
    · exact ⟨before, by rw [if_neg same, found], .refl⟩

theorem IngestionTables.extends_accept (valid : IngestionIntegrity x t) {new : NewDocument}
    (jobFresh : t.jobs[env.uuid 0]? = none) (documentFresh : t.documents[env.uuid 1]? = none)
    (absent : existingJobId x t new = none) : t.Extends (t.accept x env new) := by
  obtain ⟨keyAbsent, contentAbsent⟩ := existingJobId_eq_none.mp absent
  refine ⟨?_, ?_, ?_, ?_, ?_⟩
  · intro id job found
    refine ⟨job, ?_, .refl⟩
    unfold IngestionTables.accept
    rw [Table.find_insert_ne, found]
    rintro rfl
    simp [jobFresh] at found
  · intro id document found
    refine ⟨document, ?_, .refl⟩
    unfold IngestionTables.accept
    rw [Table.find_insert_ne, found]
    rintro rfl
    simp [documentFresh] at found
  · intro id payload found
    unfold IngestionTables.accept
    rw [Table.find_insert_ne, found]
    rintro rfl
    obtain ⟨job, jobFound⟩ := valid.payloadJob found
    simp [jobFresh] at jobFound
  · intro key id found
    unfold IngestionTables.accept
    rw [Table.find_insert_ne, found]
    rintro rfl
    simp [contentAbsent] at found
  · intro key id found
    rw [IngestionTables.find_accept_idempotency, if_neg]
    · exact found
    · intro same
      simp [keyAbsent _ same] at found

theorem Env.Fresh.job_unused {server : Server} (fresh : env.Fresh server) (i : Nat) :
    server.store.ingestion.jobs[env.uuid i]? = none := by
  have unused := fresh.unused i
  simp only [Server.Uses, not_or] at unused
  exact Std.ExtTreeMap.getElem?_eq_none unused.2.1

theorem Env.Fresh.document_unused {server : Server} (fresh : env.Fresh server) (i : Nat) :
    server.store.ingestion.documents[env.uuid i]? = none := by
  have unused := fresh.unused i
  simp only [Server.Uses, not_or] at unused
  exact Std.ExtTreeMap.getElem?_eq_none unused.1

section
variable {server server' : Server} {event : Event}

theorem Step.queue (taken : Step x engines server event server')
    (valid : IngestionIntegrity x server.store.ingestion) :
    QueueStep x event.env server.store.ingestion server'.store.ingestion := by
  rw [taken.next]
  exact callStore_step valid

theorem Step.extends (taken : Step x engines server event server')
    (valid : IngestionIntegrity x server.store.ingestion) :
    server.store.ingestion.Extends server'.store.ingestion := by
  have step := taken.queue valid
  generalize server'.store.ingestion = t' at step ⊢
  cases step with
  | accept new _ absent =>
    exact IngestionTables.extends_accept valid (taken.fresh.job_unused 0) (taken.fresh.document_unused 1) absent
  | moves moves =>
    induction moves with
    | refl => exact .refl
    | tail _ move ih => exact ih.trans move.extends

end

def Server.ClaimsHold (server : Server) : Prop := ∀ claimed ∈ server.claimed,
  ∃ job, server.store.ingestion.jobs[claimed.job.id]? = some job ∧ job.documentId = claimed.job.documentId ∧
    server.store.ingestion.payloads[claimed.job.id]? = some ⟨claimed.content⟩

theorem Op.claims_hold {s : Store} {op : Op} (valid : IngestionIntegrity x s.ingestion)
    {claimed : ClaimedIngestionJob} (member : claimed ∈ op.claims env s) :
    ∃ job, s.ingestion.jobs[claimed.job.id]? = some job ∧ job.documentId = claimed.job.documentId ∧
      s.ingestion.payloads[claimed.job.id]? = some ⟨claimed.content⟩ := by
  unfold Op.claims at member
  split at member
  · split at member
    · rename_i given run
      cases List.mem_singleton.mp member
      obtain ⟨_, nothing⟩ | ⟨key, job, document, payload, jobFound, _, _, payloadFound, same, _⟩ :=
        claimNextIngestionJob_ok run
      · cases nothing
      · cases same
        have keyed : job.id = key := valid.jobId jobFound
        subst keyed
        exact ⟨job, jobFound, rfl, payloadFound⟩
    · cases member
  · cases member

theorem Step.claims {server server' : Server} {event : Event} (taken : Step x engines server event server')
    (valid : IngestionIntegrity x server.store.ingestion) (claims : server.ClaimsHold) : server'.ClaimsHold := by
  have extended := taken.extends valid
  have kept {claimed : ClaimedIngestionJob} {job : IngestionJob}
      (jobFound : server.store.ingestion.jobs[claimed.job.id]? = some job)
      (owned : job.documentId = claimed.job.documentId)
      (payloadFound : server.store.ingestion.payloads[claimed.job.id]? = some ⟨claimed.content⟩) :
      ∃ job, server'.store.ingestion.jobs[claimed.job.id]? = some job ∧
        job.documentId = claimed.job.documentId ∧
        server'.store.ingestion.payloads[claimed.job.id]? = some ⟨claimed.content⟩ := by
    obtain ⟨job', jobFound', same⟩ := extended.job jobFound
    exact ⟨job', jobFound', same.documentId.trans owned, extended.payload payloadFound⟩
  intro claimed member
  have split : claimed ∈ server.claimed ∨ claimed ∈ event.op.claims event.env server.store := by
    rw [taken.next] at member
    exact List.mem_append.mp member
  rcases split with old | new
  · obtain ⟨job, jobFound, owned, payloadFound⟩ := claims claimed old
    exact kept jobFound owned payloadFound
  · obtain ⟨job, jobFound, owned, payloadFound⟩ := Op.claims_hold valid new
    exact kept jobFound owned payloadFound

theorem Reachable.claims {server : Server} (reachable : Reachable x engines server) : server.ClaimsHold := by
  obtain ⟨provider, reached⟩ := reachable
  have both := reached.preserves
    (I := fun server => IngestionIntegrity x server.store.ingestion ∧ server.ClaimsHold)
    ⟨.empty, fun _ member => nomatch member⟩
    fun _ _ _ holds taken => ⟨taken.integrity holds.1, taken.claims holds.1 holds.2⟩
  exact both.2

theorem Reachable.extends {server later : Server} (reachable : Reachable x engines server)
    (run : Reaches (Step x engines) server later) :
    server.store.ingestion.Extends later.store.ingestion := by
  have both := run.preserves
    (I := fun later => IngestionIntegrity x later.store.ingestion ∧
      server.store.ingestion.Extends later.store.ingestion)
    ⟨reachable.integrity, .refl⟩
    fun _ _ _ holds taken => ⟨taken.integrity holds.1, holds.2.trans (taken.extends holds.1)⟩
  exact both.2

end Hangar
