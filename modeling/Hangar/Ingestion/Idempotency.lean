import Hangar.Ingestion.Deduplication
import Hangar.Ingestion.History

namespace Hangar

open Lib

variable {x : Externals} {engines : SearchEngines} {env : Env} {s s' : Store} {t : IngestionTables}

theorem IngestionJob.SameRequest.carriesKey {job job' : IngestionJob} (same : job.SameRequest job')
    {new : NewDocument} : job'.CarriesKey new ↔ job.CarriesKey new := by
  unfold IngestionJob.CarriesKey
  rw [same.organizationId, same.workspaceId, same.idempotencyKey]

theorem IngestionJob.SameRequest.carriesContent {job job' : IngestionJob} (same : job.SameRequest job')
    {new : NewDocument} : job'.CarriesContent x new ↔ job.CarriesContent x new := by
  unfold IngestionJob.CarriesContent
  rw [same.organizationId, same.workspaceId, same.inputSha256]

structure NewDocument.Repeats (again new : NewDocument) : Prop where
  organizationId : again.organizationId = new.organizationId
  workspaceId : again.workspaceId = new.workspaceId
  key : again.idempotencyKey = new.idempotencyKey

theorem NewDocument.Repeats.carriesKey {again new : NewDocument} (repeated : again.Repeats new) {job : IngestionJob} :
    job.CarriesKey again ↔ job.CarriesKey new := by
  unfold IngestionJob.CarriesKey
  rw [repeated.organizationId, repeated.workspaceId, repeated.key]

/-- The request's key is recorded already, or its content is not stored yet: the cases in which the
    call answers from its key or records it. -/
def RecordsKey (x : Externals) (t : IngestionTables) (new : NewDocument) : Prop :=
  (∃ (id : Uuid) (job : IngestionJob), t.jobs[id]? = some job ∧ job.CarriesKey new) ∨
    ∀ (id : Uuid) (job : IngestionJob), t.jobs[id]? = some job → ¬ job.CarriesContent x new

/-- Who a receipt names: a stored job with its document, and how the job was found. -/
theorem Enqueues.answered {new : NewDocument} {op : Op} {receipt : IngestionReceipt}
    (valid : IngestionIntegrity x s.ingestion) (injective : Function.Injective x.sha256)
    (enqueued : Enqueues x env s new op (s', receipt)) :
    (AnsweredBy x s.ingestion new receipt.job.id receipt.job ∧ receipt.document.id = receipt.job.documentId ∧
        receipt.deduplicated = true ∧ s' = s) ∨
      ((∀ (id : Uuid) (job : IngestionJob), ¬ AnsweredBy x s.ingestion new id job) ∧ receipt.deduplicated = false ∧
        s'.ingestion = s.ingestion.accept x env new ∧ receipt.job = newJob x env new ∧
        receipt.document = newDocument x env new) := by
  rcases enqueueDocument_ok enqueued.run with
    ⟨_, ⟨id, job, document, existing, jobFound, documentFound, rfl, rfl⟩ | ⟨absent, accepted, _, rfl⟩⟩
  · left
    have jobId : job.id = id := valid.jobId jobFound
    have documentId : document.id = job.documentId := valid.documentId documentFound
    obtain ⟨job', answered⟩ := (valid.existing_iff injective).mp existing
    have same : job' = job := by
      have twice := answered.1
      rw [jobFound] at twice
      exact (Option.some.inj twice).symm
    subst same jobId
    exact ⟨answered, documentId, rfl, rfl⟩
  · right
    refine ⟨?_, rfl, accepted, rfl, rfl⟩
    intro id job answered
    have existing := (valid.existing_iff injective).mpr ⟨job, answered⟩
    rw [absent] at existing
    cases existing

theorem Enqueues.carriesKey {new : NewDocument} {op : Op} {receipt : IngestionReceipt} {key : String}
    (valid : IngestionIntegrity x s.ingestion) (injective : Function.Injective x.sha256)
    (keyed : new.idempotencyKey = some key) (records : RecordsKey x s.ingestion new)
    (enqueued : Enqueues x env s new op (s', receipt)) :
    s'.ingestion.jobs[receipt.job.id]? = some receipt.job ∧ receipt.document.id = receipt.job.documentId ∧
      receipt.job.CarriesKey new := by
  rcases enqueued.answered valid injective with ⟨⟨jobFound, how⟩, owned, _, rfl⟩ | ⟨nobody, _, accepted, job, document⟩
  · refine ⟨jobFound, owned, ?_⟩
    rcases how with carries | ⟨nobody, content⟩
    · exact carries
    · rcases records with ⟨id, other, otherFound, carries⟩ | fresh
      · exact absurd carries (nobody id other otherFound)
      · exact absurd content (fresh _ _ jobFound)
  · have stored : s'.ingestion.jobs[env.uuid 0]? = some (newJob x env new) := by
      rw [accepted]
      exact Table.find_insert_self
    rw [job, document]
    exact ⟨stored, rfl, rfl, key, keyed, keyed⟩

theorem Enqueues.carriesContent {new : NewDocument} {op : Op} {receipt : IngestionReceipt}
    (valid : IngestionIntegrity x s.ingestion) (injective : Function.Injective x.sha256)
    (unrecorded : ¬ RecordsKey x s.ingestion new) (enqueued : Enqueues x env s new op (s', receipt)) :
    s'.ingestion.jobs[receipt.job.id]? = some receipt.job ∧ receipt.document.id = receipt.job.documentId ∧
      ¬ receipt.job.CarriesKey new ∧ receipt.job.CarriesContent x new := by
  unfold RecordsKey at unrecorded
  push Not at unrecorded
  obtain ⟨nobody, id, job, jobFound, carries⟩ := unrecorded
  rcases enqueued.answered valid injective with ⟨⟨found, how⟩, owned, _, rfl⟩ | ⟨nothing, _⟩
  · refine ⟨found, owned, nobody _ _ found, ?_⟩
    rcases how with key | ⟨_, content⟩
    · exact absurd key (nobody _ _ found)
    · exact content
  · exact absurd ⟨jobFound, .inr ⟨nobody, carries⟩⟩ (nothing id job)

/-- A later call returns the job and the document of an earlier receipt and stores nothing. -/
structure Replays (receipt again : IngestionReceipt) (before after : Store) : Prop where
  job : again.job.id = receipt.job.id
  document : again.document.id = receipt.document.id
  deduplicated : again.deduplicated = true
  ingestion : after.ingestion = before.ingestion

theorem replays_iff {receipt again : IngestionReceipt} {new : NewDocument} {op : Op} {job : IngestionJob}
    (valid : IngestionIntegrity x s.ingestion) (injective : Function.Injective x.sha256)
    (jobFound : s.ingestion.jobs[receipt.job.id]? = some job) (owned : receipt.document.id = job.documentId)
    (enqueued : Enqueues x env s new op (s', again)) :
    Replays receipt again s s' ↔ AnsweredBy x s.ingestion new receipt.job.id job := by
  rcases enqueued.answered valid injective with ⟨answered, owned', deduplicated, rfl⟩ | ⟨nobody, fresh, _⟩
  · constructor
    · intro replayed
      have found := answered.1
      rw [replayed.job, jobFound] at found
      cases found
      rw [replayed.job] at answered
      exact answered
    · intro answered'
      have first := (valid.existing_iff injective).mpr ⟨_, answered⟩
      have second := (valid.existing_iff injective).mpr ⟨_, answered'⟩
      rw [first] at second
      have same : again.job.id = receipt.job.id := Option.some.inj second
      have found := answered.1
      rw [same, jobFound] at found
      have job' : job = again.job := Option.some.inj found
      refine ⟨same, ?_, deduplicated, rfl⟩
      rw [owned', owned, job']
  · constructor
    · intro replayed
      have deduplicated := replayed.deduplicated
      rw [fresh] at deduplicated
      cases deduplicated
    · intro answered
      exact absurd answered (nobody _ _)

/-- After a request with an idempotency key, a later request of that workspace with that key replays its
    receipt exactly when the first one recorded the key, or when the key is still unrecorded and both ask
    for the same content. -/
theorem keyed_enqueue_replays_iff {server next later : Server} (reachable : Reachable x engines server)
    (injective : Function.Injective x.sha256) {first second : Event} {new again : NewDocument} {key : String}
    (keyed : new.idempotencyKey = some key) (repeated : again.Repeats new) {s s' : Store}
    {receipt receipt' : IngestionReceipt}
    (enqueued : Enqueues x first.env server.store new first.op (s, receipt))
    (taken : Step x engines server first next) (run : Reaches (Step x engines) next later)
    (enqueued' : Enqueues x second.env later.store again second.op (s', receipt')) :
    Replays receipt receipt' later.store s' ↔
      RecordsKey x server.store.ingestion new ∨
        ((∀ (id : Uuid) (job : IngestionJob), later.store.ingestion.jobs[id]? = some job → ¬ job.CarriesKey new) ∧
          again.content = new.content) := by
  have valid := reachable.integrity
  have nextReachable : Reachable x engines next := by
    obtain ⟨provider, reached⟩ := reachable
    exact ⟨provider, reached.next taken⟩
  have laterReachable : Reachable x engines later := by
    obtain ⟨provider, reached⟩ := nextReachable
    exact ⟨provider, reached.trans run⟩
  have extended := nextReachable.extends run
  have left : next.store = s := by
    rw [taken.next]
    exact enqueued.callStore
  by_cases records : RecordsKey x server.store.ingestion new
  · have stored := enqueued.carriesKey valid injective keyed records
    rw [← left] at stored
    obtain ⟨jobFound, owned, carries⟩ := stored
    obtain ⟨job, jobFound', same⟩ := extended.job jobFound
    have owned' : receipt.document.id = job.documentId := by rw [owned, same.documentId]
    have answered : AnsweredBy x later.store.ingestion again receipt.job.id job :=
      ⟨jobFound', .inl (repeated.carriesKey.mpr (same.carriesKey.mpr carries))⟩
    rw [replays_iff laterReachable.integrity injective jobFound' owned' enqueued']
    constructor
    · intro _
      exact .inl records
    · intro _
      exact answered
  · have stored := enqueued.carriesContent valid injective records
    rw [← left] at stored
    obtain ⟨jobFound, owned, keyless, carries⟩ := stored
    obtain ⟨job, jobFound', same⟩ := extended.job jobFound
    have owned' : receipt.document.id = job.documentId := by rw [owned, same.documentId]
    rw [replays_iff laterReachable.integrity injective jobFound' owned' enqueued']
    have keyless' : ¬ job.CarriesKey again := by
      rw [repeated.carriesKey, same.carriesKey]
      exact keyless
    have carries' : job.CarriesContent x new := same.carriesContent.mpr carries
    constructor
    · rintro ⟨_, key' | ⟨nobody, content⟩⟩
      · exact absurd key' keyless'
      · right
        constructor
        · intro id other otherFound carriesKey
          exact nobody id other otherFound (repeated.carriesKey.mpr carriesKey)
        · have hashes := content.2.symm.trans carries'.2
          exact Externals.sha256Text_injective injective hashes
    · rintro (recorded | ⟨nobody, content⟩)
      · exact absurd recorded records
      · refine ⟨jobFound', .inr ⟨?_, ?_, ?_⟩⟩
        · intro id other otherFound carriesKey
          exact nobody id other otherFound (repeated.carriesKey.mp carriesKey)
        · rw [repeated.organizationId, repeated.workspaceId]
          exact carries'.1
        · rw [content]
          exact carries'.2

def keylessRequest : NewDocument := sampleDocument "acme" "core" "alpha" none
def keyedRequest : NewDocument := sampleDocument "acme" "core" "alpha" (some "retry-1")
def changedRequest : NewDocument := sampleDocument "acme" "core" "beta" (some "retry-1")

def keylessServer : Server := freshRun sample noHits [(1, .ingestion (.enqueueDocument keylessRequest))]

/-- A key first used on stored content is not recorded: the next request with it stores a second document. -/
theorem keyed_enqueue_forgets_key :
    Function.Injective sample.sha256 ∧ Reachable sample noHits keylessServer ∧
    ∃ first, enqueueDocument sample (serialEnv 2 16) keylessServer.store keyedRequest = .ok first ∧
      ∃ second, enqueueDocument sample (serialEnv 3 32) first.1 changedRequest = .ok second ∧
        second.2.deduplicated = false ∧ second.2.job.id ≠ first.2.job.id ∧
        second.2.document.id ≠ first.2.document.id := by
  refine ⟨sample_injective, freshRun_reachable (by decide +kernel), ?_⟩
  decide +kernel

def keyedEvent : Event := ⟨serialEnv 1 0, .ingestion (.enqueueDocument keyedRequest)⟩
def changedEvent : Event := ⟨serialEnv 2 16, .ingestion (.enqueueDocument changedRequest)⟩

/-- A key first used on new content is recorded: the next request with it replays the receipt. -/
theorem keyed_enqueue_replays_changedRequest :
    ∃ first, enqueueDocument sample (serialEnv 1 0) (Store.empty .hashingV1) keyedRequest = .ok first ∧
      ∃ second, enqueueDocument sample (serialEnv 2 16) first.1 changedRequest = .ok second ∧
        Replays first.2 second.2 first.1 second.1 := by
  have answered : ∃ first,
      enqueueDocument sample (serialEnv 1 0) (Store.empty .hashingV1) keyedRequest = .ok first ∧
      ∃ second, enqueueDocument sample (serialEnv 2 16) first.1 changedRequest = .ok second ∧
        second.2.deduplicated = true := by decide +kernel
  obtain ⟨first, run, second, run', _⟩ := answered
  have enqueued : Enqueues sample keyedEvent.env (Server.initial .hashingV1).store keyedRequest keyedEvent.op first :=
    .unlimited run
  have left : ((Server.initial .hashingV1).next sample noHits keyedEvent).store = first.1 :=
    @Enqueues.callStore _ noHits _ _ _ _ _ enqueued
  have enqueued' : Enqueues sample changedEvent.env ((Server.initial .hashingV1).next sample noHits keyedEvent).store
      changedRequest changedEvent.op second := by
    rw [left]
    exact .unlimited run'
  have serial : (Server.initial .hashingV1).Serial 0 := by decide +kernel
  have taken : Step sample noHits (Server.initial .hashingV1) keyedEvent
      ((Server.initial .hashingV1).next sample noHits keyedEvent) := ⟨serial.fresh, trivial, rfl⟩
  have repeated : changedRequest.Repeats keyedRequest := ⟨rfl, rfl, rfl⟩
  have empty : RecordsKey sample (Server.initial .hashingV1).store.ingestion keyedRequest := by
    right
    intro id job found
    simp [Server.initial, Store.empty] at found
  have replayed := (keyed_enqueue_replays_iff ⟨.hashingV1, .refl⟩ sample_injective rfl repeated enqueued taken .refl
    enqueued').mpr (.inl empty)
  rw [left] at replayed
  exact ⟨first, run, second, run', replayed⟩

end Hangar
