import Hangar.Concrete
import Hangar.Reachability

namespace Hangar

open Lib

/-- How the lookup keys of `enqueue_document` spell a scope. -/
def scopeText (organizationId workspaceId : String) : String := organizationId ++ ":" ++ workspaceId

theorem deduplicationKey_inj {organization organization' workspace workspace' : String} {hash hash' : HexText} :
    deduplicationKey organization workspace hash = deduplicationKey organization' workspace' hash' ↔
      scopeText organization workspace = scopeText organization' workspace' ∧ hash = hash' := by
  have version : ':' ∉ (toString ingestionPipelineVersion).toList := by decide
  unfold deduplicationKey scopeText
  rw [colon_inj version version, colon_inj hash.no_colon hash'.no_colon]
  constructor
  · rintro ⟨⟨scope, text⟩, _⟩
    exact ⟨scope, HexText.ext text⟩
  · rintro ⟨scope, rfl⟩
    exact ⟨⟨scope, rfl⟩, rfl⟩

variable {x : Externals} {engines : SearchEngines} {env : Env} {s s' : Store} {t : IngestionTables}

theorem idempotencyTableKey_inj (injective : Function.Injective x.sha256)
    {organization organization' workspace workspace' key key' : String} :
    idempotencyTableKey x organization workspace key = idempotencyTableKey x organization' workspace' key' ↔
      scopeText organization workspace = scopeText organization' workspace' ∧ key = key' := by
  unfold idempotencyTableKey scopeText
  rw [colon_inj (HexText.no_colon _) (HexText.no_colon _)]
  constructor
  · rintro ⟨scope, text⟩
    have hash : hashToken x key = hashToken x key' := HexText.ext text
    exact ⟨scope, Externals.sha256Text_injective injective hash⟩
  · rintro ⟨scope, rfl⟩
    exact ⟨scope, rfl⟩

def IngestionJob.CarriesKey (job : IngestionJob) (new : NewDocument) : Prop :=
  scopeText job.organizationId job.workspaceId = scopeText new.organizationId new.workspaceId ∧
    ∃ key, new.idempotencyKey = some key ∧ job.idempotencyKey = some key

def IngestionJob.CarriesContent (x : Externals) (job : IngestionJob) (new : NewDocument) : Prop :=
  scopeText job.organizationId job.workspaceId = scopeText new.organizationId new.workspaceId ∧
    job.inputSha256 = x.sha256Text new.content

/-- The job a request is answered with: one that carries its key or, when there is none, its content. -/
def AnsweredBy (x : Externals) (t : IngestionTables) (new : NewDocument) (id : Uuid) (job : IngestionJob) : Prop :=
  t.jobs[id]? = some job ∧
    (job.CarriesKey new ∨
      (∀ (id' : Uuid) (job' : IngestionJob), t.jobs[id']? = some job' → ¬ job'.CarriesKey new) ∧ job.CarriesContent x new)

theorem IngestionIntegrity.findKey (valid : IngestionIntegrity x t) (injective : Function.Injective x.sha256)
    {new : NewDocument} {key : String} (keyed : new.idempotencyKey = some key) {id : Uuid} :
    t.idempotency[idempotencyTableKey x new.organizationId new.workspaceId key]? = some id ↔
      ∃ job, t.jobs[id]? = some job ∧ job.CarriesKey new := by
  constructor
  · intro found
    obtain ⟨job, key', jobFound, carried, same⟩ := valid.idempotency found
    obtain ⟨scope, rfl⟩ := (idempotencyTableKey_inj injective).mp same
    exact ⟨job, jobFound, scope.symm, key, keyed, carried⟩
  · rintro ⟨job, jobFound, scope, key', keyed', carried⟩
    rw [keyed] at keyed'
    cases keyed'
    have found := valid.idempotent jobFound carried
    rwa [(idempotencyTableKey_inj injective).mpr ⟨scope, rfl⟩] at found

theorem IngestionIntegrity.findContent (valid : IngestionIntegrity x t) {new : NewDocument} {id : Uuid} :
    t.deduplication[new.deduplicationKey x]? = some id ↔
      ∃ job, t.jobs[id]? = some job ∧ job.CarriesContent x new := by
  constructor
  · intro found
    obtain ⟨job, jobFound, same⟩ := valid.deduplication found
    obtain ⟨scope, hash⟩ := deduplicationKey_inj.mp same
    exact ⟨job, jobFound, scope.symm, hash.symm⟩
  · rintro ⟨job, jobFound, scope, hash⟩
    have found := valid.deduplicated jobFound
    rwa [deduplicationKey_inj.mpr ⟨scope, hash⟩] at found

theorem IngestionIntegrity.findKey_eq_none (valid : IngestionIntegrity x t)
    (injective : Function.Injective x.sha256) {new : NewDocument} :
    ((new.idempotencyTableKey x).bind fun key => t.idempotency[key]?) = none ↔
      ∀ (id : Uuid) (job : IngestionJob), t.jobs[id]? = some job → ¬ job.CarriesKey new := by
  cases keyed : new.idempotencyKey with
  | none =>
    simp [NewDocument.idempotencyTableKey, IngestionJob.CarriesKey, keyed]
  | some key =>
    simp only [NewDocument.idempotencyTableKey, keyed, Option.map_some, Option.bind_some]
    constructor
    · intro absent id job jobFound carries
      have found := (valid.findKey injective keyed).mpr ⟨job, jobFound, carries⟩
      rw [absent] at found
      cases found
    · intro nobody
      cases found : t.idempotency[idempotencyTableKey x new.organizationId new.workspaceId key]? with
      | none => rfl
      | some id =>
        obtain ⟨job, jobFound, carries⟩ := (valid.findKey injective keyed).mp found
        exact absurd carries (nobody id job jobFound)

/-- The lookups of `enqueue_document` in terms of the stored jobs. -/
theorem IngestionIntegrity.existing_iff (valid : IngestionIntegrity x t)
    (injective : Function.Injective x.sha256) {new : NewDocument} {id : Uuid} :
    existingJobId x t new = some id ↔ ∃ job, AnsweredBy x t new id job := by
  unfold existingJobId AnsweredBy
  cases byKey : (new.idempotencyTableKey x).bind fun key => t.idempotency[key]? with
  | none =>
    have nobody := (valid.findKey_eq_none injective).mp byKey
    show t.deduplication[new.deduplicationKey x]? = some id ↔ _
    rw [valid.findContent]
    constructor
    · rintro ⟨job, jobFound, carries⟩
      exact ⟨job, jobFound, .inr ⟨nobody, carries⟩⟩
    · rintro ⟨job, jobFound, carries | ⟨_, carries⟩⟩
      · exact absurd carries (nobody id job jobFound)
      · exact ⟨job, jobFound, carries⟩
  | some stored =>
    obtain ⟨tableKey, named, storedFound⟩ := Option.bind_eq_some_iff.mp byKey
    obtain ⟨key, keyed, rfl⟩ := Option.map_eq_some_iff.mp named
    have owner := (valid.findKey injective keyed).mp storedFound
    show some stored = some id ↔ _
    constructor
    · intro same
      cases same
      obtain ⟨job, jobFound, carries⟩ := owner
      exact ⟨job, jobFound, .inl carries⟩
    · rintro ⟨job, jobFound, carries | ⟨nobody, _⟩⟩
      · have found := (valid.findKey injective keyed).mpr ⟨job, jobFound, carries⟩
        rw [storedFound] at found
        exact found
      · obtain ⟨job', jobFound', carries⟩ := owner
        exact absurd carries (nobody stored job' jobFound')

/-- What a successful call of one of the two enqueue methods returns. -/
inductive Enqueues (x : Externals) (env : Env) (s : Store) (new : NewDocument) : Op → Store × IngestionReceipt → Prop where
  | unlimited {result : Store × IngestionReceipt} (run : enqueueDocument x env s new = .ok result) :
      Enqueues x env s new (.ingestion (.enqueueDocument new)) result
  | limited {result : Store × IngestionReceipt} (limits : WorkspaceLimits)
      (run : enqueueDocumentWithLimits x env s new limits = .ok result) :
      Enqueues x env s new (.ingestion (.enqueueDocumentWithLimits new limits)) result

theorem Enqueues.run {new : NewDocument} {op : Op} {result : Store × IngestionReceipt}
    (enqueued : Enqueues x env s new op result) : enqueueDocument x env s new = .ok result := by
  cases enqueued with
  | unlimited run => exact run
  | limited limits run => exact enqueueDocumentWithLimits_ok run

theorem Enqueues.callStore {new : NewDocument} {op : Op} {result : Store × IngestionReceipt}
    (enqueued : Enqueues x env s new op result) : (callStore x engines env op s).1 = result.1 := by
  cases enqueued with
  | unlimited run =>
    have done : Program.transaction (enqueueDocument x env · new) s = (result.1, .ok result.2) := by
      simp only [Program.transaction, run]
    simp only [Hangar.callStore, callIngestion, Bind.bind, Program.andThen, done]
    rfl
  | limited limits run =>
    have done : Program.transaction (enqueueDocumentWithLimits x env · new limits) s =
        (result.1, .ok result.2) := by
      simp only [Program.transaction, run]
    simp only [Hangar.callStore, callIngestion, Bind.bind, Program.andThen, done]
    rfl

def IngestionReceipt.InScope (receipt : IngestionReceipt) (organizationId workspaceId : String) : Prop :=
  receipt.document.organizationId = organizationId ∧ receipt.document.workspaceId = workspaceId ∧
    receipt.job.organizationId = organizationId ∧ receipt.job.workspaceId = workspaceId

instance {receipt : IngestionReceipt} {organizationId workspaceId : String} :
    Decidable (receipt.InScope organizationId workspaceId) := inferInstanceAs (Decidable (_ ∧ _ ∧ _ ∧ _))

/-- Among the stored jobs whose scope reads like the request's, the one that carries the request's key, or
    else its content, is of the request's own scope. -/
def ScopesApart (x : Externals) (t : IngestionTables) (new : NewDocument) : Prop :=
  ∀ (id : Uuid) (job : IngestionJob), AnsweredBy x t new id job →
    job.organizationId = new.organizationId ∧ job.workspaceId = new.workspaceId

/-- A receipt stays in the scope it was asked for exactly when no other scope that reads the same has
    stored the key or the content before. -/
theorem enqueue_inScope_iff {server : Server} (reachable : Reachable x engines server)
    (injective : Function.Injective x.sha256) {new : NewDocument} {op : Op} {result : Store × IngestionReceipt}
    (enqueued : Enqueues x env server.store new op result) :
    result.2.InScope new.organizationId new.workspaceId ↔ ScopesApart x server.store.ingestion new := by
  have valid := reachable.integrity
  obtain ⟨s', receipt⟩ := result
  rcases enqueueDocument_ok enqueued.run with ⟨_, ⟨id, job, document, existing, jobFound, documentFound, _, rfl⟩ | fresh⟩
  · obtain ⟨owned, ownedFound, _, _, _, organization, workspace⟩ := valid.document jobFound
    rw [documentFound] at ownedFound
    cases ownedFound
    obtain ⟨job', answered⟩ := (valid.existing_iff injective).mp existing
    have same : job' = job := by
      have twice := answered.1
      rw [jobFound] at twice
      exact (Option.some.inj twice).symm
    subst same
    constructor
    · rintro ⟨_, _, inOrganization, inWorkspace⟩ id' other answered'
      have again := (valid.existing_iff injective).mpr ⟨other, answered'⟩
      rw [existing] at again
      cases again
      have twice := answered'.1
      rw [jobFound] at twice
      cases twice
      exact ⟨inOrganization, inWorkspace⟩
    · intro apart
      obtain ⟨inOrganization, inWorkspace⟩ := apart id job' answered
      exact ⟨organization.trans inOrganization, workspace.trans inWorkspace, inOrganization, inWorkspace⟩
  · obtain ⟨absent, _, _, rfl⟩ := fresh
    constructor
    · intro _ id job answered
      have existing := (valid.existing_iff injective).mpr ⟨job, answered⟩
      rw [absent] at existing
      cases existing
    · intro _
      exact ⟨rfl, rfl, rfl, rfl⟩

def colonWorkspace : Server := freshRun sample noHits
  [(1, .ingestion (.enqueueDocument (sampleDocument "acme" "core:eu" "alpha" none)))]

theorem colonWorkspace_reachable : Reachable sample noHits colonWorkspace :=
  freshRun_reachable (by decide +kernel)

/-- The same content asked for in the workspace `eu` of `acme:core` is answered from `core:eu` of `acme`. -/
theorem enqueue_leaves_scope :
    Function.Injective sample.sha256 ∧ Reachable sample noHits colonWorkspace ∧
    ∃ result, enqueueDocument sample (serialEnv 2 16) colonWorkspace.store
        (sampleDocument "acme:core" "eu" "alpha" none) = .ok result ∧
      result.2.document.organizationId = "acme" ∧ result.2.job.workspaceId = "core:eu" ∧
      ¬ result.2.InScope "acme:core" "eu" := by
  refine ⟨sample_injective, colonWorkspace_reachable, ?_⟩
  decide +kernel

theorem enqueue_inScope_colonWorkspace :
    ∃ result, enqueueDocument sample (serialEnv 2 16) colonWorkspace.store
        (sampleDocument "acme" "core:eu" "alpha" none) = .ok result ∧ result.2.deduplicated = true ∧
      ScopesApart sample colonWorkspace.store.ingestion (sampleDocument "acme" "core:eu" "alpha" none) := by
  have answered : ∃ result, enqueueDocument sample (serialEnv 2 16) colonWorkspace.store
      (sampleDocument "acme" "core:eu" "alpha" none) = .ok result ∧ result.2.deduplicated = true ∧
      result.2.InScope "acme" "core:eu" := by decide +kernel
  obtain ⟨result, run, deduplicated, inScope⟩ := answered
  have apart := enqueue_inScope_iff colonWorkspace_reachable sample_injective (.unlimited run)
  exact ⟨result, run, deduplicated, apart.mp inScope⟩

end Hangar
