import Hangar.Catalog.History

namespace Hangar

open Lib

def Store.Enforces (s : Store) (organizationId workspaceId : String) (rule : GuardrailRule) : Prop :=
  ∃ (id : Uuid) (policy : GuardrailPolicy), s.catalog.guardrailPolicies[id]? = some policy ∧
    policy.organizationId = organizationId ∧ policy.workspaceId = workspaceId ∧ policy.lifecycle = .enforced ∧
    rule ∈ policy.rules

structure GuardrailQuestion where
  organizationId : String
  workspaceId : String
  role : Role
  action : GuardrailAction
  target : String

variable (question : GuardrailQuestion)

def GuardrailRule.Forbids (rule : GuardrailRule) : Prop :=
  rule.effect = .deny ∧ rule.action = question.action ∧ (rule.roles = [] ∨ question.role ∈ rule.roles) ∧
    (rule.targets = [] ∨ "*" ∈ rule.targets ∨ question.target ∈ rule.targets)

structure GuardrailQuestion.Valid : Prop where
  scope : validateScope question.organizationId question.workspaceId = .ok ()
  named : isBlank question.target = false
  short : question.target.utf8ByteSize ≤ 512

def Store.answer (s : Store) : Result GuardrailDecision :=
  evaluateGuardrail question.organizationId question.workspaceId question.role question.action question.target s

def Store.Denies (s : Store) : Prop := ∃ decision, s.answer question = .ok decision ∧ decision.allowed = false

def Store.withoutPolicy (s : Store) (id : Uuid) : Store :=
  { s with catalog := { s.catalog with guardrailPolicies := s.catalog.guardrailPolicies.erase id } }

variable {question} {s s' : Store}

theorem enforces_iff {organizationId workspaceId : String} {rule : GuardrailRule} :
    s.Enforces organizationId workspaceId rule ↔
      ∃ policy ∈ enforcedPolicies organizationId workspaceId s, rule ∈ policy.rules := by
  unfold Store.Enforces enforcedPolicies
  simp only [List.mem_filter, Table.mem_rows, Bool.and_eq_true, inScope_iff, beq_iff_eq]
  constructor
  · rintro ⟨id, policy, stored, organization, workspace, enforced, listed⟩
    exact ⟨policy, ⟨⟨id, stored⟩, ⟨organization, workspace⟩, enforced⟩, listed⟩
  · rintro ⟨policy, ⟨⟨id, stored⟩, ⟨organization, workspace⟩, enforced⟩, listed⟩
    exact ⟨id, policy, stored, organization, workspace, enforced, listed⟩

theorem applies_iff {rule : GuardrailRule} :
    rule.effect = .deny ∧ rule.applies question.role question.action question.target = true ↔ rule.Forbids question := by
  have targets : (∃ candidate ∈ rule.targets, candidate = "*" ∨ candidate = question.target) ↔
      "*" ∈ rule.targets ∨ question.target ∈ rule.targets := by
    simp only [and_or_left, exists_or, exists_eq_right]
  unfold GuardrailRule.applies GuardrailRule.Forbids
  simp [and_assoc, targets]

theorem GuardrailQuestion.Valid.answered (valid : question.Valid) : ∃ decision, s.answer question = .ok decision := by
  have named : check (!isBlank question.target ∧ question.target.utf8ByteSize ≤ 512)
      "target must be between 1 and 512 characters" = .ok () :=
    ensure_eq_ok.mpr ⟨by simp [valid.named], valid.short⟩
  unfold Store.answer evaluateGuardrail
  apply bind_succeeds valid.scope
  apply bind_succeeds named
  exact ⟨_, rfl⟩

theorem valid_of_answered {decision : GuardrailDecision} (answered : s.answer question = .ok decision) :
    question.Valid := by
  unfold Store.answer evaluateGuardrail at answered
  obtain ⟨⟨⟩, scope, answered⟩ := bind_eq_ok.mp answered
  obtain ⟨⟨⟩, named, _⟩ := bind_eq_ok.mp answered
  obtain ⟨named, short⟩ := ensure_eq_ok.mp named
  exact ⟨scope, by simpa using named, short⟩

theorem denies_iff :
    s.Denies question ↔
      question.Valid ∧ ∃ rule, s.Enforces question.organizationId question.workspaceId rule ∧ rule.Forbids question := by
  have verdict {decision : GuardrailDecision} (valid : question.Valid) (answered : s.answer question = .ok decision) :
      decision.allowed = false ↔ ∃ rule, s.Enforces question.organizationId question.workspaceId rule ∧
        rule.Forbids question := by
    let scope : Scope := ⟨question.organizationId, question.workspaceId⟩
    let guarded : Guarded := ⟨question.action, question.target, valid.named, valid.short⟩
    have denied : decision.allowed = false ↔ Denied scope question.role s guarded := evaluateGuardrail_eq_ok answered
    rw [denied]
    unfold Denied
    simp only [enforces_iff, ← applies_iff]
    constructor
    · rintro ⟨policy, enforced, rule, listed, forbids⟩
      exact ⟨rule, ⟨policy, enforced, listed⟩, forbids⟩
    · rintro ⟨rule, ⟨policy, enforced, listed⟩, forbids⟩
      exact ⟨policy, enforced, rule, listed, forbids⟩
  constructor
  · rintro ⟨decision, answered, refused⟩
    have valid := valid_of_answered answered
    exact ⟨valid, (verdict valid answered).mp refused⟩
  · rintro ⟨valid, forbidden⟩
    obtain ⟨decision, answered⟩ := valid.answered (s := s)
    exact ⟨decision, answered, (verdict valid answered).mpr forbidden⟩

theorem answer_withoutPolicy {id : Uuid}
    (idle : ∀ policy, s.catalog.guardrailPolicies[id]? = some policy → policy.lifecycle ≠ .enforced) :
    (s.withoutPolicy id).answer question = s.answer question := by
  have same (organizationId workspaceId : String) :
      enforcedPolicies organizationId workspaceId (s.withoutPolicy id) = enforcedPolicies organizationId workspaceId s := by
    unfold enforcedPolicies
    rw [← Table.rows_filter, ← Table.rows_filter]
    congr 1
    apply Table.filter_eq_filter
    intro id' policy
    rw [Store.withoutPolicy, Table.find_erase]
    split
    · rename_i erased
      subst erased
      constructor
      · rintro ⟨found, _⟩
        cases found
      · rintro ⟨stored, listed⟩
        rw [Bool.and_eq_true, beq_iff_eq] at listed
        exact absurd listed.2 (idle policy stored)
    · rfl
  unfold Store.answer evaluateGuardrail matchedRules
  simp only [same]

variable {x : Externals} {engines : SearchEngines} {server server' : Server} {event : Event}

theorem Step.enforces (taken : Step x engines server event server') {id : Uuid} {organizationId workspaceId : String}
    (enforced : event.op = .catalog (.transitionGuardrailPolicy id organizationId workspaceId .enforced))
    {organizationId' workspaceId' : String} {rule : GuardrailRule}
    (before : server.store.Enforces organizationId' workspaceId' rule) :
    server'.store.Enforces organizationId' workspaceId' rule := by
  have after : server'.store = (callCatalog x event.env
      (.transitionGuardrailPolicy id organizationId workspaceId .enforced) server.store).1 := by
    rw [taken.next]
    change (callStore x engines event.env event.op server.store).1 = _
    rw [enforced]
    rfl
  rw [after]
  unfold callCatalog
  cases run : transitionGuardrailPolicy event.env id organizationId workspaceId .enforced server.store with
  | error e =>
    rw [transaction_of_error run]
    exact before
  | ok result =>
    rw [transaction_of_ok run]
    rcases transitionGuardrailPolicy_ok run with same | ⟨policy, stored, valid, written⟩
    · rw [same]
      exact before
    · obtain ⟨id', policy', stored', organization, workspace, lifecycle, listed⟩ := before
      have other : id ≠ id' := by
        rintro rfl
        rw [stored] at stored'
        cases stored'
        rw [lifecycle] at valid
        cases valid
      refine ⟨id', policy', ?_, organization, workspace, lifecycle, listed⟩
      rw [written]
      exact (Table.find_insert_ne other).trans stored'

variable {provider : EmbeddingProvider} {trace : List (Server × Event)}

theorem guardrails_deny_overrides (run : Run (Step x engines) (Server.initial provider) trace server)
    (question : GuardrailQuestion) :
    ((∃ decision, server.store.answer question = .ok decision) ↔ question.Valid) ∧
      (server.store.Denies question ↔ question.Valid ∧
        ∃ rule, server.store.Enforces question.organizationId question.workspaceId rule ∧ rule.Forbids question) ∧
      (∀ s' : Store,
        (∀ rule, rule.effect = .deny →
          (s'.Enforces question.organizationId question.workspaceId rule ↔
            server.store.Enforces question.organizationId question.workspaceId rule)) →
        (s'.Denies question ↔ server.store.Denies question)) ∧
      (∀ event server' id organizationId workspaceId, Step x engines server event server' →
        event.op = .catalog (.transitionGuardrailPolicy id organizationId workspaceId .enforced) →
        server.store.Denies question → server'.store.Denies question) ∧
      ∀ p ∈ trace, ∀ (id : Uuid) policy, p.1.store.catalog.guardrailPolicies[id]? = some policy →
        policy.lifecycle = .retired → (server.store.withoutPolicy id).answer question = server.store.answer question := by
  refine ⟨?_, denies_iff, ?_, ?_, ?_⟩
  · constructor
    · rintro ⟨decision, answered⟩
      exact valid_of_answered answered
    · exact fun valid => valid.answered
  · intro s' same
    rw [denies_iff, denies_iff]
    apply and_congr_right
    intro _
    apply exists_congr
    intro rule
    apply and_congr_left
    exact fun forbids => same rule forbids.1
  · intro event server' id organizationId workspaceId taken enforced denied
    obtain ⟨valid, rule, enforces, forbids⟩ := denies_iff.mp denied
    exact denies_iff.mpr ⟨valid, rule, taken.enforces enforced enforces, forbids⟩
  · intro p member id policy stored retired
    obtain ⟨later, stored', continues⟩ := (run_continues run member).policies id policy stored
    apply answer_withoutPolicy
    intro policy' found
    rw [stored'] at found
    cases found
    rw [continues.terminal retired, retired]
    decide

def memoriesOffLimits : GuardrailRule := ⟨"no-memories", .memoryRead, .deny, [.reader], ["*"]⟩

/-- A policy that is enforced after an older one of its name was retired. -/
def offLimitsCalls : List (Nat × Op) :=
  [(1, .catalog (.createGuardrailPolicy ⟨"acme", "core", "limits", [memoriesOffLimits], Uuid.nil⟩)),
    (2, .catalog (.transitionGuardrailPolicy (serialUuid 0) "acme" "core" .retired)),
    (3, .catalog (.createGuardrailPolicy ⟨"acme", "core", "limits", [memoriesOffLimits], Uuid.nil⟩)),
    (4, .catalog (.transitionGuardrailPolicy (serialUuid 32) "acme" "core" .enforced))]

theorem guardrails_deny_overrides_memories :
    (freshRun sample noHits offLimitsCalls).store.Denies ⟨"acme", "core", .reader, .memoryRead, "memories"⟩ := by
  have legal : SerialLegal sample noHits (Server.initial .hashingV1) 0 offLimitsCalls := by decide +kernel
  have enforced : ∃ policy ∈ enforcedPolicies "acme" "core" (freshRun sample noHits offLimitsCalls).store,
      memoriesOffLimits ∈ policy.rules := by decide +kernel
  apply (guardrails_deny_overrides (serialRun_run legal) _).2.1.mpr
  refine ⟨⟨by decide, by decide, by decide⟩, memoriesOffLimits, enforces_iff.mpr enforced, ?_⟩
  simp [GuardrailRule.Forbids, memoriesOffLimits]

end Hangar
