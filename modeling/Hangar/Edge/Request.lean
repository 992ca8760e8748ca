import Hangar.Catalog.Catalog
import Hangar.Knowledge.Context
import Hangar.Knowledge.Sessions

namespace Hangar

open Lib

/-- A header value through its `to_str`, which has no text where the value is not visible ASCII. -/
structure HeaderValue where
  toStr : Option String

/-- The `authorization` header of a request, over HTTP, or its metadata of that name, over gRPC. -/
abbrev Headers : Type := Option HeaderValue

structure Scope where
  organizationId : String
  workspaceId : String
deriving DecidableEq

inductive Operation where
  | createMemory
  | getMemory
  | retrieveMemories
  | retrieveDocuments
  | compileContextPackage
  | createWorkingSession
  | getWorkingSession
  | appendWorkingMemory
  | updateWorkingSummary
  | promoteWorkingMemory
deriving DecidableEq

def Role.allows : Role → Role → Bool
  | .owner, _ => true
  | .writer, .writer => true
  | .writer, .reader => true
  | .reader, .reader => true
  | _, _ => false

structure Guarded where
  action : GuardrailAction
  target : String
  named : isBlank target = false := by decide
  short : target.utf8ByteSize ≤ 512 := by decide
deriving DecidableEq

-- The reads the edges ask the guardrail about.

def oneMemory : Guarded := { action := .memoryRead, target := "memory" }

/-- The target of the gRPC guardrail on memory retrieval, where HTTP asks about one memory. -/
def allMemories : Guarded := { action := .memoryRead, target := "memories" }

def allDocuments : Guarded := { action := .contextRead, target := "documents" }

def contextPackageRead : Guarded := { action := .contextRead, target := "context-package" }

def workingSessionRead : Guarded := { action := .memoryRead, target := "working-session" }

structure AccessRule where
  role : Role
  guarded : Option Guarded
deriving DecidableEq

section
variable (x : Externals) (headers : Headers) (scope : Scope) (role : Role) (s : Store)

def presentedKey : Option String :=
  headers.bind fun value => value.toStr.bind fun text =>
    (stripPrefix "Bearer " text).filter fun token => token ≠ ""

def Principal.mayAct (principal : Principal) : Bool :=
  principal.organizationId == scope.organizationId && principal.role.allows role &&
    principal.workspaceId.all fun workspaceId => workspaceId == scope.workspaceId

def Authorized (principal : Principal) : Prop :=
  ∃ token, presentedKey headers = some token ∧ authenticate x token s = some principal ∧
    principal.mayAct scope role = true

def Denied (guarded : Guarded) : Prop :=
  ∃ policy ∈ enforcedPolicies scope.organizationId scope.workspaceId s, ∃ rule ∈ policy.rules,
    rule.effect = .deny ∧ rule.applies role guarded.action guarded.target = true

def Scope.Valid : Prop := validateScope scope.organizationId scope.workspaceId = .ok ()

/-- What access control means: the caller is authorized, and no guardrail that can be evaluated denies. -/
def AccessRule.Permits (rule : AccessRule) : Prop :=
  ∃ principal, Authorized x headers scope rule.role s principal ∧
    ∀ guarded, rule.guarded = some guarded → scope.Valid → ¬Denied scope principal.role s guarded

end

variable {x : Externals} {headers : Headers} {scope : Scope} {role : Role} {s : Store} {principal : Principal}

theorem Authorized.unique {principal' : Principal} {role' : Role}
    (first : Authorized x headers scope role s principal)
    (second : Authorized x headers scope role' s principal') : principal = principal' := by
  obtain ⟨token, presented, known, _⟩ := first
  obtain ⟨token', presented', known', _⟩ := second
  rw [presented] at presented'
  cases presented'
  rw [known] at known'
  exact Option.some.inj known'

theorem Authorized.organization (authorized : Authorized x headers scope role s principal) :
    principal.organizationId = scope.organizationId := by
  obtain ⟨_, _, _, acts⟩ := authorized
  simp only [Principal.mayAct, Bool.and_eq_true, beq_iff_eq] at acts
  exact acts.1.1

theorem AccessRule.not_permits_iff {rule : AccessRule} (authorized : Authorized x headers scope rule.role s principal) :
    ¬rule.Permits x headers scope s ↔
      ∃ guarded, rule.guarded = some guarded ∧ scope.Valid ∧ Denied scope principal.role s guarded := by
  unfold AccessRule.Permits
  constructor
  · intro refused
    by_contra clear
    apply refused
    refine ⟨principal, authorized, fun guarded asked valid denied => ?_⟩
    exact clear ⟨guarded, asked, valid, denied⟩
  · intro denied permitted
    obtain ⟨guarded, asked, valid, denied⟩ := denied
    obtain ⟨principal', authorized', clear⟩ := permitted
    have same := authorized.unique authorized'
    subst same
    exact clear guarded asked valid denied

theorem evaluateGuardrail_eq_ok {guarded : Guarded} {decision : GuardrailDecision}
    (run : evaluateGuardrail scope.organizationId scope.workspaceId role guarded.action guarded.target s =
      .ok decision) :
    decision.allowed = false ↔ Denied scope role s guarded := by
  unfold evaluateGuardrail at run
  obtain ⟨_, _, run⟩ := bind_eq_ok.mp run
  obtain ⟨_, _, run⟩ := bind_eq_ok.mp run
  cases run
  simp only [Bool.not_eq_false', List.any_eq_true, beq_iff_eq]
  unfold Denied matchedRules
  constructor
  · intro matched
    obtain ⟨⟨policy, rule⟩, member, denies⟩ := matched
    simp only [List.mem_flatMap, List.mem_map, List.mem_filter, Prod.mk.injEq] at member
    obtain ⟨_, enforced, _, ⟨listed, applies⟩, rfl, rfl⟩ := member
    exact ⟨_, enforced, _, listed, denies, applies⟩
  · intro denied
    obtain ⟨policy, enforced, rule, listed, denies, applies⟩ := denied
    refine ⟨(policy, rule), ?_, denies⟩
    simp only [List.mem_flatMap, List.mem_map, List.mem_filter]
    exact ⟨policy, enforced, rule, ⟨listed, applies⟩, rfl⟩

theorem evaluateGuardrail_succeeds {guarded : Guarded} :
    (∃ decision, evaluateGuardrail scope.organizationId scope.workspaceId role guarded.action guarded.target s =
      .ok decision) ↔ scope.Valid := by
  unfold Scope.Valid evaluateGuardrail
  constructor
  · intro run
    obtain ⟨decision, run⟩ := run
    obtain ⟨⟨⟩, valid, _⟩ := bind_eq_ok.mp run
    exact valid
  · intro valid
    have named : check (!isBlank guarded.target ∧ guarded.target.utf8ByteSize ≤ 512)
        "target must be between 1 and 512 characters" = .ok () :=
      ensure_eq_ok.mpr ⟨by simp [guarded.named], guarded.short⟩
    apply bind_succeeds valid
    apply bind_succeeds named
    exact ⟨_, rfl⟩

theorem evaluateGuardrail_denies {guarded : Guarded} :
    (∃ decision, evaluateGuardrail scope.organizationId scope.workspaceId role guarded.action guarded.target s =
      .ok decision ∧ decision.allowed = false) ↔ scope.Valid ∧ Denied scope role s guarded := by
  constructor
  · intro denied
    obtain ⟨decision, run, forbids⟩ := denied
    exact ⟨evaluateGuardrail_succeeds.mp ⟨decision, run⟩, (evaluateGuardrail_eq_ok run).mp forbids⟩
  · intro denied
    obtain ⟨decision, run⟩ := evaluateGuardrail_succeeds.mpr denied.1
    exact ⟨decision, run, (evaluateGuardrail_eq_ok run).mpr denied.2⟩

end Hangar
