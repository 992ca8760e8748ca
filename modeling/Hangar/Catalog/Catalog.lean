import Hangar.Store.Tables

namespace Hangar

open Lib

structure NewAgentSkill where
  organizationId : String
  workspaceId : String
  name : String
  description : String
  content : String
  capabilities : SkillCapabilities
  createdBy : Uuid

structure NewGuardrailPolicy where
  organizationId : String
  workspaceId : String
  name : String
  rules : List GuardrailRule
  createdBy : Uuid

structure GuardrailDecision where
  allowed : Bool
  action : GuardrailAction
  target : String
  reason : String
  evaluatedPolicyIds : List Uuid
  matchedRuleIds : List String
  retrievedContentIsUntrusted : Bool
deriving DecidableEq

structure IssuedApiKey where
  id : Uuid
  token : String
  organizationId : String
  workspaceId : Option String
  role : Role
  subjectKind : SubjectKind
deriving DecidableEq

def SkillLifecycle.toJson : SkillLifecycle → Json
  | .draft => .str "draft"
  | .published => .str "published"
  | .revoked => .str "revoked"

def PolicyLifecycle.toJson : PolicyLifecycle → Json
  | .draft => .str "draft"
  | .enforced => .str "enforced"
  | .retired => .str "retired"

def validateScope (organizationId workspaceId : String) : Result Unit := do
  check (!isBlank organizationId ∧ organizationId.utf8ByteSize ≤ 256)
    "organization_id must be between 1 and 256 characters"
  check (!isBlank workspaceId ∧ workspaceId.utf8ByteSize ≤ 256)
    "workspace_id must be between 1 and 256 characters"

def isCatalogChar (c : Char) : Bool := c.isAlphanum || c == '-' || c == '_' || c == '.' || c == '/'

def validateCatalogName (value label : String) : Result Unit :=
  check (!isBlank value ∧ value.utf8ByteSize ≤ 128 ∧ value.toList.all isCatalogChar)
    (label ++ " must use 1-128 ASCII letters, digits, '-', '_', '.', or '/'")

def validateCapabilities (capabilities : SkillCapabilities) : Result Unit := do
  check (capabilities.declaredTools.length ≤ 32) "a skill may declare at most 32 tools"
  check (capabilities.declaredContextActions.length ≤ 8) "a skill may declare at most 8 context actions"
  capabilities.declaredTools.forM fun tool => validateCatalogName tool "declared tool"

def validateGuardrailRules (rules : List GuardrailRule) : Result Unit := do
  check (rules ≠ [] ∧ rules.length ≤ 128) "a guardrail policy must contain 1-128 rules"
  let _ ← rules.foldlM (fun (ids : List String) rule => do
    validateCatalogName rule.id "guardrail rule id"
    check (rule.id ∉ ids) "guardrail rule ids must be unique"
    check (rule.roles.length ≤ 3) "a rule may list at most 3 roles"
    check (rule.targets.length ≤ 64) "a rule may list at most 64 targets"
    rule.targets.forM fun target =>
      check (target = "*" ∨ (!isBlank target ∧ target.utf8ByteSize ≤ 512))
        "guardrail targets must be '*' or 1-512 non-empty characters"
    return rule.id :: ids) []

/-- `max().unwrap_or(0).saturating_add(1)` on `u32` versions. -/
def nextVersion (versions : List Nat) : Nat := min (versions.foldl max 0 + 1) (2 ^ 32 - 1)

variable (x : Externals) (env : Env)

def newSkill (new : NewAgentSkill) (version : Nat) : AgentSkill where
  id := env.uuid 0
  organizationId := new.organizationId
  workspaceId := new.workspaceId
  name := new.name
  version := version
  description := new.description
  content := new.content
  contentSha256 := x.sha256Text new.content
  capabilities := new.capabilities
  lifecycle := .draft
  createdBy := new.createdBy
  createdAtUnixMs := env.now
  updatedAtUnixMs := env.now

def Store.writeSkill (skill : AgentSkill) (key : Uuid) (s : Store) : Store :=
  { s with catalog := { s.catalog with agentSkills := s.catalog.agentSkills.insert key skill } }

def createSkill (new : NewAgentSkill) (s : Store) : Result (Store × AgentSkill) := do
  validateScope new.organizationId new.workspaceId
  validateCatalogName new.name "skill name"
  check (!isBlank new.description ∧ new.description.utf8ByteSize ≤ 2000)
    "skill description must be between 1 and 2000 characters"
  check (!isBlank new.content ∧ new.content.utf8ByteSize ≤ 64 * 1024)
    "skill content must be between 1 and 65536 characters"
  validateCapabilities new.capabilities
  let versions := ((Table.rows s.catalog.agentSkills).filter fun skill =>
    inScope new.organizationId new.workspaceId skill.organizationId skill.workspaceId &&
      skill.name == new.name).map AgentSkill.version
  let skill := newSkill x env new (nextVersion versions)
  let journal := insertOutboxEvent env (env.uuid 1) "skill.created.v1" ("skills/" ++ skill.id.text)
    skill.organizationId (some skill.workspaceId)
    (.obj [("skill_id", .str skill.id.text), ("name", .str skill.name), ("version", .num skill.version)])
    s.journal
  return ({ s.writeSkill skill skill.id with journal := journal }, skill)

def SkillLifecycle.canTransitionTo : SkillLifecycle → SkillLifecycle → Bool
  | .draft, .published => true
  | .draft, .revoked => true
  | .published, .revoked => true
  | _, _ => false

def transitionSkill (id : Uuid) (organizationId workspaceId : String) (lifecycle : SkillLifecycle) (s : Store) :
    Result (Store × Option AgentSkill) := do
  match s.catalog.agentSkills[id]? with
  | none => return (s, none)
  | some skill =>
    check (inScope organizationId workspaceId skill.organizationId skill.workspaceId)
      "skill not found in this workspace"
    check (skill.lifecycle.canTransitionTo lifecycle) "invalid skill lifecycle transition"
    let skill := { skill with lifecycle := lifecycle, updatedAtUnixMs := env.now }
    let journal := insertOutboxEvent env (env.uuid 0) "skill.lifecycle_changed.v1" ("skills/" ++ skill.id.text)
      skill.organizationId (some skill.workspaceId)
      (.obj [("skill_id", .str skill.id.text), ("lifecycle", skill.lifecycle.toJson),
        ("version", .num skill.version)]) s.journal
    return ({ s.writeSkill skill id with journal := journal }, some skill)

def newPolicy (new : NewGuardrailPolicy) (version : Nat) : GuardrailPolicy where
  id := env.uuid 0
  organizationId := new.organizationId
  workspaceId := new.workspaceId
  name := new.name
  version := version
  lifecycle := .draft
  rules := new.rules
  createdBy := new.createdBy
  createdAtUnixMs := env.now
  updatedAtUnixMs := env.now

def Store.writePolicy (policy : GuardrailPolicy) (key : Uuid) (s : Store) : Store :=
  { s with catalog := { s.catalog with guardrailPolicies := s.catalog.guardrailPolicies.insert key policy } }

def createGuardrailPolicy (new : NewGuardrailPolicy) (s : Store) : Result (Store × GuardrailPolicy) := do
  validateScope new.organizationId new.workspaceId
  validateCatalogName new.name "policy name"
  validateGuardrailRules new.rules
  let versions := ((Table.rows s.catalog.guardrailPolicies).filter fun policy =>
    inScope new.organizationId new.workspaceId policy.organizationId policy.workspaceId &&
      policy.name == new.name).map GuardrailPolicy.version
  let policy := newPolicy env new (nextVersion versions)
  let journal := insertOutboxEvent env (env.uuid 1) "guardrail_policy.created.v1"
    ("guardrail-policies/" ++ policy.id.text) policy.organizationId (some policy.workspaceId)
    (.obj [("policy_id", .str policy.id.text), ("name", .str policy.name), ("version", .num policy.version)])
    s.journal
  return ({ s.writePolicy policy policy.id with journal := journal }, policy)

def PolicyLifecycle.canTransitionTo : PolicyLifecycle → PolicyLifecycle → Bool
  | .draft, .enforced => true
  | .draft, .retired => true
  | .enforced, .retired => true
  | _, _ => false

def transitionGuardrailPolicy (id : Uuid) (organizationId workspaceId : String) (lifecycle : PolicyLifecycle)
    (s : Store) : Result (Store × Option GuardrailPolicy) := do
  match s.catalog.guardrailPolicies[id]? with
  | none => return (s, none)
  | some policy =>
    check (inScope organizationId workspaceId policy.organizationId policy.workspaceId)
      "guardrail policy not found in this workspace"
    check (policy.lifecycle.canTransitionTo lifecycle) "invalid guardrail policy lifecycle transition"
    let policy := { policy with lifecycle := lifecycle, updatedAtUnixMs := env.now }
    let journal := insertOutboxEvent env (env.uuid 0) "guardrail_policy.lifecycle_changed.v1"
      ("guardrail-policies/" ++ policy.id.text) policy.organizationId (some policy.workspaceId)
      (.obj [("policy_id", .str policy.id.text), ("lifecycle", policy.lifecycle.toJson),
        ("version", .num policy.version)]) s.journal
    return ({ s.writePolicy policy id with journal := journal }, some policy)

section
variable (organizationId workspaceId : String) (role : Role) (action : GuardrailAction) (target : String)

def GuardrailRule.applies (rule : GuardrailRule) : Bool :=
  rule.action == action && (rule.roles.isEmpty || rule.roles.contains role) &&
    (rule.targets.isEmpty || rule.targets.any fun candidate => candidate == "*" || candidate == target)

def enforcedPolicies (s : Store) : List GuardrailPolicy :=
  (Table.rows s.catalog.guardrailPolicies).filter fun policy =>
    inScope organizationId workspaceId policy.organizationId policy.workspaceId &&
      policy.lifecycle == .enforced

def matchedRules (s : Store) : List (GuardrailPolicy × GuardrailRule) :=
  (enforcedPolicies organizationId workspaceId s).flatMap fun policy =>
    (policy.rules.filter (GuardrailRule.applies role action target)).map fun rule => (policy, rule)

def evaluateGuardrail (s : Store) : Result GuardrailDecision := do
  validateScope organizationId workspaceId
  check (!isBlank target ∧ target.utf8ByteSize ≤ 512) "target must be between 1 and 512 characters"
  let rules := matchedRules organizationId workspaceId role action target s
  let anyAllow := rules.any fun matched => matched.2.effect == .allow
  let anyDeny := rules.any fun matched => matched.2.effect == .deny
  let reason :=
    if anyDeny then "denied by an enforced guardrail rule"
    else if anyAllow then "allowed by an enforced guardrail rule"
    else "allowed by the baseline policy (no enforced matching rule)"
  return {
    allowed := !anyDeny
    action := action
    target := target
    reason := reason
    evaluatedPolicyIds := (enforcedPolicies organizationId workspaceId s).map GuardrailPolicy.id
    matchedRuleIds := rules.map fun matched => matched.1.id.text ++ ":" ++ matched.2.id
    retrievedContentIsUntrusted := true }

end

def Uuid.simple (id : Uuid) : String := String.ofList (id.text.toList.filter fun c => c != '-')

def issueApiKeyForSubject (organizationId : String) (workspaceId : Option String) (role : Role)
    (subjectKind : SubjectKind) (s : Store) : Result (Store × IssuedApiKey) := do
  check (!isBlank organizationId) "organization_id cannot be empty"
  check (workspaceId.all fun workspaceId => !isBlank workspaceId) "workspace_id cannot be empty"
  let token := "hk_" ++ (env.uuid 1).simple ++ (env.uuid 2).simple
  let tokenHash := x.sha256Text token
  let record : ApiKeyRecord :=
    { principal :=
        { id := env.uuid 0
          organizationId := organizationId
          workspaceId := workspaceId
          role := role
          subjectKind := subjectKind }
      tokenHash := tokenHash
      createdAtUnixMs := env.now }
  return ({ s with apiKeys := s.apiKeys.insert tokenHash.text record },
    { id := env.uuid 0
      token := token
      organizationId := organizationId
      workspaceId := workspaceId
      role := role
      subjectKind := subjectKind })

def authenticate (token : String) (s : Store) : Option Principal :=
  s.apiKeys[(x.sha256Text token).text]?.map ApiKeyRecord.principal

end Hangar
