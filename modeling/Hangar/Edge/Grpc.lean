import Hangar.Edge.Request

/-! The gRPC methods. Each draws the instants and ids of its locks of the store, in order, from `env`. -/

namespace Hangar.Grpc

open Lib

inductive Code where
  | invalidArgument
  | notFound
  | permissionDenied
  | internal
  | unauthenticated
deriving DecidableEq

structure Status where
  code : Code
  message : String
deriving DecidableEq

def Status.Refuses (status : Status) : Prop := status.code = .unauthenticated ∨ status.code = .permissionDenied

instance : DecidablePred Status.Refuses := fun status =>
  inferInstanceAs (Decidable (status.code = .unauthenticated ∨ status.code = .permissionDenied))

def internalStatus (_ : Failure) : Status := ⟨.internal, "Hangar core operation failed"⟩

abbrev Rpc (α : Type) : Type := Program Store Status α

/-- `map_err(internal_status)` on a call of the locked store. -/
def core {α : Type} (call : Call α) : Rpc α := call.mapError internalStatus

structure CreateMemoryRequest where
  scope : Option Scope
  content : String
  source : Option String
  confidence : Option ℚ
  expiresAtUnixMs : Option Nat

structure GetMemoryRequest where
  scope : Option Scope
  memoryId : String

structure RetrieveRequest where
  scope : Option Scope
  query : String
  limit : Nat

structure ContextPackageRequest where
  scope : Option Scope
  query : String
  tokenBudget : Nat
  limit : Nat

structure CreateWorkingSessionRequest where
  scope : Option Scope
  ttlMs : Option Nat

structure GetWorkingSessionRequest where
  scope : Option Scope
  sessionId : String

structure AppendWorkingMemoryRequest where
  scope : Option Scope
  sessionId : String
  kind : String
  content : String

structure UpdateWorkingSummaryRequest where
  scope : Option Scope
  sessionId : String
  content : String

structure PromoteWorkingMemoryRequest where
  scope : Option Scope
  sessionId : String
  entryId : String
  source : Option String
  confidence : Option ℚ
  expiresAtUnixMs : Option Nat

structure MemoryRetrievalResponse where
  query : String
  results : List Memory

structure DocumentRetrievalResponse where
  query : String
  results : List RetrievedChunk
  retrievedContentIsUntrusted : Bool

def requiredScope (scope : Option Scope) : Except Status Scope := do
  let scope ← context scope ⟨.invalidArgument, "scope is required"⟩
  ensure (!isBlank scope.organizationId ∧ !isBlank scope.workspaceId)
    ⟨.invalidArgument, "organization_id and workspace_id are required"⟩
  return scope

def workingKind (value : String) : Except Status WorkingMemoryKind :=
  if value = "" ∨ value = "note" then .ok .note
  else if value = "tool_output" then .ok .toolOutput
  else if value = "observation" then .ok .observation
  else .error ⟨.invalidArgument, "kind must be note, tool_output, or observation"⟩

-- `parse` stands for `Uuid::parse_str`
variable (x : Externals) (engines : SearchEngines) (parse : String → Option Uuid) (env : Nat → Env)
  (limits : WorkspaceLimits) (headers : Headers)

def parsedId (field text : String) : Rpc Uuid :=
  Program.query fun _ => context (parse text) ⟨.invalidArgument, "invalid " ++ field⟩

def authorize (scope : Scope) (role : Role) (s : Store) : Except Status Principal := do
  ensure (!isBlank scope.organizationId ∧ !isBlank scope.workspaceId)
    ⟨.invalidArgument, "organization_id and workspace_id are required"⟩
  let value ← context headers ⟨.unauthenticated, "missing authorization metadata"⟩
  let value ← context value.toStr ⟨.unauthenticated, "invalid authorization metadata"⟩
  let token ← context ((stripPrefix "Bearer " value).filter fun token => token ≠ "")
    ⟨.unauthenticated, "expected Bearer API key"⟩
  let principal ← context (authenticate x token s) ⟨.unauthenticated, "invalid API key"⟩
  ensure (principal.organizationId = scope.organizationId ∧ principal.role.allows role)
    ⟨.permissionDenied, "API key is not permitted for this operation"⟩
  ensure (principal.workspaceId.all fun workspaceId => workspaceId == scope.workspaceId)
    ⟨.permissionDenied, "API key is not permitted for this workspace"⟩
  return principal

def audit (env : Env) (principal : Principal) (scope : Scope) (action target : String) : Rpc Unit := do
  Program.query fun _ => ensure (principal.organizationId = scope.organizationId)
    ⟨.internal, "principal scope changed during request"⟩
  core (Program.update fun s => Hangar.audit env s principal action target)

def enforceGuardrail (env : Env) (principal : Principal) (scope : Scope) (action : GuardrailAction)
    (target : String) : Rpc Unit := do
  let decision ← core (Program.query
    (evaluateGuardrail principal.organizationId scope.workspaceId principal.role action target))
  let auditAction := if decision.allowed then "guardrail.decision.allowed" else "guardrail.decision.denied"
  core (Program.update fun s => Hangar.audit env s principal auditAction
    (decision.action.asStr ++ ":" ++ decision.target))
  if decision.allowed then return ()
  else Program.fail ⟨.permissionDenied, "guardrail denied request: " ++ decision.reason⟩

def enforceRule (env : Env) (principal : Principal) (scope : Scope) (rule : AccessRule) : Rpc Unit :=
  match rule.guarded with
  | some guarded => enforceGuardrail env principal scope guarded.action guarded.target
  | none => pure ()

section
variable {α : Type}

def method (rule : AccessRule) (scope : Option Scope) (perform : Principal → Scope → Rpc α) : Rpc α := do
  let scope ← Program.query fun _ => requiredScope scope
  let principal ← Program.query (authorize x headers scope rule.role)
  enforceRule (env 0) principal scope rule
  perform principal scope

def audited (principal : Principal) (scope : Scope) (call : Rpc α) (action : String) (target : α → String) :
    Rpc α := do
  let result ← call
  audit (env 2) principal scope action (target result)
  return result

/-- `ok_or_else(|| Status::not_found(message))`. -/
def orMissing (call : Call (Option α)) (message : String) : Rpc α := do
  let result ← core call
  Program.query fun _ => context result ⟨.notFound, message⟩

end

def createMemory (input : CreateMemoryRequest) : Rpc Memory :=
  method x env headers ⟨.writer, none⟩ input.scope fun principal scope => do
    let memory ← core (Program.transaction (createMemoryWithLimits x (env 1)
      { organizationId := scope.organizationId
        workspaceId := scope.workspaceId
        content := input.content
        source := input.source
        createdBy := principal.id
        confidence := input.confidence.getD 1
        expiresAtUnixMs := input.expiresAtUnixMs
        provenance := .direct } limits))
    -- recorded under the lock that created the memory, without the comparison `audit` makes
    core (Program.update fun s => Hangar.audit (env 2) s principal "memory.create" memory.id.text)
    return memory

def getMemory (input : GetMemoryRequest) : Rpc Memory :=
  method x env headers ⟨.reader, some oneMemory⟩ input.scope
    fun principal scope => do
      let id ← parsedId parse "memory_id" input.memoryId
      audited env principal scope
        (orMissing (Hangar.getMemory (env 1) scope.organizationId scope.workspaceId id)
          "memory not found in this workspace")
        "memory.read" fun memory => memory.id.text

def retrieveMemories (input : RetrieveRequest) : Rpc MemoryRetrievalResponse :=
  method x env headers ⟨.reader, some allMemories⟩ input.scope
    fun principal scope => do
      let results ← audited env principal scope
        (core (Hangar.retrieve x (env 1) scope.organizationId scope.workspaceId input.query
          (max 1 (min input.limit 50))))
        "memory.retrieve" fun _ => "workspace"
      return ⟨input.query, results⟩

def retrieveDocuments (input : RetrieveRequest) : Rpc DocumentRetrievalResponse :=
  method x env headers ⟨.reader, some allDocuments⟩ input.scope
    fun principal scope => do
      let results ← audited env principal scope
        (core (Program.query (retrieveChunks x engines scope.organizationId scope.workspaceId input.query
          (max 1 (min input.limit 50)))))
        "document.retrieve" fun _ => "workspace"
      return ⟨input.query, results, true⟩

def compileContextPackage (input : ContextPackageRequest) : Rpc ContextPackage :=
  method x env headers ⟨.reader, some contextPackageRead⟩ input.scope
    fun principal scope => audited env principal scope
      (core (Hangar.compileContextPackage x engines (env 1) principal scope.workspaceId input.query
        input.tokenBudget (max 1 (min input.limit 50))))
      "context.package.read" fun _ => "workspace"

def createWorkingSession (input : CreateWorkingSessionRequest) : Rpc WorkingSession :=
  method x env headers ⟨.writer, none⟩ input.scope fun principal scope => audited env principal scope
    (core (Hangar.createWorkingSession (env 1)
      { organizationId := scope.organizationId
        workspaceId := scope.workspaceId
        createdBy := principal.id
        ttlMs := input.ttlMs }))
    "session.create" fun session => session.id.text

def getWorkingSession (input : GetWorkingSessionRequest) : Rpc WorkingSession :=
  method x env headers ⟨.reader, some workingSessionRead⟩ input.scope
    fun principal scope => do
      let id ← parsedId parse "session_id" input.sessionId
      audited env principal scope
        (orMissing (Hangar.getWorkingSession (env 1) scope.organizationId scope.workspaceId principal.id id)
          "working session not found")
        "session.read" fun session => session.id.text

def appendWorkingMemory (input : AppendWorkingMemoryRequest) : Rpc WorkingMemoryEntry :=
  method x env headers ⟨.writer, none⟩ input.scope fun principal scope => do
    let sessionId ← parsedId parse "session_id" input.sessionId
    let kind ← Program.query fun _ => workingKind input.kind
    audited env principal scope
      (orMissing (Hangar.appendWorkingMemory x (env 1) scope.organizationId scope.workspaceId principal.id sessionId
        ⟨kind, input.content, principal.id⟩) "working session not found")
      "session.entry.append" fun entry => entry.id.text

def updateWorkingSummary (input : UpdateWorkingSummaryRequest) : Rpc WorkingSession :=
  method x env headers ⟨.writer, none⟩ input.scope fun principal scope => do
    let sessionId ← parsedId parse "session_id" input.sessionId
    audited env principal scope
      (orMissing (Hangar.updateWorkingSummary x (env 1) scope.organizationId scope.workspaceId principal.id sessionId
        input.content) "working session not found")
      "session.summary.update" fun session => session.id.text

def promoteWorkingMemory (input : PromoteWorkingMemoryRequest) : Rpc Memory :=
  method x env headers ⟨.writer, none⟩ input.scope fun principal scope => do
    let sessionId ← parsedId parse "session_id" input.sessionId
    let entryId ← parsedId parse "entry_id" input.entryId
    audited env principal scope
      (orMissing (promoteWorkingMemoryWithLimits x (env 1) scope.organizationId scope.workspaceId principal.id
        sessionId entryId ⟨input.source, input.confidence.getD 1, input.expiresAtUnixMs⟩ limits)
        "working session not found")
      "session.entry.promote" fun memory => memory.id.text

inductive Request where
  | createMemory (input : CreateMemoryRequest)
  | getMemory (input : GetMemoryRequest)
  | retrieveMemories (input : RetrieveRequest)
  | retrieveDocuments (input : RetrieveRequest)
  | compileContextPackage (input : ContextPackageRequest)
  | createWorkingSession (input : CreateWorkingSessionRequest)
  | getWorkingSession (input : GetWorkingSessionRequest)
  | appendWorkingMemory (input : AppendWorkingMemoryRequest)
  | updateWorkingSummary (input : UpdateWorkingSummaryRequest)
  | promoteWorkingMemory (input : PromoteWorkingMemoryRequest)

def Request.operation : Request → Operation
  | .createMemory _ => .createMemory
  | .getMemory _ => .getMemory
  | .retrieveMemories _ => .retrieveMemories
  | .retrieveDocuments _ => .retrieveDocuments
  | .compileContextPackage _ => .compileContextPackage
  | .createWorkingSession _ => .createWorkingSession
  | .getWorkingSession _ => .getWorkingSession
  | .appendWorkingMemory _ => .appendWorkingMemory
  | .updateWorkingSummary _ => .updateWorkingSummary
  | .promoteWorkingMemory _ => .promoteWorkingMemory

def Request.scope : Request → Option Scope
  | .createMemory input => input.scope
  | .getMemory input => input.scope
  | .retrieveMemories input => input.scope
  | .retrieveDocuments input => input.scope
  | .compileContextPackage input => input.scope
  | .createWorkingSession input => input.scope
  | .getWorkingSession input => input.scope
  | .appendWorkingMemory input => input.scope
  | .updateWorkingSummary input => input.scope
  | .promoteWorkingMemory input => input.scope

def serve : Request → Rpc Unit
  | .createMemory input => do let _ ← createMemory x env limits headers input
  | .getMemory input => do let _ ← getMemory x parse env headers input
  | .retrieveMemories input => do let _ ← retrieveMemories x env headers input
  | .retrieveDocuments input => do let _ ← retrieveDocuments x engines env headers input
  | .compileContextPackage input => do let _ ← compileContextPackage x engines env headers input
  | .createWorkingSession input => do let _ ← createWorkingSession x env headers input
  | .getWorkingSession input => do let _ ← getWorkingSession x parse env headers input
  | .appendWorkingMemory input => do let _ ← appendWorkingMemory x parse env headers input
  | .updateWorkingSummary input => do let _ ← updateWorkingSummary x parse env headers input
  | .promoteWorkingMemory input => do let _ ← promoteWorkingMemory x parse env limits headers input

def accessRule : Operation → AccessRule
  | .createMemory => ⟨.writer, none⟩
  | .getMemory => ⟨.reader, some oneMemory⟩
  | .retrieveMemories => ⟨.reader, some allMemories⟩
  | .retrieveDocuments => ⟨.reader, some allDocuments⟩
  | .compileContextPackage => ⟨.reader, some contextPackageRead⟩
  | .createWorkingSession => ⟨.writer, none⟩
  | .getWorkingSession => ⟨.reader, some workingSessionRead⟩
  | .appendWorkingMemory => ⟨.writer, none⟩
  | .updateWorkingSummary => ⟨.writer, none⟩
  | .promoteWorkingMemory => ⟨.writer, none⟩

section
variable {x : Externals} {headers : Headers} {scope : Scope} {role : Role} {s : Store}

def Named (scope : Scope) : Prop := isBlank scope.organizationId = false ∧ isBlank scope.workspaceId = false

theorem Named.check (named : Named scope) : !isBlank scope.organizationId ∧ !isBlank scope.workspaceId := by
  simp [named.1, named.2]

theorem requiredScope_eq_ok (named : Named scope) : requiredScope (some scope) = .ok scope := by
  have present : context (some scope) (⟨.invalidArgument, "scope is required"⟩ : Status) = .ok scope := rfl
  have filled := (ensure_eq_ok (u := ())
    (e := (⟨.invalidArgument, "organization_id and workspace_id are required"⟩ : Status))).mpr named.check
  unfold requiredScope
  rw [bind_of_ok present, bind_of_ok filled]
  rfl

theorem authorize_eq_ok {principal : Principal} (named : Named scope) :
    authorize x headers scope role s = .ok principal ↔ Authorized x headers scope role s principal := by
  unfold authorize Authorized presentedKey Principal.mayAct
  simp only [bind_eq_ok, context_eq_ok, ensure_eq_ok, pure_eq_ok, Option.bind_eq_some_iff]
  simp only [exists_const, Bool.and_eq_true, beq_iff_eq, named.check, true_and]
  constructor
  · intro run
    obtain ⟨value, given, text, legible, token, bears, principal, known, ⟨owned, allows⟩, placed, rfl⟩ := run
    exact ⟨token, ⟨value, given, text, legible, bears⟩, known, ⟨owned, allows⟩, placed⟩
  · intro authorized
    obtain ⟨token, ⟨value, given, text, legible, bears⟩, known, ⟨owned, allows⟩, placed⟩ := authorized
    exact ⟨value, given, text, legible, token, bears, principal, known, ⟨owned, allows⟩, placed, rfl⟩

theorem unauthenticated_refuses {message : String} : (⟨.unauthenticated, message⟩ : Status).Refuses := .inl rfl

theorem permissionDenied_refuses {message : String} : (⟨.permissionDenied, message⟩ : Status).Refuses := .inr rfl

theorem authorize_error {status : Status} (named : Named scope)
    (failed : authorize x headers scope role s = .error status) : status.Refuses := by
  have keyed {α : Type} {value : Option α} {message : String} :
      Lib.Avoids (fun status : Status => ¬status.Refuses) (context value ⟨.unauthenticated, message⟩) :=
    Lib.Avoids.context fun _ => not_not.mpr unauthenticated_refuses
  have allowed {condition : Prop} [Decidable condition] {message : String} :
      Lib.Avoids (fun status : Status => ¬status.Refuses) (ensure condition ⟨.permissionDenied, message⟩) :=
    Lib.Avoids.ensure (not_not.mpr permissionDenied_refuses)
  have filled {status' : Status} : ensure (!isBlank scope.organizationId ∧ !isBlank scope.workspaceId) status' =
      .ok () := ensure_eq_ok.mpr named.check
  have only : Lib.Avoids (fun status : Status => ¬status.Refuses) (authorize x headers scope role s) := by
    unfold authorize
    rw [bind_of_ok filled]
    apply keyed.bind
    intro value _
    apply (keyed.bind fun _ _ => keyed.bind fun _ _ => keyed.bind fun _ _ => ?_)
    exact allowed.bind fun _ _ => allowed.bind fun _ _ => Lib.Avoids.pure
  exact not_not.mp (only status failed)

theorem core_avoids {α : Type} {call : Call α} : Program.Avoids Status.Refuses (core call) := by
  apply Program.Avoids.mapError
  intro error refuses
  simp [Status.Refuses, internalStatus] at refuses

theorem audit_avoids {env : Env} {principal : Principal} {action target : String} :
    Program.Avoids Status.Refuses (audit env principal scope action target) := by
  have checked : ∀ s : Store, Lib.Avoids Status.Refuses (ensure (principal.organizationId = scope.organizationId)
      (⟨.internal, "principal scope changed during request"⟩ : Status)) :=
    fun _ => Lib.Avoids.ensure (by simp [Status.Refuses])
  exact (Program.Avoids.query checked).bind fun _ => core_avoids

theorem audited_avoids {α : Type} {env : Nat → Env} {principal : Principal} {call : Rpc α} {action : String}
    {target : α → String} (quiet : Program.Avoids Status.Refuses call) :
    Program.Avoids Status.Refuses (audited env principal scope call action target) :=
  quiet.bind fun _ => audit_avoids.bind fun _ => Program.Avoids.pure

theorem orMissing_avoids {α : Type} {call : Call (Option α)} {message : String} :
    Program.Avoids Status.Refuses (orMissing call message) := by
  apply core_avoids.bind
  intro result
  apply Program.Avoids.query
  intro s
  exact Lib.Avoids.context fun _ => by simp [Status.Refuses]

theorem parsedId_avoids {parse : String → Option Uuid} {field text : String} :
    Program.Avoids Status.Refuses (parsedId parse field text) := by
  apply Program.Avoids.query
  intro s
  exact Lib.Avoids.context fun _ => by simp [Status.Refuses]

theorem workingKind_avoids {value : String} : Lib.Avoids Status.Refuses (workingKind value) := by
  unfold workingKind
  split
  · exact Lib.Avoids.ok
  split
  · exact Lib.Avoids.ok
  split
  · exact Lib.Avoids.ok
  · exact Lib.Avoids.error (by simp [Status.Refuses])

theorem enforceGuardrail_refuses {env : Env} {principal : Principal} {guarded : Guarded} :
    Program.Fails Status.Refuses (enforceGuardrail env principal scope guarded.action guarded.target) s ↔
      Scope.Valid ⟨principal.organizationId, scope.workspaceId⟩ ∧
        Denied ⟨principal.organizationId, scope.workspaceId⟩ principal.role s guarded := by
  have evaluated {f : Store → Result GuardrailDecision} {decision : GuardrailDecision} :
      (core (Program.query f) s).2 = .ok decision ↔ f s = .ok decision := by
    unfold core Program.mapError Program.query
    cases f s <;> simp
  have settled {s' : Store} {decision : GuardrailDecision} :
      Program.Fails Status.Refuses (if decision.allowed then pure ()
        else Program.fail ⟨.permissionDenied, "guardrail denied request: " ++ decision.reason⟩ : Rpc Unit) s' ↔
        decision.allowed = false := by
    cases decision.allowed with
    | true => simpa using Program.Avoids.pure.not_fails
    | false => simpa [Program.fails_fail] using permissionDenied_refuses
  unfold enforceGuardrail
  rw [Program.fails_avoids_bind core_avoids, ← evaluateGuardrail_denies]
  simp only [evaluated, Program.fails_avoids_bind core_avoids, settled]
  constructor
  · intro denied
    obtain ⟨decision, run, _, _, forbids⟩ := denied
    exact ⟨decision, run, forbids⟩
  · intro denied
    obtain ⟨decision, run, forbids⟩ := denied
    exact ⟨decision, run, (), rfl, forbids⟩

theorem enforceRule_refuses {env : Env} {principal : Principal} {rule : AccessRule} :
    Program.Fails Status.Refuses (enforceRule env principal scope rule) s ↔
      ∃ guarded, rule.guarded = some guarded ∧ Scope.Valid ⟨principal.organizationId, scope.workspaceId⟩ ∧
        Denied ⟨principal.organizationId, scope.workspaceId⟩ principal.role s guarded := by
  unfold enforceRule
  cases rule.guarded with
  | none => simpa using Program.Avoids.pure.not_fails
  | some guarded =>
    simp only [Option.some.injEq, exists_eq_left']
    exact enforceGuardrail_refuses

theorem method_refuses {α : Type} {env : Nat → Env} {rule : AccessRule} {perform : Principal → Scope → Rpc α}
    (named : Named scope) (quiet : ∀ principal scope, Program.Avoids Status.Refuses (perform principal scope)) :
    Program.Fails Status.Refuses (method x env headers rule (some scope) perform) s ↔
      ¬rule.Permits x headers scope s := by
  unfold method
  rw [Program.fails_query_bind, requiredScope_eq_ok named]
  simp only [reduceCtorEq, false_and, exists_false, Except.ok.injEq, exists_eq_left', false_or]
  rw [Program.fails_query_bind]
  cases outcome : authorize x headers scope rule.role s with
  | error status =>
    have refuses := authorize_error named outcome
    have unauthorized : ¬rule.Permits x headers scope s := by
      intro permitted
      obtain ⟨principal, authorized, _⟩ := permitted
      rw [(authorize_eq_ok named).mpr authorized] at outcome
      cases outcome
    simp [refuses, unauthorized]
  | ok principal =>
    have authorized := (authorize_eq_ok named).mp outcome
    have owned := authorized.organization
    simp only [reduceCtorEq, false_and, exists_false, Except.ok.injEq, exists_eq_left', false_or]
    rw [Program.fails_bind_of_avoids fun _ => quiet principal scope, enforceRule_refuses,
      AccessRule.not_permits_iff authorized, owned]

end

theorem serve_refuses {x : Externals} {engines : SearchEngines} {parse : String → Option Uuid} {env : Nat → Env}
    {limits : WorkspaceLimits} {headers : Headers} {request : Request} {scope : Scope} {s : Store}
    (given : request.scope = some scope) (named : Named scope) :
    Program.Fails Status.Refuses (serve x engines parse env limits headers request) s ↔
      ¬(accessRule request.operation).Permits x headers scope s := by
  have answered {α : Type} {rule : AccessRule} {perform : Principal → Scope → Rpc α} {input : Option Scope}
      (given : input = some scope) (quiet : ∀ principal scope, Program.Avoids Status.Refuses (perform principal scope)) :
      Program.Fails Status.Refuses (do let _ ← method x env headers rule input perform : Rpc Unit) s ↔
        ¬rule.Permits x headers scope s := by
    rw [Program.fails_bind_of_avoids fun _ => Program.Avoids.pure, given]
    exact method_refuses named quiet
  cases request with
  | createMemory input =>
    exact answered given fun _ _ => core_avoids.bind fun _ => core_avoids.bind fun _ => Program.Avoids.pure
  | getMemory input =>
    exact answered given fun _ _ => parsedId_avoids.bind fun _ => audited_avoids orMissing_avoids
  | retrieveMemories input =>
    exact answered given fun _ _ => (audited_avoids core_avoids).bind fun _ => Program.Avoids.pure
  | retrieveDocuments input =>
    exact answered given fun _ _ => (audited_avoids core_avoids).bind fun _ => Program.Avoids.pure
  | compileContextPackage input => exact answered given fun _ _ => audited_avoids core_avoids
  | createWorkingSession input => exact answered given fun _ _ => audited_avoids core_avoids
  | getWorkingSession input =>
    exact answered given fun _ _ => parsedId_avoids.bind fun _ => audited_avoids orMissing_avoids
  | appendWorkingMemory input =>
    exact answered given fun _ _ => parsedId_avoids.bind fun _ =>
      (Program.Avoids.query fun _ => workingKind_avoids).bind fun _ => audited_avoids orMissing_avoids
  | updateWorkingSummary input =>
    exact answered given fun _ _ => parsedId_avoids.bind fun _ => audited_avoids orMissing_avoids
  | promoteWorkingMemory input =>
    exact answered given fun _ _ => parsedId_avoids.bind fun _ => parsedId_avoids.bind fun _ =>
      audited_avoids orMissing_avoids

end Hangar.Grpc
