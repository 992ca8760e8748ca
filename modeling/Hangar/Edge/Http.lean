import Hangar.Edge.Request

/-! The HTTP handlers of the operations that gRPC offers too. Each draws the instants and ids of its
    locks of the store, in order, from `env`. -/

namespace Hangar.Http

open Lib

inductive StatusCode where
  | ok
  | created
  | badRequest
  | unauthorized
  | forbidden
deriving DecidableEq

structure AppError where
  status : StatusCode
  error : Failure
deriving DecidableEq

/-- `From<anyhow::Error>`. -/
def AppError.of (error : Failure) : AppError := ⟨.badRequest, error⟩

def unauthorized (message : String) : AppError := ⟨.unauthorized, .check message⟩

def forbidden (message : String) : AppError := ⟨.forbidden, .check message⟩

def AppError.Refuses (error : AppError) : Prop := error.status = .unauthorized ∨ error.status = .forbidden

instance : DecidablePred AppError.Refuses := fun error =>
  inferInstanceAs (Decidable (error.status = .unauthorized ∨ error.status = .forbidden))

abbrev ApiCall (α : Type) : Type := Program Store AppError α

def withStore {α : Type} (operation : Call α) : ApiCall α := operation.mapError AppError.of

structure CreateMemoryRequest where
  organizationId : String
  workspaceId : String
  content : String
  source : Option String
  confidence : Option ℚ
  expiresAtUnixMs : Option Nat

structure RetrieveRequest where
  organizationId : String
  workspaceId : String
  query : String
  limit : Nat

structure ContextPackageRequest where
  organizationId : String
  workspaceId : String
  query : String
  tokenBudget : Nat
  limit : Nat

structure CreateWorkingSessionRequest where
  organizationId : String
  workspaceId : String
  ttlMs : Option Nat

structure AppendWorkingMemoryRequest where
  kind : WorkingMemoryKind
  content : String

structure UpdateWorkingSummaryRequest where
  content : String

structure PromoteWorkingMemoryRequest where
  source : Option String
  confidence : Option ℚ
  expiresAtUnixMs : Option Nat

structure RetrievalResponse where
  query : String
  results : List Memory

structure ChunkRetrievalResponse where
  query : String
  results : List RetrievedChunk
  contentTrust : String

variable (x : Externals) (engines : SearchEngines) (env : Nat → Env) (limits : WorkspaceLimits) (headers : Headers)

def bearerToken : Except AppError String := do
  let value ← context headers (unauthorized "missing Authorization header")
  let value ← context value.toStr (unauthorized "invalid Authorization header")
  context ((stripPrefix "Bearer " value).filter fun token => token ≠ "") (unauthorized "expected Bearer token")

def authorize (organizationId workspaceId : String) (role : Role) (s : Store) : Except AppError Principal := do
  let token ← bearerToken headers
  let principal ← context (authenticate x token s) (unauthorized "invalid API key")
  ensure (principal.organizationId = organizationId ∧ principal.role.allows role)
    (forbidden "API key is not permitted for this operation")
  ensure (principal.workspaceId.all fun scope => scope == workspaceId)
    (forbidden "API key is not permitted for this workspace")
  return principal

def enforceGuardrail (env : Env) (principal : Principal) (workspaceId : String) (action : GuardrailAction)
    (target : String) : ApiCall GuardrailDecision := do
  let decision ← withStore (Program.query
    (evaluateGuardrail principal.organizationId workspaceId principal.role action target))
  let auditAction := if decision.allowed then "guardrail.decision.allowed" else "guardrail.decision.denied"
  withStore (Program.update fun s => audit env s principal auditAction
    (decision.action.asStr ++ ":" ++ decision.target))
  if decision.allowed then return decision
  else Program.fail (forbidden ("guardrail denied request: " ++ decision.reason))

def enforceRule (env : Env) (principal : Principal) (workspaceId : String) (rule : AccessRule) : ApiCall Unit :=
  match rule.guarded with
  | some guarded => do
    let _ ← enforceGuardrail env principal workspaceId guarded.action guarded.target
  | none => pure ()

section
variable {α : Type} (rule : AccessRule) (organizationId workspaceId : String) (perform : Principal → Call α)
  (action : String) (resource : α → String) (success : StatusCode)

def handler : ApiCall (StatusCode × α) := do
  let principal ← Program.query (authorize x headers organizationId workspaceId rule.role)
  enforceRule (env 0) principal workspaceId rule
  let result ← withStore (perform principal)
  withStore (Program.update fun s => audit (env 2) s principal action (resource result))
  return (success, result)

/-- `with_store(..)?.context(message)?`. -/
def orMissing (call : Call (Option α)) (message : String) : Call α := do
  let result ← call
  Program.query fun _ => found result message

end

theorem orMissing_result {α : Type} {call : Call (Option α)} {message : String} {s : Store} :
    (orMissing call message s).2 = (call s).2 >>= fun result => found result message := Program.bind_result

def createMemory (request : CreateMemoryRequest) : ApiCall (StatusCode × Memory) :=
  handler x env headers ⟨.writer, none⟩ request.organizationId request.workspaceId
    (fun principal => Program.transaction (createMemoryWithLimits x (env 1)
      { organizationId := request.organizationId
        workspaceId := request.workspaceId
        content := request.content
        source := request.source
        createdBy := principal.id
        confidence := request.confidence.getD 1
        expiresAtUnixMs := request.expiresAtUnixMs
        provenance := .direct } limits))
    "memory.create" (fun memory => memory.id.text) .created

def createWorkingSession (request : CreateWorkingSessionRequest) : ApiCall (StatusCode × WorkingSession) :=
  handler x env headers ⟨.writer, none⟩ request.organizationId request.workspaceId
    (fun principal => Hangar.createWorkingSession (env 1)
      { organizationId := request.organizationId
        workspaceId := request.workspaceId
        createdBy := principal.id
        ttlMs := request.ttlMs })
    "working_session.create" (fun session => session.id.text) .created

def getWorkingSession (id : Uuid) (scope : Scope) : ApiCall (StatusCode × WorkingSession) :=
  handler x env headers ⟨.reader, some workingSessionRead⟩ scope.organizationId scope.workspaceId
    (fun principal => orMissing
      (Hangar.getWorkingSession (env 1) scope.organizationId scope.workspaceId principal.id id)
      "working session not found in this scope")
    "working_session.read" (fun session => session.id.text) .ok

def appendWorkingMemory (id : Uuid) (scope : Scope) (request : AppendWorkingMemoryRequest) :
    ApiCall (StatusCode × WorkingMemoryEntry) :=
  handler x env headers ⟨.writer, none⟩ scope.organizationId scope.workspaceId
    (fun principal => orMissing
      (Hangar.appendWorkingMemory x (env 1) scope.organizationId scope.workspaceId principal.id id
        ⟨request.kind, request.content, principal.id⟩)
      "working session not found in this scope")
    "working_session.entry.append" (fun entry => entry.id.text) .created

def updateWorkingSummary (id : Uuid) (scope : Scope) (request : UpdateWorkingSummaryRequest) :
    ApiCall (StatusCode × WorkingSession) :=
  handler x env headers ⟨.writer, none⟩ scope.organizationId scope.workspaceId
    (fun principal => orMissing
      (Hangar.updateWorkingSummary x (env 1) scope.organizationId scope.workspaceId principal.id id request.content)
      "working session not found in this scope")
    "working_session.summary.update" (fun session => session.id.text) .ok

def promoteWorkingMemory (sessionId entryId : Uuid) (scope : Scope) (request : PromoteWorkingMemoryRequest) :
    ApiCall (StatusCode × Memory) :=
  handler x env headers ⟨.writer, none⟩ scope.organizationId scope.workspaceId
    (fun principal => orMissing
      (promoteWorkingMemoryWithLimits x (env 1) scope.organizationId scope.workspaceId principal.id sessionId entryId
        ⟨request.source, request.confidence.getD 1, request.expiresAtUnixMs⟩ limits)
      "working session not found in this scope")
    "working_session.entry.promote" (fun memory => memory.id.text) .created

def retrieveDocumentChunks (request : RetrieveRequest) : ApiCall (StatusCode × ChunkRetrievalResponse) :=
  handler x env headers ⟨.reader, some allDocuments⟩ request.organizationId request.workspaceId
    (fun _ => do
      let results ← Program.query (retrieveChunks x engines request.organizationId request.workspaceId
        request.query (max 1 (min request.limit 50)))
      return ⟨request.query, results, "untrusted_data"⟩)
    "document.retrieve" (fun _ => "workspace") .ok

def getMemory (id : Uuid) (scope : Scope) : ApiCall (StatusCode × Memory) :=
  handler x env headers ⟨.reader, some oneMemory⟩ scope.organizationId scope.workspaceId
    (fun _ => orMissing (Hangar.getMemory (env 1) scope.organizationId scope.workspaceId id)
      "memory not found in this workspace")
    "memory.read" (fun memory => memory.id.text) .ok

def retrieve (request : RetrieveRequest) : ApiCall (StatusCode × RetrievalResponse) :=
  handler x env headers ⟨.reader, some oneMemory⟩ request.organizationId request.workspaceId
    (fun _ => do
      let results ← Hangar.retrieve x (env 1) request.organizationId request.workspaceId request.query
        (max 1 (min request.limit 50))
      return ⟨request.query, results⟩)
    "memory.retrieve" (fun _ => "workspace") .ok

def compileContextPackage (request : ContextPackageRequest) : ApiCall (StatusCode × ContextPackage) :=
  handler x env headers ⟨.reader, some contextPackageRead⟩ request.organizationId request.workspaceId
    (fun principal => Hangar.compileContextPackage x engines (env 1) principal request.workspaceId request.query
      request.tokenBudget request.limit)
    "context.package.read" (fun _ => "workspace") .ok

inductive Request where
  | createMemory (request : CreateMemoryRequest)
  | getMemory (id : Uuid) (scope : Scope)
  | retrieve (request : RetrieveRequest)
  | retrieveDocumentChunks (request : RetrieveRequest)
  | compileContextPackage (request : ContextPackageRequest)
  | createWorkingSession (request : CreateWorkingSessionRequest)
  | getWorkingSession (id : Uuid) (scope : Scope)
  | appendWorkingMemory (id : Uuid) (scope : Scope) (request : AppendWorkingMemoryRequest)
  | updateWorkingSummary (id : Uuid) (scope : Scope) (request : UpdateWorkingSummaryRequest)
  | promoteWorkingMemory (sessionId entryId : Uuid) (scope : Scope) (request : PromoteWorkingMemoryRequest)

def Request.operation : Request → Operation
  | .createMemory _ => .createMemory
  | .getMemory _ _ => .getMemory
  | .retrieve _ => .retrieveMemories
  | .retrieveDocumentChunks _ => .retrieveDocuments
  | .compileContextPackage _ => .compileContextPackage
  | .createWorkingSession _ => .createWorkingSession
  | .getWorkingSession _ _ => .getWorkingSession
  | .appendWorkingMemory _ _ _ => .appendWorkingMemory
  | .updateWorkingSummary _ _ _ => .updateWorkingSummary
  | .promoteWorkingMemory _ _ _ _ => .promoteWorkingMemory

def Request.scope : Request → Scope
  | .createMemory request => ⟨request.organizationId, request.workspaceId⟩
  | .getMemory _ scope => scope
  | .retrieve request => ⟨request.organizationId, request.workspaceId⟩
  | .retrieveDocumentChunks request => ⟨request.organizationId, request.workspaceId⟩
  | .compileContextPackage request => ⟨request.organizationId, request.workspaceId⟩
  | .createWorkingSession request => ⟨request.organizationId, request.workspaceId⟩
  | .getWorkingSession _ scope => scope
  | .appendWorkingMemory _ scope _ => scope
  | .updateWorkingSummary _ scope _ => scope
  | .promoteWorkingMemory _ _ scope _ => scope

def serve : Request → ApiCall StatusCode
  | .createMemory request => do return (← createMemory x env limits headers request).1
  | .getMemory id scope => do return (← getMemory x env headers id scope).1
  | .retrieve request => do return (← retrieve x env headers request).1
  | .retrieveDocumentChunks request => do return (← retrieveDocumentChunks x engines env headers request).1
  | .compileContextPackage request => do return (← compileContextPackage x engines env headers request).1
  | .createWorkingSession request => do return (← createWorkingSession x env headers request).1
  | .getWorkingSession id scope => do return (← getWorkingSession x env headers id scope).1
  | .appendWorkingMemory id scope request => do return (← appendWorkingMemory x env headers id scope request).1
  | .updateWorkingSummary id scope request => do return (← updateWorkingSummary x env headers id scope request).1
  | .promoteWorkingMemory sessionId entryId scope request => do
    return (← promoteWorkingMemory x env limits headers sessionId entryId scope request).1

def accessRule : Operation → AccessRule
  | .createMemory => ⟨.writer, none⟩
  | .getMemory => ⟨.reader, some oneMemory⟩
  | .retrieveMemories => ⟨.reader, some oneMemory⟩
  | .retrieveDocuments => ⟨.reader, some allDocuments⟩
  | .compileContextPackage => ⟨.reader, some contextPackageRead⟩
  | .createWorkingSession => ⟨.writer, none⟩
  | .getWorkingSession => ⟨.reader, some workingSessionRead⟩
  | .appendWorkingMemory => ⟨.writer, none⟩
  | .updateWorkingSummary => ⟨.writer, none⟩
  | .promoteWorkingMemory => ⟨.writer, none⟩

section
variable {x : Externals} {headers : Headers} {organizationId workspaceId : String} {role : Role} {s : Store}

theorem authorize_eq_ok {principal : Principal} :
    authorize x headers organizationId workspaceId role s = .ok principal ↔
      Authorized x headers ⟨organizationId, workspaceId⟩ role s principal := by
  unfold authorize bearerToken Authorized presentedKey Principal.mayAct
  simp only [bind_eq_ok, context_eq_ok, ensure_eq_ok, pure_eq_ok, Option.bind_eq_some_iff]
  simp only [exists_const, Bool.and_eq_true, beq_iff_eq]
  constructor
  · intro run
    obtain ⟨token, presented, principal, known, ⟨owned, allows⟩, placed, rfl⟩ := run
    exact ⟨token, presented, known, ⟨owned, allows⟩, placed⟩
  · intro authorized
    obtain ⟨token, presented, known, ⟨owned, allows⟩, placed⟩ := authorized
    exact ⟨token, presented, principal, known, ⟨owned, allows⟩, placed, rfl⟩

theorem unauthorized_refuses {message : String} : (unauthorized message).Refuses := .inl rfl

theorem forbidden_refuses {message : String} : (forbidden message).Refuses := .inr rfl

theorem authorize_error {error : AppError} (failed : authorize x headers organizationId workspaceId role s = .error error) :
    error.Refuses := by
  have keyed {α : Type} {value : Option α} {message : String} :
      Lib.Avoids (fun error : AppError => ¬error.Refuses) (context value (unauthorized message)) :=
    Lib.Avoids.context fun _ => not_not.mpr unauthorized_refuses
  have allowed {condition : Prop} [Decidable condition] {message : String} :
      Lib.Avoids (fun error : AppError => ¬error.Refuses) (ensure condition (forbidden message)) :=
    Lib.Avoids.ensure (not_not.mpr forbidden_refuses)
  have only : Lib.Avoids (fun error : AppError => ¬error.Refuses)
      (authorize x headers organizationId workspaceId role s) := by
    unfold authorize bearerToken
    apply (keyed.bind fun _ _ => keyed.bind fun _ _ => keyed).bind
    intro token _
    apply keyed.bind
    intro principal _
    exact allowed.bind fun _ _ => allowed.bind fun _ _ => Lib.Avoids.pure
  exact not_not.mp (only error failed)

theorem withStore_avoids {α : Type} {call : Call α} : Program.Avoids AppError.Refuses (withStore call) := by
  apply Program.Avoids.mapError
  intro error refuses
  simp [AppError.Refuses, AppError.of] at refuses

theorem enforceGuardrail_refuses {env : Env} {principal : Principal} {guarded : Guarded} :
    Program.Fails AppError.Refuses
        (enforceGuardrail env principal workspaceId guarded.action guarded.target) s ↔
      Scope.Valid ⟨principal.organizationId, workspaceId⟩ ∧
        Denied ⟨principal.organizationId, workspaceId⟩ principal.role s guarded := by
  have evaluated {f : Store → Result GuardrailDecision} {decision : GuardrailDecision} :
      (withStore (Program.query f) s).2 = .ok decision ↔ f s = .ok decision := by
    unfold withStore Program.mapError Program.query
    cases f s <;> simp
  have settled {s' : Store} {decision : GuardrailDecision} :
      Program.Fails AppError.Refuses (if decision.allowed then pure decision
        else Program.fail (forbidden ("guardrail denied request: " ++ decision.reason))) s' ↔
        decision.allowed = false := by
    cases decision.allowed with
    | true => simpa using Program.Avoids.pure.not_fails
    | false => simpa [Program.fails_fail] using forbidden_refuses
  unfold enforceGuardrail
  rw [Program.fails_avoids_bind withStore_avoids, ← evaluateGuardrail_denies]
  simp only [evaluated, Program.fails_avoids_bind withStore_avoids, settled]
  constructor
  · intro denied
    obtain ⟨decision, run, _, _, forbids⟩ := denied
    exact ⟨decision, run, forbids⟩
  · intro denied
    obtain ⟨decision, run, forbids⟩ := denied
    exact ⟨decision, run, (), rfl, forbids⟩

theorem enforceRule_refuses {env : Env} {principal : Principal} {rule : AccessRule} :
    Program.Fails AppError.Refuses (enforceRule env principal workspaceId rule) s ↔
      ∃ guarded, rule.guarded = some guarded ∧ Scope.Valid ⟨principal.organizationId, workspaceId⟩ ∧
        Denied ⟨principal.organizationId, workspaceId⟩ principal.role s guarded := by
  unfold enforceRule
  cases rule.guarded with
  | none => simpa using Program.Avoids.pure.not_fails
  | some guarded =>
    simp only [Option.some.injEq, exists_eq_left']
    rw [Program.fails_bind_of_avoids fun _ => Program.Avoids.pure, enforceGuardrail_refuses]

theorem handler_refuses {α : Type} {env : Nat → Env} {rule : AccessRule} {perform : Principal → Call α}
    {action : String} {resource : α → String} {success : StatusCode} :
    Program.Fails AppError.Refuses
        (handler x env headers rule organizationId workspaceId perform action resource success) s ↔
      ¬rule.Permits x headers ⟨organizationId, workspaceId⟩ s := by
  unfold handler
  rw [Program.fails_query_bind]
  cases outcome : authorize x headers organizationId workspaceId rule.role s with
  | error error =>
    have refuses := authorize_error outcome
    have unauthorized : ¬rule.Permits x headers ⟨organizationId, workspaceId⟩ s := by
      intro permitted
      obtain ⟨principal, authorized, _⟩ := permitted
      rw [authorize_eq_ok.mpr authorized] at outcome
      cases outcome
    simp [refuses, unauthorized]
  | ok principal =>
    have authorized := authorize_eq_ok.mp outcome
    have owned := authorized.organization
    have rest (_ : Unit) : Program.Avoids AppError.Refuses (do
        let result ← withStore (perform principal)
        withStore (Program.update fun s => audit (env 2) s principal action (resource result))
        return (success, result)) :=
      withStore_avoids.bind fun _ => withStore_avoids.bind fun _ => Program.Avoids.pure
    simp only [reduceCtorEq, false_and, exists_false, Except.ok.injEq, exists_eq_left', false_or]
    rw [Program.fails_bind_of_avoids rest, enforceRule_refuses, AccessRule.not_permits_iff authorized, owned]

end

theorem serve_refuses {x : Externals} {engines : SearchEngines} {env : Nat → Env} {limits : WorkspaceLimits}
    {headers : Headers} {request : Request} {s : Store} :
    Program.Fails AppError.Refuses (serve x engines env limits headers request) s ↔
      ¬(accessRule request.operation).Permits x headers request.scope s := by
  cases request <;> exact (Program.fails_bind_of_avoids fun _ => Program.Avoids.pure).trans handler_refuses

end Hangar.Http
