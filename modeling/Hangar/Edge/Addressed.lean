import Hangar.Edge.Http
import Hangar.Knowledge.Sharing

/-! The HTTP handlers that address a record by its id. -/

namespace Hangar

open Lib

section
variable (id : Uuid) (organizationId workspaceId : String)

def getDocument : Call (Option Document) :=
  Program.query fun s => .ok (s.ingestion.documents[id]?.filter fun document =>
    inScope organizationId workspaceId document.organizationId document.workspaceId)

def getIngestionJob : Call (Option IngestionJob) :=
  Program.query fun s => .ok (s.ingestion.jobs[id]?.filter fun job =>
    inScope organizationId workspaceId job.organizationId job.workspaceId)

def getPublishedSkill : Call (Option AgentSkill) :=
  Program.query fun s => .ok (s.catalog.agentSkills[id]?.filter fun skill =>
    inScope organizationId workspaceId skill.organizationId skill.workspaceId && skill.lifecycle == .published)

end

namespace Http

structure TransitionMemoryRequest where
  lifecycle : MemoryLifecycle
  expiresAtUnixMs : Option Nat
  supersededBy : Option Uuid

structure CreateMemoryShareRequest where
  organizationId : String
  sourceWorkspaceId : String
  memoryId : Uuid
  audience : ShareAudience
  expiresAtUnixMs : Option Nat

structure ReviewMemoryShareRequest where
  state : ShareReviewState
  reviewNote : Option String

structure SkillReadResponse where
  skill : AgentSkill
  contentTrust : String

/-- What the handlers of shares ask the guardrail about. -/
def memoryShareUse : Guarded := { action := .memoryShare, target := "memory-share" }

def TransitionMemoryRequest.transition (request : TransitionMemoryRequest) : MemoryTransition :=
  ⟨request.lifecycle, request.expiresAtUnixMs, request.supersededBy⟩

variable (x : Externals) (env : Nat → Env) (limits : WorkspaceLimits) (headers : Headers)

def transitionMemory (id : Uuid) (scope : Scope) (request : TransitionMemoryRequest) : ApiCall (StatusCode × Memory) :=
  handler x env headers ⟨.owner, none⟩ scope.organizationId scope.workspaceId
    (fun _ => orMissing (Program.transaction
      (Hangar.transitionMemory (env 1) id scope.organizationId scope.workspaceId request.transition))
      "memory not found in this workspace")
    "memory.transition" (fun memory => memory.id.text) .ok

def getDocument (id : Uuid) (scope : Scope) : ApiCall (StatusCode × Document) :=
  handler x env headers ⟨.reader, none⟩ scope.organizationId scope.workspaceId
    (fun _ => orMissing (Hangar.getDocument id scope.organizationId scope.workspaceId)
      "document not found in this workspace")
    "document.read" (fun document => document.id.text) .ok

def getIngestionJob (id : Uuid) (scope : Scope) : ApiCall (StatusCode × IngestionJob) :=
  handler x env headers ⟨.reader, none⟩ scope.organizationId scope.workspaceId
    (fun _ => orMissing (Hangar.getIngestionJob id scope.organizationId scope.workspaceId)
      "ingestion job not found in this workspace")
    "ingestion.read" (fun job => job.id.text) .ok

def retryIngestionJob (id : Uuid) (scope : Scope) : ApiCall (StatusCode × IngestionJob) :=
  handler x env headers ⟨.owner, none⟩ scope.organizationId scope.workspaceId
    (fun _ => orMissing (Program.transaction fun s =>
      retryDeadLetterIngestionJob (env 1) s id scope.organizationId scope.workspaceId)
      "ingestion job not found in this workspace")
    "ingestion.retry" (fun job => job.id.text) .ok

def createMemoryShare (request : CreateMemoryShareRequest) : ApiCall (StatusCode × MemoryShare) :=
  handler x env headers ⟨.writer, some memoryShareUse⟩ request.organizationId request.sourceWorkspaceId
    (fun principal => Program.transaction
      (proposeMemoryShare (env 1) request.organizationId request.sourceWorkspaceId request.memoryId request.audience
        principal.id request.expiresAtUnixMs))
    "memory.share.propose" (fun share => share.id.text) .created

def reviewMemoryShare (id : Uuid) (scope : Scope) (request : ReviewMemoryShareRequest) :
    ApiCall (StatusCode × MemoryShare) :=
  handler x env headers ⟨.owner, some memoryShareUse⟩ scope.organizationId scope.workspaceId
    (fun principal => orMissing (Program.transaction
      (Hangar.reviewMemoryShare (env 1) scope.organizationId scope.workspaceId id request.state principal.id
        request.reviewNote))
      "memory share not found in source workspace")
    "memory.share.review" (fun share => share.id.text) .ok

def transitionSkill (id : Uuid) (scope : Scope) (lifecycle : SkillLifecycle) : ApiCall (StatusCode × AgentSkill) :=
  handler x env headers ⟨.owner, none⟩ scope.organizationId scope.workspaceId
    (fun _ => orMissing (Program.transaction
      (Hangar.transitionSkill (env 1) id scope.organizationId scope.workspaceId lifecycle))
      "skill not found in this workspace")
    "skill.lifecycle.transition" (fun skill => skill.id.text) .ok

/-- The guardrail is asked about the id the request names. -/
def getSkill (id : Uuid) (scope : Scope) : ApiCall (StatusCode × SkillReadResponse) := do
  let principal ← Program.query (authorize x headers scope.organizationId scope.workspaceId .reader)
  let _ ← enforceGuardrail (env 0) principal scope.workspaceId .skillRead id.text
  let skill ← withStore (orMissing (getPublishedSkill id scope.organizationId scope.workspaceId)
    "published skill not found in this workspace")
  withStore (Program.update fun s => audit (env 2) s principal "skill.read" skill.id.text)
  return (.ok, ⟨skill, "untrusted_data"⟩)

def transitionGuardrailPolicy (id : Uuid) (scope : Scope) (lifecycle : PolicyLifecycle) :
    ApiCall (StatusCode × GuardrailPolicy) :=
  handler x env headers ⟨.owner, none⟩ scope.organizationId scope.workspaceId
    (fun _ => orMissing (Program.transaction
      (Hangar.transitionGuardrailPolicy (env 1) id scope.organizationId scope.workspaceId lifecycle))
      "guardrail policy not found in this workspace")
    "guardrail_policy.lifecycle.transition" (fun policy => policy.id.text) .ok

inductive Addressed where
  | getMemory (id : Uuid) (scope : Scope)
  | transitionMemory (id : Uuid) (scope : Scope) (request : TransitionMemoryRequest)
  | getDocument (id : Uuid) (scope : Scope)
  | getIngestionJob (id : Uuid) (scope : Scope)
  | retryIngestionJob (id : Uuid) (scope : Scope)
  | createMemoryShare (request : CreateMemoryShareRequest)
  | reviewMemoryShare (id : Uuid) (scope : Scope) (request : ReviewMemoryShareRequest)
  | transitionSkill (id : Uuid) (scope : Scope) (lifecycle : SkillLifecycle)
  | getSkill (id : Uuid) (scope : Scope)
  | transitionGuardrailPolicy (id : Uuid) (scope : Scope) (lifecycle : PolicyLifecycle)
  | getWorkingSession (id : Uuid) (scope : Scope)
  | appendWorkingMemory (id : Uuid) (scope : Scope) (request : AppendWorkingMemoryRequest)
  | updateWorkingSummary (id : Uuid) (scope : Scope) (request : UpdateWorkingSummaryRequest)
  | promoteWorkingMemory (sessionId entryId : Uuid) (scope : Scope) (request : PromoteWorkingMemoryRequest)

inductive Body where
  | memory (memory : Memory)
  | document (document : Document)
  | job (job : IngestionJob)
  | share (share : MemoryShare)
  | skill (skill : AgentSkill)
  | skillRead (response : SkillReadResponse)
  | policy (policy : GuardrailPolicy)
  | session (session : WorkingSession)
  | entry (entry : WorkingMemoryEntry)

def Addressed.scope : Addressed → Scope
  | .createMemoryShare request => ⟨request.organizationId, request.sourceWorkspaceId⟩
  | .getMemory _ scope | .transitionMemory _ scope _ | .getDocument _ scope | .getIngestionJob _ scope
  | .retryIngestionJob _ scope | .reviewMemoryShare _ scope _ | .transitionSkill _ scope _ | .getSkill _ scope
  | .transitionGuardrailPolicy _ scope _ | .getWorkingSession _ scope | .appendWorkingMemory _ scope _
  | .updateWorkingSummary _ scope _ | .promoteWorkingMemory _ _ scope _ => scope

section
variable {α : Type}

def respondWith (body : α → Body) (call : ApiCall (StatusCode × α)) : ApiCall (StatusCode × Body) := do
  let response ← call
  return (response.1, body response.2)

end

def respond : Addressed → ApiCall (StatusCode × Body)
  | .getMemory id scope => respondWith .memory (getMemory x env headers id scope)
  | .transitionMemory id scope request => respondWith .memory (transitionMemory x env headers id scope request)
  | .getDocument id scope => respondWith .document (getDocument x env headers id scope)
  | .getIngestionJob id scope => respondWith .job (getIngestionJob x env headers id scope)
  | .retryIngestionJob id scope => respondWith .job (retryIngestionJob x env headers id scope)
  | .createMemoryShare request => respondWith .share (createMemoryShare x env headers request)
  | .reviewMemoryShare id scope request => respondWith .share (reviewMemoryShare x env headers id scope request)
  | .transitionSkill id scope lifecycle => respondWith .skill (transitionSkill x env headers id scope lifecycle)
  | .getSkill id scope => respondWith .skillRead (getSkill x env headers id scope)
  | .transitionGuardrailPolicy id scope lifecycle =>
    respondWith .policy (transitionGuardrailPolicy x env headers id scope lifecycle)
  | .getWorkingSession id scope => respondWith .session (getWorkingSession x env headers id scope)
  | .appendWorkingMemory id scope request => respondWith .entry (appendWorkingMemory x env headers id scope request)
  | .updateWorkingSummary id scope request =>
    respondWith .session (updateWorkingSummary x env headers id scope request)
  | .promoteWorkingMemory sessionId entryId scope request =>
    respondWith .memory (promoteWorkingMemory x env limits headers sessionId entryId scope request)

end Http

end Hangar
