import Hangar.Knowledge.Memory

namespace Hangar

open Lib

variable (env : Env)

def ShareAudience.validates : ShareAudience → Bool
  | .workspace workspaceId => !isBlank workspaceId
  | _ => true

def ShareAudience.permits (requestWorkspaceId : String) (subjectId : Uuid) (subjectKind : SubjectKind) :
    ShareAudience → Bool
  | .organization => true
  | .workspace workspaceId => workspaceId == requestWorkspaceId
  | .agent target => subjectKind == .agent && target == subjectId
  | .user target => subjectKind == .user && target == subjectId

def ShareAudience.stableKey : ShareAudience → String
  | .organization => "organization"
  | .workspace workspaceId => "workspace:" ++ workspaceId
  | .agent subjectId => "agent:" ++ subjectId.text
  | .user subjectId => "user:" ++ subjectId.text

def ShareAudience.toJson : ShareAudience → Json
  | .organization => .obj [("kind", .str "organization")]
  | .workspace workspaceId => .obj [("kind", .str "workspace"), ("workspace_id", .str workspaceId)]
  | .agent subjectId => .obj [("kind", .str "agent"), ("subject_id", .str subjectId.text)]
  | .user subjectId => .obj [("kind", .str "user"), ("subject_id", .str subjectId.text)]

def ShareReviewState.toJson : ShareReviewState → Json
  | .pending => .str "pending"
  | .approved => .str "approved"
  | .rejected => .str "rejected"
  | .revoked => .str "revoked"

def ShareReviewState.canTransitionTo : ShareReviewState → ShareReviewState → Bool
  | .pending, .approved => true
  | .pending, .rejected => true
  | .pending, .revoked => true
  | .approved, .revoked => true
  | _, _ => false

def MemoryShare.isActiveFor (share : MemoryShare) (requestWorkspaceId : String) (subjectId : Uuid)
    (subjectKind : SubjectKind) : Bool :=
  share.state == .approved && unexpired env share.expiresAtUnixMs &&
    share.audience.permits requestWorkspaceId subjectId subjectKind

def Store.writeShare (share : MemoryShare) (key : Uuid) (s : Store) : Store :=
  { s with knowledge := { s.knowledge with memoryShares := s.knowledge.memoryShares.insert key share } }

def shareSubject (share : MemoryShare) : String := "memory-shares/" ++ share.id.text

section
variable (organizationId sourceWorkspaceId : String)

/-- A pending or approved share that a new one for this memory and audience would repeat. -/
def MemoryShare.duplicates (memoryId : Uuid) (audience : ShareAudience) (share : MemoryShare) : Bool :=
  inScope organizationId sourceWorkspaceId share.organizationId share.sourceWorkspaceId &&
    share.memoryId == memoryId && share.audience.stableKey == audience.stableKey &&
    (share.state == .pending || share.state == .approved)

def newShare (memory : Memory) (memoryId : Uuid) (audience : ShareAudience) (proposedBy : Uuid)
    (expiresAtUnixMs : Option Nat) : MemoryShare where
  id := env.uuid 0
  organizationId := organizationId
  sourceWorkspaceId := sourceWorkspaceId
  memoryId := memoryId
  audience := audience
  state := .pending
  proposedBy := proposedBy
  reviewedBy := none
  reviewNote := none
  sourceMemoryVersion := memory.version
  expiresAtUnixMs := expiresAtUnixMs
  createdAtUnixMs := env.now
  updatedAtUnixMs := env.now
  version := 1

def proposeMemoryShare (memoryId : Uuid) (audience : ShareAudience) (proposedBy : Uuid)
    (expiresAtUnixMs : Option Nat) (s : Store) : Result (Store × MemoryShare) := do
  ensureScope organizationId sourceWorkspaceId
  check audience.validates "share audience is invalid"
  checkExpiry env "share expiry must be in the future" "share expiry cannot exceed one year" expiresAtUnixMs
  let memory ← found s.knowledge.memories[memoryId]? "memory not found in source workspace"
  check (inScope organizationId sourceWorkspaceId memory.organizationId memory.workspaceId)
    "memory not found in source workspace"
  check (isRetrievable env memory) "only published and unexpired memory may be shared"
  check (¬ (Table.rows s.knowledge.memoryShares).any
    (MemoryShare.duplicates organizationId sourceWorkspaceId memoryId audience))
    "a pending or approved grant already exists for this memory audience"
  let share := newShare env organizationId sourceWorkspaceId memory memoryId audience proposedBy expiresAtUnixMs
  let journal := insertOutboxEvent env (env.uuid 1) "memory.share_proposed.v1" (shareSubject share)
    organizationId (some sourceWorkspaceId)
    (.obj [("share_id", .str share.id.text), ("memory_id", .str memoryId.text),
      ("audience", share.audience.toJson), ("version", .num share.version)]) s.journal
  return ({ s.writeShare share share.id with journal := journal }, share)

def MemoryShare.review (share : MemoryShare) (state : ShareReviewState) (reviewedBy : Uuid)
    (reviewNote : Option String) : MemoryShare :=
  { share with
    state := state
    reviewedBy := some reviewedBy
    reviewNote := reviewNote.filter fun note => !isBlank note
    updatedAtUnixMs := env.now
    version := share.version + 1 }

def checkApproval (share : MemoryShare) (state : ShareReviewState) (s : Store) : Result Unit :=
  if state = .approved then do
    let memory ← found s.knowledge.memories[share.memoryId]? "source memory no longer exists"
    check (inScope organizationId sourceWorkspaceId memory.organizationId memory.workspaceId ∧
        isRetrievable env memory = true)
      "only published and unexpired memory may be approved for sharing"
  else pure ()

def reviewMemoryShare (id : Uuid) (state : ShareReviewState) (reviewedBy : Uuid) (reviewNote : Option String)
    (s : Store) : Result (Store × Option MemoryShare) := do
  ensureScope organizationId sourceWorkspaceId
  check (reviewNote.all fun note => note.utf8ByteSize ≤ 1024) "review note exceeds the 1 KiB limit"
  match s.knowledge.memoryShares[id]? with
  | none => return (s, none)
  | some share =>
    check (inScope organizationId sourceWorkspaceId share.organizationId share.sourceWorkspaceId)
      "memory share not found in source workspace"
    check (share.state.canTransitionTo state) "invalid memory share review transition"
    checkApproval env organizationId sourceWorkspaceId share state s
    let share := share.review env state reviewedBy reviewNote
    let journal := insertOutboxEvent env (env.uuid 0) "memory.share_reviewed.v1" (shareSubject share)
      organizationId (some sourceWorkspaceId)
      (.obj [("share_id", .str share.id.text), ("memory_id", .str share.memoryId.text),
        ("state", share.state.toJson), ("version", .num share.version)]) s.journal
    return ({ s.writeShare share id with journal := journal }, some share)

end

end Hangar
