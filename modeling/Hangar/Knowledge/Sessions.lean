import Hangar.Knowledge.Memory

namespace Hangar

open Lib

def maxWorkingSessions : Nat := 1024

def maxWorkingEntriesPerSession : Nat := 64

def maxWorkingEntryBytes : Nat := 8 * 1024

def maxWorkingSessionBytes : Nat := 64 * 1024

def maxWorkingSessionTtlMs : Nat := 24 * 60 * 60 * 1000

def defaultWorkingSessionTtlMs : Nat := 30 * 60 * 1000

variable (x : Externals) (env : Env)

def Store.writeSession (session : WorkingSession) (key : Uuid) (s : Store) : Store :=
  { s with workingMemory := { s.workingMemory with
      sessions := s.workingMemory.sessions.insert key session } }

def pruneExpiredWorkingSessions : Call Unit :=
  Program.update fun s => { s with workingMemory := { s.workingMemory with
    sessions := s.workingMemory.sessions.filter fun _ session => session.expiresAtUnixMs > env.now } }

def newWorkingSession (new : NewWorkingSession) (ttlMs : Nat) : WorkingSession where
  id := env.uuid 0
  organizationId := new.organizationId
  workspaceId := new.workspaceId
  createdBy := new.createdBy
  createdAtUnixMs := env.now
  updatedAtUnixMs := env.now
  expiresAtUnixMs := env.now + ttlMs
  summary := none
  entries := []

def createWorkingSession (new : NewWorkingSession) : Call WorkingSession := do
  Program.query fun _ => ensureScope new.organizationId new.workspaceId
  pruneExpiredWorkingSessions env
  Program.transaction fun s => do
    check (s.workingMemory.sessions.size < maxWorkingSessions) "working session capacity reached"
    let ttlMs := new.ttlMs.getD defaultWorkingSessionTtlMs
    check (ttlMs > 0) "session ttl_ms must be positive"
    check (ttlMs ≤ maxWorkingSessionTtlMs) "session ttl_ms cannot exceed 24 hours"
    let session := newWorkingSession env new ttlMs
    return (s.writeSession session session.id, session)

def WorkingSession.ownedBy (organizationId workspaceId : String) (principalId : Uuid) (session : WorkingSession) :
    Bool :=
  session.organizationId == organizationId && session.workspaceId == workspaceId &&
    session.createdBy == principalId

def sessionContentBytes (session : WorkingSession) : Nat :=
  (session.entries.map fun entry => entry.content.utf8ByteSize).sum +
    (session.summary.map fun summary => summary.content.utf8ByteSize).getD 0

section
variable (organizationId workspaceId : String) (principalId : Uuid)

def ensureSessionOwner (session : WorkingSession) : Result Unit :=
  check (session.ownedBy organizationId workspaceId principalId) "working session not found in this scope"

def getWorkingSession (id : Uuid) : Call (Option WorkingSession) := do
  pruneExpiredWorkingSessions env
  Program.query fun s => .ok (s.workingMemory.sessions[id]?.filter
    (WorkingSession.ownedBy organizationId workspaceId principalId))

def newWorkingEntry (new : NewWorkingMemoryEntry) : WorkingMemoryEntry where
  id := env.uuid 0
  kind := new.kind
  content := new.content
  contentSha256 := x.sha256Text new.content
  createdBy := new.createdBy
  createdAtUnixMs := env.now

def appendWorkingMemory (sessionId : Uuid) (new : NewWorkingMemoryEntry) :
    Call (Option WorkingMemoryEntry) := do
  Program.query fun _ => check (!isBlank new.content) "working memory content cannot be empty"
  Program.query fun _ => check (new.content.utf8ByteSize ≤ maxWorkingEntryBytes)
    "working memory entry exceeds the 8 KiB limit"
  pruneExpiredWorkingSessions env
  Program.transaction fun s => do
    match s.workingMemory.sessions[sessionId]? with
    | none => return (s, none)
    | some session =>
      ensureSessionOwner organizationId workspaceId principalId session
      check (session.entries.length < maxWorkingEntriesPerSession) "working memory entry capacity reached"
      let entry := newWorkingEntry x env new
      check (sessionContentBytes session + entry.content.utf8ByteSize ≤ maxWorkingSessionBytes)
        "working session exceeds the 64 KiB limit"
      let session := { session with entries := session.entries ++ [entry], updatedAtUnixMs := env.now }
      return (s.writeSession session sessionId, some entry)

def newSummary (content : String) (version : Nat) : WorkingSessionSummary where
  content := content
  contentSha256 := x.sha256Text content
  updatedBy := principalId
  updatedAtUnixMs := env.now
  version := version

def updateWorkingSummary (sessionId : Uuid) (content : String) : Call (Option WorkingSession) := do
  Program.query fun _ => check (!isBlank content) "working memory summary cannot be empty"
  Program.query fun _ => check (content.utf8ByteSize ≤ maxWorkingEntryBytes)
    "working memory summary exceeds the 8 KiB limit"
  pruneExpiredWorkingSessions env
  Program.transaction fun s => do
    match s.workingMemory.sessions[sessionId]? with
    | none => return (s, none)
    | some session =>
      ensureSessionOwner organizationId workspaceId principalId session
      let nextVersion := (session.summary.map fun summary => (summary.version + 1) % 2 ^ 32).getD 1
      let previousBytes := (session.summary.map fun summary => summary.content.utf8ByteSize).getD 0
      check (sessionContentBytes session - previousBytes + content.utf8ByteSize ≤ maxWorkingSessionBytes)
        "working session exceeds the 64 KiB limit"
      let session := { session with
        summary := some (newSummary x env principalId content nextVersion), updatedAtUnixMs := env.now }
      return (s.writeSession session sessionId, some session)

structure Promotion where
  source : Option String
  confidence : ℚ
  expiresAtUnixMs : Option Nat

def promotedMemory (sessionId : Uuid) (session : WorkingSession) (entry : WorkingMemoryEntry)
    (promotion : Promotion) : NewMemory where
  organizationId := organizationId
  workspaceId := workspaceId
  content := entry.content
  source := promotion.source <|>
    some ("session://" ++ sessionId.text ++ "/entries/" ++ entry.id.text)
  createdBy := principalId
  confidence := promotion.confidence
  expiresAtUnixMs := promotion.expiresAtUnixMs
  provenance := .sessionPromotion sessionId entry.id entry.contentSha256 session.createdBy

def promoteWorkingMemory (sessionId entryId : Uuid) (promotion : Promotion) : Call (Option Memory) := do
  pruneExpiredWorkingSessions env
  Program.transaction fun s => do
    match s.workingMemory.sessions[sessionId]? with
    | none => return (s, none)
    | some session =>
      ensureSessionOwner organizationId workspaceId principalId session
      let entry ← found (session.entries.find? fun entry => entry.id == entryId)
        "working memory entry not found"
      let (s, memory) ← createMemory x env
        (promotedMemory organizationId workspaceId principalId sessionId session entry promotion) s
      return (s, some memory)

/-- The bytes of the entry a promotion names, where its owner asks for it. -/
def promotedBytes (sessionId entryId : Uuid) (s : Store) : Option Nat :=
  ((s.workingMemory.sessions[sessionId]?.filter
      (WorkingSession.ownedBy organizationId workspaceId principalId)).bind fun session =>
    session.entries.find? fun entry => entry.id == entryId).map fun entry => entry.content.utf8ByteSize

def promoteWorkingMemoryWithLimits (sessionId entryId : Uuid) (promotion : Promotion)
    (limits : WorkspaceLimits) : Call (Option Memory) := do
  pruneExpiredWorkingSessions env
  match ← Program.query fun s => .ok (promotedBytes organizationId workspaceId principalId sessionId entryId s) with
  | none => return none
  | some contentBytes =>
    Program.query fun s => enforceMemoryLimits organizationId workspaceId limits s contentBytes
    promoteWorkingMemory x env organizationId workspaceId principalId sessionId entryId promotion

end

end Hangar
