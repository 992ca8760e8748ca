import Hangar.Store.Tables
import Mathlib.Algebra.Order.Ring.Unbundled.Rat
import Mathlib.Data.List.Sort

namespace Hangar

open Lib

def maxMemoryRetentionMs : Nat := 365 * 24 * 60 * 60 * 1000

variable (x : Externals) (env : Env)

/-- The checks of a requested expiry, with the messages of their caller. -/
def checkExpiry (future retention : String) (expiresAtUnixMs : Option Nat) : Result Unit :=
  match expiresAtUnixMs with
  | some expiresAt => do
    check (expiresAt > env.now) future
    check (expiresAt - env.now ≤ maxMemoryRetentionMs) retention
  | none => pure ()

def checkMemoryExpiry : Option Nat → Result Unit :=
  checkExpiry env "expires_at_unix_ms must be in the future" "memory retention cannot exceed one year"

/-- `expires_at.is_none_or(|expires_at| expires_at > now)`. -/
def unexpired (expiresAtUnixMs : Option Nat) : Bool := expiresAtUnixMs.all fun expiresAt => expiresAt > env.now

def isRetrievable (memory : Memory) : Bool := memory.lifecycle == .published && unexpired env memory.expiresAtUnixMs

def newMemory (new : NewMemory) : Memory where
  id := env.uuid 0
  organizationId := new.organizationId
  workspaceId := new.workspaceId
  content := new.content
  source := new.source
  contentSha256 := x.sha256Text new.content
  createdBy := new.createdBy
  confidence := new.confidence
  lifecycle := .proposed
  createdAtUnixMs := env.now
  updatedAtUnixMs := env.now
  expiresAtUnixMs := new.expiresAtUnixMs
  supersededBy := none
  version := 1
  retention := if new.expiresAtUnixMs.isSome then .expireAt else .indefinite
  provenance := new.provenance

def Store.writeMemory (memory : Memory) (key : Uuid) (s : Store) : Store :=
  { s with knowledge := { s.knowledge with memories := s.knowledge.memories.insert key memory } }

def memorySubject (memory : Memory) : String := "memories/" ++ memory.id.text

def createMemory (new : NewMemory) (s : Store) : Result (Store × Memory) := do
  check (!isBlank new.organizationId) "organization_id cannot be empty"
  check (!isBlank new.workspaceId) "workspace_id cannot be empty"
  check (!isBlank new.content) "content cannot be empty"
  check (0 ≤ new.confidence ∧ new.confidence ≤ 1) "confidence must be between 0 and 1"
  checkMemoryExpiry env new.expiresAtUnixMs
  let memory := newMemory x env new
  let journal := insertOutboxEvent env (env.uuid 1) "memory.proposed.v1" (memorySubject memory)
    memory.organizationId (some memory.workspaceId)
    (.obj [("memory_id", .str memory.id.text), ("version", .num memory.version),
      ("provenance", memory.provenance.toJson)]) s.journal
  return ({ s.writeMemory memory memory.id with journal := journal }, memory)

def createMemoryWithLimits (new : NewMemory) (limits : WorkspaceLimits) (s : Store) :
    Result (Store × Memory) := do
  enforceMemoryLimits new.organizationId new.workspaceId limits s new.content.utf8ByteSize
  createMemory x env new s

def isValidTransition : MemoryLifecycle → MemoryLifecycle → Bool
  | .proposed, .validated => true
  | .validated, .published => true
  | .proposed, .expired => true
  | .validated, .expired => true
  | .published, .expired => true
  | .published, .superseded => true
  | _, _ => false

/-- The checks of `superseded_by` on a transition to `Superseded`. -/
def checkReplacement (organizationId workspaceId : String) (memory : Memory) (transition : MemoryTransition)
    (s : Store) : Result Unit :=
  if transition.lifecycle = .superseded then do
    let replacement ← found transition.supersededBy "superseded memory requires superseded_by"
    check (replacement ≠ memory.id) "a memory cannot supersede itself"
    let replacementMemory ← found s.knowledge.memories[replacement]? "replacement memory not found"
    check (inScope organizationId workspaceId replacementMemory.organizationId replacementMemory.workspaceId)
      "replacement memory must be in the same workspace"
    check (isRetrievable env replacementMemory) "replacement memory must be published and unexpired"
  else pure ()

def Memory.applyTransition (memory : Memory) (transition : MemoryTransition) : Memory :=
  let expiresAtUnixMs := transition.expiresAtUnixMs <|> memory.expiresAtUnixMs
  { memory with
    lifecycle := transition.lifecycle
    expiresAtUnixMs := expiresAtUnixMs
    retention := if expiresAtUnixMs.isSome then .expireAt else memory.retention
    supersededBy := transition.supersededBy
    updatedAtUnixMs := env.now
    version := memory.version + 1 }

def transitionMemory (id : Uuid) (organizationId workspaceId : String) (transition : MemoryTransition)
    (s : Store) : Result (Store × Option Memory) := do
  match s.knowledge.memories[id]? with
  | none => return (s, none)
  | some memory =>
    check (inScope organizationId workspaceId memory.organizationId memory.workspaceId)
      "memory not found in this workspace"
    check (isValidTransition memory.lifecycle transition.lifecycle) "invalid lifecycle transition"
    checkReplacement env organizationId workspaceId memory transition s
    checkMemoryExpiry env transition.expiresAtUnixMs
    let memory := memory.applyTransition env transition
    let journal := insertOutboxEvent env (env.uuid 0) "memory.lifecycle_changed.v1" (memorySubject memory)
      memory.organizationId (some memory.workspaceId)
      (.obj [("memory_id", .str memory.id.text), ("lifecycle", memory.lifecycle.toJson),
        ("version", .num memory.version)]) s.journal
    return ({ s.writeMemory memory id with journal := journal }, some memory)

def Memory.isDue (memory : Memory) : Bool :=
  (memory.lifecycle == .proposed || memory.lifecycle == .validated || memory.lifecycle == .published) &&
    memory.expiresAtUnixMs.any fun expiresAt => expiresAt ≤ env.now

def Memory.expire (memory : Memory) : Memory :=
  { memory with lifecycle := .expired, updatedAtUnixMs := env.now, version := memory.version + 1 }

def expiryJournal (journal : Journal) (entry : Memory × Nat) : Journal :=
  let memory := entry.1
  let system : Principal :=
    { id := Uuid.nil
      organizationId := memory.organizationId
      workspaceId := some memory.workspaceId
      role := .owner
      subjectKind := .agent }
  let journal := insertAuditEvent env (env.uuid (2 * entry.2)) system "memory.expired" (memorySubject memory)
    journal
  insertOutboxEvent env (env.uuid (2 * entry.2 + 1)) "memory.lifecycle_changed.v1" (memorySubject memory)
    memory.organizationId (some memory.workspaceId)
    (.obj [("memory_id", .str memory.id.text), ("lifecycle", memory.lifecycle.toJson),
      ("version", .num memory.version), ("reason", .str "retention_expired")]) journal

def expiredMemories (s : Store) : List (Uuid × Memory) :=
  (s.knowledge.memories.toList.filter fun entry => entry.2.isDue env).map fun entry =>
    (entry.1, entry.2.expire env)

def sweep (s : Store) : Store :=
  let expired := expiredMemories env s
  { s with
    knowledge := { s.knowledge with memories := Table.insertAll s.knowledge.memories expired }
    journal := ((expired.map Prod.snd).zipIdx).foldl (expiryJournal env) s.journal }

def expireDueMemories : Call Nat :=
  Program.transaction fun s => .ok (sweep env s, (expiredMemories env s).length)

section
variable (organizationId workspaceId : String)

def getMemory (id : Uuid) : Call (Option Memory) := do
  let _ ← expireDueMemories env
  Program.query fun s => .ok (s.knowledge.memories[id]?.filter fun memory =>
    inScope organizationId workspaceId memory.organizationId memory.workspaceId)

def searchTerms (query : String) : List String := splitWhitespace (x.toLowercase query)

def lexicalMatches (terms : List String) (content : String) : Nat :=
  (terms.map fun term => countMatches term.toList 0 (x.toLowercase content).toList).sum

def searchMemories (query : String) (limit : Nat) (s : Store) : Result (List Memory) := do
  let terms := searchTerms x query
  check (terms ≠ []) "query cannot be empty"
  let scored := (Table.rows s.knowledge.memories).filterMap fun memory =>
    let score := lexicalMatches x terms memory.content
    if inScope organizationId workspaceId memory.organizationId memory.workspaceId &&
        isRetrievable env memory && score > 0 then
      some (score, memory)
    else none
  return ((scored.insertionSort fun left right => right.1 ≤ left.1).take limit).map Prod.snd

def retrieve (query : String) (limit : Nat) : Call (List Memory) := do
  let _ ← expireDueMemories env
  Program.query (searchMemories x env organizationId workspaceId query limit)

end

end Hangar
