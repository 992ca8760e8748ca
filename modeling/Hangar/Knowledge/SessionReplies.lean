import Hangar.Edge.Http
import Hangar.Knowledge.Bounded

namespace Hangar

open Lib

inductive SessionRequest where
  | create (ttlMs : Option Nat)
  | get (id : Uuid)
  | append (id : Uuid) (new : NewWorkingMemoryEntry)
  | summarize (id : Uuid) (content : String)
  | promote (id entryId : Uuid) (promotion : Promotion)
  | promoteWithLimits (id entryId : Uuid) (promotion : Promotion) (limits : WorkspaceLimits)

structure SessionCall where
  organizationId : String
  workspaceId : String
  principalId : Uuid
  request : SessionRequest

inductive SessionReply where
  | session (session : WorkingSession)
  | entry (entry : WorkingMemoryEntry)
  | memory (memory : Memory)

def SessionCall.op (call : SessionCall) : KnowledgeOp :=
  match call.request with
  | .create ttlMs => .createWorkingSession ⟨call.organizationId, call.workspaceId, call.principalId, ttlMs⟩
  | .get id => .getWorkingSession call.organizationId call.workspaceId call.principalId id
  | .append id new => .appendWorkingMemory call.organizationId call.workspaceId call.principalId id new
  | .summarize id content => .updateWorkingSummary call.organizationId call.workspaceId call.principalId id content
  | .promote id entryId promotion =>
    .promoteWorkingMemory call.organizationId call.workspaceId call.principalId id entryId promotion
  | .promoteWithLimits id entryId promotion limits =>
    .promoteWorkingMemoryWithLimits call.organizationId call.workspaceId call.principalId id entryId promotion limits

/-- A session call whose absent result is reported as the handlers report it. -/
def foundSession {α : Type} (call : Call (Option α)) : Call α :=
  Http.orMissing call "working session not found in this scope"

section
variable (x : Externals) (env : Env)

def SessionCall.answer (call : SessionCall) : Call SessionReply :=
  match call.request with
  | .create ttlMs => do
    return .session (← createWorkingSession env ⟨call.organizationId, call.workspaceId, call.principalId, ttlMs⟩)
  | .get id => do
    return .session (← foundSession (getWorkingSession env call.organizationId call.workspaceId call.principalId id))
  | .append id new => do
    return .entry (← foundSession
      (appendWorkingMemory x env call.organizationId call.workspaceId call.principalId id new))
  | .summarize id content => do
    return .session (← foundSession
      (updateWorkingSummary x env call.organizationId call.workspaceId call.principalId id content))
  | .promote id entryId promotion => do
    return .memory (← foundSession
      (promoteWorkingMemory x env call.organizationId call.workspaceId call.principalId id entryId promotion))
  | .promoteWithLimits id entryId promotion limits => do
    return .memory (← foundSession (promoteWorkingMemoryWithLimits x env call.organizationId call.workspaceId
      call.principalId id entryId promotion limits))

end

def SessionCall.target (call : SessionCall) (env : Env) : Uuid :=
  match call.request with
  | .create _ => env.uuid 0
  | .get id | .append id _ | .summarize id _ | .promote id _ _ | .promoteWithLimits id _ _ _ => id

/-- What the caller sees of a session: its own and unexpired ones. -/
def ownSession (env : Env) (organizationId workspaceId : String) (principalId id : Uuid) (s : Store) : Option WorkingSession :=
  (pruned env s).workingMemory.sessions[id]?.filter (WorkingSession.ownedBy organizationId workspaceId principalId)

def SessionCall.view (call : SessionCall) (env : Env) (s : Store) : Option WorkingSession :=
  ownSession env call.organizationId call.workspaceId call.principalId (call.target env) s

variable {x : Externals} {env : Env} {s s' : Store} {organizationId workspaceId : String}
  {principalId sessionId entryId id : Uuid} {session : WorkingSession} {call : SessionCall}

theorem ownSession_eq_some : ownSession env organizationId workspaceId principalId id s = some session ↔
    LiveSession env organizationId workspaceId principalId s id session := by
  unfold ownSession
  rw [Option.filter_eq_some_iff, find_pruned]
  constructor
  · rintro ⟨⟨found, live⟩, owned⟩
    exact ⟨found, live, owned⟩
  · rintro ⟨found, live, owned⟩
    exact ⟨⟨found, live⟩, owned⟩

section
variable (x env) (organizationId workspaceId : String) (principalId : Uuid)

def promotedReply (sessionId : Uuid) (session : WorkingSession) (entry : WorkingMemoryEntry) (promotion : Promotion) :
    Result Memory :=
  (createMemory x env (promotedMemory organizationId workspaceId principalId sessionId session entry promotion)
    (Store.empty .hashingV1)).map Prod.snd

end

/-- The reply to a request by what its caller sees of the session, the number of sessions and the quota check. -/
def SessionCall.reply (x : Externals) (env : Env) (call : SessionCall) (size : Nat)
    (quota : WorkspaceLimits → Nat → Result Unit) (view : Option WorkingSession) : Result SessionReply :=
  match call.request with
  | .create ttlMs => do
    ensureScope call.organizationId call.workspaceId
    check (size < maxWorkingSessions) "working session capacity reached"
    check (ttlMs.getD defaultWorkingSessionTtlMs > 0) "session ttl_ms must be positive"
    check (ttlMs.getD defaultWorkingSessionTtlMs ≤ maxWorkingSessionTtlMs) "session ttl_ms cannot exceed 24 hours"
    return .session (newWorkingSession env ⟨call.organizationId, call.workspaceId, call.principalId, ttlMs⟩
      (ttlMs.getD defaultWorkingSessionTtlMs))
  | .get _ => do
    let session ← found view "working session not found in this scope"
    return .session session
  | .append _ new => do
    check (!isBlank new.content) "working memory content cannot be empty"
    check (new.content.utf8ByteSize ≤ maxWorkingEntryBytes) "working memory entry exceeds the 8 KiB limit"
    let session ← found view "working session not found in this scope"
    check (session.entries.length < maxWorkingEntriesPerSession) "working memory entry capacity reached"
    check (sessionContentBytes session + new.content.utf8ByteSize ≤ maxWorkingSessionBytes)
      "working session exceeds the 64 KiB limit"
    return .entry (newWorkingEntry x env new)
  | .summarize _ content => do
    check (!isBlank content) "working memory summary cannot be empty"
    check (content.utf8ByteSize ≤ maxWorkingEntryBytes) "working memory summary exceeds the 8 KiB limit"
    let session ← found view "working session not found in this scope"
    check (sessionContentBytes session - (session.summary.map fun summary => summary.content.utf8ByteSize).getD 0 +
        content.utf8ByteSize ≤ maxWorkingSessionBytes) "working session exceeds the 64 KiB limit"
    return .session { session with
      summary := some (newSummary x env call.principalId content
        ((session.summary.map fun summary => (summary.version + 1) % 2 ^ 32).getD 1)),
      updatedAtUnixMs := env.now }
  | .promote id entryId promotion => do
    let session ← found view "working session not found in this scope"
    let entry ← found (session.entries.find? fun entry => entry.id == entryId) "working memory entry not found"
    let memory ← promotedReply x env call.organizationId call.workspaceId call.principalId id session entry promotion
    return .memory memory
  | .promoteWithLimits id entryId promotion limits => do
    let session ← found view "working session not found in this scope"
    let entry ← found (session.entries.find? fun entry => entry.id == entryId)
      "working session not found in this scope"
    quota limits entry.content.utf8ByteSize
    let memory ← promotedReply x env call.organizationId call.workspaceId call.principalId id session entry promotion
    return .memory memory

theorem map_bind {α β γ : Type} {p : Result α} {f : α → Result β} {g : β → γ} :
    (p >>= f).map g = p >>= fun a => (f a).map g := by
  cases p <;> rfl

theorem map_eq_bind {α β : Type} {p : Result α} {f : α → β} : p.map f = p >>= fun a => pure (f a) := by
  cases p <;> rfl

theorem createMemory_memory {new : NewMemory} : (createMemory x env new s).map Prod.snd =
    (createMemory x env new (Store.empty .hashingV1)).map Prod.snd := by
  unfold createMemory
  simp only [map_bind]
  rfl

theorem map_result {α β : Type} {p : Call α} {f : α → β} :
    ((do return f (← p) : Call β) s).2 = (p s).2.map f := by
  refine Program.bind_result.trans ?_
  cases (p s).2 <;> rfl

theorem foundSession_result {α : Type} {p : Call (Option α)} :
    (foundSession p s).2 = (p s).2 >>= fun result => found result "working session not found in this scope" :=
  Http.orMissing_result

theorem transaction_result {α : Type} {f : Store → Result (Store × α)} :
    (Program.transaction f s).2 = (f s).map Prod.snd := by
  unfold Program.transaction
  cases f s <;> rfl

theorem onSession_result {α : Type} {f : WorkingSession → Store → Result (Store × Option α)} :
    (Program.transaction (fun s => do
        match s.workingMemory.sessions[sessionId]? with
        | none => return (s, none)
        | some session =>
          ensureSessionOwner organizationId workspaceId principalId session
          f session s) (pruned env s)).2 >>= (fun result => found result "working session not found in this scope") =
      found (ownSession env organizationId workspaceId principalId sessionId s) "working session not found in this scope" >>=
        fun session => (f session (pruned env s)).map Prod.snd >>= fun result =>
          found result "working session not found in this scope" := by
  rw [transaction_result]
  unfold ownSession
  cases stored : (pruned env s).workingMemory.sessions[sessionId]? with
  | none => rfl
  | some session =>
    by_cases owned : session.ownedBy organizationId workspaceId principalId = true
    · have passed : ensureSessionOwner organizationId workspaceId principalId session = .ok () := ensureSessionOwner_ok.mpr owned
      simp only [passed, Option.filter_some, owned, if_true]
      rfl
    · have refused : ensureSessionOwner organizationId workspaceId principalId session =
          .error (.check "working session not found in this scope") := if_neg owned
      simp only [refused, Option.filter_some, owned]
      rfl

theorem promoteWorkingMemory_result {promotion : Promotion} :
    (promoteWorkingMemory x env organizationId workspaceId principalId sessionId entryId promotion s).2 >>=
        (fun result => found result "working session not found in this scope") =
      found (ownSession env organizationId workspaceId principalId sessionId s) "working session not found in this scope" >>=
        fun session => found (session.entries.find? fun entry => entry.id == entryId) "working memory entry not found" >>=
        fun entry => promotedReply x env organizationId workspaceId principalId sessionId session entry promotion := by
  unfold promoteWorkingMemory
  rw [Program.bind_run pruneExpiredWorkingSessions_eq]
  refine onSession_result.trans ?_
  apply bind_congr
  intro session
  rw [map_bind, bind_assoc]
  apply bind_congr
  intro entry
  unfold promotedReply
  rw [← createMemory_memory (s := pruned env s), map_bind]
  cases createMemory x env (promotedMemory organizationId workspaceId principalId sessionId session entry promotion)
    (pruned env s) <;> rfl

theorem ownSession_pruned : ownSession env organizationId workspaceId principalId id (pruned env s) =
    ownSession env organizationId workspaceId principalId id s := by
  unfold ownSession
  rw [pruned_idempotent]

theorem promoteWorkingMemoryWithLimits_result {promotion : Promotion} {limits : WorkspaceLimits} :
    (promoteWorkingMemoryWithLimits x env organizationId workspaceId principalId sessionId entryId promotion limits s).2 >>=
        (fun result => found result "working session not found in this scope") =
      found (ownSession env organizationId workspaceId principalId sessionId s) "working session not found in this scope" >>=
        fun session => found (session.entries.find? fun entry => entry.id == entryId)
          "working session not found in this scope" >>=
        fun entry => enforceMemoryLimits organizationId workspaceId limits s entry.content.utf8ByteSize >>=
        fun _ => promotedReply x env organizationId workspaceId principalId sessionId session entry promotion := by
  have bytes : promotedBytes organizationId workspaceId principalId sessionId entryId (pruned env s) =
      ((ownSession env organizationId workspaceId principalId sessionId s).bind fun session =>
        session.entries.find? fun entry => entry.id == entryId).map fun entry => entry.content.utf8ByteSize := rfl
  unfold promoteWorkingMemoryWithLimits
  rw [Program.bind_run pruneExpiredWorkingSessions_eq, Program.query_bind, bytes]
  cases own : ownSession env organizationId workspaceId principalId sessionId s with
  | none => rfl
  | some session =>
    have head : found (some session) "working session not found in this scope" = .ok session := rfl
    rw [Option.bind_some, bind_of_ok head]
    cases listed : session.entries.find? fun entry => entry.id == entryId with
    | none => rfl
    | some entry =>
      have here : found (some entry) "working session not found in this scope" = .ok entry := rfl
      have quota : enforceMemoryLimits organizationId workspaceId limits (pruned env s) entry.content.utf8ByteSize =
          enforceMemoryLimits organizationId workspaceId limits s entry.content.utf8ByteSize := rfl
      rw [bind_of_ok here, Option.map_some, bind_of_ok rfl]
      dsimp only
      rw [Program.query_bind, bind_assoc, quota]
      apply bind_congr
      intro _
      rw [promoteWorkingMemory_result, ownSession_pruned, own, bind_of_ok head, listed]
      exact bind_of_ok rfl

theorem SessionCall.answer_result : (call.answer x env s).2 = call.reply x env (pruned env s).workingMemory.sessions.size
    (fun limits bytes => enforceMemoryLimits call.organizationId call.workspaceId limits s bytes) (call.view env s) := by
  obtain ⟨organizationId, workspaceId, principalId, request⟩ := call
  cases request with
  | create ttlMs =>
    show ((do return SessionReply.session (← createWorkingSession env _) : Call SessionReply) s).2 = _
    rw [map_result]
    unfold createWorkingSession
    rw [Program.query_bind, map_bind]
    apply bind_congr
    intro _
    rw [Program.bind_run pruneExpiredWorkingSessions_eq, transaction_result]
    simp only [map_bind]
    rfl
  | get id =>
    show ((do return SessionReply.session (← foundSession _) : Call SessionReply) s).2 = _
    rw [map_result, foundSession_result]
    rfl
  | append id new =>
    show ((do return SessionReply.entry (← foundSession _) : Call SessionReply) s).2 = _
    rw [map_result, foundSession_result]
    unfold appendWorkingMemory
    rw [Program.query_bind, bind_assoc, map_bind]
    apply bind_congr
    intro _
    rw [Program.query_bind, bind_assoc, map_bind]
    apply bind_congr
    intro _
    rw [Program.bind_run pruneExpiredWorkingSessions_eq]
    refine (congrArg (Except.map _) onSession_result).trans ?_
    rw [map_bind]
    apply bind_congr
    intro session
    simp only [map_bind, bind_assoc]
    rfl
  | summarize id content =>
    show ((do return SessionReply.session (← foundSession _) : Call SessionReply) s).2 = _
    rw [map_result, foundSession_result]
    unfold updateWorkingSummary
    rw [Program.query_bind, bind_assoc, map_bind]
    apply bind_congr
    intro _
    rw [Program.query_bind, bind_assoc, map_bind]
    apply bind_congr
    intro _
    rw [Program.bind_run pruneExpiredWorkingSessions_eq]
    refine (congrArg (Except.map _) onSession_result).trans ?_
    rw [map_bind]
    apply bind_congr
    intro session
    simp only [map_bind, bind_assoc]
    rfl
  | promote id entryId promotion =>
    show ((do return SessionReply.memory (← foundSession _) : Call SessionReply) s).2 = _
    rw [map_result, foundSession_result, promoteWorkingMemory_result]
    simp only [map_eq_bind, bind_assoc]
    rfl
  | promoteWithLimits id entryId promotion limits =>
    show ((do return SessionReply.memory (← foundSession _) : Call SessionReply) s).2 = _
    rw [map_result, foundSession_result]
    rw [promoteWorkingMemoryWithLimits_result]
    simp only [map_eq_bind, bind_assoc]
    rfl

/-- Only whether there is room for a session and whether the quota admits the entry matter beside the view. -/
theorem SessionCall.reply_congr {size size' : Nat} {quota quota' : WorkspaceLimits → Nat → Result Unit}
    {view : Option WorkingSession}
    (room : ∀ ttlMs, call.request = .create ttlMs → (size < maxWorkingSessions ↔ size' < maxWorkingSessions))
    (admits : ∀ id entryId promotion limits session entry, call.request = .promoteWithLimits id entryId promotion limits →
      view = some session → (session.entries.find? fun entry => entry.id == entryId) = some entry →
        quota limits entry.content.utf8ByteSize = quota' limits entry.content.utf8ByteSize) :
    call.reply x env size quota view = call.reply x env size' quota' view := by
  obtain ⟨organizationId, workspaceId, principalId, request⟩ := call
  cases request with
  | create ttlMs =>
    have same : (check (size < maxWorkingSessions) "working session capacity reached" : Result Unit) =
        check (size' < maxWorkingSessions) "working session capacity reached" := by
      unfold check ensure
      simp only [room ttlMs rfl]
    unfold SessionCall.reply
    simp only [same]
  | promoteWithLimits id entryId promotion limits =>
    unfold SessionCall.reply
    apply bind_congr_ok
    intro session seen
    apply bind_congr_ok
    intro entry listed
    rw [context_eq_ok] at seen listed
    rw [admits id entryId promotion limits session entry rfl seen listed]
  | _ => rfl

def SessionCall.update (x : Externals) (env : Env) (call : SessionCall) (view : Option WorkingSession) : Option WorkingSession :=
  match call.request with
  | .create ttlMs => some (newWorkingSession env ⟨call.organizationId, call.workspaceId, call.principalId, ttlMs⟩
      (ttlMs.getD defaultWorkingSessionTtlMs))
  | .append _ new => view.map fun session =>
      { session with entries := session.entries ++ [newWorkingEntry x env new], updatedAtUnixMs := env.now }
  | .summarize _ content => view.map fun session =>
      { session with
        summary := some (newSummary x env call.principalId content
          ((session.summary.map fun summary => (summary.version + 1) % 2 ^ 32).getD 1)),
        updatedAtUnixMs := env.now }
  | _ => none

theorem SessionCall.update_some {view : Option WorkingSession} {updated : WorkingSession}
    (written : call.update x env view = some updated) :
    (updated.createdBy = call.principalId ∧ call.target env = env.uuid 0) ∨
      ∃ session, view = some session ∧ updated.createdBy = session.createdBy ∧
        updated.expiresAtUnixMs = session.expiresAtUnixMs := by
  obtain ⟨organizationId, workspaceId, principalId, request⟩ := call
  cases request with
  | create ttlMs =>
    cases written
    exact .inl ⟨rfl, rfl⟩
  | append id new =>
    rcases Option.map_eq_some_iff.mp written with ⟨session, seen, rfl⟩
    exact .inr ⟨session, seen, rfl, rfl⟩
  | summarize id content =>
    rcases Option.map_eq_some_iff.mp written with ⟨session, seen, rfl⟩
    exact .inr ⟨session, seen, rfl, rfl⟩
  | _ => cases written

theorem SessionCall.view_live (seen : call.view env s = some session) :
    LiveSession env call.organizationId call.workspaceId call.principalId s (call.target env) session :=
  ownSession_eq_some.mp seen

theorem LiveSession.createdBy (live : LiveSession env organizationId workspaceId principalId s id session) :
    session.createdBy = principalId := by
  have owned := live.owned
  unfold WorkingSession.ownedBy at owned
  simp only [Bool.and_eq_true, beq_iff_eq] at owned
  exact owned.2

theorem SessionCall.update_createdBy {updated : WorkingSession}
    (written : call.update x env (call.view env s) = some updated) : updated.createdBy = call.principalId := by
  rcases SessionCall.update_some written with ⟨creator, _⟩ | ⟨session, seen, creator, _⟩
  · exact creator
  · rw [creator, (SessionCall.view_live seen).createdBy]

theorem SessionCall.update_keeps {updated : WorkingSession}
    (written : call.update x env (call.view env s) = some updated) (unused : env.uuid 0 ∉ s.workingMemory.sessions)
    (found : s.workingMemory.sessions[call.target env]? = some session) :
    updated.createdBy = session.createdBy ∧ updated.expiresAtUnixMs = session.expiresAtUnixMs := by
  rcases SessionCall.update_some written with ⟨_, target⟩ | ⟨session', seen, creator, expiry⟩
  · rw [target] at found
    refine absurd ?_ unused
    rw [Std.ExtTreeMap.mem_iff_isSome_getElem?, found]
    rfl
  · have found' := (SessionCall.view_live seen).found
    rw [found, Option.some.injEq] at found'
    rw [creator, expiry, found']
    exact ⟨rfl, rfl⟩

structure Answered (x : Externals) (env : Env) (call : SessionCall) (s : Store) (reply : SessionReply) (s' : Store) :
    Prop where
  sessions : s'.workingMemory.sessions = match call.update x env (call.view env s) with
    | some updated => (pruned env s).workingMemory.sessions.insert (call.target env) updated
    | none => (pruned env s).workingMemory.sessions
  memories : s'.knowledge.memories = match reply with
    | .memory memory => s.knowledge.memories.insert (env.uuid 0) memory
    | _ => s.knowledge.memories
  ingestion : s'.ingestion = s.ingestion
  seen : (∃ ttlMs, call.request = .create ttlMs) ∨ (call.view env s).isSome = true

theorem foundSession_spec {α : Type} {p : Call (Option α)} {Q : α → Store → Prop}
    (spec : Program.Triple p s (fun result s' => (result = none ∧ s' = pruned env s) ∨ ∃ a, result = some a ∧ Q a s')
      (fun _ => OnlyPruned env s)) : Program.Triple (foundSession p) s Q (fun _ => OnlyPruned env s) := by
  apply spec.bind
  intro result s' post
  rcases post with ⟨rfl, same⟩ | ⟨a, rfl, post⟩
  · exact Program.Triple.query nofun fun _ _ => .inr same
  · refine Program.Triple.query ?_ nofun
    intro a' same
    cases same
    exact post

theorem LiveSession.own (live : LiveSession env organizationId workspaceId principalId s id session) :
    ownSession env organizationId workspaceId principalId id s = some session := ownSession_eq_some.mpr live

theorem SessionCall.answer_spec (call : SessionCall) (x : Externals) (env : Env) (s : Store) :
    Program.Triple (call.answer x env) s (Answered x env call s) (fun _ => OnlyPruned env s) := by
  have seenBy {id : Uuid} {session : WorkingSession} (live : LiveSession env call.organizationId call.workspaceId
      call.principalId s id session) (named : call.target env = id) : call.view env s = some session := by
    rw [SessionCall.view, named, live.own]
  have promoted {id : Uuid} {session : WorkingSession} {new : NewMemory} {memory : Memory} {s' : Store}
      (reads : ∀ view, call.update x env view = none) (live : LiveSession env call.organizationId call.workspaceId
        call.principalId s id session) (named : call.target env = id)
      (created : createMemory x env new (pruned env s) = .ok (s', memory)) : Answered x env call s (.memory memory) s' := by
    obtain ⟨_, rfl, written⟩ := createMemory_ok created
    rw [written]
    refine ⟨?_, rfl, rfl, .inr (Option.isSome_of_eq_some (seenBy live named))⟩
    rw [reads]
    rfl
  obtain ⟨organizationId, workspaceId, principalId, request⟩ := call
  cases request with
  | create ttlMs =>
    apply createWorkingSession_spec.bind
    rintro session s' ⟨ttlMs', rfl, rfl, _, _, _, rfl⟩
    exact Program.Triple.pure ⟨rfl, rfl, rfl, .inl ⟨ttlMs, rfl⟩⟩
  | get id =>
    refine Program.Triple.bind (foundSession_spec (Q := fun session s' => s' = pruned env s ∧
      LiveSession env organizationId workspaceId principalId s id session) ?_) ?_
    · refine getWorkingSession_spec.weaken ?_ fun _ _ only => only
      rintro result s' ⟨same, live⟩
      cases result with
      | none => exact .inl ⟨rfl, same⟩
      | some session => exact .inr ⟨session, rfl, same, live session rfl⟩
    · rintro session s' ⟨rfl, live⟩
      exact Program.Triple.pure ⟨rfl, rfl, rfl, .inr (Option.isSome_of_eq_some (seenBy live rfl))⟩
  | append id new =>
    apply (foundSession_spec appendWorkingMemory_spec).bind
    rintro entry s' ⟨session, live, rfl, _, _, _, rfl⟩
    have seen := seenBy live rfl
    refine Program.Triple.pure ⟨?_, rfl, rfl, .inr (Option.isSome_of_eq_some seen)⟩
    rw [seen]
    rfl
  | summarize id content =>
    apply (foundSession_spec updateWorkingSummary_spec).bind
    rintro updated s' ⟨session, version, live, rfl, _, _, rfl, rfl⟩
    have seen := seenBy live rfl
    refine Program.Triple.pure ⟨?_, rfl, rfl, .inr (Option.isSome_of_eq_some seen)⟩
    rw [seen]
    rfl
  | promote id entryId promotion =>
    apply (foundSession_spec promoteWorkingMemory_spec).bind
    rintro memory s' ⟨session, entry, live, _, created⟩
    exact Program.Triple.pure (promoted (fun _ => rfl) live rfl created)
  | promoteWithLimits id entryId promotion limits =>
    apply (foundSession_spec promoteWorkingMemoryWithLimits_spec).bind
    rintro memory s' ⟨session, entry, live, _, created⟩
    exact Program.Triple.pure (promoted (fun _ => rfl) live rfl created)

end Hangar
