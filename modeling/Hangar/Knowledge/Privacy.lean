import Hangar.Knowledge.SessionReplies
import Mathlib.Algebra.Order.BigOperators.Group.List

namespace Hangar

open Lib

/-- The sessions of `p` are the same in both tables, and the others of the second stand in the first too. -/
structure SessionsApart (p : Uuid) (now : Nat) (full rest : Table Uuid WorkingSession) : Prop where
  own : ∀ (id : Uuid) session, session.createdBy = p → now < session.expiresAtUnixMs →
    (full[id]? = some session ↔ rest[id]? = some session)
  others : ∀ (id : Uuid) session, rest[id]? = some session → now < session.expiresAtUnixMs → session.createdBy ≠ p →
    ∃ session', full[id]? = some session' ∧ session'.createdBy = session.createdBy ∧
      session'.expiresAtUnixMs = session.expiresAtUnixMs

def SameLive (now : Nat) (sessions sessions' : Table Uuid WorkingSession) : Prop :=
  ∀ (id : Uuid) session, now < session.expiresAtUnixMs → (sessions'[id]? = some session ↔ sessions[id]? = some session)

variable {x : Externals} {engines : SearchEngines} {env : Env} {s s' : Store} {p id : Uuid} {now now' : Nat}
  {full rest full' rest' : Table Uuid WorkingSession} {session updated : WorkingSession} {call : SessionCall}

theorem OnlyPruned.sameLive (only : OnlyPruned env s s') :
    SameLive env.now s.workingMemory.sessions s'.workingMemory.sessions := by
  intro id session live
  rcases only with rfl | rfl
  · exact Iff.rfl
  · rw [find_pruned]
    exact ⟨fun found => found.1, fun found => ⟨found, live⟩⟩

theorem SessionsApart.refl : SessionsApart p now full full :=
  ⟨fun _ _ _ _ => Iff.rfl, fun _ session found _ _ => ⟨session, found, rfl, rfl⟩⟩

theorem SessionsApart.later (apart : SessionsApart p now full rest) (later : now ≤ now') : SessionsApart p now' full rest where
  own id session owned live := apart.own id session owned (by omega)
  others id session found live other := apart.others id session found (by omega) other

theorem SessionsApart.sameLive (apart : SessionsApart p now full rest) (left : SameLive now full full')
    (right : SameLive now rest rest') : SessionsApart p now full' rest' where
  own id session owned live := by
    rw [left id session live, right id session live]
    exact apart.own id session owned live
  others id session found live other := by
    rw [right id session live] at found
    rcases apart.others id session found live other with ⟨session', found', same, expiry⟩
    refine ⟨session', ?_, same, expiry⟩
    rw [left id session' (by omega)]
    exact found'

theorem SessionsApart.insert (apart : SessionsApart p now full rest) :
    SessionsApart p now (full.insert id updated) (rest.insert id updated) where
  own id' session owned live := by
    rw [Table.find_insert, Table.find_insert]
    by_cases same : id = id'
    · simp [same]
    · rw [if_neg same, if_neg same]
      exact apart.own id' session owned live
  others id' session found live other := by
    rw [Table.find_insert] at found ⊢
    by_cases same : id = id'
    · rw [if_pos same] at found ⊢
      exact ⟨session, found, rfl, rfl⟩
    · rw [if_neg same] at found ⊢
      exact apart.others id' session found live other

theorem SessionsApart.write (apart : SessionsApart p now full rest) (other : updated.createdBy ≠ p)
    (before : ∀ session, full[id]? = some session → now < session.expiresAtUnixMs →
      updated.createdBy = session.createdBy ∧ updated.expiresAtUnixMs = session.expiresAtUnixMs) :
    SessionsApart p now (full.insert id updated) rest where
  own id' session owned live := by
    rw [Table.find_insert, ← apart.own id' session owned live]
    by_cases same : id = id'
    · rw [if_pos same, Option.some.injEq]
      constructor
      · intro equal
        exact absurd (by rw [equal, owned]) other
      · intro found
        rw [← same] at found
        exact absurd ((before session found live).1.trans owned) other
    · rw [if_neg same]
  others id' session found live other' := by
    rcases apart.others id' session found live other' with ⟨session', found', creator, expiry⟩
    rw [Table.find_insert]
    by_cases same : id = id'
    · rw [if_pos same]
      rw [← same] at found'
      rcases before session' found' (by omega) with ⟨creator', expiry'⟩
      exact ⟨updated, rfl, creator'.trans creator, expiry'.trans expiry⟩
    · rw [if_neg same]
      exact ⟨session', found', creator, expiry⟩

/-- What a run of all calls and the run of the calls of `p` alone have in common. -/
structure Private (p : Uuid) (now : Nat) (full rest : Store) : Prop where
  sessions : SessionsApart p now full.workingMemory.sessions rest.workingMemory.sessions
  memories : ∀ (id : Uuid) memory, rest.knowledge.memories[id]? = some memory → full.knowledge.memories[id]? = some memory
  ingestion : rest.ingestion = full.ingestion

variable {part : Store} {organizationId workspaceId : String}

theorem Private.view (apart : Private p now s part) (later : now ≤ env.now) (own : call.principalId = p) :
    call.view env s = call.view env part := by
  apply Option.ext
  intro session
  unfold SessionCall.view
  rw [ownSession_eq_some, ownSession_eq_some]
  have same (owned : session.ownedBy call.organizationId call.workspaceId call.principalId = true)
      (live : env.now < session.expiresAtUnixMs) := apart.sessions.own (call.target env) session (by
    unfold WorkingSession.ownedBy at owned
    simp only [Bool.and_eq_true, beq_iff_eq] at owned
    rw [owned.2, own]) (by omega)
  constructor
  · rintro ⟨found, live, owned⟩
    exact ⟨(same owned live).mp found, live, owned⟩
  · rintro ⟨found, live, owned⟩
    exact ⟨(same owned live).mpr found, live, owned⟩

theorem Private.size (apart : Private p now s part) (later : now ≤ env.now) :
    (pruned env part).workingMemory.sessions.size ≤ (pruned env s).workingMemory.sessions.size := by
  apply Table.size_le_of_keys
  intro id listed
  rw [Std.ExtTreeMap.mem_iff_isSome_getElem?, Option.isSome_iff_exists] at listed ⊢
  rcases listed with ⟨session, found⟩
  rcases find_pruned.mp found with ⟨found, live⟩
  by_cases own : session.createdBy = p
  · exact ⟨session, find_pruned.mpr ⟨(apart.sessions.own id session own (by omega)).mpr found, live⟩⟩
  · rcases apart.sessions.others id session found (by omega) own with ⟨session', found', _, expiry⟩
    exact ⟨session', find_pruned.mpr ⟨found', by omega⟩⟩

theorem Private.usage (apart : Private p now s part) (organizationId workspaceId : String) :
    (∀ e, workspaceUsage organizationId workspaceId s = .error e →
      workspaceUsage organizationId workspaceId part = .error e) ∧
    ∀ usage, workspaceUsage organizationId workspaceId s = .ok usage → ∃ usage',
      workspaceUsage organizationId workspaceId part = .ok usage' ∧ usage'.memoryCount ≤ usage.memoryCount ∧
        usage'.memoryBytes ≤ usage.memoryBytes := by
  have fewer : (scopedMemories organizationId workspaceId part).Sublist (scopedMemories organizationId workspaceId s) :=
    (Table.rows_sublist apart.memories).filter _
  have bytes : ((scopedMemories organizationId workspaceId part).map fun memory => memory.content.utf8ByteSize).sum ≤
      ((scopedMemories organizationId workspaceId s).map fun memory => memory.content.utf8ByteSize).sum :=
    (fewer.map _).sum_le_sum fun _ _ => Nat.zero_le _
  have documents : scopedDocuments organizationId workspaceId part = scopedDocuments organizationId workspaceId s := by
    unfold scopedDocuments
    rw [apart.ingestion]
  have payload : documentPayload part = documentPayload s := by
    funext document
    unfold documentPayload
    rw [apart.ingestion]
  unfold workspaceUsage
  rw [documents, payload]
  constructor
  · intro e failed
    rcases bind_eq_error.mp failed with scope | ⟨_, scope, failed⟩
    · exact bind_eq_error.mpr (.inl scope)
    · rcases bind_eq_error.mp failed with summed | ⟨_, _, failed⟩
      · exact bind_eq_error.mpr (.inr ⟨_, scope, bind_eq_error.mpr (.inl summed)⟩)
      · cases failed
  · intro usage run
    rcases bind_eq_ok.mp run with ⟨_, scope, run⟩
    rcases bind_eq_ok.mp run with ⟨ingestionBytes, summed, run⟩
    cases run
    refine ⟨_, bind_eq_ok.mpr ⟨_, scope, bind_eq_ok.mpr ⟨_, summed, rfl⟩⟩, fewer.length_le, bytes⟩

/-- The call meets the limit on the sessions of the server, or a quota on the memories of its workspace. -/
def SessionCall.Limited (call : SessionCall) (env : Env) (s : Store) : Prop :=
  match call.request with
  | .create _ => maxWorkingSessions ≤ (pruned env s).workingMemory.sessions.size
  | .promoteWithLimits id entryId _ limits => ∃ bytes usage,
    promotedBytes call.organizationId call.workspaceId call.principalId id entryId (pruned env s) = some bytes ∧
      workspaceUsage call.organizationId call.workspaceId s = .ok usage ∧
      ¬(usage.memoryCount < limits.maxMemories ∧ bytes ≤ limits.maxMemoryBytes ∧
        usage.memoryBytes + bytes ≤ limits.maxMemoryBytes)
  | _ => False

theorem Private.quota {limits : WorkspaceLimits} {bytes : Nat} (apart : Private p now s part)
    (room : ∀ usage, workspaceUsage organizationId workspaceId s = .ok usage → usage.memoryCount < limits.maxMemories ∧
      bytes ≤ limits.maxMemoryBytes ∧ usage.memoryBytes + bytes ≤ limits.maxMemoryBytes) :
    enforceMemoryLimits organizationId workspaceId limits part bytes =
      enforceMemoryLimits organizationId workspaceId limits s bytes := by
  rcases apart.usage organizationId workspaceId with ⟨failing, counting⟩
  unfold enforceMemoryLimits
  cases used : workspaceUsage organizationId workspaceId s with
  | error e => rw [failing e used]
  | ok usage =>
    rcases counting usage used with ⟨usage', used', fewer, less⟩
    rcases room usage used with ⟨count, small, total⟩
    have passed {usage : WorkspaceUsage} (count : usage.memoryCount < limits.maxMemories)
        (total : usage.memoryBytes + bytes ≤ limits.maxMemoryBytes) :
        (do check (usage.memoryCount < limits.maxMemories) "workspace memory quota exceeded"
            check (bytes ≤ limits.maxMemoryBytes ∧ usage.memoryBytes + bytes ≤ limits.maxMemoryBytes)
              "workspace memory byte quota exceeded" : Result Unit) = .ok () := by
      rw [bind_of_ok (a := ()) (ensure_eq_ok.mpr count)]
      exact ensure_eq_ok.mpr ⟨small, total⟩
    rw [used', bind_of_ok rfl, bind_of_ok rfl, passed count total, passed (by omega) (by omega)]

/-- Without limits met, a call of `p` is answered as in the run of its calls alone. -/
theorem Private.reply (apart : Private p now s part) (later : now ≤ env.now) (own : call.principalId = p)
    (unlimited : ¬call.Limited env s) : (call.answer x env s).2 = (call.answer x env part).2 := by
  rw [SessionCall.answer_result, SessionCall.answer_result, ← apart.view later own]
  apply SessionCall.reply_congr
  · intro ttlMs creates
    have size := apart.size later
    unfold SessionCall.Limited at unlimited
    rw [creates] at unlimited
    constructor <;> intro <;> omega
  · intro id entryId promotion limits session entry promotes seen listed
    symm
    apply apart.quota
    intro usage used
    by_contra reached
    unfold SessionCall.Limited at unlimited
    rw [promotes] at unlimited
    have bytes : promotedBytes call.organizationId call.workspaceId call.principalId id entryId (pruned env s) =
        some entry.content.utf8ByteSize := by
      have target : call.target env = id := by
        unfold SessionCall.target
        rw [promotes]
      rw [SessionCall.view, target] at seen
      show ((ownSession env call.organizationId call.workspaceId call.principalId id s).bind fun session =>
        session.entries.find? fun entry => entry.id == entryId).map _ = _
      rw [seen, Option.bind_some, listed]
      rfl
    exact unlimited ⟨_, usage, bytes, used, reached⟩

/-- The call of another principal leaves what `p` has in common with the run of its calls alone. -/
theorem Private.foreign (apart : Private p now s part) (later : now ≤ env.now) (other : call.principalId ≠ p)
    (newSession : env.uuid 0 ∉ s.workingMemory.sessions) (newMemory : env.uuid 0 ∉ s.knowledge.memories) :
    Private p env.now (call.answer x env s).1 part := by
  have sessions := apart.sessions.later later
  refine Program.Triple.state (fun s' => Private p env.now s' part) ((call.answer_spec x env s).weaken ?_ ?_)
  · intro reply s' answered
    have kept : SessionsApart p env.now (pruned env s).workingMemory.sessions part.workingMemory.sessions :=
      sessions.sameLive (OnlyPruned.sameLive (.inr rfl)) fun _ _ _ => Iff.rfl
    refine ⟨?_, ?_, apart.ingestion.trans answered.ingestion.symm⟩
    · rw [answered.sessions]
      cases written : call.update x env (call.view env s) with
      | none => exact kept
      | some updated =>
        refine kept.write ?_ ?_
        · rw [SessionCall.update_createdBy written]
          exact other
        · intro session found live
          exact SessionCall.update_keeps written newSession (find_pruned.mp found).1
    · intro id memory found
      rw [answered.memories]
      cases reply with
      | memory created =>
        dsimp only
        rw [Table.find_insert, if_neg]
        · exact apart.memories id memory found
        · rintro rfl
          apply newMemory
          rw [Std.ExtTreeMap.mem_iff_isSome_getElem?, apart.memories _ memory found]
          rfl
      | _ => exact apart.memories id memory found
  · intro e s' only
    have knowledge : s'.knowledge = s.knowledge := by rcases only with rfl | rfl <;> rfl
    have ingestion : s'.ingestion = s.ingestion := by rcases only with rfl | rfl <;> rfl
    refine ⟨sessions.sameLive only.sameLive fun _ _ _ => Iff.rfl, ?_, by rw [ingestion, apart.ingestion]⟩
    rw [knowledge]
    exact apart.memories

theorem Private.proper (apart : Private p now s part) (later : now ≤ env.now) (own : call.principalId = p)
    (unlimited : ¬call.Limited env s) : Private p env.now (call.answer x env s).1 (call.answer x env part).1 := by
  have sessions := apart.sessions.later later
  have same : (call.answer x env s).2 = (call.answer x env part).2 := apart.reply later own unlimited
  have left := call.answer_spec x env s
  have right := call.answer_spec x env part
  cases replied : (call.answer x env s).2 with
  | error e =>
    have only := left.error replied
    have only' := right.error (same.symm.trans replied)
    have knowledge {t t' : Store} (only : OnlyPruned env t t') : t'.knowledge = t.knowledge := by
      rcases only with rfl | rfl <;> rfl
    have ingestion {t t' : Store} (only : OnlyPruned env t t') : t'.ingestion = t.ingestion := by
      rcases only with rfl | rfl <;> rfl
    refine ⟨sessions.sameLive only.sameLive only'.sameLive, ?_, ?_⟩
    · rw [knowledge only, knowledge only']
      exact apart.memories
    · rw [ingestion only, ingestion only', apart.ingestion]
  | ok reply =>
    have answered := left.ok (Program.run_of_result replied)
    have answered' := right.ok (Program.run_of_result (same.symm.trans replied))
    have kept : SessionsApart p env.now (pruned env s).workingMemory.sessions (pruned env part).workingMemory.sessions :=
      sessions.sameLive (OnlyPruned.sameLive (.inr rfl)) (OnlyPruned.sameLive (.inr rfl))
    refine ⟨?_, ?_, ?_⟩
    · rw [answered.sessions, answered'.sessions, ← apart.view later own]
      cases call.update x env (call.view env s) with
      | none => exact kept
      | some updated => exact kept.insert
    · intro id memory found
      rw [answered'.memories] at found
      rw [answered.memories]
      cases reply with
      | memory created =>
        dsimp only at found ⊢
        rw [Table.find_insert] at found ⊢
        by_cases here : env.uuid 0 = id
        · rw [if_pos here] at found ⊢
          exact found
        · rw [if_neg here] at found ⊢
          exact apart.memories id memory found
      | _ => exact apart.memories id memory found
    · rw [answered.ingestion, answered'.ingestion, apart.ingestion]

/-- A session call made no earlier than the one before it, with ids that are not in use. -/
def SessionCallStep (x : Externals) (engines : SearchEngines) (before : Server × Nat) (call : Env × SessionCall)
    (after : Server × Nat) : Prop := TimedStep x engines before ⟨call.1, .knowledge call.2.op⟩ after

def replaySessions (x : Externals) (s : Store) (calls : List (Env × SessionCall)) : Store × List (Result SessionReply) :=
  calls.foldl (fun state call =>
    ((call.2.answer x call.1 state.1).1, state.2 ++ [(call.2.answer x call.1 state.1).2])) (s, [])

theorem replaySessions_append {calls : List (Env × SessionCall)} {env : Env} : replaySessions x s (calls ++ [(env, call)]) =
    ((call.answer x env (replaySessions x s calls).1).1,
      (replaySessions x s calls).2 ++ [(call.answer x env (replaySessions x s calls).1).2]) := by
  unfold replaySessions
  rw [List.foldl_append]
  rfl

def callsOf (p : Uuid) (trace : List ((Server × Nat) × (Env × SessionCall))) : List (Env × SessionCall) :=
  (trace.map Prod.snd).filter fun call => call.2.principalId == p

def repliesTo (x : Externals) (p : Uuid) (trace : List ((Server × Nat) × (Env × SessionCall))) :
    List (Result SessionReply) :=
  (trace.filter fun q => q.2.2.principalId == p).map fun q => (q.2.2.answer x q.2.1 q.1.1.store).2

/-- A session that is not the caller's stays as it is, and a request that names it fails and only prunes. -/
theorem SessionCall.foreign_session (unused : env.uuid 0 ∉ s.workingMemory.sessions)
    (found : s.workingMemory.sessions[id]? = some session) (live : env.now < session.expiresAtUnixMs)
    (foreign : session.ownedBy call.organizationId call.workspaceId call.principalId = false) :
    (call.answer x env s).1.workingMemory.sessions[id]? = some session ∧
    (call.target env = id → ∃ e, (call.answer x env s).2 = .error e ∧ OnlyPruned env s (call.answer x env s).1) := by
  have spec := call.answer_spec x env s
  cases replied : (call.answer x env s).2 with
  | error e =>
    have only := spec.error replied
    exact ⟨(only.sameLive id session live).mpr found, fun _ => ⟨e, rfl, only⟩⟩
  | ok reply =>
    have answered := spec.ok (Program.run_of_result replied)
    have other : call.target env ≠ id := by
      intro target
      rcases answered.seen with ⟨ttlMs, creates⟩ | seen
      · have fresh : call.target env = env.uuid 0 := by
          unfold SessionCall.target
          rw [creates]
        rw [← target, fresh] at found
        apply unused
        rw [Std.ExtTreeMap.mem_iff_isSome_getElem?, found]
        rfl
      · rw [Option.isSome_iff_exists] at seen
        rcases seen with ⟨session', seen⟩
        have own := SessionCall.view_live seen
        have same := own.found
        rw [target, found, Option.some.injEq] at same
        rw [same, own.owned] at foreign
        cases foreign
    refine ⟨?_, fun target => absurd target other⟩
    rw [answered.sessions]
    cases call.update x env (call.view env s) with
    | none => exact find_pruned.mpr ⟨found, live⟩
    | some updated =>
      dsimp only
      rw [Table.find_insert, if_neg other]
      exact find_pruned.mpr ⟨found, live⟩

theorem discard_answer {α β : Type} {q : Call α} {f : α → β} :
    ((do return f (← q) : Call β) s).1 = (q s).1 := by
  show ((q.andThen fun a => Program.ok (f a)) s).1 = _
  unfold Program.andThen
  rcases q s with ⟨s', _ | a⟩ <;> rfl

theorem foundSession_state {α : Type} {q : Call (Option α)} : (foundSession q s).1 = (q s).1 := by
  show ((q.andThen fun result => Program.query fun _ => found result _) s).1 = _
  unfold Program.andThen
  rcases q s with ⟨s', _ | a⟩ <;> rfl

theorem SessionCall.answer_state (engines : SearchEngines) :
    (call.answer x env s).1 = (callStore x engines env (.knowledge call.op) s).1 := by
  obtain ⟨organizationId, workspaceId, principalId, request⟩ := call
  cases request with
  | create ttlMs =>
    refine discard_answer.trans ?_
    simp only [SessionCall.op, callStore, callKnowledge, Program.discard_state]
  | _ =>
    refine discard_answer.trans (foundSession_state.trans ?_)
    simp only [SessionCall.op, callStore, callKnowledge, Program.discard_state]

theorem SessionCallStep.store {before after : Server × Nat} {q : Env × SessionCall}
    (taken : SessionCallStep x engines before q after) : after.1.store = (q.2.answer x q.1 before.1.store).1 := by
  rw [SessionCall.answer_state engines, taken.1.next]
  rfl

theorem SessionCallStep.unused {before after : Server × Nat} {q : Env × SessionCall}
    (taken : SessionCallStep x engines before q after) :
    q.1.uuid 0 ∉ before.1.store.workingMemory.sessions ∧ q.1.uuid 0 ∉ before.1.store.knowledge.memories := by
  have unused := taken.1.fresh.unused 0
  simp only [Server.Uses, not_or] at unused
  exact ⟨unused.2.2.2.2.2.2.2.1, unused.2.2.2.1⟩

section
variable {middle : Server × Nat} {trace : List ((Server × Nat) × (Env × SessionCall))} {q : Env × SessionCall}

theorem callsOf_next : callsOf p (trace ++ [(middle, q)]) =
    callsOf p trace ++ if q.2.principalId = p then [q] else [] := by
  unfold callsOf
  by_cases own : q.2.principalId = p
  · simp [own]
  · simp [own]

theorem repliesTo_next : repliesTo x p (trace ++ [(middle, q)]) =
    repliesTo x p trace ++ if q.2.principalId = p then [(q.2.answer x q.1 middle.1.store).2] else [] := by
  unfold repliesTo
  by_cases own : q.2.principalId = p
  · simp [own]
  · simp [own]

theorem private_run {before after : Server × Nat} (run : Run (SessionCallStep x engines) before trace after)
    (unlimited : ∀ q ∈ trace, ¬q.2.2.Limited q.2.1 q.1.1.store) :
    Private p after.2 after.1.store (replaySessions x before.1.store (callsOf p trace)).1 ∧
      repliesTo x p trace = (replaySessions x before.1.store (callsOf p trace)).2 := by
  induction run with
  | start => exact ⟨⟨.refl, fun _ _ found => found, rfl⟩, rfl⟩
  | @next trace middle after q _ taken ih =>
    rcases ih fun q listed => unlimited q (List.mem_append_left _ listed) with ⟨apart, replies⟩
    have later : middle.2 ≤ q.1.now := taken.2.1
    have clock : after.2 = q.1.now := taken.2.2
    rw [clock, taken.store, callsOf_next, repliesTo_next]
    by_cases own : q.2.principalId = p
    · have limit := unlimited (middle, q) (List.mem_append_right _ List.mem_cons_self)
      have reply := apart.reply (x := x) later own limit
      rw [if_pos own, if_pos own, replaySessions_append]
      refine ⟨apart.proper later own limit, ?_⟩
      rw [replies, reply]
    · rcases taken.unused with ⟨newSession, newMemory⟩
      rw [if_neg own, if_neg own, List.append_nil, List.append_nil]
      exact ⟨apart.foreign later own newSession newMemory, replies⟩

end

/-- In a run that meets no limit, the replies one principal receives and its unexpired sessions are those of its
    calls alone, and no call reads or changes a session that is not its caller's. -/
theorem working_sessions_private {before after : Server × Nat} {trace : List ((Server × Nat) × (Env × SessionCall))}
    (run : Run (SessionCallStep x engines) before trace after)
    (unlimited : ∀ q ∈ trace, ¬q.2.2.Limited q.2.1 q.1.1.store) (p : Uuid) :
    repliesTo x p trace = (replaySessions x before.1.store (callsOf p trace)).2 ∧
    (∀ (id : Uuid) session, session.createdBy = p → after.2 < session.expiresAtUnixMs →
      (after.1.store.workingMemory.sessions[id]? = some session ↔
        (replaySessions x before.1.store (callsOf p trace)).1.workingMemory.sessions[id]? = some session)) ∧
    ∀ q ∈ trace, ∀ (id : Uuid) session, q.1.1.store.workingMemory.sessions[id]? = some session →
      q.2.1.now < session.expiresAtUnixMs →
      session.ownedBy q.2.2.organizationId q.2.2.workspaceId q.2.2.principalId = false →
      (q.2.2.answer x q.2.1 q.1.1.store).1.workingMemory.sessions[id]? = some session ∧
      (q.2.2.target q.2.1 = id → ∃ e, (q.2.2.answer x q.2.1 q.1.1.store).2 = .error e ∧
        OnlyPruned q.2.1 q.1.1.store (q.2.2.answer x q.2.1 q.1.1.store).1) := by
  rcases private_run (p := p) run unlimited with ⟨apart, replies⟩
  refine ⟨replies, apart.sessions.own, ?_⟩
  intro q listed id session found live foreign
  rcases run.taken listed with ⟨next, taken⟩
  exact SessionCall.foreign_session taken.unused.1 found live foreign

def stranger : Uuid := serialUuid 90

def strangerSession : Op := .knowledge (.createWorkingSession ⟨"acme", "lab", stranger, none⟩)

def briefSession : Op := .knowledge (.createWorkingSession ⟨"acme", "lab", Uuid.nil, some 10⟩)

def strangerReading : Op := .knowledge (.getWorkingSession "acme" "lab" stranger (serialUuid 0))

/-- An append to a stranger's session fails, and to no session it returns none; and with a clock that goes back,
    a stranger's later call drops a session that its owner still asks for. -/
theorem strangers_told_apart :
    Reachable sample noHits (freshRun sample noHits [(0, strangerSession)]) ∧
    (appendWorkingMemory sample (serialEnv 1 16) "acme" "lab" Uuid.nil (serialUuid 0) ⟨.observation, "alpha", Uuid.nil⟩
      (freshRun sample noHits [(0, strangerSession)]).store).2 =
        .error (.check "working session not found in this scope") ∧
    (appendWorkingMemory sample (serialEnv 1 16) "acme" "lab" Uuid.nil (serialUuid 0) ⟨.observation, "alpha", Uuid.nil⟩
      (freshRun sample noHits []).store).2 = .ok none ∧
    Reachable sample noHits (freshRun sample noHits [(0, briefSession), (20, strangerReading)]) ∧
    (freshRun sample noHits [(0, briefSession), (20, strangerReading)]).store.workingMemory.sessions[serialUuid 0]? = none ∧
    (getWorkingSession (serialEnv 5 32) "acme" "lab" Uuid.nil (serialUuid 0)
      (freshRun sample noHits [(0, briefSession), (20, strangerReading)]).store).2 = .ok none ∧
    (freshRun sample noHits [(0, briefSession)]).store.workingMemory.sessions[serialUuid 0]?.isSome = true ∧
    ∃ session, (getWorkingSession (serialEnv 5 32) "acme" "lab" Uuid.nil (serialUuid 0)
      (freshRun sample noHits [(0, briefSession)]).store).2 = .ok session ∧ session.isSome = true :=
  ⟨freshRun_reachable (by decide +kernel), by decide +kernel, by decide +kernel, freshRun_reachable (by decide +kernel),
    by decide +kernel, by decide +kernel, by decide +kernel, by decide +kernel⟩

def openingCall : Env × SessionCall := (serialEnv 0 0, ⟨"acme", "lab", Uuid.nil, .create none⟩)

def intrudingCall : Env × SessionCall :=
  (serialEnv 1 16, ⟨"acme", "lab", stranger, .append (serialUuid 0) ⟨.observation, "beta", stranger⟩⟩)

def readingCall : Env × SessionCall := (serialEnv 2 32, ⟨"acme", "lab", Uuid.nil, .get (serialUuid 0)⟩)

def openedServer : Server := freshRun sample noHits [(0, .knowledge openingCall.2.op)]

def intrudedServer : Server := freshRun sample noHits [(0, .knowledge openingCall.2.op), (1, .knowledge intrudingCall.2.op)]

def sharedTrace : List ((Server × Nat) × (Env × SessionCall)) :=
  [((Server.initial .hashingV1, 0), openingCall), ((openedServer, 0), intrudingCall), ((intrudedServer, 1), readingCall)]

theorem working_sessions_private_shared :
    repliesTo sample Uuid.nil sharedTrace =
      (replaySessions sample (Server.initial .hashingV1).store [openingCall, readingCall]).2 ∧
    ∃ e, (intrudingCall.2.answer sample intrudingCall.1 openedServer.store).2 = .error e := by
  have steps : SessionCallStep sample noHits (Server.initial .hashingV1, 0) openingCall (openedServer, 0) ∧
      SessionCallStep sample noHits (openedServer, 0) intrudingCall (intrudedServer, 1) ∧
      SessionCallStep sample noHits (intrudedServer, 1) readingCall
        (intrudedServer.next sample noHits ⟨serialEnv 2 32, .knowledge readingCall.2.op⟩, 2) := by
    have first : (Server.initial .hashingV1).Serial 0 := by decide +kernel
    have second : openedServer.Serial 16 := by decide +kernel
    have third : intrudedServer.Serial 32 := by decide +kernel
    exact ⟨⟨⟨first.fresh, trivial, rfl⟩, by decide, rfl⟩, ⟨⟨second.fresh, trivial, rfl⟩, by decide, rfl⟩,
      ⟨⟨third.fresh, trivial, rfl⟩, by decide, rfl⟩⟩
  obtain ⟨opening, intruding, reading⟩ := steps
  have unlimited : ∀ q ∈ sharedTrace, ¬q.2.2.Limited q.2.1 q.1.1.store := by
    intro q listed
    simp only [sharedTrace, List.mem_cons, List.not_mem_nil, or_false] at listed
    rcases listed with rfl | rfl | rfl
    · show ¬maxWorkingSessions ≤ (pruned openingCall.1 (Store.empty .hashingV1)).workingMemory.sessions.size
      decide +kernel
    · exact id
    · exact id
  have found : ∃ session, openedServer.store.workingMemory.sessions[serialUuid 0]? = some session ∧
      1 < session.expiresAtUnixMs ∧ session.ownedBy "acme" "lab" stranger = false := by
    have stored : (openedServer.store.workingMemory.sessions[serialUuid 0]?.map fun session =>
      (decide (1 < session.expiresAtUnixMs), session.ownedBy "acme" "lab" stranger)) = some (true, false) := by
      decide +kernel
    rcases Option.map_eq_some_iff.mp stored with ⟨session, found, same⟩
    rw [Prod.mk.injEq, decide_eq_true_eq] at same
    exact ⟨session, found, same⟩
  obtain ⟨replies, _, foreign⟩ :=
    working_sessions_private (((Run.single opening).next intruding).next reading) unlimited Uuid.nil
  obtain ⟨session, stored, live, other⟩ := found
  have refused := (foreign ((openedServer, 0), intrudingCall) (by simp) (serialUuid 0) session stored live other).2 rfl
  obtain ⟨e, failed, _⟩ := refused
  exact ⟨replies, e, failed⟩

end Hangar
