import Hangar.Knowledge.Effects

namespace Hangar

open Lib

def pruned (env : Env) (s : Store) : Store := { s with workingMemory := { s.workingMemory with
  sessions := s.workingMemory.sessions.filter fun _ session => session.expiresAtUnixMs > env.now } }

structure LiveSession (env : Env) (organizationId workspaceId : String) (principalId : Uuid) (s : Store) (id : Uuid)
    (session : WorkingSession) : Prop where
  found : s.workingMemory.sessions[id]? = some session
  unexpired : env.now < session.expiresAtUnixMs
  owned : session.ownedBy organizationId workspaceId principalId = true

variable {x : Externals} {env : Env} {s s' : Store} {organizationId workspaceId : String}
  {principalId sessionId entryId id : Uuid} {session : WorkingSession}

theorem pruneExpiredWorkingSessions_eq : pruneExpiredWorkingSessions env s = (pruned env s, .ok ()) := rfl

theorem find_pruned : (pruned env s).workingMemory.sessions[id]? = some session ↔
    s.workingMemory.sessions[id]? = some session ∧ env.now < session.expiresAtUnixMs := by
  show (s.workingMemory.sessions.filter _)[id]? = some session ↔ _
  rw [Table.find_filter_eq_some, decide_eq_true_eq]

theorem pruned_idempotent : pruned env (pruned env s) = pruned env s := by
  have sessions : (pruned env s).workingMemory.sessions.filter (fun _ session => decide (session.expiresAtUnixMs > env.now)) =
      (pruned env s).workingMemory.sessions := by
    apply Table.ext_find
    intro id
    apply Option.ext
    intro session
    rw [Table.find_filter_eq_some, decide_eq_true_eq]
    exact ⟨fun found => found.1, fun found => ⟨found, (find_pruned.mp found).2⟩⟩
  unfold pruned at sessions ⊢
  rw [sessions]

theorem ensureSessionOwner_ok : ensureSessionOwner organizationId workspaceId principalId session = .ok () ↔
    session.ownedBy organizationId workspaceId principalId = true := by
  unfold ensureSessionOwner
  exact ensure_eq_ok

/-- What an error of a session call leaves behind: nothing changed but expired sessions dropped. -/
def OnlyPruned (env : Env) (s s' : Store) : Prop := s' = s ∨ s' = pruned env s

theorem after_prune {α : Type} {p : Call α} {Q : α → Store → Prop}
    (rest : Program.Triple p (pruned env s) Q fun _ s' => s' = pruned env s) :
    Program.Triple (pruneExpiredWorkingSessions env >>= fun _ => p) s Q fun _ => OnlyPruned env s := by
  refine Program.Triple.bind (Q := fun _ s' => s' = pruned env s) (Program.Triple.update rfl) fun _ s₁ same => ?_
  subst same
  exact rest.weaken (fun _ _ post => post) fun _ _ same => .inr same

theorem before_prune {α β : Type} {f : Store → Result β} {p : β → Call α} {Q : α → Store → Prop}
    (rest : ∀ b, f s = .ok b → Program.Triple (p b) s Q fun _ => OnlyPruned env s) :
    Program.Triple (Program.query f >>= p) s Q fun _ => OnlyPruned env s := by
  refine Program.Triple.bind (Q := fun b s' => s' = s ∧ f s = .ok b)
    (Program.Triple.query (fun b run => ⟨rfl, run⟩) fun _ _ => .inl rfl) fun b s₁ checked => ?_
  obtain ⟨same, passed⟩ := checked
  subst same
  exact rest b passed

theorem createWorkingSession_spec {new : NewWorkingSession} : Program.Triple (createWorkingSession env new) s
    (fun session s' => ∃ ttlMs, ttlMs = new.ttlMs.getD defaultWorkingSessionTtlMs ∧
      session = newWorkingSession env new ttlMs ∧ 0 < ttlMs ∧ ttlMs ≤ maxWorkingSessionTtlMs ∧
      (pruned env s).workingMemory.sessions.size < maxWorkingSessions ∧
      s' = (pruned env s).writeSession session session.id)
    (fun _ => OnlyPruned env s) := by
  refine before_prune fun _ _ => after_prune (Program.Triple.transaction (fun session s' run => ?_) fun _ _ => rfl)
  obtain ⟨_, room, run⟩ := bind_eq_ok.mp run
  obtain ⟨_, positive, run⟩ := bind_eq_ok.mp run
  obtain ⟨_, short, run⟩ := bind_eq_ok.mp run
  rw [ensure_eq_ok] at room positive short
  cases run
  exact ⟨_, rfl, rfl, positive, short, room, rfl⟩

theorem getWorkingSession_spec : Program.Triple (getWorkingSession env organizationId workspaceId principalId id) s
    (fun result s' => s' = pruned env s ∧
      ∀ session, result = some session → LiveSession env organizationId workspaceId principalId s id session)
    (fun _ => OnlyPruned env s) := by
  refine after_prune (Program.Triple.query (fun result run => ⟨rfl, ?_⟩) fun _ _ => rfl)
  rintro session rfl
  obtain ⟨found, owned⟩ := Option.filter_eq_some_iff.mp (Except.ok.inj run)
  obtain ⟨stored, unexpired⟩ := find_pruned.mp found
  exact ⟨stored, unexpired, owned⟩

/-- A stored session is looked up under its id after pruning: without it nothing changes. -/
theorem on_session {α : Type} {f : WorkingSession → Store → Result (Store × Option α)} {Q : α → Store → Prop}
    (written : ∀ session a s', LiveSession env organizationId workspaceId principalId s sessionId session →
      f session (pruned env s) = .ok (s', a) → ∃ result, a = some result ∧ Q result s') :
    Program.Triple (Program.transaction fun s => do
        match s.workingMemory.sessions[sessionId]? with
        | none => return (s, none)
        | some session =>
          ensureSessionOwner organizationId workspaceId principalId session
          f session s) (pruned env s)
      (fun result s' => (result = none ∧ s' = pruned env s) ∨ ∃ a, result = some a ∧ Q a s')
      (fun _ s' => s' = pruned env s) := by
  refine Program.Triple.transaction (fun result s' run => ?_) fun _ _ => rfl
  cases stored : (pruned env s).workingMemory.sessions[sessionId]? with
  | none =>
    simp only [stored] at run
    cases run
    exact .inl ⟨rfl, rfl⟩
  | some session =>
    simp only [stored] at run
    obtain ⟨⟨⟩, owned, run⟩ := bind_eq_ok.mp run
    rw [ensureSessionOwner_ok] at owned
    obtain ⟨found, unexpired⟩ := find_pruned.mp stored
    exact .inr (written session result s' ⟨found, unexpired, owned⟩ run)

theorem appendWorkingMemory_spec {new : NewWorkingMemoryEntry} : Program.Triple
    (appendWorkingMemory x env organizationId workspaceId principalId sessionId new) s
    (fun result s' => (result = none ∧ s' = pruned env s) ∨ ∃ entry, result = some entry ∧ ∃ session,
      LiveSession env organizationId workspaceId principalId s sessionId session ∧ entry = newWorkingEntry x env new ∧
      entry.content.utf8ByteSize ≤ maxWorkingEntryBytes ∧ session.entries.length < maxWorkingEntriesPerSession ∧
      sessionContentBytes session + entry.content.utf8ByteSize ≤ maxWorkingSessionBytes ∧
      s' = (pruned env s).writeSession
        { session with entries := session.entries ++ [entry], updatedAtUnixMs := env.now } sessionId)
    (fun _ => OnlyPruned env s) := by
  refine before_prune fun _ _ => before_prune fun _ small => after_prune (on_session fun session result s' live run => ?_)
  obtain ⟨_, room, run⟩ := bind_eq_ok.mp run
  obtain ⟨_, bytes, run⟩ := bind_eq_ok.mp run
  rw [ensure_eq_ok] at small room bytes
  cases run
  exact ⟨_, rfl, session, live, rfl, small, room, bytes, rfl⟩

theorem updateWorkingSummary_spec {content : String} : Program.Triple
    (updateWorkingSummary x env organizationId workspaceId principalId sessionId content) s
    (fun result s' => (result = none ∧ s' = pruned env s) ∨ ∃ updated, result = some updated ∧ ∃ session version,
      LiveSession env organizationId workspaceId principalId s sessionId session ∧
      version = (session.summary.map fun summary => (summary.version + 1) % 2 ^ 32).getD 1 ∧
      content.utf8ByteSize ≤ maxWorkingEntryBytes ∧
      sessionContentBytes session - (session.summary.map fun summary => summary.content.utf8ByteSize).getD 0 +
        content.utf8ByteSize ≤ maxWorkingSessionBytes ∧
      updated = { session with
        summary := some (newSummary x env principalId content version), updatedAtUnixMs := env.now } ∧
      s' = (pruned env s).writeSession updated sessionId)
    (fun _ => OnlyPruned env s) := by
  refine before_prune fun _ _ => before_prune fun _ small => after_prune (on_session fun session result s' live run => ?_)
  obtain ⟨_, bytes, run⟩ := bind_eq_ok.mp run
  rw [ensure_eq_ok] at small bytes
  cases run
  exact ⟨_, rfl, session, _, live, rfl, small, bytes, rfl, rfl⟩

theorem promoteWorkingMemory_spec {promotion : Promotion} : Program.Triple
    (promoteWorkingMemory x env organizationId workspaceId principalId sessionId entryId promotion) s
    (fun result s' => (result = none ∧ s' = pruned env s) ∨ ∃ memory, result = some memory ∧ ∃ session entry,
      LiveSession env organizationId workspaceId principalId s sessionId session ∧
      session.entries.find? (fun entry => entry.id == entryId) = some entry ∧
      createMemory x env (promotedMemory organizationId workspaceId principalId sessionId session entry promotion)
        (pruned env s) = .ok (s', memory))
    (fun _ => OnlyPruned env s) := by
  refine after_prune (on_session fun session result s' live run => ?_)
  obtain ⟨entry, listed, run⟩ := bind_eq_ok.mp run
  obtain ⟨⟨s₂, memory⟩, created, run⟩ := bind_eq_ok.mp run
  rw [context_eq_ok] at listed
  cases run
  exact ⟨memory, rfl, session, entry, live, listed, created⟩

theorem LiveSession.of_pruned
    (live : LiveSession env organizationId workspaceId principalId (pruned env s) sessionId session) :
    LiveSession env organizationId workspaceId principalId s sessionId session :=
  ⟨(find_pruned.mp live.found).1, live.unexpired, live.owned⟩

theorem promoteWorkingMemoryWithLimits_spec {promotion : Promotion} {limits : WorkspaceLimits} : Program.Triple
    (promoteWorkingMemoryWithLimits x env organizationId workspaceId principalId sessionId entryId promotion limits) s
    (fun result s' => (result = none ∧ s' = pruned env s) ∨ ∃ memory, result = some memory ∧ ∃ session entry,
      LiveSession env organizationId workspaceId principalId s sessionId session ∧
      session.entries.find? (fun entry => entry.id == entryId) = some entry ∧
      createMemory x env (promotedMemory organizationId workspaceId principalId sessionId session entry promotion)
        (pruned env s) = .ok (s', memory))
    (fun _ => OnlyPruned env s) := by
  have unchanged {β : Type} {f : Store → Result β} {s : Store} :
      Program.Triple (Program.query f) s (fun _ s' => s' = s) (fun _ s' => s' = s) :=
    Program.Triple.query (fun _ _ => rfl) fun _ _ => rfl
  refine after_prune (unchanged.bind fun contentBytes s₁ same => ?_)
  subst same
  cases contentBytes with
  | none => exact Program.Triple.pure (.inl ⟨rfl, rfl⟩)
  | some contentBytes =>
    refine unchanged.bind fun _ s₂ same => ?_
    subst same
    refine promoteWorkingMemory_spec.weaken ?_ ?_
    · intro result s' post
      rw [pruned_idempotent] at post
      rcases post with none | ⟨memory, promoted, session, entry, live, listed, created⟩
      · exact .inl none
      · exact .inr ⟨memory, promoted, session, entry, live.of_pruned, listed, created⟩
    · rintro e s' (same | same)
      · exact same
      · rw [same, pruned_idempotent]

def KnowledgeOp.onSessions : KnowledgeOp → Bool
  | .createWorkingSession .. | .getWorkingSession .. | .appendWorkingMemory .. | .updateWorkingSummary ..
  | .promoteWorkingMemory .. | .promoteWorkingMemoryWithLimits .. => true
  | _ => false

theorem createMemory_workingMemory {new : NewMemory} {memory : Memory}
    (run : createMemory x env new s = .ok (s', memory)) : s'.workingMemory = s.workingMemory := by
  obtain ⟨_, _, written⟩ := createMemory_ok run
  rw [written]
  rfl

theorem callKnowledge_workingMemory {engines : SearchEngines} {call : KnowledgeOp} (other : call.onSessions = false) :
    Program.Frames Store.workingMemory (callKnowledge x engines env call) := by
  have transaction {α : Type} {f : Store → Result (Store × α)}
      (kept : ∀ s s' a, f s = .ok (s', a) → s'.workingMemory = s.workingMemory) :
      Program.Frames Store.workingMemory (do let _ ← Program.transaction f : Call Unit) :=
    (Program.Frames.transaction kept).bind fun _ => Program.Frames.pure
  have expire : Program.Frames Store.workingMemory (expireDueMemories env) := by
    refine Program.Frames.transaction fun s s' count run => ?_
    cases run
    rfl
  cases call with
  | createMemory new => exact transaction fun s s' memory run => createMemory_workingMemory run
  | createMemoryWithLimits new limits =>
    exact transaction fun s s' memory run => createMemory_workingMemory (createMemoryWithLimits_ok run)
  | transitionMemory id organizationId workspaceId transition =>
    refine transaction fun s s' result run => ?_
    rcases transitionMemory_ok run with ⟨same, _⟩ | ⟨_, _, _, _, _, _, _, written⟩
    · rw [same]
    · rw [written]
      rfl
  | expireDueMemories => exact expire.bind fun _ => Program.Frames.pure
  | getMemory id organizationId workspaceId =>
    exact (expire.bind fun _ => Program.Frames.query).bind fun _ => Program.Frames.pure
  | retrieve organizationId workspaceId text limit =>
    exact (expire.bind fun _ => Program.Frames.query).bind fun _ => Program.Frames.pure
  | proposeMemoryShare organizationId sourceWorkspaceId memoryId audience proposedBy expiresAtUnixMs =>
    refine transaction fun s s' share run => ?_
    obtain ⟨_, _, _, _, _, written⟩ := proposeMemoryShare_ok run
    rw [written]
    rfl
  | reviewMemoryShare organizationId sourceWorkspaceId id state reviewedBy reviewNote =>
    refine transaction fun s s' result run => ?_
    rcases reviewMemoryShare_ok run with ⟨same, _⟩ | ⟨_, _, _, _, _, _, written⟩
    · rw [same]
    · rw [written]
      rfl
  | compileContextPackage principal requestWorkspaceId text tokenBudget limit =>
    refine Program.Frames.bind ?_ fun _ => Program.Frames.pure
    refine Program.Frames.query.bind fun _ => Program.Frames.query.bind fun _ => ?_
    exact expire.bind fun _ => Program.Frames.query
  | _ => cases other

end Hangar
