import Hangar.Server

namespace Hangar

open Lib

def Store.withoutKnowledge (s : Store) : Store :=
  { s with knowledge := ⟨∅, ∅⟩, workingMemory := ⟨∅⟩, journal := ⟨∅, ∅⟩ }

def Store.withoutSessions (s : Store) : Store := { s with workingMemory := ⟨∅⟩ }

variable {x : Externals} {engines : SearchEngines} {env : Env} {s s' : Store}

inductive KnowledgeStep (x : Externals) (env : Env) (k : KnowledgeTables) : KnowledgeOp → KnowledgeTables → Prop where
  | idle {op : KnowledgeOp} : KnowledgeStep x env k op k
  | create {op : KnowledgeOp} (new : NewMemory) (expiry : checkMemoryExpiry env new.expiresAtUnixMs = .ok ()) :
      KnowledgeStep x env k op { k with memories := k.memories.insert (env.uuid 0) (newMemory x env new) }
  | transition {id : Uuid} {organizationId workspaceId : String} {memory : Memory} (transition : MemoryTransition)
      (found : k.memories[id]? = some memory)
      (owned : inScope organizationId workspaceId memory.organizationId memory.workspaceId = true)
      (valid : isValidTransition memory.lifecycle transition.lifecycle = true)
      (expiry : checkMemoryExpiry env transition.expiresAtUnixMs = .ok ()) :
      KnowledgeStep x env k (.transitionMemory id organizationId workspaceId transition)
        { k with memories := k.memories.insert id (memory.applyTransition env transition) }
  | sweep {op : KnowledgeOp} : KnowledgeStep x env k op { k with
      memories := Table.insertAll k.memories ((k.memories.toList.filter fun entry => entry.2.isDue env).map
        fun entry => (entry.1, entry.2.expire env)) }
  | propose {op : KnowledgeOp} {organizationId sourceWorkspaceId : String} {memoryId : Uuid} {memory : Memory}
      (audience : ShareAudience) (proposedBy : Uuid) (expiresAtUnixMs : Option Nat)
      (found : k.memories[memoryId]? = some memory)
      (owned : inScope organizationId sourceWorkspaceId memory.organizationId memory.workspaceId = true)
      (retrievable : isRetrievable env memory = true) :
      KnowledgeStep x env k op { k with
        memoryShares := k.memoryShares.insert (env.uuid 0)
          (newShare env organizationId sourceWorkspaceId memory memoryId audience proposedBy expiresAtUnixMs) }
  | review {op : KnowledgeOp} {id : Uuid} {share : MemoryShare} (state : ShareReviewState) (reviewedBy : Uuid)
      (reviewNote : Option String) (found : k.memoryShares[id]? = some share)
      (allowed : share.state.canTransitionTo state = true) :
      KnowledgeStep x env k op { k with
        memoryShares := k.memoryShares.insert id (share.review env state reviewedBy reviewNote) }

theorem createMemory_ok {new : NewMemory} {memory : Memory}
    (run : createMemory x env new s = .ok (s', memory)) :
    checkMemoryExpiry env new.expiresAtUnixMs = .ok () ∧ memory = newMemory x env new ∧
      s' = { s.writeMemory memory memory.id with journal := s'.journal } := by
  unfold createMemory at run
  obtain ⟨_, _, run⟩ := bind_eq_ok.mp run
  obtain ⟨_, _, run⟩ := bind_eq_ok.mp run
  obtain ⟨_, _, run⟩ := bind_eq_ok.mp run
  obtain ⟨_, _, run⟩ := bind_eq_ok.mp run
  obtain ⟨⟨⟩, expiry, run⟩ := bind_eq_ok.mp run
  cases run
  exact ⟨expiry, rfl, rfl⟩

theorem createMemoryWithLimits_ok {new : NewMemory} {limits : WorkspaceLimits} {result : Store × Memory}
    (run : createMemoryWithLimits x env new limits s = .ok result) : createMemory x env new s = .ok result := by
  unfold createMemoryWithLimits at run
  obtain ⟨_, _, run⟩ := bind_eq_ok.mp run
  exact run

theorem transitionMemory_ok {id : Uuid} {organizationId workspaceId : String} {transition : MemoryTransition}
    {result : Option Memory}
    (run : transitionMemory env id organizationId workspaceId transition s = .ok (s', result)) :
    (s' = s ∧ result = none) ∨ ∃ memory, s.knowledge.memories[id]? = some memory ∧
      inScope organizationId workspaceId memory.organizationId memory.workspaceId = true ∧
      isValidTransition memory.lifecycle transition.lifecycle = true ∧
      checkReplacement env organizationId workspaceId memory transition s = .ok () ∧
      checkMemoryExpiry env transition.expiresAtUnixMs = .ok () ∧
      result = some (memory.applyTransition env transition) ∧
      s' = { s.writeMemory (memory.applyTransition env transition) id with journal := s'.journal } := by
  unfold transitionMemory at run
  cases stored : s.knowledge.memories[id]? with
  | none =>
    simp only [stored] at run
    cases run
    exact .inl ⟨rfl, rfl⟩
  | some memory =>
    simp only [stored] at run
    obtain ⟨_, owned, run⟩ := bind_eq_ok.mp run
    obtain ⟨_, valid, run⟩ := bind_eq_ok.mp run
    obtain ⟨⟨⟩, replaced, run⟩ := bind_eq_ok.mp run
    obtain ⟨⟨⟩, expiry, run⟩ := bind_eq_ok.mp run
    rw [ensure_eq_ok] at owned valid
    cases run
    exact .inr ⟨memory, rfl, owned, valid, replaced, expiry, rfl, rfl⟩

theorem proposeMemoryShare_ok {organizationId sourceWorkspaceId : String} {memoryId : Uuid}
    {audience : ShareAudience} {proposedBy : Uuid} {expiresAtUnixMs : Option Nat} {share : MemoryShare}
    (run : proposeMemoryShare env organizationId sourceWorkspaceId memoryId audience proposedBy expiresAtUnixMs s =
      .ok (s', share)) :
    ∃ memory, s.knowledge.memories[memoryId]? = some memory ∧
      inScope organizationId sourceWorkspaceId memory.organizationId memory.workspaceId = true ∧
      isRetrievable env memory = true ∧
      share = newShare env organizationId sourceWorkspaceId memory memoryId audience proposedBy expiresAtUnixMs ∧
      s' = { s.writeShare share share.id with journal := s'.journal } := by
  unfold proposeMemoryShare at run
  obtain ⟨_, _, run⟩ := bind_eq_ok.mp run
  obtain ⟨_, _, run⟩ := bind_eq_ok.mp run
  obtain ⟨_, _, run⟩ := bind_eq_ok.mp run
  obtain ⟨memory, memoryFound, run⟩ := bind_eq_ok.mp run
  obtain ⟨_, owned, run⟩ := bind_eq_ok.mp run
  obtain ⟨_, retrievable, run⟩ := bind_eq_ok.mp run
  obtain ⟨_, _, run⟩ := bind_eq_ok.mp run
  rw [context_eq_ok] at memoryFound
  rw [ensure_eq_ok] at owned retrievable
  cases run
  exact ⟨memory, memoryFound, owned, retrievable, rfl, rfl⟩

theorem reviewMemoryShare_ok {organizationId sourceWorkspaceId : String} {id : Uuid} {state : ShareReviewState}
    {reviewedBy : Uuid} {reviewNote : Option String} {result : Option MemoryShare}
    (run : reviewMemoryShare env organizationId sourceWorkspaceId id state reviewedBy reviewNote s =
      .ok (s', result)) :
    (s' = s ∧ result = none) ∨ ∃ share, s.knowledge.memoryShares[id]? = some share ∧
      inScope organizationId sourceWorkspaceId share.organizationId share.sourceWorkspaceId = true ∧
      share.state.canTransitionTo state = true ∧
      checkApproval env organizationId sourceWorkspaceId share state s = .ok () ∧
      result = some (share.review env state reviewedBy reviewNote) ∧
      s' = { s.writeShare (share.review env state reviewedBy reviewNote) id with journal := s'.journal } := by
  unfold reviewMemoryShare at run
  obtain ⟨_, _, run⟩ := bind_eq_ok.mp run
  obtain ⟨_, _, run⟩ := bind_eq_ok.mp run
  cases stored : s.knowledge.memoryShares[id]? with
  | none =>
    simp only [stored] at run
    cases run
    exact .inl ⟨rfl, rfl⟩
  | some share =>
    simp only [stored] at run
    obtain ⟨_, owned, run⟩ := bind_eq_ok.mp run
    obtain ⟨_, allowed, run⟩ := bind_eq_ok.mp run
    obtain ⟨⟨⟩, approved, run⟩ := bind_eq_ok.mp run
    rw [ensure_eq_ok] at owned allowed
    cases run
    exact .inr ⟨share, rfl, owned, allowed, approved, rfl, rfl⟩

/-- What a memory or sharing call may do to the whole store. -/
def KnowledgeEffect (x : Externals) (env : Env) (op : KnowledgeOp) (s s' : Store) : Prop :=
  KnowledgeStep x env s.knowledge op s'.knowledge ∧ s'.withoutKnowledge = s.withoutKnowledge

theorem expireDueMemories_effect {op : KnowledgeOp} : Program.Triple (expireDueMemories env) s
    (fun _ => KnowledgeEffect x env op s) (fun _ => KnowledgeEffect x env op s) := by
  refine Program.Triple.transaction (fun _ s' run => ?_) fun _ _ => ⟨.idle, rfl⟩
  cases run
  exact ⟨.sweep, rfl⟩

theorem pruneExpiredWorkingSessions_frames : Program.Frames Store.withoutSessions (pruneExpiredWorkingSessions env) :=
  Program.Frames.update fun _ => rfl

theorem createWorkingSession_frames {new : NewWorkingSession} :
    Program.Frames Store.withoutSessions (createWorkingSession env new) := by
  refine Program.Frames.query.bind fun _ => pruneExpiredWorkingSessions_frames.bind fun _ => ?_
  apply Program.Frames.transaction
  intro s s' session run
  obtain ⟨_, _, run⟩ := bind_eq_ok.mp run
  obtain ⟨_, _, run⟩ := bind_eq_ok.mp run
  obtain ⟨_, _, run⟩ := bind_eq_ok.mp run
  cases run
  rfl

section
variable {organizationId workspaceId : String} {principalId sessionId entryId : Uuid}

theorem getWorkingSession_frames :
    Program.Frames Store.withoutSessions (getWorkingSession env organizationId workspaceId principalId sessionId) :=
  pruneExpiredWorkingSessions_frames.bind fun _ => Program.Frames.query

theorem appendWorkingMemory_frames {new : NewWorkingMemoryEntry} : Program.Frames Store.withoutSessions
    (appendWorkingMemory x env organizationId workspaceId principalId sessionId new) := by
  refine Program.Frames.query.bind fun _ => Program.Frames.query.bind fun _ =>
    pruneExpiredWorkingSessions_frames.bind fun _ => ?_
  apply Program.Frames.transaction
  intro s s' entry run
  cases stored : s.workingMemory.sessions[sessionId]? with
  | none =>
    simp only [stored] at run
    cases run
    rfl
  | some session =>
    simp only [stored] at run
    obtain ⟨_, _, run⟩ := bind_eq_ok.mp run
    obtain ⟨_, _, run⟩ := bind_eq_ok.mp run
    obtain ⟨_, _, run⟩ := bind_eq_ok.mp run
    cases run
    rfl

theorem updateWorkingSummary_frames {content : String} : Program.Frames Store.withoutSessions
    (updateWorkingSummary x env organizationId workspaceId principalId sessionId content) := by
  refine Program.Frames.query.bind fun _ => Program.Frames.query.bind fun _ =>
    pruneExpiredWorkingSessions_frames.bind fun _ => ?_
  apply Program.Frames.transaction
  intro s s' result run
  cases stored : s.workingMemory.sessions[sessionId]? with
  | none =>
    simp only [stored] at run
    cases run
    rfl
  | some session =>
    simp only [stored] at run
    obtain ⟨_, _, run⟩ := bind_eq_ok.mp run
    obtain ⟨_, _, run⟩ := bind_eq_ok.mp run
    cases run
    rfl

theorem Store.knowledge_of_sessions (same : s'.withoutSessions = s.withoutSessions) : s'.knowledge = s.knowledge := by
  show s'.withoutSessions.knowledge = s.withoutSessions.knowledge
  rw [same]

theorem Store.withoutKnowledge_of_sessions (same : s'.withoutSessions = s.withoutSessions) :
    s'.withoutKnowledge = s.withoutKnowledge := by
  show s'.withoutSessions.withoutKnowledge = s.withoutSessions.withoutKnowledge
  rw [same]

theorem KnowledgeEffect.of_frame {op : KnowledgeOp} (same : s'.withoutSessions = s.withoutSessions) :
    KnowledgeEffect x env op s s' := by
  have tables := Store.knowledge_of_sessions same
  have rest := Store.withoutKnowledge_of_sessions same
  exact ⟨tables ▸ .idle, rest⟩

theorem promoteWorkingMemory_effect {op : KnowledgeOp} {promotion : Promotion} {s₀ : Store}
    (same : s₀.withoutSessions = s.withoutSessions) :
    Program.Triple (promoteWorkingMemory x env organizationId workspaceId principalId sessionId entryId promotion) s₀
      (fun _ => KnowledgeEffect x env op s) (fun _ => KnowledgeEffect x env op s) := by
  refine Program.Triple.bind (Program.Triple.update
    (Q := fun _ s' => s'.withoutSessions = s.withoutSessions) same) fun _ s₁ same => ?_
  refine Program.Triple.transaction (fun result s' run => ?_) fun _ _ => .of_frame same
  cases stored : s₁.workingMemory.sessions[sessionId]? with
  | none =>
    simp only [stored] at run
    cases run
    exact .of_frame same
  | some session =>
    simp only [stored] at run
    obtain ⟨_, _, run⟩ := bind_eq_ok.mp run
    obtain ⟨entry, _, run⟩ := bind_eq_ok.mp run
    obtain ⟨⟨s₂, memory⟩, created, run⟩ := bind_eq_ok.mp run
    cases run
    obtain ⟨expiry, rfl, written⟩ := createMemory_ok created
    rw [written]
    have tables := Store.knowledge_of_sessions same
    have rest := Store.withoutKnowledge_of_sessions same
    constructor
    · rw [← tables]
      exact .create _ expiry
    · exact rest

theorem promoteWorkingMemoryWithLimits_effect {op : KnowledgeOp} {promotion : Promotion} {limits : WorkspaceLimits} :
    Program.Triple
      (promoteWorkingMemoryWithLimits x env organizationId workspaceId principalId sessionId entryId promotion limits) s
      (fun _ => KnowledgeEffect x env op s) (fun _ => KnowledgeEffect x env op s) := by
  let pruned (s' : Store) : Prop := s'.withoutSessions = s.withoutSessions
  have query {α : Type} {f : Store → Result α} {s' : Store} (same : pruned s') :
      Program.Triple (Program.query f) s' (fun _ => pruned) (fun _ => KnowledgeEffect x env op s) :=
    Program.Triple.query (fun _ _ => same) fun _ _ => .of_frame same
  refine Program.Triple.bind (Program.Triple.update (Q := fun _ => pruned) rfl) fun _ s₁ same => ?_
  refine (query same).bind fun contentBytes s₂ same => ?_
  cases contentBytes with
  | none => exact Program.Triple.pure (.of_frame same)
  | some contentBytes => exact (query same).bind fun _ s₃ same => promoteWorkingMemory_effect same

end

theorem callKnowledge_effect {op : KnowledgeOp} :
    KnowledgeEffect x env op s (callKnowledge x engines env op s).1 := by
  have idle : KnowledgeEffect x env op s s := ⟨.idle, rfl⟩
  have transaction {α : Type} {f : Store → Result (Store × α)}
      (step : ∀ s' a, f s = .ok (s', a) → KnowledgeEffect x env op s s') :
      KnowledgeEffect x env op s ((do let _ ← Program.transaction f : Call Unit) s).1 := by
    refine Program.Triple.state (KnowledgeEffect x env op s) ?_
    refine Program.Triple.bind ?_ fun _ _ taken => Program.Triple.pure taken
    exact Program.Triple.transaction (fun a s' => step s' a) fun _ _ => idle
  have query {α : Type} {f : Store → Result α} {s' : Store} (taken : KnowledgeEffect x env op s s') :
      Program.Triple (Program.query f) s' (fun _ => KnowledgeEffect x env op s) (fun _ => KnowledgeEffect x env op s) :=
    Program.Triple.query (fun _ _ => taken) fun _ _ => taken
  have create {new : NewMemory} {s' : Store} {memory : Memory}
      (run : createMemory x env new s = .ok (s', memory)) : KnowledgeEffect x env op s s' := by
    obtain ⟨expiry, rfl, written⟩ := createMemory_ok run
    rw [written]
    exact ⟨.create new expiry, rfl⟩
  have session {α : Type} {p : Call α} (kept : Program.Frames Store.withoutSessions p) :
      KnowledgeEffect x env op s ((do let _ ← p : Call Unit) s).1 :=
    .of_frame ((kept.bind fun _ => Program.Frames.pure) s)
  cases op with
  | createMemory new => exact transaction fun s' memory run => create run
  | createMemoryWithLimits new limits =>
    exact transaction fun s' memory run => create (createMemoryWithLimits_ok run)
  | transitionMemory id organizationId workspaceId transition =>
    refine transaction fun s' result run => ?_
    obtain ⟨rfl, _⟩ | ⟨memory, memoryFound, owned, valid, _, expiry, _, written⟩ := transitionMemory_ok run
    · exact idle
    · rw [written]
      exact ⟨.transition transition memoryFound owned valid expiry, rfl⟩
  | expireDueMemories =>
    refine Program.Triple.state (KnowledgeEffect x env _ s) ?_
    exact expireDueMemories_effect.bind fun _ _ taken => Program.Triple.pure taken
  | getMemory id organizationId workspaceId =>
    refine Program.Triple.state (KnowledgeEffect x env _ s) ?_
    refine Program.Triple.bind ?_ fun _ _ taken => Program.Triple.pure taken
    exact expireDueMemories_effect.bind fun _ _ taken => query taken
  | retrieve organizationId workspaceId text limit =>
    refine Program.Triple.state (KnowledgeEffect x env _ s) ?_
    refine Program.Triple.bind ?_ fun _ _ taken => Program.Triple.pure taken
    exact expireDueMemories_effect.bind fun _ _ taken => query taken
  | proposeMemoryShare organizationId sourceWorkspaceId memoryId audience proposedBy expiresAtUnixMs =>
    refine transaction fun s' share run => ?_
    obtain ⟨memory, memoryFound, owned, retrievable, rfl, written⟩ := proposeMemoryShare_ok run
    rw [written]
    exact ⟨.propose audience proposedBy expiresAtUnixMs memoryFound owned retrievable, rfl⟩
  | reviewMemoryShare organizationId sourceWorkspaceId id state reviewedBy reviewNote =>
    refine transaction fun s' result run => ?_
    obtain ⟨rfl, _⟩ | ⟨share, shareFound, _, allowed, _, _, written⟩ := reviewMemoryShare_ok run
    · exact idle
    · rw [written]
      exact ⟨.review state reviewedBy reviewNote shareFound allowed, rfl⟩
  | compileContextPackage principal requestWorkspaceId text tokenBudget limit =>
    refine Program.Triple.state (KnowledgeEffect x env _ s) ?_
    refine Program.Triple.bind ?_ fun _ _ taken => Program.Triple.pure taken
    have unchanged {f : Store → Result Unit} : Program.Triple (Program.query f) s (fun _ s' => s' = s)
        (fun _ => KnowledgeEffect x env _ s) := Program.Triple.query (fun _ _ => rfl) fun _ _ => idle
    refine unchanged.bind fun _ _ same => ?_
    subst same
    refine unchanged.bind fun _ _ same => ?_
    subst same
    exact expireDueMemories_effect.bind fun _ _ taken => query taken
  | createWorkingSession new => exact session createWorkingSession_frames
  | getWorkingSession organizationId workspaceId principalId id => exact session getWorkingSession_frames
  | appendWorkingMemory organizationId workspaceId principalId sessionId new =>
    exact session appendWorkingMemory_frames
  | updateWorkingSummary organizationId workspaceId principalId sessionId content =>
    exact session updateWorkingSummary_frames
  | promoteWorkingMemory organizationId workspaceId principalId sessionId entryId promotion =>
    refine Program.Triple.state (KnowledgeEffect x env _ s) ?_
    exact (promoteWorkingMemory_effect rfl).bind fun _ _ taken => Program.Triple.pure taken
  | promoteWorkingMemoryWithLimits organizationId workspaceId principalId sessionId entryId promotion limits =>
    refine Program.Triple.state (KnowledgeEffect x env _ s) ?_
    exact promoteWorkingMemoryWithLimits_effect.bind fun _ _ taken => Program.Triple.pure taken

end Hangar
