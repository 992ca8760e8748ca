import Hangar.Knowledge.Integrity
import Hangar.Projection.Effects

namespace Hangar

open Lib

def OutboxEvent.about (id : Uuid) (event : OutboxEvent) : Bool := event.subject == "memories/" ++ id.text

def memoryEvent (env : Env) (id : Uuid) (eventType : String) (memory : Memory) (data : List (String × Json)) :
    OutboxEvent where
  id := id
  specVersion := 1
  eventType := eventType
  subject := memorySubject memory
  organizationId := memory.organizationId
  workspaceId := some memory.workspaceId
  data := .obj (("memory_id", .str memory.id.text) :: data)
  occurredAtUnixMs := env.now

def proposedEvent (env : Env) (memory : Memory) : OutboxEvent :=
  memoryEvent env (env.uuid 1) "memory.proposed.v1" memory
    [("version", .num memory.version), ("provenance", memory.provenance.toJson)]

def lifecycleEvent (env : Env) (id : Uuid) (memory : Memory) (reason : List (String × Json)) : OutboxEvent :=
  memoryEvent env id "memory.lifecycle_changed.v1" memory
    ([("lifecycle", memory.lifecycle.toJson), ("version", .num memory.version)] ++ reason)

def expiredEvent (env : Env) (index : Nat) (memory : Memory) : OutboxEvent :=
  lifecycleEvent env (env.uuid (2 * index + 1)) memory [("reason", .str "retention_expired")]

def expiryEvents (env : Env) (s : Store) : List (Uuid × OutboxEvent) :=
  ((expiredMemories env s).map Prod.snd).zipIdx.map fun entry =>
    (env.uuid (2 * entry.2 + 1), expiredEvent env entry.2 entry.1)

/-- One more event, about something else than a memory, under its own id. -/
def ForeignEvent (env : Env) (outbox outbox' : Table Uuid OutboxEvent) : Prop :=
  ∃ i event, (∀ id, event.about id = false) ∧ event.id = env.uuid i ∧ outbox' = outbox.insert (env.uuid i) event

def OtherEvents (env : Env) (s s' : Store) : Prop :=
  Relation.ReflTransGen (ForeignEvent env) s.journal.outboxEvents s'.journal.outboxEvents

inductive NewMemory.Origin (op : Op) (s : Store) (new : NewMemory) : Prop where
  | requested (called : op = .knowledge (.createMemory new) ∨
      ∃ limits, op = .knowledge (.createMemoryWithLimits new limits)) : NewMemory.Origin op s new
  | promoted {organizationId workspaceId : String} {sessionId : Uuid} {session : WorkingSession}
      {entry : WorkingMemoryEntry} {promotion : Promotion} (found : s.workingMemory.sessions[sessionId]? = some session)
      (listed : entry ∈ session.entries)
      (same : new = promotedMemory organizationId workspaceId session.createdBy sessionId session entry promotion) :
      NewMemory.Origin op s new

inductive MemoryStep (x : Externals) (env : Env) (op : Op) (s s' : Store) : Prop where
  | other (memories : s'.knowledge.memories = s.knowledge.memories) (events : OtherEvents env s s')
  | create (new : NewMemory) (origin : new.Origin op s)
      (memories : s'.knowledge.memories = s.knowledge.memories.insert (env.uuid 0) (newMemory x env new))
      (events : s'.journal.outboxEvents =
        s.journal.outboxEvents.insert (env.uuid 1) (proposedEvent env (newMemory x env new)))
  | transition (id : Uuid) (memory : Memory) (transition : MemoryTransition)
      (found : s.knowledge.memories[id]? = some memory)
      (valid : isValidTransition memory.lifecycle transition.lifecycle = true)
      (memories : s'.knowledge.memories = s.knowledge.memories.insert id (memory.applyTransition env transition))
      (events : s'.journal.outboxEvents = s.journal.outboxEvents.insert (env.uuid 0)
        (lifecycleEvent env (env.uuid 0) (memory.applyTransition env transition) []))
  | sweep (memories : s'.knowledge.memories = s.knowledge.memories.insertAll (expiredMemories env s))
      (events : s'.journal.outboxEvents = s.journal.outboxEvents.insertAll (expiryEvents env s))

variable {x : Externals} {engines : SearchEngines} {env : Env} {s s' : Store} {fault : Option Fault}

theorem memoryEvent_about {id id' : Uuid} {eventType : String} {memory : Memory} {data : List (String × Json)} :
    (memoryEvent env id eventType memory data).about id' = (memory.id == id') := by
  have texts : ("memories/" ++ memory.id.text = "memories/" ++ id'.text) ↔ memory.id = id' := by
    constructor
    · intro same
      have lists := congrArg String.toList same
      rw [String.toList_append, String.toList_append, List.append_cancel_left_eq, String.toList_inj] at lists
      exact Uuid.ext lists
    · intro same
      rw [same]
  rw [Bool.eq_iff_iff]
  simpa [OutboxEvent.about, memoryEvent, memorySubject] using texts

/-- The subjects of the other events differ from those of memories at some letter of their prefix. -/
theorem foreignEvent_insert {i : Nat} {eventType head rest organizationId : String} {workspaceId : Option String}
    {data : Json} {journal : Journal} {outbox : Table Uuid OutboxEvent} (n : Nat) (inside : n < head.toList.length)
    (inside' : n < "memories/".toList.length) (differs : head.toList[n]? ≠ "memories/".toList[n]?)
    (same : journal.outboxEvents = outbox) : ForeignEvent env outbox
      (insertOutboxEvent env (env.uuid i) eventType (head ++ rest) organizationId workspaceId data journal).outboxEvents := by
  subst same
  refine ⟨i, _, ?_, rfl, rfl⟩
  intro id
  rw [OutboxEvent.about, beq_eq_false_iff_ne]
  intro subjects
  have letters := congrArg (fun text : String => text.toList[n]?) subjects
  simp only [String.toList_append, List.getElem?_append_left inside, List.getElem?_append_left inside'] at letters
  exact differs letters

theorem OtherEvents.refl : OtherEvents env s s := Relation.ReflTransGen.refl

theorem OtherEvents.of_journal (same : s'.journal = s.journal) : OtherEvents env s s' := by
  rw [OtherEvents, same]

theorem OtherEvents.of_outbox (same : s'.journal.outboxEvents = s.journal.outboxEvents) : OtherEvents env s s' := by
  rw [OtherEvents, same]

theorem otherEvents_of_moves {α : Type} {p : Call α} (moves : Program.Moves (OtherEvents env) p) :
    OtherEvents env s (p s).1 := by
  have all := moves s
  generalize (p s).1 = s' at all ⊢
  induction all with
  | refl => exact OtherEvents.refl
  | tail _ step ih => exact Relation.ReflTransGen.trans ih step

theorem records_otherEvents {α : Type} {p : Call α} (kept : Program.Frames Store.records p) :
    Program.Moves (OtherEvents env) p := by
  apply kept.moves
  intro s s' same
  have journal := congrArg Store.journal same
  exact OtherEvents.of_journal journal

theorem auditAll_outbox {first : Nat} {principal : Principal} {actions : List String} {resource : String}
    {journal : Journal} : (auditAll env first principal actions resource journal).outboxEvents = journal.outboxEvents := by
  unfold auditAll
  generalize actions.zipIdx first = audited
  induction audited generalizing journal with
  | nil => rfl
  | cons action audited ih =>
    rw [List.foldl_cons, ih]
    rfl

theorem sweep_outbox : (sweep env s).journal.outboxEvents = s.journal.outboxEvents.insertAll (expiryEvents env s) := by
  have loop (entries : List (Memory × Nat)) (journal : Journal) : (entries.foldl (expiryJournal env) journal).outboxEvents =
      journal.outboxEvents.insertAll (entries.map fun entry =>
        (env.uuid (2 * entry.2 + 1), expiredEvent env entry.2 entry.1)) := by
    induction entries generalizing journal with
    | nil => rfl
    | cons entry entries ih =>
      rw [List.foldl_cons, ih, List.map_cons, Table.insertAll_cons]
      rfl
  exact loop _ _

theorem callCatalog_otherEvents {op : CatalogOp} : OtherEvents env s (callCatalog x env op s).1 := by
  have transaction {α : Type} {f : Store → Result (Store × α)}
      (step : ∀ s s' a, f s = .ok (s', a) → OtherEvents env s s') :
      Program.Moves (OtherEvents env) (do let _ ← Program.transaction f : Call Unit) :=
    (Program.Moves.transaction step).bind fun _ => Program.Moves.pure
  apply otherEvents_of_moves
  cases op with
  | createSkill new =>
    apply transaction
    intro s s' skill run
    unfold createSkill at run
    obtain ⟨_, _, run⟩ := bind_eq_ok.mp run
    obtain ⟨_, _, run⟩ := bind_eq_ok.mp run
    obtain ⟨_, _, run⟩ := bind_eq_ok.mp run
    obtain ⟨_, _, run⟩ := bind_eq_ok.mp run
    obtain ⟨_, _, run⟩ := bind_eq_ok.mp run
    cases run
    exact Relation.ReflTransGen.single (foreignEvent_insert 0 (by decide) (by decide) (by decide) rfl)
  | transitionSkill id organizationId workspaceId lifecycle =>
    apply transaction
    intro s s' skill run
    unfold transitionSkill at run
    cases stored : s.catalog.agentSkills[id]? with
    | none =>
      simp only [stored] at run
      cases run
      exact OtherEvents.refl
    | some skill =>
      simp only [stored] at run
      obtain ⟨_, _, run⟩ := bind_eq_ok.mp run
      obtain ⟨_, _, run⟩ := bind_eq_ok.mp run
      cases run
      exact Relation.ReflTransGen.single (foreignEvent_insert 0 (by decide) (by decide) (by decide) rfl)
  | createGuardrailPolicy new =>
    apply transaction
    intro s s' policy run
    unfold createGuardrailPolicy at run
    obtain ⟨_, _, run⟩ := bind_eq_ok.mp run
    obtain ⟨_, _, run⟩ := bind_eq_ok.mp run
    obtain ⟨_, _, run⟩ := bind_eq_ok.mp run
    cases run
    exact Relation.ReflTransGen.single (foreignEvent_insert 0 (by decide) (by decide) (by decide) rfl)
  | transitionGuardrailPolicy id organizationId workspaceId lifecycle =>
    apply transaction
    intro s s' policy run
    unfold transitionGuardrailPolicy at run
    cases stored : s.catalog.guardrailPolicies[id]? with
    | none =>
      simp only [stored] at run
      cases run
      exact OtherEvents.refl
    | some policy =>
      simp only [stored] at run
      obtain ⟨_, _, run⟩ := bind_eq_ok.mp run
      obtain ⟨_, _, run⟩ := bind_eq_ok.mp run
      cases run
      exact Relation.ReflTransGen.single (foreignEvent_insert 0 (by decide) (by decide) (by decide) rfl)
  | issueApiKeyForSubject organizationId workspaceId role subjectKind =>
    apply transaction
    intro s s' issued run
    unfold issueApiKeyForSubject at run
    obtain ⟨_, _, run⟩ := bind_eq_ok.mp run
    obtain ⟨_, _, run⟩ := bind_eq_ok.mp run
    cases run
    exact OtherEvents.of_journal rfl

theorem enqueueDocument_otherEvents {new : NewDocument} {receipt : IngestionReceipt}
    (run : enqueueDocument x env s new = .ok (s', receipt)) : OtherEvents env s s' := by
  unfold enqueueDocument at run
  obtain ⟨_, _, run⟩ := bind_eq_ok.mp run
  cases existing : existingJobId x s.ingestion new with
  | some jobId =>
    simp only [existing] at run
    obtain ⟨_, _, run⟩ := bind_eq_ok.mp run
    obtain ⟨_, _, run⟩ := bind_eq_ok.mp run
    cases run
    exact OtherEvents.refl
  | none =>
    simp only [existing] at run
    cases run
    exact Relation.ReflTransGen.single (foreignEvent_insert 0 (by decide) (by decide) (by decide) rfl)

theorem failClaimedIngestionJob_otherEvents {jobId : Uuid} {error : String} {job : IngestionJob}
    (run : failClaimedIngestionJob env s jobId error = .ok (s', job)) : OtherEvents env s s' := by
  unfold failClaimedIngestionJob at run
  obtain ⟨_, _, run⟩ := bind_eq_ok.mp run
  obtain ⟨_, _, run⟩ := bind_eq_ok.mp run
  obtain ⟨_, _, run⟩ := bind_eq_ok.mp run
  obtain ⟨_, _, run⟩ := bind_eq_ok.mp run
  cases run
  exact Relation.ReflTransGen.single (foreignEvent_insert 0 (by decide) (by decide) (by decide) auditAll_outbox)

theorem completionJournal_otherEvents {jobKey : Uuid} {document : Document} {job : IngestionJob} {chunkCount : Nat}
    {journal : Journal} : Relation.ReflTransGen (ForeignEvent env) journal.outboxEvents
      (completionJournal env jobKey document job chunkCount journal).outboxEvents := by
  unfold completionJournal
  apply Relation.ReflTransGen.tail _ (foreignEvent_insert 0 (by decide) (by decide) (by decide) rfl)
  exact Relation.ReflTransGen.single (foreignEvent_insert 0 (by decide) (by decide) (by decide) auditAll_outbox)

theorem processClaimedIngestionJob_otherEvents {claimed : ClaimedIngestionJob} :
    Program.Moves (OtherEvents env) (processClaimedIngestionJob x env fault claimed) := by
  have prepare : Program.Moves (OtherEvents env) (Program.transaction (prepareIngestion x env claimed)) := by
    apply Program.Moves.transaction
    intro s s' prepared run
    obtain ⟨_, _, _, _, _, _, _, _, _, _, written, _⟩ := prepareIngestion_ok run
    rw [written]
    exact OtherEvents.of_journal rfl
  have complete {prepared : PreparedIngestion} {generation : String} :
      Program.Moves (OtherEvents env) (Program.transaction (completeIngestion x env prepared generation)) := by
    apply Program.Moves.transaction
    intro s s' job run
    unfold completeIngestion at run
    obtain ⟨_, _, run⟩ := bind_eq_ok.mp run
    cases run
    exact completionJournal_otherEvents
  apply prepare.bind
  intro prepared
  apply (records_otherEvents stopAt_frames).bind
  intro _
  apply Program.Moves.query.bind
  intro pending
  apply (records_otherEvents publishGenerationWithPending_frames).bind
  intro _
  apply (records_otherEvents publishTextGenerationWithPending_frames).bind
  intro generation
  apply complete.bind
  intro job
  apply (records_otherEvents stopAt_frames).bind
  intro _
  exact (records_otherEvents cleanupTextGenerations_frames).attempt.bind fun _ => Program.Moves.pure

theorem callIngestion_otherEvents {op : IngestionOp} : OtherEvents env s (callIngestion x env op s).1 := by
  have transaction {α : Type} {f : Store → Result (Store × α)}
      (step : ∀ s s' a, f s = .ok (s', a) → OtherEvents env s s') :
      Program.Moves (OtherEvents env) (do let _ ← Program.transaction f : Call Unit) :=
    (Program.Moves.transaction step).bind fun _ => Program.Moves.pure
  apply otherEvents_of_moves
  cases op with
  | enqueueDocument new =>
    apply transaction
    exact fun s s' receipt run => enqueueDocument_otherEvents run
  | enqueueDocumentWithLimits new limits =>
    apply transaction
    exact fun s s' receipt run => enqueueDocument_otherEvents (enqueueDocumentWithLimits_ok run)
  | recoverIncompleteIngestionJobs =>
    apply transaction
    intro s s' recovered run
    unfold recoverIncompleteIngestionJobs at run
    obtain ⟨_, _, run⟩ := bind_eq_ok.mp run
    cases run
    exact OtherEvents.of_journal rfl
  | claimNextIngestionJob =>
    apply transaction
    intro s s' claimed run
    rcases claimNextIngestionJob_ok run with ⟨same, _⟩ | ⟨_, _, _, _, _, _, _, _, _, written⟩
    · rw [same]
      exact OtherEvents.refl
    · rw [written]
      exact OtherEvents.of_journal rfl
  | processClaimedIngestionJob claimed fault =>
    exact processClaimedIngestionJob_otherEvents.bind fun _ => Program.Moves.pure
  | failClaimedIngestionJob jobId error =>
    apply transaction
    exact fun s s' job run => failClaimedIngestionJob_otherEvents run
  | retryDeadLetterIngestionJob id organizationId workspaceId =>
    apply transaction
    intro s s' result run
    rcases retryDeadLetterIngestionJob_ok run with ⟨same, _⟩ | ⟨_, _, _, _, _, _, written⟩
    · rw [same]
      exact OtherEvents.refl
    · rw [written]
      exact OtherEvents.of_journal rfl

theorem rebuildTextWorkspace_otherEvents {organizationId workspaceId : String} {generation : Uuid} :
    Program.Moves (OtherEvents env) (rebuildTextWorkspace x env fault organizationId workspaceId generation) := by
  apply Program.Moves.query.bind
  intro entries
  apply (records_otherEvents WorkspaceTextIndex.publishGeneration_frames).bind
  intro _
  apply Program.Moves.bind
  · apply Program.Moves.transaction
    intro s s' _ run
    cases run
    exact OtherEvents.of_journal rfl
  · intro _
    apply (records_otherEvents stopAt_frames).bind
    intro _
    exact (records_otherEvents cleanupTextGenerations_frames).bind fun _ => Program.Moves.pure

theorem rebuildGraphWorkspace_otherEvents {organizationId workspaceId : String} :
    Program.Moves (OtherEvents env) (rebuildGraphWorkspace x env organizationId workspaceId) := by
  apply Program.Moves.transaction
  intro s s' _ run
  obtain ⟨graph, _, same⟩ := rebuildGraph_ok run
  have written : s' = { s with projection := { s.projection with graph := graph } } := same
  rw [written]
  exact OtherEvents.of_journal rfl

theorem auditSystem_otherEvents {organizationId workspaceId : String} {id : Uuid} {action : String} :
    Program.Moves (OtherEvents env) (auditSystem env organizationId workspaceId id action) := by
  apply Program.Moves.transaction
  intro s s' _ run
  cases run
  exact OtherEvents.of_outbox rfl

theorem callProjection_otherEvents {op : ProjectionOp} : OtherEvents env s (callProjection x env op s).1 := by
  apply otherEvents_of_moves
  cases op with
  | rebuildVectorWorkspace organizationId workspaceId fault =>
    exact (records_otherEvents rebuildVectorWorkspace_frames).bind fun _ => Program.Moves.pure
  | rebuildTextWorkspace organizationId workspaceId fault =>
    exact rebuildTextWorkspace_otherEvents.bind fun _ => Program.Moves.pure
  | rebuildGraphWorkspace organizationId workspaceId =>
    exact rebuildGraphWorkspace_otherEvents.bind fun _ => Program.Moves.pure
  | reconcileVectorProjection faults =>
    apply Program.Moves.bind _ fun _ => Program.Moves.pure
    apply (records_otherEvents WorkspaceVectorIndex.removeStaleTemporaryFiles_frames).bind
    intro removed
    apply Program.Moves.query.bind
    intro scopes
    apply (reconcileScopes_moves _ fun _ _ _ _ => auditSystem_otherEvents).bind fun _ => Program.Moves.pure
    exact fun _ _ _ => records_otherEvents rebuildVectorWorkspace_frames
  | reconcileTextProjection faults =>
    apply Program.Moves.bind _ fun _ => Program.Moves.pure
    apply Program.Moves.query.bind
    intro scopes
    apply (reconcileScopes_moves (fun _ _ _ => rebuildTextWorkspace_otherEvents)
      fun _ _ _ _ => auditSystem_otherEvents).bind
    exact fun _ => records_otherEvents cleanupTextGenerations_frames
  | reconcileGraphProjection =>
    apply Program.Moves.bind _ fun _ => Program.Moves.pure
    apply Program.Moves.query.bind
    intro scopes
    apply (reconcileScopes_moves (fun _ _ _ => rebuildGraphWorkspace_otherEvents)
      fun _ _ _ _ => auditSystem_otherEvents).bind
    exact fun _ => Program.Moves.pure

theorem callStore_otherEvents {op : Op} (other : ∀ call, op ≠ .knowledge call) :
    OtherEvents env s (callStore x engines env op s).1 := by
  cases op with
  | ingestion call => exact callIngestion_otherEvents
  | projection call => exact callProjection_otherEvents
  | knowledge call => exact absurd rfl (other call)
  | catalog call => exact callCatalog_otherEvents
  | blob call =>
    have kept : (callBlob x call s).1.withoutBlobs = s.withoutBlobs := callBlob_frames s
    have journal := congrArg Store.journal kept
    exact OtherEvents.of_journal journal
  | audit principal action resource => exact OtherEvents.of_outbox rfl
  | restart provider => exact OtherEvents.of_journal rfl

theorem createMemory_written {new : NewMemory} {memory : Memory} (run : createMemory x env new s = .ok (s', memory)) :
    s'.knowledge.memories = s.knowledge.memories.insert (env.uuid 0) (newMemory x env new) ∧
      s'.journal.outboxEvents =
        s.journal.outboxEvents.insert (env.uuid 1) (proposedEvent env (newMemory x env new)) := by
  unfold createMemory at run
  obtain ⟨_, _, run⟩ := bind_eq_ok.mp run
  obtain ⟨_, _, run⟩ := bind_eq_ok.mp run
  obtain ⟨_, _, run⟩ := bind_eq_ok.mp run
  obtain ⟨_, _, run⟩ := bind_eq_ok.mp run
  obtain ⟨_, _, run⟩ := bind_eq_ok.mp run
  cases run
  exact ⟨rfl, rfl⟩

theorem transitionMemory_written {id : Uuid} {organizationId workspaceId : String} {transition : MemoryTransition}
    {result : Option Memory} (run : transitionMemory env id organizationId workspaceId transition s = .ok (s', result)) :
    s' = s ∨ ∃ memory, s.knowledge.memories[id]? = some memory ∧
      isValidTransition memory.lifecycle transition.lifecycle = true ∧
      s'.knowledge.memories = s.knowledge.memories.insert id (memory.applyTransition env transition) ∧
      s'.journal.outboxEvents = s.journal.outboxEvents.insert (env.uuid 0)
        (lifecycleEvent env (env.uuid 0) (memory.applyTransition env transition) []) := by
  unfold transitionMemory at run
  cases stored : s.knowledge.memories[id]? with
  | none =>
    simp only [stored] at run
    cases run
    exact .inl rfl
  | some memory =>
    simp only [stored] at run
    obtain ⟨_, _, run⟩ := bind_eq_ok.mp run
    obtain ⟨_, valid, run⟩ := bind_eq_ok.mp run
    obtain ⟨_, _, run⟩ := bind_eq_ok.mp run
    obtain ⟨_, _, run⟩ := bind_eq_ok.mp run
    rw [ensure_eq_ok] at valid
    cases run
    exact .inr ⟨memory, rfl, valid, rfl, rfl⟩

theorem MemoryStep.quiet {op : Op} (knowledge : s'.knowledge = s.knowledge) (journal : s'.journal = s.journal) :
    MemoryStep x env op s s' := by
  have memories := congrArg KnowledgeTables.memories knowledge
  exact .other memories (.of_journal journal)

theorem MemoryStep.of_sessions {op : Op} (same : s'.withoutSessions = s.withoutSessions) : MemoryStep x env op s s' := by
  have knowledge := Store.knowledge_of_sessions same
  have journal := congrArg Store.journal same
  exact .quiet knowledge journal

theorem proposeMemoryShare_step {op : Op} {organizationId sourceWorkspaceId : String} {memoryId : Uuid}
    {audience : ShareAudience} {proposedBy : Uuid} {expiresAtUnixMs : Option Nat} {share : MemoryShare}
    (run : proposeMemoryShare env organizationId sourceWorkspaceId memoryId audience proposedBy expiresAtUnixMs s =
      .ok (s', share)) : MemoryStep x env op s s' := by
  unfold proposeMemoryShare at run
  obtain ⟨_, _, run⟩ := bind_eq_ok.mp run
  obtain ⟨_, _, run⟩ := bind_eq_ok.mp run
  obtain ⟨_, _, run⟩ := bind_eq_ok.mp run
  obtain ⟨_, _, run⟩ := bind_eq_ok.mp run
  obtain ⟨_, _, run⟩ := bind_eq_ok.mp run
  obtain ⟨_, _, run⟩ := bind_eq_ok.mp run
  obtain ⟨_, _, run⟩ := bind_eq_ok.mp run
  cases run
  apply MemoryStep.other
  · rfl
  · exact Relation.ReflTransGen.single (foreignEvent_insert 6 (by decide) (by decide) (by decide) rfl)

theorem reviewMemoryShare_step {op : Op} {organizationId sourceWorkspaceId : String} {id : Uuid}
    {state : ShareReviewState} {reviewedBy : Uuid} {reviewNote : Option String} {result : Option MemoryShare}
    (run : reviewMemoryShare env organizationId sourceWorkspaceId id state reviewedBy reviewNote s = .ok (s', result)) :
    MemoryStep x env op s s' := by
  unfold reviewMemoryShare at run
  obtain ⟨_, _, run⟩ := bind_eq_ok.mp run
  obtain ⟨_, _, run⟩ := bind_eq_ok.mp run
  cases stored : s.knowledge.memoryShares[id]? with
  | none =>
    simp only [stored] at run
    cases run
    exact .quiet rfl rfl
  | some share =>
    simp only [stored] at run
    obtain ⟨_, _, run⟩ := bind_eq_ok.mp run
    obtain ⟨_, _, run⟩ := bind_eq_ok.mp run
    obtain ⟨_, _, run⟩ := bind_eq_ok.mp run
    cases run
    apply MemoryStep.other
    · rfl
    · exact Relation.ReflTransGen.single (foreignEvent_insert 6 (by decide) (by decide) (by decide) rfl)

theorem expireDueMemories_step {op : Op} : Program.Triple (expireDueMemories env) s
    (fun _ => MemoryStep x env op s) (fun _ => MemoryStep x env op s) := by
  apply Program.Triple.transaction
  · intro _ s' run
    cases run
    exact .sweep rfl sweep_outbox
  · exact fun _ _ => .quiet rfl rfl

section
variable {organizationId workspaceId : String} {principalId sessionId entryId : Uuid} {promotion : Promotion} {op : Op}

theorem promoteWorkingMemory_step {s₀ : Store} (same : s₀.withoutSessions = s.withoutSessions)
    (kept : ∀ (id : Uuid) (session : WorkingSession),
      s₀.workingMemory.sessions[id]? = some session → s.workingMemory.sessions[id]? = some session) :
    Program.Triple (promoteWorkingMemory x env organizationId workspaceId principalId sessionId entryId promotion) s₀
      (fun _ => MemoryStep x env op s) (fun _ => MemoryStep x env op s) := by
  apply Program.Triple.bind (Q := fun _ s' => s'.withoutSessions = s.withoutSessions ∧
    ∀ (id : Uuid) (session : WorkingSession),
      s'.workingMemory.sessions[id]? = some session → s.workingMemory.sessions[id]? = some session)
  · apply Program.Triple.update
    refine ⟨same, ?_⟩
    intro id session found
    exact kept id session (Table.find_filter_eq_some.mp found).1
  intro _ s₁ pruned
  apply Program.Triple.transaction
  · intro result s' run
    cases stored : s₁.workingMemory.sessions[sessionId]? with
    | none =>
      simp only [stored] at run
      cases run
      exact .of_sessions pruned.1
    | some session =>
      simp only [stored] at run
      obtain ⟨_, owned, run⟩ := bind_eq_ok.mp run
      obtain ⟨entry, listed, run⟩ := bind_eq_ok.mp run
      obtain ⟨⟨s₂, memory⟩, created, run⟩ := bind_eq_ok.mp run
      cases run
      rw [ensureSessionOwner, ensure_eq_ok] at owned
      rw [context_eq_ok] at listed
      have owner : session.createdBy = principalId := by
        unfold WorkingSession.ownedBy at owned
        simp_all
      subst owner
      have written := createMemory_written created
      have knowledge := Store.knowledge_of_sessions pruned.1
      have journal := congrArg Store.journal pruned.1
      dsimp only [Store.withoutSessions] at journal
      rw [knowledge, journal] at written
      have origin : (promotedMemory organizationId workspaceId session.createdBy sessionId session entry promotion).Origin
          op s := .promoted (pruned.2 sessionId session stored) (List.mem_of_find?_eq_some listed) rfl
      exact .create _ origin written.1 written.2
  · exact fun _ _ => .of_sessions pruned.1

theorem promoteWorkingMemoryWithLimits_step {limits : WorkspaceLimits} : Program.Triple
    (promoteWorkingMemoryWithLimits x env organizationId workspaceId principalId sessionId entryId promotion limits) s
    (fun _ => MemoryStep x env op s) (fun _ => MemoryStep x env op s) := by
  let pruned (s' : Store) : Prop := s'.withoutSessions = s.withoutSessions ∧
    ∀ (id : Uuid) (session : WorkingSession),
      s'.workingMemory.sessions[id]? = some session → s.workingMemory.sessions[id]? = some session
  have query {α : Type} {f : Store → Result α} {s' : Store} (same : pruned s') :
      Program.Triple (Program.query f) s' (fun _ => pruned) (fun _ => MemoryStep x env op s) :=
    Program.Triple.query (fun _ _ => same) fun _ _ => .of_sessions same.1
  apply Program.Triple.bind (Q := fun _ => pruned)
  · apply Program.Triple.update
    refine ⟨rfl, ?_⟩
    exact fun id session found => (Table.find_filter_eq_some.mp found).1
  intro _ s₁ same
  apply (query same).bind
  intro contentBytes s₂ same
  cases contentBytes with
  | none => exact Program.Triple.pure (.of_sessions same.1)
  | some contentBytes =>
    apply (query same).bind
    exact fun _ s₃ same => promoteWorkingMemory_step same.1 same.2

end

theorem callKnowledge_step {call : KnowledgeOp} :
    MemoryStep x env (.knowledge call) s (callKnowledge x engines env call s).1 := by
  have idle : MemoryStep x env (.knowledge call) s s := .quiet rfl rfl
  have program {α : Type} {p : Call α} (holds : Program.Triple p s (fun _ => MemoryStep x env (.knowledge call) s)
      (fun _ => MemoryStep x env (.knowledge call) s)) :
      MemoryStep x env (.knowledge call) s ((do let _ ← p : Call Unit) s).1 := by
    apply Program.Triple.state (MemoryStep x env (.knowledge call) s)
    exact holds.bind fun _ _ taken => Program.Triple.pure taken
  have transaction {α : Type} {f : Store → Result (Store × α)}
      (step : ∀ s' a, f s = .ok (s', a) → MemoryStep x env (.knowledge call) s s') :
      MemoryStep x env (.knowledge call) s ((do let _ ← Program.transaction f : Call Unit) s).1 :=
    program (Program.Triple.transaction (fun a s' => step s' a) fun _ _ => idle)
  have query {α : Type} {f : Store → Result α} {s' : Store} (taken : MemoryStep x env (.knowledge call) s s') :
      Program.Triple (Program.query f) s' (fun _ => MemoryStep x env (.knowledge call) s)
        (fun _ => MemoryStep x env (.knowledge call) s) :=
    Program.Triple.query (fun _ _ => taken) fun _ _ => taken
  have session {α : Type} {p : Call α} (kept : Program.Frames Store.withoutSessions p) :
      MemoryStep x env (.knowledge call) s ((do let _ ← p : Call Unit) s).1 :=
    .of_sessions ((kept.bind fun _ => Program.Frames.pure) s)
  cases call with
  | createMemory new =>
    apply transaction
    intro s' memory run
    have written := createMemory_written run
    exact .create new (.requested (.inl rfl)) written.1 written.2
  | createMemoryWithLimits new limits =>
    apply transaction
    intro s' memory run
    have written := createMemory_written (createMemoryWithLimits_ok run)
    exact .create new (.requested (.inr ⟨limits, rfl⟩)) written.1 written.2
  | transitionMemory id organizationId workspaceId transition =>
    apply transaction
    intro s' result run
    rcases transitionMemory_written run with same | ⟨memory, found, valid, memories, events⟩
    · rw [same]
      exact idle
    · exact .transition id memory transition found valid memories events
  | expireDueMemories => exact program expireDueMemories_step
  | getMemory id organizationId workspaceId =>
    apply program
    exact expireDueMemories_step.bind fun _ _ taken => query taken
  | retrieve organizationId workspaceId text limit =>
    apply program
    exact expireDueMemories_step.bind fun _ _ taken => query taken
  | proposeMemoryShare organizationId sourceWorkspaceId memoryId audience proposedBy expiresAtUnixMs =>
    apply transaction
    exact fun s' share run => proposeMemoryShare_step run
  | reviewMemoryShare organizationId sourceWorkspaceId id state reviewedBy reviewNote =>
    apply transaction
    exact fun s' result run => reviewMemoryShare_step run
  | compileContextPackage principal requestWorkspaceId text tokenBudget limit =>
    apply program
    have unchanged {f : Store → Result Unit} : Program.Triple (Program.query f) s (fun _ s' => s' = s)
        (fun _ => MemoryStep x env _ s) := Program.Triple.query (fun _ _ => rfl) fun _ _ => idle
    apply unchanged.bind
    intro _ s₁ same
    subst same
    apply unchanged.bind
    intro _ s₂ same
    subst same
    exact expireDueMemories_step.bind fun _ _ taken => query taken
  | createWorkingSession new => exact session createWorkingSession_frames
  | getWorkingSession organizationId workspaceId principalId id => exact session getWorkingSession_frames
  | appendWorkingMemory organizationId workspaceId principalId sessionId new =>
    exact session appendWorkingMemory_frames
  | updateWorkingSummary organizationId workspaceId principalId sessionId content =>
    exact session updateWorkingSummary_frames
  | promoteWorkingMemory organizationId workspaceId principalId sessionId entryId promotion =>
    exact program (promoteWorkingMemory_step rfl fun _ _ found => found)
  | promoteWorkingMemoryWithLimits organizationId workspaceId principalId sessionId entryId promotion limits =>
    exact program promoteWorkingMemoryWithLimits_step

theorem Step.memoryStep {server server' : Server} {event : Event} (taken : Step x engines server event server') :
    MemoryStep x event.env event.op server.store server'.store := by
  rw [taken.next]
  by_cases own : ∃ call, event.op = .knowledge call
  · rcases own with ⟨call, called⟩
    simp only [Server.next, called]
    exact callKnowledge_step
  · have other : ∀ call, event.op ≠ .knowledge call := fun call same => own ⟨call, same⟩
    have knowledge : (callStore x engines event.env event.op server.store).1.knowledge = server.store.knowledge :=
      callStore_knowledge other
    have memories := congrArg KnowledgeTables.memories knowledge
    exact .other memories (callStore_otherEvents other)

end Hangar
