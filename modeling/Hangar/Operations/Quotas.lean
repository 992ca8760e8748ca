import Hangar.Ingestion.MissingRecords
import Hangar.Knowledge.Outbox
import Hangar.Knowledge.Package
import Hangar.Lib.Ledger

namespace Hangar

open Lib

def Memory.charge (memory : Memory) : (String × String) × Nat :=
  ((memory.organizationId, memory.workspaceId), memory.content.utf8ByteSize)

def Document.charge (payloads : Table Uuid IngestionPayload) (document : Document) : (String × String) × Nat :=
  ((document.organizationId, document.workspaceId),
    (payloads[document.ingestionJobId]?.map fun payload => payload.content.utf8ByteSize).getD 0)

def KnowledgeTables.ledger (k : KnowledgeTables) : Ledger (String × String) := (Table.rows k.memories).map Memory.charge

def IngestionTables.ledger (t : IngestionTables) : Ledger (String × String) :=
  (Table.rows t.documents).map (Document.charge t.payloads)

structure WorkspaceUsage.Within (usage : WorkspaceUsage) (limits : WorkspaceLimits) : Prop where
  memoryCount : usage.memoryCount ≤ limits.maxMemories
  memoryBytes : usage.memoryBytes ≤ limits.maxMemoryBytes
  documentCount : usage.documentCount ≤ limits.maxDocuments
  ingestionBytes : usage.ingestionBytes ≤ limits.maxIngestionBytes

/-- The usage of every workspace can be read and is within the limits, and so is every payload. -/
structure Store.WithinLimits (limits : WorkspaceLimits) (s : Store) : Prop where
  usage : ∀ organizationId workspaceId, ensureScope organizationId workspaceId = .ok () →
    ∃ usage, workspaceUsage organizationId workspaceId s = .ok usage ∧ usage.Within limits
  payload : ∀ (id : Uuid) (payload : IngestionPayload), s.ingestion.payloads[id]? = some payload →
    payload.content.utf8ByteSize ≤ limits.maxDocumentBytes

/-- The call adds memories and documents only through the methods that enforce these limits. -/
def Op.Limited (limits : WorkspaceLimits) : Op → Prop
  | .knowledge (.createMemory _) => False
  | .knowledge (.createMemoryWithLimits _ limits') => limits' = limits
  | .knowledge (.promoteWorkingMemory _ _ _ _ _ _) => False
  | .knowledge (.promoteWorkingMemoryWithLimits _ _ _ _ _ _ limits') => limits' = limits
  | .ingestion (.enqueueDocument _) => False
  | .ingestion (.enqueueDocumentWithLimits _ limits') => limits' = limits
  | _ => True

def NewDocument.Replays (x : Externals) (env : Env) (s : Store) (new : NewDocument) : Prop :=
  ∃ receipt, receipt.deduplicated = true ∧ enqueueDocument x env s new = .ok (s, receipt)

def NewDocument.SkipsQuota (x : Externals) (env : Env) (s : Store) (new : NewDocument) : Prop :=
  ∀ limits, enqueueDocumentWithLimits x env s new limits = enqueueDocument x env s new

structure QuotasHold (limits : WorkspaceLimits) (s : Store) : Prop where
  memories : s.knowledge.ledger.Within limits.maxMemories limits.maxMemoryBytes
  documents : s.ingestion.ledger.Within limits.maxDocuments limits.maxIngestionBytes
  payload : ∀ (id : Uuid) (payload : IngestionPayload), s.ingestion.payloads[id]? = some payload →
    payload.content.utf8ByteSize ≤ limits.maxDocumentBytes

inductive MemoriesCharged (env : Env) (limits : WorkspaceLimits) (s s' : Store) : Prop where
  | keeps (same : s'.knowledge.ledger = s.knowledge.ledger)
  | admits (memory : Memory) (room : enforceMemoryLimits memory.organizationId memory.workspaceId limits s
        memory.content.utf8ByteSize = .ok ())
      (memories : s'.knowledge.memories = s.knowledge.memories.insert (env.uuid 0) memory)

variable {x : Externals} {engines : SearchEngines} {env : Env} {s s' : Store} {limits : WorkspaceLimits}
  {organizationId workspaceId : String}

theorem workspaceUsage_ok {usage : WorkspaceUsage} (run : workspaceUsage organizationId workspaceId s = .ok usage) :
    usage.memoryCount = s.knowledge.ledger.count (organizationId, workspaceId) ∧
      usage.memoryBytes = s.knowledge.ledger.total (organizationId, workspaceId) ∧
      usage.documentCount = s.ingestion.ledger.count (organizationId, workspaceId) ∧
      usage.ingestionBytes = s.ingestion.ledger.total (organizationId, workspaceId) := by
  unfold workspaceUsage at run
  obtain ⟨_, _, run⟩ := bind_eq_ok.mp run
  obtain ⟨ingestionBytes, summed, run⟩ := bind_eq_ok.mp run
  cases run
  have own (organizationId' workspaceId' : String) :
      decide ((organizationId', workspaceId') = (organizationId, workspaceId)) =
        inScope organizationId workspaceId organizationId' workspaceId' := by
    unfold inScope
    rw [Bool.eq_iff_iff]
    simp
  have memories : s.knowledge.ledger.entries (organizationId, workspaceId) =
      (scopedMemories organizationId workspaceId s).map Memory.charge := by
    unfold Ledger.entries KnowledgeTables.ledger scopedMemories
    rw [List.filter_map]
    apply congrArg (List.map Memory.charge)
    apply List.filter_congr
    intro memory _
    exact own memory.organizationId memory.workspaceId
  have documents : s.ingestion.ledger.entries (organizationId, workspaceId) =
      (scopedDocuments organizationId workspaceId s).map (Document.charge s.ingestion.payloads) := by
    unfold Ledger.entries IngestionTables.ledger scopedDocuments
    rw [List.filter_map]
    apply congrArg (List.map (Document.charge s.ingestion.payloads))
    apply List.filter_congr
    intro document _
    exact own document.organizationId document.workspaceId
  have loop (documents : List Document) (first last : Nat)
      (run : documents.foldlM (fun total document => do
        let payload ← documentPayload s document
        return total + payload.content.utf8ByteSize) first = .ok last) :
      last = first + ((documents.map (Document.charge s.ingestion.payloads)).map Prod.snd).sum := by
    induction documents generalizing first with
    | nil =>
      cases run
      simp
    | cons document documents ih =>
      rw [List.foldlM_cons] at run
      obtain ⟨next, charged, run⟩ := bind_eq_ok.mp run
      obtain ⟨payload, found, charged⟩ := bind_eq_ok.mp charged
      rw [documentPayload, context_eq_ok] at found
      cases charged
      rw [ih _ run]
      simp [Document.charge, found, Nat.add_assoc]
  unfold Ledger.count Ledger.total
  rw [memories, documents]
  refine ⟨by simp, ?_, by simp, ?_⟩
  · rw [List.map_map]
    rfl
  · have bytes := loop _ _ _ summed
    rw [Nat.zero_add] at bytes
    exact bytes

theorem workspaceUsage_total (valid : IngestionIntegrity x s.ingestion)
    (scope : ensureScope organizationId workspaceId = .ok ()) :
    ∃ usage, workspaceUsage organizationId workspaceId s = .ok usage := by
  have readable : ∀ document ∈ scopedDocuments organizationId workspaceId s, ∀ total : Nat, True →
      ∃ total', (do
        let payload ← documentPayload s document
        return total + payload.content.utf8ByteSize : Result Nat) = .ok total' ∧ True := by
    intro document member total _
    obtain ⟨id, stored⟩ := Table.mem_rows.mp (List.mem_filter.mp member).1
    obtain ⟨payload, found⟩ := documentPayload_found valid stored
    rw [bind_of_ok found]
    exact ⟨_, rfl, True.intro⟩
  obtain ⟨bytes, summed, _⟩ := foldlM_succeeds readable (b := 0) True.intro
  unfold workspaceUsage
  apply bind_succeeds scope
  apply bind_succeeds summed
  exact ⟨_, rfl⟩

theorem QuotasHold.withinLimits (holds : QuotasHold limits s) (valid : IngestionIntegrity x s.ingestion) :
    s.WithinLimits limits := by
  constructor
  · intro organizationId workspaceId scope
    obtain ⟨usage, run⟩ := workspaceUsage_total valid scope
    obtain ⟨memoryCount, memoryBytes, documentCount, ingestionBytes⟩ := workspaceUsage_ok run
    refine ⟨usage, run, ?_⟩
    constructor
    · rw [memoryCount]
      exact holds.memories.count _
    · rw [memoryBytes]
      exact holds.memories.total _
    · rw [documentCount]
      exact holds.documents.count _
    · rw [ingestionBytes]
      exact holds.documents.total _
  · exact holds.payload

theorem ledger_rewrite {k : KnowledgeTables} {id : Uuid} {memory memory' : Memory}
    (found : k.memories[id]? = some memory) (same : memory'.charge = memory.charge) :
    KnowledgeTables.ledger { k with memories := k.memories.insert id memory' } = k.ledger := by
  apply Table.rows_map_congr
  intro id'
  dsimp only
  rw [Table.find_insert]
  by_cases here : id = id'
  · subst here
    simp [found, same]
  · rw [if_neg here]

theorem sweep_ledger : (sweep env s).knowledge.ledger = s.knowledge.ledger := by
  apply Table.rows_map_congr
  intro id
  rw [find_sweep, Option.map_map]
  congr 1
  funext memory
  dsimp only [Function.comp]
  split <;> rfl

theorem expireDueMemories_charged : Program.Triple (expireDueMemories env) s
    (fun _ => MemoriesCharged env limits s) (fun _ => MemoriesCharged env limits s) := by
  apply Program.Triple.transaction
  · intro _ s' run
    cases run
    exact .keeps sweep_ledger
  · exact fun _ _ => .keeps rfl

theorem MemoriesCharged.of_sessions (same : s'.withoutSessions = s.withoutSessions) : MemoriesCharged env limits s s' := by
  apply MemoriesCharged.keeps
  rw [Store.knowledge_of_sessions same]

theorem enforceMemoryLimits_of_sessions {bytes : Nat} (same : s'.withoutSessions = s.withoutSessions) :
    enforceMemoryLimits organizationId workspaceId limits s' bytes =
      enforceMemoryLimits organizationId workspaceId limits s bytes := by
  have knowledge := Store.knowledge_of_sessions same
  have ingestion := congrArg Store.ingestion same
  have blobs := congrArg Store.blobs same
  dsimp only [Store.withoutSessions] at ingestion blobs
  unfold enforceMemoryLimits workspaceUsage scopedMemories scopedDocuments scopedBlobs documentPayload
  rw [knowledge, ingestion, blobs]

section
variable {principalId sessionId entryId : Uuid} {promotion : Promotion}

/-- A promotion is charged the bytes it has been checked for. -/
theorem promoteWorkingMemoryWithLimits_charged : Program.Triple
    (promoteWorkingMemoryWithLimits x env organizationId workspaceId principalId sessionId entryId promotion limits) s
    (fun _ => MemoriesCharged env limits s) (fun _ => MemoriesCharged env limits s) := by
  let pruned (s : Store) : Store := { s with workingMemory := { s.workingMemory with
    sessions := s.workingMemory.sessions.filter fun _ session => session.expiresAtUnixMs > env.now } }
  apply Program.Triple.bind (Q := fun _ s' => s' = pruned s)
  · exact Program.Triple.update rfl
  intro _ s₁ same
  subst same
  apply Program.Triple.bind (Q := fun bytes s' => s' = pruned s ∧
    bytes = promotedBytes organizationId workspaceId principalId sessionId entryId (pruned s))
  · apply Program.Triple.query
    · intro bytes run
      cases run
      exact ⟨rfl, rfl⟩
    · exact fun _ _ => .of_sessions rfl
  intro bytes s₂ read
  obtain ⟨same, read⟩ := read
  subst same
  cases bytes with
  | none => exact Program.Triple.pure (.of_sessions rfl)
  | some bytes =>
    apply Program.Triple.bind (Q := fun _ s' => s' = pruned s ∧
      enforceMemoryLimits organizationId workspaceId limits s bytes = .ok ())
    · apply Program.Triple.query
      · intro _ run
        exact ⟨rfl, run⟩
      · exact fun _ _ => .of_sessions rfl
    intro _ s₃ checked
    obtain ⟨same, room⟩ := checked
    subst same
    apply Program.Triple.bind (Q := fun _ s' => s' = pruned (pruned s))
    · exact Program.Triple.update rfl
    intro _ s₄ same
    subst same
    apply Program.Triple.transaction
    · intro result s' run
      cases stored : (pruned (pruned s)).workingMemory.sessions[sessionId]? with
      | none =>
        simp only [stored] at run
        cases run
        exact .of_sessions rfl
      | some session =>
        simp only [stored] at run
        obtain ⟨_, owned, run⟩ := bind_eq_ok.mp run
        obtain ⟨entry, listed, run⟩ := bind_eq_ok.mp run
        obtain ⟨⟨s₅, memory⟩, created, run⟩ := bind_eq_ok.mp run
        cases run
        rw [ensureSessionOwner, ensure_eq_ok] at owned
        rw [context_eq_ok] at listed
        have before : (pruned s).workingMemory.sessions[sessionId]? = some session :=
          (Table.find_filter_eq_some.mp stored).1
        have counted : bytes = entry.content.utf8ByteSize := by
          have bytesOf : promotedBytes organizationId workspaceId principalId sessionId entryId (pruned s) =
              some entry.content.utf8ByteSize := by
            unfold promotedBytes
            rw [before, Option.filter_some, if_pos owned, Option.bind_some, listed, Option.map_some]
          rw [bytesOf, Option.some.injEq] at read
          exact read
        subst counted
        have written := (createMemory_written created).1
        rw [enforceMemoryLimits_of_sessions rfl] at room
        apply MemoriesCharged.admits (newMemory x env
          (promotedMemory organizationId workspaceId principalId sessionId session entry promotion))
        · exact room
        · exact written
    · exact fun _ _ => .of_sessions rfl

end

theorem callKnowledge_charged {call : KnowledgeOp} (limited : (Op.knowledge call).Limited limits) :
    MemoriesCharged env limits s (callKnowledge x engines env call s).1 := by
  have program {α : Type} {p : Call α} (holds : Program.Triple p s (fun _ => MemoriesCharged env limits s)
      (fun _ => MemoriesCharged env limits s)) :
      MemoriesCharged env limits s ((do let _ ← p : Call Unit) s).1 := by
    apply Program.Triple.state (MemoriesCharged env limits s)
    exact holds.bind fun _ _ taken => Program.Triple.pure taken
  have transaction {α : Type} {f : Store → Result (Store × α)}
      (step : ∀ s' a, f s = .ok (s', a) → MemoriesCharged env limits s s') :
      MemoriesCharged env limits s ((do let _ ← Program.transaction f : Call Unit) s).1 :=
    program (Program.Triple.transaction (fun a s' => step s' a) fun _ _ => .keeps rfl)
  have query {α : Type} {f : Store → Result α} {s' : Store} (taken : MemoriesCharged env limits s s') :
      Program.Triple (Program.query f) s' (fun _ => MemoriesCharged env limits s)
        (fun _ => MemoriesCharged env limits s) :=
    Program.Triple.query (fun _ _ => taken) fun _ _ => taken
  have session {α : Type} {p : Call α} (kept : Program.Frames Store.withoutSessions p) :
      MemoriesCharged env limits s ((do let _ ← p : Call Unit) s).1 :=
    .of_sessions ((kept.bind fun _ => Program.Frames.pure) s)
  cases call with
  | createMemory new => exact limited.elim
  | createMemoryWithLimits new limits' =>
    have same : limits' = limits := limited
    subst same
    apply transaction
    intro s' memory run
    obtain ⟨_, room, created⟩ := bind_eq_ok.mp run
    have written := (createMemory_written created).1
    apply MemoriesCharged.admits (newMemory x env new)
    · exact room
    · exact written
  | transitionMemory id organizationId workspaceId transition =>
    apply transaction
    intro s' result run
    obtain ⟨rfl, _⟩ | ⟨memory, found, _, _, _, _, _, written⟩ := transitionMemory_ok run
    · exact .keeps rfl
    · apply MemoriesCharged.keeps
      rw [written]
      exact ledger_rewrite found rfl
  | expireDueMemories => exact program expireDueMemories_charged
  | getMemory id organizationId workspaceId =>
    apply program
    exact expireDueMemories_charged.bind fun _ _ taken => query taken
  | retrieve organizationId workspaceId text limit =>
    apply program
    exact expireDueMemories_charged.bind fun _ _ taken => query taken
  | proposeMemoryShare organizationId sourceWorkspaceId memoryId audience proposedBy expiresAtUnixMs =>
    apply transaction
    intro s' share run
    obtain ⟨_, _, _, _, _, written⟩ := proposeMemoryShare_ok run
    rw [written]
    exact .keeps rfl
  | reviewMemoryShare organizationId sourceWorkspaceId id state reviewedBy reviewNote =>
    apply transaction
    intro s' result run
    obtain ⟨rfl, _⟩ | ⟨_, _, _, _, _, _, written⟩ := reviewMemoryShare_ok run
    · exact .keeps rfl
    · rw [written]
      exact .keeps rfl
  | compileContextPackage principal requestWorkspaceId text tokenBudget limit =>
    apply program
    have unchanged {f : Store → Result Unit} : Program.Triple (Program.query f) s (fun _ s' => s' = s)
        (fun _ => MemoriesCharged env limits s) := Program.Triple.query (fun _ _ => rfl) fun _ _ => .keeps rfl
    apply unchanged.bind
    intro _ s₁ same
    subst same
    apply unchanged.bind
    intro _ s₂ same
    subst same
    exact expireDueMemories_charged.bind fun _ _ taken => query taken
  | createWorkingSession new => exact session createWorkingSession_frames
  | getWorkingSession organizationId workspaceId principalId id => exact session getWorkingSession_frames
  | appendWorkingMemory organizationId workspaceId principalId sessionId new =>
    exact session appendWorkingMemory_frames
  | updateWorkingSummary organizationId workspaceId principalId sessionId content =>
    exact session updateWorkingSummary_frames
  | promoteWorkingMemory organizationId workspaceId principalId sessionId entryId promotion => exact limited.elim
  | promoteWorkingMemoryWithLimits organizationId workspaceId principalId sessionId entryId promotion limits' =>
    have same : limits' = limits := limited
    subst same
    exact program promoteWorkingMemoryWithLimits_charged

/-- The lookups of the quota check and of the request itself agree. -/
theorem documentIsDeduplicated_eq {new : NewDocument} :
    documentIsDeduplicated x s new = (existingJobId x s.ingestion new).isSome := by
  unfold documentIsDeduplicated existingJobId
  cases s.ingestion.deduplication[new.deduplicationKey x]? <;> cases new.idempotencyTableKey x with
  | none => simp
  | some key => cases s.ingestion.idempotency[key]? <;> simp

inductive DocumentsCharged (x : Externals) (env : Env) (limits : WorkspaceLimits) (s s' : Store) : Prop where
  | keeps (ledger : s'.ingestion.ledger = s.ingestion.ledger) (payloads : s'.ingestion.payloads = s.ingestion.payloads)
  | admits (new : NewDocument) (room : enforceDocumentLimits new.organizationId new.workspaceId limits s
        new.content.utf8ByteSize = .ok ())
      (accepted : s'.ingestion = s.ingestion.accept x env new)

theorem QueueMove.ledger {t t' : IngestionTables} (move : QueueMove env t t') :
    t'.ledger = t.ledger ∧ t'.payloads = t.payloads := by
  cases move with
  | @write job job' document document' key jobFound documentFound advance =>
    refine ⟨?_, rfl⟩
    have same := advance.document_sameRequest
    apply Table.rows_map_congr
    intro id
    dsimp only
    rw [Table.find_insert]
    by_cases here : job.documentId = id
    · subst here
      simp [documentFound, Document.charge, same.organizationId, same.workspaceId, same.ingestionJobId]
    · rw [if_neg here]

theorem queueMoves_ledger {t t' : IngestionTables} (moves : Relation.ReflTransGen (QueueMove env) t t') :
    t'.ledger = t.ledger ∧ t'.payloads = t.payloads := by
  induction moves with
  | refl => exact ⟨rfl, rfl⟩
  | tail _ move ih => exact ⟨move.ledger.1.trans ih.1, move.ledger.2.trans ih.2⟩

theorem callIngestion_charged (valid : IngestionIntegrity x s.ingestion) {call : IngestionOp}
    (limited : (Op.ingestion call).Limited limits) :
    DocumentsCharged x env limits s (callIngestion x env call s).1 := by
  by_cases enqueues : ∃ new limits', call = .enqueueDocumentWithLimits new limits'
  · obtain ⟨new, limits', rfl⟩ := enqueues
    have same : limits' = limits := limited
    subst same
    apply Program.Triple.state (DocumentsCharged x env limits' s)
    refine Program.Triple.bind (Q := fun _ => DocumentsCharged x env limits' s) ?_ fun _ _ taken =>
      Program.Triple.pure taken
    apply Program.Triple.transaction
    · intro receipt s' run
      obtain ⟨_, ⟨_, _, _, _, _, _, rfl, _⟩ | ⟨absent, accepted, _, _⟩⟩ :=
        enqueueDocument_ok (enqueueDocumentWithLimits_ok run)
      · exact .keeps rfl rfl
      · unfold enqueueDocumentWithLimits at run
        rw [documentIsDeduplicated_eq, absent] at run
        obtain ⟨_, room, _⟩ := bind_eq_ok.mp run
        exact .admits new room accepted
    · exact fun _ _ => .keeps rfl rfl
  · have unlimited : ∀ new, call ≠ .enqueueDocument new := by
      rintro new rfl
      exact limited
    have moves : Relation.ReflTransGen (QueueMove env) s.ingestion (callIngestion x env call s).1.ingestion :=
      callIngestion_moves valid unlimited fun new limits' same => enqueues ⟨new, limits', same⟩
    exact .keeps (queueMoves_ledger moves).1 (queueMoves_ledger moves).2

theorem ledger_accept {t : IngestionTables} (valid : IngestionIntegrity x t) {new : NewDocument}
    (jobFresh : t.jobs[env.uuid 0]? = none) (documentFresh : t.documents[env.uuid 1]? = none) :
    (t.accept x env new).ledger.Perm
      (((new.organizationId, new.workspaceId), new.content.utf8ByteSize) :: t.ledger) := by
  have perm := (Table.rows_insert_perm (a := newDocument x env new) documentFresh).map
    (Document.charge (t.payloads.insert (env.uuid 0) ⟨new.content⟩))
  have first : Document.charge (t.payloads.insert (env.uuid 0) ⟨new.content⟩) (newDocument x env new) =
      ((new.organizationId, new.workspaceId), new.content.utf8ByteSize) := by
    simp [Document.charge, newDocument]
  have others : (Table.rows t.documents).map (Document.charge (t.payloads.insert (env.uuid 0) ⟨new.content⟩)) =
      t.ledger := by
    apply List.map_congr_left
    intro document member
    obtain ⟨id, stored⟩ := Table.mem_rows.mp member
    obtain ⟨job, jobFound, _⟩ := valid.job stored
    have apart : env.uuid 0 ≠ document.ingestionJobId := by
      intro same
      rw [← same, jobFresh] at jobFound
      cases jobFound
    rw [Document.charge, Document.charge, Table.find_insert_ne apart]
  rw [List.map_cons, first, others] at perm
  exact perm

theorem enforceMemoryLimits_room {bytes : Nat}
    (room : enforceMemoryLimits organizationId workspaceId limits s bytes = .ok ()) :
    s.knowledge.ledger.count (organizationId, workspaceId) < limits.maxMemories ∧
      s.knowledge.ledger.total (organizationId, workspaceId) + bytes ≤ limits.maxMemoryBytes := by
  obtain ⟨usage, read, room⟩ := bind_eq_ok.mp room
  obtain ⟨_, few, room⟩ := bind_eq_ok.mp room
  rw [ensure_eq_ok] at few room
  obtain ⟨count, total, _⟩ := workspaceUsage_ok read
  rw [count] at few
  rw [total] at room
  exact ⟨few, room.2⟩

theorem enforceDocumentLimits_room {bytes : Nat}
    (room : enforceDocumentLimits organizationId workspaceId limits s bytes = .ok ()) :
    bytes ≤ limits.maxDocumentBytes ∧ s.ingestion.ledger.count (organizationId, workspaceId) < limits.maxDocuments ∧
      s.ingestion.ledger.total (organizationId, workspaceId) + bytes ≤ limits.maxIngestionBytes := by
  obtain ⟨_, small, room⟩ := bind_eq_ok.mp room
  obtain ⟨usage, read, room⟩ := bind_eq_ok.mp room
  obtain ⟨_, few, room⟩ := bind_eq_ok.mp room
  rw [ensure_eq_ok] at small few room
  obtain ⟨_, _, count, total⟩ := workspaceUsage_ok read
  rw [count] at few
  rw [total] at room
  exact ⟨small, few, room⟩

theorem Step.quotas {server server' : Server} {event : Event} (taken : Step x engines server event server')
    (valid : IngestionIntegrity x server.store.ingestion) (limited : event.op.Limited limits)
    (holds : QuotasHold limits server.store) : QuotasHold limits server'.store := by
  have next : server'.store = (callStore x engines event.env event.op server.store).1 := by
    rw [taken.next]
    rfl
  have charged : MemoriesCharged event.env limits server.store server'.store := by
    rw [next]
    by_cases own : ∃ call, event.op = .knowledge call
    · obtain ⟨call, same⟩ := own
      rw [same] at limited ⊢
      exact callKnowledge_charged limited
    · apply MemoriesCharged.keeps
      rw [callStore_knowledge fun call same => own ⟨call, same⟩]
  have charged' : DocumentsCharged x event.env limits server.store server'.store := by
    rw [next]
    by_cases own : ∃ call, event.op = .ingestion call
    · obtain ⟨call, same⟩ := own
      rw [same] at limited ⊢
      exact callIngestion_charged valid limited
    · apply DocumentsCharged.keeps <;> rw [callStore_ingestion fun call same => own ⟨call, same⟩]
  have memories : server'.store.knowledge.ledger.Within limits.maxMemories limits.maxMemoryBytes := by
    cases charged with
    | keeps same =>
      rw [same]
      exact holds.memories
    | admits memory room memories =>
      have fits := enforceMemoryLimits_room room
      have perm := (Table.rows_insert_perm (a := memory) (taken.fresh.memory_unused 0)).map Memory.charge
      rw [← memories, List.map_cons] at perm
      exact (holds.memories.charge fits.1 fits.2).perm perm.symm
  cases charged' with
  | keeps ledger payloads =>
    refine ⟨memories, ?_, ?_⟩
    · rw [ledger]
      exact holds.documents
    · rw [payloads]
      exact holds.payload
  | admits new room accepted =>
    have fits := enforceDocumentLimits_room room
    refine ⟨memories, ?_, ?_⟩
    · rw [accepted]
      have perm : (server.store.ingestion.accept x event.env new).ledger.Perm
          (((new.organizationId, new.workspaceId), new.content.utf8ByteSize) :: server.store.ingestion.ledger) :=
        ledger_accept valid (taken.fresh.job_unused 0) (taken.fresh.document_unused 1)
      exact (holds.documents.charge fits.2.1 fits.2.2).perm perm.symm
    · intro id payload found
      rw [accepted] at found
      simp only [IngestionTables.accept, Table.find_insert] at found
      split at found
      · cases found
        exact fits.1
      · exact holds.payload id payload found

/-- A valid request is a replay exactly when one of its lookups finds a job. -/
theorem NewDocument.replays_iff_deduplicated {new : NewDocument} (valid : IngestionIntegrity x s.ingestion)
    (accepted : new.validate = .ok ()) :
    documentIsDeduplicated x s new = true ↔ new.Replays x env s := by
  rw [documentIsDeduplicated_eq, Option.isSome_iff_exists]
  constructor
  · rintro ⟨id, existing⟩
    obtain ⟨job, jobFound⟩ := existingJobId_found valid existing
    obtain ⟨document, documentFound, _⟩ := valid.document jobFound
    refine ⟨⟨document, job, true⟩, rfl, ?_⟩
    unfold enqueueDocument
    rw [bind_of_ok accepted, existing]
    dsimp only
    rw [bind_of_ok (context_eq_ok.mpr jobFound), bind_of_ok (context_eq_ok.mpr documentFound)]
    rfl
  · rintro ⟨receipt, deduplicated, run⟩
    obtain ⟨_, ⟨id, _, _, existing, _⟩ | ⟨_, _, _, rfl⟩⟩ := enqueueDocument_ok run
    · exact ⟨id, existing⟩
    · cases deduplicated

/-- Limits that admit no document refuse every request but a replay. -/
theorem NewDocument.skipsQuota_iff_deduplicated {new : NewDocument} (accepted : new.validate = .ok ()) :
    new.SkipsQuota x env s ↔ documentIsDeduplicated x s new = true := by
  constructor
  · intro skips
    by_contra fresh
    have absent : existingJobId x s.ingestion new = none := by
      rw [documentIsDeduplicated_eq] at fresh
      simpa using fresh
    have inserts : ∃ result, enqueueDocument x env s new = .ok result := by
      unfold enqueueDocument
      rw [bind_of_ok accepted, absent]
      exact ⟨_, rfl⟩
    obtain ⟨result, inserts⟩ := inserts
    have limited := skips ⟨0, 0, 0, 0, 0, 0, 0⟩
    rw [inserts] at limited
    unfold enqueueDocumentWithLimits at limited
    rw [Bool.not_eq_true] at fresh
    rw [fresh] at limited
    obtain ⟨_, room, _⟩ := bind_eq_ok.mp limited
    have few := (enforceDocumentLimits_room room).2.1
    exact absurd few (Nat.not_lt_zero _)
  · intro deduplicated limits
    unfold enqueueDocumentWithLimits
    rw [deduplicated]
    rfl

/-- Where memories and documents come only through the methods that enforce the limits, no workspace ever exceeds
    them, and the quota check on a document is skipped exactly for replays, which change nothing. -/
theorem quotas_hold {provider : EmbeddingProvider} {trace : List (Server × Event)} {server : Server}
    (run : Run (Step x engines) (Server.initial provider) trace server)
    (limited : ∀ p ∈ trace, p.2.op.Limited limits) :
    server.store.WithinLimits limits ∧ ∀ env new, new.validate = .ok () →
      (documentIsDeduplicated x server.store new = true ↔ new.Replays x env server.store) ∧
        (new.SkipsQuota x env server.store ↔ new.Replays x env server.store) := by
  have reachable : Reachable x engines server := ⟨provider, trace, run⟩
  constructor
  · have initial : QuotasHold limits (Server.initial provider).store :=
      ⟨.empty, .empty, fun id payload found => by simp [Server.initial, Store.empty] at found⟩
    have holds : QuotasHold limits server.store ∧ IngestionIntegrity x server.store.ingestion := by
      apply run.preserves (I := fun server => QuotasHold limits server.store ∧ IngestionIntegrity x server.store.ingestion)
      · exact ⟨initial, .empty⟩
      · intro p member server' before taken
        exact ⟨taken.quotas before.2 (limited p member) before.1, taken.integrity before.2⟩
    exact holds.1.withinLimits holds.2
  · intro env new accepted
    have replays : documentIsDeduplicated x server.store new = true ↔ new.Replays x env server.store :=
      NewDocument.replays_iff_deduplicated reachable.integrity accepted
    exact ⟨replays, (NewDocument.skipsQuota_iff_deduplicated accepted).trans replays⟩

def smallLimits : WorkspaceLimits where
  maxDocumentBytes := 5
  maxDocuments := 1
  maxIngestionBytes := 5
  maxBlobBytes := 0
  maxBlobsBytes := 0
  maxMemories := 1
  maxMemoryBytes := 5

/-- A promotion, a document and its replay fill a workspace; a second memory is refused. -/
def fillingCalls : List (Nat × Op) :=
  [(1, .knowledge (.createWorkingSession ⟨"acme", "lab", Uuid.nil, none⟩)),
    (2, .knowledge (.appendWorkingMemory "acme" "lab" Uuid.nil (serialUuid 0) ⟨.note, "alpha", Uuid.nil⟩)),
    (3, .knowledge (.promoteWorkingMemoryWithLimits "acme" "lab" Uuid.nil (serialUuid 0) (serialUuid 16) ⟨none, 1, none⟩
      smallLimits)),
    (4, .knowledge (.createMemoryWithLimits ⟨"acme", "lab", "beta", none, Uuid.nil, 1, none, .direct⟩ smallLimits)),
    (5, .ingestion (.enqueueDocumentWithLimits (sampleDocument "acme" "lab" "alpha" none) smallLimits)),
    (6, .ingestion (.enqueueDocumentWithLimits (sampleDocument "acme" "lab" "alpha" none) smallLimits))]

theorem quotas_hold_filled :
    (freshRun sample noHits fillingCalls).store.knowledge.memories.size = 1 ∧
      (freshRun sample noHits fillingCalls).store.WithinLimits smallLimits ∧
        (sampleDocument "acme" "lab" "alpha" none).SkipsQuota sample (serialEnv 7 96)
          (freshRun sample noHits fillingCalls).store := by
  have legal : SerialLegal sample noHits (Server.initial .hashingV1) 0 fillingCalls := by decide +kernel
  have limited : ∀ p ∈ serialTrace sample noHits (Server.initial .hashingV1) 0 fillingCalls,
      p.2.op.Limited smallLimits := by
    intro p member
    obtain ⟨call, listed, same⟩ := mem_serialTrace member
    rw [same]
    simp only [fillingCalls, List.mem_cons, List.not_mem_nil, or_false] at listed
    rcases listed with rfl | rfl | rfl | rfl | rfl | rfl
    all_goals simp [Op.Limited]
  have accepted : (sampleDocument "acme" "lab" "alpha" none).validate = .ok () := by decide +kernel
  have holds := quotas_hold (serialRun_run legal) limited
  have request := holds.2 (serialEnv 7 96) _ accepted
  have stored : documentIsDeduplicated sample (freshRun sample noHits fillingCalls).store
      (sampleDocument "acme" "lab" "alpha" none) = true := by decide +kernel
  refine ⟨by decide +kernel, holds.1, ?_⟩
  exact request.2.mpr (request.1.mp stored)

end Hangar
