import Hangar.Ingestion.Integrity
import Hangar.Projection.Frames

namespace Hangar

open Lib

variable {x : Externals} {engines : SearchEngines} {env : Env} {fault : Option Fault} {s s' : Store}
  {t : IngestionTables} {claimed : ClaimedIngestionJob}

theorem requeue_moves (valid : IngestionIntegrity x t) {candidates : List (Uuid × IngestionJob)}
    (distinct : (candidates.map Prod.fst).Nodup)
    (stored : ∀ entry ∈ candidates, t.jobs[entry.1]? = some entry.2 ∧ entry.2.status = .processing)
    {documents : Table Uuid Document}
    (run : candidates.foldlM (fun (documents : Table Uuid Document) entry => do
      let document ← found documents[entry.2.documentId]? "ingestion document not found"
      return documents.insert entry.2.documentId { document with ingestionStatus := .queued }) t.documents =
        .ok documents) :
    Relation.ReflTransGen (QueueMove env) t { t with
      jobs := Table.insertAll t.jobs (candidates.map fun entry => (entry.1, entry.2.requeue env))
      documents := documents } := by
  induction candidates generalizing t with
  | nil =>
    cases run
    exact .refl
  | cons entry candidates ih =>
    rw [List.foldlM_cons] at run
    obtain ⟨middle, first, rest⟩ := bind_eq_ok.mp run
    obtain ⟨document, documentFound, first⟩ := bind_eq_ok.mp first
    rw [context_eq_ok] at documentFound
    cases first
    obtain ⟨jobFound, processing⟩ := stored entry List.mem_cons_self
    rw [List.map_cons, List.nodup_cons] at distinct
    have move := QueueMove.write jobFound documentFound (@Advance.requeue env _ document processing)
    refine .head move (ih (valid.move move) distinct.2 ?_ rest)
    intro other member
    obtain ⟨otherFound, otherProcessing⟩ := stored other (List.mem_cons_of_mem _ member)
    refine ⟨?_, otherProcessing⟩
    have apart : entry.1 ≠ other.1 := fun same => distinct.1 (same ▸ List.mem_map_of_mem member)
    rw [Table.find_insert_ne apart, otherFound]

theorem recoverIncompleteIngestionJobs_ok (valid : IngestionIntegrity x s.ingestion) {recovered : Nat}
    (run : recoverIncompleteIngestionJobs env s = .ok (s', recovered)) :
    Relation.ReflTransGen (QueueMove env) s.ingestion s'.ingestion ∧
      s' = { s with ingestion := s'.ingestion } := by
  unfold recoverIncompleteIngestionJobs at run
  obtain ⟨documents, loop, run⟩ := bind_eq_ok.mp run
  cases run
  refine ⟨requeue_moves valid Table.nodup_keys_filter ?_ loop, rfl⟩
  intro entry member
  obtain ⟨stored, processing⟩ := List.mem_filter.mp member
  rw [Std.ExtTreeMap.mem_toList_iff_getElem?_eq_some] at stored
  exact ⟨stored, by simpa using processing⟩

theorem AnnAllocation.allocate_vectors {scope : String} {a a' : AnnAllocation} {chunk : DocumentChunk}
    (run : a.allocate scope chunk = .ok a') : a'.vectors.map Prod.fst = a.vectors.map Prod.fst ++ [chunk] := by
  obtain ⟨annKey, _, run⟩ := bind_eq_ok.mp run
  obtain ⟨_, _, run⟩ := bind_eq_ok.mp run
  obtain ⟨_, _, run⟩ := bind_eq_ok.mp run
  cases run
  simp

theorem AnnAllocation.foldlM_vectors {scope : String} {a a' : AnnAllocation} {chunks : List DocumentChunk}
    (run : chunks.foldlM (AnnAllocation.allocate scope) a = .ok a') :
    a'.vectors.map Prod.fst = a.vectors.map Prod.fst ++ chunks := by
  induction chunks generalizing a with
  | nil =>
    cases run
    simp
  | cons chunk chunks ih =>
    rw [List.foldlM_cons] at run
    obtain ⟨middle, first, rest⟩ := bind_eq_ok.mp run
    rw [ih rest, AnnAllocation.allocate_vectors first, List.append_assoc, List.singleton_append]

theorem prepareProjection_ok {profile : EmbeddingProfile} {document : Document} {chunks : List DocumentChunk}
    {t t' : ProjectionTables} {vectors : List (DocumentChunk × Nat)}
    (run : prepareProjection x env profile document chunks t = .ok (t', vectors)) :
    vectors.map Prod.fst = chunks ∧ t' = { t with
      chunks := Table.insertAll t.chunks (chunks.map fun chunk => ((document.id, chunk.ordinal), chunk))
      vectorChunks := t'.vectorChunks
      vectorNextKeys := t'.vectorNextKeys
      vectorManifests := Table.insertAll t.vectorManifests (vectors.map fun vector =>
        (vector.1.id, pendingVectorManifest x env profile document vector))
      textManifests := Table.insertAll t.textManifests (chunks.map fun chunk =>
        (chunk.id, pendingTextManifest x env document chunk))
      graphManifests := Table.insertAll t.graphManifests (chunks.map fun chunk =>
        (chunk.id, pendingGraphManifest x env document chunk)) } := by
  obtain ⟨allocated, loop, run⟩ := bind_eq_ok.mp run
  cases run
  have listed := AnnAllocation.foldlM_vectors loop
  exact ⟨listed, rfl⟩

theorem completeProjection_ok {prepared : PreparedIngestion} {t t' : ProjectionTables}
    (run : completeProjection x env prepared t = .ok t') :
    markReady "vector manifest not found" (VectorManifest.ready env) (prepared.vectors.map Prod.fst)
        t.vectorManifests = .ok t'.vectorManifests ∧
      markReady "text manifest not found" (TextManifest.ready env) prepared.chunks t.textManifests =
        .ok t'.textManifests ∧
      materializeGraphChunks x env prepared.document.organizationId prepared.document.workspaceId t.graph
        prepared.chunks = .ok t'.graph ∧
      markReady "graph manifest not found" (GraphManifest.ready env) prepared.chunks t.graphManifests =
        .ok t'.graphManifests ∧
      t' = { t with
        vectorManifests := t'.vectorManifests
        textManifests := t'.textManifests
        graph := t'.graph
        graphManifests := t'.graphManifests } := by
  obtain ⟨vectorManifests, vectors, run⟩ := bind_eq_ok.mp run
  obtain ⟨textManifests, texts, run⟩ := bind_eq_ok.mp run
  obtain ⟨graph, materialized, run⟩ := bind_eq_ok.mp run
  obtain ⟨graphManifests, graphs, run⟩ := bind_eq_ok.mp run
  cases run
  exact ⟨vectors, texts, materialized, graphs, rfl⟩

theorem prepareIngestion_ok {prepared : PreparedIngestion}
    (run : prepareIngestion x env claimed s = .ok (s', prepared)) :
    ∃ job document projection vectors,
      chunkText claimed.content maximumChunkChars ≠ [] ∧
      s.ingestion.jobs[claimed.job.id]? = some job ∧ job.status = .processing ∧
      s.ingestion.documents[claimed.job.documentId]? = some document ∧ document.ingestionJobId = job.id ∧
      prepareProjection x env s.embeddingProvider.profile document
        (newChunks env document.id (chunkText claimed.content maximumChunkChars)) s.projection =
          .ok (projection, vectors) ∧
      s' = { s with projection := projection } ∧
      prepared = ⟨claimed.job.id, claimed.job.documentId, job, document,
        newChunks env document.id (chunkText claimed.content maximumChunkChars), vectors⟩ := by
  unfold prepareIngestion at run
  obtain ⟨_, some, run⟩ := bind_eq_ok.mp run
  obtain ⟨job, jobFound, run⟩ := bind_eq_ok.mp run
  obtain ⟨_, processing, run⟩ := bind_eq_ok.mp run
  obtain ⟨document, documentFound, run⟩ := bind_eq_ok.mp run
  obtain ⟨_, matched, run⟩ := bind_eq_ok.mp run
  obtain ⟨projected, projection, run⟩ := bind_eq_ok.mp run
  rw [context_eq_ok] at jobFound documentFound
  rw [ensure_eq_ok] at some processing matched
  cases run
  exact ⟨job, document, projected.1, projected.2, some, jobFound, processing, documentFound, matched, projection,
    rfl, rfl⟩

theorem completeIngestion_ok {prepared : PreparedIngestion} {generation : String} {job : IngestionJob}
    (run : completeIngestion x env prepared generation s = .ok (s', job)) :
    ∃ projection, completeProjection x env prepared s.projection = .ok projection ∧
      job = prepared.job.succeed env ∧
      s' = { insertActiveTextGeneration x env prepared.document.organizationId prepared.document.workspaceId
          generation { s with projection := projection } with
        ingestion := { s.ingestion with
          documents := s.ingestion.documents.insert prepared.documentKey
            (prepared.document.succeed prepared.chunks.length)
          jobs := s.ingestion.jobs.insert prepared.jobKey job }
        journal := s'.journal } := by
  unfold completeIngestion at run
  obtain ⟨projection, completed, run⟩ := bind_eq_ok.mp run
  cases run
  exact ⟨projection, completed, rfl, rfl⟩

/-- What an attempt to process a claim leaves in the tables: nothing, the first transaction, or
    both. -/
inductive ProcessEffect (x : Externals) (env : Env) (claimed : ClaimedIngestionJob) (s s' : Store) : Prop where
  | none (same : s'.records = s.records)
  | prepared {s₁ : Store} {prepared : PreparedIngestion}
      (first : prepareIngestion x env claimed s = .ok (s₁, prepared)) (same : s'.records = s₁.records)
  | completed {s₁ s₂ s₃ : Store} {prepared : PreparedIngestion} {generation : Uuid} {job : IngestionJob}
      (first : prepareIngestion x env claimed s = .ok (s₁, prepared)) (between : s₂.records = s₁.records)
      (second : completeIngestion x env prepared generation.text s₂ = .ok (s₃, job))
      (same : s'.records = s₃.records)

theorem publishTextGenerationWithPending_named {organizationId workspaceId : String} {generation : Uuid}
    {pendingEntries : List TextEntry} :
    Program.Triple (publishTextGenerationWithPending x fault organizationId workspaceId generation pendingEntries) s
      (fun name s' => name = generation.text ∧ s'.records = s.records) (fun _ s' => s'.records = s.records) := by
  refine (Program.Frames.query.triple).bind fun _ s₁ first => ?_
  refine (WorkspaceTextIndex.publishGeneration_frames.triple.weaken (fun _ _ same => same.trans first)
    fun _ _ same => same.trans first).bind fun _ s₂ second => ?_
  exact .pure ⟨rfl, second⟩

theorem processClaimedIngestionJob_effect :
    ProcessEffect x env claimed s (processClaimedIngestionJob x env fault claimed s).1 := by
  refine Program.Triple.state (ProcessEffect x env claimed s) ?_
  unfold processClaimedIngestionJob
  have first : Program.Triple (Program.transaction (prepareIngestion x env claimed)) s
      (fun prepared s₁ => prepareIngestion x env claimed s = .ok (s₁, prepared))
      (fun _ s' => ProcessEffect x env claimed s s') :=
    Program.Triple.transaction (fun _ _ run => run) (fun _ _ => .none rfl)
  refine first.bind fun prepared s₁ first => ?_
  have quiet {α : Type} {p : Call α} (kept : Program.Frames Store.records p) {s₂ : Store}
      (between : s₂.records = s₁.records) : Program.Triple p s₂ (fun _ s' => s'.records = s₁.records)
        (fun _ s' => ProcessEffect x env claimed s s') :=
    kept.triple.weaken (fun _ _ same => same.trans between) fun _ _ same => .prepared first (same.trans between)
  refine (quiet stopAt_frames rfl).bind fun _ s₂ between => ?_
  refine (quiet Program.Frames.query between).bind fun _ s₂ between => ?_
  refine (quiet publishGenerationWithPending_frames between).bind fun _ s₂ between => ?_
  have published : Program.Triple (publishTextGenerationWithPending x fault prepared.document.organizationId
      prepared.document.workspaceId (env.uuid prepared.chunks.length) (pendingTextEntries prepared)) s₂
      (fun name s' => name = (env.uuid prepared.chunks.length).text ∧ s'.records = s₁.records)
      (fun _ s' => ProcessEffect x env claimed s s') :=
    publishTextGenerationWithPending_named.weaken (fun _ _ done => ⟨done.1, done.2.trans between⟩)
      fun _ _ same => .prepared first (same.trans between)
  refine published.bind fun name s₂ ⟨named, between⟩ => ?_
  subst named
  generalize env.uuid prepared.chunks.length = generation
  have second : Program.Triple (Program.transaction (completeIngestion x env prepared generation.text)) s₂
      (fun _ s₃ => ∃ job, completeIngestion x env prepared generation.text s₂ = .ok (s₃, job))
      (fun _ s' => ProcessEffect x env claimed s s') :=
    Program.Triple.transaction (fun _ _ run => ⟨_, run⟩) (fun _ _ => .prepared first between)
  refine second.bind fun _ s₃ ⟨job, second⟩ => ?_
  have done {α : Type} {p : Call α} (kept : Program.Frames Store.records p) {s₄ : Store}
      (after : s₄.records = s₃.records) : Program.Triple p s₄ (fun _ s' => s'.records = s₃.records)
        (fun _ s' => ProcessEffect x env claimed s s') :=
    kept.triple.weaken (fun _ _ same => same.trans after) fun _ _ same =>
      .completed first between second (same.trans after)
  refine (done stopAt_frames rfl).bind fun _ s₄ after => ?_
  refine (done cleanupTextGenerations_frames.attempt after).bind fun _ s₄ after => ?_
  exact .pure (.completed first between second after)

/-- An attempt to process a claim leaves the queue alone or completes a job that is processing. -/
theorem processClaimedIngestionJob_ingestion (valid : IngestionIntegrity x s.ingestion) :
    (processClaimedIngestionJob x env fault claimed s).1.ingestion = s.ingestion ∨
      ∃ key job document chunkCount, s.ingestion.jobs[key]? = some job ∧ job.status = .processing ∧
        s.ingestion.documents[job.documentId]? = some document ∧
        (processClaimedIngestionJob x env fault claimed s).1.ingestion = { s.ingestion with
          jobs := s.ingestion.jobs.insert key (job.succeed env)
          documents := s.ingestion.documents.insert job.documentId (document.succeed chunkCount) } := by
  cases @processClaimedIngestionJob_effect x env fault s claimed with
  | none same => exact .inl (Store.ingestion_of_records same)
  | prepared first same =>
    obtain ⟨job, document, projection, vectors, _, _, _, _, _, _, rfl, _⟩ := prepareIngestion_ok first
    have unwritten := Store.ingestion_of_records same
    exact .inl unwritten
  | completed first between second same =>
    obtain ⟨job, document, projection, vectors, _, jobFound, processing, documentFound, matched, _, rfl, rfl⟩ :=
      prepareIngestion_ok first
    obtain ⟨_, _, rfl, written⟩ := completeIngestion_ok second
    have owned := valid.documentId_of_job jobFound documentFound matched
    rw [← owned] at documentFound written
    have replaced := Store.ingestion_of_records same
    rw [written, Store.ingestion_of_records between] at replaced
    exact .inr ⟨_, job, document, _, jobFound, processing, documentFound, replaced⟩

theorem processClaimedIngestionJob_moves (valid : IngestionIntegrity x s.ingestion) :
    Relation.ReflTransGen (QueueMove env) s.ingestion
      (processClaimedIngestionJob x env fault claimed s).1.ingestion := by
  rcases @processClaimedIngestionJob_ingestion x env fault s claimed valid with
    same | ⟨key, job, document, chunkCount, jobFound, processing, documentFound, written⟩
  · rw [same]
  · rw [written]
    exact .single (.write jobFound documentFound (.succeed processing chunkCount))

theorem callIngestion_moves (valid : IngestionIntegrity x s.ingestion) {op : IngestionOp}
    (other : ∀ new, op ≠ .enqueueDocument new) (limited : ∀ new limits, op ≠ .enqueueDocumentWithLimits new limits) :
    Relation.ReflTransGen (QueueMove env) s.ingestion (callIngestion x env op s).1.ingestion := by
  have transaction {α : Type} {f : Store → Result (Store × α)}
      (moves : ∀ s' a, f s = .ok (s', a) → Relation.ReflTransGen (QueueMove env) s.ingestion s'.ingestion) :
      Relation.ReflTransGen (QueueMove env) s.ingestion
        ((do let _ ← Program.transaction f : Call Unit) s).1.ingestion := by
    apply Program.Triple.state fun s' : Store => Relation.ReflTransGen (QueueMove env) s.ingestion s'.ingestion
    refine Program.Triple.bind ?_ fun _ _ taken => Program.Triple.pure taken
    exact Program.Triple.transaction (fun a s' => moves s' a) fun _ _ => .refl
  cases op with
  | enqueueDocument new => exact absurd rfl (other new)
  | enqueueDocumentWithLimits new limits => exact absurd rfl (limited new limits)
  | recoverIncompleteIngestionJobs =>
    apply transaction
    intro s' recovered run
    exact (recoverIncompleteIngestionJobs_ok valid run).1
  | claimNextIngestionJob =>
    apply transaction
    intro s' claimed run
    obtain ⟨rfl, _⟩ | ⟨key, job, document, _, jobFound, eligible, documentFound, _, _, rfl⟩ :=
      claimNextIngestionJob_ok run
    · exact .refl
    · exact .single (.write jobFound documentFound (.lease eligible))
  | processClaimedIngestionJob claimed fault =>
    apply Program.Triple.state fun s' : Store => Relation.ReflTransGen (QueueMove env) s.ingestion s'.ingestion
    have taken := @processClaimedIngestionJob_moves x env fault s claimed valid
    exact (Program.Triple.of_state taken).bind fun _ _ taken => Program.Triple.pure taken
  | failClaimedIngestionJob jobId error =>
    apply transaction
    intro s' job run
    obtain ⟨job, document, jobFound, processing, documentFound, rfl, written⟩ := failClaimedIngestionJob_ok run
    have placed : s'.ingestion = { s.ingestion with
        jobs := s.ingestion.jobs.insert jobId (job.fail env error)
        documents := s.ingestion.documents.insert job.documentId
          { document with ingestionStatus := (job.fail env error).status } } := by
      rw [written, ← valid.documentId documentFound]
    rw [placed]
    exact .single (.write jobFound documentFound (.fail processing error))
  | retryDeadLetterIngestionJob id organizationId workspaceId =>
    apply transaction
    intro s' result run
    obtain ⟨rfl, _⟩ | ⟨job, document, jobFound, dead, documentFound, _, rfl⟩ := retryDeadLetterIngestionJob_ok run
    · exact .refl
    · exact .single (.write jobFound documentFound (.restart dead))

theorem callIngestion_step (valid : IngestionIntegrity x s.ingestion) {op : IngestionOp} :
    QueueStep x env s.ingestion (callIngestion x env op s).1.ingestion := by
  have enqueue {new : NewDocument} {f : Store → Result (Store × IngestionReceipt)}
      (same : ∀ result, f s = .ok result → enqueueDocument x env s new = .ok result) :
      QueueStep x env s.ingestion ((do let _ ← Program.transaction f : Call Unit) s).1.ingestion := by
    apply Program.Triple.state fun s' : Store => QueueStep x env s.ingestion s'.ingestion
    refine Program.Triple.bind ?_ fun _ _ taken => Program.Triple.pure taken
    apply Program.Triple.transaction
    · intro receipt s' run
      obtain ⟨accepted, ⟨_, _, _, _, _, _, rfl, _⟩ | ⟨absent, written, _⟩⟩ := enqueueDocument_ok (same _ run)
      · exact .idle
      · rw [written]
        exact .accept new accepted absent
    · exact fun _ _ => .idle
  by_cases plain : ∃ new, op = .enqueueDocument new
  · obtain ⟨new, rfl⟩ := plain
    exact enqueue fun _ run => run
  · by_cases bounded : ∃ new limits, op = .enqueueDocumentWithLimits new limits
    · obtain ⟨new, limits, rfl⟩ := bounded
      exact enqueue fun _ run => enqueueDocumentWithLimits_ok run
    · apply QueueStep.moves
      apply callIngestion_moves valid
      · exact fun new same => plain ⟨new, same⟩
      · exact fun new limits same => bounded ⟨new, limits, same⟩

end Hangar
