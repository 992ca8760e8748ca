import Hangar.Reachability

namespace Hangar

open Lib

variable {x : Externals} {engines : SearchEngines} {env : Env} {fault : Option Fault} {s s' : Store}

/-- How one transaction of a projection call changes the tables of ingestion and projections. -/
inductive Reprojection (x : Externals) (env : Env) (s s' : Store) : Prop where
  | keep (ingestion : s'.ingestion = s.ingestion) (projection : s'.projection = s.projection)
  | graph (organizationId workspaceId : String) (graph : GraphTables)
      (built : materializeGraphChunks x env organizationId workspaceId
        (clearGraphWorkspace x organizationId workspaceId s.projection.graph)
        (readyGraphChunks x organizationId workspaceId s) = .ok graph)
      (ingestion : s'.ingestion = s.ingestion)
      (projection : s'.projection = { s.projection with graph := graph })
  | activate (organizationId workspaceId : String) (generation : Uuid)
      (ingestion : s'.ingestion = s.ingestion)
      (projection : s'.projection =
        (insertActiveTextGeneration x env organizationId workspaceId generation.text s).projection)

theorem Reprojection.ingestion_eq (step : Reprojection x env s s') : s'.ingestion = s.ingestion := by
  cases step with
  | keep ingestion => exact ingestion
  | graph _ _ _ _ ingestion => exact ingestion
  | activate _ _ _ ingestion => exact ingestion

section
variable {organizationId workspaceId : String} {α : Type} {p : Call α}

theorem records_moves (kept : Program.Frames Store.records p) : Program.Moves (Reprojection x env) p := by
  apply kept.moves
  intro s s' same
  exact .keep (Store.ingestion_of_records same) (Store.projection_of_records same)

theorem rebuildTextWorkspace_moves {generation : Uuid} : Program.Moves (Reprojection x env)
    (rebuildTextWorkspace x env fault organizationId workspaceId generation) := by
  apply Program.Moves.query.bind
  intro entries
  apply (records_moves WorkspaceTextIndex.publishGeneration_frames).bind
  intro _
  have activated : Program.Moves (Reprojection x env) (Program.transaction fun s =>
      (.ok (insertActiveTextGeneration x env organizationId workspaceId generation.text s, ()) :
        Result (Store × Unit))) := by
    apply Program.Moves.transaction
    intro s s' _ run
    cases run
    exact .activate organizationId workspaceId generation rfl rfl
  apply activated.bind
  intro _
  apply (records_moves stopAt_frames).bind
  intro _
  exact (records_moves cleanupTextGenerations_frames).bind fun _ => Program.Moves.pure

theorem rebuildGraphWorkspace_moves : Program.Moves (Reprojection x env)
    (rebuildGraphWorkspace x env organizationId workspaceId) := by
  apply Program.Moves.transaction
  intro s s' _ run
  obtain ⟨graph, built, same⟩ := rebuildGraph_ok run
  rw [show s' = _ from same]
  exact .graph organizationId workspaceId graph built rfl rfl

theorem auditSystem_moves {id : Uuid} {action : String} : Program.Moves (Reprojection x env)
    (auditSystem env organizationId workspaceId id action) := by
  apply Program.Moves.transaction
  intro s s' _ run
  cases run
  exact .keep rfl rfl

end

theorem reconcileScopes_moves {R : Store → Store → Prop} {kind : String} {rebuild : Nat → String → String → Call Nat}
    {auditId : Nat → Nat} {scopes : List (String × String)}
    (rebuilt : ∀ i organizationId workspaceId, Program.Moves R (rebuild i organizationId workspaceId))
    (audited : ∀ organizationId workspaceId id action,
      Program.Moves R (auditSystem env organizationId workspaceId id action)) :
    Program.Moves R (reconcileScopes env kind rebuild auditId scopes) := by
  apply Program.Moves.forM
  intro turn
  apply (rebuilt _ _ _).attempt.bind
  intro outcome
  cases outcome with
  | ok _ => exact audited _ _ _ _
  | error e => exact (audited _ _ _ _).attempt.bind fun _ => Program.Moves.fail

theorem callProjection_moves {op : ProjectionOp} :
    Program.Moves (Reprojection x env) (callProjection x env op) := by
  cases op with
  | rebuildVectorWorkspace organizationId workspaceId fault =>
    exact (records_moves rebuildVectorWorkspace_frames).bind fun _ => Program.Moves.pure
  | rebuildTextWorkspace organizationId workspaceId fault =>
    exact rebuildTextWorkspace_moves.bind fun _ => Program.Moves.pure
  | rebuildGraphWorkspace organizationId workspaceId =>
    exact rebuildGraphWorkspace_moves.bind fun _ => Program.Moves.pure
  | reconcileVectorProjection faults =>
    refine Program.Moves.bind ?_ fun _ => Program.Moves.pure
    apply (records_moves WorkspaceVectorIndex.removeStaleTemporaryFiles_frames).bind
    intro removed
    apply Program.Moves.query.bind
    intro scopes
    apply (reconcileScopes_moves _ fun _ _ _ _ => auditSystem_moves).bind fun _ => Program.Moves.pure
    intro i organizationId workspaceId
    exact records_moves rebuildVectorWorkspace_frames
  | reconcileTextProjection faults =>
    refine Program.Moves.bind ?_ fun _ => Program.Moves.pure
    apply Program.Moves.query.bind
    intro scopes
    apply (reconcileScopes_moves (fun _ _ _ => rebuildTextWorkspace_moves) fun _ _ _ _ => auditSystem_moves).bind
    intro _
    exact records_moves cleanupTextGenerations_frames
  | reconcileGraphProjection =>
    refine Program.Moves.bind ?_ fun _ => Program.Moves.pure
    apply Program.Moves.query.bind
    intro scopes
    apply (reconcileScopes_moves (fun _ _ _ => rebuildGraphWorkspace_moves) fun _ _ _ _ => auditSystem_moves).bind
    exact fun _ => Program.Moves.pure

def IngestionTables.Unfinished (t t' : IngestionTables) : Prop := ∀ {id : Uuid} {document : Document},
  t'.documents[id]? = some document → document.ingestionStatus = .succeeded → t.documents[id]? = some document

structure Store.Quiet (s s' : Store) : Prop where
  unfinished : s.ingestion.Unfinished s'.ingestion
  projection : s'.projection = s.projection

theorem Store.Quiet.refl : s.Quiet s := ⟨fun found _ => found, rfl⟩

theorem find_succeeded {documents : Table Uuid Document} {key id : Uuid} {written document : Document}
    (unfinished : written.ingestionStatus ≠ .succeeded) (found : (documents.insert key written)[id]? = some document)
    (succeeded : document.ingestionStatus = .succeeded) : documents[id]? = some document := by
  rw [Table.find_insert] at found
  split at found
  · cases found
    exact absurd succeeded unfinished
  · exact found

inductive CallEffect (x : Externals) (env : Env) (s : Store) : Op → Store → Prop where
  | process {claimed : ClaimedIngestionJob} {fault : Option Fault} {s' : Store}
      (effect : ProcessEffect x env claimed s s') :
      CallEffect x env s (.ingestion (.processClaimedIngestionJob claimed fault)) s'
  | project {op : Op} {s' : Store} (moves : Relation.ReflTransGen (Reprojection x env) s s') :
      CallEffect x env s op s'
  | queue {op : Op} {s' : Store} (step : QueueStep x env s.ingestion s'.ingestion) (quiet : s.Quiet s') :
      CallEffect x env s op s'

theorem CallEffect.idle {op : Op} (ingestion : s'.ingestion = s.ingestion)
    (projection : s'.projection = s.projection) : CallEffect x env s op s' :=
  .project (.single (.keep ingestion projection))

theorem enqueueDocument_quiet {new : NewDocument} {receipt : IngestionReceipt}
    (run : enqueueDocument x env s new = .ok (s', receipt)) :
    s.Quiet s' := by
  obtain ⟨_, ⟨_, _, _, _, _, _, rfl, _⟩ | ⟨_, written, same, _⟩⟩ := enqueueDocument_ok run
  · exact .refl
  · constructor
    · intro id document found
      rw [written] at found
      apply find_succeeded _ found
      simp [newDocument]
    · rw [same]

theorem recoverIncompleteIngestionJobs_quiet {recovered : Nat}
    (run : recoverIncompleteIngestionJobs env s = .ok (s', recovered)) :
    s.Quiet s' := by
  unfold recoverIncompleteIngestionJobs at run
  obtain ⟨documents, loop, run⟩ := bind_eq_ok.mp run
  cases run
  refine ⟨?_, rfl⟩
  intro id document
  apply foldlM_preserves (P := fun documents : Table Uuid Document => documents[id]? = some document →
    document.ingestionStatus = .succeeded → s.ingestion.documents[id]? = some document) _ _ loop
  · intro entry _ before after kept step found succeeded
    obtain ⟨stored, _, step⟩ := bind_eq_ok.mp step
    cases step
    exact kept (find_succeeded (by simp) found succeeded) succeeded
  · intro found _
    exact found

theorem callIngestion_quiet {op : IngestionOp}
    (other : ∀ claimed fault, op ≠ .processClaimedIngestionJob claimed fault) :
    s.Quiet (callIngestion x env op s).1 := by
  have transaction {α : Type} {f : Store → Result (Store × α)} (quiet : ∀ s' a, f s = .ok (s', a) → s.Quiet s') :
      s.Quiet ((do let _ ← Program.transaction f : Call Unit) s).1 := by
    apply Program.Triple.state s.Quiet
    refine Program.Triple.bind ?_ fun _ _ kept => Program.Triple.pure kept
    exact Program.Triple.transaction (fun a s' => quiet s' a) fun _ _ => .refl
  cases op with
  | enqueueDocument new => exact transaction fun s' receipt run => enqueueDocument_quiet run
  | enqueueDocumentWithLimits new limits =>
    exact transaction fun s' receipt run => enqueueDocument_quiet (enqueueDocumentWithLimits_ok run)
  | recoverIncompleteIngestionJobs =>
    exact transaction fun s' recovered run => recoverIncompleteIngestionJobs_quiet run
  | claimNextIngestionJob =>
    apply transaction
    intro s' claimed run
    obtain ⟨rfl, _⟩ | ⟨_, _, _, _, _, _, _, _, _, rfl⟩ := claimNextIngestionJob_ok run
    · exact .refl
    · exact ⟨find_succeeded (by simp), rfl⟩
  | processClaimedIngestionJob claimed fault => exact absurd rfl (other claimed fault)
  | failClaimedIngestionJob jobId error =>
    apply transaction
    intro s' job run
    obtain ⟨job, document, _, _, _, rfl, written⟩ := failClaimedIngestionJob_ok run
    rw [written]
    refine ⟨find_succeeded ?_, rfl⟩
    rcases @IngestionJob.fail_status env job error with dead | waits
    · simp [dead]
    · simp [waits]
  | retryDeadLetterIngestionJob id organizationId workspaceId =>
    apply transaction
    intro s' result run
    obtain ⟨rfl, _⟩ | ⟨_, _, _, _, _, _, rfl⟩ := retryDeadLetterIngestionJob_ok run
    · exact .refl
    · exact ⟨find_succeeded (by simp), rfl⟩

theorem callIngestion_effect (valid : IngestionIntegrity x s.ingestion) {op : IngestionOp} :
    CallEffect x env s (.ingestion op) (callIngestion x env op s).1 := by
  by_cases processes : ∃ claimed fault, op = .processClaimedIngestionJob claimed fault
  · obtain ⟨claimed, fault, rfl⟩ := processes
    apply CallEffect.process
    apply Program.Triple.state (ProcessEffect x env claimed s)
    refine Program.Triple.bind ?_ fun _ _ taken => Program.Triple.pure taken
    exact Program.Triple.of_state processClaimedIngestionJob_effect
  · apply CallEffect.queue (callIngestion_step valid)
    exact callIngestion_quiet fun claimed fault same => processes ⟨claimed, fault, same⟩

/-- Every call that is not an attempt at a job either moves the queue or reprojects. -/
theorem callStore_effect (valid : IngestionIntegrity x s.ingestion) {op : Op} :
    CallEffect x env s op (callStore x engines env op s).1 := by
  by_cases ingests : ∃ call, op = .ingestion call
  · obtain ⟨call, rfl⟩ := ingests
    exact callIngestion_effect valid
  by_cases projects : ∃ call, op = .projection call
  · obtain ⟨call, rfl⟩ := projects
    exact .project (callProjection_moves s)
  have quiet : ∀ call, op ≠ .ingestion call := fun call same => ingests ⟨call, same⟩
  exact .idle (callStore_ingestion quiet) (callStore_projection quiet fun call same => projects ⟨call, same⟩)

end Hangar
