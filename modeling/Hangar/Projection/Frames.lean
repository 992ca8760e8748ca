import Hangar.Server

namespace Hangar

open Lib

/-- The contents of `canonical.redb`. -/
def Store.records (s : Store) : Store := { s with index := ⟨∅, ∅⟩ }

def Store.withoutProjection (s : Store) : Store :=
  { s with
    projection := (Store.empty s.embeddingProvider).projection
    index := ⟨∅, ∅⟩
    journal := ⟨∅, ∅⟩ }

section
variable {s s' : Store} (same : s'.records = s.records)

include same

theorem Store.ingestion_of_records : s'.ingestion = s.ingestion := by
  have part := congrArg Store.ingestion same
  exact part

theorem Store.projection_of_records : s'.projection = s.projection := by
  have part := congrArg Store.projection same
  exact part

theorem Store.provider_of_records : s'.embeddingProvider = s.embeddingProvider := by
  have part := congrArg Store.embeddingProvider same
  exact part

end

variable {x : Externals} {env : Env} {fault : Option Fault} {organizationId workspaceId : String} {γ : Type}
  {part : Store → γ}

theorem interrupted_frames {α : Type} : Program.Frames part (interrupted : Call α) := Program.Frames.fail

theorem stopAt_frames {point : Fault} : Program.Frames part (stopAt fault point) :=
  Program.Frames.ite interrupted_frames Program.Frames.pure

theorem WorkspaceVectorIndex.publishGeneration_frames {profile : EmbeddingProfile}
    {entries : List (Nat × List ℚ)} : Program.Frames Store.records
      (WorkspaceVectorIndex.publishGeneration x fault organizationId workspaceId profile entries) := by
  refine Program.Frames.query.bind fun _ => ?_
  dsimp only
  split
  · exact Program.Frames.bind (Program.Frames.update (by intro s; rfl)) fun _ => interrupted_frames
  · exact Program.Frames.bind (Program.Frames.update (by intro s; rfl)) fun _ => stopAt_frames

theorem WorkspaceVectorIndex.removeStaleTemporaryFiles_frames :
    Program.Frames Store.records WorkspaceVectorIndex.removeStaleTemporaryFiles := by
  refine Program.Frames.query.bind fun _ => ?_
  exact Program.Frames.bind (Program.Frames.update (by intro s; rfl)) fun _ => Program.Frames.pure

theorem WorkspaceTextIndex.publishGeneration_frames {generation : String} {entries : List TextEntry} :
    Program.Frames Store.records
      (WorkspaceTextIndex.publishGeneration x fault organizationId workspaceId generation entries) := by
  refine Program.Frames.query.bind fun _ => Program.Frames.query.bind fun _ => ?_
  split
  · exact Program.Frames.bind (Program.Frames.update (by intro s; rfl)) fun _ => interrupted_frames
  · exact Program.Frames.bind (Program.Frames.update (by intro s; rfl)) fun _ => stopAt_frames

theorem cleanupTextGenerations_frames : Program.Frames Store.records (cleanupTextGenerations x) := by
  refine Program.Frames.query.bind fun _ => Program.Frames.query.bind fun _ => ?_
  exact Program.Frames.bind (Program.Frames.update (by intro s; rfl)) fun _ => Program.Frames.pure

theorem publishGenerationWithPending_frames {pendingEntries : List (Nat × List ℚ)} :
    Program.Frames Store.records
      (publishGenerationWithPending x fault organizationId workspaceId pendingEntries) := by
  refine Program.Frames.query.bind fun _ => Program.Frames.query.bind fun _ => ?_
  exact Program.Frames.query.bind fun _ => WorkspaceVectorIndex.publishGeneration_frames

theorem publishTextGenerationWithPending_frames {generation : Uuid} {pendingEntries : List TextEntry} :
    Program.Frames Store.records
      (publishTextGenerationWithPending x fault organizationId workspaceId generation pendingEntries) := by
  refine Program.Frames.query.bind fun _ => ?_
  exact WorkspaceTextIndex.publishGeneration_frames.bind fun _ => Program.Frames.pure

theorem rebuildVectorWorkspace_frames :
    Program.Frames Store.records (rebuildVectorWorkspace x fault organizationId workspaceId) := by
  refine Program.Frames.query.bind fun _ => Program.Frames.query.bind fun _ => ?_
  exact WorkspaceVectorIndex.publishGeneration_frames.bind fun _ => Program.Frames.pure

section
variable {α : Type} {p : Call α}

theorem frames_of_records (kept : Program.Frames Store.records p) :
    Program.Frames Store.withoutProjection p :=
  kept.of (g := Store.withoutProjection) fun _ => rfl

end

theorem rebuildTextWorkspace_frames {generation : Uuid} : Program.Frames Store.withoutProjection
    (rebuildTextWorkspace x env fault organizationId workspaceId generation) := by
  refine Program.Frames.query.bind fun _ => ?_
  refine (frames_of_records WorkspaceTextIndex.publishGeneration_frames).bind fun _ => ?_
  refine Program.Frames.bind (Program.Frames.transaction ?_) fun _ => ?_
  · intro s s' _ run
    cases run
    rfl
  · refine stopAt_frames.bind fun _ => ?_
    exact (frames_of_records cleanupTextGenerations_frames).bind fun _ => Program.Frames.pure

theorem rebuildGraph_ok {s : Store} {result : Store × Nat}
    (run : (do
      let chunks := readyGraphChunks x organizationId workspaceId s
      let cleared := clearGraphWorkspace x organizationId workspaceId s.projection.graph
      let graph ← materializeGraphChunks x env organizationId workspaceId cleared chunks
      return ({ s with projection := { s.projection with graph := graph } }, chunks.length)) =
        (.ok result : Result (Store × Nat))) :
    ∃ graph, materializeGraphChunks x env organizationId workspaceId
        (clearGraphWorkspace x organizationId workspaceId s.projection.graph)
        (readyGraphChunks x organizationId workspaceId s) = .ok graph ∧
      result.1 = { s with projection := { s.projection with graph := graph } } := by
  obtain ⟨graph, built, run⟩ := bind_eq_ok.mp run
  cases run
  exact ⟨graph, built, rfl⟩

theorem rebuildGraphWorkspace_frames : Program.Frames Store.withoutProjection
    (rebuildGraphWorkspace x env organizationId workspaceId) := by
  refine Program.Frames.transaction fun s s' _ run => ?_
  obtain ⟨graph, _, same⟩ := rebuildGraph_ok run
  rw [show s' = _ from same]
  rfl

theorem auditSystem_frames {id : Uuid} {action : String} : Program.Frames Store.withoutProjection
    (auditSystem env organizationId workspaceId id action) := by
  refine Program.Frames.transaction fun s s' _ run => ?_
  cases run
  rfl

theorem reconcileScopes_frames {kind : String} {rebuild : Nat → String → String → Call Nat}
    {auditId : Nat → Nat} {scopes : List (String × String)}
    (kept : ∀ i organizationId workspaceId,
      Program.Frames Store.withoutProjection (rebuild i organizationId workspaceId)) :
    Program.Frames Store.withoutProjection (reconcileScopes env kind rebuild auditId scopes) := by
  refine Program.Frames.forM fun turn => ?_
  refine (kept _ _ _).attempt.bind fun outcome => ?_
  cases outcome with
  | ok _ => exact auditSystem_frames
  | error e => exact auditSystem_frames.attempt.bind fun _ => Program.Frames.fail

theorem callProjection_frames {op : ProjectionOp} :
    Program.Frames Store.withoutProjection (callProjection x env op) := by
  cases op with
  | rebuildVectorWorkspace organizationId workspaceId fault =>
    exact (frames_of_records rebuildVectorWorkspace_frames).bind fun _ => Program.Frames.pure
  | rebuildTextWorkspace organizationId workspaceId fault =>
    exact rebuildTextWorkspace_frames.bind fun _ => Program.Frames.pure
  | rebuildGraphWorkspace organizationId workspaceId =>
    exact rebuildGraphWorkspace_frames.bind fun _ => Program.Frames.pure
  | reconcileVectorProjection faults =>
    refine Program.Frames.bind ?_ fun _ => Program.Frames.pure
    refine (frames_of_records WorkspaceVectorIndex.removeStaleTemporaryFiles_frames).bind fun _ => ?_
    refine Program.Frames.query.bind fun _ => ?_
    refine (reconcileScopes_frames fun _ _ _ => ?_).bind fun _ => Program.Frames.pure
    exact frames_of_records rebuildVectorWorkspace_frames
  | reconcileTextProjection faults =>
    refine Program.Frames.bind ?_ fun _ => Program.Frames.pure
    refine Program.Frames.query.bind fun _ => ?_
    refine (reconcileScopes_frames fun _ _ _ => rebuildTextWorkspace_frames).bind fun _ => ?_
    exact frames_of_records cleanupTextGenerations_frames
  | reconcileGraphProjection =>
    refine Program.Frames.bind ?_ fun _ => Program.Frames.pure
    refine Program.Frames.query.bind fun _ => ?_
    exact (reconcileScopes_frames fun _ _ _ => rebuildGraphWorkspace_frames).bind fun _ => Program.Frames.pure

end Hangar
