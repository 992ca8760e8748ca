import Hangar.Projection.Depth
import Hangar.Projection.Replay

namespace Hangar

open Lib

def Store.withGraph (s : Store) (graph : GraphTables) : Store :=
  { s with projection := { s.projection with graph := graph } }

section
variable {x : Externals} {engines : SearchEngines} {env : Env} {organizationId workspaceId : String}
  {minted : List (Uuid × Uuid)} {s s' : Store} {server server' : Server} {event : Event}

section
variable (names : Function.Injective x.newV5)
include names

theorem auditSystem_replayed (valid : Replayed x organizationId workspaceId minted s)
    {organizationId' workspaceId' : String} {id : Uuid} {action : String} :
    Program.Triple (auditSystem env organizationId' workspaceId' id action) s
      (fun _ => Replayed x organizationId workspaceId minted) (fun _ => Replayed x organizationId workspaceId minted) := by
  apply Program.Triple.transaction
  · intro _ s' run
    cases run
    exact valid.of_projection names (valid.canonical.of_tables rfl rfl) rfl rfl rfl
  · exact fun _ _ => valid

theorem rebuildTextWorkspace_replayed (valid : Replayed x organizationId workspaceId minted s) {fault : Option Fault}
    {organizationId' workspaceId' : String} {generation : Uuid} :
    Program.Triple (rebuildTextWorkspace x env fault organizationId' workspaceId' generation) s
      (fun _ => Replayed x organizationId workspaceId minted) (fun _ => Replayed x organizationId workspaceId minted) := by
  apply (valid.quiet names Program.Frames.query).bind
  intro entries s' kept
  apply (kept.quiet names WorkspaceTextIndex.publishGeneration_frames).bind
  intro _ s' kept
  apply Program.Triple.bind (Q := fun _ => Replayed x organizationId workspaceId minted)
  · apply Program.Triple.transaction
    · intro _ s'' run
      cases run
      have step : Reprojection x env s' (insertActiveTextGeneration x env organizationId' workspaceId' generation.text s') :=
        .activate organizationId' workspaceId' generation rfl rfl
      exact kept.of_projection names (kept.canonical.reproject step) rfl rfl rfl
    · exact fun _ _ => kept
  intro _ s' kept
  apply (kept.quiet names stopAt_frames).bind
  intro _ s' kept
  apply (kept.quiet names cleanupTextGenerations_frames).bind
  exact fun _ _ kept => Program.Triple.pure kept

theorem rebuildGraphWorkspace_replayed (valid : Replayed x organizationId workspaceId minted s) :
    Program.Triple (rebuildGraphWorkspace x env organizationId workspaceId) s
      (fun _ => Replayed x organizationId workspaceId minted) (fun _ => Replayed x organizationId workspaceId minted) := by
  apply Program.Triple.transaction
  · intro _ s' run
    obtain ⟨graph, built, written⟩ := rebuildGraph_ok run
    have written : s' = { s with projection := { s.projection with graph := graph } } := written
    rw [written]
    exact valid.rebuilt names built
  · exact fun _ _ => valid

theorem callProjection_replayed (valid : Replayed x organizationId workspaceId minted s) {op : ProjectionOp}
    (named : ∀ a ∈ (Op.projection op).graphWorkspaces, a = (organizationId, workspaceId)) :
    Program.Triple (callProjection x env op) s (fun _ => Replayed x organizationId workspaceId minted)
      (fun _ => Replayed x organizationId workspaceId minted) := by
  have discard {α : Type} {p : Call α} {s : Store}
      (kept : Program.Triple p s (fun _ => Replayed x organizationId workspaceId minted)
        (fun _ => Replayed x organizationId workspaceId minted)) :
      Program.Triple (do let _ ← p : Call Unit) s (fun _ => Replayed x organizationId workspaceId minted)
        (fun _ => Replayed x organizationId workspaceId minted) :=
    kept.bind fun _ _ kept => Program.Triple.pure kept
  cases op with
  | rebuildVectorWorkspace organizationId' workspaceId' fault =>
    exact discard (valid.quiet names rebuildVectorWorkspace_frames)
  | rebuildTextWorkspace organizationId' workspaceId' fault => exact discard (rebuildTextWorkspace_replayed names valid)
  | rebuildGraphWorkspace organizationId' workspaceId' =>
    obtain ⟨rfl, rfl⟩ := Prod.mk.inj (named _ List.mem_cons_self)
    exact discard (rebuildGraphWorkspace_replayed names valid)
  | reconcileVectorProjection faults =>
    apply discard
    apply (valid.quiet names WorkspaceVectorIndex.removeStaleTemporaryFiles_frames).bind
    intro _ s' kept
    apply (kept.quiet names Program.Frames.query).bind
    intro scopes s' kept
    apply Program.Triple.bind (Q := fun _ => Replayed x organizationId workspaceId minted)
    · apply reconcileScopes_keeps (fun _ _ _ _ _ kept => auditSystem_replayed names kept) _ kept
      intro i a _ s kept
      exact kept.quiet names rebuildVectorWorkspace_frames
    · exact fun _ _ kept => Program.Triple.pure kept
  | reconcileTextProjection faults =>
    apply discard
    apply (valid.quiet names Program.Frames.query).bind
    intro scopes s' kept
    apply Program.Triple.bind (Q := fun _ => Replayed x organizationId workspaceId minted)
    · apply reconcileScopes_keeps (fun _ _ _ _ _ kept => auditSystem_replayed names kept) _ kept
      intro i a _ s kept
      exact rebuildTextWorkspace_replayed names kept
    · exact fun _ _ kept => kept.quiet names cleanupTextGenerations_frames
  | reconcileGraphProjection =>
    apply discard
    apply Program.Triple.bind (Q := fun scopes s' => Replayed x organizationId workspaceId minted s' ∧
      ∀ a ∈ scopes, a = (organizationId, workspaceId))
    · apply Program.Triple.query
      · intro scopes listed
        cases listed
        refine ⟨valid, ?_⟩
        intro a member
        obtain ⟨manifest, row, rfl⟩ := List.mem_map.mp (mem_scopeSet.mp member)
        obtain ⟨id, found⟩ := Table.mem_rows.mp row
        have view := find_graphView found
        exact valid.canonical.workspace_of_manifest view
      · exact fun _ _ => valid
    intro scopes s' listed
    obtain ⟨kept, alone⟩ := listed
    apply Program.Triple.bind (Q := fun _ => Replayed x organizationId workspaceId minted)
    · apply reconcileScopes_keeps (fun _ _ _ _ _ kept => auditSystem_replayed names kept) _ kept
      intro i a member s kept
      obtain ⟨rfl, rfl⟩ := Prod.mk.inj (alone a member)
      exact rebuildGraphWorkspace_replayed names kept
    · exact fun _ _ kept => Program.Triple.pure kept

theorem Step.replayed (taken : Step x engines server event server') (claims : server.ClaimsHold)
    (valid : Replayed x organizationId workspaceId server.minted server.store)
    (alone : ∀ a ∈ event.op.graphWorkspaces, a = (organizationId, workspaceId))
    (increasing : (server'.minted.map Prod.snd).Pairwise fun id id' => compare id id' = .lt) :
    Replayed x organizationId workspaceId server'.minted server'.store := by
  have after : Canonical x {(organizationId, workspaceId)} server'.minted server'.store := by
    apply taken.canonical claims valid.canonical
    intro a member
    apply alone
    unfold Op.graphWorkspaces
    split
    · simp_all [Op.workspaces]
    · exact member
  by_cases processes : ∃ claimed fault, event.op = .ingestion (.processClaimedIngestionJob claimed fault)
  · obtain ⟨claimed, fault, same⟩ := processes
    have permitted := taken.permitted
    have minted : server'.minted = server.minted ++ event.op.mints event.env := by rw [taken.next]; rfl
    have store : server'.store = (callStore x engines event.env event.op server.store).1 := by rw [taken.next]; rfl
    rw [minted, List.map_append, List.pairwise_append] at increasing
    rw [same] at permitted increasing
    obtain ⟨_, ascending, later⟩ := increasing
    obtain ⟨_, _, _, payload⟩ := claims claimed permitted
    have processed : ProcessEffect x event.env claimed server.store server'.store := by
      rw [store, same]
      apply Program.Triple.state (ProcessEffect x event.env claimed server.store)
      refine Program.Triple.bind ?_ fun _ _ taken => Program.Triple.pure taken
      exact Program.Triple.of_state processClaimedIngestionJob_effect
    apply processed.replayed names valid after taken.fresh.distinct taken.fresh.unminted payload
    · rw [List.pairwise_map] at ascending
      exact List.pairwise_map.mp ascending
    · intro p member chunk listed
      apply later
      · exact List.mem_map_of_mem member
      · exact List.mem_map_of_mem (List.mem_map_of_mem (f := fun chunk : DocumentChunk => (chunk.documentId, chunk.id)) listed)
  by_cases projects : ∃ call, event.op = .projection call
  · obtain ⟨call, same⟩ := projects
    rw [taken.next]
    unfold Server.next
    rw [same] at alone ⊢
    rw [show (Op.projection call).mints event.env = [] from rfl, List.append_nil]
    exact Program.Triple.state (Replayed x organizationId workspaceId server.minted)
      (callProjection_replayed names valid alone)
  · have still : server.store.Quiet server'.store := by
      rw [taken.next]
      apply callStore_quiet fun call same => projects ⟨call, same⟩
      exact fun claimed fault same => processes ⟨claimed, fault, same⟩
    exact valid.of_projection names after (still.projection ▸ rfl) (still.projection ▸ rfl) (still.projection ▸ rfl)

omit names in
theorem Replayed.initial {provider : EmbeddingProvider} :
    Replayed x organizationId workspaceId (Server.initial provider).minted (Server.initial provider).store where
  canonical := Searchable.initial.canonical
  deterministic := by simp [ProjectionTables.Deterministic, Server.initial, Store.empty]
  extracted := .empty
  linked := .empty
  replay := rfl

theorem run_replayed {provider : EmbeddingProvider} {trace : List (Server × Event)}
    (run : Run (Step x engines) (Server.initial provider) trace server)
    (alone : ∀ p ∈ trace, ∀ a ∈ p.2.op.graphWorkspaces, a = (organizationId, workspaceId))
    (increasing : (server.minted.map Prod.snd).Pairwise fun id id' => compare id id' = .lt) :
    Replayed x organizationId workspaceId server.minted server.store := by
  have both := run.preserves
    (I := fun server => server.ClaimsHold ∧ IngestionIntegrity x server.store.ingestion ∧
      ((server.minted.map Prod.snd).Pairwise (fun id id' => compare id id' = .lt) →
        Replayed x organizationId workspaceId server.minted server.store))
    ⟨fun _ member => (nomatch member), .empty, fun _ => .initial⟩ fun p member server' holds taken => by
      obtain ⟨claims, records, valid⟩ := holds
      refine ⟨taken.claims records claims, taken.integrity records, ?_⟩
      intro increasing
      have earlier : (p.1.minted.map Prod.snd).Pairwise fun id id' => compare id id' = .lt := by
        rw [show server'.minted = p.1.minted ++ p.2.op.mints p.2.env by rw [taken.next]; rfl, List.map_append,
          List.pairwise_append] at increasing
        exact increasing.1
      exact taken.replayed names claims (valid earlier) (alone p member) increasing
  exact both.2.2 increasing

omit names in
theorem rebuildGraphWorkspace_eq {graph : GraphTables}
    (built : materializeGraphChunks x env organizationId workspaceId
      (clearGraphWorkspace x organizationId workspaceId s.projection.graph)
      (readyGraphChunks x organizationId workspaceId s) = .ok graph) :
    rebuildGraphWorkspace x env organizationId workspaceId s =
      (s.withGraph graph, .ok (readyGraphChunks x organizationId workspaceId s).length) := by
  unfold rebuildGraphWorkspace Program.transaction
  dsimp only
  rw [built]
  rfl

/-- In a run that keeps to one workspace and draws its chunk ids in order, a rebuild of the graph gives the five
    tables again up to timestamps, and so does the next one. -/
theorem graph_rebuild_reproduces {provider : EmbeddingProvider} {trace : List (Server × Event)}
    (run : Run (Step x engines) (Server.initial provider) trace server)
    (alone : ∀ p ∈ trace, ∀ a ∈ p.2.op.graphWorkspaces, a = (organizationId, workspaceId))
    (increasing : (server.minted.map Prod.snd).Pairwise fun id id' => compare id id' = .lt) (env env' : Env) :
    server.store.projection.graph.Linked x organizationId workspaceId ∧ ∃ graph graph' count,
      rebuildGraphWorkspace x env organizationId workspaceId server.store =
        (server.store.withGraph graph, .ok count) ∧
      graph.untimed = server.store.projection.graph.untimed ∧ graph.Linked x organizationId workspaceId ∧
      rebuildGraphWorkspace x env' organizationId workspaceId (server.store.withGraph graph) =
        (server.store.withGraph graph', .ok count) ∧
      graph'.untimed = graph.untimed ∧ graph'.Linked x organizationId workspaceId := by
  have valid := run_replayed names run alone increasing
  obtain ⟨graph, built, same⟩ := valid.rebuilds env
  have first := valid.rebuilt names built
  obtain ⟨graph', built', same'⟩ := first.rebuilds env'
  have second := first.rebuilt names built'
  exact ⟨valid.linked, graph, graph', _, rebuildGraphWorkspace_eq built, same, first.linked,
    rebuildGraphWorkspace_eq built', same', second.linked⟩

end

end

def retriedClaim : ClaimedIngestionJob :=
  ⟨(((newJob uniformSample (serialEnv 1 0) betaDocument).lease (serialEnv 2 16)).requeue (serialEnv 4 48)).lease
    (serialEnv 5 64), "alpha beta"⟩

/-- The first attempt at a document crashes between its transactions, the second succeeds, and another document
    follows. -/
def retriedCalls : List (Nat × Op) :=
  [(1, .ingestion (.enqueueDocument betaDocument)), (2, .ingestion .claimNextIngestionJob),
    (3, .ingestion (.processClaimedIngestionJob
      ⟨(newJob uniformSample (serialEnv 1 0) betaDocument).lease (serialEnv 2 16), "alpha beta"⟩ (some .textPublished))),
    (4, .ingestion .recoverIncompleteIngestionJobs), (5, .ingestion .claimNextIngestionJob),
    (6, .ingestion (.processClaimedIngestionJob retriedClaim none)),
    (7, .ingestion (.enqueueDocument gammaDocument)), (8, .ingestion .claimNextIngestionJob),
    (9, .ingestion (.processClaimedIngestionJob
      ⟨(newJob uniformSample (serialEnv 7 96) gammaDocument).lease (serialEnv 8 112), "beta gamma"⟩ none))]

def retriedServer : Server := freshRun uniformSample noHits retriedCalls

theorem retriedCalls_alone : ∀ p ∈ serialTrace uniformSample noHits (Server.initial .hashingV1) 0 retriedCalls,
    ∀ a ∈ p.2.op.graphWorkspaces, a = ("acme", "lab") := by
  intro p member a named
  obtain ⟨call, listed, same⟩ := mem_serialTrace member
  have each : ∀ call ∈ retriedCalls, ∀ a ∈ call.2.graphWorkspaces, a = ("acme", "lab") := by decide +kernel
  rw [same] at named
  exact each call listed a named

theorem graph_rebuild_reproduces_retried :
    retriedServer.store.projection.graph.Linked uniformSample "acme" "lab" ∧ ∃ graph graph' count,
      rebuildGraphWorkspace uniformSample (serialEnv 10 144) "acme" "lab" retriedServer.store =
        (retriedServer.store.withGraph graph, .ok count) ∧
      graph.untimed = retriedServer.store.projection.graph.untimed ∧ graph.Linked uniformSample "acme" "lab" ∧
      rebuildGraphWorkspace uniformSample (serialEnv 11 160) "acme" "lab" (retriedServer.store.withGraph graph) =
        (retriedServer.store.withGraph graph', .ok count) ∧
      graph'.untimed = graph.untimed ∧ graph'.Linked uniformSample "acme" "lab" := by
  have legal : SerialLegal uniformSample noHits (Server.initial .hashingV1) 0 retriedCalls := by decide +kernel
  have run : Run (Step uniformSample noHits) (Server.initial .hashingV1)
      (serialTrace uniformSample noHits (Server.initial .hashingV1) 0 retriedCalls) retriedServer := serialRun_run legal
  have increasing : (retriedServer.minted.map Prod.snd).Pairwise fun id id' => compare id id' = .lt := by
    decide +kernel
  have names : Function.Injective uniformSample.newV5 := sample_names
  exact graph_rebuild_reproduces names run retriedCalls_alone increasing (serialEnv 10 144) (serialEnv 11 160)

end Hangar
