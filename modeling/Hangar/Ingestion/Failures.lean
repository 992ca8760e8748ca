import Hangar.Ingestion.Process

namespace Hangar

open Lib

def Failure.Among (messages : List String) (e : Failure) : Prop := ∃ message ∈ messages, e = .check message

def publicationMessages : List String :=
  ["invalid vector dimensions", "text generation cannot be empty", "text index generation already exists",
    "vector manifest not found", "text manifest not found", "graph manifest not found",
    "graph source entity is missing", "graph target entity is missing"]

def allocationMessages : List String :=
  ["exhausted ANN key space for workspace", "ANN key is already mapped in this workspace",
    "duplicate ANN key in vector generation"]

variable {x : Externals} {env : Env} {fault : Option Fault} {s : Store} {organizationId workspaceId : String}
  {messages : List String}

theorem external_not_among {message : String} : ¬(Failure.external message).Among messages := by
  rintro ⟨_, _, same⟩
  cases same

theorem check_not_among {message : String} (other : message ∉ messages) :
    ¬(Failure.check message).Among messages := by
  rintro ⟨_, member, same⟩
  cases same
  exact other member

theorem check_avoids {condition : Prop} [Decidable condition] {message : String}
    (other : message ∉ messages) : Avoids (Failure.Among messages) (check condition message) :=
  Avoids.ensure (check_not_among other)

theorem found_avoids {α : Type} {value : Option α} {message : String}
    (other : value = none → message ∉ messages) : Avoids (Failure.Among messages) (found value message) :=
  Avoids.context fun absent => check_not_among (other absent)

theorem stopAt_avoids {point : Fault} : Program.Avoids (Failure.Among messages) (stopAt fault point) :=
  Program.Avoids.ite (Program.Avoids.fail external_not_among) Program.Avoids.pure

theorem interrupted_avoids {α : Type} : Program.Avoids (Failure.Among messages) (interrupted : Call α) :=
  Program.Avoids.fail external_not_among

theorem embed_avoids {text : String} : Avoids (Failure.Among messages) (embed x s text) := by
  unfold embed
  split
  · exact Avoids.ok
  · exact Avoids.error external_not_among

theorem readyVectorEntries_avoids :
    Avoids (Failure.Among messages) (readyVectorEntries x organizationId workspaceId s) := by
  apply Avoids.foldlM
  intro manifest _ entries
  split
  · split
    · split
      · exact Avoids.pure
      · exact embed_avoids.bind fun _ _ => Avoids.pure
    · exact Avoids.pure
  · exact Avoids.pure

theorem pendingVectorEntries_avoids {prepared : PreparedIngestion} :
    Avoids (Failure.Among messages) (pendingVectorEntries x prepared s) :=
  Avoids.mapM fun _ _ => embed_avoids.bind fun _ _ => Avoids.pure

section
variable (clear : ∀ message ∈ publicationMessages, message ∉ messages)
include clear

theorem WorkspaceVectorIndex.publishGeneration_avoids {profile : EmbeddingProfile}
    {entries : List (Nat × List ℚ)} : Program.Avoids (Failure.Among messages)
      (WorkspaceVectorIndex.publishGeneration x fault organizationId workspaceId profile entries) := by
  refine (Program.Avoids.query fun _ => check_avoids (clear _ (by decide))).bind fun _ => ?_
  dsimp only
  split
  · exact Program.Avoids.update.bind fun _ => interrupted_avoids
  · exact Program.Avoids.update.bind fun _ => stopAt_avoids

theorem WorkspaceTextIndex.publishGeneration_avoids {generation : String} {entries : List TextEntry} :
    Program.Avoids (Failure.Among messages)
      (WorkspaceTextIndex.publishGeneration x fault organizationId workspaceId generation entries) := by
  refine (Program.Avoids.query fun _ => check_avoids (clear _ (by decide))).bind fun _ => ?_
  refine (Program.Avoids.query fun _ => check_avoids (clear _ (by decide))).bind fun _ => ?_
  split
  · exact Program.Avoids.update.bind fun _ => interrupted_avoids
  · exact Program.Avoids.update.bind fun _ => stopAt_avoids

theorem publishTextGenerationWithPending_avoids {generation : Uuid} {pendingEntries : List TextEntry} :
    Program.Avoids (Failure.Among messages)
      (publishTextGenerationWithPending x fault organizationId workspaceId generation pendingEntries) := by
  refine (Program.Avoids.query fun _ => Avoids.ok).bind fun _ => ?_
  exact (WorkspaceTextIndex.publishGeneration_avoids clear).bind fun _ => Program.Avoids.pure

omit clear in
theorem markReady_avoids {M : Type} {message : String} {ready : M → M} {chunks : List DocumentChunk}
    {manifests : Table Uuid M} (other : message ∉ messages) :
    Avoids (Failure.Among messages) (markReady message ready chunks manifests) :=
  Avoids.foldlM fun _ _ _ => (found_avoids fun _ => other).bind fun _ _ => Avoids.pure

theorem materializeGraphChunks_avoids {t : GraphTables} {chunks : List DocumentChunk} :
    Avoids (Failure.Among messages) (materializeGraphChunks x env organizationId workspaceId t chunks) := by
  refine Avoids.bind (Avoids.foldlM fun chunk _ build => Avoids.foldlM fun relation _ build => ?_)
    fun _ _ => Avoids.pure
  refine (found_avoids fun _ => clear _ (by decide)).bind fun _ _ => ?_
  exact (found_avoids fun _ => clear _ (by decide)).bind fun _ _ => Avoids.pure

theorem completeIngestion_avoids {prepared : PreparedIngestion} {generation : String} :
    Avoids (Failure.Among messages) (completeIngestion x env prepared generation s) := by
  refine Avoids.bind ?_ fun _ _ => Avoids.pure
  refine (markReady_avoids (clear _ (by decide))).bind fun _ _ => ?_
  refine (markReady_avoids (clear _ (by decide))).bind fun _ _ => ?_
  refine (materializeGraphChunks_avoids clear).bind fun _ _ => ?_
  exact (markReady_avoids (clear _ (by decide))).bind fun _ _ => Avoids.pure

theorem publishedIngestion_avoids {prepared : PreparedIngestion} : Program.Avoids (Failure.Among messages) (do
    let generation ← publishTextGenerationWithPending x fault prepared.document.organizationId
      prepared.document.workspaceId (env.uuid prepared.chunks.length) (pendingTextEntries prepared)
    let job ← Program.transaction (completeIngestion x env prepared generation)
    stopAt fault .completed
    let _ ← Program.attempt (cleanupTextGenerations x)
    return job) := by
  refine (publishTextGenerationWithPending_avoids clear).bind fun _ => ?_
  refine (Program.Avoids.transaction fun _ => completeIngestion_avoids clear).bind fun _ => ?_
  exact stopAt_avoids.bind fun _ => Program.Avoids.attempt.bind fun _ => Program.Avoids.pure

end

section
variable (clear : ∀ message ∈ allocationMessages, message ∉ messages)
include clear

theorem skipUsedKeys_avoids {used : List Nat} {fuel next : Nat} :
    Avoids (Failure.Among messages) (skipUsedKeys used fuel next) := by
  induction fuel generalizing next with
  | zero => exact Avoids.ok
  | succ fuel ih =>
    unfold skipUsedKeys
    split
    · exact (check_avoids (clear _ (by decide))).bind fun _ _ => ih
    · exact Avoids.ok

theorem prepareProjection_avoids {profile : EmbeddingProfile} {document : Document}
    {chunks : List DocumentChunk} {t : ProjectionTables} :
    Avoids (Failure.Among messages) (prepareProjection x env profile document chunks t) := by
  refine Avoids.bind (Avoids.foldlM fun chunk _ allocation => ?_) fun _ _ => Avoids.pure
  refine (skipUsedKeys_avoids clear).bind fun _ _ => ?_
  refine (check_avoids (clear _ (by decide))).bind fun _ _ => ?_
  exact (check_avoids (clear _ (by decide))).bind fun _ _ => Avoids.pure

section
variable (published : ∀ message ∈ publicationMessages, message ∉ messages)
include published

theorem publishGenerationWithPending_avoids {pendingEntries : List (Nat × List ℚ)} :
    Program.Avoids (Failure.Among messages)
      (publishGenerationWithPending x fault organizationId workspaceId pendingEntries) := by
  refine (Program.Avoids.query fun _ => readyVectorEntries_avoids).bind fun entries => ?_
  refine (Program.Avoids.query fun _ => Avoids.foldlM fun pending _ entries => ?_).bind fun entries => ?_
  · exact (check_avoids (clear _ (by decide))).bind fun _ _ => Avoids.pure
  · refine (Program.Avoids.query fun _ => Avoids.ok).bind fun _ => ?_
    exact WorkspaceVectorIndex.publishGeneration_avoids published

/-- An attempt fails with none of the messages if its first transaction does not. -/
theorem processClaimedIngestionJob_avoids_of {claimed : ClaimedIngestionJob}
    (prepare : Avoids (Failure.Among messages) (prepareIngestion x env claimed s)) :
    Avoids (Failure.Among messages) (processClaimedIngestionJob x env fault claimed s).2 := by
  have rest (prepared : PreparedIngestion) : Program.Avoids (Failure.Among messages) (do
      stopAt fault .prepared
      let pendingEntries ← Program.query (pendingVectorEntries x prepared)
      publishGenerationWithPending x fault prepared.document.organizationId prepared.document.workspaceId
        pendingEntries
      let generation ← publishTextGenerationWithPending x fault prepared.document.organizationId
        prepared.document.workspaceId (env.uuid prepared.chunks.length) (pendingTextEntries prepared)
      let job ← Program.transaction (completeIngestion x env prepared generation)
      stopAt fault .completed
      let _ ← Program.attempt (cleanupTextGenerations x)
      return job) := by
    refine stopAt_avoids.bind fun _ => ?_
    refine (Program.Avoids.query fun s => pendingVectorEntries_avoids).bind fun _ => ?_
    exact (publishGenerationWithPending_avoids clear published).bind fun _ => publishedIngestion_avoids published
  intro e failed
  have outcome : Program.Triple (processClaimedIngestionJob x env fault claimed) s (fun _ _ => True)
      (fun e _ => ¬e.Among messages) := by
    refine Program.Triple.bind (Q := fun _ _ => True) ?_ fun prepared _ _ => (rest prepared).triple
    exact Program.Triple.transaction (fun _ _ _ => trivial) prepare
  exact outcome.error failed

end

end

end Hangar
