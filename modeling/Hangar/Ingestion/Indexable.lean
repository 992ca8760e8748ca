import Hangar.Ingestion.Chunks
import Hangar.Ingestion.MissingRecords

namespace Hangar

open Lib

def IngestionTables.Written (t : IngestionTables) : Prop := ∀ (id : Uuid) (payload : IngestionPayload),
  t.payloads[id]? = some payload → isBlank payload.content = false

def noIndexableChunks : String := "document produced no indexable chunks"

variable {x : Externals} {engines : SearchEngines} {env : Env} {fault : Option Fault} {s : Store}
  {t t' : IngestionTables} {server : Server}

theorem NewDocument.validate_content {new : NewDocument} (valid : new.validate = .ok ()) :
    isBlank new.content = false := by
  unfold NewDocument.validate at valid
  obtain ⟨_, _, run⟩ := bind_eq_ok.mp valid
  obtain ⟨_, _, run⟩ := bind_eq_ok.mp run
  obtain ⟨_, _, run⟩ := bind_eq_ok.mp run
  obtain ⟨_, written, _⟩ := bind_eq_ok.mp run
  rw [ensure_eq_ok, Bool.not_eq_true'] at written
  exact written

theorem QueueMove.written (move : QueueMove env t t') (written : t.Written) : t'.Written := by
  cases move with
  | write jobFound documentFound advance => exact written

theorem QueueStep.written (step : QueueStep x env t t') (written : t.Written) : t'.Written := by
  cases step with
  | accept new valid _ =>
    intro id payload found
    unfold IngestionTables.accept at found
    rw [Table.find_insert] at found
    split at found
    · cases found
      exact new.validate_content valid
    · exact written id payload found
  | moves moves =>
    induction moves with
    | refl => exact written
    | tail _ move ih => exact move.written ih

theorem Reachable.written (reachable : Reachable x engines server) : server.store.ingestion.Written := by
  obtain ⟨provider, reached⟩ := reachable
  have both := reached.preserves
    (I := fun server => IngestionIntegrity x server.store.ingestion ∧ server.store.ingestion.Written)
    ⟨.empty, fun id payload found => by simp [Server.initial, Store.empty] at found⟩
    fun _ _ _ holds taken => ⟨taken.integrity holds.1, (taken.queue holds.1).written holds.2⟩
  exact both.2

theorem Reachable.indexable (reachable : Reachable x engines server) {claimed : ClaimedIngestionJob}
    (member : claimed ∈ server.claimed) : chunkText claimed.content maximumChunkChars ≠ [] := by
  obtain ⟨job, _, _, payloadFound⟩ := reachable.claims claimed member
  have written : isBlank claimed.content = false := reachable.written _ ⟨claimed.content⟩ payloadFound
  have positive : 0 < maximumChunkChars := by decide
  exact (chunkText_shaped claimed.content positive).some written

theorem processClaimedIngestionJob_indexes {claimed : ClaimedIngestionJob}
    (some : chunkText claimed.content maximumChunkChars ≠ []) :
    Avoids (Failure.Among [noIndexableChunks]) (processClaimedIngestionJob x env fault claimed s).2 := by
  refine processClaimedIngestionJob_avoids_of (by decide) (by decide) ?_
  refine Avoids.bind ?_ fun _ _ => ?_
  · have passed : check (chunkText claimed.content maximumChunkChars ≠ []) "document produced no indexable chunks" =
        .ok () := ensure_eq_ok.mpr some
    rw [passed]
    exact Avoids.ok
  refine (found_avoids fun _ => by decide).bind fun _ _ => (check_avoids (by decide)).bind fun _ _ => ?_
  refine (found_avoids fun _ => by decide).bind fun _ _ => (check_avoids (by decide)).bind fun _ _ => ?_
  exact (prepareProjection_avoids (by decide)).bind fun _ _ => Avoids.pure

/-- Chunks have their shape for every text and maximum, and no claim of a reachable server is without chunks. -/
theorem chunks_shaped {maximumChars : Nat} (positive : 0 < maximumChars) (reachable : Reachable x engines server) :
    (∀ content, ChunksShaped content maximumChars) ∧
      ∀ claimed ∈ server.claimed, ∀ env fault,
        (processClaimedIngestionJob x env fault claimed server.store).2 ≠ .error (.check noIndexableChunks) := by
  refine ⟨fun content => chunkText_shaped content positive, ?_⟩
  intro claimed member env fault failed
  exact processClaimedIngestionJob_indexes (reachable.indexable member) _ failed ⟨_, List.mem_singleton_self _, rfl⟩

def claimedServer : Server := freshRun sample noHits
  [(1, .ingestion (.enqueueDocument (sampleDocument "acme" "lab" "alpha" none))), (2, .ingestion .claimNextIngestionJob)]

theorem chunks_shaped_claimed : (∀ content, ChunksShaped content 12) ∧
    ∀ claimed ∈ claimedServer.claimed, ∀ env fault,
      (processClaimedIngestionJob sample env fault claimed claimedServer.store).2 ≠ .error (.check noIndexableChunks) := by
  have reachable : Reachable sample noHits claimedServer := freshRun_reachable (by decide +kernel)
  exact chunks_shaped (by decide) reachable

end Hangar
