import Hangar.Ingestion.Effects
import Hangar.Knowledge.Effects

namespace Hangar

open Lib

def Store.withoutCatalog (s : Store) : Store :=
  { s with catalog := ⟨∅, ∅⟩, apiKeys := ∅, journal := ⟨∅, ∅⟩ }

def Store.withoutBlobs (s : Store) : Store := { s with blobs := ⟨∅, ∅⟩ }

def Store.withoutIngestion (s : Store) : Store :=
  { s.withoutProjection with ingestion := ⟨∅, ∅, ∅, ∅, ∅⟩ }

variable {x : Externals} {engines : SearchEngines} {env : Env} {s s' : Store}

theorem callCatalog_frames {op : CatalogOp} : Program.Frames Store.withoutCatalog (callCatalog x env op) := by
  have transaction {α : Type} {f : Store → Result (Store × α)}
      (kept : ∀ s s' a, f s = .ok (s', a) → s'.withoutCatalog = s.withoutCatalog) :
      Program.Frames Store.withoutCatalog (do let _ ← Program.transaction f : Call Unit) :=
    (Program.Frames.transaction kept).bind fun _ => Program.Frames.pure
  cases op with
  | createSkill new =>
    refine transaction fun s s' skill run => ?_
    unfold createSkill at run
    obtain ⟨_, _, run⟩ := bind_eq_ok.mp run
    obtain ⟨_, _, run⟩ := bind_eq_ok.mp run
    obtain ⟨_, _, run⟩ := bind_eq_ok.mp run
    obtain ⟨_, _, run⟩ := bind_eq_ok.mp run
    obtain ⟨_, _, run⟩ := bind_eq_ok.mp run
    cases run
    rfl
  | transitionSkill id organizationId workspaceId lifecycle =>
    refine transaction fun s s' skill run => ?_
    unfold transitionSkill at run
    cases stored : s.catalog.agentSkills[id]? with
    | none =>
      simp only [stored] at run
      cases run
      rfl
    | some skill =>
      simp only [stored] at run
      obtain ⟨_, _, run⟩ := bind_eq_ok.mp run
      obtain ⟨_, _, run⟩ := bind_eq_ok.mp run
      cases run
      rfl
  | createGuardrailPolicy new =>
    refine transaction fun s s' policy run => ?_
    unfold createGuardrailPolicy at run
    obtain ⟨_, _, run⟩ := bind_eq_ok.mp run
    obtain ⟨_, _, run⟩ := bind_eq_ok.mp run
    obtain ⟨_, _, run⟩ := bind_eq_ok.mp run
    cases run
    rfl
  | transitionGuardrailPolicy id organizationId workspaceId lifecycle =>
    refine transaction fun s s' policy run => ?_
    unfold transitionGuardrailPolicy at run
    cases stored : s.catalog.guardrailPolicies[id]? with
    | none =>
      simp only [stored] at run
      cases run
      rfl
    | some policy =>
      simp only [stored] at run
      obtain ⟨_, _, run⟩ := bind_eq_ok.mp run
      obtain ⟨_, _, run⟩ := bind_eq_ok.mp run
      cases run
      rfl
  | issueApiKeyForSubject organizationId workspaceId role subjectKind =>
    refine transaction fun s s' issued run => ?_
    unfold issueApiKeyForSubject at run
    obtain ⟨_, _, run⟩ := bind_eq_ok.mp run
    obtain ⟨_, _, run⟩ := bind_eq_ok.mp run
    cases run
    rfl

theorem putBlob_frames {fault : Option WriteFault} {organizationId workspaceId mediaType sha256 : String}
    {content : List UInt8} : Program.Frames Store.withoutBlobs
      (putBlob x fault organizationId workspaceId mediaType content sha256) := by
  have write : Program.Frames Store.withoutBlobs (writeBlob fault sha256 content) := by
    unfold writeBlob
    split
    · exact Program.Frames.update (by intro s; rfl)
    · exact Program.Frames.fail
    · exact Program.Frames.bind (Program.Frames.update (by intro s; rfl)) fun _ => Program.Frames.fail
  refine Program.Frames.query.bind fun _ => Program.Frames.query.bind fun deduplicated => ?_
  have commit : Program.Frames Store.withoutBlobs (Program.transaction fun s =>
      (.ok (s.writeBlobManifest (blobKey organizationId workspaceId sha256)
        ⟨organizationId, workspaceId, x.sha256 content, content.length, mediaType⟩, ()) : Result (Store × Unit))) := by
    refine Program.Frames.transaction fun s s' _ run => ?_
    cases run
    rfl
  cases deduplicated with
  | true => exact commit.bind fun _ => Program.Frames.pure
  | false => exact write.bind fun _ => commit.bind fun _ => Program.Frames.pure

theorem callBlob_frames {op : BlobOp} : Program.Frames Store.withoutBlobs (callBlob x op) := by
  cases op with
  | putBlob organizationId workspaceId mediaType content sha256 fault =>
    exact putBlob_frames.bind fun _ => Program.Frames.pure
  | putBlobWithLimits organizationId workspaceId mediaType content sha256 limits fault =>
    exact (Program.Frames.query.bind fun _ => putBlob_frames).bind fun _ => Program.Frames.pure

theorem callKnowledge_frames {op : KnowledgeOp} :
    Program.Frames Store.withoutKnowledge (callKnowledge x engines env op) := fun _ => callKnowledge_effect.2

theorem processClaimedIngestionJob_frames {fault : Option Fault} {claimed : ClaimedIngestionJob} :
    Program.Frames Store.withoutIngestion (processClaimedIngestionJob x env fault claimed) := by
  have quiet {α : Type} {p : Call α} (kept : Program.Frames Store.records p) :
      Program.Frames Store.withoutIngestion p := kept.of (g := Store.withoutIngestion) fun _ => rfl
  unfold processClaimedIngestionJob
  refine Program.Frames.bind (Program.Frames.transaction ?_) fun prepared => ?_
  · intro s s' prepared run
    obtain ⟨_, _, _, _, _, _, _, _, _, _, rfl, _⟩ := prepareIngestion_ok run
    rfl
  refine stopAt_frames.bind fun _ => Program.Frames.query.bind fun _ => ?_
  refine (quiet publishGenerationWithPending_frames).bind fun _ => ?_
  refine (quiet publishTextGenerationWithPending_frames).bind fun generation => ?_
  refine Program.Frames.bind (Program.Frames.transaction ?_) fun _ => ?_
  · intro s s' job run
    obtain ⟨_, _, _, written⟩ := completeIngestion_ok run
    rw [written]
    rfl
  refine stopAt_frames.bind fun _ => ?_
  exact (quiet cleanupTextGenerations_frames).attempt.bind fun _ => Program.Frames.pure

theorem callIngestion_frames {op : IngestionOp} :
    Program.Frames Store.withoutIngestion (callIngestion x env op) := by
  have transaction {α : Type} {f : Store → Result (Store × α)}
      (kept : ∀ s s' a, f s = .ok (s', a) → s'.withoutIngestion = s.withoutIngestion) :
      Program.Frames Store.withoutIngestion (do let _ ← Program.transaction f : Call Unit) :=
    (Program.Frames.transaction kept).bind fun _ => Program.Frames.pure
  have enqueue {s s' : Store} {new : NewDocument} {receipt : IngestionReceipt}
      (run : enqueueDocument x env s new = .ok (s', receipt)) : s'.withoutIngestion = s.withoutIngestion := by
    obtain ⟨_, ⟨_, _, _, _, _, _, rfl, _⟩ | ⟨_, _, written, _⟩⟩ := enqueueDocument_ok run
    · rfl
    · rw [written]
      rfl
  cases op with
  | enqueueDocument new => exact transaction fun s s' receipt run => enqueue run
  | enqueueDocumentWithLimits new limits =>
    exact transaction fun s s' receipt run => enqueue (enqueueDocumentWithLimits_ok run)
  | recoverIncompleteIngestionJobs =>
    refine transaction fun s s' recovered run => ?_
    unfold recoverIncompleteIngestionJobs at run
    obtain ⟨documents, _, run⟩ := bind_eq_ok.mp run
    cases run
    rfl
  | claimNextIngestionJob =>
    refine transaction fun s s' claimed run => ?_
    obtain ⟨rfl, _⟩ | ⟨_, _, _, _, _, _, _, _, _, rfl⟩ := claimNextIngestionJob_ok run
    · rfl
    · rfl
  | processClaimedIngestionJob claimed fault =>
    exact processClaimedIngestionJob_frames.bind fun _ => Program.Frames.pure
  | failClaimedIngestionJob jobId error =>
    refine transaction fun s s' job run => ?_
    obtain ⟨_, _, _, _, _, _, written⟩ := failClaimedIngestionJob_ok run
    rw [written]
    rfl
  | retryDeadLetterIngestionJob id organizationId workspaceId =>
    refine transaction fun s s' result run => ?_
    obtain ⟨rfl, _⟩ | ⟨_, _, _, _, _, _, rfl⟩ := retryDeadLetterIngestionJob_ok run
    · rfl
    · rfl

/-- A call keeps what is read of the store, if no call of its kind writes what is read. -/
theorem callStore_frame {γ : Type} {g : Store → γ} {op : Op}
    (ingestion : ∀ call, op = .ingestion call → ∀ s, g s = g (Store.withoutIngestion s))
    (projection : ∀ call, op = .projection call → ∀ s, g s = g (Store.withoutProjection s))
    (knowledge : ∀ call, op = .knowledge call → ∀ s, g s = g (Store.withoutKnowledge s))
    (catalog : ∀ call, op = .catalog call → ∀ s, g s = g (Store.withoutCatalog s))
    (blob : ∀ call, op = .blob call → ∀ s, g s = g (Store.withoutBlobs s))
    (audited : ∀ principal action resource, g (audit env s principal action resource) = g s)
    (restarted : ∀ provider, g { s with workingMemory := ⟨∅⟩, embeddingProvider := provider } = g s) :
    g (callStore x engines env op s).1 = g s := by
  cases op with
  | ingestion call => exact callIngestion_frames.of (ingestion call rfl) s
  | projection call => exact callProjection_frames.of (projection call rfl) s
  | knowledge call => exact callKnowledge_frames.of (knowledge call rfl) s
  | catalog call => exact callCatalog_frames.of (catalog call rfl) s
  | blob call => exact callBlob_frames.of (blob call rfl) s
  | audit principal action resource => exact audited principal action resource
  | restart provider => exact restarted provider

theorem callStore_ingestion {op : Op} (other : ∀ call, op ≠ .ingestion call) :
    (callStore x engines env op s).1.ingestion = s.ingestion := by
  apply callStore_frame (g := Store.ingestion)
  case ingestion => exact fun call same => absurd same (other call)
  all_goals intros; rfl

theorem callStore_projection {op : Op} (quiet : ∀ call, op ≠ .ingestion call) (other : ∀ call, op ≠ .projection call) :
    (callStore x engines env op s).1.projection = s.projection := by
  apply callStore_frame (g := Store.projection)
  case ingestion => exact fun call same => absurd same (quiet call)
  case projection => exact fun call same => absurd same (other call)
  all_goals intros; rfl

theorem callStore_knowledge {op : Op} (other : ∀ call, op ≠ .knowledge call) :
    (callStore x engines env op s).1.knowledge = s.knowledge := by
  apply callStore_frame (g := Store.knowledge)
  case knowledge => exact fun call same => absurd same (other call)
  all_goals intros; rfl

theorem callStore_blobs {op : Op} (other : ∀ call, op ≠ .blob call) :
    (callStore x engines env op s).1.blobs = s.blobs := by
  apply callStore_frame (g := Store.blobs)
  case blob => exact fun call same => absurd same (other call)
  all_goals intros; rfl

theorem callStore_step (valid : IngestionIntegrity x s.ingestion) {op : Op} :
    QueueStep x env s.ingestion (callStore x engines env op s).1.ingestion := by
  by_cases own : ∃ call, op = .ingestion call
  · obtain ⟨call, rfl⟩ := own
    exact callIngestion_step valid
  · rw [callStore_ingestion fun call same => own ⟨call, same⟩]
    exact .idle

theorem Step.integrity {server server' : Server} {event : Event} (taken : Step x engines server event server')
    (valid : IngestionIntegrity x server.store.ingestion) : IngestionIntegrity x server'.store.ingestion := by
  have unused (i : Nat) : server.store.ingestion.jobs[event.env.uuid i]? = none ∧
      server.store.ingestion.documents[event.env.uuid i]? = none := by
    have fresh := taken.fresh.unused i
    simp only [Server.Uses, not_or] at fresh
    exact ⟨Std.ExtTreeMap.getElem?_eq_none fresh.2.1, Std.ExtTreeMap.getElem?_eq_none fresh.1⟩
  have step : QueueStep x event.env server.store.ingestion server'.store.ingestion := by
    rw [taken.next]
    exact callStore_step valid
  generalize server'.store.ingestion = t' at step ⊢
  cases step with
  | accept new _ absent => exact valid.accept (unused 0).1 (unused 1).2 absent
  | moves moves =>
    induction moves with
    | refl => exact valid
    | tail _ move ih => exact ih.move move

theorem Reachable.integrity {server : Server} (reachable : Reachable x engines server) :
    IngestionIntegrity x server.store.ingestion := by
  obtain ⟨provider, reached⟩ := reachable
  exact reached.preserves (I := fun server => IngestionIntegrity x server.store.ingestion)
    IngestionIntegrity.empty fun _ _ _ valid taken => taken.integrity valid

end Hangar
