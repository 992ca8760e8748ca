import Hangar.Ingestion.Leases

/-! The server process: what `main` does before it serves, the worker that it spawns, and the requests it answers. -/

namespace Hangar

open Lib

/-- The calls of `main` on the open store, before it serves. -/
inductive StartupCall where
  | expireDueMemories
  | recoverIncompleteIngestionJobs
  | reconcileVectorProjection
  | reconcileTextProjection
  | reconcileGraphProjection
deriving DecidableEq

/-- No process runs, or one is about to make a call of its start, or it serves while its worker is about to make a call
    of its loop. -/
inductive Phase where
  | down
  | starting (call : StartupCall)
  | claiming
  | processing (claimed : ClaimedIngestionJob)
  | failing (jobId : Uuid) (message : String)
deriving DecidableEq

def StartupCall.op (faults : Nat → Option Fault) : StartupCall → Op
  | .expireDueMemories => .knowledge .expireDueMemories
  | .recoverIncompleteIngestionJobs => .ingestion .recoverIncompleteIngestionJobs
  | .reconcileVectorProjection => .projection (.reconcileVectorProjection faults)
  | .reconcileTextProjection => .projection (.reconcileTextProjection faults)
  | .reconcileGraphProjection => .projection .reconcileGraphProjection

/-- What follows a call of the start that succeeds; the last one is followed by `spawn_ingestion_worker`. -/
def StartupCall.next : StartupCall → Phase
  | .expireDueMemories => .starting .recoverIncompleteIngestionJobs
  | .recoverIncompleteIngestionJobs => .starting .reconcileVectorProjection
  | .reconcileVectorProjection => .starting .reconcileTextProjection
  | .reconcileTextProjection => .starting .reconcileGraphProjection
  | .reconcileGraphProjection => .claiming

def Phase.serving : Phase → Bool
  | .down => false
  | .starting _ => false
  | .claiming => true
  | .processing _ => true
  | .failing _ _ => true

def Phase.recovered : Phase → Bool
  | .down => false
  | .starting .expireDueMemories => false
  | .starting .recoverIncompleteIngestionJobs => false
  | _ => true

def Phase.held : Phase → Option Uuid
  | .processing claimed => some claimed.job.id
  | .failing jobId _ => some jobId
  | _ => none

/-- A call that a request may lead to: those of the start and of the worker are the process's own. -/
def Op.requested : Op → Bool
  | .ingestion .recoverIncompleteIngestionJobs => false
  | .ingestion .claimNextIngestionJob => false
  | .ingestion (.processClaimedIngestionJob _ _) => false
  | .ingestion (.failClaimedIngestionJob _ _) => false
  | .projection (.reconcileVectorProjection _) => false
  | .projection (.reconcileTextProjection _) => false
  | .projection .reconcileGraphProjection => false
  | .restart _ => false
  | _ => true

def Phase.ofClaims : List ClaimedIngestionJob → Phase
  | [claimed] => .processing claimed
  | _ => .claiming

def Phase.call (provider : EmbeddingProvider) (faults : Nat → Option Fault) : Phase → Op
  | .down => .restart provider
  | .starting call => call.op faults
  | .claiming => claimJob
  | .processing claimed => .ingestion (.processClaimedIngestionJob claimed (faults 0))
  | .failing jobId message => .ingestion (.failClaimedIngestionJob jobId message)

/-- The text of an error; what an external one reads is up to the component that raised it. -/
def Failure.message (external : String) : Failure → String
  | .check message => message
  | .external _ => external

def Phase.after (claims : List ClaimedIngestionJob) (external : String) (outcome : Except Failure Unit) : Phase → Phase
  | .down => .starting .expireDueMemories
  | .starting call =>
    match outcome with
    | .ok _ => call.next
    | .error _ => .down
  | .claiming => .ofClaims claims
  | .processing claimed =>
    match outcome with
    | .ok _ => .claiming
    | .error e => .failing claimed.job.id (e.message external)
  | .failing _ _ => .claiming

structure Process where
  server : Server
  phase : Phase

variable (x : Externals) (engines : SearchEngines)

def Event.outcome (event : Event) (server : Server) : Except Failure Unit :=
  (callStore x engines event.env event.op server.store).2

def Process.proceed (env : Env) (provider : EmbeddingProvider) (faults : Nat → Option Fault) (external : String)
    (p : Process) : Process :=
  let event : Event := ⟨env, p.phase.call provider faults⟩
  ⟨p.server.next x engines event,
    p.phase.after (event.op.claims env p.server.store) external (event.outcome x engines p.server)⟩

inductive Process.Moves : Process → Option Event → Process → Prop where
  | crash {p : Process} : Moves p none ⟨p.server, .down⟩
  | answers {p : Process} {event : Event} (fresh : event.env.Fresh p.server) (serving : p.phase.serving = true)
      (requested : event.op.requested = true) : Moves p (some event) ⟨p.server.next x engines event, p.phase⟩
  | proceeds {p : Process} {env : Env} {provider : EmbeddingProvider} {faults : Nat → Option Fault} {external : String}
      (fresh : env.Fresh p.server) :
      Moves p (some ⟨env, p.phase.call provider faults⟩) (p.proceed x engines env provider faults external)

def Process.initial (provider : EmbeddingProvider) : Process := ⟨Server.initial provider, .down⟩

def storeCalls (trace : List (Process × Option Event)) : List (Server × Event) :=
  trace.filterMap fun q => q.2.map fun event => (q.1.server, event)

/-- A request that is answered, or a call of the process's own, and how many ids are set aside for it. -/
structure Turn where
  now : Nat
  request : Option Op
  fault : Option Fault
  drawn : Nat

def Turn.call (turn : Turn) (first : Nat) (p : Process) : Event where
  env := serialEnv turn.now first
  op :=
    match turn.request with
    | some op => op
    | none => p.phase.call .hashingV1 fun _ => turn.fault

def Turn.take (turn : Turn) (first : Nat) (p : Process) : Process :=
  match turn.request with
  | some op => ⟨p.server.next x engines ⟨serialEnv turn.now first, op⟩, p.phase⟩
  | none => p.proceed x engines (serialEnv turn.now first) .hashingV1 (fun _ => turn.fault) "disk full"

def takeTurns : Process → Nat → List Turn → Process
  | p, _, [] => p
  | p, first, turn :: turns => takeTurns (turn.take x engines first p) (first + turn.drawn) turns

def turnTrace : Process → Nat → List Turn → List (Process × Option Event)
  | _, _, [] => []
  | p, first, turn :: turns =>
    (p, some (turn.call first p)) :: turnTrace (turn.take x engines first p) (first + turn.drawn) turns

def TurnsLegal : Process → Nat → List Turn → Prop
  | _, _, [] => True
  | p, first, turn :: turns =>
    p.server.Serial first ∧ (∀ op ∈ turn.request, p.phase.serving = true ∧ op.requested = true) ∧
      TurnsLegal (turn.take x engines first p) (first + turn.drawn) turns

def decideTurnsLegal : (p : Process) → (first : Nat) → (turns : List Turn) → Decidable (TurnsLegal x engines p first turns)
  | _, _, [] => isTrue trivial
  | p, first, turn :: turns =>
    have := decideTurnsLegal (turn.take x engines first p) (first + turn.drawn) turns
    inferInstanceAs (Decidable (_ ∧ _ ∧ _))

instance {p : Process} {first : Nat} {turns : List Turn} : Decidable (TurnsLegal x engines p first turns) :=
  decideTurnsLegal x engines p first turns

variable {x : Externals} {engines : SearchEngines} {p p' : Process} {event : Event}

theorem turnTrace_run {first : Nat} {turns : List Turn} (legal : TurnsLegal x engines p first turns) :
    Run (Process.Moves x engines) p (turnTrace x engines p first turns) (takeTurns x engines p first turns) := by
  induction turns generalizing p first with
  | nil => exact .start
  | cons turn turns ih =>
    obtain ⟨serial, answered, legal⟩ := legal
    obtain ⟨now, request, fault, drawn⟩ := turn
    have moves : Process.Moves x engines p (some (Turn.call ⟨now, request, fault, drawn⟩ first p))
        (Turn.take x engines ⟨now, request, fault, drawn⟩ first p) := by
      cases request with
      | none => exact .proceeds serial.fresh
      | some op =>
        obtain ⟨serving, requested⟩ := answered op rfl
        exact .answers serial.fresh serving requested
    exact (Run.single moves).append (ih legal)

def Turn.proceed (now drawn : Nat) : Turn := ⟨now, none, none, drawn⟩

def claimedTurns : List Turn :=
  [.proceed 1 0, .proceed 2 0, .proceed 3 0, .proceed 4 0, .proceed 5 0, .proceed 6 0, ⟨7, some enqueueAlpha, none, 4⟩,
    .proceed 8 0]

def claimedProcess : Process := takeTurns sample noHits (Process.initial .hashingV1) 0 claimedTurns

def claimedTrace : List (Process × Option Event) := turnTrace sample noHits (Process.initial .hashingV1) 0 claimedTurns

theorem claimedTrace_run : Run (Process.Moves sample noHits) (Process.initial .hashingV1) claimedTrace claimedProcess :=
  turnTrace_run (by decide +kernel)

theorem Process.Moves.call (moves : Process.Moves x engines p (some event) p') :
    event.env.Fresh p.server ∧ p'.server = p.server.next x engines event := by
  cases moves with
  | answers fresh _ _ => exact ⟨fresh, rfl⟩
  | proceeds fresh => exact ⟨fresh, rfl⟩

def Process.Entitled (p : Process) : Prop := ∀ claimed, p.phase = .processing claimed → claimed ∈ p.server.claimed

theorem Phase.ofClaims_eq {claims : List ClaimedIngestionJob} {claimed : ClaimedIngestionJob}
    (held : Phase.ofClaims claims = .processing claimed) : claims = [claimed] := by
  unfold Phase.ofClaims at held
  split at held
  · cases held
    rfl
  · cases held

theorem requested_permitted {op : Op} {server : Server} (requested : op.requested = true) : op.Permitted server := by
  unfold Op.Permitted
  split
  · cases requested
  · trivial

theorem Process.Moves.permitted (moves : Process.Moves x engines p (some event) p') (entitled : p.Entitled) :
    event.op.Permitted p.server := by
  cases moves with
  | answers _ _ requested => exact requested_permitted requested
  | proceeds =>
    obtain ⟨server, phase⟩ := p
    cases phase with
    | down => trivial
    | starting call => cases call <;> trivial
    | claiming => trivial
    | processing claimed => exact entitled claimed rfl
    | failing jobId message => trivial

theorem Process.Moves.step (moves : Process.Moves x engines p (some event) p') (entitled : p.Entitled) :
    Step x engines p.server event p'.server :=
  ⟨moves.call.1, moves.permitted entitled, moves.call.2⟩

theorem Process.Moves.entitled {label : Option Event} (moves : Process.Moves x engines p label p')
    (entitled : p.Entitled) : p'.Entitled := by
  intro claimed held
  cases moves with
  | crash => cases held
  | answers => exact List.mem_append_left _ (entitled claimed held)
  | proceeds =>
    obtain ⟨server, phase⟩ := p
    simp only [Process.proceed] at held ⊢
    cases phase with
    | down => cases held
    | starting call =>
      simp only [Phase.after] at held
      split at held
      · cases call <;> cases held
      · cases held
    | claiming =>
      have handed := Phase.ofClaims_eq held
      exact List.mem_append_right _ (List.mem_of_mem_head? (congrArg List.head? handed))
    | processing own =>
      simp only [Phase.after] at held
      split at held <;> cases held
    | failing => cases held

theorem Process.calls {trace : List (Process × Option Event)} (run : Run (Process.Moves x engines) p trace p')
    (entitled : p.Entitled) : p'.Entitled ∧ Run (Step x engines) p.server (storeCalls trace) p'.server := by
  induction run with
  | start => exact ⟨entitled, .start⟩
  | @next trace q q' label _ moves ih =>
    obtain ⟨entitled, calls⟩ := ih
    refine ⟨moves.entitled entitled, ?_⟩
    cases label with
    | none =>
      cases moves
      simpa [storeCalls] using calls
    | some event =>
      have taken := calls.next (moves.step entitled)
      simpa [storeCalls, List.filterMap_append] using taken

/-- Every run of processes on one data directory is a run of the store. -/
theorem process_refines_server {provider : EmbeddingProvider} {trace : List (Process × Option Event)}
    (run : Run (Process.Moves x engines) (Process.initial provider) trace p) :
    Run (Step x engines) (Server.initial provider) (storeCalls trace) p.server := (Process.calls run fun _ held => by cases held).2

theorem process_refines_server_claimed :
    Run (Step sample noHits) (Server.initial .hashingV1) (storeCalls claimedTrace) claimedProcess.server :=
  process_refines_server claimedTrace_run

end Hangar
