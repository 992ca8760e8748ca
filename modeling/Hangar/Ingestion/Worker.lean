import Hangar.Ingestion.Serving

namespace Hangar

open Lib

variable {x : Externals} {engines : SearchEngines} {p p' : Process} {event : Event}

theorem leased_before {policy : RetryPolicy} {now attempts : Nat} {task : Option Task} {action : Option TaskAction}
    (taken : policy.Takes now task action (some ⟨.leased, attempts⟩)) (other : action ≠ some .lease) :
    task = some ⟨.leased, attempts⟩ ∧ action = none := by
  cases action with
  | none => exact ⟨taken.symm, rfl⟩
  | some action =>
    obtain ⟨next, acts, same⟩ := taken
    cases same
    cases acts
    exact absurd rfl other

theorem leased_after {policy : RetryPolicy} {now attempts : Nat} {task' : Option Task} {action : Option TaskAction}
    (taken : policy.Takes now (some ⟨.leased, attempts⟩) action task') :
    task' = some ⟨.leased, attempts⟩ ∨ action = some .complete ∨ action = some .fail ∨ action = some .release := by
  cases action with
  | none => exact .inl taken
  | some action =>
    obtain ⟨next, acts, _⟩ := taken
    cases acts with
    | complete => exact .inr (.inl rfl)
    | retry => exact .inr (.inr (.inl rfl))
    | abandon => exact .inr (.inr (.inl rfl))
    | release => exact .inr (.inr (.inr rfl))

section
variable {env : Env} {s s' : Store} {id : Uuid} {op : Op}

theorem told_cases {α : Type} {tell : α → Option TaskAction} {outcome : Result (Store × α)}
    {P : Option TaskAction → Prop} (nothing : P none) (each : ∀ result, P (tell result)) : P (told tell outcome) := by
  cases outcome with
  | error _ => exact nothing
  | ok result => exact each result.2

def RequestAction (action : Option TaskAction) : Prop :=
  action = none ∨ action = some .accept ∨ action = some .revive

theorem requested_action (requested : op.requested = true) : RequestAction (op.action x env s id) := by
  have accepts (receipt : IngestionReceipt) : RequestAction (receipt.accepts id) := by
    unfold IngestionReceipt.accepts
    split
    · exact .inr (.inl rfl)
    · exact .inl rfl
  have revives (revived : Option IngestionJob) :
      RequestAction (revived.bind fun job => if job.id = id then some .revive else none) := by
    cases revived with
    | none => exact .inl rfl
    | some job =>
      rw [Option.bind_some]
      split
      · exact .inr (.inr rfl)
      · exact .inl rfl
  cases op with
  | ingestion call =>
    cases call with
    | enqueueDocument new => exact told_cases (.inl rfl) accepts
    | enqueueDocumentWithLimits new limits => exact told_cases (.inl rfl) accepts
    | retryDeadLetterIngestionJob key organizationId workspaceId => exact told_cases (.inl rfl) revives
    | recoverIncompleteIngestionJobs => cases requested
    | claimNextIngestionJob => cases requested
    | processClaimedIngestionJob claimed fault => cases requested
    | failClaimedIngestionJob jobId error => cases requested
  | _ => exact .inl rfl

theorem processClaimedIngestionJob_succeeds {fault : Option Fault} {claimed : ClaimedIngestionJob} :
    Program.Triple (processClaimedIngestionJob x env fault claimed) s
      (fun _ s' => s'.jobSucceeded claimed.job.id = true) (fun _ _ => True) := by
  unfold processClaimedIngestionJob
  have first : Program.Triple (Program.transaction (prepareIngestion x env claimed)) s
      (fun prepared _ => prepared.jobKey = claimed.job.id) (fun _ _ => True) := by
    refine Program.Triple.transaction (fun prepared s₁ run => ?_) fun _ _ => trivial
    obtain ⟨_, _, _, _, _, _, _, _, _, _, _, rfl⟩ := prepareIngestion_ok run
    rfl
  refine first.bind fun prepared s₁ named => ?_
  have any {α : Type} {p : Call α} {s : Store} : Program.Triple p s (fun _ _ => True) (fun _ _ => True) := by
    constructor
    rcases p s with ⟨_, _ | _⟩ <;> trivial
  refine any.bind fun _ s₂ _ => any.bind fun _ s₃ _ => any.bind fun _ s₄ _ => any.bind fun generation s₅ _ => ?_
  have second : Program.Triple (Program.transaction (completeIngestion x env prepared generation)) s₅
      (fun _ s' => s'.jobSucceeded claimed.job.id = true) (fun _ _ => True) := by
    refine Program.Triple.transaction (fun job s₆ run => ?_) fun _ _ => trivial
    obtain ⟨_, _, rfl, written⟩ := completeIngestion_ok run
    unfold Store.jobSucceeded
    rw [written, ← named]
    simp [IngestionJob.succeed]
  refine second.bind fun job s₆ done => ?_
  have kept {α : Type} {p : Call α} (frames : Program.Frames Store.records p) {s : Store}
      (done : s.jobSucceeded claimed.job.id = true) : Program.Triple p s
        (fun _ s' => s'.jobSucceeded claimed.job.id = true) (fun _ _ => True) := by
    refine frames.triple.weaken (fun _ s' same => ?_) fun _ _ _ => trivial
    unfold Store.jobSucceeded
    rw [Store.ingestion_of_records same]
    exact done
  refine (kept stopAt_frames done).bind fun _ s₇ done => ?_
  exact (kept cleanupTextGenerations_frames.attempt done).bind fun _ s₈ done => .pure done

theorem task_eq_leased {attempts : Nat} (leased : s.task id = some ⟨.leased, attempts⟩) :
    ∃ job, s.ingestion.jobs[id]? = some job ∧ job.status = .processing := by
  obtain ⟨job, found, same⟩ := Option.map_eq_some_iff.mp leased
  have stage : job.stage = .leased := congrArg Task.stage same
  unfold IngestionJob.stage at stage
  refine ⟨job, found, ?_⟩
  cases status : job.status <;> simp_all

theorem task_of_processing {job : IngestionJob} (found : s.ingestion.jobs[id]? = some job)
    (processing : job.status = .processing) : s.task id = some ⟨.leased, job.attempts⟩ := by
  simp [Store.task, found, IngestionJob.task, IngestionJob.stage, processing]

theorem failClaimedIngestionJob_succeeds (valid : IngestionIntegrity x s.ingestion) {jobId : Uuid} {message : String}
    (told : isBlank message = false) {attempts : Nat} (leased : s.task jobId = some ⟨.leased, attempts⟩) :
    ∃ result, failClaimedIngestionJob env s jobId message = .ok result := by
  obtain ⟨job, found, processing⟩ := task_eq_leased leased
  obtain ⟨document, documentFound, _⟩ := valid.document found
  unfold failClaimedIngestionJob
  have named : check (!isBlank message) "ingestion error cannot be empty" = .ok () := ensure_eq_ok.mpr (by simp [told])
  have leasedCheck : check (job.status = .processing) "only a processing job may fail" = .ok () :=
    ensure_eq_ok.mpr processing
  refine bind_succeeds named (bind_succeeds (context_eq_ok.mpr found) (bind_succeeds leasedCheck ?_))
  exact bind_succeeds (context_eq_ok.mpr documentFound) ⟨_, rfl⟩

end

/-- A failure that the worker could not record, for its error reads blank. -/
def Unrecorded (trace : List (Process × Option Event)) (id : Uuid) : Prop :=
  ∃ q ∈ trace, ∃ env message, q.2 = some ⟨env, .ingestion (.failClaimedIngestionJob id message)⟩ ∧ isBlank message = true

/-- The jobs being processed are those that the worker has in hand, once those of earlier processes are recovered. -/
structure Process.Accounts (p : Process) (trace : List (Process × Option Event)) : Prop where
  held : p.phase.recovered = true → ∀ id attempts, p.server.store.task id = some ⟨.leased, attempts⟩ →
    p.phase.held = some id ∨ Unrecorded trace id
  leased : ∀ claimed, p.phase = .processing claimed → ∃ attempts,
    p.server.store.task claimed.job.id = some ⟨.leased, attempts⟩

section
variable {trace : List (Process × Option Event)} {id : Uuid} {attempts : Nat}

theorem Unrecorded.later {q : Process × Option Event} (unrecorded : Unrecorded trace id) :
    Unrecorded (trace ++ [q]) id := by
  obtain ⟨r, member, failed⟩ := unrecorded
  exact ⟨r, List.mem_append_left _ member, failed⟩

/-- A startup call leases nothing, and the recovery leaves nothing leased. -/
theorem StartupCall.takes {call : StartupCall} {faults : Nat → Option Fault} {env : Env} {server server' : Server}
    (taken : Step x engines server ⟨env, call.op faults⟩ server') (valid : IngestionIntegrity x server.store.ingestion)
    (leased : server'.store.task id = some ⟨.leased, attempts⟩) :
    server.store.task id = some ⟨.leased, attempts⟩ ∧ call ≠ .recoverIncompleteIngestionJobs := by
  have takes := @Step.takes x engines id server server' _ taken valid
  rw [leased] at takes
  cases call with
  | recoverIncompleteIngestionJobs =>
    obtain ⟨before, idle⟩ := leased_before takes (told_ne fun _ => by split <;> simp)
    obtain ⟨result, run⟩ := @recoverIncompleteIngestionJobs_total x env server.store valid
    obtain ⟨job, found, processing⟩ := task_eq_leased before
    simp [StartupCall.op, Op.action, run, told, found, processing] at idle
  | expireDueMemories => exact ⟨(leased_before takes (by simp [StartupCall.op, Op.action])).1, by simp⟩
  | reconcileVectorProjection => exact ⟨(leased_before takes (by simp [StartupCall.op, Op.action])).1, by simp⟩
  | reconcileTextProjection => exact ⟨(leased_before takes (by simp [StartupCall.op, Op.action])).1, by simp⟩
  | reconcileGraphProjection => exact ⟨(leased_before takes (by simp [StartupCall.op, Op.action])).1, by simp⟩

theorem leased_of_claims {env : Env} {s s' : Store} {claimed : ClaimedIngestionJob}
    (takes : ingestionPolicy.Takes env.now (s.task claimed.job.id) (claimJob.action x env s claimed.job.id)
      (s'.task claimed.job.id)) (handed : claimed ∈ claimJob.claims env s) :
    ∃ attempts, s'.task claimed.job.id = some ⟨.leased, attempts⟩ := by
  have acts : claimJob.action x env s claimed.job.id = some .lease := action_eq_lease.mpr ⟨claimed, handed, rfl⟩
  rw [acts] at takes
  obtain ⟨next, acts, same⟩ := takes
  rw [same]
  generalize s.task claimed.job.id = task at acts
  cases acts
  exact ⟨_, rfl⟩

def Process.Takes (x : Externals) (server server' : Server) (event : Event) : Prop :=
  ∀ id, ingestionPolicy.Takes event.env.now (server.store.task id) (event.op.action x event.env server.store id)
    (server'.store.task id)

variable {server server' : Server} {label : Option Event}

theorem Process.Accounts.request {phase : Phase} (accounts : Process.Accounts ⟨server, phase⟩ trace)
    (takes : Process.Takes x server server' event) (serving : phase.serving = true)
    (requested : event.op.requested = true) :
    Process.Accounts ⟨server', phase⟩ (trace ++ [(⟨server, phase⟩, label)]) := by
  have recovered : phase.recovered = true := by cases phase <;> first | rfl | cases serving
  constructor
  · intro _ id attempts leased
    have after := takes id
    rw [leased] at after
    have other : event.op.action x event.env server.store id ≠ some .lease := by
      rcases @requested_action x event.env server.store id event.op requested with acts | acts | acts <;> simp [acts]
    exact (accounts.held recovered id attempts (leased_before after other).1).imp_right .later
  · intro claimed held
    obtain ⟨attempts, before⟩ := accounts.leased claimed held
    have after := takes claimed.job.id
    rw [before] at after
    refine ⟨attempts, ?_⟩
    rcases leased_after after with same | other
    · exact same
    · exfalso
      rcases @requested_action x event.env server.store claimed.job.id event.op requested with acts | acts | acts <;>
        simp [acts] at other

theorem Process.Accounts.claim {env : Env} (accounts : Process.Accounts ⟨server, .claiming⟩ trace)
    (takes : Process.Takes x server server' ⟨env, claimJob⟩) :
    Process.Accounts ⟨server', .ofClaims (claimJob.claims env server.store)⟩
      (trace ++ [(⟨server, .claiming⟩, label)]) := by
  constructor
  · intro _ id attempts leased
    have after := takes id
    rw [leased] at after
    by_cases acts : claimJob.action x env server.store id = some .lease
    · obtain ⟨claimed, handed, same⟩ := action_eq_lease.mp acts
      change claimed ∈ claimJob.claims env server.store at handed
      left
      rcases @Op.claims_le_one env server.store claimJob with none | ⟨one, only⟩
      · rw [none] at handed
        cases handed
      · rw [only, List.mem_singleton] at handed
        rw [only, ← same, handed]
        rfl
    · rcases accounts.held rfl id attempts (leased_before after acts).1 with held | unrecorded
      · cases held
      · exact .inr unrecorded.later
  · intro claimed held
    have handed : claimed ∈ claimJob.claims env server.store := by simp [Phase.ofClaims_eq held]
    exact leased_of_claims (takes claimed.job.id) handed

/-- After an attempt the worker either has its job still in hand or has completed it. -/
theorem Process.Accounts.process {env : Env} {claimed : ClaimedIngestionJob} {fault : Option Fault} {phase : Phase}
    (accounts : Process.Accounts ⟨server, .processing claimed⟩ trace)
    (takes : Process.Takes x server server' ⟨env, .ingestion (.processClaimedIngestionJob claimed fault)⟩)
    (free : ∀ claimed', phase ≠ .processing claimed')
    (done : phase.held = some claimed.job.id ∨ server'.store.jobSucceeded claimed.job.id = true) :
    Process.Accounts ⟨server', phase⟩ (trace ++ [(⟨server, .processing claimed⟩, label)]) := by
  refine ⟨?_, fun claimed' held => absurd held (free claimed')⟩
  intro _ id attempts leased
  have after := takes id
  rw [leased] at after
  have other : (Op.ingestion (.processClaimedIngestionJob claimed fault)).action x env server.store id ≠ some .lease := by
    simp only [Op.action]
    split <;> simp
  rcases accounts.held rfl id attempts (leased_before after other).1 with held | unrecorded
  · have same : claimed.job.id = id := Option.some.inj held
    subst same
    rcases done with held | succeeded
    · exact .inl held
    · obtain ⟨job, found, processing⟩ := task_eq_leased leased
      simp [Store.jobSucceeded, found, processing] at succeeded
  · exact .inr unrecorded.later

theorem Process.Accounts.fail {env : Env} {jobId : Uuid} {message : String}
    (accounts : Process.Accounts ⟨server, .failing jobId message⟩ trace)
    (valid : IngestionIntegrity x server.store.ingestion)
    (takes : Process.Takes x server server' ⟨env, .ingestion (.failClaimedIngestionJob jobId message)⟩) :
    Process.Accounts ⟨server', .claiming⟩ (trace ++ [(⟨server, .failing jobId message⟩,
      some ⟨env, .ingestion (.failClaimedIngestionJob jobId message)⟩)]) := by
  refine ⟨?_, fun _ held => by cases held⟩
  intro _ id attempts leased
  have after := takes id
  rw [leased] at after
  have other : (Op.ingestion (.failClaimedIngestionJob jobId message)).action x env server.store id ≠ some .lease :=
    told_ne fun _ => by split <;> simp
  obtain ⟨before, idle⟩ := leased_before after other
  rcases accounts.held rfl id attempts before with held | unrecorded
  · have same : jobId = id := Option.some.inj held
    subst same
    cases blank : isBlank message with
    | true => exact .inr ⟨_, List.mem_append_right _ List.mem_cons_self, env, message, rfl, blank⟩
    | false =>
      obtain ⟨result, run⟩ := @failClaimedIngestionJob_succeeds x env server.store valid jobId message blank attempts before
      simp [Op.action, run, told] at idle
  · exact .inr unrecorded.later

theorem Process.Accounts.start {env : Env} {call : StartupCall} {faults : Nat → Option Fault}
    (accounts : Process.Accounts ⟨server, .starting call⟩ trace) (taken : Step x engines server ⟨env, call.op faults⟩ server')
    (valid : IngestionIntegrity x server.store.ingestion) :
    Process.Accounts ⟨server', call.next⟩ (trace ++ [(⟨server, .starting call⟩, label)]) := by
  constructor
  · intro recovered id attempts leased
    obtain ⟨before, other⟩ := StartupCall.takes taken valid leased
    have earlier : (Phase.starting call).recovered = true := by
      cases call <;> first | rfl | exact absurd rfl other | cases recovered
    rcases accounts.held earlier id attempts before with held | unrecorded
    · cases held
    · exact .inr unrecorded.later
  · intro claimed held
    cases call <;> cases held

section
variable {env : Env} {claims : List ClaimedIngestionJob} {external : String} {outcome : Except Failure Unit}

theorem Process.Accounts.started {call : StartupCall} {faults : Nat → Option Fault}
    (accounts : Process.Accounts ⟨server, .starting call⟩ trace) (taken : Step x engines server ⟨env, call.op faults⟩ server')
    (valid : IngestionIntegrity x server.store.ingestion) :
    Process.Accounts ⟨server', Phase.after claims external outcome (.starting call)⟩
      (trace ++ [(⟨server, .starting call⟩, label)]) := by
  cases outcome with
  | ok => exact accounts.start taken valid
  | error => exact ⟨fun recovered => (by cases recovered), fun _ held => by cases held⟩

theorem Process.Accounts.attempted {claimed : ClaimedIngestionJob} {fault : Option Fault}
    (accounts : Process.Accounts ⟨server, .processing claimed⟩ trace)
    (takes : Process.Takes x server server' ⟨env, .ingestion (.processClaimedIngestionJob claimed fault)⟩)
    (done : outcome = .ok () → server'.store.jobSucceeded claimed.job.id = true) :
    Process.Accounts ⟨server', Phase.after claims external outcome (.processing claimed)⟩
      (trace ++ [(⟨server, .processing claimed⟩, label)]) := by
  cases outcome with
  | ok => exact accounts.process takes (fun _ held => by cases held) (.inr (done rfl))
  | error => exact accounts.process takes (fun _ held => by cases held) (.inl rfl)

end

theorem Process.Accounts.next (accounts : p.Accounts trace) (entitled : p.Entitled)
    (valid : IngestionIntegrity x p.server.store.ingestion) (moves : Process.Moves x engines p label p') :
    p'.Accounts (trace ++ [(p, label)]) := by
  cases label with
  | none =>
    cases moves
    exact ⟨fun recovered => (by cases recovered), fun _ held => by cases held⟩
  | some event =>
    have taken := moves.step entitled
    have takes : Process.Takes x p.server p'.server event := fun id => taken.takes valid
    cases moves with
    | answers _ serving requested => exact accounts.request takes serving requested
    | @proceeds env provider faults external fresh =>
      obtain ⟨server, phase⟩ := p
      cases phase with
      | down => exact ⟨fun recovered => (by cases recovered), fun _ held => by cases held⟩
      | starting call => exact accounts.started taken valid
      | claiming => exact accounts.claim takes
      | processing claimed =>
        refine accounts.attempted takes fun done => ?_
        have ran : Program.Triple (callStore x engines env (.ingestion (.processClaimedIngestionJob claimed (faults 0))))
            server.store (fun _ s' => s'.jobSucceeded claimed.job.id = true) (fun _ _ => True) :=
          processClaimedIngestionJob_succeeds.bind fun _ _ done => .pure done
        exact ran.ok (Program.run_of_result done)
      | failing jobId message => exact accounts.fail valid takes

theorem Process.accounts {provider : EmbeddingProvider}
    (run : Run (Process.Moves x engines) (Process.initial provider) trace p) : p.Entitled ∧ p.Accounts trace := by
  induction run with
  | start => exact ⟨fun _ held => (by cases held), ⟨fun recovered => (by cases recovered), fun _ held => by cases held⟩⟩
  | next before moves ih =>
    obtain ⟨entitled, accounts⟩ := ih
    have valid := Reachable.integrity ⟨provider, _, process_refines_server before⟩
    exact ⟨moves.entitled entitled, accounts.next entitled valid moves⟩

/-- Once a process has recovered the jobs of earlier ones, a job is being processed only while the worker has it in
    hand, unless its failure could not be recorded. -/
theorem worker_holds_processing {provider : EmbeddingProvider}
    (run : Run (Process.Moves x engines) (Process.initial provider) trace p) (recovered : p.phase.recovered = true)
    {job : IngestionJob} (found : p.server.store.ingestion.jobs[id]? = some job) (processing : job.status = .processing) :
    p.phase.held = some id ∨ Unrecorded trace id :=
  (Process.accounts run).2.held recovered id _ (task_of_processing found processing)

def Phase.isProcessing : Phase → Bool
  | .processing _ => true
  | _ => false

theorem claimedProcess_facts :
    claimedProcess.server.store.ingestion.jobs[serialUuid 0]?.map IngestionJob.status = some .processing ∧
      claimedProcess.phase.recovered = true ∧ claimedProcess.phase.isProcessing = true := by
  decide +kernel

theorem worker_holds_processing_claimed : ∃ job, claimedProcess.server.store.ingestion.jobs[serialUuid 0]? = some job ∧
    (claimedProcess.phase.held = some (serialUuid 0) ∨ Unrecorded claimedTrace (serialUuid 0)) := by
  obtain ⟨status, recovered, _⟩ := claimedProcess_facts
  obtain ⟨job, found, processing⟩ := Option.map_eq_some_iff.mp status
  exact ⟨job, found, worker_holds_processing claimedTrace_run recovered found processing⟩

def refusalMessages : List String :=
  ["ingestion job not found", "ingestion job is not leased for processing", "ingestion document not found",
    "document/job mismatch"]

/-- The worker's own claims are never refused, whatever requests and earlier processes did. -/
theorem worker_claim_accepted {provider : EmbeddingProvider}
    (run : Run (Process.Moves x engines) (Process.initial provider) trace p) {claimed : ClaimedIngestionJob}
    (held : p.phase = .processing claimed) (env : Env) (fault : Option Fault) :
    Avoids (Failure.Among refusalMessages) (processClaimedIngestionJob x env fault claimed p.server.store).2 := by
  obtain ⟨entitled, accounts⟩ := Process.accounts run
  have reachable : Reachable x engines p.server := ⟨provider, _, process_refines_server run⟩
  have valid := reachable.integrity
  obtain ⟨attempts, leased⟩ := accounts.leased claimed held
  obtain ⟨job, found, processing⟩ := task_eq_leased leased
  obtain ⟨stored, storedFound, owned, _⟩ := reachable.claims claimed (entitled claimed held)
  rw [found] at storedFound
  cases storedFound
  obtain ⟨document, documentFound, matched, _⟩ := valid.document found
  rw [owned] at documentFound
  refine processClaimedIngestionJob_avoids_of (by decide) (by decide) ?_
  refine (check_avoids (by decide)).bind fun _ _ => ?_
  refine (found_avoids fun absent => ?_).bind fun job' same => ?_
  · simp [found] at absent
  rw [context_eq_ok, found] at same
  cases same
  refine Avoids.bind ?_ fun _ _ => (found_avoids fun absent => ?_).bind fun document' same => ?_
  · exact Avoids.of_ok (a := ()) (ensure_eq_ok.mpr processing)
  · simp [documentFound] at absent
  rw [context_eq_ok, documentFound] at same
  cases same
  refine Avoids.bind ?_ fun _ _ => (prepareProjection_avoids (by decide)).bind fun _ _ => Avoids.pure
  exact Avoids.of_ok (a := ()) (ensure_eq_ok.mpr (matched.trans (valid.jobId found).symm))

theorem worker_claim_accepted_claimed : ∃ claimed, claimedProcess.phase = .processing claimed ∧
    Avoids (Failure.Among refusalMessages)
      (processClaimedIngestionJob sample (serialEnv 9 4) none claimed claimedProcess.server.store).2 := by
  obtain ⟨_, _, processing⟩ := claimedProcess_facts
  cases phase : claimedProcess.phase with
  | processing claimed => exact ⟨claimed, rfl, worker_claim_accepted claimedTrace_run phase (serialEnv 9 4) none⟩
  | _ => simp [phase, Phase.isProcessing] at processing

end

end Hangar
