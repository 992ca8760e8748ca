import Hangar.Concrete
import Hangar.Edge.Addressed
import Hangar.Knowledge.Package
import Hangar.Knowledge.SessionReplies
import Hangar.Lib.Lockstep
import Hangar.Operations.Quotas

namespace Hangar.Http

open Lib

def caller (x : Externals) (headers : Headers) (s : Store) : Option Principal :=
  (presentedKey headers).bind fun token => authenticate x token s

/-- Two stores that agree on the API keys, on the records of a workspace and on the sessions its caller has there. -/
structure AlikeWithin (x : Externals) (headers : Headers) (scope : Scope) (s s' : Store) : Prop where
  apiKeys : s.apiKeys = s'.apiKeys
  memories : (s.knowledge.memories.filter fun _ memory =>
      inScope scope.organizationId scope.workspaceId memory.organizationId memory.workspaceId) =
    s'.knowledge.memories.filter fun _ memory =>
      inScope scope.organizationId scope.workspaceId memory.organizationId memory.workspaceId
  documents : (s.ingestion.documents.filter fun _ document =>
      inScope scope.organizationId scope.workspaceId document.organizationId document.workspaceId) =
    s'.ingestion.documents.filter fun _ document =>
      inScope scope.organizationId scope.workspaceId document.organizationId document.workspaceId
  jobs : (s.ingestion.jobs.filter fun _ job =>
      inScope scope.organizationId scope.workspaceId job.organizationId job.workspaceId) =
    s'.ingestion.jobs.filter fun _ job =>
      inScope scope.organizationId scope.workspaceId job.organizationId job.workspaceId
  shares : (s.knowledge.memoryShares.filter fun _ share =>
      inScope scope.organizationId scope.workspaceId share.organizationId share.sourceWorkspaceId) =
    s'.knowledge.memoryShares.filter fun _ share =>
      inScope scope.organizationId scope.workspaceId share.organizationId share.sourceWorkspaceId
  skills : (s.catalog.agentSkills.filter fun _ skill =>
      inScope scope.organizationId scope.workspaceId skill.organizationId skill.workspaceId) =
    s'.catalog.agentSkills.filter fun _ skill =>
      inScope scope.organizationId scope.workspaceId skill.organizationId skill.workspaceId
  policies : (s.catalog.guardrailPolicies.filter fun _ policy =>
      inScope scope.organizationId scope.workspaceId policy.organizationId policy.workspaceId) =
    s'.catalog.guardrailPolicies.filter fun _ policy =>
      inScope scope.organizationId scope.workspaceId policy.organizationId policy.workspaceId
  sessions : ∀ principal, caller x headers s = some principal →
    (s.workingMemory.sessions.filter fun _ session =>
      session.ownedBy scope.organizationId scope.workspaceId principal.id) =
    s'.workingMemory.sessions.filter fun _ session =>
      session.ownedBy scope.organizationId scope.workspaceId principal.id

structure Comparable (x : Externals) (headers : Headers) (scope : Scope) (s s' : Store) : Prop where
  alike : AlikeWithin x headers scope s s'
  knowledge : KnowledgeIntegrity s.knowledge
  knowledge' : KnowledgeIntegrity s'.knowledge
  ingestion : IngestionIntegrity x s.ingestion
  ingestion' : IngestionIntegrity x s'.ingestion

structure Served (x : Externals) (headers : Headers) (scope : Scope) (principal : Principal) (s s' : Store) : Prop
    extends Comparable x headers scope s s' where
  known : caller x headers s = some principal
  organization : principal.organizationId = scope.organizationId

/-- A transition supersedes a memory by another id, which is a memory's in one of the stores only. -/
def TellsApart (memory : Memory) (transition : MemoryTransition) (s s' : Store) : Prop :=
  transition.lifecycle = .superseded ∧ ∃ replacement, transition.supersededBy = some replacement ∧
    replacement ≠ memory.id ∧ ¬(replacement ∈ s.knowledge.memories ↔ replacement ∈ s'.knowledge.memories)

/-- An owner supersedes so a published memory of the workspace. -/
def Probes (x : Externals) (headers : Headers) (s s' : Store) (request : Addressed) : Prop :=
  ∃ (id : Uuid) (scope : Scope) (transition : TransitionMemoryRequest) (principal : Principal) (memory : Memory),
    request = .transitionMemory id scope transition ∧ Authorized x headers scope .owner s principal ∧
    s.knowledge.memories[id]? = some memory ∧
    inScope scope.organizationId scope.workspaceId memory.organizationId memory.workspaceId = true ∧
    memory.lifecycle = .published ∧ TellsApart memory transition.transition s s'

variable {x : Externals} {env : Env} {headers : Headers} {scope : Scope} {principal : Principal} {s s' : Store}
  {id : Uuid}

theorem caller_of_authorized {role : Role} (authorized : Authorized x headers scope role s principal) :
    caller x headers s = some principal := by
  obtain ⟨token, presented, known, _⟩ := authorized
  unfold caller
  rw [presented, Option.bind_some, known]

theorem AlikeWithin.authorize_eq (alike : AlikeWithin x headers scope s s') {role : Role} :
    authorize x headers scope.organizationId scope.workspaceId role s =
      authorize x headers scope.organizationId scope.workspaceId role s' := by
  unfold authorize authenticate
  rw [alike.apiKeys]

theorem Served.audited (served : Served x headers scope principal s s') {action resource : String} :
    Served x headers scope principal (audit env s principal action resource) (audit env s' principal action resource) := by
  have alike := served.alike
  have kept : AlikeWithin x headers scope (audit env s principal action resource) (audit env s' principal action resource) :=
    ⟨alike.apiKeys, alike.memories, alike.documents, alike.jobs, alike.shares, alike.skills, alike.policies, alike.sessions⟩
  exact ⟨⟨kept, served.knowledge, served.knowledge', served.ingestion, served.ingestion'⟩, served.known,
    served.organization⟩

theorem AlikeWithin.evaluateGuardrail_eq (alike : AlikeWithin x headers scope s s') {role : Role}
    {action : GuardrailAction} {target : String} :
    evaluateGuardrail scope.organizationId scope.workspaceId role action target s =
      evaluateGuardrail scope.organizationId scope.workspaceId role action target s' := by
  have policies : enforcedPolicies scope.organizationId scope.workspaceId s =
      enforcedPolicies scope.organizationId scope.workspaceId s' := by
    have listed (s : Store) : enforcedPolicies scope.organizationId scope.workspaceId s =
        (Table.rows (s.catalog.guardrailPolicies.filter fun _ policy =>
          inScope scope.organizationId scope.workspaceId policy.organizationId policy.workspaceId)).filter
            fun policy => policy.lifecycle == .enforced := by
      unfold enforcedPolicies
      rw [Table.rows_filter, List.filter_filter]
      simp only [Bool.and_comm]
    rw [listed, listed, alike.policies]
  unfold evaluateGuardrail matchedRules
  rw [policies]

/-- A guardrail decides the same in both stores and writes nothing but its audit event. -/
theorem enforceGuardrail_lockstep (served : Served x headers scope principal s s') {action : GuardrailAction}
    {target : String} : Program.Lockstep (enforceGuardrail env principal scope.workspaceId action target) s s'
      fun _ => Served x headers scope principal := by
  have evaluated : Program.Lockstep (withStore (Program.query
      (evaluateGuardrail principal.organizationId scope.workspaceId principal.role action target))) s s'
      fun _ => Served x headers scope principal := by
    apply Program.Lockstep.mapError
    rw [served.organization]
    exact Program.Lockstep.query served.alike.evaluateGuardrail_eq fun _ _ => served
  apply evaluated.bind
  intro decision t t' served
  have audited : Program.Lockstep (withStore (Program.update fun s => audit env s principal
      (if decision.allowed then "guardrail.decision.allowed" else "guardrail.decision.denied")
      (decision.action.asStr ++ ":" ++ decision.target))) t t' fun _ => Served x headers scope principal :=
    Program.Lockstep.mapError (Program.Lockstep.update served.audited)
  apply audited.bind
  intro _ t t' served
  cases decision.allowed with
  | true => exact Program.Lockstep.pure served
  | false => exact ⟨rfl, nofun⟩

theorem enforceRule_lockstep (served : Served x headers scope principal s s') {rule : AccessRule} :
    Program.Lockstep (enforceRule env principal scope.workspaceId rule) s s' fun _ => Served x headers scope principal := by
  unfold enforceRule
  cases rule.guarded with
  | none => exact Program.Lockstep.pure served
  | some guarded =>
    apply (enforceGuardrail_lockstep served).bind
    intro _ t t' served
    exact Program.Lockstep.pure served

theorem authorize_lockstep (comparable : Comparable x headers scope s s') {role : Role} :
    Program.Lockstep (Program.query (authorize x headers scope.organizationId scope.workspaceId role)) s s'
      fun principal => Served x headers scope principal := by
  apply Program.Lockstep.query comparable.alike.authorize_eq
  intro principal done
  have authorized := authorize_eq_ok.mp done
  exact ⟨comparable, caller_of_authorized authorized, authorized.organization⟩

/-- A handler answers the same in both stores where what it performs for its caller does. -/
theorem handler_lockstep {α : Type} {env : Nat → Env} {rule : AccessRule} {perform : Principal → Call α}
    {action : String} {resource : α → String} {success : StatusCode} (comparable : Comparable x headers scope s s')
    (same : ∀ principal t t', Served x headers scope principal t t' → (perform principal t).2 = (perform principal t').2) :
    Program.Lockstep (handler x env headers rule scope.organizationId scope.workspaceId perform action resource success)
      s s' fun _ _ _ => True := by
  apply (authorize_lockstep comparable).bind
  intro principal t t' served
  apply (enforceRule_lockstep served).bind
  intro _ t t' served
  have performed : Program.Lockstep (withStore (perform principal)) t t' fun _ _ _ => True :=
    Program.Lockstep.mapError (Program.Lockstep.of_outcome (same principal t t' served))
  apply performed.bind
  intro result t t' _
  have recorded : Program.Lockstep (withStore (Program.update fun s => audit (env 2) s principal action (resource result)))
      t t' fun _ _ _ => True := Program.Lockstep.mapError (Program.Lockstep.update trivial)
  apply recorded.bind
  intro _ t t' _
  exact Program.Lockstep.pure trivial

theorem respondWith_lockstep {α : Type} {body : α → Body} {call : ApiCall (StatusCode × α)}
    (same : Program.Lockstep call s s' fun _ _ _ => True) :
    (respondWith body call s).2 = (respondWith body call s').2 :=
  (same.bind fun _ _ _ _ => Program.Lockstep.pure (R := fun _ _ _ => True) trivial).outcome

section
variable {α ρ : Type} {call : Store → Result (Store × Option α)} {lookup : Store → Option ρ} {owned : ρ → Bool}
  {message : String} {f : ρ → Store → Result (Store × Option α)}

/-- A call that answers alike whether a record is missing or fails its check answers from the checked record. -/
theorem scoped_result (absent : lookup s = none → call s = .ok (s, none))
    (present : ∀ row, lookup s = some row → call s = (do
      check (owned row = true) message
      f row s)) :
    ((call s).map Prod.snd >>= fun result => found result message) =
      found ((lookup s).filter owned) message >>= fun row =>
        (f row s).map Prod.snd >>= fun result => found result message := by
  cases stored : lookup s with
  | none =>
    rw [absent stored]
    rfl
  | some row =>
    rw [present row stored, Option.filter_some]
    by_cases own : owned row = true
    · rw [if_pos own, bind_of_ok (a := ()) (ensure_eq_ok.mpr own)]
      rfl
    · have refused : check (owned row = true) message = .error (.check message) := if_neg own
      rw [if_neg own, refused]
      rfl

theorem found_scoped {β : Type} {stored : Option ρ} {g : ρ → Result β} : (found stored message >>= fun row => do
      check (owned row = true) message
      g row) = found (stored.filter owned) message >>= g := by
  cases stored with
  | none => rfl
  | some row =>
    rw [Option.filter_some]
    by_cases own : owned row = true
    · rw [if_pos own]
      exact bind_of_ok (a := ()) (ensure_eq_ok.mpr own)
    · have refused : check (owned row = true) message = .error (.check message) := if_neg own
      rw [if_neg own]
      show (check (owned row = true) message >>= fun _ => g row) = _
      rw [refused]
      rfl

theorem scoped_alike (lookup : Store → Option ρ) (rows : (lookup s).filter owned = (lookup s').filter owned)
    (absent : ∀ s, lookup s = none → call s = .ok (s, none))
    (present : ∀ s row, lookup s = some row → call s = (do
      check (owned row = true) message
      f row s))
    (replies : ∀ row, (lookup s).filter owned = some row → (f row s).map Prod.snd = (f row s').map Prod.snd) :
    ((call s).map Prod.snd >>= fun result => found result message) =
      (call s').map Prod.snd >>= fun result => found result message := by
  rw [scoped_result (absent s) (present s), scoped_result (absent s') (present s'), ← rows]
  apply bind_congr_ok
  intro row seen
  rw [replies row (context_eq_ok.mp seen)]

end

section
variable (served : Served x headers scope principal s s')
include served

theorem Served.memory (id : Uuid) : (s.knowledge.memories[id]?.filter fun memory =>
      inScope scope.organizationId scope.workspaceId memory.organizationId memory.workspaceId) =
    s'.knowledge.memories[id]?.filter fun memory =>
      inScope scope.organizationId scope.workspaceId memory.organizationId memory.workspaceId :=
  Table.find_filter_congr served.alike.memories id

theorem Served.job (id : Uuid) : (s.ingestion.jobs[id]?.filter fun job =>
      inScope scope.organizationId scope.workspaceId job.organizationId job.workspaceId) =
    s'.ingestion.jobs[id]?.filter fun job =>
      inScope scope.organizationId scope.workspaceId job.organizationId job.workspaceId :=
  Table.find_filter_congr served.alike.jobs id

theorem Served.share (id : Uuid) : (s.knowledge.memoryShares[id]?.filter fun share =>
      inScope scope.organizationId scope.workspaceId share.organizationId share.sourceWorkspaceId) =
    s'.knowledge.memoryShares[id]?.filter fun share =>
      inScope scope.organizationId scope.workspaceId share.organizationId share.sourceWorkspaceId :=
  Table.find_filter_congr served.alike.shares id

theorem getMemory_alike {message : String} :
    (orMissing (Hangar.getMemory env scope.organizationId scope.workspaceId id) message s).2 =
      (orMissing (Hangar.getMemory env scope.organizationId scope.workspaceId id) message s').2 := by
  have answer (s : Store) : (Hangar.getMemory env scope.organizationId scope.workspaceId id s).2 =
      .ok ((s.knowledge.memories[id]?.filter fun memory =>
        inScope scope.organizationId scope.workspaceId memory.organizationId memory.workspaceId).map
          fun memory => if memory.isDue env then memory.expire env else memory) := by
    show Except.ok ((sweep env s).knowledge.memories[id]?.filter _) = _
    rw [find_sweep, Option.filter_map]
    congr 3
    funext memory
    dsimp only [Function.comp_apply]
    split <;> rfl
  rw [orMissing_result, orMissing_result, answer, answer, served.memory]

theorem getDocument_alike {message : String} :
    (orMissing (Hangar.getDocument id scope.organizationId scope.workspaceId) message s).2 =
      (orMissing (Hangar.getDocument id scope.organizationId scope.workspaceId) message s').2 := by
  have same := Table.find_filter_congr served.alike.documents id
  unfold Hangar.getDocument
  rw [orMissing_result, orMissing_result]
  unfold Program.query
  dsimp only
  rw [same]

theorem getIngestionJob_alike {message : String} :
    (orMissing (Hangar.getIngestionJob id scope.organizationId scope.workspaceId) message s).2 =
      (orMissing (Hangar.getIngestionJob id scope.organizationId scope.workspaceId) message s').2 := by
  unfold Hangar.getIngestionJob
  rw [orMissing_result, orMissing_result]
  unfold Program.query
  dsimp only
  rw [served.job]

theorem getPublishedSkill_alike {message : String} :
    (orMissing (getPublishedSkill id scope.organizationId scope.workspaceId) message s).2 =
      (orMissing (getPublishedSkill id scope.organizationId scope.workspaceId) message s').2 := by
  have published (stored : Option AgentSkill) : (stored.filter fun skill =>
        inScope scope.organizationId scope.workspaceId skill.organizationId skill.workspaceId &&
          skill.lifecycle == .published) =
      (stored.filter fun skill =>
        inScope scope.organizationId scope.workspaceId skill.organizationId skill.workspaceId).filter
          fun skill => skill.lifecycle == .published := by
    rw [Option.filter_filter]
  have same := Table.find_filter_congr served.alike.skills id
  unfold getPublishedSkill
  rw [orMissing_result, orMissing_result]
  unfold Program.query
  dsimp only
  rw [published, published, same]

theorem transitionSkill_alike {lifecycle : SkillLifecycle} :
    (orMissing (Program.transaction (Hangar.transitionSkill env id scope.organizationId scope.workspaceId lifecycle))
        "skill not found in this workspace" s).2 =
      (orMissing (Program.transaction (Hangar.transitionSkill env id scope.organizationId scope.workspaceId lifecycle))
        "skill not found in this workspace" s').2 := by
  rw [orMissing_result, orMissing_result, transaction_result, transaction_result]
  apply scoped_alike (fun s => s.catalog.agentSkills[id]?) (Table.find_filter_congr served.alike.skills id)
  case absent =>
    intro s stored
    unfold Hangar.transitionSkill
    rw [stored]
    rfl
  case present =>
    intro s skill stored
    unfold Hangar.transitionSkill
    rw [stored]
  case replies =>
    intro skill _
    rw [map_bind, map_bind]
    rfl

theorem transitionGuardrailPolicy_alike {lifecycle : PolicyLifecycle} :
    (orMissing (Program.transaction
        (Hangar.transitionGuardrailPolicy env id scope.organizationId scope.workspaceId lifecycle))
        "guardrail policy not found in this workspace" s).2 =
      (orMissing (Program.transaction
        (Hangar.transitionGuardrailPolicy env id scope.organizationId scope.workspaceId lifecycle))
        "guardrail policy not found in this workspace" s').2 := by
  rw [orMissing_result, orMissing_result, transaction_result, transaction_result]
  apply scoped_alike (fun s => s.catalog.guardrailPolicies[id]?) (Table.find_filter_congr served.alike.policies id)
  case absent =>
    intro s stored
    unfold Hangar.transitionGuardrailPolicy
    rw [stored]
    rfl
  case present =>
    intro s policy stored
    unfold Hangar.transitionGuardrailPolicy
    rw [stored]
  case replies =>
    intro policy _
    rw [map_bind, map_bind]
    rfl

theorem retryIngestionJob_alike :
    (orMissing (Program.transaction fun s =>
        retryDeadLetterIngestionJob env s id scope.organizationId scope.workspaceId)
        "ingestion job not found in this workspace" s).2 =
      (orMissing (Program.transaction fun s =>
        retryDeadLetterIngestionJob env s id scope.organizationId scope.workspaceId)
        "ingestion job not found in this workspace" s').2 := by
  rw [orMissing_result, orMissing_result, transaction_result, transaction_result]
  apply scoped_alike (fun s => s.ingestion.jobs[id]?) (served.job id)
  case absent =>
    intro s stored
    unfold retryDeadLetterIngestionJob
    rw [stored]
    rfl
  case present =>
    intro s job stored
    have owned : check (job.organizationId = scope.organizationId ∧ job.workspaceId = scope.workspaceId)
          "ingestion job not found in this workspace" =
        check (inScope scope.organizationId scope.workspaceId job.organizationId job.workspaceId = true)
          "ingestion job not found in this workspace" := by
      unfold check ensure inScope
      simp only [Bool.and_eq_true, beq_iff_eq]
    unfold retryDeadLetterIngestionJob
    rw [stored]
    dsimp only
    rw [owned]
  case replies =>
    intro job seen
    have seen' := seen
    rw [served.job] at seen'
    rcases served.ingestion.document (Option.filter_eq_some_iff.mp seen).1 with ⟨document, stored, _⟩
    rcases served.ingestion'.document (Option.filter_eq_some_iff.mp seen').1 with ⟨document', stored', _⟩
    have named : (job.restart env).documentId = job.documentId := rfl
    simp only [map_bind]
    rw [named, stored, stored']
    rfl

theorem createMemoryShare_alike {memoryId : Uuid} {audience : ShareAudience} {proposedBy : Uuid}
    {expiresAtUnixMs : Option Nat} :
    (Program.transaction (proposeMemoryShare env scope.organizationId scope.workspaceId memoryId audience proposedBy
        expiresAtUnixMs) s).2 =
      (Program.transaction (proposeMemoryShare env scope.organizationId scope.workspaceId memoryId audience proposedBy
        expiresAtUnixMs) s').2 := by
  have repeated (s : Store) : (Table.rows s.knowledge.memoryShares).any
        (MemoryShare.duplicates scope.organizationId scope.workspaceId memoryId audience) =
      (Table.rows (s.knowledge.memoryShares.filter fun _ share =>
        inScope scope.organizationId scope.workspaceId share.organizationId share.sourceWorkspaceId)).any
        (MemoryShare.duplicates scope.organizationId scope.workspaceId memoryId audience) := by
    rw [Table.rows_filter, List.any_filter]
    congr 1
    funext share
    unfold MemoryShare.duplicates
    simp only [Bool.and_assoc, Bool.and_self_left]
  rw [transaction_result, transaction_result]
  unfold proposeMemoryShare
  simp only [map_bind]
  apply bind_congr
  intro _
  apply bind_congr
  intro _
  apply bind_congr
  intro _
  rw [found_scoped, found_scoped, served.memory]
  apply bind_congr
  intro memory
  apply bind_congr
  intro _
  rw [repeated, repeated, served.alike.shares]
  apply bind_congr
  intro _
  rfl

theorem reviewMemoryShare_alike {state : ShareReviewState} {reviewedBy : Uuid} {reviewNote : Option String} :
    (orMissing (Program.transaction (Hangar.reviewMemoryShare env scope.organizationId scope.workspaceId id state
        reviewedBy reviewNote)) "memory share not found in source workspace" s).2 =
      (orMissing (Program.transaction (Hangar.reviewMemoryShare env scope.organizationId scope.workspaceId id state
        reviewedBy reviewNote)) "memory share not found in source workspace" s').2 := by
  rw [orMissing_result, orMissing_result, transaction_result, transaction_result]
  unfold Hangar.reviewMemoryShare
  simp only [map_bind, bind_assoc]
  apply bind_congr
  intro _
  apply bind_congr
  intro _
  apply scoped_alike (fun s => s.knowledge.memoryShares[id]?) (served.share id)
  case absent =>
    intro s stored
    rw [stored]
    rfl
  case present =>
    intro s share stored
    rw [stored]
  case replies =>
    intro share seen
    have approval : checkApproval env scope.organizationId scope.workspaceId share state s =
        checkApproval env scope.organizationId scope.workspaceId share state s' := by
      rw [Option.filter_eq_some_iff] at seen
      rcases served.knowledge.source seen.1 with ⟨memory, stored, organization, workspace, _⟩
      have owned : inScope scope.organizationId scope.workspaceId memory.organizationId memory.workspaceId = true := by
        rw [organization, workspace]
        exact seen.2
      have stored' := served.memory share.memoryId
      rw [stored, Option.filter_some, if_pos owned, eq_comm, Option.filter_eq_some_iff] at stored'
      unfold checkApproval
      rw [stored, stored'.1]
    simp only [map_bind]
    rw [approval]
    rfl

theorem ownSession_alike : ownSession env scope.organizationId scope.workspaceId principal.id id s =
    ownSession env scope.organizationId scope.workspaceId principal.id id s' := by
  have view (s : Store) : ownSession env scope.organizationId scope.workspaceId principal.id id s =
      (s.workingMemory.sessions[id]?.filter (WorkingSession.ownedBy scope.organizationId scope.workspaceId
        principal.id)).filter fun session => decide (session.expiresAtUnixMs > env.now) := by
    show ((s.workingMemory.sessions.filter fun _ session => decide (session.expiresAtUnixMs > env.now))[id]?).filter _ = _
    rw [Table.find_filter, Option.filter_filter, Option.filter_filter]
    simp only [Bool.and_comm]
  have own := Table.find_filter_congr (served.alike.sessions principal served.known) id
  rw [view, view]
  exact congrArg _ own

theorem enforceMemoryLimits_alike {limits : WorkspaceLimits} {contentBytes : Nat} :
    enforceMemoryLimits scope.organizationId scope.workspaceId limits s contentBytes =
      enforceMemoryLimits scope.organizationId scope.workspaceId limits s' contentBytes := by
  unfold enforceMemoryLimits
  cases checked : ensureScope scope.organizationId scope.workspaceId with
  | error e =>
    unfold workspaceUsage
    rw [checked]
    rfl
  | ok _ =>
    rcases workspaceUsage_total served.ingestion checked with ⟨usage, read⟩
    rcases workspaceUsage_total served.ingestion' checked with ⟨usage', read'⟩
    have memories (s : Store) {usage : WorkspaceUsage}
        (read : workspaceUsage scope.organizationId scope.workspaceId s = .ok usage) :
        usage.memoryCount = (scopedMemories scope.organizationId scope.workspaceId s).length ∧
          usage.memoryBytes = ((scopedMemories scope.organizationId scope.workspaceId s).map fun memory =>
            memory.content.utf8ByteSize).sum := by
      unfold workspaceUsage at read
      rcases bind_eq_ok.mp read with ⟨_, _, read⟩
      rcases bind_eq_ok.mp read with ⟨_, _, read⟩
      cases read
      exact ⟨rfl, rfl⟩
    have listed : scopedMemories scope.organizationId scope.workspaceId s =
        scopedMemories scope.organizationId scope.workspaceId s' := by
      unfold scopedMemories
      rw [← Table.rows_filter, ← Table.rows_filter, served.alike.memories]
    rw [read, read']
    show (check (usage.memoryCount < limits.maxMemories) _ >>= fun _ => check _ _) =
      (check (usage'.memoryCount < limits.maxMemories) _ >>= fun _ => check _ _)
    rw [(memories s read).1, (memories s read).2, (memories s' read').1, (memories s' read').2, listed]

theorem session_alike (request : SessionRequest) (addressed : ∀ ttlMs, request ≠ .create ttlMs) :
    (SessionCall.answer x env ⟨scope.organizationId, scope.workspaceId, principal.id, request⟩ s).2 =
      (SessionCall.answer x env ⟨scope.organizationId, scope.workspaceId, principal.id, request⟩ s').2 := by
  have view : SessionCall.view ⟨scope.organizationId, scope.workspaceId, principal.id, request⟩ env s =
      SessionCall.view ⟨scope.organizationId, scope.workspaceId, principal.id, request⟩ env s' := ownSession_alike served
  rw [SessionCall.answer_result, SessionCall.answer_result, ← view]
  apply SessionCall.reply_congr
  · intro ttlMs creates
    exact absurd creates (addressed ttlMs)
  · intro _ _ _ limits _ entry _ _ _
    exact enforceMemoryLimits_alike served

end

theorem checkReplacement_unseen {memory : Memory} {transition : MemoryTransition} {replacement : Uuid}
    (superseded : transition.lifecycle = .superseded) (named : transition.supersededBy = some replacement)
    (other : replacement ≠ memory.id)
    (unseen : (s.knowledge.memories[replacement]?.filter fun memory =>
      inScope scope.organizationId scope.workspaceId memory.organizationId memory.workspaceId) = none) :
    checkReplacement env scope.organizationId scope.workspaceId memory transition s =
      .error (.check (if replacement ∈ s.knowledge.memories then "replacement memory must be in the same workspace"
        else "replacement memory not found")) := by
  have asked : found (some replacement) "superseded memory requires superseded_by" = .ok replacement := rfl
  unfold checkReplacement
  rw [if_pos superseded, named, bind_of_ok asked, bind_of_ok (a := ()) (ensure_eq_ok.mpr other)]
  cases stored : s.knowledge.memories[replacement]? with
  | none =>
    have absent : replacement ∉ s.knowledge.memories := by
      rw [Std.ExtTreeMap.mem_iff_isSome_getElem?, stored]
      simp
    rw [if_neg absent]
    rfl
  | some foreign =>
    have present : replacement ∈ s.knowledge.memories := by
      rw [Std.ExtTreeMap.mem_iff_isSome_getElem?, stored]
      rfl
    rw [stored, Option.filter_some] at unseen
    rw [if_pos present]
    by_cases own : inScope scope.organizationId scope.workspaceId foreign.organizationId foreign.workspaceId = true
    · rw [if_pos own] at unseen
      cases unseen
    · have refused : check (inScope scope.organizationId scope.workspaceId foreign.organizationId
          foreign.workspaceId = true) "replacement memory must be in the same workspace" =
            .error (.check "replacement memory must be in the same workspace") := if_neg own
      show (check _ _ >>= fun _ => check _ _) = _
      rw [refused]
      rfl

section
variable (served : Served x headers scope principal s s') {memory : Memory} {transition : MemoryTransition}
include served

theorem Served.unseen {replacement : Uuid}
    (apart : ¬(replacement ∈ s.knowledge.memories ↔ replacement ∈ s'.knowledge.memories)) :
    (s.knowledge.memories[replacement]?.filter fun memory =>
      inScope scope.organizationId scope.workspaceId memory.organizationId memory.workspaceId) = none := by
  rw [Option.filter_eq_none_iff]
  intro memory stored own
  have seen : (s.knowledge.memories[replacement]?.filter fun memory =>
      inScope scope.organizationId scope.workspaceId memory.organizationId memory.workspaceId) = some memory :=
    Option.filter_eq_some_iff.mpr ⟨stored, own⟩
  rw [served.memory, Option.filter_eq_some_iff] at seen
  apply apart
  rw [Std.ExtTreeMap.mem_iff_isSome_getElem?, Std.ExtTreeMap.mem_iff_isSome_getElem?, stored, seen.1]

theorem checkReplacement_apart (env : Env) (apart : TellsApart memory transition s s') :
    ∃ e e', checkReplacement env scope.organizationId scope.workspaceId memory transition s = .error e ∧
      checkReplacement env scope.organizationId scope.workspaceId memory transition s' = .error e' ∧ e ≠ e' := by
  rcases apart with ⟨superseded, replacement, named, other, apart⟩
  have unseen := served.unseen apart
  refine ⟨_, _, checkReplacement_unseen superseded named other unseen,
    checkReplacement_unseen superseded named other (served.memory replacement ▸ unseen), ?_⟩
  intro same
  injection same with same
  by_cases stored : replacement ∈ s.knowledge.memories
  · by_cases stored' : replacement ∈ s'.knowledge.memories
    · exact apart ⟨fun _ => stored', fun _ => stored⟩
    · rw [if_pos stored, if_neg stored'] at same
      revert same
      decide
  · by_cases stored' : replacement ∈ s'.knowledge.memories
    · rw [if_neg stored, if_pos stored'] at same
      revert same
      decide
    · exact apart ⟨fun here => absurd here stored, fun here => absurd here stored'⟩

theorem checkReplacement_alike (alike : ¬TellsApart memory transition s s') :
    checkReplacement env scope.organizationId scope.workspaceId memory transition s =
      checkReplacement env scope.organizationId scope.workspaceId memory transition s' := by
  by_cases superseded : transition.lifecycle = .superseded
  · cases named : transition.supersededBy with
    | none =>
      unfold checkReplacement
      rw [if_pos superseded, if_pos superseded, named]
      rfl
    | some replacement =>
      by_cases self : replacement = memory.id
      · unfold checkReplacement
        rw [if_pos superseded, if_pos superseded, named]
        apply bind_congr_ok
        intro replacement' same
        cases same
        unfold check ensure
        rw [if_neg (not_not.mpr self)]
        rfl
      · have both : replacement ∈ s.knowledge.memories ↔ replacement ∈ s'.knowledge.memories := by
          by_contra apart
          exact alike ⟨superseded, replacement, named, self, apart⟩
        cases seen : s.knowledge.memories[replacement]?.filter fun memory =>
          inScope scope.organizationId scope.workspaceId memory.organizationId memory.workspaceId with
        | none =>
          rw [checkReplacement_unseen superseded named self seen,
            checkReplacement_unseen superseded named self (served.memory replacement ▸ seen)]
          simp only [both]
        | some other =>
          have seen' := served.memory replacement ▸ seen
          rw [Option.filter_eq_some_iff] at seen seen'
          unfold checkReplacement
          simp only [named]
          rw [if_pos superseded, if_pos superseded]
          apply bind_congr_ok
          intro replacement' same
          cases same
          rw [seen.1, seen'.1]
  · unfold checkReplacement
    rw [if_neg superseded, if_neg superseded]

/-- The transition of a published memory that tells two stores apart fails in both, with different errors. -/
theorem transitionMemory_apart (env : Env) (stored : s.knowledge.memories[id]? = some memory)
    (owned : inScope scope.organizationId scope.workspaceId memory.organizationId memory.workspaceId = true)
    (published : memory.lifecycle = .published) (apart : TellsApart memory transition s s') :
    ∃ e e', (orMissing (Program.transaction
          (Hangar.transitionMemory env id scope.organizationId scope.workspaceId transition))
          "memory not found in this workspace" s).2 = .error e ∧
      (orMissing (Program.transaction
          (Hangar.transitionMemory env id scope.organizationId scope.workspaceId transition))
          "memory not found in this workspace" s').2 = .error e' ∧ e ≠ e' := by
  rcases checkReplacement_apart served env apart with ⟨e, e', failed, failed', different⟩
  have valid : isValidTransition memory.lifecycle transition.lifecycle = true := by
    rw [published, apart.1]
    rfl
  have stored' := served.memory id
  rw [stored, Option.filter_some, if_pos owned, eq_comm, Option.filter_eq_some_iff] at stored'
  have answer {s : Store} {e : Failure} (stored : s.knowledge.memories[id]? = some memory)
      (failed : checkReplacement env scope.organizationId scope.workspaceId memory transition s = .error e) :
      (orMissing (Program.transaction
          (Hangar.transitionMemory env id scope.organizationId scope.workspaceId transition))
          "memory not found in this workspace" s).2 = .error e := by
    rw [orMissing_result, transaction_result]
    unfold Hangar.transitionMemory
    rw [stored]
    dsimp only
    rw [bind_of_ok (a := ()) (ensure_eq_ok.mpr owned), bind_of_ok (a := ()) (ensure_eq_ok.mpr valid), failed]
    rfl
  exact ⟨e, e', answer stored failed, answer stored'.1 failed', different⟩

theorem transitionMemory_alike (env : Env) (alike : ∀ memory, s.knowledge.memories[id]? = some memory →
      inScope scope.organizationId scope.workspaceId memory.organizationId memory.workspaceId = true →
      memory.lifecycle = .published → ¬TellsApart memory transition s s') :
    (orMissing (Program.transaction
        (Hangar.transitionMemory env id scope.organizationId scope.workspaceId transition))
        "memory not found in this workspace" s).2 =
      (orMissing (Program.transaction
        (Hangar.transitionMemory env id scope.organizationId scope.workspaceId transition))
        "memory not found in this workspace" s').2 := by
  rw [orMissing_result, orMissing_result, transaction_result, transaction_result]
  apply scoped_alike (fun s => s.knowledge.memories[id]?) (served.memory id)
  case absent =>
    intro s stored
    unfold Hangar.transitionMemory
    rw [stored]
    rfl
  case present =>
    intro s memory stored
    unfold Hangar.transitionMemory
    rw [stored]
  case replies =>
    intro memory seen
    rw [Option.filter_eq_some_iff] at seen
    simp only [map_bind]
    apply bind_congr_ok
    intro _ valid
    have published : ¬TellsApart memory transition s s' := by
      intro apart
      have lifecycle : memory.lifecycle = .published := by
        rw [ensure_eq_ok, apart.1] at valid
        cases before : memory.lifecycle <;> rw [before] at valid <;> first | rfl | cases valid
      exact alike memory seen.1 seen.2 lifecycle apart
    rw [checkReplacement_alike served published]
    rfl

end

theorem unguarded_result {α : Type} {env : Nat → Env} {role : Role} {perform : Principal → Call α} {action : String}
    {resource : α → String} {success : StatusCode} :
    (handler x env headers ⟨role, none⟩ scope.organizationId scope.workspaceId perform action resource success s).2 =
      authorize x headers scope.organizationId scope.workspaceId role s >>= fun principal =>
        (perform principal s).2.mapError AppError.of >>= fun result => .ok (success, result) := by
  unfold handler
  rw [Program.query_bind]
  apply bind_congr
  intro principal
  show ((withStore (perform principal) >>= fun result => _) s).2 = _
  rw [Program.bind_result]
  unfold withStore
  rw [Program.mapError_result]
  apply bind_congr
  intro result
  rfl

theorem result_of_reply {α : Type} {f : α → SessionReply} (injective : Function.Injective f) {p : Call α}
    (same : ((do return f (← p) : Call SessionReply) s).2 = ((do return f (← p) : Call SessionReply) s').2) :
    (p s).2 = (p s').2 := by
  rw [map_result, map_result] at same
  cases first : (p s).2 with
  | error e =>
    rw [first] at same
    cases second : (p s').2 with
    | error e' =>
      rw [second] at same
      injection same with same
      rw [same]
    | ok a' =>
      rw [second] at same
      cases same
  | ok a =>
    rw [first] at same
    cases second : (p s').2 with
    | error e' =>
      rw [second] at same
      cases same
    | ok a' =>
      rw [second] at same
      injection same with same
      rw [injective same]

theorem respond_transition {env : Nat → Env} {limits : WorkspaceLimits} {transition : TransitionMemoryRequest} :
    (respond x env limits headers (.transitionMemory id scope transition) s).2 =
      (authorize x headers scope.organizationId scope.workspaceId .owner s >>= fun _ =>
        (orMissing (Program.transaction
            (Hangar.transitionMemory (env 1) id scope.organizationId scope.workspaceId transition.transition))
            "memory not found in this workspace" s).2.mapError AppError.of >>= fun memory => .ok (.ok, memory)) >>=
      fun response => .ok (response.1, .memory response.2) := by
  show (respondWith Body.memory (transitionMemory x env headers id scope transition) s).2 = _
  unfold respondWith transitionMemory
  rw [Program.bind_result, unguarded_result]
  rfl

theorem respond_alike {env : Nat → Env} {limits : WorkspaceLimits} {request : Addressed}
    (comparable : Comparable x headers request.scope s s') (quiet : ¬Probes x headers s s' request) :
    (respond x env limits headers request s).2 = (respond x env limits headers request s').2 := by
  cases request with
  | getMemory id scope =>
    exact respondWith_lockstep (handler_lockstep comparable fun _ _ _ served => getMemory_alike served)
  | transitionMemory id scope transition =>
    have comparable : Comparable x headers scope s s' := comparable
    rw [respond_transition, respond_transition, ← comparable.alike.authorize_eq]
    congr 1
    apply bind_congr_ok
    intro principal done
    have authorized := authorize_eq_ok.mp done
    have served : Served x headers scope principal s s' :=
      ⟨comparable, caller_of_authorized authorized, authorized.organization⟩
    have same := transitionMemory_alike served (env 1) fun memory stored owned published apart =>
      quiet ⟨id, scope, transition, principal, memory, rfl, authorized, stored, owned, published, apart⟩
    rw [same]
  | getDocument id scope =>
    exact respondWith_lockstep (handler_lockstep comparable fun _ _ _ served => getDocument_alike served)
  | getIngestionJob id scope =>
    exact respondWith_lockstep (handler_lockstep comparable fun _ _ _ served => getIngestionJob_alike served)
  | retryIngestionJob id scope =>
    exact respondWith_lockstep (handler_lockstep comparable fun _ _ _ served => retryIngestionJob_alike served)
  | createMemoryShare request =>
    exact respondWith_lockstep (handler_lockstep comparable fun _ _ _ served => createMemoryShare_alike served)
  | reviewMemoryShare id scope request =>
    exact respondWith_lockstep (handler_lockstep comparable fun _ _ _ served => reviewMemoryShare_alike served)
  | transitionSkill id scope lifecycle =>
    exact respondWith_lockstep (handler_lockstep comparable fun _ _ _ served => transitionSkill_alike served)
  | getSkill id scope =>
    have comparable : Comparable x headers scope s s' := comparable
    apply respondWith_lockstep
    apply (authorize_lockstep comparable).bind
    intro principal t t' served
    apply (enforceGuardrail_lockstep served).bind
    intro _ t t' served
    have read : Program.Lockstep (withStore (orMissing (getPublishedSkill id scope.organizationId scope.workspaceId)
        "published skill not found in this workspace")) t t' fun _ _ _ => True :=
      Program.Lockstep.mapError (Program.Lockstep.of_outcome (getPublishedSkill_alike served))
    apply read.bind
    intro skill t t' _
    have recorded : Program.Lockstep (withStore (Program.update fun s =>
        audit (env 2) s principal "skill.read" skill.id.text)) t t' fun _ _ _ => True :=
      Program.Lockstep.mapError (Program.Lockstep.update trivial)
    apply recorded.bind
    intro _ t t' _
    exact Program.Lockstep.pure trivial
  | transitionGuardrailPolicy id scope lifecycle =>
    exact respondWith_lockstep (handler_lockstep comparable fun _ _ _ served => transitionGuardrailPolicy_alike served)
  | getWorkingSession id scope =>
    apply respondWith_lockstep
    apply handler_lockstep comparable
    intro principal t t' served
    exact result_of_reply (fun _ _ => SessionReply.session.inj) (session_alike served (.get id) nofun)
  | appendWorkingMemory id scope request =>
    apply respondWith_lockstep
    apply handler_lockstep comparable
    intro principal t t' served
    exact result_of_reply (fun _ _ => SessionReply.entry.inj) (session_alike served
      (.append id ⟨request.kind, request.content, principal.id⟩) nofun)
  | updateWorkingSummary id scope request =>
    apply respondWith_lockstep
    apply handler_lockstep comparable
    intro principal t t' served
    exact result_of_reply (fun _ _ => SessionReply.session.inj) (session_alike served
      (.summarize id request.content) nofun)
  | promoteWorkingMemory sessionId entryId scope request =>
    apply respondWith_lockstep
    apply handler_lockstep comparable
    intro principal t t' served
    exact result_of_reply (fun _ _ => SessionReply.memory.inj) (session_alike served
      (.promoteWithLimits sessionId entryId
        ⟨request.source, request.confidence.getD 1, request.expiresAtUnixMs⟩ limits) nofun)

theorem respond_apart {env : Nat → Env} {limits : WorkspaceLimits} {request : Addressed}
    (comparable : Comparable x headers request.scope s s') (probes : Probes x headers s s' request) :
    (respond x env limits headers request s).2 ≠ (respond x env limits headers request s').2 := by
  rcases probes with ⟨id, scope, transition, principal, memory, rfl, authorized, stored, owned, published, apart⟩
  have comparable : Comparable x headers scope s s' := comparable
  have served : Served x headers scope principal s s' :=
    ⟨comparable, caller_of_authorized authorized, authorized.organization⟩
  have authorizes := authorize_eq_ok.mpr authorized
  rcases transitionMemory_apart served (env 1) stored owned published apart with
    ⟨e, e', failed, failed', different⟩
  rw [respond_transition, respond_transition, ← comparable.alike.authorize_eq, authorizes, failed, failed']
  intro same
  injection same with same
  injection same with _ same
  exact different same

/-- Whether a record of another workspace, or another principal's session, exists shows in no response but those to
    a supersession by its id. -/
theorem foreign_records_hidden_iff {engines : SearchEngines} {env : Nat → Env} {limits : WorkspaceLimits}
    {request : Addressed} {server server' : Server} (reachable : Reachable x engines server)
    (reachable' : Reachable x engines server')
    (alike : AlikeWithin x headers request.scope server.store server'.store) :
    (respond x env limits headers request server.store).2 = (respond x env limits headers request server'.store).2 ↔
      ¬Probes x headers server.store server'.store request := by
  have comparable : Comparable x headers request.scope server.store server'.store :=
    ⟨alike, reachable.knowledgeIntegrity, reachable'.knowledgeIntegrity, reachable.integrity,
      reachable'.integrity⟩
  constructor
  · intro same probes
    exact respond_apart comparable probes same
  · exact respond_alike comparable

def ownerKey : Headers := some ⟨some "Bearer hk_777"⟩

def requestEnv (lock : Nat) : Env := serialEnv 6 (128 + 16 * lock)

def generous : WorkspaceLimits := ⟨1000, 1000, 1000, 1000, 1000, 1000, 1000⟩

def ownerServer : Server := freshRun sample noHits
  [(1, .catalog (.issueApiKeyForSubject "acme" (some "core") .owner .user)),
    (2, .knowledge (.createMemory ⟨"acme", "core", "alpha", none, Uuid.nil, 1, none, .direct⟩)),
    (3, .knowledge (.transitionMemory (serialUuid 16) "acme" "core" ⟨.validated, none, none⟩)),
    (4, .knowledge (.transitionMemory (serialUuid 16) "acme" "core" ⟨.published, none, none⟩))]

/-- `ownerServer` after another organization created a memory. -/
def neighbourServer : Server := freshRun sample noHits
  [(1, .catalog (.issueApiKeyForSubject "acme" (some "core") .owner .user)),
    (2, .knowledge (.createMemory ⟨"acme", "core", "alpha", none, Uuid.nil, 1, none, .direct⟩)),
    (3, .knowledge (.transitionMemory (serialUuid 16) "acme" "core" ⟨.validated, none, none⟩)),
    (4, .knowledge (.transitionMemory (serialUuid 16) "acme" "core" ⟨.published, none, none⟩)),
    (5, .knowledge (.createMemory ⟨"globex", "lab", "beta", none, Uuid.nil, 1, none, .direct⟩))]

def probing : Addressed := .transitionMemory (serialUuid 16) ⟨"acme", "core"⟩ ⟨.superseded, none, some (serialUuid 64)⟩

theorem ownerServer_alike : AlikeWithin sample ownerKey ⟨"acme", "core"⟩ ownerServer.store neighbourServer.store := by
  constructor
  · rfl
  · apply Std.ExtTreeMap.ext_toList
    decide +kernel
  · rfl
  · rfl
  · rfl
  · rfl
  · rfl
  · intro _ _
    rfl

/-- The error of a supersession tells whether another organization has a memory under the id it names. -/
theorem supersession_reveals :
    Reachable sample noHits ownerServer ∧ Reachable sample noHits neighbourServer ∧
    AlikeWithin sample ownerKey probing.scope ownerServer.store neighbourServer.store ∧
    (respond sample requestEnv generous ownerKey probing ownerServer.store).2 =
      .error (AppError.of (.check "replacement memory not found")) ∧
    (respond sample requestEnv generous ownerKey probing neighbourServer.store).2 =
      .error (AppError.of (.check "replacement memory must be in the same workspace")) := by
  have absent : ∃ e, (respond sample requestEnv generous ownerKey probing ownerServer.store).2 = .error e ∧
      e = AppError.of (.check "replacement memory not found") := by decide +kernel
  have foreign : ∃ e, (respond sample requestEnv generous ownerKey probing neighbourServer.store).2 = .error e ∧
      e = AppError.of (.check "replacement memory must be in the same workspace") := by decide +kernel
  refine ⟨freshRun_reachable (by decide +kernel), freshRun_reachable (by decide +kernel), ownerServer_alike, ?_, ?_⟩
  · simpa using absent
  · simpa using foreign

/-- A read by that id tells nothing. -/
theorem foreign_records_hidden_read :
    (respond sample requestEnv generous ownerKey (.getMemory (serialUuid 64) ⟨"acme", "core"⟩) ownerServer.store).2 =
      (respond sample requestEnv generous ownerKey (.getMemory (serialUuid 64) ⟨"acme", "core"⟩)
        neighbourServer.store).2 := by
  apply (foreign_records_hidden_iff (freshRun_reachable (by decide +kernel)) (freshRun_reachable (by decide +kernel))
    ownerServer_alike).mpr
  intro probes
  rcases probes with ⟨_, _, _, _, _, same, _⟩
  cases same

end Hangar.Http
