import Hangar.Concrete
import Hangar.Knowledge.Integrity

namespace Hangar

open Lib

/-- The grants a new share may not repeat. -/
def ShareReviewState.isLive : ShareReviewState → Bool
  | .pending | .approved => true
  | .rejected | .revoked => false

def Event.proposes (event : Event) (s : Store) : Option MemoryShare :=
  match event.op with
  | .knowledge (.proposeMemoryShare organizationId sourceWorkspaceId memoryId audience proposedBy expiresAtUnixMs) =>
    match proposeMemoryShare event.env organizationId sourceWorkspaceId memoryId audience proposedBy expiresAtUnixMs s with
    | .ok (_, share) => some share
    | .error _ => none
  | _ => none

def Event.reviews (event : Event) (s : Store) (id : Uuid) : Option ShareReviewState :=
  match event.op with
  | .knowledge (.reviewMemoryShare organizationId sourceWorkspaceId reviewed state reviewedBy reviewNote) =>
    if reviewed = id then
      match reviewMemoryShare event.env organizationId sourceWorkspaceId reviewed state reviewedBy reviewNote s with
      | .ok (_, some _) => some state
      | _ => none
    else none
  | _ => none

def Event.FindsRetrievable (event : Event) (s : Store) (memoryId : Uuid) : Prop :=
  ∃ memory, s.knowledge.memories[memoryId]? = some memory ∧ memory.lifecycle = .published ∧
    unexpired event.env memory.expiresAtUnixMs = true

inductive MemoryShare.Origin (event : Event) (s : Store) (id : Uuid) : MemoryShare → Prop where
  | kept {share : MemoryShare} (found : s.knowledge.memoryShares[id]? = some share)
      (unreviewed : event.reviews s id = none) : MemoryShare.Origin event s id share
  | reviewed {share : MemoryShare} (state : ShareReviewState) (reviewedBy : Uuid) (reviewNote : Option String)
      (found : s.knowledge.memoryShares[id]? = some share) (review : event.reviews s id = some state)
      (allowed : share.state.canTransitionTo state = true)
      (approvable : state = .approved → event.FindsRetrievable s share.memoryId) :
      MemoryShare.Origin event s id (share.review event.env state reviewedBy reviewNote)
  | proposed {share : MemoryShare} (proposal : event.proposes s = some share) (named : share.id = id)
      (unreviewed : event.reviews s id = none) (pending : share.state = .pending) (first : share.version = 1)
      (retrievable : event.FindsRetrievable s share.memoryId)
      (source : ∃ memory, s.knowledge.memories[share.memoryId]? = some memory ∧
        memory.organizationId = share.organizationId ∧ memory.workspaceId = share.sourceWorkspaceId)
      (unrepeated : ∀ (other : Uuid) (share' : MemoryShare), s.knowledge.memoryShares[other]? = some share' →
        share'.duplicates share.organizationId share.sourceWorkspaceId share.memoryId share.audience = false) :
      MemoryShare.Origin event s id share

variable {x : Externals} {engines : SearchEngines} {env : Env} {s s' : Store} {id : Uuid} {share share' : MemoryShare}
  {server server' : Server} {event : Event}

def KnowledgeOp.writesShares : KnowledgeOp → Bool
  | .proposeMemoryShare .. | .reviewMemoryShare .. => true
  | _ => false

theorem promoteWorkingMemory_shares {organizationId workspaceId : String} {principalId sessionId entryId : Uuid}
    {promotion : Promotion} : Program.Frames (fun s => s.knowledge.memoryShares)
      (promoteWorkingMemory x env organizationId workspaceId principalId sessionId entryId promotion) := by
  refine Program.Frames.bind (Program.Frames.update fun _ => rfl) fun _ => ?_
  apply Program.Frames.transaction
  intro s s' result run
  cases stored : s.workingMemory.sessions[sessionId]? with
  | none =>
    simp only [stored] at run
    cases run
    rfl
  | some session =>
    simp only [stored] at run
    obtain ⟨_, _, run⟩ := bind_eq_ok.mp run
    obtain ⟨entry, _, run⟩ := bind_eq_ok.mp run
    obtain ⟨⟨s₂, memory⟩, created, run⟩ := bind_eq_ok.mp run
    cases run
    obtain ⟨_, _, written⟩ := createMemory_ok created
    rw [written]
    rfl

theorem callKnowledge_shares {call : KnowledgeOp} (other : call.writesShares = false) :
    Program.Frames (fun s => s.knowledge.memoryShares) (callKnowledge x engines env call) := by
  have transaction {α : Type} {f : Store → Result (Store × α)}
      (kept : ∀ s s' a, f s = .ok (s', a) → s'.knowledge.memoryShares = s.knowledge.memoryShares) :
      Program.Frames (fun s => s.knowledge.memoryShares) (do let _ ← Program.transaction f : Call Unit) :=
    (Program.Frames.transaction kept).bind fun _ => Program.Frames.pure
  have create {new : NewMemory} {s s' : Store} {memory : Memory} (run : createMemory x env new s = .ok (s', memory)) :
      s'.knowledge.memoryShares = s.knowledge.memoryShares := by
    obtain ⟨_, _, written⟩ := createMemory_ok run
    rw [written]
    rfl
  have session {α : Type} {p : Call α} (kept : Program.Frames Store.withoutSessions p) :
      Program.Frames (fun s => s.knowledge.memoryShares) (do let _ ← p : Call Unit) := by
    refine (Program.Frames.bind kept fun _ => Program.Frames.pure).of
      (g := fun s => s.knowledge.memoryShares) fun _ => rfl
  have expire : Program.Frames (fun s : Store => s.knowledge.memoryShares) (expireDueMemories env) := by
    refine Program.Frames.transaction fun s s' count run => ?_
    cases run
    rfl
  cases call with
  | createMemory new => exact transaction fun s s' memory run => create run
  | createMemoryWithLimits new limits =>
    exact transaction fun s s' memory run => create (createMemoryWithLimits_ok run)
  | transitionMemory id organizationId workspaceId transition =>
    refine transaction fun s s' result run => ?_
    obtain ⟨rfl, _⟩ | ⟨_, _, _, _, _, _, _, written⟩ := transitionMemory_ok run
    · rfl
    · rw [written]
      rfl
  | expireDueMemories => exact expire.bind fun _ => Program.Frames.pure
  | getMemory id organizationId workspaceId =>
    exact (expire.bind fun _ => Program.Frames.query).bind fun _ => Program.Frames.pure
  | retrieve organizationId workspaceId text limit =>
    exact (expire.bind fun _ => Program.Frames.query).bind fun _ => Program.Frames.pure
  | proposeMemoryShare => cases other
  | reviewMemoryShare => cases other
  | compileContextPackage principal requestWorkspaceId text tokenBudget limit =>
    refine Program.Frames.bind ?_ fun _ => Program.Frames.pure
    refine Program.Frames.query.bind fun _ => Program.Frames.query.bind fun _ => ?_
    exact expire.bind fun _ => Program.Frames.query
  | createWorkingSession new => exact session createWorkingSession_frames
  | getWorkingSession organizationId workspaceId principalId id => exact session getWorkingSession_frames
  | appendWorkingMemory organizationId workspaceId principalId sessionId new =>
    exact session appendWorkingMemory_frames
  | updateWorkingSummary organizationId workspaceId principalId sessionId content =>
    exact session updateWorkingSummary_frames
  | promoteWorkingMemory organizationId workspaceId principalId sessionId entryId promotion =>
    exact promoteWorkingMemory_shares.bind fun _ => Program.Frames.pure
  | promoteWorkingMemoryWithLimits organizationId workspaceId principalId sessionId entryId promotion limits =>
    refine Program.Frames.bind ?_ fun _ => Program.Frames.pure
    refine Program.Frames.bind (Program.Frames.update fun _ => rfl) fun _ => ?_
    refine Program.Frames.query.bind fun contentBytes => ?_
    cases contentBytes with
    | none => exact Program.Frames.pure
    | some contentBytes => exact Program.Frames.query.bind fun _ => promoteWorkingMemory_shares

theorem Step.shares (taken : Step x engines server event server')
    (other : ∀ call, event.op = .knowledge call → call.writesShares = false) :
    server'.store.knowledge.memoryShares = server.store.knowledge.memoryShares := by
  rw [taken.next]
  show (callStore x engines event.env event.op server.store).1.knowledge.memoryShares = _
  by_cases own : ∃ call, event.op = .knowledge call
  · obtain ⟨call, called⟩ := own
    rw [called]
    exact callKnowledge_shares (other call called) server.store
  · rw [callStore_knowledge fun call same => own ⟨call, same⟩]

theorem ShareReviewState.isLive_of_allowed {state state' : ShareReviewState}
    (allowed : state.canTransitionTo state' = true) : state.isLive = true := by
  cases state <;> cases state' <;> simp_all [ShareReviewState.canTransitionTo, ShareReviewState.isLive]

theorem MemoryShare.duplicates_of_isLive {organizationId sourceWorkspaceId : String} {memoryId : Uuid}
    {audience : ShareAudience}
    (owned : inScope organizationId sourceWorkspaceId share.organizationId share.sourceWorkspaceId = true)
    (sameMemory : share.memoryId = memoryId) (sameAudience : share.audience = audience)
    (live : share.state.isLive = true) :
    share.duplicates organizationId sourceWorkspaceId memoryId audience = true := by
  unfold MemoryShare.duplicates
  rw [owned, sameMemory, sameAudience]
  cases state : share.state <;> simp_all [ShareReviewState.isLive]

theorem proposeMemoryShare_accepted {organizationId sourceWorkspaceId : String} {memoryId : Uuid}
    {audience : ShareAudience} {proposedBy : Uuid} {expiresAtUnixMs : Option Nat}
    (run : proposeMemoryShare env organizationId sourceWorkspaceId memoryId audience proposedBy expiresAtUnixMs s =
      .ok (s', share)) :
    ∀ (other : Uuid) (share' : MemoryShare), s.knowledge.memoryShares[other]? = some share' →
      share'.duplicates organizationId sourceWorkspaceId memoryId audience = false := by
  unfold proposeMemoryShare at run
  obtain ⟨_, _, run⟩ := bind_eq_ok.mp run
  obtain ⟨_, _, run⟩ := bind_eq_ok.mp run
  obtain ⟨_, _, run⟩ := bind_eq_ok.mp run
  obtain ⟨_, _, run⟩ := bind_eq_ok.mp run
  obtain ⟨_, _, run⟩ := bind_eq_ok.mp run
  obtain ⟨_, _, run⟩ := bind_eq_ok.mp run
  obtain ⟨_, unrepeated, _⟩ := bind_eq_ok.mp run
  rw [ensure_eq_ok, List.any_eq_true, not_exists] at unrepeated
  intro other share' found
  have missing := unrepeated share'
  rw [Table.mem_rows, not_and, Bool.not_eq_true] at missing
  exact missing ⟨other, found⟩

theorem checkApproval_ok {organizationId sourceWorkspaceId : String} {state : ShareReviewState} {event : Event}
    (run : checkApproval event.env organizationId sourceWorkspaceId share state s = .ok ())
    (approved : state = .approved) : event.FindsRetrievable s share.memoryId := by
  unfold checkApproval at run
  rw [if_pos approved] at run
  obtain ⟨memory, found, run⟩ := bind_eq_ok.mp run
  rw [context_eq_ok] at found
  have retrievable := (ensure_eq_ok.mp run).2
  simp only [isRetrievable, Bool.and_eq_true, beq_iff_eq] at retrievable
  exact ⟨memory, found, retrievable⟩

theorem Step.proposal_origin (taken : Step x engines server event server') {organizationId sourceWorkspaceId : String}
    {memoryId : Uuid} {audience : ShareAudience} {proposedBy : Uuid} {expiresAtUnixMs : Option Nat}
    (called : event.op = .knowledge (.proposeMemoryShare organizationId sourceWorkspaceId memoryId audience proposedBy
      expiresAtUnixMs)) (found' : server'.store.knowledge.memoryShares[id]? = some share') :
    share'.Origin event server.store id := by
  have unreviewed : event.reviews server.store id = none := by simp [Event.reviews, called]
  have written : server'.store = (Program.transaction (proposeMemoryShare event.env organizationId sourceWorkspaceId
      memoryId audience proposedBy expiresAtUnixMs) server.store).1 := by
    rw [taken.next]
    simp only [Server.next, called, callStore, callKnowledge]
    exact Program.discard_state
  unfold Program.transaction at written
  cases outcome : proposeMemoryShare event.env organizationId sourceWorkspaceId memoryId audience proposedBy
      expiresAtUnixMs server.store with
  | error e =>
    simp only [outcome] at written
    rw [written] at found'
    exact .kept found' unreviewed
  | ok result =>
    obtain ⟨after, share⟩ := result
    simp only [outcome] at written
    obtain ⟨memory, memoryFound, owned, retrievable, created, rest⟩ := proposeMemoryShare_ok outcome
    rw [written, rest] at found'
    have inserted : (server.store.knowledge.memoryShares.insert share.id share)[id]? = some share' := found'
    rw [Table.find_insert] at inserted
    by_cases same : share.id = id
    · rw [if_pos same] at inserted
      cases inserted
      have proposal : event.proposes server.store = some share' := by simp [Event.proposes, called, outcome]
      simp only [isRetrievable, Bool.and_eq_true, beq_iff_eq] at retrievable
      simp only [inScope, Bool.and_eq_true, beq_iff_eq] at owned
      have unrepeated := proposeMemoryShare_accepted outcome
      subst created
      exact .proposed proposal same unreviewed rfl rfl ⟨memory, memoryFound, retrievable⟩
        ⟨memory, memoryFound, owned⟩ unrepeated
    · rw [if_neg same] at inserted
      exact .kept inserted unreviewed

theorem Step.review_origin (taken : Step x engines server event server') {organizationId sourceWorkspaceId : String}
    {reviewed : Uuid} {state : ShareReviewState} {reviewedBy : Uuid} {reviewNote : Option String}
    (called : event.op = .knowledge (.reviewMemoryShare organizationId sourceWorkspaceId reviewed state reviewedBy
      reviewNote)) (found' : server'.store.knowledge.memoryShares[id]? = some share') :
    share'.Origin event server.store id := by
  have written : server'.store = (Program.transaction (reviewMemoryShare event.env organizationId sourceWorkspaceId
      reviewed state reviewedBy reviewNote) server.store).1 := by
    rw [taken.next]
    simp only [Server.next, called, callStore, callKnowledge]
    exact Program.discard_state
  unfold Program.transaction at written
  cases outcome : reviewMemoryShare event.env organizationId sourceWorkspaceId reviewed state reviewedBy reviewNote
      server.store with
  | error e =>
    simp only [outcome] at written
    rw [written] at found'
    exact .kept found' (by simp [Event.reviews, called, outcome])
  | ok result =>
    obtain ⟨after, share?⟩ := result
    simp only [outcome] at written
    rcases reviewMemoryShare_ok outcome with ⟨same, absent⟩ | ⟨share, found, _, allowed, approval, answered, rest⟩
    · rw [written, same] at found'
      exact .kept found' (by simp [Event.reviews, called, outcome, absent])
    · rw [written, rest] at found'
      have inserted : (server.store.knowledge.memoryShares.insert reviewed
        (share.review event.env state reviewedBy reviewNote))[id]? = some share' := found'
      rw [Table.find_insert] at inserted
      by_cases same : reviewed = id
      · subst same
        rw [if_pos rfl] at inserted
        cases inserted
        have review : event.reviews server.store reviewed = some state := by
          simp [Event.reviews, called, outcome, answered]
        exact .reviewed state reviewedBy reviewNote found review allowed (checkApproval_ok approval)
      · rw [if_neg same] at inserted
        exact .kept inserted (by simp [Event.reviews, called, same])

/-- Every share found after a step has been kept, reviewed or proposed. -/
theorem Step.share_origin (taken : Step x engines server event server')
    (found' : server'.store.knowledge.memoryShares[id]? = some share') :
    share'.Origin event server.store id := by
  by_cases writing : ∃ call, event.op = .knowledge call ∧ call.writesShares = true
  · obtain ⟨call, called, writes⟩ := writing
    cases call with
    | proposeMemoryShare => exact taken.proposal_origin called found'
    | reviewMemoryShare => exact taken.review_origin called found'
    | _ => cases writes
  · have other : ∀ call, event.op = .knowledge call → call.writesShares = false := by
      intro call called
      rw [← Bool.not_eq_true]
      exact fun writes => writing ⟨call, called, writes⟩
    rw [taken.shares other] at found'
    refine .kept found' ?_
    unfold Event.reviews
    split
    · rename_i called
      have writes := other _ called
      cases writes
    · rfl

/-- What the run so far has made of the shares: one live grant for a memory and audience, in the scope of its
    memory, as often revised as reviewed, proposed and approved while its memory was published and unexpired. -/
structure GrantsHold (trace : List (Server × Event)) (k : KnowledgeTables) : Prop where
  oneLive : ∀ (id id' : Uuid) share share', k.memoryShares[id]? = some share → k.memoryShares[id']? = some share' →
    share.memoryId = share'.memoryId → share.audience = share'.audience → share.state.isLive = true →
    share'.state.isLive = true → id = id'
  source : ∀ (id : Uuid) share, k.memoryShares[id]? = some share → ∃ memory, k.memories[share.memoryId]? = some memory ∧
    memory.organizationId = share.organizationId ∧ memory.workspaceId = share.sourceWorkspaceId
  version : ∀ (id : Uuid) share, k.memoryShares[id]? = some share →
    share.version = 1 + trace.countP fun p => (p.2.reviews p.1.store id).isSome
  proposed : ∀ (id : Uuid) share, k.memoryShares[id]? = some share → ∃ p ∈ trace, ∃ first,
    p.2.proposes p.1.store = some first ∧ first.id = id ∧ first.memoryId = share.memoryId ∧
    p.2.FindsRetrievable p.1.store share.memoryId
  approved : ∀ (id : Uuid) share, k.memoryShares[id]? = some share → ∀ p ∈ trace,
    p.2.reviews p.1.store id = some .approved → p.2.FindsRetrievable p.1.store share.memoryId
  closed : ∀ p ∈ trace, ∀ (id : Uuid) share, p.1.store.knowledge.memoryShares[id]? = some share →
    share.state.isLive = false → k.memoryShares[id]? = some share

theorem MemoryShare.Changes.closed (changed : share.Changes env share') (ended : share.state.isLive = false) :
    share' = share := by
  cases changed with
  | same => rfl
  | review state _ _ allowed =>
    rw [ShareReviewState.isLive_of_allowed allowed] at ended
    cases ended

theorem GrantsHold.start {provider : EmbeddingProvider} : GrantsHold [] (Server.initial provider).store.knowledge := by
  constructor <;> intros <;> simp_all [Server.initial, Store.empty]

theorem MemoryShare.Origin.live (origin : share'.Origin event s id) (live : share'.state.isLive = true) :
    (∃ share, s.knowledge.memoryShares[id]? = some share ∧ share.memoryId = share'.memoryId ∧
      share.audience = share'.audience ∧ share.state.isLive = true) ∨
    share'.id = id ∧ event.proposes s = some share' ∧
      (∃ memory, s.knowledge.memories[share'.memoryId]? = some memory ∧
        memory.organizationId = share'.organizationId ∧ memory.workspaceId = share'.sourceWorkspaceId) ∧
      ∀ (other : Uuid) (share : MemoryShare), s.knowledge.memoryShares[other]? = some share →
        share.duplicates share'.organizationId share'.sourceWorkspaceId share'.memoryId share'.audience = false := by
  cases origin with
  | kept found => exact .inl ⟨share', found, rfl, rfl, live⟩
  | reviewed state _ _ found _ allowed =>
    exact .inl ⟨_, found, rfl, rfl, ShareReviewState.isLive_of_allowed allowed⟩
  | proposed proposal named _ _ _ _ source unrepeated => exact .inr ⟨named, proposal, source, unrepeated⟩

/-- Two live shares for one memory and audience after a step are one share: the first of them was there before. -/
theorem GrantsHold.unique {trace : List (Server × Event)} (holds : GrantsHold trace s.knowledge) {first second : Uuid}
    {left right : MemoryShare} (found : s.knowledge.memoryShares[first]? = some left) (leftLive : left.state.isLive = true)
    (origin : right.Origin event s second) (live : right.state.isLive = true) (sameMemory : left.memoryId = right.memoryId)
    (sameAudience : left.audience = right.audience) : first = second := by
  rcases origin.live live with ⟨before, beforeFound, memory, audience, beforeLive⟩ | ⟨_, _, source, unrepeated⟩
  · exact holds.oneLive first second left before found beforeFound (sameMemory.trans memory.symm)
      (sameAudience.trans audience.symm) leftLive beforeLive
  · obtain ⟨memory, memoryFound, organization, workspace⟩ := holds.source first left found
    obtain ⟨memory', memoryFound', organization', workspace'⟩ := source
    rw [sameMemory, memoryFound'] at memoryFound
    cases memoryFound
    have owned : inScope right.organizationId right.sourceWorkspaceId left.organizationId left.sourceWorkspaceId = true := by
      simp [inScope, ← organization, ← workspace, organization', workspace']
    have repeated := MemoryShare.duplicates_of_isLive owned sameMemory sameAudience leftLive
    rw [unrepeated first left found] at repeated
    cases repeated

theorem Event.proposes_id (proposal : event.proposes s = some share) : share.id = event.env.uuid 0 := by
  unfold Event.proposes at proposal
  split at proposal
  · split at proposal
    · rename_i run
      cases proposal
      obtain ⟨_, _, _, _, created, _⟩ := proposeMemoryShare_ok run
      rw [created]
      rfl
    · cases proposal
  · cases proposal

theorem Event.share_of_reviews {state : ShareReviewState} (review : event.reviews s id = some state) :
    ∃ share, s.knowledge.memoryShares[id]? = some share := by
  unfold Event.reviews at review
  split at review
  · split at review
    · rename_i same
      subst same
      split at review
      · rename_i run
        rcases reviewMemoryShare_ok run with ⟨_, absent⟩ | ⟨share, found, _⟩
        · cases absent
        · exact ⟨share, found⟩
      · cases review
    · cases review
  · cases review

theorem reviewed_stored {initial : Server} {trace : List (Server × Event)} (run : Run (Step x engines) initial trace server)
    {p : Server × Event} (member : p ∈ trace) {state : ShareReviewState}
    (review : p.2.reviews p.1.store id = some state) : ∃ share, server.store.knowledge.memoryShares[id]? = some share := by
  induction run with
  | start => cases member
  | @next trace server server' event _ taken ih =>
    have before : ∃ share, server.store.knowledge.memoryShares[id]? = some share := by
      rcases List.mem_append.mp member with earlier | last
      · exact ih earlier
      · cases List.mem_singleton.mp last
        exact Event.share_of_reviews review
    obtain ⟨share, found⟩ := before
    obtain ⟨share', found', _⟩ := taken.keeps_share found
    exact ⟨share', found'⟩

section
variable {initial : Server} {trace : List (Server × Event)} (run : Run (Step x engines) initial trace server)
  (taken : Step x engines server event server')

include run taken

theorem GrantsHold.step (holds : GrantsHold trace server.store.knowledge) (valid : KnowledgeIntegrity server'.store.knowledge) :
    GrantsHold (trace ++ [(server, event)]) server'.store.knowledge := by
  have unreviewed {id : Uuid} {share' : MemoryShare} (proposal : event.proposes server.store = some share')
      (named : share'.id = id) : ∀ p ∈ trace, p.2.reviews p.1.store id = none := by
    intro p member
    cases review : p.2.reviews p.1.store id with
    | none => rfl
    | some state =>
      obtain ⟨share, found⟩ := reviewed_stored run member review
      rw [← named, Event.proposes_id proposal, taken.fresh.share_unused 0] at found
      cases found
  constructor
  case oneLive =>
    intro id id' left right found found' sameMemory sameAudience live live'
    have origin := taken.share_origin found
    have origin' := taken.share_origin found'
    rcases origin.live live with ⟨before, beforeFound, memory, audience, beforeLive⟩ | ⟨named, proposal, _⟩
    · exact holds.unique beforeFound beforeLive origin' live' (memory.trans sameMemory) (audience.trans sameAudience)
    · rcases origin'.live live' with ⟨before, beforeFound, memory, audience, beforeLive⟩ | ⟨named', proposal', _⟩
      · exact (holds.unique beforeFound beforeLive origin live (memory.trans sameMemory.symm)
          (audience.trans sameAudience.symm)).symm
      · rw [proposal, Option.some.injEq] at proposal'
        rw [← named, ← named', proposal']
  case source =>
    intro id share found
    obtain ⟨memory, memoryFound, organization, workspace, _⟩ := valid.source found
    exact ⟨memory, memoryFound, organization, workspace⟩
  case version =>
    intro id share' found'
    rw [List.countP_append, List.countP_singleton]
    cases taken.share_origin found' with
    | kept found none => simp [holds.version id share' found, none]
    | reviewed state _ _ found review =>
      simp [MemoryShare.review, holds.version id _ found, review]
      omega
    | proposed proposal named none _ first =>
      have never : trace.countP (fun p => (p.2.reviews p.1.store id).isSome) = 0 := by
        rw [List.countP_eq_zero]
        intro p member
        simp [unreviewed proposal named p member]
      simp [first, never, none]
  case proposed =>
    intro id share' found'
    have earlier {share : MemoryShare} (found : server.store.knowledge.memoryShares[id]? = some share) :
        ∃ p ∈ trace ++ [(server, event)], ∃ first, p.2.proposes p.1.store = some first ∧ first.id = id ∧
          first.memoryId = share.memoryId ∧ p.2.FindsRetrievable p.1.store share.memoryId := by
      obtain ⟨p, member, first⟩ := holds.proposed id share found
      exact ⟨p, List.mem_append_left _ member, first⟩
    cases taken.share_origin found' with
    | kept found => exact earlier found
    | reviewed _ _ _ found =>
      have before := earlier found
      exact before
    | proposed proposal named _ _ _ retrievable =>
      exact ⟨(server, event), List.mem_append_right _ List.mem_cons_self, share', proposal, named, rfl, retrievable⟩
  case approved =>
    intro id share' found' p member approval
    rcases List.mem_append.mp member with member | last
    · cases taken.share_origin found' with
      | kept found => exact holds.approved id share' found p member approval
      | reviewed _ _ _ found => exact holds.approved id _ found p member approval
      | proposed proposal named =>
        rw [unreviewed proposal named p member] at approval
        cases approval
    · cases List.mem_singleton.mp last
      cases taken.share_origin found' with
      | kept found none =>
        rw [none] at approval
        cases approval
      | reviewed state _ _ found review _ approvable =>
        rw [review, Option.some.injEq] at approval
        exact approvable approval
      | proposed _ _ none =>
        rw [none] at approval
        cases approval
  case closed =>
    intro p member id share found ended
    have before : server.store.knowledge.memoryShares[id]? = some share := by
      rcases List.mem_append.mp member with earlier | last
      · exact holds.closed p earlier id share found ended
      · cases List.mem_singleton.mp last
        exact found
    obtain ⟨share', found', changed⟩ := taken.keeps_share before
    rw [found', changed.closed ended]

end

/-- At most one live grant for a memory and audience: what holds of the shares after every run. -/
theorem grants_hold {provider : EmbeddingProvider} {trace : List (Server × Event)}
    (run : Run (Step x engines) (Server.initial provider) trace server) :
    GrantsHold trace server.store.knowledge := by
  induction run with
  | start => exact .start
  | next before taken holds =>
    have reachable : Reachable x engines _ := ⟨provider, _, before.next taken⟩
    exact holds.step before taken reachable.knowledgeIntegrity

def regrantingCalls : List (Nat × Op) :=
  [(1, .knowledge (.createMemory ⟨"acme", "core", "alpha", none, Uuid.nil, 1, none, .direct⟩)),
    (2, .knowledge (.transitionMemory (serialUuid 0) "acme" "core" ⟨.validated, none, none⟩)),
    (3, .knowledge (.transitionMemory (serialUuid 0) "acme" "core" ⟨.published, none, none⟩)),
    (4, .knowledge (.proposeMemoryShare "acme" "core" (serialUuid 0) (.workspace "lab") Uuid.nil none)),
    (5, .knowledge (.reviewMemoryShare "acme" "core" (serialUuid 48) .approved Uuid.nil none)),
    (6, .knowledge (.proposeMemoryShare "acme" "core" (serialUuid 0) (.workspace "lab") Uuid.nil none)),
    (7, .knowledge (.reviewMemoryShare "acme" "core" (serialUuid 48) .revoked Uuid.nil none)),
    (8, .knowledge (.proposeMemoryShare "acme" "core" (serialUuid 0) (.workspace "lab") Uuid.nil none))]

theorem grants_hold_regranted :
    ((Table.rows (freshRun sample noHits regrantingCalls).store.knowledge.memoryShares).map fun share =>
      (share.state, share.version)) = [(.revoked, 3), (.pending, 1)] ∧
    GrantsHold (serialTrace sample noHits (Server.initial .hashingV1) 0 regrantingCalls)
      (freshRun sample noHits regrantingCalls).store.knowledge :=
  ⟨by decide +kernel, grants_hold (serialRun_run (by decide +kernel))⟩

end Hangar
