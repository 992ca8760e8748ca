import Hangar.Knowledge.Expiry

namespace Hangar

open Lib

structure AdmittedBy (env : Env) (principal : Principal) (requestWorkspaceId : String) (s : Store)
    (memory : Memory) (shareId : Uuid) (share : MemoryShare) : Prop where
  stored : s.knowledge.memoryShares[shareId]? = some share
  approved : share.state = .approved
  unexpired : unexpired env share.expiresAtUnixMs = true
  organization : share.organizationId = principal.organizationId
  grants : share.memoryId = memory.id
  sourceWorkspace : share.sourceWorkspaceId = memory.workspaceId
  audience : share.audience.permits requestWorkspaceId principal.id principal.subjectKind = true

/-- An item that discloses a stored memory the principal may see. -/
structure Discloses (env : Env) (principal : Principal) (requestWorkspaceId : String) (s : Store)
    (item : ContextItem) (memory : Memory) : Prop where
  stored : s.knowledge.memories[item.evidence.memoryId]? = some memory
  organization : memory.organizationId = principal.organizationId
  published : memory.lifecycle = .published
  unexpired : unexpired env memory.expiresAtUnixMs = true
  content : item.content = memory.content
  contentSha256 : item.evidence.contentSha256 = memory.contentSha256
  version : item.evidence.memoryVersion = memory.version
  tokens : item.estimatedTokens = itemTokens memory
  admitted : memory.workspaceId = requestWorkspaceId ∧ item.evidence.shareId = none ∨
    ∃ shareId share, item.evidence.shareId = some shareId ∧
      AdmittedBy env principal requestWorkspaceId s memory shareId share

/-- A package of authorized items, no memory twice, within the budget. -/
structure ContextPackage.Authorized (env : Env) (principal : Principal) (requestWorkspaceId : String)
    (tokenBudget : Nat) (s : Store) (package : ContextPackage) : Prop where
  items : ∀ item ∈ package.items, ∃ memory, Discloses env principal requestWorkspaceId s item memory
  distinct : (package.items.map fun item => item.evidence.memoryId).Nodup
  total : package.estimatedTokens = (package.items.map ContextItem.estimatedTokens).sum
  budget : package.estimatedTokens ≤ tokenBudget

/-- The share can admit nobody any more: it is rejected or revoked, or its memory is superseded or expired. -/
def Withdrawn (k : KnowledgeTables) (id : Uuid) : Prop :=
  ∃ share, k.memoryShares[id]? = some share ∧
    (share.state = .rejected ∨ share.state = .revoked ∨
      ∃ memory, k.memories[share.memoryId]? = some memory ∧
        (memory.lifecycle = .superseded ∨ memory.lifecycle = .expired))

variable {x : Externals} {engines : SearchEngines} {env : Env} {principal : Principal}
  {requestWorkspaceId query : String} {tokenBudget limit : Nat} {s s' : Store} {package : ContextPackage}
  {memory memory' : Memory} {share share' : MemoryShare} {op : Op} {id : Uuid}

theorem compileContextPackage_authorized (valid : KnowledgeIntegrity s.knowledge)
    (run : compileContextPackage x engines env principal requestWorkspaceId query tokenBudget limit s =
      (s', .ok package)) : package.Authorized env principal requestWorkspaceId tokenBudget s := by
  obtain ⟨rfl, terms, ranks, chosen, sublist, packed, tokens, within⟩ := compileContextPackage_ok run
  constructor
  · intro item member
    rw [packed] at member
    obtain ⟨candidate, kept, rfl⟩ := List.mem_map.mp member
    obtain ⟨key, memory, found, candidateKept⟩ := mem_rankedCandidates (sublist.subset kept)
    obtain ⟨rfl, organization, retrievable, shared⟩ := contextCandidate_eq_some candidateKept
    have stored := sweep_retrievable found retrievable
    have keyed : candidate.memory.id = key := valid.memoryId stored
    simp only [isRetrievable, Bool.and_eq_true, beq_iff_eq] at retrievable
    refine ⟨candidate.memory, ⟨?_, organization, retrievable.1, retrievable.2, rfl, rfl, rfl, rfl, ?_⟩⟩
    · show s.knowledge.memories[candidate.memory.id]? = some candidate.memory
      rw [keyed]
      exact stored
    · rcases shared with own | ⟨_, share, active, sameMemory, sameWorkspace, named⟩
      · exact .inl own
      · obtain ⟨⟨shareKey, shareFound⟩, sameOrganization, approved, live, permitted⟩ := mem_activeShares.mp active
        rw [find_sweep_share] at shareFound
        have shareKeyed : share.id = shareKey := valid.shareId shareFound
        subst shareKeyed
        exact .inr ⟨share.id, share, named, shareFound, approved, live, sameOrganization, sameMemory, sameWorkspace,
          permitted⟩
  · have ids : (package.items.map fun item => item.evidence.memoryId) =
        chosen.map fun candidate => candidate.memory.id := by
      rw [packed, List.map_map]
      rfl
    rw [ids]
    exact rankedCandidates_nodup.sublist (sublist.map _)
  · rw [tokens, packed, List.map_map]
    rfl
  · exact within

theorem Memory.Changes.terminal (changed : memory.Changes env op id memory')
    (before : memory.lifecycle = .superseded ∨ memory.lifecycle = .expired) :
    memory'.lifecycle = .superseded ∨ memory'.lifecycle = .expired := by
  cases changed with
  | same => exact before
  | expire => exact .inr rfl
  | transition transition _ _ valid =>
    rcases before with superseded | expired
    · simp [superseded, isValidTransition] at valid
    · simp [expired, isValidTransition] at valid

theorem MemoryShare.Changes.terminal (changed : share.Changes env share')
    (before : share.state = .rejected ∨ share.state = .revoked) :
    share'.state = .rejected ∨ share'.state = .revoked := by
  cases changed with
  | same => exact before
  | review state _ _ allowed =>
    rcases before with rejected | revoked
    · simp [rejected, ShareReviewState.canTransitionTo] at allowed
    · simp [revoked, ShareReviewState.canTransitionTo] at allowed

theorem Withdrawn.step {server server' : Server} {event : Event} (taken : Step x engines server event server')
    (withdrawn : Withdrawn server.store.knowledge id) : Withdrawn server'.store.knowledge id := by
  obtain ⟨share, shareFound, cause⟩ := withdrawn
  obtain ⟨share', shareFound', changed⟩ := taken.keeps_share shareFound
  refine ⟨share', shareFound', ?_⟩
  rcases cause with rejected | revoked | ⟨memory, memoryFound, gone⟩
  · exact (changed.terminal (.inl rejected)).imp_right .inl
  · exact (changed.terminal (.inr revoked)).imp_right .inl
  · obtain ⟨memory', memoryFound', moved⟩ := taken.keeps_memory memoryFound
    refine .inr (.inr ⟨memory', ?_, moved.terminal gone⟩)
    rw [changed.source_eq.1]
    exact memoryFound'

theorem Discloses.through {item : ContextItem} {memory : Memory}
    (disclosed : Discloses env principal requestWorkspaceId s item memory) (named : item.evidence.shareId = some id) :
    ∃ share, AdmittedBy env principal requestWorkspaceId s memory id share := by
  rcases disclosed.admitted with ⟨_, none'⟩ | ⟨shareId, share, named', admitted⟩
  · rw [named] at none'
    cases none'
  · rw [named] at named'
    cases named'
    exact ⟨share, admitted⟩

theorem Withdrawn.excluded (valid : KnowledgeIntegrity s.knowledge) (withdrawn : Withdrawn s.knowledge id)
    (authorized : package.Authorized env principal requestWorkspaceId tokenBudget s) {item : ContextItem}
    (member : item ∈ package.items) : item.evidence.shareId ≠ some id := by
  intro named
  obtain ⟨memory, disclosed⟩ := authorized.items item member
  obtain ⟨share, admitted⟩ := disclosed.through named
  obtain ⟨share', shareFound, cause⟩ := withdrawn
  rw [admitted.stored] at shareFound
  cases shareFound
  rcases cause with rejected | revoked | ⟨memory', memoryFound, gone⟩
  · simp [admitted.approved] at rejected
  · simp [admitted.approved] at revoked
  · have keyed := valid.memoryId disclosed.stored
    rw [admitted.grants, keyed, disclosed.stored] at memoryFound
    cases memoryFound
    simp [disclosed.published] at gone

def NeverDisclosedThrough (x : Externals) (engines : SearchEngines) (env : Env) (s : Store) (id : Uuid) : Prop :=
  ∀ principal requestWorkspaceId query tokenBudget limit s' package,
    compileContextPackage x engines env principal requestWorkspaceId query tokenBudget limit s = (s', .ok package) →
    ∀ item ∈ package.items, item.evidence.shareId ≠ some id

theorem not_revives {server : Server} {event : Event} (valid : KnowledgeIntegrity server.store.knowledge)
    (shareFound : server.store.knowledge.memoryShares[id]? = some share) :
    ¬ event.Revives server.store share.memoryId := by
  rintro ⟨memory, _, _, transition, found, _, _, _, valid', forward, _⟩
  obtain ⟨memory', memoryFound, _, _, notProposed, notValidated⟩ := valid.source shareFound
  rw [found] at memoryFound
  cases memoryFound
  rcases forward with validated | published
  · exact notProposed ((isValidTransition_target valid').2 validated)
  · rw [published] at valid'
    cases source : memory.lifecycle <;> simp_all [isValidTransition]

/-- A share whose memory has reached its expiry never discloses it again, as time goes on. -/
theorem lapsed_share_run {server later : Server} {now now' expiresAt : Nat}
    {trace : List ((Server × Nat) × Event)} (valid : KnowledgeIntegrity server.store.knowledge)
    (shareFound : server.store.knowledge.memoryShares[id]? = some share)
    (memoryFound : server.store.knowledge.memories[share.memoryId]? = some memory)
    (expiring : memory.expiresAtUnixMs = some expiresAt) (reached : expiresAt ≤ now)
    (run : Run (TimedStep x engines) (server, now) trace (later, now')) (afterwards : now' ≤ env.now) :
    NeverDisclosedThrough x engines env later.store id := by
  have kept := run.preserves
    (I := fun state => KnowledgeIntegrity state.1.store.knowledge ∧
      ∃ share memory, state.1.store.knowledge.memoryShares[id]? = some share ∧
        state.1.store.knowledge.memories[share.memoryId]? = some memory ∧ memory.Lapsed state.2)
    ⟨valid, share, memory, shareFound, memoryFound, .inr (.inr ⟨expiresAt, expiring, reached⟩)⟩ ?_
  · obtain ⟨valid', share', memory', shareFound', memoryFound', lapsed⟩ := kept
    intro principal requestWorkspaceId query tokenBudget limit s' package compiled item member named
    obtain ⟨other, disclosed⟩ := (compileContextPackage_authorized valid' compiled).items item member
    obtain ⟨grant, admitted⟩ := disclosed.through named
    rw [admitted.stored] at shareFound'
    cases shareFound'
    have keyed := valid'.memoryId disclosed.stored
    rw [admitted.grants, keyed, disclosed.stored] at memoryFound'
    cases memoryFound'
    have hidden := lapsed.not_retrievable afterwards
    simp [isRetrievable, disclosed.published, disclosed.unexpired] at hidden
  · rintro ⟨⟨before, clock⟩, event⟩ _ ⟨after, clock'⟩ ⟨valid, share, memory, shareFound, memoryFound, lapsed⟩
      ⟨step, later, read⟩
    have read : clock' = event.env.now := read
    obtain ⟨share', shareFound', changed⟩ := step.keeps_share shareFound
    obtain ⟨memory', memoryFound', moved⟩ := step.keeps_memory memoryFound
    have lapsed' := moved.lapsed memoryFound (lapsed.mono later) (not_revives valid shareFound)
    refine ⟨step.knowledgeIntegrity valid, share', memory', shareFound', ?_, read ▸ lapsed'⟩
    rw [changed.source_eq.1]
    exact memoryFound'

/-- Context packages disclose only authorized memory within the budget, and once a share is withdrawn or its
    memory has reached its expiry no later package discloses anything through it. -/
theorem context_packages_disclose_authorized {server : Server} (reachable : Reachable x engines server) :
    (∀ env principal requestWorkspaceId query tokenBudget limit s' package,
      compileContextPackage x engines env principal requestWorkspaceId query tokenBudget limit server.store =
        (s', .ok package) → package.Authorized env principal requestWorkspaceId tokenBudget server.store) ∧
    (∀ id, Withdrawn server.store.knowledge id → ∀ later, Reaches (Step x engines) server later →
      ∀ env, NeverDisclosedThrough x engines env later.store id) ∧
    (∀ (id : Uuid) share memory expiresAt now, server.store.knowledge.memoryShares[id]? = some share →
      server.store.knowledge.memories[share.memoryId]? = some memory → memory.expiresAtUnixMs = some expiresAt →
      expiresAt ≤ now → ∀ trace later now', Run (TimedStep x engines) (server, now) trace (later, now') →
      ∀ env : Env, now' ≤ env.now → NeverDisclosedThrough x engines env later.store id) := by
  have valid := reachable.knowledgeIntegrity
  refine ⟨?_, ?_, ?_⟩
  · intro env principal requestWorkspaceId query tokenBudget limit s' package run
    exact compileContextPackage_authorized valid run
  · intro id withdrawn later run env principal requestWorkspaceId query tokenBudget limit s' package compiled item member
    have kept := run.preserves
      (I := fun state => KnowledgeIntegrity state.store.knowledge ∧ Withdrawn state.store.knowledge id)
      ⟨valid, withdrawn⟩ fun _ _ _ holds taken => ⟨taken.knowledgeIntegrity holds.1, holds.2.step taken⟩
    exact kept.2.excluded kept.1 (compileContextPackage_authorized kept.1 compiled) member
  · intro id share memory expiresAt now shareFound memoryFound expiring reached trace later now' run env afterwards
    exact lapsed_share_run valid shareFound memoryFound expiring reached run afterwards

def sharedServer : Server := freshRun sample noHits
  [(1, .knowledge (.createMemory ⟨"acme", "core", "alpha", none, Uuid.nil, 1, none, .direct⟩)),
    (2, .knowledge (.transitionMemory (serialUuid 0) "acme" "core" ⟨.validated, none, none⟩)),
    (3, .knowledge (.transitionMemory (serialUuid 0) "acme" "core" ⟨.published, none, none⟩)),
    (4, .knowledge (.proposeMemoryShare "acme" "core" (serialUuid 0) .organization Uuid.nil none)),
    (5, .knowledge (.reviewMemoryShare "acme" "core" (serialUuid 48) .approved Uuid.nil none))]

def labReader : Principal := ⟨serialUuid 1, "acme", some "lab", .reader, .agent⟩

theorem context_packages_disclose_authorized_shared :
    ∃ package, (compileContextPackage sample noHits (serialEnv 6 80) labReader "lab" "alpha" 100 5
        sharedServer.store).2 = .ok package ∧
      (package.items.map fun item => item.evidence.shareId) = [some (serialUuid 48)] ∧
      package.Authorized (serialEnv 6 80) labReader "lab" 100 sharedServer.store := by
  have compiled : ∃ package, (compileContextPackage sample noHits (serialEnv 6 80) labReader "lab" "alpha" 100 5
        sharedServer.store).2 = .ok package ∧
      (package.items.map fun item => item.evidence.shareId) = [some (serialUuid 48)] := by decide +kernel
  obtain ⟨package, run, shares⟩ := compiled
  have reachable : Reachable sample noHits sharedServer := freshRun_reachable (by decide +kernel)
  have authorized := (context_packages_disclose_authorized reachable).1 (serialEnv 6 80) labReader "lab" "alpha" 100 5
    _ package (Prod.ext rfl run)
  exact ⟨package, run, shares, authorized⟩

end Hangar
