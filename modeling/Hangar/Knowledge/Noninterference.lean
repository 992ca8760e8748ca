import Hangar.Knowledge.Disclosure
import Hangar.Knowledge.Supersession

namespace Hangar

open Lib

/-- Two stores that agree on what a principal may see in a workspace: the memories of the workspace, the
    shares active for the principal there with the memories they name, and the chunks retrieved. -/
structure ContextAlike (x : Externals) (engines : SearchEngines) (env : Env) (principal : Principal)
    (requestWorkspaceId query : String) (s s' : Store) : Prop where
  memories : (s.knowledge.memories.filter fun _ memory =>
      inScope principal.organizationId requestWorkspaceId memory.organizationId memory.workspaceId) =
    s'.knowledge.memories.filter fun _ memory =>
      inScope principal.organizationId requestWorkspaceId memory.organizationId memory.workspaceId
  shares : (s.knowledge.memoryShares.filter fun _ share =>
      share.organizationId == principal.organizationId &&
        share.isActiveFor env requestWorkspaceId principal.id principal.subjectKind) =
    s'.knowledge.memoryShares.filter fun _ share =>
      share.organizationId == principal.organizationId &&
        share.isActiveFor env requestWorkspaceId principal.id principal.subjectKind
  named : ∀ share ∈ activeShares env principal requestWorkspaceId s,
    s.knowledge.memories[share.memoryId]? = s'.knowledge.memories[share.memoryId]?
  chunks : retrieveChunks x engines principal.organizationId requestWorkspaceId query 50 s =
    retrieveChunks x engines principal.organizationId requestWorkspaceId query 50 s'

variable {x : Externals} {engines : SearchEngines} {env env' : Env} {principal : Principal}
  {requestWorkspaceId query : String} {s s' : Store} {id : Uuid} {memory : Memory}
  {terms : List String} {ranks : Table String Nat} {candidate : ContextCandidate}

namespace ContextAlike

variable (alike : ContextAlike x engines env principal requestWorkspaceId query s s')
include alike

theorem activeShares_eq :
    activeShares env principal requestWorkspaceId s = activeShares env principal requestWorkspaceId s' := by
  unfold activeShares
  rw [← Table.rows_filter, ← Table.rows_filter, alike.shares]

theorem symm : ContextAlike x engines env principal requestWorkspaceId query s' s where
  memories := alike.memories.symm
  shares := alike.shares.symm
  named share member := (alike.named share (alike.activeShares_eq ▸ member)).symm
  chunks := alike.chunks.symm

theorem found (valid : KnowledgeIntegrity s.knowledge) (stored : s.knowledge.memories[id]? = some memory)
    (kept : contextCandidate x env principal requestWorkspaceId terms ranks
      (activeShares env principal requestWorkspaceId s) memory = some candidate) :
    s'.knowledge.memories[id]? = some memory := by
  obtain ⟨_, organization, _, own | ⟨_, share, active, names, _⟩⟩ := contextCandidate_eq_some kept
  · have owned : inScope principal.organizationId requestWorkspaceId memory.organizationId memory.workspaceId = true := by
      simp [inScope, organization, own.1]
    have seen := (Table.find_filter_eq_some (p := fun _ memory => inScope principal.organizationId requestWorkspaceId
      memory.organizationId memory.workspaceId)).mpr ⟨stored, owned⟩
    rw [alike.memories, Table.find_filter_eq_some] at seen
    exact seen.1
  · have same := alike.named share active
    rw [names, valid.memoryId stored, stored] at same
    exact same.symm

end ContextAlike

theorem sweep_candidate : (sweep env s).knowledge.memories[id]? = some memory ∧
      contextCandidate x env principal requestWorkspaceId terms ranks
        (activeShares env principal requestWorkspaceId s) memory = some candidate ↔
    s.knowledge.memories[id]? = some memory ∧
      contextCandidate x env principal requestWorkspaceId terms ranks
        (activeShares env principal requestWorkspaceId s) memory = some candidate := by
  constructor
  · rintro ⟨swept, kept⟩
    exact ⟨sweep_retrievable swept (contextCandidate_eq_some kept).2.2.1, kept⟩
  · rintro ⟨stored, kept⟩
    refine ⟨?_, kept⟩
    rw [find_sweep, stored, Option.map_some, isRetrievable_not_due (contextCandidate_eq_some kept).2.2.1]
    rfl

theorem rankedCandidates_alike (alike : ContextAlike x engines env principal requestWorkspaceId query s s')
    (valid : KnowledgeIntegrity s.knowledge) (valid' : KnowledgeIntegrity s'.knowledge) :
    rankedCandidates x env principal requestWorkspaceId terms ranks (sweep env s) =
      rankedCandidates x env principal requestWorkspaceId terms ranks (sweep env s') := by
  have shares : activeShares env principal requestWorkspaceId (sweep env s') =
      activeShares env principal requestWorkspaceId (sweep env s) := alike.activeShares_eq.symm
  have candidates : (Table.rows (sweep env s).knowledge.memories).filterMap
        (contextCandidate x env principal requestWorkspaceId terms ranks
          (activeShares env principal requestWorkspaceId (sweep env s))) =
      (Table.rows (sweep env s').knowledge.memories).filterMap
        (contextCandidate x env principal requestWorkspaceId terms ranks
          (activeShares env principal requestWorkspaceId (sweep env s))) := by
    apply Table.rows_filterMap_congr
    intro id
    apply Option.ext
    intro candidate
    simp only [Option.bind_eq_some_iff]
    constructor
    · rintro ⟨memory, swept, kept⟩
      have stored := (sweep_candidate.mp ⟨swept, kept⟩).1
      have stored' := alike.found valid stored kept
      have kept' := alike.activeShares_eq ▸ kept
      exact ⟨memory, (sweep_candidate.mpr ⟨stored', kept'⟩).1, kept⟩
    · rintro ⟨memory, swept, kept⟩
      have kept' := alike.activeShares_eq ▸ kept
      have stored' := (sweep_candidate.mp ⟨swept, kept'⟩).1
      have stored := alike.symm.found valid' stored' kept'
      exact ⟨memory, (sweep_candidate.mpr ⟨stored, kept⟩).1, kept⟩
  unfold rankedCandidates
  dsimp only
  rw [shares, candidates]

theorem assembleContext_alike {tokenBudget limit : Nat}
    (alike : ContextAlike x engines env principal requestWorkspaceId query s s')
    (valid : KnowledgeIntegrity s.knowledge) (valid' : KnowledgeIntegrity s'.knowledge) :
    assembleContext x engines env principal requestWorkspaceId query tokenBudget limit (sweep env s) =
      assembleContext x engines env principal requestWorkspaceId query tokenBudget limit (sweep env s') := by
  have chunks {s : Store} : retrieveChunks x engines principal.organizationId requestWorkspaceId query 50 (sweep env s) =
      retrieveChunks x engines principal.organizationId requestWorkspaceId query 50 s := rfl
  unfold assembleContext
  simp only [chunks, alike.chunks, rankedCandidates_alike alike valid valid']

/-- A compilation depends on the time of its call, and on none of the ids it draws. -/
theorem assembleContext_now {tokenBudget limit : Nat} (sameTime : env'.now = env.now) :
    assembleContext x engines env' principal requestWorkspaceId query tokenBudget limit (sweep env' s) =
      assembleContext x engines env principal requestWorkspaceId query tokenBudget limit (sweep env s) := by
  have chunks {env : Env} : retrieveChunks x engines principal.organizationId requestWorkspaceId query 50 (sweep env s) =
      retrieveChunks x engines principal.organizationId requestWorkspaceId query 50 s := rfl
  have knowledge : (sweep env' s).knowledge = (sweep env s).knowledge := by
    unfold sweep expiredMemories Memory.isDue Memory.expire
    rw [sameTime]
  have shares : activeShares env' principal requestWorkspaceId (sweep env' s) =
      activeShares env principal requestWorkspaceId (sweep env s) := by
    unfold activeShares MemoryShare.isActiveFor unexpired
    rw [knowledge, sameTime]
  have candidates (terms : List String) (ranks : Table String Nat) (shares : List MemoryShare) :
      contextCandidate x env' principal requestWorkspaceId terms ranks shares =
        contextCandidate x env principal requestWorkspaceId terms ranks shares := by
    funext memory
    unfold contextCandidate isRetrievable unexpired
    rw [sameTime]
  unfold assembleContext rankedCandidates
  simp only [chunks, shares, knowledge, candidates]

/-- What a compilation answers: the checks, then the package of the swept store. -/
theorem compileContextPackage_answer {tokenBudget limit : Nat} :
    (compileContextPackage x engines env principal requestWorkspaceId query tokenBudget limit s).2 = (do
      ensureScope principal.organizationId requestWorkspaceId
      check (1 ≤ tokenBudget ∧ tokenBudget ≤ 8192) "token_budget must be between 1 and 8192"
      assembleContext x engines env principal requestWorkspaceId query tokenBudget limit (sweep env s)) := by
  unfold compileContextPackage
  rw [Program.query_bind]
  congr 1
  funext _
  rw [Program.query_bind]
  rfl

/-- A compilation answers the same from any two stores that agree on what the principal may see, whatever the
    rest of them holds. -/
theorem compileContextPackage_noninterference {server server' : Server} {tokenBudget limit : Nat}
    (reachable : Reachable x engines server) (reachable' : Reachable x engines server')
    (alike : ContextAlike x engines env principal requestWorkspaceId query server.store server'.store)
    (sameTime : env'.now = env.now) :
    (compileContextPackage x engines env principal requestWorkspaceId query tokenBudget limit server.store).2 =
      (compileContextPackage x engines env' principal requestWorkspaceId query tokenBudget limit server'.store).2 := by
  rw [compileContextPackage_answer, compileContextPackage_answer, assembleContext_now sameTime,
    assembleContext_alike alike reachable.knowledgeIntegrity reachable'.knowledgeIntegrity]

def crowdedServer : Server := freshRun sample noHits
  [(1, .knowledge (.createMemory ⟨"acme", "core", "alpha", none, Uuid.nil, 1, none, .direct⟩)),
    (2, .knowledge (.transitionMemory (serialUuid 0) "acme" "core" ⟨.validated, none, none⟩)),
    (3, .knowledge (.transitionMemory (serialUuid 0) "acme" "core" ⟨.published, none, none⟩)),
    (4, .knowledge (.proposeMemoryShare "acme" "core" (serialUuid 0) .organization Uuid.nil none)),
    (5, .knowledge (.reviewMemoryShare "acme" "core" (serialUuid 48) .approved Uuid.nil none)),
    (5, .knowledge (.createMemory ⟨"acme", "core", "alpha alpha", none, Uuid.nil, 1, some 6, .direct⟩)),
    (5, .knowledge (.createMemory ⟨"globex", "lab", "alpha beta", none, Uuid.nil, 1, none, .direct⟩)),
    (5, .knowledge (.proposeMemoryShare "acme" "core" (serialUuid 0) (.workspace "lab") Uuid.nil none))]

theorem compileContextPackage_noninterference_crowded :
    ∃ package, (compileContextPackage sample noHits (serialEnv 6 128) labReader "lab" "alpha" 100 5
        sharedServer.store).2 = .ok package ∧
      (package.items.map ContextItem.content) = ["alpha"] ∧
      (compileContextPackage sample noHits (serialEnv 6 128) labReader "lab" "alpha" 100 5
        crowdedServer.store).2 = .ok package := by
  have compiled : ∃ package, (compileContextPackage sample noHits (serialEnv 6 128) labReader "lab" "alpha" 100 5
        sharedServer.store).2 = .ok package ∧
      (package.items.map ContextItem.content) = ["alpha"] := by decide +kernel
  obtain ⟨package, run, contents⟩ := compiled
  have none {server : Server} (retrieved : ∃ chunks, retrieveChunks sample noHits "acme" "lab" "alpha" 50 server.store =
      .ok chunks ∧ chunks = []) : retrieveChunks sample noHits "acme" "lab" "alpha" 50 server.store = .ok [] := by
    obtain ⟨chunks, retrieved, rfl⟩ := retrieved
    exact retrieved
  have alike : ContextAlike sample noHits (serialEnv 6 128) labReader "lab" "alpha" sharedServer.store
      crowdedServer.store := by
    constructor
    · apply Std.ExtTreeMap.ext_toList
      decide +kernel
    · apply Std.ExtTreeMap.ext_toList
      decide +kernel
    · decide +kernel
    · exact (none (by decide +kernel)).trans (none (by decide +kernel)).symm
  have reachable : Reachable sample noHits sharedServer := freshRun_reachable (by decide +kernel)
  have reachable' : Reachable sample noHits crowdedServer := freshRun_reachable (by decide +kernel)
  refine ⟨package, run, contents, ?_⟩
  rw [← run]
  exact (compileContextPackage_noninterference reachable reachable' alike rfl).symm

end Hangar
