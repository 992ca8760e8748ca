import Hangar.Concrete
import Hangar.Knowledge.Package

namespace Hangar

open Lib

def TimedStep (x : Externals) (engines : SearchEngines) (before : Server × Nat) (event : Event)
    (after : Server × Nat) : Prop :=
  Step x engines before.1 event after.1 ∧ before.2 ≤ event.env.now ∧ after.2 = event.env.now

/-- The memory is past its last retrievable state, or its expiry has been reached. -/
def Memory.Lapsed (now : Nat) (memory : Memory) : Prop :=
  memory.lifecycle = .superseded ∨ memory.lifecycle = .expired ∨
    ∃ expiresAt, memory.expiresAtUnixMs = some expiresAt ∧ expiresAt ≤ now

/-- An accepted transition that carries a due memory on towards publication under a new expiry. -/
def Event.Revives (event : Event) (s : Store) (id : Uuid) : Prop :=
  ∃ (memory : Memory) (organizationId workspaceId : String) (transition : MemoryTransition),
    s.knowledge.memories[id]? = some memory ∧ memory.isDue event.env = true ∧
    event.op = .knowledge (.transitionMemory id organizationId workspaceId transition) ∧
    inScope organizationId workspaceId memory.organizationId memory.workspaceId = true ∧
    isValidTransition memory.lifecycle transition.lifecycle = true ∧
    (transition.lifecycle = .validated ∨ transition.lifecycle = .published) ∧
    transition.expiresAtUnixMs.isSome = true ∧ checkMemoryExpiry event.env transition.expiresAtUnixMs = .ok ()

variable {x : Externals} {engines : SearchEngines} {env : Env} {id : Uuid} {memory memory' : Memory} {now now' : Nat}

theorem Memory.Lapsed.not_retrievable (lapsed : memory.Lapsed now) (later : now ≤ env.now) :
    isRetrievable env memory = false := by
  unfold isRetrievable unexpired
  rcases lapsed with superseded | expired | ⟨expiresAt, stored, reached⟩
  · simp [superseded]
  · simp [expired]
  · have past : ¬ expiresAt > env.now := by omega
    simp [stored, past]

theorem Memory.Lapsed.mono (lapsed : memory.Lapsed now) (later : now ≤ now') : memory.Lapsed now' := by
  rcases lapsed with superseded | expired | ⟨expiresAt, stored, reached⟩
  · exact .inl superseded
  · exact .inr (.inl expired)
  · exact .inr (.inr ⟨expiresAt, stored, by omega⟩)

theorem Memory.Lapsed.isDue (lapsed : memory.Lapsed env.now) {target : MemoryLifecycle}
    (valid : isValidTransition memory.lifecycle target = true) : memory.isDue env = true := by
  have live : memory.lifecycle = .proposed ∨ memory.lifecycle = .validated ∨ memory.lifecycle = .published := by
    cases source : memory.lifecycle <;> simp_all [isValidTransition]
  rcases lapsed with superseded | expired | ⟨expiresAt, stored, reached⟩
  · simp [superseded] at live
  · simp [expired] at live
  · unfold Memory.isDue
    rcases live with proposed | validated | published
    · simp [proposed, stored, reached]
    · simp [validated, stored, reached]
    · simp [published, stored, reached]

theorem Memory.Changes.lapsed {event : Event} {s : Store} (changed : memory.Changes event.env event.op id memory')
    (found : s.knowledge.memories[id]? = some memory) (lapsed : memory.Lapsed event.env.now)
    (noRevival : ¬ event.Revives s id) : memory'.Lapsed event.env.now := by
  cases changed with
  | same => exact lapsed
  | expire => exact .inr (.inl rfl)
  | @transition organizationId workspaceId transition called owned valid expiry =>
    have due := lapsed.isDue valid
    have target : transition.lifecycle = .superseded ∨ transition.lifecycle = .expired ∨
        transition.lifecycle = .validated ∨ transition.lifecycle = .published := by
      have notProposed := (isValidTransition_target valid).1
      cases chosen : transition.lifecycle <;> simp_all
    rcases target with superseded | expired | forward
    · exact .inl superseded
    · exact .inr (.inl expired)
    · have unchanged : transition.expiresAtUnixMs = none := by
        cases requested : transition.expiresAtUnixMs with
        | none => rfl
        | some expiresAt =>
          have given : transition.expiresAtUnixMs.isSome = true := by simp [requested]
          exact absurd ⟨memory, organizationId, workspaceId, transition, found, due, called, owned, valid, forward,
            given, expiry⟩ noRevival
      rcases lapsed with superseded | expired | ⟨expiresAt, stored, reached⟩
      · simp [superseded, isValidTransition] at valid
      · simp [expired, isValidTransition] at valid
      · refine .inr (.inr ⟨expiresAt, ?_, reached⟩)
        simp only [Memory.applyTransition, unchanged, stored]
        rfl

theorem lapsed_run {server later : Server} {trace : List ((Server × Nat) × Event)}
    (run : Run (TimedStep x engines) (server, now) trace (later, now'))
    (noRevival : ∀ taken ∈ trace, ¬ taken.2.Revives taken.1.1.store id)
    (found : server.store.knowledge.memories[id]? = some memory) (lapsed : memory.Lapsed now) :
    ∃ memory', later.store.knowledge.memories[id]? = some memory' ∧ memory'.Lapsed now' := by
  have kept := run.preserves
    (I := fun state => ∃ memory, state.1.store.knowledge.memories[id]? = some memory ∧ memory.Lapsed state.2)
    ⟨memory, found, lapsed⟩ ?_
  · exact kept
  · rintro ⟨⟨before, clock⟩, event⟩ member ⟨after, clock'⟩ ⟨stored, storedFound, storedLapsed⟩ ⟨step, later, read⟩
    obtain ⟨stored', storedFound', changed⟩ := step.keeps_memory storedFound
    have read : clock' = event.env.now := read
    have lapsed' := changed.lapsed storedFound (storedLapsed.mono later) (noRevival _ member)
    exact ⟨stored', storedFound', read ▸ lapsed'⟩

/-- A reviving transition does bring the memory back: its expiry is in the future again. -/
theorem Event.Revives.not_lapsed {server later : Server} {event : Event} (revives : event.Revives server.store id)
    (taken : Step x engines server event later) :
    ∃ memory', later.store.knowledge.memories[id]? = some memory' ∧ ¬ memory'.Lapsed event.env.now := by
  obtain ⟨memory, organizationId, workspaceId, transition, found, _, called, owned, valid, forward, given, expiry⟩ :=
    revives
  obtain ⟨expiresAt, requested⟩ := Option.isSome_iff_exists.mp given
  have future : event.env.now < expiresAt := by
    rw [requested] at expiry
    obtain ⟨_, future, _⟩ := bind_eq_ok.mp expiry
    exact ensure_eq_ok.mp future
  have replaced : checkReplacement event.env organizationId workspaceId memory transition server.store = .ok () := by
    unfold checkReplacement
    rw [if_neg]
    · rfl
    · rcases forward with validated | published
      · simp [validated]
      · simp [published]
  refine ⟨memory.applyTransition event.env transition,
    taken.transitions called found owned valid replaced expiry, ?_⟩
  rintro (superseded | expired | ⟨stored, storedAt, reached⟩)
  · rcases forward with validated | published
    · simp [Memory.applyTransition, validated] at superseded
    · simp [Memory.applyTransition, published] at superseded
  · rcases forward with validated | published
    · simp [Memory.applyTransition, validated] at expired
    · simp [Memory.applyTransition, published] at expired
  · simp only [Memory.applyTransition, requested] at storedAt
    cases storedAt
    omega

structure Hidden (x : Externals) (engines : SearchEngines) (env : Env) (s : Store) (id : Uuid) : Prop where
  stored : ∀ memory, s.knowledge.memories[id]? = some memory → isRetrievable env memory = false
  retrieved : ∀ organizationId workspaceId query limit s' memories,
    retrieve x env organizationId workspaceId query limit s = (s', .ok memories) →
    ∀ memory ∈ memories, memory.id ≠ id
  packaged : ∀ principal requestWorkspaceId query tokenBudget limit s' package,
    compileContextPackage x engines env principal requestWorkspaceId query tokenBudget limit s = (s', .ok package) →
    ∀ item ∈ package.items, item.evidence.memoryId ≠ id

theorem package_item {s s' : Store} {principal : Principal} {requestWorkspaceId query : String}
    {tokenBudget limit : Nat} {package : ContextPackage}
    (run : compileContextPackage x engines env principal requestWorkspaceId query tokenBudget limit s =
      (s', .ok package)) {item : ContextItem} (member : item ∈ package.items) :
    ∃ (key : Uuid) (memory : Memory), s.knowledge.memories[key]? = some memory ∧
      isRetrievable env memory = true ∧ item.evidence.memoryId = memory.id := by
  obtain ⟨rfl, terms, ranks, chosen, sublist, packed, _⟩ := compileContextPackage_ok run
  rw [packed] at member
  obtain ⟨candidate, kept, rfl⟩ := List.mem_map.mp member
  obtain ⟨key, memory, found, candidateKept⟩ := mem_rankedCandidates (sublist.subset kept)
  obtain ⟨same, _, retrievable, _⟩ := contextCandidate_eq_some candidateKept
  refine ⟨key, memory, sweep_retrievable found retrievable, retrievable, ?_⟩
  rw [← same]
  rfl

theorem Memory.Lapsed.hidden {s : Store} (valid : KnowledgeIntegrity s.knowledge)
    (found : s.knowledge.memories[id]? = some memory) (lapsed : memory.Lapsed now) (later : now ≤ env.now) :
    Hidden x engines env s id := by
  have blocked {key : Uuid} {other : Memory} (stored : s.knowledge.memories[key]? = some other)
      (retrievable : isRetrievable env other = true) : other.id ≠ id := by
    intro same
    have key_eq : key = id := (valid.memoryId stored).symm.trans same
    subst key_eq
    rw [found] at stored
    cases stored
    rw [lapsed.not_retrievable later] at retrievable
    cases retrievable
  constructor
  · intro other stored
    rw [found] at stored
    cases stored
    exact lapsed.not_retrievable later
  · intro organizationId workspaceId query limit s' memories run other member
    obtain ⟨key, stored, retrievable, _⟩ := mem_retrieve run member
    exact blocked stored retrievable
  · intro principal requestWorkspaceId query tokenBudget limit s' package run item member
    obtain ⟨key, other, stored, retrievable, named⟩ := package_item run member
    rw [named]
    exact blocked stored retrievable

/-- Once the clock has reached the expiry of a memory, it stays hidden for the rest of every run in which
    no transition gives it a new expiry while it is due. -/
theorem expiry_irrevocable {server later : Server} (reachable : Reachable x engines server)
    (found : server.store.knowledge.memories[id]? = some memory) {expiresAt : Nat}
    (expiring : memory.expiresAtUnixMs = some expiresAt) (reached : expiresAt ≤ now)
    {trace : List ((Server × Nat) × Event)} (run : Run (TimedStep x engines) (server, now) trace (later, now'))
    (noRevival : ∀ taken ∈ trace, ¬ taken.2.Revives taken.1.1.store id) (afterwards : now' ≤ env.now) :
    Hidden x engines env later.store id := by
  have lapsed : memory.Lapsed now := .inr (.inr ⟨expiresAt, expiring, reached⟩)
  obtain ⟨memory', found', lapsed'⟩ := lapsed_run run noRevival found lapsed
  have valid := run.preserves (I := fun state => KnowledgeIntegrity state.1.store.knowledge)
    reachable.knowledgeIntegrity fun _ _ _ holds taken => taken.1.knowledgeIntegrity holds
  exact lapsed'.hidden valid found' afterwards

def shortLived : Op :=
  .knowledge (.createMemory ⟨"acme", "core", "alpha", none, Uuid.nil, 1, some 10, .direct⟩)

def moveShortLived (lifecycle : MemoryLifecycle) (expiresAtUnixMs : Option Nat) : Op :=
  .knowledge (.transitionMemory (serialUuid 0) "acme" "core" ⟨lifecycle, expiresAtUnixMs, none⟩)

def revivedServer : Server := freshRun sample noHits
  [(1, shortLived), (20, moveShortLived .validated (some 100)), (21, moveShortLived .published none)]

/-- A memory that expired at 10 is retrieved at 22. -/
theorem expiry_revoked : Reachable sample noHits revivedServer ∧
    ((freshRun sample noHits [(1, shortLived)]).store.knowledge.memories.toList.map fun entry =>
      (entry.1, entry.2.lifecycle, entry.2.expiresAtUnixMs)) = [(serialUuid 0, .proposed, some 10)] ∧
    ∃ memories, (retrieve sample (serialEnv 22 48) "acme" "core" "alpha" 5 revivedServer.store).2 = .ok memories ∧
      memories.map Memory.id = [serialUuid 0] :=
  ⟨freshRun_reachable (by decide +kernel), by decide +kernel, by decide +kernel⟩

def shortLivedServer : Server := freshRun sample noHits [(1, shortLived)]

def validation : Event := ⟨serialEnv 20 16, moveShortLived .validated none⟩

theorem expiry_irrevocable_shortLived : ∃ memory,
    shortLivedServer.store.knowledge.memories[serialUuid 0]? = some memory ∧ memory.expiresAtUnixMs = some 10 ∧
    Hidden sample noHits (serialEnv 21 32) (shortLivedServer.next sample noHits validation).store (serialUuid 0) := by
  have created : ∃ memory, shortLivedServer.store.knowledge.memories[serialUuid 0]? = some memory ∧
      memory.expiresAtUnixMs = some 10 := by
    have stored : (shortLivedServer.store.knowledge.memories[serialUuid 0]?.map Memory.expiresAtUnixMs) =
      some (some 10) := by decide +kernel
    exact Option.map_eq_some_iff.mp stored
  obtain ⟨memory, found, expiring⟩ := created
  have reachable : Reachable sample noHits shortLivedServer := freshRun_reachable (by decide +kernel)
  have serial : shortLivedServer.Serial 16 := by decide +kernel
  have taken : Step sample noHits shortLivedServer validation (shortLivedServer.next sample noHits validation) :=
    ⟨serial.fresh, trivial, rfl⟩
  have run : Run (TimedStep sample noHits) (shortLivedServer, 10) [((shortLivedServer, 10), validation)]
      (shortLivedServer.next sample noHits validation, 20) := .single ⟨taken, by decide, rfl⟩
  refine ⟨memory, found, expiring, ?_⟩
  refine expiry_irrevocable reachable found expiring (by decide) run ?_ (by decide)
  intro step member
  cases List.mem_singleton.mp member
  rintro ⟨_, _, _, transition, _, _, called, _, _, _, given, _⟩
  cases called
  cases given

end Hangar
