import Hangar.Reachability

namespace Hangar

open Lib

/-- Memories and shares are stored under their ids, and a share belongs to the scope of a memory that
    has been published. -/
structure KnowledgeIntegrity (k : KnowledgeTables) : Prop where
  memoryId : ∀ {id : Uuid} {memory : Memory}, k.memories[id]? = some memory → memory.id = id
  shareId : ∀ {id : Uuid} {share : MemoryShare}, k.memoryShares[id]? = some share → share.id = id
  source : ∀ {id : Uuid} {share : MemoryShare}, k.memoryShares[id]? = some share →
    ∃ memory, k.memories[share.memoryId]? = some memory ∧ memory.organizationId = share.organizationId ∧
      memory.workspaceId = share.sourceWorkspaceId ∧ memory.lifecycle ≠ .proposed ∧ memory.lifecycle ≠ .validated

inductive Memory.Changes (env : Env) (op : Op) (id : Uuid) (memory : Memory) : Memory → Prop where
  | same : Memory.Changes env op id memory memory
  | expire (due : memory.isDue env = true) : Memory.Changes env op id memory (memory.expire env)
  | transition {organizationId workspaceId : String} (transition : MemoryTransition)
      (called : op = .knowledge (.transitionMemory id organizationId workspaceId transition))
      (owned : inScope organizationId workspaceId memory.organizationId memory.workspaceId = true)
      (valid : isValidTransition memory.lifecycle transition.lifecycle = true)
      (expiry : checkMemoryExpiry env transition.expiresAtUnixMs = .ok ()) :
      Memory.Changes env op id memory (memory.applyTransition env transition)

inductive MemoryShare.Changes (env : Env) (share : MemoryShare) : MemoryShare → Prop where
  | same : MemoryShare.Changes env share share
  | review (state : ShareReviewState) (reviewedBy : Uuid) (reviewNote : Option String)
      (allowed : share.state.canTransitionTo state = true) :
      MemoryShare.Changes env share (share.review env state reviewedBy reviewNote)

variable {x : Externals} {engines : SearchEngines} {env : Env} {k k' : KnowledgeTables} {id : Uuid}
  {memory memory' : Memory} {share share' : MemoryShare} {op : Op}

theorem Memory.Changes.id_eq (changed : memory.Changes env op id memory') : memory'.id = memory.id := by
  cases changed <;> rfl

theorem Memory.Changes.organizationId_eq (changed : memory.Changes env op id memory') :
    memory'.organizationId = memory.organizationId := by
  cases changed <;> rfl

theorem Memory.Changes.workspaceId_eq (changed : memory.Changes env op id memory') :
    memory'.workspaceId = memory.workspaceId := by
  cases changed <;> rfl

theorem isValidTransition_target {source target : MemoryLifecycle}
    (valid : isValidTransition source target = true) :
    target ≠ .proposed ∧ (target = .validated → source = .proposed) := by
  cases source <;> cases target <;> simp_all [isValidTransition]

theorem Memory.Changes.published (changed : memory.Changes env op id memory')
    (before : memory.lifecycle ≠ .proposed ∧ memory.lifecycle ≠ .validated) :
    memory'.lifecycle ≠ .proposed ∧ memory'.lifecycle ≠ .validated := by
  cases changed with
  | same => exact before
  | expire => simp [Memory.expire]
  | transition transition _ _ valid =>
    obtain ⟨notProposed, first⟩ := isValidTransition_target valid
    exact ⟨notProposed, fun validated => before.1 (first validated)⟩

theorem MemoryShare.Changes.id_eq (changed : share.Changes env share') : share'.id = share.id := by
  cases changed <;> rfl

theorem MemoryShare.Changes.source_eq (changed : share.Changes env share') :
    share'.memoryId = share.memoryId ∧ share'.organizationId = share.organizationId ∧
      share'.sourceWorkspaceId = share.sourceWorkspaceId := by
  cases changed <;> exact ⟨rfl, rfl, rfl⟩

section
variable {call : KnowledgeOp} (step : KnowledgeStep x env k call k')

include step

theorem KnowledgeStep.keeps_memory (fresh : k.memories[env.uuid 0]? = none) (found : k.memories[id]? = some memory) :
    ∃ memory', k'.memories[id]? = some memory' ∧ memory.Changes env (.knowledge call) id memory' := by
  cases step with
  | idle => exact ⟨memory, found, .same⟩
  | create new expiry =>
    refine ⟨memory, ?_, .same⟩
    rw [Table.find_insert_ne, found]
    rintro rfl
    simp [fresh] at found
  | @transition target organizationId workspaceId stored transition storedFound owned valid expiry =>
    by_cases same : target = id
    · subst same
      rw [storedFound] at found
      cases found
      exact ⟨_, Table.find_insert_self, .transition transition rfl owned valid expiry⟩
    · refine ⟨memory, ?_, .same⟩
      rw [Table.find_insert_ne same, found]
  | sweep =>
    rw [Table.find_rewrite (p := fun memory : Memory => memory.isDue env) (f := fun memory : Memory => memory.expire env), found]
    by_cases due : memory.isDue env = true
    · exact ⟨memory.expire env, by simp [due], .expire due⟩
    · exact ⟨memory, by simp [due], .same⟩
  | propose => exact ⟨memory, found, .same⟩
  | review => exact ⟨memory, found, .same⟩

theorem KnowledgeStep.memory_inv (found' : k'.memories[id]? = some memory') :
    (∃ memory, k.memories[id]? = some memory ∧ memory.Changes env (.knowledge call) id memory') ∨
      id = env.uuid 0 ∧ ∃ new, memory' = newMemory x env new := by
  cases step with
  | idle => exact .inl ⟨memory', found', .same⟩
  | create new expiry =>
    rw [Table.find_insert] at found'
    by_cases same : env.uuid 0 = id
    · rw [if_pos same] at found'
      cases found'
      exact .inr ⟨same.symm, new, rfl⟩
    · rw [if_neg same] at found'
      exact .inl ⟨memory', found', .same⟩
  | @transition target organizationId workspaceId stored transition storedFound owned valid expiry =>
    rw [Table.find_insert] at found'
    by_cases same : target = id
    · subst same
      rw [if_pos rfl] at found'
      cases found'
      exact .inl ⟨stored, storedFound, .transition transition rfl owned valid expiry⟩
    · rw [if_neg same] at found'
      exact .inl ⟨memory', found', .same⟩
  | sweep =>
    rw [Table.find_rewrite (p := fun memory : Memory => memory.isDue env) (f := fun memory : Memory => memory.expire env)] at found'
    obtain ⟨memory, found, rewritten⟩ := Option.map_eq_some_iff.mp found'
    left
    by_cases due : memory.isDue env = true
    · simp only [due, if_true] at rewritten
      subst rewritten
      exact ⟨memory, found, .expire due⟩
    · simp only [due] at rewritten
      subst rewritten
      exact ⟨memory, found, .same⟩
  | propose => exact .inl ⟨memory', found', .same⟩
  | review => exact .inl ⟨memory', found', .same⟩

theorem KnowledgeStep.share_inv (found' : k'.memoryShares[id]? = some share') :
    (∃ share, k.memoryShares[id]? = some share ∧ share.Changes env share') ∨
      id = env.uuid 0 ∧ ∃ (organizationId sourceWorkspaceId : String) (memoryId : Uuid) (memory : Memory)
        (audience : ShareAudience) (proposedBy : Uuid) (expiresAtUnixMs : Option Nat),
        k.memories[memoryId]? = some memory ∧
        inScope organizationId sourceWorkspaceId memory.organizationId memory.workspaceId = true ∧
        isRetrievable env memory = true ∧
        share' = newShare env organizationId sourceWorkspaceId memory memoryId audience proposedBy expiresAtUnixMs := by
  cases step with
  | idle => exact .inl ⟨share', found', .same⟩
  | create => exact .inl ⟨share', found', .same⟩
  | transition => exact .inl ⟨share', found', .same⟩
  | sweep => exact .inl ⟨share', found', .same⟩
  | @propose _ organizationId sourceWorkspaceId memoryId memory audience proposedBy expiresAtUnixMs found owned retrievable =>
    rw [Table.find_insert] at found'
    by_cases same : env.uuid 0 = id
    · rw [if_pos same] at found'
      cases found'
      exact .inr ⟨same.symm, organizationId, sourceWorkspaceId, memoryId, memory, audience, proposedBy,
        expiresAtUnixMs, found, owned, retrievable, rfl⟩
    · rw [if_neg same] at found'
      exact .inl ⟨share', found', .same⟩
  | @review _ target stored state reviewedBy reviewNote storedFound allowed =>
    rw [Table.find_insert] at found'
    by_cases same : target = id
    · subst same
      rw [if_pos rfl] at found'
      cases found'
      exact .inl ⟨stored, storedFound, .review state reviewedBy reviewNote allowed⟩
    · rw [if_neg same] at found'
      exact .inl ⟨share', found', .same⟩

theorem KnowledgeStep.keeps_share (fresh : k.memoryShares[env.uuid 0]? = none)
    (found : k.memoryShares[id]? = some share) :
    ∃ share', k'.memoryShares[id]? = some share' ∧ share.Changes env share' := by
  cases step with
  | idle => exact ⟨share, found, .same⟩
  | create => exact ⟨share, found, .same⟩
  | transition => exact ⟨share, found, .same⟩
  | sweep => exact ⟨share, found, .same⟩
  | propose =>
    refine ⟨share, ?_, .same⟩
    rw [Table.find_insert_ne, found]
    rintro rfl
    simp [fresh] at found
  | @review _ target stored state reviewedBy reviewNote storedFound allowed =>
    by_cases same : target = id
    · subst same
      rw [storedFound] at found
      cases found
      exact ⟨_, Table.find_insert_self, .review state reviewedBy reviewNote allowed⟩
    · refine ⟨share, ?_, .same⟩
      rw [Table.find_insert_ne same, found]

end

theorem KnowledgeIntegrity.empty : KnowledgeIntegrity ⟨∅, ∅⟩ := by
  constructor <;> intros <;> simp_all

theorem KnowledgeIntegrity.step {call : KnowledgeOp} (valid : KnowledgeIntegrity k)
    (fresh : k.memories[env.uuid 0]? = none) (step : KnowledgeStep x env k call k') : KnowledgeIntegrity k' := by
  constructor
  case memoryId =>
    intro id memory' found'
    rcases step.memory_inv found' with ⟨memory, found, changed⟩ | ⟨rfl, new, rfl⟩
    · rw [changed.id_eq, valid.memoryId found]
    · rfl
  case shareId =>
    intro id share' found'
    rcases step.share_inv found' with ⟨share, found, changed⟩ | ⟨rfl, _, _, _, _, _, _, _, _, _, _, rfl⟩
    · rw [changed.id_eq, valid.shareId found]
    · rfl
  case source =>
    intro id share' found'
    rcases step.share_inv found' with
      ⟨share, found, changed⟩ | ⟨rfl, organizationId, sourceWorkspaceId, memoryId, memory, _, _, _, found, owned,
        retrievable, rfl⟩
    · obtain ⟨memory, memoryFound, organization, workspace, published⟩ := valid.source found
      obtain ⟨memory', memoryFound', moved⟩ := step.keeps_memory fresh memoryFound
      obtain ⟨sameMemory, sameOrganization, sameWorkspace⟩ := changed.source_eq
      rw [sameMemory, sameOrganization, sameWorkspace]
      refine ⟨memory', memoryFound', ?_, ?_, moved.published published⟩
      · rw [moved.organizationId_eq, organization]
      · rw [moved.workspaceId_eq, workspace]
    · obtain ⟨memory', memoryFound', moved⟩ := step.keeps_memory fresh found
      simp only [inScope, Bool.and_eq_true, beq_iff_eq] at owned
      simp only [isRetrievable, Bool.and_eq_true, beq_iff_eq] at retrievable
      refine ⟨memory', memoryFound', ?_, ?_, moved.published ?_⟩
      · rw [moved.organizationId_eq, owned.1]
        rfl
      · rw [moved.workspaceId_eq, owned.2]
        rfl
      · simp [retrievable.1]

theorem Env.Fresh.memory_unused {server : Server} (fresh : env.Fresh server) (i : Nat) :
    server.store.knowledge.memories[env.uuid i]? = none := by
  have unused := fresh.unused i
  simp only [Server.Uses, not_or] at unused
  exact Std.ExtTreeMap.getElem?_eq_none unused.2.2.2.1

theorem Env.Fresh.share_unused {server : Server} (fresh : env.Fresh server) (i : Nat) :
    server.store.knowledge.memoryShares[env.uuid i]? = none := by
  have unused := fresh.unused i
  simp only [Server.Uses, not_or] at unused
  exact Std.ExtTreeMap.getElem?_eq_none unused.2.2.2.2.1

section
variable {server server' : Server} {event : Event}

theorem Step.knowledge (taken : Step x engines server event server') :
    (∃ call, event.op = .knowledge call ∧
        KnowledgeStep x event.env server.store.knowledge call server'.store.knowledge) ∨
      server'.store.knowledge = server.store.knowledge := by
  rw [taken.next]
  by_cases own : ∃ call, event.op = .knowledge call
  · obtain ⟨call, called⟩ := own
    left
    refine ⟨call, called, ?_⟩
    simp only [Server.next, called]
    exact callKnowledge_effect.1
  · right
    exact callStore_knowledge fun call same => own ⟨call, same⟩

theorem Step.keeps_memory (taken : Step x engines server event server')
    (found : server.store.knowledge.memories[id]? = some memory) :
    ∃ memory', server'.store.knowledge.memories[id]? = some memory' ∧
      memory.Changes event.env event.op id memory' := by
  rcases taken.knowledge with ⟨call, called, step⟩ | same
  · rw [called]
    exact step.keeps_memory (taken.fresh.memory_unused 0) found
  · rw [same]
    exact ⟨memory, found, .same⟩

theorem Step.keeps_share (taken : Step x engines server event server')
    (found : server.store.knowledge.memoryShares[id]? = some share) :
    ∃ share', server'.store.knowledge.memoryShares[id]? = some share' ∧ share.Changes event.env share' := by
  rcases taken.knowledge with ⟨call, _, step⟩ | same
  · exact step.keeps_share (taken.fresh.share_unused 0) found
  · rw [same]
    exact ⟨share, found, .same⟩

theorem Step.knowledgeIntegrity (taken : Step x engines server event server')
    (valid : KnowledgeIntegrity server.store.knowledge) : KnowledgeIntegrity server'.store.knowledge := by
  rcases taken.knowledge with ⟨call, _, step⟩ | same
  · exact valid.step (taken.fresh.memory_unused 0) step
  · rw [same]
    exact valid

theorem Reachable.knowledgeIntegrity (reachable : Reachable x engines server) :
    KnowledgeIntegrity server.store.knowledge := by
  obtain ⟨provider, reached⟩ := reachable
  exact reached.preserves (I := fun server => KnowledgeIntegrity server.store.knowledge)
    KnowledgeIntegrity.empty fun _ _ _ valid taken => taken.knowledgeIntegrity valid

theorem Step.memory_inv (taken : Step x engines server event server')
    (found' : server'.store.knowledge.memories[id]? = some memory') :
    (∃ memory, server.store.knowledge.memories[id]? = some memory ∧ memory.Changes event.env event.op id memory') ∨
      id = event.env.uuid 0 ∧ ∃ new, memory' = newMemory x event.env new := by
  rcases taken.knowledge with ⟨call, called, step⟩ | same
  · rw [called]
    exact step.memory_inv found'
  · rw [same] at found'
    exact .inl ⟨memory', found', .same⟩

theorem Step.transition_store (taken : Step x engines server event server') {organizationId workspaceId : String}
    {transition : MemoryTransition}
    (called : event.op = .knowledge (.transitionMemory id organizationId workspaceId transition)) :
    server'.store = (Program.transaction (transitionMemory event.env id organizationId workspaceId transition)
      server.store).1 := by
  rw [taken.next]
  simp only [Server.next, called, callStore, callKnowledge]
  exact Program.discard_state

/-- A requested transition is refused, or has passed every check of its memory and its replacement. -/
theorem Step.transition_inv (taken : Step x engines server event server') {organizationId workspaceId : String}
    {transition : MemoryTransition}
    (called : event.op = .knowledge (.transitionMemory id organizationId workspaceId transition)) :
    server'.store.knowledge = server.store.knowledge ∨
      ∃ memory, server.store.knowledge.memories[id]? = some memory ∧
        inScope organizationId workspaceId memory.organizationId memory.workspaceId = true ∧
        isValidTransition memory.lifecycle transition.lifecycle = true ∧
        checkReplacement event.env organizationId workspaceId memory transition server.store = .ok () ∧
        checkMemoryExpiry event.env transition.expiresAtUnixMs = .ok () ∧
        server'.store.knowledge.memories =
          server.store.knowledge.memories.insert id (memory.applyTransition event.env transition) := by
  have written := taken.transition_store called
  unfold Program.transaction at written
  cases outcome : transitionMemory event.env id organizationId workspaceId transition server.store with
  | error e =>
    simp only [outcome] at written
    left
    rw [written]
  | ok result =>
    simp only [outcome] at written
    rcases transitionMemory_ok outcome with ⟨same, _⟩ | ⟨memory, found, owned, valid, replaced, expiry, _, same⟩
    · left
      rw [written, same]
    · right
      refine ⟨memory, found, owned, valid, replaced, expiry, ?_⟩
      rw [written, same]
      rfl

theorem Step.transitions (taken : Step x engines server event server') {organizationId workspaceId : String}
    {transition : MemoryTransition}
    (called : event.op = .knowledge (.transitionMemory id organizationId workspaceId transition))
    (found : server.store.knowledge.memories[id]? = some memory)
    (owned : inScope organizationId workspaceId memory.organizationId memory.workspaceId = true)
    (valid : isValidTransition memory.lifecycle transition.lifecycle = true)
    (replaced : checkReplacement event.env organizationId workspaceId memory transition server.store = .ok ())
    (expiry : checkMemoryExpiry event.env transition.expiresAtUnixMs = .ok ()) :
    server'.store.knowledge.memories[id]? = some (memory.applyTransition event.env transition) := by
  have moved : (transitionMemory event.env id organizationId workspaceId transition server.store).map
      (fun result => result.1.knowledge.memories) =
        .ok (server.store.knowledge.memories.insert id (memory.applyTransition event.env transition)) := by
    unfold transitionMemory
    simp only [found]
    rw [bind_of_ok ((ensure_eq_ok (u := ())).mpr owned), bind_of_ok ((ensure_eq_ok (u := ())).mpr valid),
      bind_of_ok replaced, bind_of_ok expiry]
    rfl
  have written := taken.transition_store called
  unfold Program.transaction at written
  cases outcome : transitionMemory event.env id organizationId workspaceId transition server.store with
  | error e =>
    rw [outcome] at moved
    cases moved
  | ok result =>
    rw [outcome] at moved
    have tables : result.1.knowledge.memories =
        server.store.knowledge.memories.insert id (memory.applyTransition event.env transition) := Except.ok.inj moved
    simp only [outcome] at written
    rw [written, tables]
    exact Table.find_insert_self

end

end Hangar
