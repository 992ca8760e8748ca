import Hangar.Concrete
import Hangar.Knowledge.Integrity
import Hangar.Lib.Chain

namespace Hangar

open Lib

structure Supersedes (x : Externals) (engines : SearchEngines) (server : Server) (event : Event) (id r : Uuid) :
    Prop where
  before : ∃ memory, server.store.knowledge.memories[id]? = some memory ∧ memory.lifecycle = .published
  after : ∃ memory, (server.next x engines event).store.knowledge.memories[id]? = some memory ∧
    memory.lifecycle = .superseded ∧ memory.supersededBy = some r
  replacement : ∃ memory, server.store.knowledge.memories[r]? = some memory ∧ isRetrievable event.env memory = true

structure Memory.ReplacedBy (x : Externals) (engines : SearchEngines) (trace : List (Server × Event)) (s : Store)
    (id : Uuid) (memory : Memory) (r : Uuid) : Prop where
  other : r ≠ id
  stored : ∃ replacement, s.knowledge.memories[r]? = some replacement ∧
    replacement.organizationId = memory.organizationId ∧ replacement.workspaceId = memory.workspaceId
  chosen : ∃ p ∈ trace, Supersedes x engines p.1 p.2 id r

/-- The superseded memories, and no others, name what replaced them. -/
def TrustedReplacements (x : Externals) (engines : SearchEngines) (trace : List (Server × Event)) (server : Server) :
    Prop :=
  ∀ (id : Uuid) (memory : Memory), server.store.knowledge.memories[id]? = some memory →
    (memory.supersededBy.isSome = true ↔ memory.lifecycle = .superseded) ∧
    ∀ r, memory.supersededBy = some r → memory.ReplacedBy x engines trace server.store id r

/-- The step makes a transition to another state than `Superseded` that carries a replacement all the same. -/
def Event.Misassigns (event : Event) (s : Store) : Prop :=
  ∃ (id : Uuid) (memory : Memory) (organizationId workspaceId : String) (transition : MemoryTransition),
    event.op = .knowledge (.transitionMemory id organizationId workspaceId transition) ∧
    s.knowledge.memories[id]? = some memory ∧
    inScope organizationId workspaceId memory.organizationId memory.workspaceId = true ∧
    isValidTransition memory.lifecycle transition.lifecycle = true ∧
    checkMemoryExpiry event.env transition.expiresAtUnixMs = .ok () ∧
    transition.lifecycle ≠ .superseded ∧ transition.supersededBy.isSome = true

def KnowledgeTables.replacement (k : KnowledgeTables) (id : Uuid) : Option Uuid :=
  (k.memories[id]?.filter fun memory => memory.lifecycle == .superseded).bind Memory.supersededBy

variable {x : Externals} {engines : SearchEngines} {env : Env} {trace : List (Server × Event)} {s : Store}
  {server server' : Server} {event : Event} {id r : Uuid} {memory memory' : Memory} {k : KnowledgeTables}
  {organizationId workspaceId : String} {transition : MemoryTransition}

theorem checkReplacement_other (other : transition.lifecycle ≠ .superseded) :
    checkReplacement env organizationId workspaceId memory transition s = .ok () := by
  unfold checkReplacement
  rw [if_neg other]
  rfl

theorem checkReplacement_superseded (superseded : transition.lifecycle = .superseded)
    (passed : checkReplacement env organizationId workspaceId memory transition s = .ok ()) :
    ∃ r replacement, transition.supersededBy = some r ∧ r ≠ memory.id ∧ s.knowledge.memories[r]? = some replacement ∧
      inScope organizationId workspaceId replacement.organizationId replacement.workspaceId = true ∧
      isRetrievable env replacement = true := by
  unfold checkReplacement at passed
  rw [if_pos superseded] at passed
  obtain ⟨r, named, passed⟩ := bind_eq_ok.mp passed
  obtain ⟨_, other, passed⟩ := bind_eq_ok.mp passed
  obtain ⟨replacement, stored, passed⟩ := bind_eq_ok.mp passed
  obtain ⟨_, owned, retrievable⟩ := bind_eq_ok.mp passed
  rw [context_eq_ok] at named stored
  rw [ensure_eq_ok] at other owned retrievable
  exact ⟨r, replacement, named, other, stored, owned, retrievable⟩

theorem isValidTransition_superseded {source : MemoryLifecycle} (valid : isValidTransition source .superseded = true) :
    source = .published := by
  cases source <;> simp_all [isValidTransition]

theorem isValidTransition_source {source target : MemoryLifecycle} (valid : isValidTransition source target = true) :
    source ≠ .superseded ∧ source ≠ .expired := by
  cases source <;> simp_all [isValidTransition]

theorem Memory.isDue_lifecycle (due : memory.isDue env = true) :
    memory.lifecycle ≠ .superseded ∧ memory.lifecycle ≠ .expired := by
  unfold Memory.isDue at due
  cases lifecycle : memory.lifecycle <;> simp_all

theorem isRetrievable_not_due (retrievable : isRetrievable env memory = true) : memory.isDue env = false := by
  unfold isRetrievable unexpired at retrievable
  unfold Memory.isDue
  cases expiry : memory.expiresAtUnixMs <;> simp_all

theorem Memory.Changes.superseded {op : Op} (changed : memory.Changes env op id memory')
    (superseded : memory.lifecycle = .superseded) : memory' = memory := by
  cases changed with
  | same => rfl
  | expire due => exact absurd superseded (Memory.isDue_lifecycle due).1
  | transition _ _ _ valid => exact absurd superseded (isValidTransition_source valid).1

/-- A memory another one is superseded by at a step is not changed by this step. -/
theorem Memory.Changes.retrievable {op : Op} (changed : memory.Changes env op r memory')
    (called : op = .knowledge (.transitionMemory id organizationId workspaceId transition)) (other : r ≠ id)
    (retrievable : isRetrievable env memory = true) : memory' = memory := by
  cases changed with
  | same => rfl
  | expire due => simp [isRetrievable_not_due retrievable] at due
  | transition _ called' =>
    rw [called] at called'
    simp only [Op.knowledge.injEq, KnowledgeOp.transitionMemory.injEq] at called'
    exact absurd called'.1.symm other

theorem Memory.applyTransition_ne : memory.applyTransition env transition ≠ memory := by
  intro same
  have versions := congrArg Memory.version same
  simp [Memory.applyTransition] at versions

/-- A step that supersedes a memory has found its replacement published, unexpired and in the same scope. -/
theorem Step.supersedes (taken : Step x engines server event server') (valid : KnowledgeIntegrity server.store.knowledge)
    (found : server.store.knowledge.memories[id]? = some memory)
    (found' : server'.store.knowledge.memories[id]? = some memory')
    (changed : memory.Changes event.env event.op id memory') (live : memory.lifecycle ≠ .superseded)
    (superseded : memory'.lifecycle = .superseded) :
    ∃ r replacement, memory'.supersededBy = some r ∧ r ≠ id ∧ Supersedes x engines server event id r ∧
      server'.store.knowledge.memories[r]? = some replacement ∧ replacement.lifecycle = .published ∧
      replacement.organizationId = memory'.organizationId ∧ replacement.workspaceId = memory'.workspaceId := by
  cases changed with
  | same => exact absurd superseded live
  | expire => simp [Memory.expire] at superseded
  | @transition organizationId workspaceId transition called _ allowed _ =>
    rcases taken.transition_inv called with same | ⟨stored, storedFound, owned, _, replaced, _, _⟩
    · rw [same, found] at found'
      exact absurd (Option.some.inj found').symm Memory.applyTransition_ne
    rw [found, Option.some.injEq] at storedFound
    subst storedFound
    have target : transition.lifecycle = .superseded := superseded
    obtain ⟨r, replacement, named, other, stored, replacementOwned, retrievable⟩ :=
      checkReplacement_superseded target replaced
    rw [valid.memoryId found] at other
    have published : memory.lifecycle = .published := by
      rw [target] at allowed
      exact isValidTransition_superseded allowed
    have replacementPublished : replacement.lifecycle = .published := by
      unfold isRetrievable at retrievable
      simp_all
    have kept := taken.keeps_memory stored
    rcases kept with ⟨replacement', stored', changed⟩
    have same := changed.retrievable called other retrievable
    rw [same] at stored'
    simp only [inScope, Bool.and_eq_true, beq_iff_eq] at owned replacementOwned
    have chosen : Supersedes x engines server event id r := by
      constructor
      · exact ⟨memory, found, published⟩
      · rw [← taken.next]
        exact ⟨_, found', superseded, named⟩
      · exact ⟨replacement, stored, retrievable⟩
    have organization := replacementOwned.1.trans owned.1.symm
    have workspace := replacementOwned.2.trans owned.2.symm
    exact ⟨r, replacement, named, other, chosen, stored', replacementPublished, organization, workspace⟩

theorem Memory.ReplacedBy.step (replaced : memory.ReplacedBy x engines trace server.store id r)
    (taken : Step x engines server event server') :
    memory.ReplacedBy x engines (trace ++ [(server, event)]) server'.store id r := by
  rcases replaced.stored with ⟨replacement, stored, organization, workspace⟩
  have kept := taken.keeps_memory stored
  rcases kept with ⟨replacement', stored', changed⟩
  have chosen := replaced.chosen
  rcases chosen with ⟨p, listed, superseded⟩
  constructor
  · exact replaced.other
  · refine ⟨replacement', stored', ?_, ?_⟩
    · rw [changed.organizationId_eq, organization]
    · rw [changed.workspaceId_eq, workspace]
  · exact ⟨p, List.mem_append_left _ listed, superseded⟩

theorem Step.trusted_iff (taken : Step x engines server event server') (valid : KnowledgeIntegrity server.store.knowledge)
    (trusted : TrustedReplacements x engines trace server) :
    TrustedReplacements x engines (trace ++ [(server, event)]) server' ↔ ¬ event.Misassigns server.store := by
  constructor
  · intro after
    rintro ⟨id, memory, organizationId, workspaceId, transition, called, found, owned, allowed, expiry, other, named⟩
    have made := taken.transitions called found owned allowed (checkReplacement_other other) expiry
    have reference := (after id _ made).1.mp named
    exact other reference
  · intro good id memory' found'
    rcases taken.memory_inv found' with ⟨memory, found, changed⟩ | ⟨_, new, created⟩
    · have before := trusted id memory found
      by_cases superseded : memory'.lifecycle = .superseded
      · by_cases earlier : memory.lifecycle = .superseded
        · have same := changed.superseded earlier
          rw [same]
          exact ⟨before.1, fun r named => (before.2 r named).step taken⟩
        · obtain ⟨r, replacement, named, other, chosen, stored, _, organization, workspace⟩ :=
            taken.supersedes valid found found' changed earlier superseded
          constructor
          · simp [superseded, named]
          · intro r' named'
            have same : r' = r := by
              simpa [named] using named'.symm
            rw [same]
            exact ⟨other, ⟨replacement, stored, organization, workspace⟩, _, List.mem_append_right _ List.mem_cons_self,
              chosen⟩
      · have unnamed : memory'.supersededBy = none := by
          cases changed with
          | same => simpa [superseded] using before.1
          | expire due =>
            have live := (Memory.isDue_lifecycle due).1
            show memory.supersededBy = none
            simpa [live] using before.1
          | @transition organizationId workspaceId transition called owned allowed expiry =>
            cases named : transition.supersededBy with
            | none => exact named
            | some r =>
              have bad : event.Misassigns server.store := ⟨id, memory, organizationId, workspaceId, transition, called,
                found, owned, allowed, expiry, superseded, by simp [named]⟩
              exact absurd bad good
        simp [superseded, unnamed]
    · simp [created, newMemory]

/-- Throughout a run the superseded memories, and no others, name another memory of their scope that was published and
    unexpired when they were superseded, exactly when no transition to another state carries a replacement. -/
theorem replacements_trusted_iff {provider : EmbeddingProvider}
    (run : Run (Step x engines) (Server.initial provider) trace server) :
    Throughout (TrustedReplacements x engines) trace server ↔ ∀ p ∈ trace, ¬ p.2.Misassigns p.1.store := by
  apply run.throughout_iff (B := fun server event => event.Misassigns server.store)
  · intro id memory found
    simp [Server.initial, Store.empty] at found
  · intro trace server event server' before trusted taken
    have reachable : Reachable x engines server := ⟨provider, trace, before⟩
    exact taken.trusted_iff reachable.knowledgeIntegrity trusted

def proposeAlpha : Op :=
  .knowledge (.createMemory ⟨"acme", "core", "alpha", none, Uuid.nil, 1, none, .direct⟩)

def moveMemory (id : Uuid) (lifecycle : MemoryLifecycle) (supersededBy : Option Uuid) : Op :=
  .knowledge (.transitionMemory id "acme" "core" ⟨lifecycle, none, supersededBy⟩)

/-- Two memories are published, and the first is superseded by the second, which then expires. -/
def supersedingCalls : List (Nat × Op) :=
  [(1, proposeAlpha), (2, moveMemory (serialUuid 0) .validated none), (3, moveMemory (serialUuid 0) .published none),
    (4, proposeAlpha), (5, moveMemory (serialUuid 48) .validated none), (6, moveMemory (serialUuid 48) .published none),
    (7, moveMemory (serialUuid 0) .superseded (some (serialUuid 48))), (8, moveMemory (serialUuid 48) .expired none)]

def supersedingServer : Server := freshRun sample noHits supersedingCalls

theorem replacements_trusted_superseding : Throughout (TrustedReplacements sample noHits)
    (serialTrace sample noHits (Server.initial .hashingV1) 0 supersedingCalls) supersedingServer := by
  have legal : SerialLegal sample noHits (Server.initial .hashingV1) 0 supersedingCalls := by decide +kernel
  apply (replacements_trusted_iff (serialRun_run legal)).mpr
  intro p member
  rintro ⟨_, _, _, _, transition, called, _, _, _, _, other, named⟩
  obtain ⟨call, listed, same⟩ := mem_serialTrace member
  rw [same] at called
  simp only [supersedingCalls, List.mem_cons, List.not_mem_nil, or_false] at listed
  rcases listed with rfl | rfl | rfl | rfl | rfl | rfl | rfl | rfl
  all_goals cases called
  all_goals simp at other named

def danglingServer : Server := freshRun sample noHits
  [(1, proposeAlpha), (2, moveMemory (serialUuid 0) .validated (some Uuid.nil))]

theorem replacements_not_trusted : Reachable sample noHits danglingServer ∧
    ∃ memory, danglingServer.store.knowledge.memories[serialUuid 0]? = some memory ∧
      memory.lifecycle = .validated ∧ memory.supersededBy = some Uuid.nil ∧
      danglingServer.store.knowledge.memories[Uuid.nil]? = none := by
  have reachable : Reachable sample noHits danglingServer := freshRun_reachable (by decide +kernel)
  have stored : (danglingServer.store.knowledge.memories[serialUuid 0]?.map fun memory =>
      (memory.lifecycle, memory.supersededBy)) = some (.validated, some Uuid.nil) := by decide +kernel
  have absent : danglingServer.store.knowledge.memories[Uuid.nil]? = none := by decide +kernel
  obtain ⟨memory, found, facts⟩ := Option.map_eq_some_iff.mp stored
  rw [Prod.mk.injEq] at facts
  exact ⟨reachable, memory, found, facts.1, facts.2, absent⟩

theorem KnowledgeTables.replacement_eq_some : k.replacement id = some r ↔
    ∃ memory, k.memories[id]? = some memory ∧ memory.lifecycle = .superseded ∧ memory.supersededBy = some r := by
  simp [KnowledgeTables.replacement, Option.bind_eq_some_iff, Option.filter_eq_some_iff, and_assoc]

theorem KnowledgeTables.replacement_of_live (found : k.memories[id]? = some memory)
    (live : memory.lifecycle ≠ .superseded) : k.replacement id = none := by
  simp [KnowledgeTables.replacement, found, Option.filter, live]

/-- Every superseded memory leads to a memory of its scope that is published or has expired. -/
def KnowledgeTables.Settled (k : KnowledgeTables) : Prop :=
  ∀ (id : Uuid) (memory : Memory), k.memories[id]? = some memory → memory.lifecycle = .superseded →
    ∃ path last replacement, Follows k.replacement id path last ∧ k.memories[last]? = some replacement ∧
      (replacement.lifecycle = .published ∨ replacement.lifecycle = .expired) ∧
      replacement.organizationId = memory.organizationId ∧ replacement.workspaceId = memory.workspaceId

theorem Memory.Changes.settled {op : Op} (changed : memory.Changes env op id memory')
    (before : memory.lifecycle = .published ∨ memory.lifecycle = .expired) (live : memory'.lifecycle ≠ .superseded) :
    memory'.lifecycle = .published ∨ memory'.lifecycle = .expired := by
  cases changed with
  | same => exact before
  | expire => exact .inr rfl
  | transition transition _ _ allowed =>
    have target : transition.lifecycle ≠ .superseded := live
    show transition.lifecycle = .published ∨ transition.lifecycle = .expired
    rcases before with published | expired
    · cases chosen : transition.lifecycle <;> simp_all [isValidTransition]
    · exact absurd expired (isValidTransition_source allowed).2

theorem Step.keeps_replacement (taken : Step x engines server event server')
    (passed : (server.store.knowledge.replacement id).isSome = true) :
    server'.store.knowledge.replacement id = server.store.knowledge.replacement id := by
  rw [Option.isSome_iff_exists] at passed
  rcases passed with ⟨r, named⟩
  rw [named]
  rw [KnowledgeTables.replacement_eq_some] at named ⊢
  rcases named with ⟨memory, found, superseded, named⟩
  have kept := taken.keeps_memory found
  rcases kept with ⟨memory', found', changed⟩
  have same := changed.superseded superseded
  rw [same] at found'
  exact ⟨memory, found', superseded, named⟩

theorem Step.settled (taken : Step x engines server event server') (valid : KnowledgeIntegrity server.store.knowledge)
    (settled : server.store.knowledge.Settled) : server'.store.knowledge.Settled := by
  -- a memory superseded by this step leads to its replacement, which is still published after the step
  have chosen {id : Uuid} {memory memory' : Memory} (found : server.store.knowledge.memories[id]? = some memory)
      (found' : server'.store.knowledge.memories[id]? = some memory')
      (changed : memory.Changes event.env event.op id memory') (live : memory.lifecycle ≠ .superseded)
      (superseded : memory'.lifecycle = .superseded) :
      ∃ r replacement, Follows server'.store.knowledge.replacement id [id] r ∧
        server'.store.knowledge.memories[r]? = some replacement ∧ replacement.lifecycle = .published ∧
        replacement.organizationId = memory'.organizationId ∧ replacement.workspaceId = memory'.workspaceId := by
    obtain ⟨r, replacement, named, _, _, stored, published, organization, workspace⟩ :=
      taken.supersedes valid found found' changed live superseded
    have step : server'.store.knowledge.replacement id = some r :=
      KnowledgeTables.replacement_eq_some.mpr ⟨memory', found', superseded, named⟩
    have stop : server'.store.knowledge.replacement r = none := by
      apply KnowledgeTables.replacement_of_live stored
      simp [published]
    exact ⟨r, replacement, .pass step (.stop stop), stored, published, organization, workspace⟩
  intro id memory' found' superseded'
  rcases taken.memory_inv found' with ⟨memory, found, changed⟩ | ⟨_, new, created⟩
  · by_cases superseded : memory.lifecycle = .superseded
    · have same := changed.superseded superseded
      subst same
      obtain ⟨path, last, replacement, follows, stored, state, organization, workspace⟩ :=
        settled id memory' found superseded
      have agree : ∀ point ∈ path, server'.store.knowledge.replacement point = server.store.knowledge.replacement point :=
        fun point passed => taken.keeps_replacement (follows.passes passed)
      have kept := taken.keeps_memory stored
      rcases kept with ⟨replacement', stored', moved⟩
      by_cases replaced : replacement'.lifecycle = .superseded
      · have live : replacement.lifecycle ≠ .superseded := by
          rcases state with published | expired
          · simp [published]
          · simp [expired]
        obtain ⟨r, next, onward, nextStored, published, nextOrganization, nextWorkspace⟩ :=
          chosen stored stored' moved live replaced
        refine ⟨path ++ [last], r, next, follows.extend agree onward, nextStored, .inl published, ?_, ?_⟩
        · rw [nextOrganization, moved.organizationId_eq, organization]
        · rw [nextWorkspace, moved.workspaceId_eq, workspace]
      · have stop := KnowledgeTables.replacement_of_live stored' replaced
        have stays := follows.extend agree (.stop stop)
        rw [List.append_nil] at stays
        refine ⟨path, last, replacement', stays, stored', moved.settled state replaced, ?_, ?_⟩
        · rw [moved.organizationId_eq, organization]
        · rw [moved.workspaceId_eq, workspace]
    · obtain ⟨r, replacement, follows, stored, published, organization, workspace⟩ :=
        chosen found found' changed superseded superseded'
      exact ⟨[id], r, replacement, follows, stored, .inl published, organization, workspace⟩
  · simp [created, newMemory] at superseded'

/-- From a superseded memory, the references of superseded memories lead through no memory twice to a stored memory
    of the same scope that is published or has expired. -/
theorem supersession_settles (reachable : Reachable x engines server)
    (found : server.store.knowledge.memories[id]? = some memory) (superseded : memory.lifecycle = .superseded) :
    ∃ path last replacement, Follows server.store.knowledge.replacement id path last ∧ (path ++ [last]).Nodup ∧
      server.store.knowledge.memories[last]? = some replacement ∧
      (replacement.lifecycle = .published ∨ replacement.lifecycle = .expired) ∧
      replacement.organizationId = memory.organizationId ∧ replacement.workspaceId = memory.workspaceId := by
  have invariant : KnowledgeIntegrity server.store.knowledge ∧ server.store.knowledge.Settled := by
    obtain ⟨provider, reached⟩ := reachable
    apply reached.preserves (I := fun server => KnowledgeIntegrity server.store.knowledge ∧
      server.store.knowledge.Settled)
    · constructor
      · exact KnowledgeIntegrity.empty
      · intro id memory found
        simp [Server.initial, Store.empty] at found
    · intro server event server' before taken
      exact ⟨taken.knowledgeIntegrity before.1, taken.settled before.1 before.2⟩
  obtain ⟨path, last, replacement, follows, stored, state, scope⟩ := invariant.2 id memory found superseded
  exact ⟨path, last, replacement, follows, follows.nodup, stored, state, scope⟩

/-- The first of three memories is superseded by the second, and that by the third, which then expires. -/
def chainCalls : List (Nat × Op) :=
  [(1, proposeAlpha), (2, moveMemory (serialUuid 0) .validated none), (3, moveMemory (serialUuid 0) .published none),
    (4, proposeAlpha), (5, moveMemory (serialUuid 48) .validated none), (6, moveMemory (serialUuid 48) .published none),
    (7, moveMemory (serialUuid 0) .superseded (some (serialUuid 48))), (8, proposeAlpha),
    (9, moveMemory (serialUuid 112) .validated none), (10, moveMemory (serialUuid 112) .published none),
    (11, moveMemory (serialUuid 48) .superseded (some (serialUuid 112))),
    (12, moveMemory (serialUuid 112) .expired none)]

def chainServer : Server := freshRun sample noHits chainCalls

theorem supersession_settles_chain :
    chainServer.store.knowledge.replacement (serialUuid 0) = some (serialUuid 48) ∧
    chainServer.store.knowledge.replacement (serialUuid 48) = some (serialUuid 112) ∧
    ∃ path last replacement, Follows chainServer.store.knowledge.replacement (serialUuid 0) path last ∧
      (path ++ [last]).Nodup ∧ chainServer.store.knowledge.memories[last]? = some replacement ∧
      (replacement.lifecycle = .published ∨ replacement.lifecycle = .expired) := by
  have facts : SerialLegal sample noHits (Server.initial .hashingV1) 0 chainCalls ∧
      chainServer.store.knowledge.replacement (serialUuid 0) = some (serialUuid 48) ∧
      chainServer.store.knowledge.replacement (serialUuid 48) = some (serialUuid 112) ∧
      chainServer.store.knowledge.memories[serialUuid 0]?.map Memory.lifecycle = some .superseded := by decide +kernel
  obtain ⟨legal, first, second, state⟩ := facts
  have reachable : Reachable sample noHits chainServer := freshRun_reachable legal
  obtain ⟨memory, found, superseded⟩ := Option.map_eq_some_iff.mp state
  obtain ⟨path, last, replacement, follows, once, stored, settled, _⟩ :=
    supersession_settles reachable found superseded
  exact ⟨first, second, path, last, replacement, follows, once, stored, settled⟩

end Hangar
