import Hangar.Concrete
import Hangar.Knowledge.Entries
import Hangar.Knowledge.Outbox

namespace Hangar

open Lib

/-- The ids of a call come in order, and after those of all stored events. -/
structure Env.Ordered (env : Env) (s : Store) : Prop where
  increasing : ∀ i j, i < j → compare (env.uuid i) (env.uuid j) = .lt
  later : ∀ id ∈ s.journal.outboxEvents, ∀ i, compare id (env.uuid i) = .lt

def Store.eventsAbout (s : Store) (id : Uuid) : List OutboxEvent :=
  (Table.rows s.journal.outboxEvents).filter (OutboxEvent.about id)

inductive Recorded (x : Externals) (env : Env) (op : Op) (s : Store) (id : Uuid) :
    Option Memory → Option Memory → List OutboxEvent → Prop where
  | same {memory : Option Memory} : Recorded x env op s id memory memory []
  | create (new : NewMemory) (origin : new.Origin op s) (named : env.uuid 0 = id) :
      Recorded x env op s id none (some (newMemory x env new)) [proposedEvent env (newMemory x env new)]
  | transition {memory : Memory} (transition : MemoryTransition)
      (valid : isValidTransition memory.lifecycle transition.lifecycle = true) :
      Recorded x env op s id (some memory) (some (memory.applyTransition env transition))
        [lifecycleEvent env (env.uuid 0) (memory.applyTransition env transition) []]
  | expire {memory : Memory} (index : Nat) (due : memory.isDue env = true) :
      Recorded x env op s id (some memory) (some (memory.expire env)) [expiredEvent env index (memory.expire env)]

/-- The documented state graph. -/
inductive MemoryLifecycle.Leads : MemoryLifecycle → MemoryLifecycle → Prop where
  | validate : Leads .proposed .validated
  | publish : Leads .validated .published
  | supersede : Leads .published .superseded
  | lapse {lifecycle : MemoryLifecycle}
      (live : lifecycle = .proposed ∨ lifecycle = .validated ∨ lifecycle = .published) : Leads lifecycle .expired

structure OutboxEvent.Concerns (event : OutboxEvent) (memory : Memory) : Prop where
  specVersion : event.specVersion = 1
  subject : event.subject = "memories/" ++ memory.id.text
  organizationId : event.organizationId = memory.organizationId
  workspaceId : event.workspaceId = some memory.workspaceId

structure OutboxEvent.Proposes (event : OutboxEvent) (memory : Memory) : Prop extends event.Concerns memory where
  eventType : event.eventType = "memory.proposed.v1"
  data : event.data = .obj [("memory_id", .str memory.id.text), ("version", .num 1),
    ("provenance", memory.provenance.toJson)]

structure OutboxEvent.Moves (event : OutboxEvent) (memory : Memory) (lifecycle : MemoryLifecycle) (version : Nat) :
    Prop extends event.Concerns memory where
  eventType : event.eventType = "memory.lifecycle_changed.v1"
  data : ∃ reason, event.data = .obj ([("memory_id", .str memory.id.text), ("lifecycle", lifecycle.toJson),
      ("version", .num version)] ++ reason) ∧
    (reason = [] ∨ reason = [("reason", .str "retention_expired")] ∧ lifecycle = .expired)

/-- The events propose the memory and lead it through the state graph, one version at a time. -/
inductive Memory.Replays (memory : Memory) : List OutboxEvent → MemoryLifecycle → Nat → Prop where
  | proposed {event : OutboxEvent} (proposes : event.Proposes memory) : memory.Replays [event] .proposed 1
  | moved {events : List OutboxEvent} {event : OutboxEvent} {lifecycle lifecycle' : MemoryLifecycle} {version : Nat}
      (before : memory.Replays events lifecycle version) (leads : lifecycle.Leads lifecycle')
      (moves : event.Moves memory lifecycle' (version + 1)) :
      memory.Replays (events ++ [event]) lifecycle' (version + 1)

structure Memory.SameCreation (memory created : Memory) : Prop where
  id : memory.id = created.id
  organizationId : memory.organizationId = created.organizationId
  workspaceId : memory.workspaceId = created.workspaceId
  content : memory.content = created.content
  source : memory.source = created.source
  contentSha256 : memory.contentSha256 = created.contentSha256
  createdBy : memory.createdBy = created.createdBy
  confidence : memory.confidence = created.confidence
  createdAtUnixMs : memory.createdAtUnixMs = created.createdAtUnixMs
  provenance : memory.provenance = created.provenance

structure Creates (x : Externals) (engines : SearchEngines) (server : Server) (event : Event) (id : Uuid)
    (new : NewMemory) : Prop where
  origin : new.Origin event.op server.store
  before : server.store.knowledge.memories[id]? = none
  after : (server.next x engines event).store.knowledge.memories[id]? = some (newMemory x event.env new)

/-- The provenance of a promotion records the hash of the content and the creator of the memory. -/
def Memory.PromotionRecorded (memory : Memory) : Prop :=
  ∀ sessionId entryId entrySha256 sessionCreatedBy,
    memory.provenance = .sessionPromotion sessionId entryId entrySha256 sessionCreatedBy →
      entrySha256 = memory.contentSha256 ∧ sessionCreatedBy = memory.createdBy

/-- Both edges create memories with direct provenance; only a promotion names a session. -/
def Op.DirectlyCreates : Op → Prop
  | .knowledge (.createMemory new) => new.provenance = .direct
  | .knowledge (.createMemoryWithLimits new _) => new.provenance = .direct
  | _ => True

/-- The outbox tells the history of a memory, which no call has changed otherwise. -/
structure Memory.Told (x : Externals) (engines : SearchEngines) (trace : List (Server × Event)) (s : Store) (id : Uuid)
    (memory : Memory) : Prop where
  replays : memory.Replays (s.eventsAbout id) memory.lifecycle memory.version
  created : ∃ p ∈ trace, ∃ new, Creates x engines p.1 p.2 id new ∧ memory.SameCreation (newMemory x p.2.env new)
  retention : memory.retention = .expireAt ↔ memory.expiresAtUnixMs.isSome = true

variable {x : Externals} {engines : SearchEngines} {env : Env} {s s' : Store} {id : Uuid} {op : Op}

theorem OtherEvents.eventsAbout (events : OtherEvents env s s') (ordered : env.Ordered s) :
    s'.eventsAbout id = s.eventsAbout id := by
  unfold OtherEvents at events
  unfold Store.eventsAbout
  generalize s'.journal.outboxEvents = outbox at events ⊢
  have all : ((Table.rows outbox).filter (OutboxEvent.about id) =
      (Table.rows s.journal.outboxEvents).filter (OutboxEvent.about id)) ∧
      ∀ i event, outbox[env.uuid i]? = some event → event.about id = false := by
    induction events with
    | refl =>
      refine ⟨rfl, ?_⟩
      intro i event found
      have member : env.uuid i ∈ s.journal.outboxEvents := by
        rw [Std.ExtTreeMap.mem_iff_isSome_getElem?, found]
        rfl
      have before := ordered.later _ member i
      rw [Std.LawfulEqOrd.compare_eq_iff_eq.mpr rfl] at before
      cases before
    | @tail outbox outbox' _ step ih =>
      obtain ⟨i, event, foreign, _, written⟩ := step
      rw [written]
      constructor
      · rw [Table.filter_rows_insert (foreign id) (ih.2 i), ih.1]
      · intro j other found
        rw [Table.find_insert] at found
        by_cases same : env.uuid i = env.uuid j
        · rw [if_pos same, Option.some.injEq] at found
          rw [← found]
          exact foreign id
        · rw [if_neg same] at found
          exact ih.2 j other found
  exact all.1

theorem eventsAbout_insert (ordered : env.Ordered s) {i : Nat} {event : OutboxEvent}
    (written : s'.journal.outboxEvents = s.journal.outboxEvents.insert (env.uuid i) event) (id : Uuid) :
    s'.eventsAbout id = s.eventsAbout id ++ if event.about id = true then [event] else [] := by
  have last : ∀ k ∈ s.journal.outboxEvents, compare k (env.uuid i) = .lt := fun k member => ordered.later k member i
  unfold Store.eventsAbout
  rw [written, Table.rows_insert_last last, List.filter_append]
  congr 1
  by_cases about : event.about id = true
  · simp [about]
  · simp [about]

theorem expiryEvents_ascending (ordered : env.Ordered s) :
    (expiryEvents env s).Pairwise fun entry entry' => compare entry.1 entry'.1 = .lt := by
  unfold expiryEvents
  rw [List.pairwise_map]
  have indices : (((expiredMemories env s).map Prod.snd).zipIdx.map Prod.snd).Pairwise (· < ·) := by
    rw [List.zipIdx_map_snd]
    exact List.pairwise_lt_range'
  rw [List.pairwise_map] at indices
  apply indices.imp
  intro entry entry' before
  apply ordered.increasing
  omega

theorem eventsAbout_sweep (ordered : env.Ordered s)
    (written : s'.journal.outboxEvents = s.journal.outboxEvents.insertAll (expiryEvents env s)) (id : Uuid) :
    s'.eventsAbout id = s.eventsAbout id ++ ((expiryEvents env s).map Prod.snd).filter (OutboxEvent.about id) := by
  unfold Store.eventsAbout
  rw [written, Table.rows_insertAll_last _ (expiryEvents_ascending ordered), List.filter_append]
  intro k member entry listed
  obtain ⟨source, _, rfl⟩ := List.mem_map.mp listed
  exact ordered.later k member _

/-- The events of a sweep about one memory: one, if the memory was due. -/
theorem expiryEvents_about (env : Env) (valid : KnowledgeIntegrity s.knowledge) (id : Uuid) :
    (∃ memory index, s.knowledge.memories[id]? = some memory ∧ memory.isDue env = true ∧
      ((expiryEvents env s).map Prod.snd).filter (OutboxEvent.about id) = [expiredEvent env index (memory.expire env)]) ∨
    (∀ memory, s.knowledge.memories[id]? = some memory → memory.isDue env = false) ∧
      ((expiryEvents env s).map Prod.snd).filter (OutboxEvent.about id) = [] := by
  have events : (expiryEvents env s).map Prod.snd = ((expiredMemories env s).map Prod.snd).zipIdx.map fun entry =>
      expiredEvent env entry.2 entry.1 := by
    rw [expiryEvents, List.map_map]
    rfl
  have about (entry : Memory × Nat) : (expiredEvent env entry.2 entry.1).about id = (entry.1.id == id) :=
    memoryEvent_about
  have filtered : ((expiryEvents env s).map Prod.snd).filter (OutboxEvent.about id) =
      ((((expiredMemories env s).map Prod.snd).zipIdx).filter fun entry => entry.1.id == id).map fun entry =>
        expiredEvent env entry.2 entry.1 := by
    rw [events, List.filter_map]
    congr 1
    apply List.filter_congr
    exact fun entry _ => about entry
  -- the rows of a sweep stand under the ids of their memories
  have ids : ((expiredMemories env s).map Prod.snd).map Memory.id = (expiredMemories env s).map Prod.fst := by
    rw [List.map_map]
    apply List.map_congr_left
    intro entry listed
    obtain ⟨row, stored, rfl⟩ := List.mem_map.mp listed
    have found := Std.ExtTreeMap.mem_toList_iff_getElem?_eq_some.mp (List.mem_filter.mp stored).1
    have named := valid.memoryId found
    exact named
  have distinct : ((((expiredMemories env s).map Prod.snd).zipIdx).map fun entry => entry.1.id).Nodup := by
    have firsts : (((expiredMemories env s).map Prod.snd).zipIdx).map (fun entry => entry.1.id) =
        (expiredMemories env s).map Prod.fst := by
      rw [← ids, ← List.zipIdx_map_fst 0 ((expiredMemories env s).map Prod.snd), List.map_map]
      simp
    rw [firsts, expiredMemories, List.map_map]
    exact Table.nodup_keys_filter
  rw [filtered]
  by_cases selected : ∃ memory, s.knowledge.memories[id]? = some memory ∧ memory.isDue env = true
  · obtain ⟨memory, found, due⟩ := selected
    left
    have row : (id, memory.expire env) ∈ expiredMemories env s := by
      apply List.mem_map.mpr
      refine ⟨(id, memory), ?_, rfl⟩
      simp [due, found]
    have listed : memory.expire env ∈ (((expiredMemories env s).map Prod.snd).zipIdx).map Prod.fst := by
      rw [List.zipIdx_map_fst]
      exact List.mem_map.mpr ⟨_, row, rfl⟩
    obtain ⟨⟨expired, index⟩, member, same⟩ := List.mem_map.mp listed
    dsimp only at same
    subst same
    have one := filter_key distinct member
    have named := valid.memoryId found
    have named : (memory.expire env).id = id := named
    simp only [named] at one
    refine ⟨memory, index, found, due, ?_⟩
    rw [one]
    rfl
  · right
    constructor
    · intro memory found
      have live := fun due => selected ⟨memory, found, due⟩
      simpa using live
    · rw [List.map_eq_nil_iff, List.filter_eq_nil_iff]
      intro entry member same
      rw [beq_iff_eq] at same
      have listed : entry.1 ∈ (((expiredMemories env s).map Prod.snd).zipIdx).map Prod.fst :=
        List.mem_map.mpr ⟨entry, member, rfl⟩
      rw [List.zipIdx_map_fst] at listed
      obtain ⟨row, expired, rowSame⟩ := List.mem_map.mp listed
      obtain ⟨source, stored, rfl⟩ := List.mem_map.mp expired
      obtain ⟨stored, due⟩ := List.mem_filter.mp stored
      have found := Std.ExtTreeMap.mem_toList_iff_getElem?_eq_some.mp stored
      have key := valid.memoryId found
      rw [← rowSame] at same
      have named : source.1 = id := key.symm.trans same
      rw [named] at found
      exact selected ⟨source.2, found, due⟩

/-- A call adds to the events about a memory what it does to the memory. -/
theorem MemoryStep.recorded (step : MemoryStep x env op s s') (ordered : env.Ordered s)
    (valid : KnowledgeIntegrity s.knowledge) (fresh : s.knowledge.memories[env.uuid 0]? = none) (id : Uuid) :
    ∃ events, Recorded x env op s id s.knowledge.memories[id]? s'.knowledge.memories[id]? events ∧
      s'.eventsAbout id = s.eventsAbout id ++ events := by
  cases step with
  | other memories events =>
    refine ⟨[], ?_, ?_⟩
    · rw [memories]
      exact .same
    · rw [events.eventsAbout ordered, List.append_nil]
  | create new origin memories events =>
    have about : (proposedEvent env (newMemory x env new)).about id = (env.uuid 0 == id) := memoryEvent_about
    have listed := eventsAbout_insert ordered events id
    rw [about] at listed
    by_cases named : env.uuid 0 = id
    · rw [named, beq_self_eq_true, if_pos rfl] at listed
      refine ⟨_, ?_, listed⟩
      rw [memories, named, Table.find_insert_self, ← named, fresh]
      exact .create new origin rfl
    · rw [beq_false_of_ne named, if_neg Bool.false_ne_true] at listed
      refine ⟨_, ?_, listed⟩
      rw [memories, Table.find_insert_ne named]
      exact .same
  | transition key memory transition found allowed memories events =>
    have about : (lifecycleEvent env (env.uuid 0) (memory.applyTransition env transition) []).about id =
        (memory.id == id) := memoryEvent_about
    have listed := eventsAbout_insert ordered events id
    rw [about, valid.memoryId found] at listed
    by_cases named : key = id
    · rw [named, beq_self_eq_true, if_pos rfl] at listed
      refine ⟨_, ?_, listed⟩
      rw [memories, named, Table.find_insert_self, ← named, found]
      exact .transition transition allowed
    · rw [beq_false_of_ne named, if_neg Bool.false_ne_true] at listed
      refine ⟨_, ?_, listed⟩
      rw [memories, Table.find_insert_ne named]
      exact .same
  | sweep memories events =>
    have listed := eventsAbout_sweep ordered events id
    have rewritten : s'.knowledge.memories[id]? =
        s.knowledge.memories[id]?.map fun memory => if memory.isDue env then memory.expire env else memory := by
      rw [memories, expiredMemories, Table.find_rewrite (p := fun memory : Memory => memory.isDue env)
        (f := fun memory : Memory => memory.expire env)]
    rcases expiryEvents_about env valid id with ⟨memory, index, found, due, one⟩ | ⟨live, none⟩
    · rw [one] at listed
      refine ⟨_, ?_, listed⟩
      rw [rewritten, found, Option.map_some, if_pos due]
      exact .expire index due
    · rw [none] at listed
      refine ⟨_, ?_, listed⟩
      have kept : s'.knowledge.memories[id]? = s.knowledge.memories[id]? := by
        rw [rewritten]
        cases found : s.knowledge.memories[id]? with
        | none => rfl
        | some memory => simp [live memory found]
      rw [kept]
      exact .same

theorem MemoryLifecycle.leads_of_valid {source target : MemoryLifecycle}
    (valid : isValidTransition source target = true) : source.Leads target := by
  cases source <;> cases target <;> simp_all [isValidTransition]
  · exact .validate
  · exact .lapse (by simp)
  · exact .publish
  · exact .lapse (by simp)
  · exact .supersede
  · exact .lapse (by simp)

theorem MemoryLifecycle.leads_of_due {memory : Memory} (due : memory.isDue env = true) :
    memory.lifecycle.Leads .expired := by
  apply MemoryLifecycle.Leads.lapse
  unfold Memory.isDue at due
  cases lifecycle : memory.lifecycle <;> simp_all

def MemoryLifecycle.depth : MemoryLifecycle → Nat
  | .proposed => 1
  | .validated => 2
  | .published => 3
  | .superseded => 4
  | .expired => 4

theorem MemoryLifecycle.Leads.depth_lt {source target : MemoryLifecycle} (leads : source.Leads target) :
    source.depth < target.depth := by
  cases leads with
  | validate => decide
  | publish => decide
  | supersede => decide
  | lapse live =>
    rcases live with proposed | validated | published
    · simp [proposed, depth]
    · simp [validated, depth]
    · simp [published, depth]

section
variable {memory memory' created : Memory} {events : List OutboxEvent} {lifecycle : MemoryLifecycle} {version : Nat}

/-- No path through the state graph passes more than four states. -/
theorem Memory.Replays.version_le (replays : memory.Replays events lifecycle version) : version ≤ lifecycle.depth := by
  induction replays with
  | proposed => decide
  | moved _ leads _ ih =>
    have deeper := leads.depth_lt
    omega

theorem MemoryLifecycle.depth_le (lifecycle : MemoryLifecycle) : lifecycle.depth ≤ 4 := by
  cases lifecycle <;> decide

theorem Memory.SameCreation.refl : memory.SameCreation memory := by
  constructor <;> rfl

theorem Memory.SameCreation.trans (first : memory.SameCreation memory') (second : memory'.SameCreation created) :
    memory.SameCreation created where
  id := first.id.trans second.id
  organizationId := first.organizationId.trans second.organizationId
  workspaceId := first.workspaceId.trans second.workspaceId
  content := first.content.trans second.content
  source := first.source.trans second.source
  contentSha256 := first.contentSha256.trans second.contentSha256
  createdBy := first.createdBy.trans second.createdBy
  confidence := first.confidence.trans second.confidence
  createdAtUnixMs := first.createdAtUnixMs.trans second.createdAtUnixMs
  provenance := first.provenance.trans second.provenance

theorem Memory.sameCreation_applyTransition {transition : MemoryTransition} :
    (memory.applyTransition env transition).SameCreation memory := by
  constructor <;> rfl

theorem Memory.sameCreation_expire : (memory.expire env).SameCreation memory := by
  constructor <;> rfl

theorem OutboxEvent.Concerns.congr {event : OutboxEvent} (concerns : event.Concerns memory)
    (same : memory'.SameCreation memory) : event.Concerns memory' where
  specVersion := concerns.specVersion
  subject := by rw [same.id, concerns.subject]
  organizationId := by rw [same.organizationId, concerns.organizationId]
  workspaceId := by rw [same.workspaceId, concerns.workspaceId]

theorem Memory.Replays.congr (replays : memory.Replays events lifecycle version) (same : memory'.SameCreation memory) :
    memory'.Replays events lifecycle version := by
  induction replays with
  | proposed proposes =>
    apply Memory.Replays.proposed
    refine ⟨proposes.toConcerns.congr same, proposes.eventType, ?_⟩
    rw [same.id, same.provenance, proposes.data]
  | moved _ leads moves ih =>
    apply ih.moved leads
    refine ⟨moves.toConcerns.congr same, moves.eventType, ?_⟩
    rw [same.id]
    exact moves.data

theorem memoryEvent_concerns {key : Uuid} {eventType : String} {data : List (String × Json)} :
    (memoryEvent env key eventType memory data).Concerns memory := ⟨rfl, rfl, rfl, rfl⟩

theorem lifecycleEvent_moves {key : Uuid} {reason : List (String × Json)}
    (given : reason = [] ∨ reason = [("reason", .str "retention_expired")] ∧ memory.lifecycle = .expired) :
    (lifecycleEvent env key memory reason).Moves memory memory.lifecycle memory.version :=
  ⟨memoryEvent_concerns, rfl, reason, rfl, given⟩

theorem Memory.Told.mono {trace : List (Server × Event)} {p : Server × Event}
    (told : memory.Told x engines trace s id) (same : s'.eventsAbout id = s.eventsAbout id) :
    memory.Told x engines (trace ++ [p]) s' id := by
  obtain ⟨earlier, listed, new, creation⟩ := told.created
  constructor
  · rw [same]
    exact told.replays
  · exact ⟨earlier, List.mem_append_left _ listed, new, creation⟩
  · exact told.retention

theorem Memory.Told.move {trace : List (Server × Event)} {p : Server × Event} {key : Uuid}
    {reason : List (String × Json)} (told : memory.Told x engines trace s id) (same : memory'.SameCreation memory)
    (leads : memory.lifecycle.Leads memory'.lifecycle) (version : memory'.version = memory.version + 1)
    (given : reason = [] ∨ reason = [("reason", .str "retention_expired")] ∧ memory'.lifecycle = .expired)
    (listed : s'.eventsAbout id = s.eventsAbout id ++ [lifecycleEvent env key memory' reason])
    (retention : memory'.retention = .expireAt ↔ memory'.expiresAtUnixMs.isSome = true) :
    memory'.Told x engines (trace ++ [p]) s' id := by
  obtain ⟨earlier, member, new, creates, creation⟩ := told.created
  have moves : (lifecycleEvent env key memory' reason).Moves memory' memory'.lifecycle memory'.version :=
    lifecycleEvent_moves given
  constructor
  · rw [listed, version]
    rw [version] at moves
    exact (told.replays.congr same).moved leads moves
  · exact ⟨earlier, List.mem_append_left _ member, new, creates, same.trans creation⟩
  · exact retention

end

structure OutboxTells (x : Externals) (engines : SearchEngines) (trace : List (Server × Event)) (server : Server) :
    Prop where
  told : ∀ {id : Uuid} {memory : Memory}, server.store.knowledge.memories[id]? = some memory →
    memory.Told x engines trace server.store id
  silent : ∀ {id : Uuid}, server.store.knowledge.memories[id]? = none → server.store.eventsAbout id = []

theorem Memory.retention_applyTransition {memory : Memory} {transition : MemoryTransition}
    (before : memory.retention = .expireAt ↔ memory.expiresAtUnixMs.isSome = true) :
    (memory.applyTransition env transition).retention = .expireAt ↔
      (memory.applyTransition env transition).expiresAtUnixMs.isSome = true := by
  unfold Memory.applyTransition
  cases requested : transition.expiresAtUnixMs with
  | some expiresAt => simp
  | none =>
    cases stored : memory.expiresAtUnixMs with
    | some expiresAt => simp
    | none => simpa [stored] using before

theorem retention_newMemory {new : NewMemory} : (newMemory x env new).retention = .expireAt ↔
    (newMemory x env new).expiresAtUnixMs.isSome = true := by
  unfold newMemory
  cases new.expiresAtUnixMs <;> simp

theorem Step.tells {trace : List (Server × Event)} {server server' : Server} {event : Event}
    (taken : Step x engines server event server') (ordered : event.env.Ordered server.store)
    (valid : KnowledgeIntegrity server.store.knowledge) (tells : OutboxTells x engines trace server) :
    OutboxTells x engines (trace ++ [(server, event)]) server' := by
  have recorded := taken.memoryStep.recorded ordered valid (taken.fresh.memory_unused 0)
  constructor
  · intro id memory' found'
    obtain ⟨events, recorded, listed⟩ := recorded id
    generalize before : server.store.knowledge.memories[id]? = stored at recorded
    rw [found'] at recorded
    cases recorded with
    | same =>
      rw [List.append_nil] at listed
      exact (tells.told before).mono listed
    | create new origin named =>
      have creates : Creates x engines server event id new := by
        refine ⟨origin, before, ?_⟩
        rw [← taken.next]
        exact found'
      rw [tells.silent before, List.nil_append] at listed
      constructor
      · rw [listed]
        exact .proposed ⟨memoryEvent_concerns, rfl, rfl⟩
      · exact ⟨_, List.mem_append_right _ List.mem_cons_self, new, creates, .refl⟩
      · exact retention_newMemory
    | transition transition allowed =>
      have told := tells.told before
      exact told.move Memory.sameCreation_applyTransition (MemoryLifecycle.leads_of_valid allowed) rfl (.inl rfl) listed
        (Memory.retention_applyTransition told.retention)
    | expire index due =>
      have told := tells.told before
      exact told.move Memory.sameCreation_expire (MemoryLifecycle.leads_of_due due) rfl (.inr ⟨rfl, rfl⟩) listed
        told.retention
  · intro id absent
    obtain ⟨events, recorded, listed⟩ := recorded id
    generalize before : server.store.knowledge.memories[id]? = stored at recorded
    rw [absent] at recorded
    cases recorded with
    | same => rw [listed, tells.silent before, List.append_nil]

theorem Creates.promotionRecorded {server : Server} {event : Event} {new : NewMemory} {memory : Memory}
    (creates : Creates x engines server event id new) (hashed : server.store.workingMemory.Hashed x)
    (direct : event.op.DirectlyCreates) (same : memory.SameCreation (newMemory x event.env new)) :
    memory.PromotionRecorded := by
  intro sessionId entryId entrySha256 sessionCreatedBy provenance
  rw [same.provenance] at provenance
  have provenance : new.provenance = .sessionPromotion sessionId entryId entrySha256 sessionCreatedBy := provenance
  rw [same.contentSha256, same.createdBy]
  cases creates.origin with
  | requested called =>
    rcases called with called | ⟨limits, called⟩
    · rw [called] at direct
      have direct : new.provenance = .direct := direct
      simp [direct] at provenance
    · rw [called] at direct
      have direct : new.provenance = .direct := direct
      simp [direct] at provenance
  | @promoted _ _ _ session entry _ found listed promoted =>
    have digest := hashed _ session found entry listed
    subst promoted
    simp only [promotedMemory, MemoryProvenance.sessionPromotion.injEq] at provenance
    obtain ⟨_, _, entrySame, creator⟩ := provenance
    subst entrySame creator
    exact ⟨digest, rfl⟩

/-- Where event ids come in order, the outbox tells the history of every memory: its proposal as version 1, then each
    move through the state graph under the next version, up to what is stored, and nothing else has changed. -/
theorem outbox_history {provider : EmbeddingProvider} {trace : List (Server × Event)} {server : Server} {memory : Memory}
    (run : Run (Step x engines) (Server.initial provider) trace server)
    (ordered : ∀ p ∈ trace, p.2.env.Ordered p.1.store)
    (found : server.store.knowledge.memories[id]? = some memory) :
    memory.Told x engines trace server.store id ∧ memory.version ≤ 4 ∧
      memory.contentSha256 = x.sha256Text memory.content ∧
      ((∀ p ∈ trace, p.2.op.DirectlyCreates) → memory.PromotionRecorded) := by
  have tells : OutboxTells x engines trace server := by
    clear found
    induction run with
    | start =>
      constructor
      · intro id memory found
        simp [Server.initial, Store.empty] at found
      · intro id absent
        rfl
    | @next trace server server' event before taken ih =>
      have reachable : Reachable x engines server := ⟨provider, trace, before⟩
      have earlier := ih fun p member => ordered p (List.mem_append_left _ member)
      have here := ordered (server, event) (List.mem_append_right _ List.mem_cons_self)
      exact taken.tells here reachable.knowledgeIntegrity earlier
  have told := tells.told found
  have bound := told.replays.version_le
  have depth := memory.lifecycle.depth_le
  obtain ⟨p, member, new, creates, same⟩ := told.created
  refine ⟨told, by omega, ?_, ?_⟩
  · rw [same.contentSha256, same.content]
    rfl
  · intro direct
    have reachable : Reachable x engines p.1 := ⟨provider, run.reaches_before member⟩
    exact creates.promotionRecorded reachable.hashed (direct p member) same

def Server.EventsSerial (server : Server) (first : Nat) : Prop :=
  ∀ id ∈ server.store.journal.outboxEvents.keys, ∃ i < first, id = serialUuid i

instance {server : Server} {first : Nat} : Decidable (server.EventsSerial first) :=
  inferInstanceAs (Decidable (∀ id ∈ server.store.journal.outboxEvents.keys, ∃ i < first, id = serialUuid i))

theorem Server.EventsSerial.ordered {server : Server} {now first : Nat} (serial : server.EventsSerial first) :
    (serialEnv now first).Ordered server.store := by
  constructor
  · intro i j less
    apply serialUuid_lt
    omega
  · intro id member i
    obtain ⟨j, below, same⟩ := serial id (Std.ExtTreeMap.mem_keys.mpr member)
    rw [same]
    apply serialUuid_lt
    omega

def SerialEvents (x : Externals) (engines : SearchEngines) : Server → Nat → List (Nat × Op) → Prop
  | _, _, [] => True
  | server, first, (now, op) :: rest =>
    server.EventsSerial first ∧
      SerialEvents x engines (server.next x engines ⟨serialEnv now first, op⟩) (first + serialStride) rest

def decideSerialEvents (x : Externals) (engines : SearchEngines) : (server : Server) → (first : Nat) →
    (calls : List (Nat × Op)) → Decidable (SerialEvents x engines server first calls)
  | _, _, [] => inferInstanceAs (Decidable True)
  | server, first, (now, op) :: rest =>
    have := decideSerialEvents x engines (server.next x engines ⟨serialEnv now first, op⟩) (first + serialStride) rest
    inferInstanceAs (Decidable (_ ∧ _))

instance {server : Server} {first : Nat} {calls : List (Nat × Op)} :
    Decidable (SerialEvents x engines server first calls) := decideSerialEvents x engines server first calls

theorem serialTrace_ordered {server : Server} {first : Nat} {calls : List (Nat × Op)}
    (serial : SerialEvents x engines server first calls) :
    ∀ p ∈ serialTrace x engines server first calls, p.2.env.Ordered p.1.store := by
  induction calls generalizing server first with
  | nil => simp [serialTrace]
  | cons call calls ih =>
    intro p member
    rcases List.mem_cons.mp member with here | later
    · rw [here]
      exact serial.1.ordered
    · exact ih serial.2 p later

def promotingCalls : List (Nat × Op) :=
  [(1, .knowledge (.createWorkingSession ⟨"acme", "core", Uuid.nil, none⟩)),
    (2, .knowledge (.appendWorkingMemory "acme" "core" Uuid.nil (serialUuid 0) ⟨.note, "alpha", Uuid.nil⟩)),
    (3, .knowledge (.promoteWorkingMemory "acme" "core" Uuid.nil (serialUuid 0) (serialUuid 16) ⟨none, 1, some 50⟩)),
    (4, .knowledge (.transitionMemory (serialUuid 32) "acme" "core" ⟨.validated, none, none⟩)),
    (50, .knowledge .expireDueMemories)]

theorem outbox_history_promoted : ∃ memory,
    (freshRun sample noHits promotingCalls).store.knowledge.memories[serialUuid 32]? = some memory ∧
      memory.version = 3 ∧ memory.Replays ((freshRun sample noHits promotingCalls).store.eventsAbout (serialUuid 32))
        memory.lifecycle memory.version ∧ memory.PromotionRecorded := by
  have legal : SerialLegal sample noHits (Server.initial .hashingV1) 0 promotingCalls := by decide +kernel
  have serial : SerialEvents sample noHits (Server.initial .hashingV1) 0 promotingCalls := by decide +kernel
  have stored : ((freshRun sample noHits promotingCalls).store.knowledge.memories[serialUuid 32]?).map Memory.version =
      some 3 := by decide +kernel
  obtain ⟨memory, found, version⟩ := Option.map_eq_some_iff.mp stored
  have history := outbox_history (serialRun_run legal) (serialTrace_ordered serial) found
  have direct : ∀ p ∈ serialTrace sample noHits (Server.initial .hashingV1) 0 promotingCalls,
      p.2.op.DirectlyCreates := by
    intro p member
    obtain ⟨call, listed, same⟩ := mem_serialTrace member
    rw [same]
    simp only [promotingCalls, List.mem_cons, List.not_mem_nil, or_false] at listed
    rcases listed with rfl | rfl | rfl | rfl | rfl
    all_goals exact True.intro
  exact ⟨memory, found, version, history.1.replays, history.2.2.2 direct⟩

end Hangar
