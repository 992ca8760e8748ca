import Hangar.Knowledge.History
import Hangar.Lib.Cursor

namespace Hangar

open Lib

section
variable (organizationId : String) (workspaceId : Option String)

def OutboxEvent.inFeed (event : OutboxEvent) : Bool :=
  event.organizationId == organizationId && (workspaceId.isNone || event.workspaceId == workspaceId)

/-- The loop of `list_outbox_events` over the rows still to come. -/
def collectEvents (after : Option Uuid) (limit : Nat) : List (Uuid × OutboxEvent) → List OutboxEvent → List OutboxEvent
  | [], result => result
  | (key, event) :: rows, result =>
    if after.any fun cursor => (compare key cursor).isLE then collectEvents after limit rows result
    else if event.inFeed organizationId workspaceId then
      let result := result ++ [event]
      if result.length ≥ limit then result else collectEvents after limit rows result
    else collectEvents after limit rows result

def listOutboxEvents (after : Option Uuid) (limit : Nat) (s : Store) : List OutboxEvent :=
  collectEvents organizationId workspaceId after limit s.journal.outboxEvents.toList []

def Store.feed (s : Store) : List OutboxEvent :=
  (Table.rows s.journal.outboxEvents).filter (OutboxEvent.inFeed organizationId workspaceId)

end

/-- A step of the server beside a consumer of one feed: a call, which draws ids behind all those of the outbox, or
    a read of the next page. -/
inductive FeedEvent where
  | call (event : Event)
  | read (limit : Nat)

inductive FeedStep (x : Externals) (engines : SearchEngines) (organizationId : String) (workspaceId : Option String) :
    Server × List OutboxEvent → FeedEvent → Server × List OutboxEvent → Prop where
  | call {server server' : Server} {received : List OutboxEvent} {event : Event}
      (taken : Step x engines server event server') (ordered : event.env.Ordered server.store) :
      FeedStep x engines organizationId workspaceId (server, received) (.call event) (server', received)
  | read {server : Server} {received : List OutboxEvent} {limit : Nat} (positive : 0 < limit) :
      FeedStep x engines organizationId workspaceId (server, received) (.read limit)
        (server, received ++ listOutboxEvents organizationId workspaceId (received.getLast?.map OutboxEvent.id) limit
          server.store)

def EventsKeyed (outbox : Table Uuid OutboxEvent) : Prop :=
  ∀ (id : Uuid) (event : OutboxEvent), outbox[id]? = some event → event.id = id

structure Appends (env : Env) (outbox outbox' : Table Uuid OutboxEvent) : Prop where
  kept : ∀ (id : Uuid) (event : OutboxEvent), outbox[id]? = some event → outbox'[id]? = some event
  added : ∀ (id : Uuid) (event : OutboxEvent), outbox'[id]? = some event →
    outbox[id]? = some event ∨ event.id = id ∧ ∃ i, id = env.uuid i

variable {x : Externals} {engines : SearchEngines} {env : Env} {s s' : Store} {op : Op} {organizationId : String}
  {workspaceId : Option String} {outbox outbox' : Table Uuid OutboxEvent} {server server' : Server} {event : Event}

theorem collectEvents_eq {after : Option Uuid} {limit : Nat} {rows : List (Uuid × OutboxEvent)}
    {result : List OutboxEvent} (room : result.length < limit) :
    collectEvents organizationId workspaceId after limit rows result = result ++
      (((rows.filter fun row => after.all fun cursor => compare row.1 cursor == .gt).map Prod.snd).filter
        (OutboxEvent.inFeed organizationId workspaceId)).take (limit - result.length) := by
  induction rows generalizing result with
  | nil => simp [collectEvents]
  | cons row rows ih =>
    obtain ⟨key, event⟩ := row
    unfold collectEvents
    have passed : (after.any fun cursor => (compare key cursor).isLE) =
        !(after.all fun cursor => compare key cursor == .gt) := by
      cases after with
      | none => rfl
      | some cursor => cases order : compare key cursor <;> simp [order]
    rw [passed]
    cases reached : after.all fun cursor => compare key cursor == .gt with
    | false => simp [ih room, reached]
    | true =>
      rw [List.filter_cons, if_pos reached, List.map_cons, if_neg (by simp)]
      cases listed : event.inFeed organizationId workspaceId with
      | false =>
        rw [List.filter_cons_of_neg (by simp [listed]), if_neg (by simp), ih room]
      | true =>
        obtain ⟨left, more⟩ : ∃ left, limit - result.length = left + 1 := ⟨limit - result.length - 1, by omega⟩
        rw [List.filter_cons_of_pos listed, if_pos rfl, more, List.take_succ_cons]
        by_cases full : (result ++ [event]).length ≥ limit
        · have none : left = 0 := by
            simp only [List.length_append, List.length_singleton] at full
            omega
          rw [if_pos full, none, List.take_zero]
        · rw [if_neg full, ih (by omega), List.append_assoc]
          have rest : limit - (result ++ [event]).length = left := by
            rw [List.length_append, List.length_singleton]
            omega
          rw [rest]
          rfl

theorem feed_ascending (keyed : EventsKeyed s.journal.outboxEvents) :
    Ascending OutboxEvent.id (s.feed organizationId workspaceId) := by
  apply Ascending.filter
  unfold Ascending Table.rows
  rw [List.pairwise_map]
  apply Std.ExtTreeMap.ordered_keys_toList.imp_of_mem
  intro row row' member member' before
  rw [Std.ExtTreeMap.mem_toList_iff_getElem?_eq_some] at member member'
  rw [keyed _ _ member, keyed _ _ member']
  exact before

/-- A page holds the next events of the feed behind the cursor. -/
theorem listOutboxEvents_eq (keyed : EventsKeyed s.journal.outboxEvents) {after : Option Uuid} {limit : Nat}
    (positive : 0 < limit) : listOutboxEvents organizationId workspaceId after limit s =
      (behind OutboxEvent.id after (s.feed organizationId workspaceId)).take limit := by
  have rows : (s.journal.outboxEvents.toList.filter fun row => after.all fun cursor => compare row.1 cursor == .gt).map
      Prod.snd = (Table.rows s.journal.outboxEvents).filter fun event => after.all fun cursor =>
        compare event.id cursor == .gt := by
    rw [Table.rows, List.filter_map]
    congr 1
    apply List.filter_congr
    intro row member
    rw [Std.ExtTreeMap.mem_toList_iff_getElem?_eq_some] at member
    rw [Function.comp_apply, keyed _ _ member]
  unfold listOutboxEvents behind Store.feed
  rw [collectEvents_eq positive, rows, List.filter_comm]
  rfl

theorem EventsKeyed.appends (keyed : EventsKeyed outbox) (appends : Appends env outbox outbox') :
    EventsKeyed outbox' := by
  intro id event found
  rcases appends.added id event found with before | ⟨named, _⟩
  · exact keyed id event before
  · exact named

theorem Env.Ordered.fresh (ordered : env.Ordered s) (i : Nat) : s.journal.outboxEvents[env.uuid i]? = none := by
  cases found : s.journal.outboxEvents[env.uuid i]? with
  | none => rfl
  | some event =>
    have member : env.uuid i ∈ s.journal.outboxEvents := by
      rw [Std.ExtTreeMap.mem_iff_isSome_getElem?, found]
      rfl
    have before := ordered.later _ member i
    rw [Std.LawfulEqOrd.compare_eq_iff_eq.mpr rfl] at before
    cases before

theorem Appends.feed_prefix (appends : Appends env s.journal.outboxEvents s'.journal.outboxEvents)
    (ordered : env.Ordered s) : s.feed organizationId workspaceId <+: s'.feed organizationId workspaceId := by
  have rows : Table.rows s.journal.outboxEvents <+: Table.rows s'.journal.outboxEvents := by
    apply Table.rows_prefix appends.kept
    intro id member absent before earlier
    obtain ⟨event, found⟩ := Option.isSome_iff_exists.mp (Std.ExtTreeMap.mem_iff_isSome_getElem?.mp member)
    rcases appends.added id event found with stored | ⟨_, i, drawn⟩
    · rw [Std.ExtTreeMap.mem_iff_isSome_getElem?, stored] at absent
      exact absurd rfl absent
    · rw [drawn]
      exact ordered.later before earlier i
  exact rows.filter _

theorem Appends.refl : Appends env outbox outbox := ⟨fun _ _ found => found, fun _ _ found => .inl found⟩

theorem Appends.insert {initial : Table Uuid OutboxEvent} (appends : Appends env initial outbox)
    (fresh : ∀ i, initial[env.uuid i]? = none) {i : Nat} {event : OutboxEvent} (named : event.id = env.uuid i) :
    Appends env initial (outbox.insert (env.uuid i) event) := by
  constructor
  · intro id stored found
    rw [Table.find_insert_ne]
    · exact appends.kept id stored found
    · intro same
      rw [← same, fresh i] at found
      cases found
  · intro id stored found
    rw [Table.find_insert] at found
    by_cases same : env.uuid i = id
    · rw [if_pos same, Option.some.injEq] at found
      rw [← found, ← same]
      exact .inr ⟨named, i, rfl⟩
    · rw [if_neg same] at found
      exact appends.added id stored found

theorem Appends.insertAll {initial : Table Uuid OutboxEvent} {entries : List (Uuid × OutboxEvent)}
    (appends : Appends env initial outbox) (fresh : ∀ i, initial[env.uuid i]? = none)
    (drawn : ∀ entry ∈ entries, ∃ i, entry.1 = env.uuid i ∧ entry.2.id = env.uuid i) :
    Appends env initial (outbox.insertAll entries) := by
  induction entries generalizing outbox with
  | nil => exact appends
  | cons entry entries ih =>
    rw [List.forall_mem_cons] at drawn
    obtain ⟨i, key, named⟩ := drawn.1
    rw [Table.insertAll_cons, key]
    exact ih (appends.insert fresh named) drawn.2

theorem MemoryStep.appends (step : MemoryStep x env op s s') (ordered : env.Ordered s) :
    Appends env s.journal.outboxEvents s'.journal.outboxEvents := by
  cases step with
  | other _ events =>
    unfold OtherEvents at events
    generalize s'.journal.outboxEvents = outbox at events ⊢
    induction events with
    | refl => exact .refl
    | tail _ step ih =>
      obtain ⟨i, event, _, named, written⟩ := step
      rw [written]
      exact ih.insert ordered.fresh named
  | create new _ _ events =>
    rw [events]
    exact Appends.refl.insert ordered.fresh rfl
  | transition id memory transition _ _ _ events =>
    rw [events]
    exact Appends.refl.insert ordered.fresh rfl
  | sweep _ events =>
    rw [events]
    apply Appends.refl.insertAll ordered.fresh
    intro entry member
    obtain ⟨expired, _, rfl⟩ := List.mem_map.mp member
    exact ⟨2 * expired.2 + 1, rfl, rfl⟩

/-- What the consumer of a feed has received: each page extends it, and a short one completes it. -/
structure Received (organizationId : String) (workspaceId : Option String) (state : Server × List OutboxEvent) : Prop where
  keyed : EventsKeyed state.1.store.journal.outboxEvents
  received : state.2 <+: state.1.store.feed organizationId workspaceId

theorem Received.step {state state' : Server × List OutboxEvent} {label : FeedEvent}
    (before : Received organizationId workspaceId state)
    (taken : FeedStep x engines organizationId workspaceId state label state') :
    Received organizationId workspaceId state' := by
  cases taken with
  | call taken ordered =>
    have appends := taken.memoryStep.appends ordered
    exact ⟨before.keyed.appends appends, before.received.trans (appends.feed_prefix ordered)⟩
  | read positive =>
    refine ⟨before.keyed, ?_⟩
    rw [listOutboxEvents_eq before.keyed positive]
    exact page_prefix (feed_ascending before.keyed) before.received

/-- Cursor replay loses and duplicates nothing: at every moment of a run the consumer has received the first events
    of its feed, in the order of their ids and each of them once, and after a page shorter than its limit all of
    them. -/
theorem outbox_replay {provider : EmbeddingProvider} {trace : List ((Server × List OutboxEvent) × FeedEvent)}
    {state : Server × List OutboxEvent}
    (run : Run (FeedStep x engines organizationId workspaceId) (Server.initial provider, []) trace state) :
    state.2 <+: state.1.store.feed organizationId workspaceId ∧
    Ascending OutboxEvent.id (state.1.store.feed organizationId workspaceId) ∧
    (state.2.map OutboxEvent.id).Nodup ∧
    (∀ event ∈ state.2, event.organizationId = organizationId ∧
      ∀ workspace, workspaceId = some workspace → event.workspaceId = some workspace) ∧
    (∀ (limit : Nat) (state' : Server × List OutboxEvent),
      FeedStep x engines organizationId workspaceId state (.read limit) state' →
      state'.2.length < state.2.length + limit → state'.2 = state'.1.store.feed organizationId workspaceId) := by
  have holds : Received organizationId workspaceId state := by
    apply run.preserves
    · exact ⟨fun id event found => by simp [Server.initial, Store.empty] at found, List.nil_prefix⟩
    · exact fun _ _ _ before taken => before.step taken
  have ascending : Ascending OutboxEvent.id (state.1.store.feed organizationId workspaceId) :=
    feed_ascending holds.keyed
  refine ⟨holds.received, ascending, ?_, ?_, ?_⟩
  · exact ascending.nodup.sublist (holds.received.sublist.map _)
  · intro event member
    have listed := holds.received.subset member
    have inFeed := (List.mem_filter.mp listed).2
    simp only [OutboxEvent.inFeed, Bool.and_eq_true, Bool.or_eq_true, beq_iff_eq] at inFeed
    refine ⟨inFeed.1, ?_⟩
    rintro workspace rfl
    simpa using inFeed.2
  · intro limit state' taken short
    cases taken with
    | read positive =>
      simp only [List.length_append] at short
      rw [listOutboxEvents_eq holds.keyed positive] at short ⊢
      exact page_end ascending holds.received (Nat.lt_of_add_lt_add_left short)

/-- Two organizations append events, and a consumer of one of their workspaces reads after each call. -/
def feedingCalls : List (Nat × Op) :=
  [(1, .knowledge (.createMemory ⟨"acme", "core", "alpha", none, Uuid.nil, 1, none, .direct⟩)),
    (2, .knowledge (.createMemory ⟨"globex", "core", "beta", none, Uuid.nil, 1, none, .direct⟩)),
    (3, .knowledge (.transitionMemory (serialUuid 0) "acme" "core" ⟨.validated, none, none⟩))]

def replay (limit : Nat) : Server × List OutboxEvent → Nat → List (Nat × Op) → Server × List OutboxEvent
  | state, _, [] => state
  | (server, received), first, (now, op) :: rest =>
    let server := server.next sample noHits ⟨serialEnv now first, op⟩
    let page := listOutboxEvents "acme" (some "core") (received.getLast?.map OutboxEvent.id) limit server.store
    replay limit (server, received ++ page) (first + serialStride) rest

theorem replay_reaches {limit : Nat} (positive : 0 < limit) {server : Server} {received : List OutboxEvent} {first : Nat}
    {calls : List (Nat × Op)} (legal : SerialLegal sample noHits server first calls)
    (serial : SerialEvents sample noHits server first calls) :
    Reaches (FeedStep sample noHits "acme" (some "core")) (server, received)
      (replay limit (server, received) first calls) := by
  induction calls generalizing server received first with
  | nil => exact Reaches.refl
  | cons call calls ih =>
    obtain ⟨fresh, permitted, legal⟩ := legal
    obtain ⟨events, serial⟩ := serial
    have taken : Step sample noHits server ⟨serialEnv call.1 first, call.2⟩
        (server.next sample noHits ⟨serialEnv call.1 first, call.2⟩) := ⟨fresh.fresh, permitted, rfl⟩
    have called : Reaches (FeedStep sample noHits "acme" (some "core")) (server, received)
        (server.next sample noHits ⟨serialEnv call.1 first, call.2⟩, received) :=
      ⟨_, .single (.call taken events.ordered)⟩
    exact (called.next (.read positive)).trans (ih legal serial)

theorem outbox_replay_feeding : ∃ state : Server × List OutboxEvent,
    state.2.map OutboxEvent.eventType = ["memory.proposed.v1", "memory.lifecycle_changed.v1"] ∧
      state.2 <+: state.1.store.feed "acme" (some "core") := by
  have reached : Reaches (FeedStep sample noHits "acme" (some "core")) (Server.initial .hashingV1, [])
      (replay 1 (Server.initial .hashingV1, []) 0 feedingCalls) :=
    replay_reaches (by decide) (by decide +kernel) (by decide +kernel)
  obtain ⟨trace, run⟩ := reached
  exact ⟨_, by decide +kernel, (outbox_replay run).1⟩

end Hangar
