import Hangar.Knowledge.Expiry
import Hangar.Knowledge.SessionCalls

namespace Hangar

open Lib

def Event.summarizes (x : Externals) (event : Event) (s : Store) : Option Uuid :=
  match event.op with
  | .knowledge (.updateWorkingSummary organizationId workspaceId principalId sessionId content) =>
    (updateWorkingSummary x event.env organizationId workspaceId principalId sessionId content s).2.toOption.join.map
      fun _ => sessionId
  | _ => none

def Event.opens (event : Event) (s : Store) : Option WorkingSession :=
  match event.op with
  | .knowledge (.createWorkingSession new) => (createWorkingSession event.env new s).2.toOption
  | _ => none

inductive SessionStep (x : Externals) (env : Env) (s : Store) :
    Option Uuid → Option WorkingSession → Table Uuid WorkingSession → Prop where
  | idle : SessionStep x env s none none s.workingMemory.sessions
  | prune : SessionStep x env s none none (pruned env s).workingMemory.sessions
  | forget : SessionStep x env s none none ∅
  | create (new : NewWorkingSession) (ttlMs : Nat) (positive : 0 < ttlMs) (short : ttlMs ≤ maxWorkingSessionTtlMs)
      (room : (pruned env s).workingMemory.sessions.size < maxWorkingSessions) :
      SessionStep x env s none (some (newWorkingSession env new ttlMs))
        ((pruned env s).workingMemory.sessions.insert (env.uuid 0) (newWorkingSession env new ttlMs))
  | append {id : Uuid} {session : WorkingSession} (new : NewWorkingMemoryEntry)
      (found : s.workingMemory.sessions[id]? = some session) (live : env.now < session.expiresAtUnixMs)
      (small : new.content.utf8ByteSize ≤ maxWorkingEntryBytes)
      (room : session.entries.length < maxWorkingEntriesPerSession)
      (bytes : sessionContentBytes session + new.content.utf8ByteSize ≤ maxWorkingSessionBytes) :
      SessionStep x env s none none ((pruned env s).workingMemory.sessions.insert id
        { session with entries := session.entries ++ [newWorkingEntry x env new], updatedAtUnixMs := env.now })
  | summarize {id : Uuid} {session : WorkingSession} (principalId : Uuid) (content : String)
      (found : s.workingMemory.sessions[id]? = some session) (live : env.now < session.expiresAtUnixMs)
      (small : content.utf8ByteSize ≤ maxWorkingEntryBytes)
      (bytes : sessionContentBytes session - (session.summary.map fun summary => summary.content.utf8ByteSize).getD 0 +
        content.utf8ByteSize ≤ maxWorkingSessionBytes) :
      SessionStep x env s (some id) none ((pruned env s).workingMemory.sessions.insert id
        { session with
          summary := some (newSummary x env principalId content
            ((session.summary.map fun summary => (summary.version + 1) % 2 ^ 32).getD 1)),
          updatedAtUnixMs := env.now })

variable {x : Externals} {engines : SearchEngines} {env : Env} {s s' : Store} {server server' : Server} {event : Event}
  {id : Uuid} {session session' : WorkingSession}

theorem SessionStep.of_pruned (only : OnlyPruned env s s') :
    SessionStep x env s none none s'.workingMemory.sessions := by
  rcases only with rfl | rfl
  · exact .idle
  · exact .prune

theorem updateWorkingSummary_sessions {organizationId workspaceId : String} {principalId sessionId : Uuid} {content : String} :
    SessionStep x env s
      ((updateWorkingSummary x env organizationId workspaceId principalId sessionId content s).2.toOption.join.map
        fun _ => sessionId) none
      (updateWorkingSummary x env organizationId workspaceId principalId sessionId content s).1.workingMemory.sessions := by
  refine Program.Triple.outcome (fun outcome (s' : Store) => SessionStep x env s
    (outcome.toOption.join.map fun _ => sessionId) none s'.workingMemory.sessions) ?_
  refine updateWorkingSummary_spec.weaken ?_ fun _ _ only => .of_pruned only
  rintro result s' (⟨rfl, rfl⟩ | ⟨updated, rfl, session, version, live, rfl, small, bytes, rfl, rfl⟩)
  · exact .prune
  · exact .summarize principalId content live.found live.unexpired small bytes

theorem createWorkingSession_sessions {new : NewWorkingSession} :
    SessionStep x env s none (createWorkingSession env new s).2.toOption
      (createWorkingSession env new s).1.workingMemory.sessions := by
  refine Program.Triple.outcome (fun outcome (s' : Store) =>
    SessionStep x env s none outcome.toOption s'.workingMemory.sessions) ?_
  refine createWorkingSession_spec.weaken ?_ fun _ _ only => .of_pruned only
  rintro session s' ⟨ttlMs, _, rfl, positive, short, room, rfl⟩
  exact .create new ttlMs positive short room

theorem Step.sessionStep (taken : Step x engines server event server') :
    SessionStep x event.env server.store (event.summarizes x server.store) (event.opens server.store)
      server'.store.workingMemory.sessions := by
  rw [taken.next]
  show SessionStep x event.env server.store (event.summarizes x server.store) (event.opens server.store)
    (callStore x engines event.env event.op server.store).1.workingMemory.sessions
  have same {op : Op} (called : event.op = op) (frame : (callStore x engines event.env op server.store).1.workingMemory =
      server.store.workingMemory) : SessionStep x event.env server.store none none
        (callStore x engines event.env op server.store).1.workingMemory.sessions := by
    rw [frame]
    exact .idle
  have state {α : Type} {p : Call α} {Q : α → Store → Prop} {E : Failure → Store → Prop}
      (spec : Program.Triple p server.store Q E)
      (post : ∀ a s', Q a s' → SessionStep x event.env server.store none none s'.workingMemory.sessions)
      (error : ∀ e s', E e s' → SessionStep x event.env server.store none none s'.workingMemory.sessions) :
      SessionStep x event.env server.store none none (p server.store).1.workingMemory.sessions :=
    Program.Triple.state (fun s' : Store => SessionStep x event.env server.store none none s'.workingMemory.sessions)
      (spec.weaken post error)
  have promoted {memory : Memory} {new : NewMemory} {s' : Store}
      (created : createMemory x event.env new (pruned event.env server.store) = .ok (s', memory)) :
      SessionStep x event.env server.store none none s'.workingMemory.sessions := by
    rw [createMemory_workingMemory created]
    exact .prune
  unfold Event.summarizes Event.opens
  cases called : event.op with
  | ingestion call => exact same called (callIngestion_frames.of (g := Store.workingMemory) (fun _ => rfl) server.store)
  | projection call => exact same called (callProjection_frames.of (g := Store.workingMemory) (fun _ => rfl) server.store)
  | catalog call => exact same called (callCatalog_frames.of (g := Store.workingMemory) (fun _ => rfl) server.store)
  | blob call => exact same called (callBlob_frames.of (g := Store.workingMemory) (fun _ => rfl) server.store)
  | audit principal action resource => exact .idle
  | restart provider => exact .forget
  | knowledge call =>
    by_cases other : call.onSessions = false
    · have frame := same called (callKnowledge_workingMemory other server.store)
      cases call <;> first | exact frame | cases other
    cases call with
    | createWorkingSession new =>
      simp only [callStore, callKnowledge, Program.discard_state]
      exact createWorkingSession_sessions
    | getWorkingSession organizationId workspaceId principalId id =>
      simp only [callStore, callKnowledge, Program.discard_state]
      refine state getWorkingSession_spec ?_ fun _ _ only => .of_pruned only
      rintro result s' ⟨rfl, _⟩
      exact .prune
    | appendWorkingMemory organizationId workspaceId principalId sessionId new =>
      simp only [callStore, callKnowledge, Program.discard_state]
      refine state appendWorkingMemory_spec ?_ fun _ _ only => .of_pruned only
      rintro result s' (⟨_, rfl⟩ | ⟨entry, _, session, live, rfl, small, room, bytes, rfl⟩)
      · exact .prune
      · exact .append new live.found live.unexpired small room bytes
    | updateWorkingSummary organizationId workspaceId principalId sessionId content =>
      simp only [callStore, callKnowledge, Program.discard_state]
      exact updateWorkingSummary_sessions
    | promoteWorkingMemory organizationId workspaceId principalId sessionId entryId promotion =>
      simp only [callStore, callKnowledge, Program.discard_state]
      refine state promoteWorkingMemory_spec ?_ fun _ _ only => .of_pruned only
      rintro result s' (⟨_, rfl⟩ | ⟨memory, _, session, entry, _, _, created⟩)
      · exact .prune
      · exact promoted created
    | promoteWorkingMemoryWithLimits organizationId workspaceId principalId sessionId entryId promotion limits =>
      simp only [callStore, callKnowledge, Program.discard_state]
      refine state promoteWorkingMemoryWithLimits_spec ?_ fun _ _ only => .of_pruned only
      rintro result s' (⟨_, rfl⟩ | ⟨memory, _, session, entry, _, _, created⟩)
      · exact .prune
      · exact promoted created
    | _ => exact absurd rfl other

inductive WorkingSession.Origin (x : Externals) (event : Event) (s : Store) (id : Uuid) : WorkingSession → Prop where
  | kept {session : WorkingSession} (found : s.workingMemory.sessions[id]? = some session)
      (unsummarized : event.summarizes x s ≠ some id) : WorkingSession.Origin x event s id session
  | opened (new : NewWorkingSession) (ttlMs : Nat) (positive : 0 < ttlMs) (short : ttlMs ≤ maxWorkingSessionTtlMs)
      (opens : event.opens s = some (newWorkingSession event.env new ttlMs)) (named : event.env.uuid 0 = id) :
      WorkingSession.Origin x event s id (newWorkingSession event.env new ttlMs)
  | appended {session : WorkingSession} (new : NewWorkingMemoryEntry)
      (found : s.workingMemory.sessions[id]? = some session) (live : event.env.now < session.expiresAtUnixMs)
      (unsummarized : event.summarizes x s ≠ some id)
      (small : new.content.utf8ByteSize ≤ maxWorkingEntryBytes)
      (room : session.entries.length < maxWorkingEntriesPerSession)
      (bytes : sessionContentBytes session + new.content.utf8ByteSize ≤ maxWorkingSessionBytes) :
      WorkingSession.Origin x event s id
        { session with entries := session.entries ++ [newWorkingEntry x event.env new], updatedAtUnixMs := event.env.now }
  | summarized {session : WorkingSession} (principalId : Uuid) (content : String)
      (found : s.workingMemory.sessions[id]? = some session) (live : event.env.now < session.expiresAtUnixMs)
      (summarizes : event.summarizes x s = some id)
      (small : content.utf8ByteSize ≤ maxWorkingEntryBytes)
      (bytes : sessionContentBytes session - (session.summary.map fun summary => summary.content.utf8ByteSize).getD 0 +
        content.utf8ByteSize ≤ maxWorkingSessionBytes) :
      WorkingSession.Origin x event s id
        { session with
          summary := some (newSummary x event.env principalId content
            ((session.summary.map fun summary => (summary.version + 1) % 2 ^ 32).getD 1)),
          updatedAtUnixMs := event.env.now }

theorem Step.session_origin (taken : Step x engines server event server')
    (found' : server'.store.workingMemory.sessions[id]? = some session') : session'.Origin x event server.store id := by
  have step := taken.sessionStep
  generalize summarizes : event.summarizes x server.store = summarized at step
  generalize opens : event.opens server.store = opened at step
  generalize server'.store.workingMemory.sessions = sessions' at step found'
  have kept {target : Uuid} (written : summarized = some target ∨ summarized = none) (other : target ≠ id)
      (found : (pruned event.env server.store).workingMemory.sessions[id]? = some session') :
      session'.Origin x event server.store id := by
    refine .kept (find_pruned.mp found).1 ?_
    rw [summarizes]
    rcases written with rfl | rfl
    · exact fun same => other (Option.some.inj same)
    · exact nofun
  cases step with
  | idle => exact .kept found' (summarizes ▸ nofun)
  | prune => exact .kept (find_pruned.mp found').1 (summarizes ▸ nofun)
  | forget => simp at found'
  | create new ttlMs positive short =>
    rw [Table.find_insert] at found'
    by_cases same : event.env.uuid 0 = id
    · rw [if_pos same, Option.some.injEq] at found'
      rw [← found']
      exact .opened new ttlMs positive short opens same
    · rw [if_neg same] at found'
      exact kept (.inr rfl) same found'
  | @append target session new found live small room bytes =>
    rw [Table.find_insert] at found'
    by_cases same : target = id
    · subst same
      rw [if_pos rfl, Option.some.injEq] at found'
      rw [← found']
      exact .appended new found live (summarizes ▸ nofun) small room bytes
    · rw [if_neg same] at found'
      exact kept (.inr rfl) same found'
  | @summarize target session principalId content found live small bytes =>
    rw [Table.find_insert] at found'
    by_cases same : target = id
    · subst same
      rw [if_pos rfl, Option.some.injEq] at found'
      rw [← found']
      exact .summarized principalId content found live summarizes small bytes
    · rw [if_neg same] at found'
      exact kept (.inl rfl) same found'

structure WorkingSession.Bounded (x : Externals) (session : WorkingSession) : Prop where
  entries : session.entries.length ≤ maxWorkingEntriesPerSession
  entryBytes : ∀ entry ∈ session.entries, entry.content.utf8ByteSize ≤ maxWorkingEntryBytes
  summaryBytes : ∀ summary, session.summary = some summary → summary.content.utf8ByteSize ≤ maxWorkingEntryBytes
  total : sessionContentBytes session ≤ maxWorkingSessionBytes
  entryHashes : ∀ entry ∈ session.entries, entry.contentSha256 = x.sha256Text entry.content
  summaryHash : ∀ summary, session.summary = some summary → summary.contentSha256 = x.sha256Text summary.content

def WorkingSession.summaryVersion (session : WorkingSession) : Nat :=
  (session.summary.map WorkingSessionSummary.version).getD 0

/-- The bytes of the replaced summary are part of the content it is subtracted from. -/
theorem summaryBytes_le (session : WorkingSession) :
    (session.summary.map fun summary => summary.content.utf8ByteSize).getD 0 ≤ sessionContentBytes session :=
  Nat.le_add_left _ _

theorem WorkingSession.Origin.bounded (origin : session'.Origin x event s id)
    (before : ∀ session, s.workingMemory.sessions[id]? = some session → session.Bounded x) : session'.Bounded x := by
  cases origin with
  | kept found => exact before session' found
  | opened new ttlMs =>
    constructor <;> simp [newWorkingSession, sessionContentBytes, maxWorkingEntriesPerSession, maxWorkingSessionBytes]
  | @appended session new found _ _ small room bytes =>
    have bounded := before session found
    refine ⟨?_, ?_, bounded.summaryBytes, ?_, ?_, bounded.summaryHash⟩
    · rw [List.length_append]
      exact room
    · intro entry member
      rcases List.mem_append.mp member with earlier | last
      · exact bounded.entryBytes entry earlier
      · rw [List.mem_singleton.mp last]
        exact small
    · have total : sessionContentBytes { session with
          entries := session.entries ++ [newWorkingEntry x event.env new], updatedAtUnixMs := event.env.now } =
          sessionContentBytes session + new.content.utf8ByteSize := by
        simp [sessionContentBytes, newWorkingEntry]
        omega
      rw [total]
      exact bytes
    · intro entry member
      rcases List.mem_append.mp member with earlier | last
      · exact bounded.entryHashes entry earlier
      · rw [List.mem_singleton.mp last]
        rfl
  | @summarized session principalId content found _ _ small bytes =>
    have bounded := before session found
    refine ⟨bounded.entries, bounded.entryBytes, ?_, ?_, bounded.entryHashes, ?_⟩
    · rintro summary ⟨⟩
      exact small
    · show (session.entries.map fun entry => entry.content.utf8ByteSize).sum + content.utf8ByteSize ≤
        maxWorkingSessionBytes
      unfold sessionContentBytes at bytes
      omega
    · rintro summary ⟨⟩
      rfl

/-- The call of the run that opened a session fixed its expiry; the version of its summary counts, modulo `2 ^ 32`,
    the updates since then. -/
def WorkingSession.OpenedIn (x : Externals) (trace : List ((Server × Nat) × Event)) (id : Uuid)
    (session : WorkingSession) : Prop :=
  ∃ earlier p later opened, trace = earlier ++ p :: later ∧ p.2.opens p.1.1.store = some opened ∧ opened.id = id ∧
    session.createdAtUnixMs = p.2.env.now ∧ session.expiresAtUnixMs = opened.expiresAtUnixMs ∧
    opened.expiresAtUnixMs ≤ p.2.env.now + maxWorkingSessionTtlMs ∧
    session.summaryVersion = (later.countP fun q => q.2.summarizes x q.1.1.store == some id) % 2 ^ 32

theorem WorkingSession.OpenedIn.next {trace : List ((Server × Nat) × Event)} {p : (Server × Nat) × Event}
    (opened : session.OpenedIn x trace id) (created : session'.createdAtUnixMs = session.createdAtUnixMs)
    (expires : session'.expiresAtUnixMs = session.expiresAtUnixMs)
    (version : session'.summaryVersion = (session.summaryVersion +
      if p.2.summarizes x p.1.1.store = some id then 1 else 0) % 2 ^ 32) :
    session'.OpenedIn x (trace ++ [p]) id := by
  obtain ⟨earlier, first, later, born, split, opens, named, start, expiry, bound, count⟩ := opened
  refine ⟨earlier, first, later ++ [p], born, ?_, opens, named, created.trans start, expires.trans expiry, bound, ?_⟩
  · rw [split, List.append_assoc]
    rfl
  · rw [version, count, List.countP_append, List.countP_singleton, Nat.mod_add_mod]
    by_cases summarized : p.2.summarizes x p.1.1.store = some id
    · rw [if_pos summarized, if_pos (beq_iff_eq.mpr summarized)]
    · rw [if_neg summarized, if_neg (fun same => summarized (beq_iff_eq.mp same))]

theorem WorkingSession.OpenedIn.reduced {trace : List ((Server × Nat) × Event)} (opened : session.OpenedIn x trace id) :
    session.summaryVersion % 2 ^ 32 = session.summaryVersion := by
  obtain ⟨_, _, _, _, _, _, _, _, _, _, count⟩ := opened
  rw [count, Nat.mod_mod]

theorem summaryVersion_summarize {content : String} {principalId : Uuid} :
    WorkingSession.summaryVersion { session with
      summary := some (newSummary x env principalId content
        ((session.summary.map fun summary => (summary.version + 1) % 2 ^ 32).getD 1)),
      updatedAtUnixMs := env.now } = (session.summaryVersion + 1) % 2 ^ 32 := by
  unfold WorkingSession.summaryVersion
  cases session.summary with
  | none => rfl
  | some summary => rfl

structure SessionsBounded (x : Externals) (trace : List ((Server × Nat) × Event)) (server : Server) : Prop where
  capacity : server.store.workingMemory.sessions.size ≤ maxWorkingSessions
  bounded : ∀ (id : Uuid) session, server.store.workingMemory.sessions[id]? = some session → session.Bounded x
  opened : ∀ (id : Uuid) session, server.store.workingMemory.sessions[id]? = some session → session.OpenedIn x trace id

theorem SessionStep.capacity {summarized : Option Uuid} {opened : Option WorkingSession}
    {sessions : Table Uuid WorkingSession} (step : SessionStep x env s summarized opened sessions)
    (before : s.workingMemory.sessions.size ≤ maxWorkingSessions) : sessions.size ≤ maxWorkingSessions := by
  have pruning : (pruned env s).workingMemory.sessions.size ≤ s.workingMemory.sessions.size :=
    Std.ExtTreeMap.size_filter_le_size
  have rewritten {id : Uuid} {session session' : WorkingSession}
      (found : s.workingMemory.sessions[id]? = some session) (live : env.now < session.expiresAtUnixMs) :
      ((pruned env s).workingMemory.sessions.insert id session').size ≤ maxWorkingSessions := by
    have member : id ∈ (pruned env s).workingMemory.sessions := by
      rw [Std.ExtTreeMap.mem_iff_isSome_getElem?, find_pruned.mpr ⟨found, live⟩]
      rfl
    rw [Std.ExtTreeMap.size_insert, if_pos (Std.ExtTreeMap.mem_iff_contains.mp member)]
    omega
  cases step with
  | idle => exact before
  | prune => omega
  | forget => simp
  | create new ttlMs positive short room =>
    have grown := Std.ExtTreeMap.size_insert_le (t := (pruned env s).workingMemory.sessions) (k := env.uuid 0)
      (v := newWorkingSession env new ttlMs)
    omega
  | append new found live => exact rewritten found live
  | summarize principalId content found live => exact rewritten found live

theorem WorkingSession.Origin.openedIn {trace : List ((Server × Nat) × Event)} {now : Nat}
    (origin : session'.Origin x event server.store id)
    (before : ∀ session, server.store.workingMemory.sessions[id]? = some session → session.OpenedIn x trace id) :
    session'.OpenedIn x (trace ++ [((server, now), event)]) id := by
  cases origin with
  | kept found unsummarized =>
    have opened := before session' found
    apply opened.next rfl rfl
    rw [if_neg unsummarized, Nat.add_zero, opened.reduced]
  | opened new ttlMs positive short opens named =>
    refine ⟨trace, ((server, now), event), [], _, rfl, opens, named, rfl, rfl, ?_, rfl⟩
    exact Nat.add_le_add_left short _
  | @appended session new found _ unsummarized =>
    have opened := before session found
    refine opened.next ?_ ?_ ?_
    · rfl
    · rfl
    · rw [if_neg unsummarized, Nat.add_zero]
      exact opened.reduced.symm
  | @summarized session principalId content found _ summarizes =>
    have opened := before session found
    refine opened.next ?_ ?_ ?_
    · rfl
    · rfl
    · rw [if_pos summarizes]
      exact summaryVersion_summarize

theorem SessionsBounded.step {trace : List ((Server × Nat) × Event)} {now : Nat} (holds : SessionsBounded x trace server)
    (taken : Step x engines server event server') :
    SessionsBounded x (trace ++ [((server, now), event)]) server' where
  capacity := taken.sessionStep.capacity holds.capacity
  bounded id _ found' := (taken.session_origin found').bounded fun session found => holds.bounded id session found
  opened id _ found' := (taken.session_origin found').openedIn fun session found => holds.opened id session found

theorem sessionsBounded_run {provider : EmbeddingProvider} {trace : List ((Server × Nat) × Event)} {start : Nat}
    {state : Server × Nat} (run : Run (TimedStep x engines) (Server.initial provider, start) trace state) :
    SessionsBounded x trace state.1 := by
  induction run with
  | start => constructor <;> intros <;> simp_all [Server.initial, Store.empty]
  | @next trace state state' event _ taken holds => exact holds.step taken.1

/-- No call answers with this session or with anything of it. -/
structure Unavailable (x : Externals) (env : Env) (s : Store) (id : Uuid) : Prop where
  get : ∀ organizationId workspaceId principalId session,
    (getWorkingSession env organizationId workspaceId principalId id s).2 ≠ .ok (some session)
  append : ∀ organizationId workspaceId principalId new entry,
    (appendWorkingMemory x env organizationId workspaceId principalId id new s).2 ≠ .ok (some entry)
  summarize : ∀ organizationId workspaceId principalId content session,
    (updateWorkingSummary x env organizationId workspaceId principalId id content s).2 ≠ .ok (some session)
  promote : ∀ organizationId workspaceId principalId entryId promotion memory,
    (promoteWorkingMemory x env organizationId workspaceId principalId id entryId promotion s).2 ≠ .ok (some memory)
  promoteWithLimits : ∀ organizationId workspaceId principalId entryId promotion limits memory,
    (promoteWorkingMemoryWithLimits x env organizationId workspaceId principalId id entryId promotion limits s).2 ≠
      .ok (some memory)

theorem unavailable_of_expired (found : s.workingMemory.sessions[id]? = some session)
    (expired : session.expiresAtUnixMs ≤ env.now) : Unavailable x env s id := by
  have never {organizationId workspaceId : String} {principalId : Uuid} {session' : WorkingSession}
      (live : LiveSession env organizationId workspaceId principalId s id session') : False := by
    have same := live.found
    rw [found, Option.some.injEq] at same
    have later := live.unexpired
    rw [← same] at later
    omega
  constructor
  · intro organizationId workspaceId principalId session' answered
    have post := getWorkingSession_spec.ok (Program.run_of_result answered)
    exact never (post.2 session' rfl)
  · intro organizationId workspaceId principalId new entry answered
    rcases appendWorkingMemory_spec.ok (Program.run_of_result answered) with ⟨none, _⟩ | ⟨_, _, _, live, _⟩
    · cases none
    · exact never live
  · intro organizationId workspaceId principalId content session' answered
    rcases updateWorkingSummary_spec.ok (Program.run_of_result answered) with ⟨none, _⟩ | ⟨_, _, _, _, live, _⟩
    · cases none
    · exact never live
  · intro organizationId workspaceId principalId entryId promotion memory answered
    rcases promoteWorkingMemory_spec.ok (Program.run_of_result answered) with ⟨none, _⟩ | ⟨_, _, _, _, live, _⟩
    · cases none
    · exact never live
  · intro organizationId workspaceId principalId entryId promotion limits memory answered
    rcases promoteWorkingMemoryWithLimits_spec.ok (Program.run_of_result answered) with ⟨none, _⟩ | ⟨_, _, _, _, live, _⟩
    · cases none
    · exact never live

theorem Step.expired_session (taken : Step x engines server event server')
    (found : server.store.workingMemory.sessions[id]? = some session)
    (expired : session.expiresAtUnixMs ≤ event.env.now) :
    server'.store.workingMemory.sessions[id]? = none ∨ server'.store.workingMemory.sessions[id]? = some session := by
  cases found' : server'.store.workingMemory.sessions[id]? with
  | none => exact .inl rfl
  | some session' =>
    right
    have origin := taken.session_origin found'
    have now {stored : WorkingSession} (again : server.store.workingMemory.sessions[id]? = some stored)
        (live : event.env.now < stored.expiresAtUnixMs) : False := by
      rw [found, Option.some.injEq] at again
      rw [← again] at live
      omega
    cases origin with
    | kept stored => rw [← stored, found]
    | opened new ttlMs _ _ _ named =>
      have unused := taken.fresh.unused 0
      rw [named] at unused
      refine absurd ?_ unused
      have member : id ∈ server.store.workingMemory.sessions := by
        rw [Std.ExtTreeMap.mem_iff_isSome_getElem?, found]
        rfl
      simp [Server.Uses, member]
    | appended _ stored live => exact (now stored live).elim
    | summarized _ _ stored live => exact (now stored live).elim

theorem callKnowledge_failed {call : KnowledgeOp} {e : Failure} (onSessions : call.onSessions = true)
    (failed : (callKnowledge x engines env call s).2 = .error e) :
    OnlyPruned env s (callKnowledge x engines env call s).1 := by
  have bind {α : Type} {p : Call α} {Q : α → Store → Prop} (spec : Program.Triple p s Q fun _ => OnlyPruned env s) :
      Program.Triple (do let _ ← p : Call Unit) s (fun _ _ => True) fun _ => OnlyPruned env s :=
    spec.bind fun _ _ _ => Program.Triple.pure trivial
  have spec : Program.Triple (callKnowledge x engines env call) s (fun _ _ => True) fun _ => OnlyPruned env s := by
    cases call with
    | createWorkingSession new => exact bind createWorkingSession_spec
    | getWorkingSession organizationId workspaceId principalId id => exact bind getWorkingSession_spec
    | appendWorkingMemory organizationId workspaceId principalId sessionId new => exact bind appendWorkingMemory_spec
    | updateWorkingSummary organizationId workspaceId principalId sessionId content =>
      exact bind updateWorkingSummary_spec
    | promoteWorkingMemory organizationId workspaceId principalId sessionId entryId promotion =>
      exact bind promoteWorkingMemory_spec
    | promoteWorkingMemoryWithLimits organizationId workspaceId principalId sessionId entryId promotion limits =>
      exact bind promoteWorkingMemoryWithLimits_spec
    | _ => cases onSessions
  exact spec.error failed

/-- Working memory stays bounded over every run whose clock does not go back. -/
theorem working_memory_bounded {provider : EmbeddingProvider} {trace : List ((Server × Nat) × Event)} {start now : Nat}
    (run : Run (TimedStep x engines) (Server.initial provider, start) trace (server, now)) :
    SessionsBounded x trace server ∧
    (∀ session : WorkingSession,
      (session.summary.map fun summary => summary.content.utf8ByteSize).getD 0 ≤ sessionContentBytes session) ∧
    (∀ (env : Env) (id : Uuid) session, now ≤ env.now → server.store.workingMemory.sessions[id]? = some session →
      session.expiresAtUnixMs ≤ env.now → Unavailable x env server.store id) ∧
    (∀ (event : Event) (after : Server × Nat) (id : Uuid) session, TimedStep x engines (server, now) event after →
      server.store.workingMemory.sessions[id]? = some session → session.expiresAtUnixMs ≤ event.env.now →
      after.1.store.workingMemory.sessions[id]? = none ∨ after.1.store.workingMemory.sessions[id]? = some session) ∧
    (∀ (env : Env) (call : KnowledgeOp) (e : Failure), call.onSessions = true →
      (callKnowledge x engines env call server.store).2 = .error e →
      OnlyPruned env server.store (callKnowledge x engines env call server.store).1) := by
  refine ⟨sessionsBounded_run run, summaryBytes_le, ?_, ?_, ?_⟩
  · intro env id session _ found expired
    exact unavailable_of_expired found expired
  · intro event after id session taken found expired
    exact taken.1.expired_session found expired
  · intro env call e onSessions failed
    exact callKnowledge_failed onSessions failed

/-- A session whose summary has been replaced `n` times. -/
def busySession (n : Nat) : WorkingSession :=
  { newWorkingSession (serialEnv 0 0) ⟨"acme", "lab", Uuid.nil, none⟩ defaultWorkingSessionTtlMs with
    summary := if n = 0 then none else some (newSummary sample (serialEnv 0 1) Uuid.nil "alpha" (n % 2 ^ 32)) }

def busyStore (n : Nat) : Store :=
  { Store.empty .hashingV1 with workingMemory := ⟨Std.ExtTreeMap.insert ∅ (serialUuid 0) (busySession n)⟩ }

def busyServer (n : Nat) : Server := ⟨busyStore n, [], []⟩

def opening : Event := ⟨serialEnv 0 0, .knowledge (.createWorkingSession ⟨"acme", "lab", Uuid.nil, none⟩)⟩

def replacing : Event :=
  ⟨serialEnv 0 1, .knowledge (.updateWorkingSummary "acme" "lab" Uuid.nil (serialUuid 0) "alpha")⟩

theorem find_busy {n : Nat} {id : Uuid} {session : WorkingSession} :
    (busyStore n).workingMemory.sessions[id]? = some session ↔ serialUuid 0 = id ∧ busySession n = session := by
  show (Std.ExtTreeMap.insert ∅ (serialUuid 0) (busySession n) : Table Uuid WorkingSession)[id]? = some session ↔ _
  rw [Table.find_insert]
  by_cases same : serialUuid 0 = id
  · simp [same]
  · simp [same]

theorem pruned_busy {n : Nat} : pruned (serialEnv 0 1) (busyStore n) = busyStore n := by
  have sessions : ((busyStore n).workingMemory.sessions.filter fun _ session =>
      decide (session.expiresAtUnixMs > (serialEnv 0 1).now)) = (busyStore n).workingMemory.sessions := by
    apply Table.ext_find
    intro id
    apply Option.ext
    intro session
    rw [Table.find_filter_eq_some, decide_eq_true_eq, find_busy]
    refine ⟨fun found => found.1, fun found => ⟨found, ?_⟩⟩
    rw [← found.2]
    show 0 < 0 + defaultWorkingSessionTtlMs
    decide
  unfold pruned
  rw [sessions]

theorem busySession_version {n : Nat} :
    ((busySession n).summary.map fun summary => (summary.version + 1) % 2 ^ 32).getD 1 = (n + 1) % 2 ^ 32 := by
  unfold busySession
  by_cases first : n = 0
  · simp [first]
  · simp [first, newSummary]

theorem writeSession_busy {n : Nat} :
    (busyStore n).writeSession (busySession (n + 1)) (serialUuid 0) = busyStore (n + 1) := by
  have sessions : (busyStore n).workingMemory.sessions.insert (serialUuid 0) (busySession (n + 1)) =
      (busyStore (n + 1)).workingMemory.sessions := by
    apply Table.ext_find
    intro id
    apply Option.ext
    intro session
    rw [Table.find_insert, find_busy]
    by_cases same : serialUuid 0 = id
    · simp [same]
    · rw [if_neg same, find_busy]
      simp [same]
  unfold Store.writeSession
  rw [sessions]
  rfl

theorem replacing_busy {n : Nat} :
    updateWorkingSummary sample (serialEnv 0 1) "acme" "lab" Uuid.nil (serialUuid 0) "alpha" (busyStore n) =
      (busyStore (n + 1), .ok (some (busySession (n + 1)))) := by
  have passed {condition : Prop} [Decidable condition] {message : String} {s : Store} (holds : condition) :
      Program.query (fun _ => check condition message) s = (s, .ok ()) :=
    Prod.ext rfl (ensure_eq_ok.mpr holds)
  have stored : (busyStore n).workingMemory.sessions[serialUuid 0]? = some (busySession n) := find_busy.mpr ⟨rfl, rfl⟩
  have owned : ensureSessionOwner "acme" "lab" Uuid.nil (busySession n) = .ok () := by
    rw [ensureSessionOwner_ok]
    show (("acme" == "acme" && "lab" == "lab") && Uuid.nil == Uuid.nil) = true
    decide
  have small : sessionContentBytes (busySession n) -
      ((busySession n).summary.map fun summary => summary.content.utf8ByteSize).getD 0 + "alpha".utf8ByteSize ≤
      maxWorkingSessionBytes := by
    show 0 + _ - _ + 5 ≤ 65536
    omega
  unfold updateWorkingSummary
  rw [Program.bind_run (passed (by decide)), Program.bind_run (passed (by decide)),
    Program.bind_run pruneExpiredWorkingSessions_eq, pruned_busy]
  unfold Program.transaction
  simp only [stored, owned, busySession_version, check, ensure, small, if_true]
  rw [← writeSession_busy]
  rfl

theorem opening_busy : createWorkingSession (serialEnv 0 0) ⟨"acme", "lab", Uuid.nil, none⟩ (Store.empty .hashingV1) =
    (busyStore 0, .ok (busySession 0)) := by
  rfl

theorem opening_taken : TimedStep sample noHits (Server.initial .hashingV1, 0) opening (busyServer 0, 0) := by
  have store : (Server.initial .hashingV1).next sample noHits opening = busyServer 0 := by
    have called : (callStore sample noHits opening.env opening.op (Store.empty .hashingV1)).1 = busyStore 0 := by
      simp only [opening, callStore, callKnowledge, Program.discard_state, opening_busy]
    show (⟨(callStore sample noHits opening.env opening.op (Store.empty .hashingV1)).1, [], []⟩ : Server) = _
    rw [called]
    rfl
  have serial : (Server.initial .hashingV1).Serial 0 := by decide +kernel
  exact ⟨⟨serial.fresh, trivial, store.symm⟩, Nat.le_refl 0, rfl⟩

theorem replacing_taken {n : Nat} : TimedStep sample noHits (busyServer n, 0) replacing (busyServer (n + 1), 0) := by
  have store : (busyServer n).next sample noHits replacing = busyServer (n + 1) := by
    have called : (callStore sample noHits replacing.env replacing.op (busyStore n)).1 = busyStore (n + 1) := by
      simp only [replacing, callStore, callKnowledge, Program.discard_state, replacing_busy]
    show (⟨(callStore sample noHits replacing.env replacing.op (busyStore n)).1, [], []⟩ : Server) = _
    rw [called]
    rfl
  have serial : (busyServer n).Serial 1 := by
    have ids : (busyServer n).ids = [serialUuid 0] := rfl
    intro id used
    rw [ids, List.mem_singleton] at used
    rw [used]
    decide
  exact ⟨⟨serial.fresh, trivial, store.symm⟩, Nat.le_refl 0, rfl⟩

theorem replacing_summarizes {n : Nat} : replacing.summarizes sample (busyStore n) = some (serialUuid 0) := by
  show (updateWorkingSummary sample (serialEnv 0 1) "acme" "lab" Uuid.nil (serialUuid 0) "alpha"
    (busyStore n)).2.toOption.join.map (fun _ => serialUuid 0) = _
  rw [replacing_busy]
  rfl

theorem busy_run (n : Nat) : ∃ trace, Run (TimedStep sample noHits) (Server.initial .hashingV1, 0) trace (busyServer n, 0) ∧
    (trace.countP fun p => p.2.summarizes sample p.1.1.store == some (serialUuid 0)) = n := by
  induction n with
  | zero => exact ⟨_, .single opening_taken, by decide +kernel⟩
  | succ n ih =>
    obtain ⟨trace, run, count⟩ := ih
    refine ⟨_, run.next replacing_taken, ?_⟩
    rw [List.countP_append, count, List.countP_singleton]
    have counted : (replacing.summarizes sample (busyServer n).store == some (serialUuid 0)) = true :=
      beq_iff_eq.mpr replacing_summarizes
    rw [if_pos counted]

/-- After `2 ^ 32` updates the version of the summary is 0. -/
theorem summary_version_wraps : ∃ (trace : List ((Server × Nat) × Event)) (state : Server × Nat) (session : WorkingSession),
    Run (TimedStep sample noHits) (Server.initial .hashingV1, 0) trace state ∧
    state.1.store.workingMemory.sessions[serialUuid 0]? = some session ∧
    (trace.countP fun p => p.2.summarizes sample p.1.1.store == some (serialUuid 0)) = 2 ^ 32 ∧
    session.summaryVersion = 0 := by
  obtain ⟨trace, run, count⟩ := busy_run (2 ^ 32)
  exact ⟨trace, _, busySession (2 ^ 32), run, find_busy.mpr ⟨rfl, rfl⟩, count, rfl⟩

/-- The session is open with its summary, and gone half an hour later. -/
theorem working_memory_bounded_busy :
    SessionsBounded sample [((Server.initial .hashingV1, 0), opening), ((busyServer 0, 0), replacing)] (busyServer 1) ∧
    (busyStore 1).workingMemory.sessions[serialUuid 0]? = some (busySession 1) ∧
    Unavailable sample (serialEnv defaultWorkingSessionTtlMs 2) (busyStore 1) (serialUuid 0) := by
  have found : (busyStore 1).workingMemory.sessions[serialUuid 0]? = some (busySession 1) := find_busy.mpr ⟨rfl, rfl⟩
  obtain ⟨bounded, _, unavailable, _, _⟩ := working_memory_bounded ((Run.single opening_taken).next replacing_taken)
  exact ⟨bounded, found, unavailable _ _ _ (Nat.zero_le _) found (by decide)⟩

end Hangar
