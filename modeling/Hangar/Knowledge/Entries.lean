import Hangar.Knowledge.SessionCalls
import Hangar.Reachability

namespace Hangar

open Lib

variable {x : Externals} {engines : SearchEngines} {env : Env} {s s' : Store} {op : Op}

def WorkingMemoryStore.Hashed (x : Externals) (w : WorkingMemoryStore) : Prop :=
  ∀ (id : Uuid) (session : WorkingSession), w.sessions[id]? = some session →
    ∀ entry ∈ session.entries, entry.contentSha256 = x.sha256Text entry.content

theorem WorkingMemoryStore.Hashed.write {w : WorkingMemoryStore} (hashed : w.Hashed x) {key : Uuid}
    {session : WorkingSession} (entries : ∀ entry ∈ session.entries, entry.contentSha256 = x.sha256Text entry.content) :
    WorkingMemoryStore.Hashed x { w with sessions := w.sessions.insert key session } := by
  intro id stored found
  rw [Table.find_insert] at found
  by_cases same : key = id
  · rw [if_pos same, Option.some.injEq] at found
    rw [← found]
    exact entries
  · rw [if_neg same] at found
    exact hashed id stored found

def KeepsHashes (x : Externals) {α : Type} (p : Call α) : Prop :=
  ∀ s, s.workingMemory.Hashed x → Program.Triple p s (fun _ s' => s'.workingMemory.Hashed x)
    (fun _ s' => s'.workingMemory.Hashed x)

section
variable {α β : Type} {p : Call α}

theorem KeepsHashes.bind {f : α → Call β} (first : KeepsHashes x p) (rest : ∀ a, KeepsHashes x (f a)) :
    KeepsHashes x (p >>= f) :=
  fun s hashed => (first s hashed).bind fun a s' kept => rest a s' kept

theorem KeepsHashes.pure {a : α} : KeepsHashes x (Pure.pure a : Call α) := fun _ hashed => Program.Triple.pure hashed

theorem KeepsHashes.query {f : Store → Result α} : KeepsHashes x (Program.query f) :=
  fun _ hashed => Program.Triple.query (fun _ _ => hashed) fun _ _ => hashed

theorem KeepsHashes.transaction {f : Store → Result (Store × α)}
    (kept : ∀ s s' a, f s = .ok (s', a) → s.workingMemory.Hashed x → s'.workingMemory.Hashed x) :
    KeepsHashes x (Program.transaction f) :=
  fun s hashed => Program.Triple.transaction (fun a s' run => kept s s' a run hashed) fun _ _ => hashed

end

theorem pruneExpiredWorkingSessions_hashes : KeepsHashes x (pruneExpiredWorkingSessions env) := by
  intro s hashed
  apply Program.Triple.update
  intro id session found
  exact hashed id session (Table.find_filter_eq_some.mp found).1

section
variable {organizationId workspaceId : String} {principalId sessionId entryId : Uuid} {promotion : Promotion}

theorem createWorkingSession_hashes {new : NewWorkingSession} : KeepsHashes x (createWorkingSession env new) := by
  apply KeepsHashes.query.bind
  intro _
  apply pruneExpiredWorkingSessions_hashes.bind
  intro _
  apply KeepsHashes.transaction
  intro s s' session run hashed
  obtain ⟨_, _, run⟩ := bind_eq_ok.mp run
  obtain ⟨_, _, run⟩ := bind_eq_ok.mp run
  obtain ⟨_, _, run⟩ := bind_eq_ok.mp run
  cases run
  apply hashed.write
  simp [newWorkingSession]

theorem appendWorkingMemory_hashes {new : NewWorkingMemoryEntry} :
    KeepsHashes x (appendWorkingMemory x env organizationId workspaceId principalId sessionId new) := by
  apply KeepsHashes.query.bind
  intro _
  apply KeepsHashes.query.bind
  intro _
  apply pruneExpiredWorkingSessions_hashes.bind
  intro _
  apply KeepsHashes.transaction
  intro s s' entry run hashed
  cases stored : s.workingMemory.sessions[sessionId]? with
  | none =>
    simp only [stored] at run
    cases run
    exact hashed
  | some session =>
    simp only [stored] at run
    obtain ⟨_, _, run⟩ := bind_eq_ok.mp run
    obtain ⟨_, _, run⟩ := bind_eq_ok.mp run
    obtain ⟨_, _, run⟩ := bind_eq_ok.mp run
    cases run
    apply hashed.write
    intro entry member
    rcases List.mem_append.mp member with earlier | last
    · exact hashed sessionId session stored entry earlier
    · rw [List.mem_singleton.mp last]
      rfl

theorem updateWorkingSummary_hashes {content : String} :
    KeepsHashes x (updateWorkingSummary x env organizationId workspaceId principalId sessionId content) := by
  apply KeepsHashes.query.bind
  intro _
  apply KeepsHashes.query.bind
  intro _
  apply pruneExpiredWorkingSessions_hashes.bind
  intro _
  apply KeepsHashes.transaction
  intro s s' result run hashed
  cases stored : s.workingMemory.sessions[sessionId]? with
  | none =>
    simp only [stored] at run
    cases run
    exact hashed
  | some session =>
    simp only [stored] at run
    obtain ⟨_, _, run⟩ := bind_eq_ok.mp run
    obtain ⟨_, _, run⟩ := bind_eq_ok.mp run
    cases run
    apply hashed.write
    exact hashed sessionId session stored

theorem promoteWorkingMemory_hashes : KeepsHashes x
    (promoteWorkingMemory x env organizationId workspaceId principalId sessionId entryId promotion) := by
  apply pruneExpiredWorkingSessions_hashes.bind
  intro _
  apply KeepsHashes.transaction
  intro s s' result run hashed
  cases stored : s.workingMemory.sessions[sessionId]? with
  | none =>
    simp only [stored] at run
    cases run
    exact hashed
  | some session =>
    simp only [stored] at run
    obtain ⟨_, _, run⟩ := bind_eq_ok.mp run
    obtain ⟨entry, _, run⟩ := bind_eq_ok.mp run
    obtain ⟨⟨s₂, memory⟩, created, run⟩ := bind_eq_ok.mp run
    cases run
    rw [createMemory_workingMemory created]
    exact hashed

end

theorem callKnowledge_hashes {call : KnowledgeOp} : KeepsHashes x (callKnowledge x engines env call) := by
  by_cases other : call.onSessions = false
  · intro s hashed
    refine Program.Triple.of_state (I := fun s' : Store => s'.workingMemory.Hashed x) ?_
    rw [callKnowledge_workingMemory other s]
    exact hashed
  cases call with
  | createWorkingSession new => exact createWorkingSession_hashes.bind fun _ => KeepsHashes.pure
  | getWorkingSession organizationId workspaceId principalId id =>
    exact (pruneExpiredWorkingSessions_hashes.bind fun _ => KeepsHashes.query).bind fun _ => KeepsHashes.pure
  | appendWorkingMemory organizationId workspaceId principalId sessionId new =>
    exact appendWorkingMemory_hashes.bind fun _ => KeepsHashes.pure
  | updateWorkingSummary organizationId workspaceId principalId sessionId content =>
    exact updateWorkingSummary_hashes.bind fun _ => KeepsHashes.pure
  | promoteWorkingMemory organizationId workspaceId principalId sessionId entryId promotion =>
    exact promoteWorkingMemory_hashes.bind fun _ => KeepsHashes.pure
  | promoteWorkingMemoryWithLimits organizationId workspaceId principalId sessionId entryId promotion limits =>
    apply KeepsHashes.bind _ fun _ => KeepsHashes.pure
    apply pruneExpiredWorkingSessions_hashes.bind
    intro _
    apply KeepsHashes.query.bind
    intro contentBytes
    cases contentBytes with
    | none => exact KeepsHashes.pure
    | some contentBytes => exact KeepsHashes.query.bind fun _ => promoteWorkingMemory_hashes
  | _ => exact absurd rfl other

theorem callStore_hashes (hashed : s.workingMemory.Hashed x) :
    (callStore x engines env op s).1.workingMemory.Hashed x := by
  have kept {p : Call Unit} (keeps : KeepsHashes x p) : (p s).1.workingMemory.Hashed x :=
    Program.Triple.state (fun s' : Store => s'.workingMemory.Hashed x) (keeps s hashed)
  have frame {γ : Type} {part : Store → γ} {p : Call Unit} (frames : Program.Frames part p) {g : γ → WorkingMemoryStore}
      (through : ∀ s, s.workingMemory = g (part s)) : (p s).1.workingMemory.Hashed x := by
    have same : (p s).1.workingMemory = s.workingMemory := by
      rw [through, through, frames s]
    rw [same]
    exact hashed
  cases op with
  | ingestion call => exact frame callIngestion_frames (g := Store.workingMemory) fun _ => rfl
  | projection call => exact frame callProjection_frames (g := Store.workingMemory) fun _ => rfl
  | knowledge call => exact kept callKnowledge_hashes
  | catalog call => exact frame callCatalog_frames (g := Store.workingMemory) fun _ => rfl
  | blob call => exact frame callBlob_frames (g := Store.workingMemory) fun _ => rfl
  | audit principal action resource => exact hashed
  | restart provider =>
    intro id session found
    simp [callStore, Program.update] at found

theorem Reachable.hashed {server : Server} (reachable : Reachable x engines server) :
    server.store.workingMemory.Hashed x := by
  obtain ⟨provider, reached⟩ := reachable
  apply reached.preserves (I := fun server => server.store.workingMemory.Hashed x)
  · intro id session found
    simp [Server.initial, Store.empty] at found
  · intro server event server' hashed taken
    rw [taken.next]
    exact callStore_hashes hashed

end Hangar
