import Hangar.Projection.Coverage

namespace Hangar

open Lib

section
variable {x : Externals} {engines : SearchEngines} {workspaces : Set (String × String)} {minted : List (Uuid × Uuid)}
  {s : Store} {organizationId workspaceId : String} {chunk chunk' : DocumentChunk} {k : Nat}

def vectorKey (organizationId workspaceId : String) (s : Store) (chunk : DocumentChunk) : Option Nat := do
  let manifest ← s.projection.vectorManifests[chunk.id]?
  if readyVectorManifest organizationId workspaceId s manifest then some manifest.annKey else none

theorem vectorScore_eq {candidates : ChunkCandidates} : vectorScore organizationId workspaceId candidates s chunk =
    (vectorKey organizationId workspaceId s chunk).bind fun k => candidates.vector[k]? := by
  unfold vectorScore vectorKey
  cases s.projection.vectorManifests[chunk.id]? with
  | none => rfl
  | some manifest =>
    simp only [Option.bind_eq_bind, Option.bind_some]
    split
    · rfl
    · rfl

theorem vectorKey_eq_some : vectorKey organizationId workspaceId s chunk = some k ↔
    ∃ manifest, s.projection.vectorManifests[chunk.id]? = some manifest ∧
      readyVectorManifest organizationId workspaceId s manifest = true ∧ manifest.annKey = k := by
  unfold vectorKey
  rw [Option.bind_eq_bind, Option.bind_eq_some_iff]
  simp only [Option.ite_none_right_eq_some, Option.some.injEq]

theorem AnnIntegrity.vectorKey_injective (valid : AnnIntegrity x s.projection)
    (left : vectorKey organizationId workspaceId s chunk = some k)
    (right : vectorKey organizationId workspaceId s chunk' = some k) : chunk.id = chunk'.id := by
  obtain ⟨manifest, found, ready, key⟩ := vectorKey_eq_some.mp left
  obtain ⟨manifest', found', ready', key'⟩ := vectorKey_eq_some.mp right
  obtain ⟨organization, workspace, _⟩ := readyVectorManifest_scope ready
  obtain ⟨organization', workspace', _⟩ := readyVectorManifest_scope ready'
  have scope : annScope x manifest = annScope x manifest' := by
    rw [annScope, annScope, organization, workspace, organization', workspace']
  exact valid.distinct found found' scope (key.trans key'.symm)

theorem chunkCandidates_vector {query : String} {limit : Nat} {candidates : ChunkCandidates}
    (run : chunkCandidates x engines organizationId workspaceId query limit s = .ok candidates) :
    ∃ embedding hits, embed x s query = .ok embedding ∧ searchVector x engines organizationId workspaceId
      s.embeddingProvider.profile embedding (candidateLimit limit) s = .ok hits ∧
      candidates.vector = Table.insertAll ∅ (hits.map fun hit => (hit.1, max (1 - hit.2) 0)) := by
  unfold chunkCandidates at run
  dsimp only at run
  split at run
  all_goals
    obtain ⟨_, _, run⟩ := bind_eq_ok.mp run
    obtain ⟨embedding, embedded, run⟩ := bind_eq_ok.mp run
    obtain ⟨hits, searched, run⟩ := bind_eq_ok.mp run
    cases run
    exact ⟨embedding, hits, embedded, searched, rfl⟩

/-- Where a result's vector score comes from. -/
theorem retrieveChunks_hit (records : IngestionIntegrity x s.ingestion) {query : String} {limit : Nat} {results : List RetrievedChunk}
    (run : retrieveChunks x engines organizationId workspaceId query limit s = .ok results) {result : RetrievedChunk}
    (member : result ∈ results) {score : ℚ} (scored : result.vectorScore = some score) :
    ∃ (key : Uuid × Nat) (chunk : DocumentChunk) (embedding : List ℚ) (hits : List (Nat × ℚ)) (k : Nat)
      (distance : ℚ), s.projection.chunks[key]? = some chunk ∧ result.documentId = chunk.documentId ∧
      result.ordinal = chunk.ordinal ∧ result.content = chunk.content ∧ vectorKey organizationId workspaceId s chunk = some k ∧
      embed x s query = .ok embedding ∧ searchVector x engines organizationId workspaceId
        s.embeddingProvider.profile embedding (candidateLimit limit) s = .ok hits ∧
      (k, distance) ∈ hits ∧ score = max (1 - distance) 0 := by
  obtain ⟨_, _, run⟩ := bind_eq_ok.mp run
  obtain ⟨candidates, collected, run⟩ := bind_eq_ok.mp run
  cases run
  have listed := (List.mem_insertionSort _).mp (List.mem_of_mem_take member)
  obtain ⟨unscored, unscoredListed, rfl⟩ := List.mem_map.mp listed
  obtain ⟨chunk, row, retrieved⟩ := List.mem_filterMap.mp unscoredListed
  obtain ⟨key, chunkFound⟩ := Table.mem_rows.mp row
  obtain ⟨embedding, hits, embedded, searched, candidatesFound⟩ := chunkCandidates_vector collected
  unfold retrievedChunk at retrieved
  obtain ⟨document, documentFound, retrieved⟩ := Option.bind_eq_some_iff.mp retrieved
  have named := records.documentId documentFound
  split at retrieved
  · dsimp only at retrieved
    split at retrieved
    · cases retrieved
      have scored : vectorScore organizationId workspaceId candidates s chunk = some score := scored
      rw [vectorScore_eq] at scored
      obtain ⟨k, own, hit⟩ := Option.bind_eq_some_iff.mp scored
      rw [candidatesFound] at hit
      rcases Table.find_insertAll hit with listed | ⟨_, absent⟩
      · obtain ⟨⟨k', distance⟩, found, same⟩ := List.mem_map.mp listed
        obtain ⟨rfl, rfl⟩ := Prod.mk.inj same
        exact ⟨key, chunk, embedding, hits, k', distance, chunkFound, named, rfl, rfl, own, embedded, searched, found,
          rfl⟩
      · simp at absent
    · cases retrieved
  · cases retrieved

/-- A vector score is of the only chunk that the hit's key names, and the vector stored under that key is the
    chunk's embedding. -/
def RetrievedChunk.Attributed (x : Externals) (engines : SearchEngines) (s : Store)
    (organizationId workspaceId query : String) (limit : Nat) (result : RetrievedChunk) : Prop :=
  ∀ score, result.vectorScore = some score → ∃ (id : Uuid) (chunk : DocumentChunk) (embedding : List ℚ)
    (hits : List (Nat × ℚ)) (k : Nat) (distance : ℚ) (entries : List (Nat × List ℚ)) (vector : List ℚ),
    s.StoresChunk id chunk ∧ result.documentId = chunk.documentId ∧ result.ordinal = chunk.ordinal ∧
    result.content = chunk.content ∧ embed x s query = .ok embedding ∧ searchVector x engines organizationId workspaceId
      s.embeddingProvider.profile embedding (candidateLimit limit) s = .ok hits ∧
    (k, distance) ∈ hits ∧ score = max (1 - distance) 0 ∧
    s.projection.vectorChunks[((vectorScopeKey x organizationId workspaceId).text, k)]? = some id ∧
    (∀ id' other, s.StoresChunk id' other → vectorKey organizationId workspaceId s other = some k → id' = id) ∧
    s.index.vectors[indexPath x organizationId workspaceId s.embeddingProvider.profile]? = some entries ∧
    (entries.map Prod.fst).Nodup ∧ (k, vector) ∈ entries ∧ x.embed s.embeddingProvider chunk.content = .ok vector

theorem Searchable.attributed (valid : Searchable x workspaces minted s) {query : String} {limit : Nat}
    {results : List RetrievedChunk}
    (run : retrieveChunks x engines organizationId workspaceId query limit s = .ok results) {result : RetrievedChunk}
    (member : result ∈ results) : result.Attributed x engines s organizationId workspaceId query limit := by
  intro score scored
  obtain ⟨key, chunk, embedding, hits, k, distance, chunkFound, document, ordinal, content, own, embedded, searched, hit,
    same⟩ := retrieveChunks_hit valid.canonical.records run member scored
  have stored : s.StoresChunk chunk.id chunk := ⟨rfl, key, chunkFound⟩
  obtain ⟨manifest, found, ready, annKey⟩ := vectorKey_eq_some.mp own
  obtain ⟨organization, workspace, state, matched, _⟩ := readyVectorManifest_scope ready
  subst organization workspace
  obtain ⟨chunk', entries, vector, stored', file, embedding', distinct, listed⟩ := valid.vector_covered found state matched
  have same' := valid.canonical.output.storesChunk_unique stored' stored
  subst same'
  have mapped := valid.canonical.keys.mapped chunk'.id manifest found
  rw [annKey] at mapped listed
  refine ⟨chunk'.id, chunk', embedding, hits, k, distance, entries, vector, stored, document, ordinal, content, embedded,
    searched, hit, same, mapped, ?_, file, distinct, listed, embedding'⟩
  intro id' other otherStored otherKey
  rw [← otherStored.1]
  exact valid.canonical.keys.vectorKey_injective otherKey own

/-- Keys name chunks: each workspace gives a key once, from below its counter, the checks for keys given twice
    never fire, and a hit counts for the chunk whose embedding is under its key. -/
structure Store.KeysIdentify (x : Externals) (s : Store) : Prop where
  distinct : ∀ (id id' : Uuid) (manifest manifest' : VectorManifest), s.projection.vectorManifests[id]? = some manifest →
    s.projection.vectorManifests[id']? = some manifest' → manifest.organizationId = manifest'.organizationId →
    manifest.workspaceId = manifest'.workspaceId → manifest.annKey = manifest'.annKey → id = id'
  below : ∀ (id : Uuid) (manifest : VectorManifest), s.projection.vectorManifests[id]? = some manifest →
    ∃ next, s.projection.vectorNextKeys[(vectorScopeKey x manifest.organizationId manifest.workspaceId).text]? =
      some next ∧ manifest.annKey < next
  mapped : ∀ (id : Uuid) (manifest : VectorManifest), s.projection.vectorManifests[id]? = some manifest →
    s.projection.vectorChunks[((vectorScopeKey x manifest.organizationId manifest.workspaceId).text,
      manifest.annKey)]? = some manifest.chunkId
  checks : ∀ (env : Env) (fault : Option Fault) (claimed : ClaimedIngestionJob), Function.Injective env.uuid →
    Avoids (Failure.Among annKeyMessages) (processClaimedIngestionJob x env fault claimed s).2
  entries : ∀ organizationId workspaceId, readyVectorEntries x organizationId workspaceId s =
    (readyVectors x organizationId workspaceId s).mapM (vectorEntry x s)
  hits : ∀ engines organizationId workspaceId query limit results,
    retrieveChunks x engines organizationId workspaceId query limit s = .ok results → ∀ result ∈ results,
      result.Attributed x engines s organizationId workspaceId query limit

theorem Searchable.keysIdentify (valid : Searchable x workspaces minted s) : s.KeysIdentify x where
  distinct := by
    intro id id' manifest manifest' found found' organization workspace key
    have scope : annScope x manifest = annScope x manifest' := by rw [annScope, annScope, organization, workspace]
    exact valid.canonical.keys.distinct found found' scope key
  below := fun _ _ found => valid.canonical.keys.below found
  mapped := by
    intro id manifest found
    rw [valid.canonical.keys.named id manifest found]
    exact valid.canonical.keys.mapped id manifest found
  checks := fun _ _ _ distinct => processClaimedIngestionJob_keys valid.canonical.keys distinct
  entries := fun _ _ => valid.canonical.keys.readyVectorEntries_eq
  hits := fun _ _ _ _ _ _ run _ member => valid.attributed run member

/-- At the end of every run ANN keys identify chunks. -/
theorem annKeys_identify_chunks {provider : EmbeddingProvider} {trace : List (Server × Event)} {server : Server}
    (run : Run (Step x engines) (Server.initial provider) trace server)
    (files : SeparateFiles x (namedWorkspaces trace)) : server.store.KeysIdentify x :=
  (run_searchable run files).keysIdentify

end

/-- An exact search among unit vectors; no text search. -/
def nearest : SearchEngines where
  text _ _ _ := .ok []
  vector entries query limit := .ok (((entries.map fun entry =>
    (entry.1, 1 - (entry.2.zipWith (fun a b => a * b) query).sum)).insertionSort fun left right =>
      left.2 ≤ right.2).take limit)

def twinDocument (content : String) : NewDocument := sampleDocument "acme" "lab" content none

def twinCalls : List (Nat × Op) :=
  [(1, .ingestion (.enqueueDocument (twinDocument "alpha"))), (2, .ingestion .claimNextIngestionJob),
    (3, .ingestion (.processClaimedIngestionJob
      ⟨(newJob sample (serialEnv 1 0) (twinDocument "alpha")).lease (serialEnv 2 16), "alpha"⟩ none)),
    (4, .ingestion (.enqueueDocument (twinDocument "beta"))), (5, .ingestion .claimNextIngestionJob),
    (6, .ingestion (.processClaimedIngestionJob
      ⟨(newJob sample (serialEnv 4 48) (twinDocument "beta")).lease (serialEnv 5 64), "beta"⟩ none))]

def twinServer : Server := freshRun sample nearest twinCalls

theorem annKeys_identify_chunks_twins :
    (Table.rows twinServer.store.projection.vectorManifests).map VectorManifest.annKey = [1, 2] ∧
    (retrieveChunks sample nearest "acme" "lab" "alpha" 2 twinServer.store).toOption.map (fun results =>
      results.map fun result => (result.content, result.vectorScore)) =
        some [("alpha", some 1), ("beta", some 0)] ∧
    twinServer.store.KeysIdentify sample := by
  have facts : SerialLegal sample nearest (Server.initial .hashingV1) 0 twinCalls ∧
      (Table.rows twinServer.store.projection.vectorManifests).map VectorManifest.annKey = [1, 2] ∧
      (retrieveChunks sample nearest "acme" "lab" "alpha" 2 twinServer.store).toOption.map (fun results =>
        results.map fun result => (result.content, result.vectorScore)) =
          some [("alpha", some 1), ("beta", some 0)] := by decide +kernel
  obtain ⟨legal, keys, retrieved⟩ := facts
  have apart := @serialTrace_apart sample nearest (Server.initial .hashingV1) 0 twinCalls (by decide +kernel)
  exact ⟨keys, retrieved, annKeys_identify_chunks (serialRun_run legal)
    (separateFiles_of_apart sample_injective apart)⟩

end Hangar
