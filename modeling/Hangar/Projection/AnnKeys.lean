import Hangar.Ingestion.Failures
import Hangar.Projection.AllOrNothing

namespace Hangar

open Lib

theorem skipUsedKeys_ahead {used : List Nat} {next : Nat} (ahead : ∀ k ∈ used, k < next) (fuel : Nat) :
    skipUsedKeys used fuel next = .ok next := by
  have unused : used.contains next = false := by
    rw [Bool.eq_false_iff]
    intro member
    have behind := ahead next (by simpa using member)
    omega
  cases fuel with
  | zero => rfl
  | succ fuel => simp only [skipUsedKeys, unused, Bool.false_eq_true, if_false]

section
variable {scope : String} {start a a' : AnnAllocation} {chunk : DocumentChunk} {chunks : List DocumentChunk}

structure AnnAllocation.Ahead (scope : String) (a : AnnAllocation) : Prop where
  used : ∀ k ∈ a.used, k < a.next
  mapped : ∀ (k : Nat) (id : Uuid), a.mapped[(scope, k)]? = some id → k < a.next

def AnnAllocation.push (scope : String) (a : AnnAllocation) (chunk : DocumentChunk) : AnnAllocation where
  used := a.next :: a.used
  next := a.next + 1
  mapped := a.mapped.insert (scope, a.next) chunk.id
  vectors := a.vectors ++ [(chunk, a.next)]

theorem AnnAllocation.Ahead.unmapped (ahead : a.Ahead scope) : a.mapped[(scope, a.next)]? = none := by
  cases found : a.mapped[(scope, a.next)]? with
  | none => rfl
  | some id =>
    have behind := ahead.mapped a.next id found
    omega

/-- While the counter is ahead, neither the scan nor the mapping gets in its way. -/
theorem AnnAllocation.Ahead.allocate (ahead : a.Ahead scope) : a.allocate scope chunk =
    (check (a.next + 1 < 2 ^ 64) "exhausted ANN key space for workspace" >>= fun _ => .ok (a.push scope chunk)) := by
  have skipped := skipUsedKeys_ahead ahead.used a.used.length
  unfold AnnAllocation.allocate
  rw [skipped, bind_of_ok rfl]
  apply bind_congr
  intro _
  have free : a.mapped[(scope, a.next)]?.isNone = true := by rw [ahead.unmapped]; rfl
  have passed : check (a.mapped[(scope, a.next)]?.isNone) "ANN key is already mapped in this workspace" = .ok () :=
    ensure_eq_ok.mpr free
  rw [bind_of_ok passed]
  rfl

theorem AnnAllocation.Ahead.push (ahead : a.Ahead scope) : (a.push scope chunk).Ahead scope := by
  constructor
  · intro k member
    rcases List.mem_cons.mp member with rfl | member
    · exact Nat.lt_succ_self _
    · exact Nat.lt_succ_of_lt (ahead.used k member)
  · intro k id found
    unfold AnnAllocation.push at found ⊢
    rw [Table.find_insert] at found
    by_cases same : (scope, a.next) = (scope, k)
    · cases same
      exact Nat.lt_succ_self _
    · rw [if_neg same] at found
      exact Nat.lt_succ_of_lt (ahead.mapped k id found)

/-- What a loop of allocations has done since its start. -/
structure AnnAllocation.Grows (scope : String) (start a : AnnAllocation) : Prop where
  ahead : a.Ahead scope
  kept : ∀ (key : String × Nat) (id : Uuid), start.mapped[key]? = some id → a.mapped[key]? = some id
  elsewhere : ∀ (scope' : String) (k : Nat), scope' ≠ scope → a.mapped[(scope', k)]? = start.mapped[(scope', k)]?
  given : ∀ vector ∈ a.vectors, a.mapped[(scope, vector.2)]? = some vector.1.id

theorem AnnAllocation.Grows.push (grows : start.Grows scope a) : start.Grows scope (a.push scope chunk) := by
  have unmapped := grows.ahead.unmapped
  constructor
  case ahead => exact grows.ahead.push
  case kept =>
    intro key id found
    have before := grows.kept key id found
    unfold AnnAllocation.push
    rw [Table.find_insert_ne, before]
    rintro rfl
    simp [unmapped] at before
  case elsewhere =>
    intro scope' k other
    unfold AnnAllocation.push
    rw [Table.find_insert_ne, grows.elsewhere scope' k other]
    intro same
    exact other (Prod.mk.inj same).1.symm
  case given =>
    intro vector member
    rcases List.mem_append.mp member with earlier | last
    · have before := grows.given vector earlier
      unfold AnnAllocation.push
      rw [Table.find_insert_ne, before]
      intro same
      rw [← same] at before
      simp [unmapped] at before
    · cases List.mem_singleton.mp last
      exact Table.find_insert_self

theorem AnnAllocation.Grows.refl (ahead : start.Ahead scope) (empty : start.vectors = []) :
    start.Grows scope start := by
  refine ⟨ahead, fun _ _ found => found, fun _ _ _ => rfl, ?_⟩
  intro vector member
  rw [empty] at member
  cases member

theorem AnnAllocation.Grows.loop (grows : start.Grows scope a)
    (run : chunks.foldlM (AnnAllocation.allocate scope) a = .ok a') : start.Grows scope a' := by
  apply foldlM_preserves (P := fun a : AnnAllocation => start.Grows scope a) _ grows run
  intro chunk _ before after grown step
  rw [grown.ahead.allocate] at step
  obtain ⟨_, _, step⟩ := bind_eq_ok.mp step
  cases step
  exact grown.push

theorem AnnAllocation.Ahead.loop_error (ahead : a.Ahead scope) {e : Failure}
    (run : chunks.foldlM (AnnAllocation.allocate scope) a = .error e) :
    e = .check "exhausted ANN key space for workspace" := by
  induction chunks generalizing a with
  | nil => cases run
  | cons chunk chunks ih =>
    rw [List.foldlM_cons, ahead.allocate] at run
    rcases bind_eq_error.mp run with first | ⟨middle, first, rest⟩
    · rcases bind_eq_error.mp first with full | ⟨_, _, pushed⟩
      · exact (ensure_eq_error.mp full).2.symm
      · cases pushed
    · obtain ⟨_, _, pushed⟩ := bind_eq_ok.mp first
      cases pushed
      exact ih ahead.push rest

end

def annScope (x : Externals) (manifest : VectorManifest) : String :=
  (vectorScopeKey x manifest.organizationId manifest.workspaceId).text

/-- Every key that a manifest has is mapped to its chunk, and every mapped key is below the counter of its
    scope. -/
structure AnnIntegrity (x : Externals) (t : ProjectionTables) : Prop where
  named : ∀ (id : Uuid) (manifest : VectorManifest), t.vectorManifests[id]? = some manifest → manifest.chunkId = id
  mapped : ∀ (id : Uuid) (manifest : VectorManifest), t.vectorManifests[id]? = some manifest →
    t.vectorChunks[(annScope x manifest, manifest.annKey)]? = some id
  allocated : ∀ (scope : String) (k : Nat) (id : Uuid), t.vectorChunks[(scope, k)]? = some id →
    ∃ next, t.vectorNextKeys[scope]? = some next ∧ k < next

section
variable {x : Externals} {env : Env} {t t' : ProjectionTables}

theorem AnnIntegrity.empty : AnnIntegrity x (Store.empty .hashingV1).projection := by
  constructor <;> intros <;> simp_all [Store.empty]

theorem AnnIntegrity.distinct (valid : AnnIntegrity x t) {id id' : Uuid} {manifest manifest' : VectorManifest}
    (found : t.vectorManifests[id]? = some manifest) (found' : t.vectorManifests[id']? = some manifest')
    (scope : annScope x manifest = annScope x manifest') (key : manifest.annKey = manifest'.annKey) : id = id' := by
  have mapped := valid.mapped id manifest found
  have mapped' := valid.mapped id' manifest' found'
  rw [scope, key, mapped'] at mapped
  exact (Option.some.inj mapped).symm

theorem AnnIntegrity.below (valid : AnnIntegrity x t) {id : Uuid} {manifest : VectorManifest}
    (found : t.vectorManifests[id]? = some manifest) :
    ∃ next, t.vectorNextKeys[annScope x manifest]? = some next ∧ manifest.annKey < next :=
  valid.allocated _ _ id (valid.mapped id manifest found)

section
variable {profile : EmbeddingProfile} {document : Document} {chunks : List DocumentChunk}
  {vectors : List (DocumentChunk × Nat)}

def annStart (x : Externals) (document : Document) (t : ProjectionTables) : AnnAllocation where
  used := usedAnnKeys document t
  next := (t.vectorNextKeys[(vectorScopeKey x document.organizationId document.workspaceId).text]?).getD 1
  mapped := t.vectorChunks
  vectors := []

theorem AnnIntegrity.ahead (valid : AnnIntegrity x t) :
    (annStart x document t).Ahead (vectorScopeKey x document.organizationId document.workspaceId).text := by
  have mapped (k : Nat) (id : Uuid)
      (found : t.vectorChunks[((vectorScopeKey x document.organizationId document.workspaceId).text, k)]? =
        some id) : k < (annStart x document t).next := by
    obtain ⟨next, counter, behind⟩ := valid.allocated _ k id found
    simp only [annStart, counter, Option.getD_some]
    exact behind
  refine ⟨?_, mapped⟩
  intro k member
  obtain ⟨manifest, listed, rfl⟩ := List.mem_map.mp member
  obtain ⟨stored, here⟩ := List.mem_filter.mp listed
  obtain ⟨id, found⟩ := Table.mem_rows.mp stored
  obtain ⟨organization, workspace⟩ := inScope_iff.mp here
  have own := valid.mapped id manifest found
  rw [annScope, organization, workspace] at own
  exact mapped _ id own

/-- The first transaction fails on its keys only when the key space is exhausted. -/
theorem AnnIntegrity.prepare_error (valid : AnnIntegrity x t) {e : Failure}
    (run : prepareProjection x env profile document chunks t = .error e) :
    e = .check "exhausted ANN key space for workspace" := by
  have ahead : (annStart x document t).Ahead _ := valid.ahead
  rcases bind_eq_error.mp run with loop | ⟨_, _, last⟩
  · exact ahead.loop_error loop
  · cases last

theorem prepareProjection_allocation
    (run : prepareProjection x env profile document chunks t = .ok (t', vectors)) :
    ∃ allocated, chunks.foldlM (AnnAllocation.allocate
        (vectorScopeKey x document.organizationId document.workspaceId).text) (annStart x document t) =
          .ok allocated ∧ vectors = allocated.vectors ∧ t'.vectorChunks = allocated.mapped ∧
      t'.vectorNextKeys = t.vectorNextKeys.insert
        (vectorScopeKey x document.organizationId document.workspaceId).text allocated.next ∧
      t'.vectorManifests = Table.insertAll t.vectorManifests (vectors.map fun vector =>
        (vector.1.id, pendingVectorManifest x env profile document vector)) := by
  obtain ⟨allocated, loop, last⟩ := bind_eq_ok.mp run
  cases last
  exact ⟨allocated, loop, rfl, rfl, rfl, rfl⟩

theorem AnnIntegrity.prepare (valid : AnnIntegrity x t)
    (run : prepareProjection x env profile document chunks t = .ok (t', vectors)) : AnnIntegrity x t' := by
  have ahead : (annStart x document t).Ahead _ := valid.ahead
  obtain ⟨allocated, loop, rfl, mapped, counters, manifests⟩ := prepareProjection_allocation run
  have grows := (AnnAllocation.Grows.refl ahead rfl).loop loop
  constructor
  · intro id manifest found
    rw [manifests] at found
    rcases Table.find_insertAll found with written | ⟨_, before⟩
    · obtain ⟨vector, _, same⟩ := List.mem_map.mp written
      cases same
      rfl
    · exact valid.named id manifest before
  · intro id manifest found
    rw [manifests] at found
    rw [mapped]
    rcases Table.find_insertAll found with written | ⟨_, before⟩
    · obtain ⟨vector, member, same⟩ := List.mem_map.mp written
      cases same
      exact grows.given vector member
    · exact grows.kept _ id (valid.mapped id manifest before)
  · intro scope k id found
    rw [mapped] at found
    rw [counters, Table.find_insert]
    by_cases own : (vectorScopeKey x document.organizationId document.workspaceId).text = scope
    · subst own
      exact ⟨allocated.next, if_pos rfl, grows.ahead.mapped k id found⟩
    · rw [grows.elsewhere scope k (Ne.symm own)] at found
      rw [if_neg own]
      exact valid.allocated scope k id found

end

theorem AnnIntegrity.carry (valid : AnnIntegrity x t) (chunks : t'.vectorChunks = t.vectorChunks)
    (counters : t'.vectorNextKeys = t.vectorNextKeys)
    (manifests : ∀ (id : Uuid) (manifest' : VectorManifest), t'.vectorManifests[id]? = some manifest' →
      ∃ manifest, t.vectorManifests[id]? = some manifest ∧ manifest'.chunkId = manifest.chunkId ∧
        annScope x manifest' = annScope x manifest ∧ manifest'.annKey = manifest.annKey) : AnnIntegrity x t' := by
  constructor
  · intro id manifest' found
    obtain ⟨manifest, before, named, _⟩ := manifests id manifest' found
    rw [named]
    exact valid.named id manifest before
  · intro id manifest' found
    obtain ⟨manifest, before, _, scope, key⟩ := manifests id manifest' found
    rw [chunks, scope, key]
    exact valid.mapped id manifest before
  · rw [chunks, counters]
    exact valid.allocated

theorem AnnIntegrity.complete (valid : AnnIntegrity x t) {prepared : PreparedIngestion}
    (distinct : (prepared.chunks.map DocumentChunk.id).Nodup)
    (listed : prepared.vectors.map Prod.fst = prepared.chunks)
    (run : completeProjection x env prepared t = .ok t') : AnnIntegrity x t' := by
  obtain ⟨vectors, _, _, _, shape⟩ := completeProjection_ok run
  rw [listed] at vectors
  apply valid.carry
  · rw [shape]
  · rw [shape]
  · intro id manifest' found
    rw [find_markReady distinct vectors] at found
    split at found
    · obtain ⟨manifest, before, rfl⟩ := Option.map_eq_some_iff.mp found
      exact ⟨manifest, before, rfl, rfl, rfl⟩
    · exact ⟨manifest', found, rfl, rfl, rfl⟩

theorem AnnIntegrity.reproject {s s' : Store} (valid : AnnIntegrity x s.projection)
    (step : Reprojection x env s s') : AnnIntegrity x s'.projection := by
  cases step with
  | keep _ projection =>
    rw [projection]
    exact valid
  | graph _ _ _ _ _ projection =>
    rw [projection]
    exact valid.carry rfl rfl fun id manifest found => ⟨manifest, found, rfl, rfl, rfl⟩
  | activate _ _ _ _ projection =>
    rw [projection]
    exact valid.carry rfl rfl fun id manifest found => ⟨manifest, found, rfl, rfl, rfl⟩

end

section
variable {x : Externals} {engines : SearchEngines} {env : Env} {fault : Option Fault} {s s' : Store}
  {organizationId workspaceId : String} {claimed : ClaimedIngestionJob} {prepared : PreparedIngestion}

theorem AnnIntegrity.prepareIngestion (valid : AnnIntegrity x s.projection)
    (run : prepareIngestion x env claimed s = .ok (s', prepared)) : AnnIntegrity x s'.projection := by
  obtain ⟨_, _, _, _, _, _, _, _, _, projected, rfl, _⟩ := prepareIngestion_ok run
  exact valid.prepare projected

/-- What the first transaction hands on: the manifests of its chunks, pending under the keys given to them. -/
structure PreparedIngestion.Keyed (x : Externals) (env : Env) (s : Store) (prepared : PreparedIngestion) : Prop where
  distinct : (prepared.chunks.map DocumentChunk.id).Nodup
  listed : prepared.vectors.map Prod.fst = prepared.chunks
  pending : ∀ vector ∈ prepared.vectors, s.projection.vectorManifests[vector.1.id]? =
    some (pendingVectorManifest x env s.embeddingProvider.profile prepared.document vector)

theorem prepareIngestion_pending (distinct : Function.Injective env.uuid)
    (run : prepareIngestion x env claimed s = .ok (s', prepared)) : prepared.Keyed x env s' := by
  obtain ⟨_, document, projection, vectors, _, _, _, _, _, projected, rfl, rfl⟩ := prepareIngestion_ok run
  obtain ⟨listed, _⟩ := prepareProjection_ok projected
  obtain ⟨_, _, _, _, _, manifests⟩ := prepareProjection_allocation projected
  refine ⟨newChunks_distinct distinct, listed, ?_⟩
  intro vector member
  dsimp only
  rw [manifests]
  apply Table.find_insertAll_of_mem
  · rw [List.map_map]
    have ids := (congrArg (List.map DocumentChunk.id) listed).symm ▸ newChunks_distinct distinct
    rw [List.map_map] at ids
    exact ids
  · exact List.mem_map_of_mem member

theorem PreparedIngestion.Keyed.records (keyed : prepared.Keyed x env s) (same : s'.records = s.records) :
    prepared.Keyed x env s' := by
  refine ⟨keyed.distinct, keyed.listed, ?_⟩
  intro vector member
  have pending := keyed.pending vector member
  rw [Store.projection_of_records same, Store.provider_of_records same]
  exact pending

theorem PreparedIngestion.Keyed.key_injective (keyed : prepared.Keyed x env s) (valid : AnnIntegrity x s.projection)
    {vector vector' : DocumentChunk × Nat} (member : vector ∈ prepared.vectors)
    (member' : vector' ∈ prepared.vectors) (same : vector.2 = vector'.2) : vector.1.id = vector'.1.id :=
  valid.distinct (keyed.pending vector member) (keyed.pending vector' member') rfl same

theorem PreparedIngestion.Keyed.keys_nodup (keyed : prepared.Keyed x env s) (valid : AnnIntegrity x s.projection) :
    (prepared.vectors.map Prod.snd).Nodup := by
  have ids := keyed.distinct
  rw [← keyed.listed, List.map_map, List.Nodup, List.pairwise_map] at ids
  rw [List.Nodup, List.pairwise_map]
  apply ids.imp_of_mem
  intro vector vector' member member' apart same
  exact apart (keyed.key_injective valid member member' same)

def readyVector (x : Externals) (organizationId workspaceId : String) (s : Store) (manifest : VectorManifest) :
    Option (Nat × DocumentChunk) :=
  if readyVectorManifest organizationId workspaceId s manifest then
    (readyChunk x organizationId workspaceId s manifest.chunkId manifest.sourceSha256).map fun chunk =>
      (manifest.annKey, chunk)
  else none

def readyVectors (x : Externals) (organizationId workspaceId : String) (s : Store) : List (Nat × DocumentChunk) :=
  (Table.rows s.projection.vectorManifests).filterMap (readyVector x organizationId workspaceId s)

theorem readyVector_eq_some {manifest : VectorManifest} {k : Nat} {chunk : DocumentChunk} :
    readyVector x organizationId workspaceId s manifest = some (k, chunk) ↔
      readyVectorManifest organizationId workspaceId s manifest = true ∧ manifest.annKey = k ∧
        readyChunk x organizationId workspaceId s manifest.chunkId manifest.sourceSha256 = some chunk := by
  unfold readyVector
  by_cases ready : readyVectorManifest organizationId workspaceId s manifest = true
  · rw [if_pos ready, Option.map_eq_some_iff]
    simp only [Prod.mk.injEq, ready, true_and]
    constructor
    · intro made
      obtain ⟨stored, found, key, rfl⟩ := made
      exact ⟨key, found⟩
    · intro made
      exact ⟨chunk, made.2, made.1, rfl⟩
  · simp [ready]

theorem mem_readyVectors {k : Nat} {chunk : DocumentChunk} :
    (k, chunk) ∈ readyVectors x organizationId workspaceId s ↔ ∃ (id : Uuid) (manifest : VectorManifest),
      s.projection.vectorManifests[id]? = some manifest ∧
      readyVectorManifest organizationId workspaceId s manifest = true ∧ manifest.annKey = k ∧
      readyChunk x organizationId workspaceId s manifest.chunkId manifest.sourceSha256 = some chunk := by
  unfold readyVectors
  rw [List.mem_filterMap]
  constructor
  · intro listed
    obtain ⟨manifest, member, made⟩ := listed
    obtain ⟨id, found⟩ := Table.mem_rows.mp member
    exact ⟨id, manifest, found, readyVector_eq_some.mp made⟩
  · intro stored
    obtain ⟨id, manifest, found, made⟩ := stored
    exact ⟨manifest, Table.mem_rows.mpr ⟨id, found⟩, readyVector_eq_some.mpr made⟩

theorem readyVectorManifest_scope {manifest : VectorManifest}
    (ready : readyVectorManifest organizationId workspaceId s manifest = true) :
    manifest.organizationId = organizationId ∧ manifest.workspaceId = workspaceId ∧ manifest.state = .ready ∧
      s.embeddingProvider.profile.matchesManifest manifest.provider manifest.modelRevision manifest.dimensions = true ∧
      manifest.pipelineVersion = ingestionPipelineVersion := by
  simp only [readyVectorManifest, Bool.and_eq_true, beq_iff_eq] at ready
  obtain ⟨⟨⟨here, state⟩, matched⟩, version⟩ := ready
  obtain ⟨organization, workspace⟩ := inScope_iff.mp here
  exact ⟨organization, workspace, state, matched, version⟩

theorem AnnIntegrity.readyVectors_nodup (valid : AnnIntegrity x s.projection) :
    ((readyVectors x organizationId workspaceId s).map Prod.fst).Nodup := by
  rw [List.Nodup, List.pairwise_map, readyVectors, List.pairwise_filterMap]
  apply Table.pairwise_rows
  intro id id' manifest manifest' found found' apart entry made entry' made' same
  obtain ⟨ready, key, _⟩ := readyVector_eq_some.mp made
  obtain ⟨ready', key', _⟩ := readyVector_eq_some.mp made'
  obtain ⟨organization, workspace, _⟩ := readyVectorManifest_scope ready
  obtain ⟨organization', workspace', _⟩ := readyVectorManifest_scope ready'
  have scope : annScope x manifest = annScope x manifest' := by
    rw [annScope, annScope, organization, workspace, organization', workspace']
  have keys : manifest.annKey = manifest'.annKey := by rw [key, key', same]
  exact apart (valid.distinct found found' scope keys)

def vectorEntry (x : Externals) (s : Store) (vector : Nat × DocumentChunk) : Result (Nat × List ℚ) := do
  let embedding ← embed x s vector.2.content
  return (vector.1, embedding)

theorem readyVectorEntries_loop {rows : List VectorManifest} {entries : List (Nat × List ℚ)}
    (distinct : (entries.map Prod.fst ++
      (rows.filterMap (readyVector x organizationId workspaceId s)).map Prod.fst).Nodup) :
    rows.foldlM (fun entries manifest =>
      if readyVectorManifest organizationId workspaceId s manifest then
        match readyChunk x organizationId workspaceId s manifest.chunkId manifest.sourceSha256 with
        | some chunk =>
          if entries.any fun entry => entry.1 == manifest.annKey then return entries
          else do
            let vector ← embed x s chunk.content
            return entries ++ [(manifest.annKey, vector)]
        | none => return entries
      else return entries) entries =
    ((rows.filterMap (readyVector x organizationId workspaceId s)).mapM (vectorEntry x s) >>= fun added =>
      (.ok (entries ++ added) : Result _)) := by
  induction rows generalizing entries with
  | nil => simp [Pure.pure, Except.pure, Bind.bind, Except.bind]
  | cons manifest rows ih =>
    rw [List.foldlM_cons]
    by_cases ready : readyVectorManifest organizationId workspaceId s manifest = true
    · rw [if_pos ready]
      cases chunkFound : readyChunk x organizationId workspaceId s manifest.chunkId manifest.sourceSha256 with
      | none =>
        have skipped : readyVector x organizationId workspaceId s manifest = none := by
          simp [readyVector, chunkFound]
        rw [List.filterMap_cons_none skipped] at distinct ⊢
        exact ih distinct
      | some chunk =>
        have listed : readyVector x organizationId workspaceId s manifest = some (manifest.annKey, chunk) :=
          readyVector_eq_some.mpr ⟨ready, rfl, chunkFound⟩
        rw [List.filterMap_cons_some listed] at distinct ⊢
        have fresh : (entries.any fun entry => entry.1 == manifest.annKey) = false := by
          rw [List.any_eq_false]
          intro entry member
          have apart := (List.nodup_append.mp distinct).2.2 entry.1 (List.mem_map_of_mem member) manifest.annKey
            List.mem_cons_self
          simpa using apart
        simp only [fresh, Bool.false_eq_true, if_false, List.mapM_cons, vectorEntry]
        cases embed x s chunk.content with
        | error e => rfl
        | ok vector =>
          have rest := @ih (entries ++ [(manifest.annKey, vector)]) (by simpa using distinct)
          refine rest.trans ?_
          cases (rows.filterMap (readyVector x organizationId workspaceId s)).mapM (vectorEntry x s) with
          | error e => rfl
          | ok added =>
            show Except.ok _ = Except.ok _
            simp
    · have skipped : readyVector x organizationId workspaceId s manifest = none := by
        simp [readyVector, ready]
      rw [if_neg ready]
      rw [List.filterMap_cons_none skipped] at distinct ⊢
      exact ih distinct

/-- No manifest is passed over as a duplicate. -/
theorem AnnIntegrity.readyVectorEntries_eq (valid : AnnIntegrity x s.projection) :
    readyVectorEntries x organizationId workspaceId s =
      (readyVectors x organizationId workspaceId s).mapM (vectorEntry x s) := by
  have distinct := @AnnIntegrity.readyVectors_nodup x s organizationId workspaceId valid
  refine (@readyVectorEntries_loop x s organizationId workspaceId _ [] distinct).trans ?_
  unfold readyVectors
  cases ((Table.rows s.projection.vectorManifests).filterMap (readyVector x organizationId workspaceId s)).mapM
      (vectorEntry x s) with
  | error e => rfl
  | ok added => rfl

theorem mergePending_ok {entries pending : List (Nat × List ℚ)}
    (distinct : ((entries ++ pending).map Prod.fst).Nodup) :
    pending.foldlM (fun entries pending => do
      check (¬ entries.any fun entry => entry.1 == pending.1) "duplicate ANN key in vector generation"
      return entries ++ [pending]) entries = (.ok (entries ++ pending) : Result _) := by
  induction pending generalizing entries with
  | nil =>
    rw [List.append_nil]
    rfl
  | cons entry pending ih =>
    have fresh : ¬ (entries.any fun other => other.1 == entry.1) = true := by
      rw [List.map_append, List.map_cons] at distinct
      intro clash
      obtain ⟨other, member, same⟩ := List.any_eq_true.mp clash
      have apart := (List.nodup_append.mp distinct).2.2 other.1 (List.mem_map_of_mem member) entry.1 List.mem_cons_self
      exact apart (by simpa using same)
    have passed : check (¬ entries.any fun other => other.1 == entry.1) "duplicate ANN key in vector generation" =
        .ok () := ensure_eq_ok.mpr fresh
    rw [List.foldlM_cons, passed]
    have rest := @ih (entries ++ [entry]) (by simpa using distinct)
    rw [List.append_assoc, List.singleton_append] at rest
    exact rest

theorem PreparedIngestion.Keyed.apart (keyed : prepared.Keyed x env s) (valid : AnnIntegrity x s.projection)
    {entry : Nat × DocumentChunk} {vector : DocumentChunk × Nat}
    (ready : entry ∈ readyVectors x prepared.document.organizationId prepared.document.workspaceId s)
    (member : vector ∈ prepared.vectors) : entry.1 ≠ vector.2 := by
  intro same
  obtain ⟨id, manifest, found, isReady, key, _⟩ := mem_readyVectors.mp ready
  obtain ⟨organization, workspace, state, _⟩ := readyVectorManifest_scope isReady
  have pending := keyed.pending vector member
  have scope : annScope x manifest = annScope x
      (pendingVectorManifest x env s.embeddingProvider.profile prepared.document vector) := by
    rw [annScope, annScope, organization, workspace]
    rfl
  have one := valid.distinct found pending scope (key.trans same)
  rw [one, pending] at found
  cases found
  cases state

/-- The keys that an attempt publishes: those of the ready manifests and those of its own, all different. -/
theorem PreparedIngestion.Keyed.published_nodup (keyed : prepared.Keyed x env s)
    (valid : AnnIntegrity x s.projection) {entries pending : List (Nat × List ℚ)}
    (ready : entries.map Prod.fst =
      (readyVectors x prepared.document.organizationId prepared.document.workspaceId s).map Prod.fst)
    (own : pending.map Prod.fst = prepared.vectors.map Prod.snd) : ((entries ++ pending).map Prod.fst).Nodup := by
  rw [List.map_append, ready, own]
  apply List.nodup_append.mpr
  refine ⟨valid.readyVectors_nodup, keyed.keys_nodup valid, ?_⟩
  intro k listed k' given
  obtain ⟨entry, member, rfl⟩ := List.mem_map.mp listed
  obtain ⟨vector, member', rfl⟩ := List.mem_map.mp given
  exact keyed.apart valid member member'

theorem vectorEntry_key {entry : Nat × DocumentChunk} {made : Nat × List ℚ}
    (run : vectorEntry x s entry = .ok made) : made.1 = entry.1 := by
  obtain ⟨_, _, run⟩ := bind_eq_ok.mp run
  cases run
  rfl

theorem pendingVectorEntries_keys {pending : List (Nat × List ℚ)}
    (run : pendingVectorEntries x prepared s = .ok pending) :
    pending.map Prod.fst = prepared.vectors.map Prod.snd := by
  apply mapM_map _ run
  intro vector made run
  obtain ⟨_, _, run⟩ := bind_eq_ok.mp run
  cases run
  rfl

def annKeyMessages : List String :=
  ["ANN key is already mapped in this workspace", "duplicate ANN key in vector generation"]

theorem publishGenerationWithPending_keys (keyed : prepared.Keyed x env s) (valid : AnnIntegrity x s.projection)
    {pending : List (Nat × List ℚ)} (own : pending.map Prod.fst = prepared.vectors.map Prod.snd) :
    Program.Triple (publishGenerationWithPending x fault prepared.document.organizationId
      prepared.document.workspaceId pending) s (fun _ _ => True) (fun e _ => ¬ e.Among annKeyMessages) := by
  have ready : Program.Triple (Program.query (readyVectorEntries x prepared.document.organizationId
      prepared.document.workspaceId)) s (fun entries s' => s' = s ∧ ((entries ++ pending).map Prod.fst).Nodup)
      (fun e _ => ¬ e.Among annKeyMessages) := by
    apply Program.Triple.query
    · intro entries run
      rw [valid.readyVectorEntries_eq] at run
      exact ⟨rfl, keyed.published_nodup valid (mapM_map (fun _ _ => vectorEntry_key) run) own⟩
    · exact readyVectorEntries_avoids
  apply ready.bind
  intro entries s' kept
  have merged := mergePending_ok kept.2
  apply Program.Triple.bind (Q := fun _ _ => True)
  · apply Program.Triple.query
    · exact fun _ _ => trivial
    · intro e failed
      rw [merged] at failed
      cases failed
  · intro entries s' _
    apply Program.Avoids.triple
    exact (Program.Avoids.query fun _ => Avoids.ok).bind fun _ =>
      WorkspaceVectorIndex.publishGeneration_avoids (by decide)

/-- An attempt never finds a key that is mapped already or published twice. -/
theorem processClaimedIngestionJob_keys (valid : AnnIntegrity x s.projection)
    (distinct : Function.Injective env.uuid) :
    Avoids (Failure.Among annKeyMessages) (processClaimedIngestionJob x env fault claimed s).2 := by
  have first : Program.Triple (Program.transaction (prepareIngestion x env claimed)) s
      (fun prepared s₁ => prepared.Keyed x env s₁ ∧ AnnIntegrity x s₁.projection)
      (fun e _ => ¬ e.Among annKeyMessages) := by
    apply Program.Triple.transaction
    · intro prepared s₁ run
      exact ⟨prepareIngestion_pending distinct run, valid.prepareIngestion run⟩
    · intro e failed
      have avoids : Avoids (Failure.Among annKeyMessages) (prepareIngestion x env claimed s) := by
        refine (check_avoids (by decide)).bind fun _ _ => ?_
        refine (found_avoids fun _ => by decide).bind fun _ _ => ?_
        refine (check_avoids (by decide)).bind fun _ _ => ?_
        refine (found_avoids fun _ => by decide).bind fun _ _ => ?_
        refine (check_avoids (by decide)).bind fun _ _ => Avoids.bind ?_ fun _ _ => Avoids.pure
        intro e failed
        rw [valid.prepare_error failed]
        exact check_not_among (by decide)
      exact avoids e failed
  intro e failed
  refine Program.Triple.error (Q := fun _ _ => True) (E := fun e _ => ¬ e.Among annKeyMessages) ?_ failed
  unfold processClaimedIngestionJob
  apply first.bind
  intro prepared s₁ start
  have quiet {α : Type} {p : Call α} (kept : Program.Frames Store.records p)
      (avoids : Program.Avoids (Failure.Among annKeyMessages) p) : Program.Triple p s₁
        (fun _ s' => s'.records = s₁.records) (fun e _ => ¬ e.Among annKeyMessages) :=
    (kept.triple.and avoids.triple).weaken (fun _ _ done => done.1) fun _ _ done => done.2
  apply (quiet stopAt_frames stopAt_avoids).bind
  intro _ s₂ same
  have keyed : prepared.Keyed x env s₂ := start.1.records same
  have keys : AnnIntegrity x s₂.projection := by
    rw [Store.projection_of_records same]
    exact start.2
  have pending : Program.Triple (Program.query (pendingVectorEntries x prepared)) s₂
      (fun pending s' => s' = s₂ ∧ pending.map Prod.fst = prepared.vectors.map Prod.snd)
      (fun e _ => ¬ e.Among annKeyMessages) :=
    Program.Triple.query (fun _ run => ⟨rfl, pendingVectorEntries_keys run⟩) pendingVectorEntries_avoids
  apply pending.bind
  intro pending s' own
  obtain ⟨rfl, own⟩ := own
  apply (publishGenerationWithPending_keys keyed keys own).bind
  intro _ _ _
  exact (publishedIngestion_avoids (by decide)).triple

end

section
variable {x : Externals} {engines : SearchEngines} {server server' : Server} {event : Event}

theorem Step.annKeys (taken : Step x engines server event server')
    (records : IngestionIntegrity x server.store.ingestion) (valid : AnnIntegrity x server.store.projection) :
    AnnIntegrity x server'.store.projection := by
  have effect := @callStore_effect x engines event.env server.store records event.op
  have distinct := taken.fresh.distinct
  rw [taken.next]
  unfold Server.next
  generalize (callStore x engines event.env event.op server.store).1 = s' at effect ⊢
  obtain ⟨env, op⟩ := event
  dsimp only at effect distinct ⊢
  have kept {left right : Store} (same : left.records = right.records) (before : AnnIntegrity x right.projection) :
      AnnIntegrity x left.projection := by
    rw [Store.projection_of_records same]
    exact before
  cases effect with
  | process effect =>
    cases effect with
    | none same => exact kept same valid
    | prepared first same => exact kept same (valid.prepareIngestion first)
    | completed first between second same =>
      have keyed := prepareIngestion_pending distinct first
      have middle := kept between (valid.prepareIngestion first)
      obtain ⟨projection, projected, _, written⟩ := completeIngestion_ok second
      apply kept same
      rw [written]
      have done : AnnIntegrity x projection := middle.complete keyed.distinct keyed.listed projected
      exact done.carry rfl rfl fun id manifest found => ⟨manifest, found, rfl, rfl, rfl⟩
  | project moves =>
    induction moves with
    | refl => exact valid
    | tail _ move ih => exact ih.reproject move
  | queue _ quiet =>
    rw [quiet.projection]
    exact valid

theorem Reachable.annKeys (reachable : Reachable x engines server) : AnnIntegrity x server.store.projection := by
  obtain ⟨provider, reached⟩ := reachable
  have both := reached.preserves
    (I := fun server => IngestionIntegrity x server.store.ingestion ∧ AnnIntegrity x server.store.projection)
    ⟨.empty, AnnIntegrity.empty⟩
    fun _ _ _ holds taken => ⟨taken.integrity holds.1, taken.annKeys holds.1 holds.2⟩
  exact both.2

end

end Hangar
