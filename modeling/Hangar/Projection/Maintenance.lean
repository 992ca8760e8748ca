import Hangar.Projection.Upkeep

namespace Hangar

open Lib

section
variable {x : Externals} {env : Env} {fault : Option Fault} {workspaces : Set (String × String)}
  {minted : List (Uuid × Uuid)} {s s' : Store} {organizationId workspaceId : String}

theorem Searchable.quiet (valid : Searchable x workspaces minted s) {α : Type} {f : Store → Result α} {Q : α → Prop}
    (post : ∀ a, f s = .ok a → Q a) : Program.Triple (Program.query f) s (fun a s' => s' = s ∧ Q a)
      (fun _ => Searchable x workspaces minted) :=
  Program.Triple.query (fun a run => ⟨rfl, post a run⟩) fun _ _ => valid

theorem Searchable.journal (valid : Searchable x workspaces minted s) (index : s'.index = s.index)
    (ingestion : s'.ingestion = s.ingestion) (projection : s'.projection = s.projection) :
    Searchable x workspaces minted s' := by
  apply valid.carry _ (valid.canonical.of_tables ingestion projection)
  apply Store.Carries.of_tables index
  · rw [ingestion]
    exact fun found _ => found
  all_goals rw [projection]

theorem rebuildVectorWorkspace_searchable (valid : Searchable x workspaces minted s) (separate : SeparateFiles x workspaces)
    (here : (organizationId, workspaceId) ∈ workspaces) :
    KeepsSearchable x workspaces minted (rebuildVectorWorkspace x fault organizationId workspaceId) s := by
  apply (valid.quiet fun entries run => run).bind
  intro entries s' listed
  obtain ⟨rfl, listed⟩ := listed
  apply (valid.quiet fun profile run => run).bind
  intro profile s'' current
  obtain ⟨rfl, current⟩ := current
  cases current
  obtain ⟨distinct, own, covers⟩ := valid.canonical.rebuildsVectors listed
  apply (valid.publishVectors separate here distinct own covers).bind
  exact fun _ _ kept => Program.Triple.pure kept.1

theorem rebuildTextWorkspace_searchable (valid : Searchable x workspaces minted s)
    (here : (organizationId, workspaceId) ∈ workspaces) {generation : Uuid} : KeepsSearchable x workspaces minted
      (rebuildTextWorkspace x env fault organizationId workspaceId generation) s := by
  apply (valid.quiet fun entries run => run).bind
  intro entries s' listed
  obtain ⟨rfl, listed⟩ := listed
  cases listed
  have covers := @Canonical.rebuildsText x workspaces minted s' organizationId workspaceId valid.canonical
  apply valid.publishText.bind
  intro _ s'' published
  obtain ⟨kept, records, _, stored⟩ := published
  have covers' : s''.CoversText organizationId workspaceId (readyTextEntries x organizationId workspaceId s') := by
    unfold Store.CoversText Store.ReadyText Store.StoresChunk at covers ⊢
    rw [Store.projection_of_records records]
    exact covers
  apply Program.Triple.bind (Q := fun _ => Searchable x workspaces minted)
  · apply Program.Triple.transaction
    · intro _ s₁ run
      cases run
      exact kept.activate here stored covers'
    · exact fun _ _ => kept
  intro _ s₁ activated
  apply activated.stopAt.bind
  intro _ s₂ same
  subst same
  apply activated.cleanup.bind
  exact fun _ _ kept => Program.Triple.pure kept

theorem rebuildGraphWorkspace_searchable (valid : Searchable x workspaces minted s) : KeepsSearchable x workspaces minted
    (rebuildGraphWorkspace x env organizationId workspaceId) s := by
  apply Program.Triple.transaction
  · intro _ s' run
    obtain ⟨graph, built, written⟩ := rebuildGraph_ok run
    have written : s' = { s with projection := { s.projection with graph := graph } } := written
    subst written
    have step : Reprojection x env s { s with projection := { s.projection with graph := graph } } :=
      .graph organizationId workspaceId graph built rfl rfl
    exact valid.carry (Store.Carries.of_tables rfl (fun found _ => found) rfl rfl rfl rfl)
      (valid.canonical.reproject step)
  · exact fun _ _ => valid

theorem auditSystem_searchable (valid : Searchable x workspaces minted s) {id : Uuid} {action : String} :
    KeepsSearchable x workspaces minted (auditSystem env organizationId workspaceId id action) s := by
  apply Program.Triple.transaction
  · intro _ s' run
    cases run
    exact valid.journal rfl rfl rfl
  · exact fun _ _ => valid

theorem reconcileScopes_keeps {I : Store → Prop} {kind : String} {rebuild : Nat → String → String → Call Nat}
    {auditId : Nat → Nat} {scopes : List (String × String)}
    (audited : ∀ organizationId workspaceId id action s, I s →
      Program.Triple (auditSystem env organizationId workspaceId id action) s (fun _ => I) (fun _ => I))
    (rebuilt : ∀ i, ∀ a ∈ scopes, ∀ s, I s → Program.Triple (rebuild i a.1 a.2) s (fun _ => I) (fun _ => I))
    (valid : I s) : Program.Triple (reconcileScopes env kind rebuild auditId scopes) s (fun _ => I) (fun _ => I) := by
  apply Program.Triple.forM (I := I) _ valid
  intro turn listed s before
  have member : turn.1 ∈ scopes := List.fst_mem_of_mem_zipIdx listed
  have outcome : Program.Triple (Program.attempt (rebuild turn.2 turn.1.1 turn.1.2)) s (fun _ => I) (fun _ => I) :=
    Program.Triple.attempt (rebuilt turn.2 turn.1 member s before)
  apply outcome.bind
  intro outcome s' kept
  cases outcome with
  | ok _ => exact audited _ _ _ _ s' kept
  | error e =>
    have noted : Program.Triple (Program.attempt (auditSystem env turn.1.1 turn.1.2
        (env.uuid (auditId turn.2)) (kind ++ ".reconciliation.failed"))) s' (fun _ => I) (fun _ => I) :=
      Program.Triple.attempt (audited _ _ _ _ s' kept)
    apply noted.bind
    exact fun _ _ kept => Program.Triple.fail kept

theorem reconcileScopes_searchable (valid : Searchable x workspaces minted s) {kind : String}
    {rebuild : Nat → String → String → Call Nat} {auditId : Nat → Nat} {scopes : List (String × String)}
    (rebuilt : ∀ i, ∀ a ∈ scopes, ∀ s, Searchable x workspaces minted s →
      KeepsSearchable x workspaces minted (rebuild i a.1 a.2) s) :
    KeepsSearchable x workspaces minted (reconcileScopes env kind rebuild auditId scopes) s :=
  reconcileScopes_keeps (fun _ _ _ _ _ kept => auditSystem_searchable kept) rebuilt valid

theorem mem_scopeSet {scopes : List (String × String)} {a : String × String} : a ∈ scopeSet scopes ↔ a ∈ scopes := by
  unfold scopeSet
  rw [Std.ExtTreeMap.mem_keys, Table.mem_insertAll, List.map_map]
  simp [Function.comp_def]

theorem isTemporary_indexPath {profile : EmbeddingProfile} :
    WorkspaceVectorIndex.isTemporary (indexPath x organizationId workspaceId profile) = false := by
  rw [Bool.eq_false_iff]
  intro temporary
  simp only [WorkspaceVectorIndex.isTemporary, List.isSuffixOf_iff_suffix] at temporary
  obtain ⟨stem, split⟩ := temporary
  have last := congrArg List.getLast? split
  simp [indexPath, String.toList_append, List.getLast?_append] at last

theorem removeStaleTemporaryFiles_searchable (valid : Searchable x workspaces minted s) :
    KeepsSearchable x workspaces minted WorkspaceVectorIndex.removeStaleTemporaryFiles s := by
  apply (valid.quiet fun stale run => run).bind
  intro stale s' counted
  obtain ⟨rfl, _⟩ := counted
  apply Program.Triple.bind (Q := fun _ => Searchable x workspaces minted)
  · apply Program.Triple.update
    apply valid.withVectors
    intro provider a _
    left
    have kept := @isTemporary_indexPath x a.1 a.2 provider.profile
    rw [Table.find_filter]
    cases s'.index.vectors[indexPath x a.1 a.2 provider.profile]? with
    | none => rfl
    | some entries => simp [kept]
  · exact fun _ _ kept => Program.Triple.pure kept

section
variable {faults : Nat → Option Fault}

theorem reconcileVectorProjection_searchable (valid : Searchable x workspaces minted s)
    (separate : SeparateFiles x workspaces) :
    KeepsSearchable x workspaces minted (reconcileVectorProjection x env faults) s := by
  apply (removeStaleTemporaryFiles_searchable valid).bind
  intro _ s' kept
  apply (kept.quiet fun scopes run => run).bind
  intro scopes s'' listed
  obtain ⟨rfl, listed⟩ := listed
  cases listed
  apply Program.Triple.bind (Q := fun _ => Searchable x workspaces minted)
  · apply reconcileScopes_searchable kept
    intro i a member s before
    obtain ⟨manifest, stored, rfl⟩ := List.mem_map.mp (mem_scopeSet.mp member)
    obtain ⟨id, found⟩ := Table.mem_rows.mp stored
    have view := find_vectorView found
    exact rebuildVectorWorkspace_searchable before separate (kept.canonical.workspace_of_manifest view)
  · exact fun _ _ kept => Program.Triple.pure kept

theorem reconcileTextProjection_searchable (valid : Searchable x workspaces minted s) :
    KeepsSearchable x workspaces minted (reconcileTextProjection x env faults) s := by
  apply (valid.quiet fun scopes run => run).bind
  intro scopes s' listed
  obtain ⟨rfl, listed⟩ := listed
  cases listed
  apply Program.Triple.bind (Q := fun _ => Searchable x workspaces minted)
  · apply reconcileScopes_searchable valid
    intro i a member s before
    obtain ⟨manifest, stored, rfl⟩ := List.mem_map.mp (mem_scopeSet.mp member)
    obtain ⟨id, found⟩ := Table.mem_rows.mp stored
    have view := find_textView found
    exact rebuildTextWorkspace_searchable before (valid.canonical.workspace_of_manifest view)
  · exact fun _ _ kept => kept.cleanup

theorem reconcileGraphProjection_searchable (valid : Searchable x workspaces minted s) :
    KeepsSearchable x workspaces minted (reconcileGraphProjection x env) s := by
  apply (valid.quiet fun scopes run => run).bind
  intro scopes s' listed
  obtain ⟨rfl, _⟩ := listed
  apply Program.Triple.bind (Q := fun _ => Searchable x workspaces minted)
  · apply reconcileScopes_searchable valid
    intro i a _ s before
    exact rebuildGraphWorkspace_searchable before
  · exact fun _ _ kept => Program.Triple.pure kept

end

section
variable {prepared : PreparedIngestion}

theorem readyTextEntries_records (same : s'.records = s.records) :
    readyTextEntries x organizationId workspaceId s' = readyTextEntries x organizationId workspaceId s := by
  have part := congrArg (readyTextEntries x organizationId workspaceId) same
  exact part

theorem PreparedIngestion.Placed.vectorOf (placed : prepared.Placed x env s) (keyed : prepared.Keyed x env s)
    (output : OutputIntegrity x s minted) {pending : List (Nat × List ℚ)}
    (run : pendingVectorEntries x prepared s = .ok pending) {entry : Nat × List ℚ} (member : entry ∈ pending) :
    s.VectorOf x s.embeddingProvider prepared.document.organizationId prepared.document.workspaceId entry := by
  obtain ⟨vector, given, made⟩ := mapM_source run member
  obtain ⟨embedding, embedded, made⟩ := bind_eq_ok.mp made
  cases made
  have own : vector.1 ∈ prepared.chunks := by
    rw [← placed.vectors]
    exact List.mem_map_of_mem given
  refine ⟨vector.1.id, _, keyed.pending vector given, rfl, rfl, rfl, ?_, ?_⟩
  · simp [EmbeddingProvider.matches, EmbeddingProfile.matchesManifest, pendingVectorManifest]
  · intro chunk stored
    rw [output.storesChunk_unique stored (placed.stores own)]
    exact embed_eq_ok.mp embedded

theorem pendingVectorEntries_listed {pending : List (Nat × List ℚ)}
    (run : pendingVectorEntries x prepared s = .ok pending) {vector : DocumentChunk × Nat}
    (given : vector ∈ prepared.vectors) : ∃ v, (vector.2, v) ∈ pending := by
  obtain ⟨entry, member, made⟩ := mapM_result run given
  obtain ⟨embedding, _, made⟩ := bind_eq_ok.mp made
  cases made
  exact ⟨embedding, member⟩

/-- The vector generation of an attempt keeps every ready vector and adds those of its chunks. -/
theorem publishGenerationWithPending_searchable (valid : Searchable x workspaces minted s)
    (separate : SeparateFiles x workspaces) (placed : prepared.Placed x env s) (keyed : prepared.Keyed x env s)
    {pending : List (Nat × List ℚ)} (run : pendingVectorEntries x prepared s = .ok pending) :
    Program.Triple (publishGenerationWithPending x fault prepared.document.organizationId
      prepared.document.workspaceId pending) s
      (fun _ s' => Searchable x workspaces minted s' ∧ s'.records = s.records ∧ ∃ entries,
        s'.index.vectors[indexPath x prepared.document.organizationId prepared.document.workspaceId
          s.embeddingProvider.profile]? = some entries ∧ ∀ vector ∈ prepared.vectors, ∃ v, (vector.2, v) ∈ entries)
      (fun _ => Searchable x workspaces minted) := by
  have here := valid.canonical.within _ _ placed.document
  apply (valid.quiet fun entries listed => listed).bind
  intro entries s₁ listed
  obtain ⟨rfl, listed⟩ := listed
  obtain ⟨_, own, covers⟩ := valid.canonical.rebuildsVectors listed
  rw [valid.canonical.keys.readyVectorEntries_eq] at listed
  have distinct := keyed.published_nodup valid.canonical.keys (mapM_map (fun _ _ => vectorEntry_key) listed)
    (pendingVectorEntries_keys run)
  have merged := mergePending_ok distinct
  apply (valid.quiet fun all run => run).bind
  intro all s₂ appended
  obtain ⟨rfl, appended⟩ := appended
  rw [merged] at appended
  cases appended
  apply (valid.quiet fun profile run => run).bind
  intro profile s₃ current
  obtain ⟨rfl, current⟩ := current
  cases current
  apply (valid.publishVectors separate here distinct _ _).weaken
  · intro _ s' published
    obtain ⟨kept, records, stored⟩ := published
    refine ⟨kept, records, _, stored, ?_⟩
    intro vector given
    obtain ⟨v, member⟩ := pendingVectorEntries_listed run given
    exact ⟨v, List.mem_append_right _ member⟩
  · exact fun _ _ kept => kept
  · intro entry member
    rcases List.mem_append.mp member with ready | added
    · exact own entry ready
    · exact placed.vectorOf keyed valid.canonical.output run added
  · intro id manifest found organization workspace ready matched
    obtain ⟨vector, member⟩ := covers id manifest found organization workspace ready matched
    exact ⟨vector, List.mem_append_left _ member⟩

theorem publishTextGenerationWithPending_searchable (valid : Searchable x workspaces minted s) {generation : Uuid}
    {pending : List TextEntry} :
    Program.Triple (publishTextGenerationWithPending x fault organizationId workspaceId generation pending) s
      (fun name s' => name = generation.text ∧ Searchable x workspaces minted s' ∧ s'.records = s.records ∧
        s'.index.vectors = s.index.vectors ∧ s'.index.text[generationPath x organizationId workspaceId
          generation.text]? = some (readyTextEntries x organizationId workspaceId s ++ pending))
      (fun _ => Searchable x workspaces minted) := by
  apply (valid.quiet fun entries run => run).bind
  intro entries s₁ listed
  obtain ⟨rfl, listed⟩ := listed
  cases listed
  apply valid.publishText.bind
  exact fun _ _ published => Program.Triple.pure ⟨rfl, published⟩

/-- Wherever an attempt stops, the indexes cover what is ready. -/
theorem processClaimedIngestionJob_searchable (valid : Searchable x workspaces minted s)
    (separate : SeparateFiles x workspaces) (distinct : Function.Injective env.uuid)
    (unminted : ∀ i d, (d, env.uuid i) ∉ minted) {claimed : ClaimedIngestionJob}
    (payload : s.ingestion.payloads[claimed.job.id]? = some ⟨claimed.content⟩) :
    KeepsSearchable x workspaces (minted ++ (newChunks env claimed.job.documentId
      (chunkText claimed.content maximumChunkChars)).map fun chunk => (chunk.documentId, chunk.id))
      (processClaimedIngestionJob x env fault claimed) s := by
  have canonical := valid.canonical
  have minting := @OutputIntegrity.mint x env s minted canonical.output claimed.job.documentId
    (chunkText claimed.content maximumChunkChars) unminted
  have preparing (prepared : PreparedIngestion) (s₁ : Store) :=
    @OutputIntegrity.prepare x env s s₁ minted canonical.output canonical.records distinct unminted claimed payload
      prepared
  generalize minted ++ (newChunks env claimed.job.documentId (chunkText claimed.content maximumChunkChars)).map
    (fun chunk => (chunk.documentId, chunk.id)) = minted' at minting preparing ⊢
  have drawn : Searchable x workspaces minted' s := by
    apply valid.carry _ ⟨canonical.records, minting, canonical.keys, canonical.within⟩
    exact Store.Carries.of_tables rfl (fun found _ => found) rfl rfl rfl rfl
  have first : Program.Triple (Program.transaction (prepareIngestion x env claimed)) s
      (fun prepared s₁ => Searchable x workspaces minted' s₁ ∧ prepared.Placed x env s₁ ∧
        prepared.Keyed x env s₁ ∧ prepared.document.ingestionJobId = prepared.job.id)
      (fun _ => Searchable x workspaces minted') := by
    apply Program.Triple.transaction
    · intro prepared s₁ run
      have keyed := prepareIngestion_pending distinct run
      have carries := canonical.prepare_carries run unminted
      have keys := canonical.keys.prepareIngestion run
      obtain ⟨output, placed⟩ := preparing prepared s₁ run
      obtain ⟨_, _, _, _, _, _, _, _, matched, _, rfl, rfl⟩ := prepareIngestion_ok run
      exact ⟨valid.carry carries ⟨canonical.records, output, keys, canonical.within⟩, placed, keyed, matched⟩
    · exact fun _ _ => drawn
  apply first.bind
  intro prepared s₁ start
  obtain ⟨kept, placed, keyed, matched⟩ := start
  apply kept.stopAt.bind
  intro _ s₂ same
  subst same
  apply (kept.quiet fun pending run => run).bind
  intro pending s₃ embedded
  obtain ⟨rfl, embedded⟩ := embedded
  apply (publishGenerationWithPending_searchable kept separate placed keyed embedded).bind
  intro _ s₄ vectors
  obtain ⟨kept₄, records₄, entries, file, listed⟩ := vectors
  apply (publishTextGenerationWithPending_searchable kept₄).bind
  intro name s₅ texts
  obtain ⟨rfl, kept₅, records₅, sameVectors, directory⟩ := texts
  have records := records₅.trans records₄
  have published : prepared.Published x env s₅ (env.uuid prepared.chunks.length) := by
    have provider := Store.provider_of_records records
    refine ⟨placed.records records, keyed.records records, matched, ⟨entries, ?_, listed⟩, ?_⟩
    · rw [provider, sameVectors]
      exact file
    · rw [readyTextEntries_records records₅]
      exact directory
  apply Program.Triple.bind (Q := fun _ => Searchable x workspaces minted')
  · apply Program.Triple.transaction
    · exact fun job s₆ run => kept₅.complete distinct published run
    · exact fun _ _ => kept₅
  intro job s₆ kept₆
  apply kept₆.stopAt.bind
  intro _ s₇ same
  subst same
  have cleaned : Program.Triple (Program.attempt (cleanupTextGenerations x)) s₇
      (fun _ => Searchable x workspaces minted') (fun _ => Searchable x workspaces minted') :=
    Program.Triple.attempt kept₆.cleanup
  exact cleaned.bind fun _ _ kept => Program.Triple.pure kept

end

end

end Hangar
