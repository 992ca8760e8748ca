import Hangar.Knowledge.Integrity

namespace Hangar

open Lib

variable {x : Externals} {engines : SearchEngines} {env : Env} {s s' : Store} {principal : Principal}
  {requestWorkspaceId : String} {terms : List String} {ranks : Table String Nat}

theorem find_sweep {id : Uuid} : (sweep env s).knowledge.memories[id]? =
    s.knowledge.memories[id]?.map fun memory => if memory.isDue env then memory.expire env else memory :=
  @Table.find_rewrite _ _ _ _ _ _ _ (fun memory : Memory => memory.isDue env)
    (fun memory : Memory => memory.expire env) id

theorem sweep_retrievable {id : Uuid} {memory : Memory}
    (found : (sweep env s).knowledge.memories[id]? = some memory) (retrievable : isRetrievable env memory = true) :
    s.knowledge.memories[id]? = some memory := by
  rw [find_sweep] at found
  obtain ⟨before, stored, rewritten⟩ := Option.map_eq_some_iff.mp found
  by_cases due : before.isDue env = true
  · simp only [due, if_true] at rewritten
    subst rewritten
    simp [isRetrievable, Memory.expire] at retrievable
  · simp only [due] at rewritten
    subst rewritten
    exact stored

theorem find_sweep_share {id : Uuid} :
    (sweep env s).knowledge.memoryShares[id]? = s.knowledge.memoryShares[id]? := rfl

theorem mem_searchMemories {organizationId workspaceId query : String} {limit : Nat} {memories : List Memory}
    (run : searchMemories x env organizationId workspaceId query limit s = .ok memories) {memory : Memory}
    (member : memory ∈ memories) :
    ∃ id : Uuid, s.knowledge.memories[id]? = some memory ∧ isRetrievable env memory = true ∧
      inScope organizationId workspaceId memory.organizationId memory.workspaceId = true := by
  unfold searchMemories at run
  obtain ⟨_, _, run⟩ := bind_eq_ok.mp run
  cases run
  obtain ⟨scored, taken, rfl⟩ := List.mem_map.mp member
  have ranked := List.mem_of_mem_take taken
  rw [(List.perm_insertionSort _ _).mem_iff] at ranked
  obtain ⟨memory, stored, kept⟩ := List.mem_filterMap.mp ranked
  obtain ⟨id, found⟩ := Table.mem_rows.mp stored
  dsimp only at kept
  split at kept
  · rename_i conditions
    cases kept
    simp only [Bool.and_eq_true] at conditions
    exact ⟨id, found, conditions.1.2, conditions.1.1⟩
  · cases kept

/-- `retrieve` returns stored memories of the scope that are published and unexpired. -/
theorem mem_retrieve {organizationId workspaceId query : String} {limit : Nat} {memories : List Memory}
    (run : retrieve x env organizationId workspaceId query limit s = (s', .ok memories)) {memory : Memory}
    (member : memory ∈ memories) :
    ∃ id : Uuid, s.knowledge.memories[id]? = some memory ∧ isRetrievable env memory = true ∧
      inScope organizationId workspaceId memory.organizationId memory.workspaceId = true := by
  have searched : searchMemories x env organizationId workspaceId query limit (sweep env s) = .ok memories :=
    congrArg Prod.snd run
  obtain ⟨id, found, retrievable, owned⟩ := mem_searchMemories searched member
  exact ⟨id, sweep_retrievable found retrievable, retrievable, owned⟩

theorem contextCandidate_eq_some {shares : List MemoryShare} {memory : Memory} {candidate : ContextCandidate}
    (kept : contextCandidate x env principal requestWorkspaceId terms ranks shares memory = some candidate) :
    candidate.memory = memory ∧ memory.organizationId = principal.organizationId ∧
      isRetrievable env memory = true ∧
      (memory.workspaceId = requestWorkspaceId ∧ candidate.shareId = none ∨
        memory.workspaceId ≠ requestWorkspaceId ∧ ∃ share ∈ shares, share.memoryId = memory.id ∧
          share.sourceWorkspaceId = memory.workspaceId ∧ candidate.shareId = some share.id) := by
  unfold contextCandidate at kept
  dsimp only at kept
  by_cases refused : (memory.organizationId != principal.organizationId || !isRetrievable env memory) = true
  · rw [if_pos refused] at kept
    cases kept
  rw [if_neg refused] at kept
  simp only [Bool.or_eq_true, bne_iff_ne, Bool.not_eq_eq_eq_not, Bool.not_true, not_or, ne_eq, not_not,
    Bool.not_eq_false] at refused
  obtain ⟨organization, retrievable⟩ := refused
  by_cases own : memory.workspaceId = requestWorkspaceId
  · have local' : ¬ (memory.workspaceId ≠ requestWorkspaceId ∧ (none : Option Uuid) = none) := fun both => both.1 own
    rw [if_pos own, if_neg local'] at kept
    by_cases unmatched : contextScore x requestWorkspaceId terms ranks memory = 0
    · rw [if_pos unmatched] at kept
      cases kept
    · rw [if_neg unmatched] at kept
      cases kept
      exact ⟨rfl, organization, retrievable, .inl ⟨own, rfl⟩⟩
  · rw [if_neg own] at kept
    cases sharing : sharingFor shares memory with
    | none =>
      rw [sharing, if_pos ⟨own, rfl⟩] at kept
      cases kept
    | some share =>
      have shared : ¬ (memory.workspaceId ≠ requestWorkspaceId ∧ (some share).map MemoryShare.id = none) := by simp
      rw [sharing, if_neg shared] at kept
      by_cases unmatched : contextScore x requestWorkspaceId terms ranks memory = 0
      · rw [if_pos unmatched] at kept
        cases kept
      · rw [if_neg unmatched] at kept
        cases kept
        have matched := List.find?_some sharing
        simp only [Bool.and_eq_true, beq_iff_eq] at matched
        exact ⟨rfl, organization, retrievable,
          .inr ⟨own, share, List.mem_of_find?_eq_some sharing, matched.1, matched.2, rfl⟩⟩

theorem mem_activeShares {share : MemoryShare} :
    share ∈ activeShares env principal requestWorkspaceId s ↔
      (∃ id : Uuid, s.knowledge.memoryShares[id]? = some share) ∧ share.organizationId = principal.organizationId ∧
        share.state = .approved ∧ unexpired env share.expiresAtUnixMs = true ∧
        share.audience.permits requestWorkspaceId principal.id principal.subjectKind = true := by
  unfold activeShares MemoryShare.isActiveFor
  rw [List.mem_filter, Table.mem_rows]
  simp only [Bool.and_eq_true, beq_iff_eq, and_assoc]

theorem find_addCandidates {candidates : List ContextCandidate} {table : Table Uuid ContextCandidate} {id : Uuid}
    {candidate : ContextCandidate} (found : (candidates.foldl addCandidate table)[id]? = some candidate) :
    candidate ∈ candidates ∧ candidate.memory.id = id ∨ table[id]? = some candidate := by
  induction candidates generalizing table with
  | nil => exact .inr found
  | cons first rest ih =>
    rcases ih found with ⟨member, named⟩ | before
    · exact .inl ⟨List.mem_cons_of_mem _ member, named⟩
    · have inserted (written : (table.insert first.memory.id first)[id]? = some candidate) :
          candidate ∈ first :: rest ∧ candidate.memory.id = id ∨ table[id]? = some candidate := by
        rw [Table.find_insert] at written
        by_cases same : first.memory.id = id
        · rw [if_pos same] at written
          cases written
          exact .inl ⟨List.mem_cons_self, same⟩
        · rw [if_neg same] at written
          exact .inr written
      unfold addCandidate at before
      split at before
      · split at before
        · exact .inr before
        · exact inserted before
      · exact inserted before

theorem rankedCandidates_perm : (rankedCandidates x env principal requestWorkspaceId terms ranks s).Perm
    (Table.rows (((Table.rows s.knowledge.memories).filterMap (contextCandidate x env principal requestWorkspaceId
      terms ranks (activeShares env principal requestWorkspaceId s))).foldl addCandidate ∅)) :=
  List.perm_insertionSort _ _

theorem mem_rankedCandidates {candidate : ContextCandidate}
    (member : candidate ∈ rankedCandidates x env principal requestWorkspaceId terms ranks s) :
    ∃ (id : Uuid) (memory : Memory), s.knowledge.memories[id]? = some memory ∧
      contextCandidate x env principal requestWorkspaceId terms ranks
        (activeShares env principal requestWorkspaceId s) memory = some candidate := by
  rw [rankedCandidates_perm.mem_iff, Table.mem_rows] at member
  obtain ⟨key, found⟩ := member
  rcases find_addCandidates found with ⟨listed, _⟩ | nothing
  · obtain ⟨memory, stored, kept⟩ := List.mem_filterMap.mp listed
    obtain ⟨id, memoryFound⟩ := Table.mem_rows.mp stored
    exact ⟨id, memory, memoryFound, kept⟩
  · simp at nothing

theorem rankedCandidates_nodup : ((rankedCandidates x env principal requestWorkspaceId terms ranks s).map
    fun candidate => candidate.memory.id).Nodup := by
  rw [(rankedCandidates_perm.map _).nodup_iff]
  generalize (Table.rows s.knowledge.memories).filterMap _ = candidates
  have keyed : (Table.rows (candidates.foldl addCandidate ∅)).map (fun candidate => candidate.memory.id) =
      (candidates.foldl addCandidate ∅).toList.map Prod.fst := by
    unfold Table.rows
    rw [List.map_map]
    apply List.map_congr_left
    intro entry member
    rw [Std.ExtTreeMap.mem_toList_iff_getElem?_eq_some] at member
    rcases find_addCandidates member with ⟨_, named⟩ | nothing
    · exact named
    · simp at nothing
  rw [keyed, Std.ExtTreeMap.map_fst_toList_eq_keys]
  exact Std.ExtTreeMap.nodup_keys

/-- The packing loop takes some of the candidates in order, and never goes over the budget. -/
theorem packItems_chosen {tokenBudget : Nat} {candidates : List ContextCandidate} {estimatedTokens : Nat}
    {items : List ContextItem} : ∃ chosen : List ContextCandidate, chosen.Sublist candidates ∧
      (packItems tokenBudget candidates estimatedTokens items).2 = items ++ chosen.map ContextCandidate.item ∧
      (packItems tokenBudget candidates estimatedTokens items).1 =
        estimatedTokens + (chosen.map fun candidate => itemTokens candidate.memory).sum ∧
      (estimatedTokens ≤ tokenBudget →
        (packItems tokenBudget candidates estimatedTokens items).1 ≤ tokenBudget) := by
  induction candidates generalizing estimatedTokens items with
  | nil => exact ⟨[], .slnil, by simp [packItems], by simp [packItems], by simp [packItems]⟩
  | cons candidate rest ih =>
    unfold packItems
    by_cases exceeds : estimatedTokens + itemTokens candidate.memory > tokenBudget
    · rw [if_pos exceeds]
      obtain ⟨chosen, sublist, packed, tokens, within⟩ := @ih estimatedTokens items
      exact ⟨chosen, sublist.cons _, packed, tokens, within⟩
    · rw [if_neg exceeds]
      obtain ⟨chosen, sublist, packed, tokens, within⟩ :=
        @ih (estimatedTokens + itemTokens candidate.memory) (items ++ [candidate.item])
      refine ⟨candidate :: chosen, sublist.cons_cons _, ?_, ?_, ?_⟩
      · rw [packed, List.map_cons, List.append_assoc]
        rfl
      · rw [tokens, List.map_cons, List.sum_cons]
        omega
      · intro _
        apply within
        omega

theorem compileContextPackage_swept {query : String} {tokenBudget limit : Nat} {package : ContextPackage}
    (run : compileContextPackage x engines env principal requestWorkspaceId query tokenBudget limit s =
      (s', .ok package)) :
    s' = sweep env s ∧
      assembleContext x engines env principal requestWorkspaceId query tokenBudget limit s' = .ok package := by
  have outcome : Program.Triple
      (compileContextPackage x engines env principal requestWorkspaceId query tokenBudget limit) s
      (fun package s' => s' = sweep env s ∧
        assembleContext x engines env principal requestWorkspaceId query tokenBudget limit s' = .ok package)
      (fun _ _ => True) := by
    have unchanged {f : Store → Result Unit} :
        Program.Triple (Program.query f) s (fun _ s' => s' = s) (fun _ _ => True) :=
      Program.Triple.query (fun _ _ => rfl) fun _ _ => trivial
    refine unchanged.bind fun _ s₁ same => ?_
    subst same
    refine unchanged.bind fun _ s₂ same => ?_
    subst same
    have swept : Program.Triple (expireDueMemories env) s₂ (fun _ s' => s' = sweep env s₂) (fun _ _ => True) :=
      ⟨rfl⟩
    refine swept.bind fun _ s₃ same => ?_
    exact Program.Triple.query (fun _ assembled => ⟨same, assembled⟩) fun _ _ => trivial
  exact outcome.ok run

/-- A context package holds some of the ranked candidates of the swept store. -/
theorem compileContextPackage_ok {query : String} {tokenBudget limit : Nat} {package : ContextPackage}
    (run : compileContextPackage x engines env principal requestWorkspaceId query tokenBudget limit s =
      (s', .ok package)) :
    s' = sweep env s ∧ ∃ (terms : List String) (ranks : Table String Nat) (chosen : List ContextCandidate),
      chosen.Sublist (rankedCandidates x env principal requestWorkspaceId terms ranks s') ∧
      package.items = chosen.map ContextCandidate.item ∧
      package.estimatedTokens = (chosen.map fun candidate => itemTokens candidate.memory).sum ∧
      package.estimatedTokens ≤ tokenBudget := by
  obtain ⟨swept, assembled⟩ := compileContextPackage_swept run
  refine ⟨swept, ?_⟩
  unfold assembleContext at assembled
  obtain ⟨_, _, assembled⟩ := bind_eq_ok.mp assembled
  obtain ⟨chunks, _, assembled⟩ := bind_eq_ok.mp assembled
  cases assembled
  generalize searchTerms x query = terms
  generalize localSourceRanks chunks = ranks
  obtain ⟨chosen, sublist, packed, tokens, within⟩ := @packItems_chosen tokenBudget
    ((rankedCandidates x env principal requestWorkspaceId terms ranks s').take (max 1 (min limit 50))) 0 []
  refine ⟨terms, ranks, chosen, sublist.trans (List.take_sublist _ _), packed, ?_, within (Nat.zero_le _)⟩
  rw [tokens, Nat.zero_add]

end Hangar
