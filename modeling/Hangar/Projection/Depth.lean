import Hangar.Lib.Ranking
import Hangar.Projection.Materialize
import Hangar.Projection.Traversal
import Mathlib.Data.List.Infix

namespace Hangar

open Lib

variable {edges : List GraphEdge} {evidence : Uuid → List GraphEdgeEvidence} {edge : GraphEdge} {v : Uuid}
  {t : Traversal} {hops bound bound' fuel n : Nat} {seeds : List Uuid} {confidence : ℚ} {done : List (Uuid × Nat)}
  {shallow candidates : Table Uuid GraphCandidate}

theorem followAll_candidates {I : Table Uuid GraphCandidate → Prop}
    (consider : ∀ edge ∈ edges, ∀ (t : Traversal) item, I t.candidates → I (t.consider edge (hops + 1) item).candidates)
    (holds : I t.candidates) : I (t.followAll evidence v hops edges).candidates := by
  induction edges generalizing t with
  | nil => exact holds
  | cons edge edges ih =>
    have considered (items : List GraphEdgeEvidence) (t : Traversal) (holds : I t.candidates) :
        I (items.foldl (fun t item => t.consider edge (hops + 1) item) t).candidates := by
      induction items generalizing t with
      | nil => exact holds
      | cons item items again => exact again _ (consider edge List.mem_cons_self t item holds)
    have followed : I (t.follow evidence v hops edge).candidates := by
      rw [follow_eq]
      apply considered
      rw [advance_candidates]
      exact holds
    unfold Traversal.followAll
    dsimp only
    split
    · exact followed
    · exact ih (fun edge member => consider edge (List.mem_cons_of_mem _ member)) followed

theorem followAll_frontier {p : Uuid × Nat} (member : p ∈ (t.followAll evidence v hops edges).frontier) :
    p ∈ t.frontier ∨ p.2 = hops + 1 := by
  induction edges generalizing t with
  | nil => exact .inl member
  | cons edge edges ih =>
    have followed {p : Uuid × Nat} (member : p ∈ (t.follow evidence v hops edge).frontier) :
        p ∈ t.frontier ∨ p.2 = hops + 1 := by
      have queue : (t.follow evidence v hops edge).queue = t.queue.reach (hops + 1) (edge.other v) := by
        rw [follow_eq, considerAll_queue, queue_advance]
        rfl
      have frontier := congrArg Queue.frontier queue
      rw [show (t.follow evidence v hops edge).frontier = _ from frontier] at member
      unfold Queue.reach at member
      split at member
      · rcases List.mem_append.mp member with old | last
        · exact .inl old
        · exact .inr (by rw [List.mem_singleton.mp last])
      · exact .inl member
    unfold Traversal.followAll at member
    dsimp only at member
    split at member
    · exact followed member
    · rcases ih member with old | next
      · exact followed old
      · exact .inr next

def Within (confidence : ℚ) (bound : Nat) (candidates : Table Uuid GraphCandidate) : Prop :=
  ∀ (chunkId : Uuid) c, candidates[chunkId]? = some c → confidence / bound ≤ c.score

/-- The candidates of the first table, with others that score less than any of them. -/
structure Deepened (confidence : ℚ) (bound : Nat) (shallow candidates : Table Uuid GraphCandidate) : Prop where
  kept : ∀ (chunkId : Uuid) c, shallow[chunkId]? = some c → candidates[chunkId]? = some c
  deeper : ∀ (chunkId : Uuid) c, candidates[chunkId]? = some c →
    shallow[chunkId]? = some c ∨ c.score < confidence / bound

theorem Deepened.refl : Deepened confidence bound shallow shallow where
  kept _ _ found := found
  deeper _ _ found := .inl found

theorem Within.consider (within : Within confidence bound t.candidates) (positive : 0 < confidence)
    (same : edge.confidence = confidence) (some : 0 < n) (near : n ≤ bound) (item : GraphEdgeEvidence) :
    Within confidence bound (t.consider edge n item).candidates := by
  rw [consider_eq]
  split
  · intro chunkId c found
    rw [Table.find_insert] at found
    split at found
    · cases found
      show confidence / bound ≤ edge.confidence / n
      rw [same]
      rcases Nat.lt_or_eq_of_le near with less | equal
      · exact le_of_lt ((score_lt positive (Nat.lt_trans some less) some).mpr less)
      · rw [equal]
    · exact within chunkId c found
  · exact within

/-- Evidence beyond the bound neither displaces nor rescores a candidate within it. -/
theorem Deepened.consider (deepened : Deepened confidence bound shallow t.candidates)
    (within : Within confidence bound shallow) (positive : 0 < confidence) (same : edge.confidence = confidence)
    (some : 0 < bound) (far : bound < n) (item : GraphEdgeEvidence) :
    Deepened confidence bound shallow (t.consider edge n item).candidates := by
  have less : (candidateOf edge n item).score < confidence / bound := by
    show edge.confidence / n < confidence / bound
    rw [same]
    exact (score_lt positive (Nat.lt_trans some far) some).mpr far
  rw [consider_eq]
  split
  · rename_i replace
    constructor
    · intro chunkId c found
      rw [Table.find_insert_ne]
      · exact deepened.kept chunkId c found
      · rintro rfl
        rw [deepened.kept _ c found, Option.all_some, decide_eq_true_eq] at replace
        exact absurd (lt_trans replace less) (not_lt_of_ge (within _ c found))
    · intro chunkId c found
      rw [Table.find_insert] at found
      split at found
      · cases found
        exact .inr less
      · exact deepened.deeper chunkId c found
  · exact deepened

theorem run_within (ahead : ∀ p ∈ t.frontier, bound ≤ p.2) :
    (Traversal.run edges evidence bound fuel t).candidates = t.candidates := by
  induction fuel generalizing t with
  | zero => rfl
  | succ fuel ih =>
    unfold Traversal.run
    cases first : t.frontier with
    | nil => rfl
    | cons entry rest =>
      rw [first] at ahead
      dsimp only
      rw [if_pos (.inl (ahead entry List.mem_cons_self))]
      exact ih fun p member => ahead p (List.mem_cons_of_mem _ member)

theorem Deepened.run (deepened : Deepened confidence bound shallow t.candidates)
    (within : Within confidence bound shallow) (positive : 0 < confidence)
    (uniform : ∀ edge ∈ edges, edge.confidence = confidence) (some : 0 < bound)
    (ahead : ∀ p ∈ t.frontier, bound ≤ p.2) :
    Deepened confidence bound shallow (Traversal.run edges evidence bound' fuel t).candidates := by
  induction fuel generalizing t with
  | zero => exact deepened
  | succ fuel ih =>
    unfold Traversal.run
    cases first : t.frontier with
    | nil => exact deepened
    | cons entry rest =>
      rw [first] at ahead
      have reached := ahead entry List.mem_cons_self
      have later : ∀ p ∈ rest, bound ≤ p.2 := fun p member => ahead p (List.mem_cons_of_mem _ member)
      dsimp only
      split
      · exact ih deepened later
      · apply ih
        · apply followAll_candidates (I := Deepened confidence bound shallow) (t := { t with frontier := rest }) _ deepened
          intro edge member t item holds
          exact holds.consider within positive (uniform edge (List.mem_filter.mp member).1) some
            (Nat.lt_succ_of_le reached) item
        · intro p member
          rcases followAll_frontier member with old | next
          · exact later p old
          · rw [next]
            exact Nat.le_succ_of_le reached

/-- Up to the bound the two runs are one; then the shallow one stops and the deep one goes on. -/
theorem Sweeping.deepened (sweeping : Sweeping edges evidence seeds bound confidence done t) (positive : 0 < confidence)
    (uniform : ∀ edge ∈ edges, edge.confidence = confidence) (some : 0 < bound) (deeper : bound ≤ bound')
    (within : Within confidence bound t.candidates) (fuel : Nat) :
    Within confidence bound (Traversal.run edges evidence bound fuel t).candidates ∧
      Deepened confidence bound (Traversal.run edges evidence bound fuel t).candidates
        (Traversal.run edges evidence bound' fuel t).candidates := by
  induction fuel generalizing t done with
  | zero => exact ⟨within, .refl⟩
  | succ fuel ih =>
    cases first : t.frontier with
    | nil =>
      unfold Traversal.run
      rw [first]
      exact ⟨within, .refl⟩
    | cons entry rest =>
      obtain ⟨v, hops⟩ := entry
      by_cases far : bound ≤ hops
      · have ahead : ∀ p ∈ t.frontier, bound ≤ p.2 := by
          obtain ⟨level, swept⟩ := sweeping.swept
          have ordered : t.frontier.Pairwise fun a b => a.2 ≤ b.2 := swept.ordered
          rw [first, List.pairwise_cons] at ordered
          rw [first]
          intro p member
          rcases List.mem_cons.mp member with rfl | later
          · exact far
          · exact Nat.le_trans far (ordered.1 p later)
        rw [run_within ahead]
        exact ⟨within, Deepened.refl.run within positive uniform some ahead⟩
      · unfold Traversal.run
        rw [first]
        dsimp only
        rw [Nat.not_le] at far
        by_cases used : t.traversedEdges ≥ graphMaxTraversedEdges
        · rw [if_pos (.inr used), if_pos (.inr used)]
          exact ih (sweeping.drop first (.inr used)) within
        · have open' : ¬(hops ≥ bound ∨ t.traversedEdges ≥ graphMaxTraversedEdges) := by omega
          have open'' : ¬(hops ≥ bound' ∨ t.traversedEdges ≥ graphMaxTraversedEdges) := by omega
          rw [if_neg open', if_neg open'']
          apply ih (sweeping.expand positive uniform first far (Nat.not_le.mp used))
          apply followAll_candidates (I := Within confidence bound) (t := { t with frontier := rest }) _ within
          intro edge member t item holds
          exact holds.consider positive (uniform edge (List.mem_filter.mp member).1) (Nat.succ_pos hops) far item

theorem Deepened.sorted (deepened : Deepened confidence bound shallow candidates)
    (within : Within confidence bound shallow) :
    (shallow.rows.insertionSort fun left right => right.score ≤ left.score) <+:
      candidates.rows.insertionSort fun left right => right.score ≤ left.score := by
  let near (c : GraphCandidate) : Bool := confidence / bound ≤ c.score
  have part : candidates.filter (fun _ c => near c) = shallow := by
    apply Table.ext_find
    intro chunkId
    apply Option.ext
    intro c
    rw [Table.find_filter_eq_some, decide_eq_true_eq]
    constructor
    · rintro ⟨found, close⟩
      exact (deepened.deeper chunkId c found).resolve_right (not_lt_of_ge close)
    · intro found
      exact ⟨deepened.kept chunkId c found, within chunkId c found⟩
  have before : ∀ a b, near a = true → near b = false → b.score ≤ a.score ∧ ¬a.score ≤ b.score := by
    intro a b close far
    rw [decide_eq_true_eq] at close
    rw [decide_eq_false_iff_not, not_le] at far
    exact ⟨le_of_lt (lt_of_lt_of_le far close), not_le_of_gt (lt_of_lt_of_le far close)⟩
  rw [insertionSort_filter before candidates.rows, ← Table.rows_filter, part]
  exact List.prefix_append _ _

section
variable {x : Externals} {engines : SearchEngines} {organizationId workspaceId : String}

theorem mem_graphEdges {t : GraphTables} (member : edge ∈ graphEdges organizationId workspaceId t) :
    ∃ id : Uuid, t.edges[id]? = some edge := by
  obtain ⟨key, found⟩ := Table.mem_rows.mp member
  rcases Table.find_insertAll found with listed | ⟨_, absent⟩
  · obtain ⟨stored, kept, same⟩ := List.mem_map.mp listed
    cases same
    exact Table.mem_rows.mp (List.mem_filter.mp kept).1
  · simp at absent

theorem clampedHops_le {maxHops maxHops' : Nat} (more : maxHops ≤ maxHops') :
    clampedHops maxHops ≤ clampedHops maxHops' := by
  unfold clampedHops
  omega

/-- Allowing more hops only appends graph results. -/
theorem graph_candidates_prefix {server : Server} (reachable : Reachable x engines server) (query : String)
    (limit : Nat) {maxHops maxHops' : Nat} (more : maxHops ≤ maxHops') :
    graphCandidates x organizationId workspaceId query limit maxHops server.store <+:
      graphCandidates x organizationId workspaceId query limit maxHops' server.store := by
  have positive : (0 : ℚ) < 1 / 2 := by norm_num
  have uniform : ∀ edge ∈ graphEdges organizationId workspaceId server.store.projection.graph,
      edge.confidence = 1 / 2 := by
    intro edge member
    obtain ⟨id, found⟩ := mem_graphEdges member
    exact (reachable.extracted.edge found).2.confidence
  have some : 0 < clampedHops maxHops := by
    unfold clampedHops
    omega
  have start : Sweeping (graphEdges organizationId workspaceId server.store.projection.graph)
      (evidenceByEdge server.store.projection.graph)
      (graphSeeds x organizationId workspaceId query server.store.projection.graph) (clampedHops maxHops) (1 / 2) []
      (Traversal.start (graphSeeds x organizationId workspaceId query server.store.projection.graph)) :=
    Sweeping.start graphSeeds_nodup
  have empty : Within (1 / 2) (clampedHops maxHops)
      (Traversal.start (graphSeeds x organizationId workspaceId query server.store.projection.graph)).candidates := by
    intro chunkId c found
    simp [Traversal.start] at found
  obtain ⟨within, deepened⟩ := start.deepened positive uniform some (clampedHops_le more) empty
    ((graphSeeds x organizationId workspaceId query server.store.projection.graph).length + graphMaxTraversedEdges)
  rw [graphCandidates_eq, graphCandidates_eq]
  exact List.IsPrefix.take (deepened.sorted within) limit

end

/-- The sample with one embedding for all texts. -/
def uniformSample : Externals := { sample with embed := fun _ _ => .ok (unitVector 0 1) }

def betaDocument : NewDocument := sampleDocument "acme" "lab" "alpha beta" none

def gammaDocument : NewDocument := sampleDocument "acme" "lab" "beta gamma" none

def relatedServer : Server := freshRun uniformSample noHits
  [(1, .ingestion (.enqueueDocument betaDocument)), (2, .ingestion .claimNextIngestionJob),
    (3, .ingestion (.processClaimedIngestionJob
      ⟨(newJob uniformSample (serialEnv 1 0) betaDocument).lease (serialEnv 2 16), "alpha beta"⟩ none)),
    (4, .ingestion (.enqueueDocument gammaDocument)), (5, .ingestion .claimNextIngestionJob),
    (6, .ingestion (.processClaimedIngestionJob
      ⟨(newJob uniformSample (serialEnv 4 48) gammaDocument).lease (serialEnv 5 64), "beta gamma"⟩ none))]

theorem graph_candidates_prefix_related :
    graphCandidates uniformSample "acme" "lab" "alpha" 5 1 relatedServer.store <+:
      graphCandidates uniformSample "acme" "lab" "alpha" 5 2 relatedServer.store := by
  have reachable : Reachable uniformSample noHits relatedServer := freshRun_reachable (by decide +kernel)
  exact graph_candidates_prefix reachable "alpha" 5 (by decide)

end Hangar
