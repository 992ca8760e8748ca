import Hangar.Concrete
import Hangar.Lib.Breadth
import Hangar.Projection.Retrieval
import Mathlib.Algebra.Order.Field.Rat
import Mathlib.Algebra.Order.Field.Basic

namespace Hangar

open Lib

def GraphEdge.Touches (edge : GraphEdge) (v : Uuid) : Prop := edge.sourceEntityId = v ∨ edge.targetEntityId = v

def GraphEdge.other (edge : GraphEdge) (v : Uuid) : Uuid :=
  if edge.sourceEntityId = v then edge.targetEntityId else edge.sourceEntityId

def Joined (edges : List GraphEdge) (v w : Uuid) : Prop :=
  ∃ edge ∈ edges, (edge.sourceEntityId = v ∧ edge.targetEntityId = w) ∨
    (edge.sourceEntityId = w ∧ edge.targetEntityId = v)

def incident (edges : List GraphEdge) (v : Uuid) : List GraphEdge :=
  edges.filter fun edge => edge.sourceEntityId == v || edge.targetEntityId == v

variable {edges : List GraphEdge} {evidence : Uuid → List GraphEdgeEvidence} {edge : GraphEdge} {v w chunkId : Uuid}
  {t : Traversal} {hops maxHops fuel n : Nat} {seeds : List Uuid} {confidence : ℚ} {done : List (Uuid × Nat)}

theorem mem_incident : edge ∈ incident edges v ↔ edge ∈ edges ∧ edge.Touches v := by
  simp [incident, GraphEdge.Touches]

theorem joined_iff : Joined edges v w ↔ ∃ edge ∈ incident edges v, edge.other v = w := by
  unfold Joined GraphEdge.other
  constructor
  · rintro ⟨edge, listed, ⟨rfl, rfl⟩ | ⟨rfl, rfl⟩⟩
    · exact ⟨edge, mem_incident.mpr ⟨listed, .inl rfl⟩, if_pos rfl⟩
    · refine ⟨edge, mem_incident.mpr ⟨listed, .inr rfl⟩, ?_⟩
      by_cases loop : edge.sourceEntityId = edge.targetEntityId
      · rw [if_pos loop, loop]
      · rw [if_neg loop]
  · rintro ⟨edge, member, rfl⟩
    rcases mem_incident.mp member with ⟨listed, touches⟩
    refine ⟨edge, listed, ?_⟩
    by_cases source : edge.sourceEntityId = v
    · simp [source]
    · rcases touches with same | target
      · exact absurd same source
      · simp [source, target]

def Traversal.queue (t : Traversal) : Queue Uuid := ⟨t.frontier, fun v => t.visited[v]?⟩

def offers (edges : List GraphEdge) (evidence : Uuid → List GraphEdgeEvidence) (p : Uuid × Nat) : List (Uuid × Nat) :=
  (incident edges p.1).flatMap fun edge => (evidence edge.id).map fun item => (item.chunkId, p.2 + 1)

/-- Each chunk offered is a candidate with the fewest hops it was offered with. -/
structure Ranked (confidence : ℚ) (offered : List (Uuid × Nat)) (candidates : Table Uuid GraphCandidate) : Prop where
  positive : ∀ p ∈ offered, 0 < p.2
  exact : ∀ (chunkId : Uuid) c, candidates[chunkId]? = some c → c.chunkId = chunkId ∧ c.score = confidence / c.hops ∧
    IsLeast {n | (chunkId, n) ∈ offered} c.hops
  complete : ∀ p ∈ offered, p.1 ∈ candidates

def candidateOf (edge : GraphEdge) (n : Nat) (item : GraphEdgeEvidence) : GraphCandidate :=
  { edgeId := edge.id, chunkId := item.chunkId, score := edge.confidence / n, hops := n }

theorem consider_eq {item : GraphEdgeEvidence} : t.consider edge n item =
    { t with candidates :=
        if (t.candidates[item.chunkId]?).all fun current => (candidateOf edge n item).score > current.score then
          t.candidates.insert item.chunkId (candidateOf edge n item)
        else t.candidates } := by
  show (if _ then _ else t) = _
  by_cases replace : (t.candidates[item.chunkId]?).all (fun current => (candidateOf edge n item).score > current.score) = true
  · rw [if_pos replace]
    exact if_pos replace
  · rw [if_neg replace]
    exact if_neg replace

theorem score_lt {m n : Nat} (positive : 0 < confidence) (some : 0 < m) (some' : 0 < n) :
    confidence / (m : ℚ) < confidence / (n : ℚ) ↔ n < m := by
  rw [div_lt_div_iff_of_pos_left positive (by exact_mod_cast some) (by exact_mod_cast some')]
  exact_mod_cast Iff.rfl

theorem Ranked.consider {offered : List (Uuid × Nat)} (ranked : Ranked confidence offered t.candidates)
    (item : GraphEdgeEvidence) (positive : 0 < confidence) (same : edge.confidence = confidence) (later : 0 < n) :
    Ranked confidence (offered ++ [(item.chunkId, n)]) (t.consider edge n item).candidates := by
  have positive' : ∀ p ∈ offered ++ [(item.chunkId, n)], 0 < p.2 := by
    intro p member
    rcases List.mem_append.mp member with earlier | last
    · exact ranked.positive p earlier
    · rw [List.mem_singleton.mp last]
      exact later
  have others {chunkId : Uuid} (other : item.chunkId ≠ chunkId) :
      {m | (chunkId, m) ∈ offered ++ [(item.chunkId, n)]} = {m | (chunkId, m) ∈ offered} := by
    ext m
    simp [Ne.symm other]
  have own : {m | (item.chunkId, m) ∈ offered ++ [(item.chunkId, n)]} = insert n {m | (item.chunkId, m) ∈ offered} := by
    ext m
    simp [or_comm]
  rw [consider_eq]
  by_cases replace : (t.candidates[item.chunkId]?).all (fun current => (candidateOf edge n item).score > current.score) = true
  · simp only [if_pos replace]
    have least : ∀ m, (item.chunkId, m) ∈ offered → n ≤ m := by
      intro m member
      have stored := ranked.complete _ member
      rw [Std.ExtTreeMap.mem_iff_isSome_getElem?, Option.isSome_iff_exists] at stored
      rcases stored with ⟨current, found⟩
      rcases ranked.exact _ current found with ⟨_, score, attained, minimal⟩
      have fewer := minimal member
      have some := ranked.positive _ attained
      simp only [found, Option.all_some, decide_eq_true_eq, candidateOf, same, score, gt_iff_lt] at replace
      rw [score_lt positive some later] at replace
      omega
    refine ⟨positive', ?_, ?_⟩
    · intro chunkId c found
      rw [Table.find_insert] at found
      by_cases here : item.chunkId = chunkId
      · subst here
        rw [if_pos rfl, Option.some.injEq] at found
        subst found
        refine ⟨rfl, by simp [candidateOf, same], ?_⟩
        rw [own]
        refine ⟨Set.mem_insert n _, ?_⟩
        rintro m (rfl | member)
        · exact Nat.le_refl m
        · exact least m member
      · rw [if_neg here] at found
        rw [others here]
        exact ranked.exact chunkId c found
    · intro p member
      rw [Std.ExtTreeMap.mem_insert, Std.LawfulEqOrd.compare_eq_iff_eq]
      rcases List.mem_append.mp member with earlier | last
      · exact .inr (ranked.complete p earlier)
      · rw [List.mem_singleton.mp last]
        exact .inl rfl
  · simp only [if_neg replace]
    cases stored : t.candidates[item.chunkId]? with
    | none => simp [stored] at replace
    | some current =>
      rcases ranked.exact _ current stored with ⟨_, score, attained, minimal⟩
      have some := ranked.positive _ attained
      simp only [stored, Option.all_some, decide_eq_true_eq, candidateOf, same, score, gt_iff_lt] at replace
      rw [score_lt positive some later] at replace
      refine ⟨positive', ?_, ?_⟩
      · intro chunkId c found
        by_cases here : item.chunkId = chunkId
        · subst here
          rw [stored, Option.some.injEq] at found
          subst found
          refine ⟨(ranked.exact _ current stored).1, score, ?_⟩
          rw [own]
          refine ⟨Set.mem_insert_of_mem n attained, ?_⟩
          rintro m (rfl | member)
          · omega
          · exact minimal member
        · rw [others here]
          exact ranked.exact chunkId c found
      · intro p member
        rcases List.mem_append.mp member with earlier | last
        · exact ranked.complete p earlier
        · rw [List.mem_singleton.mp last, Std.ExtTreeMap.mem_iff_isSome_getElem?, stored]
          rfl

theorem consider_queue {item : GraphEdgeEvidence} : (t.consider edge n item).queue = t.queue := by
  rw [consider_eq]
  rfl

theorem consider_count {item : GraphEdgeEvidence} : (t.consider edge n item).traversedEdges = t.traversedEdges := by
  rw [consider_eq]

theorem considerAll_queue {items : List GraphEdgeEvidence} :
    (items.foldl (fun t item => t.consider edge n item) t).queue = t.queue := by
  induction items generalizing t with
  | nil => rfl
  | cons item items ih => rw [List.foldl_cons, ih, consider_queue]

theorem considerAll_count {items : List GraphEdgeEvidence} :
    (items.foldl (fun t item => t.consider edge n item) t).traversedEdges = t.traversedEdges := by
  induction items generalizing t with
  | nil => rfl
  | cons item items ih => rw [List.foldl_cons, ih, consider_count]

theorem Ranked.considerAll {offered : List (Uuid × Nat)} (ranked : Ranked confidence offered t.candidates)
    (items : List GraphEdgeEvidence) (positive : 0 < confidence) (same : edge.confidence = confidence)
    (later : 0 < n) : Ranked confidence (offered ++ items.map fun item => (item.chunkId, n))
      (items.foldl (fun t item => t.consider edge n item) t).candidates := by
  induction items generalizing t offered with
  | nil => simpa using ranked
  | cons item items ih =>
    have first := ih (ranked.consider item positive same later)
    simpa using first

def Traversal.advance (t : Traversal) (next : Uuid) (nextHops : Nat) : Traversal :=
  if (t.visited[next]?).all fun existing => nextHops < existing then
    { t with visited := t.visited.insert next nextHops, frontier := t.frontier ++ [(next, nextHops)] }
  else t

theorem queue_advance : (t.advance w n).queue = t.queue.reach n w := by
  unfold Traversal.advance Queue.reach
  by_cases improves : (t.visited[w]?).all (fun existing => n < existing) = true
  · rw [if_pos improves]
    refine Eq.trans ?_ (if_pos improves).symm
    have labels : (fun v => (t.visited.insert w n)[v]?) = fun v => if w = v then some n else t.visited[v]? := by
      funext v
      exact Table.find_insert
    show (⟨t.frontier ++ [(w, n)], fun v => (t.visited.insert w n)[v]?⟩ : Queue Uuid) = _
    rw [labels]
    rfl
  · rw [if_neg improves]
    exact (if_neg improves).symm

theorem advance_candidates : (t.advance w n).candidates = t.candidates := by
  unfold Traversal.advance
  split <;> rfl

theorem advance_count : (t.advance w n).traversedEdges = t.traversedEdges := by
  unfold Traversal.advance
  split <;> rfl

theorem follow_eq : t.follow evidence v hops edge = (evidence edge.id).foldl (fun t item => t.consider edge (hops + 1) item)
    (Traversal.advance { t with traversedEdges := t.traversedEdges + 1 } (edge.other v) (hops + 1)) := rfl

theorem followed_queue (evidence : Uuid → List GraphEdgeEvidence) (v : Uuid) (hops : Nat)
    (traversed : List GraphEdge) : (traversed.foldl (fun t edge => t.follow evidence v hops edge) t).queue =
      t.queue.reachAll (hops + 1) (traversed.map fun edge => edge.other v) := by
  induction traversed generalizing t with
  | nil => rfl
  | cons edge traversed ih =>
    have first : (t.follow evidence v hops edge).queue = t.queue.reach (hops + 1) (edge.other v) := by
      rw [follow_eq, considerAll_queue, queue_advance]
      rfl
    rw [List.foldl_cons, ih, first]
    rfl

theorem follow_count : (t.follow evidence v hops edge).traversedEdges = t.traversedEdges + 1 := by
  rw [follow_eq, considerAll_count, advance_count]

theorem followed_count {traversed : List GraphEdge} :
    (traversed.foldl (fun t edge => t.follow evidence v hops edge) t).traversedEdges = t.traversedEdges + traversed.length := by
  induction traversed generalizing t with
  | nil => rfl
  | cons edge traversed ih =>
    rw [List.foldl_cons, ih, follow_count, List.length_cons]
    omega

theorem Ranked.followed {offered : List (Uuid × Nat)} {traversed : List GraphEdge}
    (ranked : Ranked confidence offered t.candidates) (positive : 0 < confidence)
    (uniform : ∀ edge ∈ traversed, edge.confidence = confidence) :
    Ranked confidence
      (offered ++ traversed.flatMap fun edge => (evidence edge.id).map fun item => (item.chunkId, hops + 1))
      (traversed.foldl (fun t edge => t.follow evidence v hops edge) t).candidates := by
  induction traversed generalizing t offered with
  | nil => simpa using ranked
  | cons edge traversed ih =>
    have start : Ranked confidence offered
        (Traversal.advance { t with traversedEdges := t.traversedEdges + 1 } (edge.other v) (hops + 1)).candidates := by
      rw [advance_candidates]
      exact ranked
    have first := start.considerAll (evidence edge.id) positive (uniform edge List.mem_cons_self) (Nat.succ_pos hops)
    have later := ih first fun edge listed => uniform edge (List.mem_cons_of_mem _ listed)
    rw [List.append_assoc] at later
    exact later

/-- The edges of an entity are followed one after another; some are left out only when the budget is used up. -/
theorem followAll_prefix (evidence : Uuid → List GraphEdgeEvidence) (v : Uuid) (hops : Nat) (edges : List GraphEdge)
    (under : t.traversedEdges < graphMaxTraversedEdges) : ∃ traversed rest,
    edges = traversed ++ rest ∧
    t.followAll evidence v hops edges = traversed.foldl (fun t edge => t.follow evidence v hops edge) t ∧
    t.traversedEdges + traversed.length ≤ graphMaxTraversedEdges ∧
    ((t.followAll evidence v hops edges).traversedEdges < graphMaxTraversedEdges → rest = []) := by
  induction edges generalizing t with
  | nil => exact ⟨[], [], rfl, rfl, Nat.le_of_lt under, fun _ => rfl⟩
  | cons edge edges ih =>
    by_cases used : (t.follow evidence v hops edge).traversedEdges ≥ graphMaxTraversedEdges
    · have stopped : t.followAll evidence v hops (edge :: edges) = t.follow evidence v hops edge := if_pos used
      refine ⟨[edge], edges, rfl, stopped, under, ?_⟩
      rw [stopped]
      omega
    · have continued : t.followAll evidence v hops (edge :: edges) =
          (t.follow evidence v hops edge).followAll evidence v hops edges := if_neg used
      rcases ih (t := t.follow evidence v hops edge) (Nat.not_le.mp used) with
        ⟨traversed, rest, split, result, count, complete⟩
      refine ⟨edge :: traversed, rest, by rw [split, List.cons_append], continued.trans result, ?_, ?_⟩
      · rw [follow_count] at count
        rw [List.length_cons]
        omega
      · rw [continued]
        exact complete

def Traversal.expansions (edges : List GraphEdge) (evidence : Uuid → List GraphEdgeEvidence) (maxHops : Nat) :
    Nat → Traversal → List (Uuid × Nat)
  | 0, _ => []
  | fuel + 1, t =>
    match t.frontier with
    | [] => []
    | (entityId, hops) :: frontier =>
      let t := { t with frontier := frontier }
      if hops ≥ maxHops ∨ t.traversedEdges ≥ graphMaxTraversedEdges then expansions edges evidence maxHops fuel t
      else (entityId, hops) ::
        expansions edges evidence maxHops fuel (t.followAll evidence entityId hops (incident edges entityId))

/-- The invariant of the loop, over the entities expanded so far. -/
structure Sweeping (edges : List GraphEdge) (evidence : Uuid → List GraphEdgeEvidence) (seeds : List Uuid) (maxHops : Nat)
    (confidence : ℚ) (done : List (Uuid × Nat)) (t : Traversal) : Prop where
  swept : ∃ level, Swept (fun v => v ∈ seeds) (Joined edges) level done t.queue
  below : ∀ p ∈ done, p.2 < maxHops
  budget : t.traversedEdges ≤ graphMaxTraversedEdges
  covered : t.traversedEdges < graphMaxTraversedEdges → Covered (Joined edges) maxHops done t.queue
  ranked : t.traversedEdges < graphMaxTraversedEdges → Ranked confidence (done.flatMap (offers edges evidence)) t.candidates

variable {rest : List (Uuid × Nat)}

theorem Sweeping.drop (sweeping : Sweeping edges evidence seeds maxHops confidence done t)
    (first : t.frontier = (v, hops) :: rest) (skipped : hops ≥ maxHops ∨ t.traversedEdges ≥ graphMaxTraversedEdges) :
    Sweeping edges evidence seeds maxHops confidence done { t with frontier := rest } := by
  have queue : t.queue = ⟨(v, hops) :: rest, fun v => t.visited[v]?⟩ := by
    unfold Traversal.queue
    rw [first]
  rcases sweeping.swept with ⟨level, swept⟩
  rw [queue] at swept
  refine ⟨⟨level, swept.drop⟩, sweeping.below, sweeping.budget, ?_, sweeping.ranked⟩
  intro under
  have covered := sweeping.covered under
  rw [queue] at covered
  rcases skipped with far | used
  · exact covered.drop far
  · exact absurd under (Nat.not_lt.mpr used)

theorem Sweeping.expand (sweeping : Sweeping edges evidence seeds maxHops confidence done t) (positive : 0 < confidence)
    (uniform : ∀ edge ∈ edges, edge.confidence = confidence) (first : t.frontier = (v, hops) :: rest)
    (near : hops < maxHops) (under : t.traversedEdges < graphMaxTraversedEdges) :
    Sweeping edges evidence seeds maxHops confidence (done ++ [(v, hops)])
      (Traversal.followAll evidence v hops (incident edges v) { t with frontier := rest }) := by
  have queue : t.queue = ⟨(v, hops) :: rest, fun v => t.visited[v]?⟩ := by
    unfold Traversal.queue
    rw [first]
  rcases sweeping.swept with ⟨level, swept⟩
  have covered := sweeping.covered under
  rw [queue] at swept covered
  rcases followAll_prefix (t := { t with frontier := rest }) evidence v hops (incident edges v) under with
    ⟨traversed, left, split, result, count, complete⟩
  have walk : WalkTo (fun v => v ∈ seeds) (Joined edges) hops v := by
    apply swept.sound
    exact swept.labelled (v, hops) (by simp)
  have neighbours : ∀ w ∈ traversed.map fun edge => edge.other v,
      WalkTo (fun v => v ∈ seeds) (Joined edges) (hops + 1) w := by
    intro w member
    rcases List.mem_map.mp member with ⟨edge, followed, far⟩
    refine walk.step (joined_iff.mpr ⟨edge, ?_, far⟩)
    rw [split]
    exact List.mem_append_left _ followed
  rw [result] at complete ⊢
  refine ⟨⟨hops, ?_⟩, ?_, ?_, ?_, ?_⟩
  · rw [followed_queue]
    exact swept.expand.reachAll neighbours
  · intro p member
    rcases List.mem_append.mp member with earlier | last
    · exact sweeping.below p earlier
    · rw [List.mem_singleton.mp last]
      exact near
  · rw [followed_count]
    exact count
  · intro open'
    have all : incident edges v = traversed := by rw [split, complete open', List.append_nil]
    rw [followed_queue]
    apply covered.expand
    intro w edge
    rw [← all]
    exact List.mem_map.mpr (joined_iff.mp edge)
  · intro open'
    have all : incident edges v = traversed := by rw [split, complete open', List.append_nil]
    rw [List.flatMap_append, List.flatMap_singleton]
    have offered : offers edges evidence (v, hops) =
        traversed.flatMap fun edge => (evidence edge.id).map fun item => (item.chunkId, hops + 1) := by
      unfold offers
      rw [all]
    rw [offered]
    apply Ranked.followed (t := { t with frontier := rest }) (sweeping.ranked under) positive
    intro edge followed
    rw [← all] at followed
    exact uniform edge (mem_incident.mp followed).1

theorem Sweeping.run (sweeping : Sweeping edges evidence seeds maxHops confidence done t) (positive : 0 < confidence)
    (uniform : ∀ edge ∈ edges, edge.confidence = confidence) :
    Sweeping edges evidence seeds maxHops confidence (done ++ Traversal.expansions edges evidence maxHops fuel t)
      (Traversal.run edges evidence maxHops fuel t) := by
  induction fuel generalizing t done with
  | zero =>
    rw [Traversal.expansions, List.append_nil]
    exact sweeping
  | succ fuel ih =>
    unfold Traversal.expansions Traversal.run
    cases first : t.frontier with
    | nil =>
      rw [List.append_nil]
      exact sweeping
    | cons entry rest =>
      obtain ⟨v, hops⟩ := entry
      by_cases skipped : hops ≥ maxHops ∨ t.traversedEdges ≥ graphMaxTraversedEdges
      · simp only [if_pos skipped]
        exact ih (sweeping.drop first skipped)
      · simp only [if_neg skipped]
        rw [not_or, Nat.not_le, Nat.not_le] at skipped
        have later := ih (sweeping.expand positive uniform first skipped.1 skipped.2)
        rw [List.append_assoc] at later
        exact later

/-- Each turn takes one entity from the frontier, and an entity enters it only with a traversed edge. -/
theorem run_frontier (enough : t.frontier.length + (graphMaxTraversedEdges - t.traversedEdges) ≤ fuel) :
    (Traversal.run edges evidence maxHops fuel t).frontier = [] := by
  induction fuel generalizing t with
  | zero =>
    have empty : t.frontier.length = 0 := by omega
    exact List.eq_nil_of_length_eq_zero empty
  | succ fuel ih =>
    unfold Traversal.run
    cases first : t.frontier with
    | nil => exact first
    | cons entry rest =>
      rw [first, List.length_cons] at enough
      by_cases skipped : entry.2 ≥ maxHops ∨ t.traversedEdges ≥ graphMaxTraversedEdges
      · simp only [if_pos skipped]
        apply ih
        show rest.length + (graphMaxTraversedEdges - t.traversedEdges) ≤ fuel
        omega
      · simp only [if_neg skipped]
        rw [not_or, Nat.not_le, Nat.not_le] at skipped
        rcases followAll_prefix (t := { t with frontier := rest }) evidence entry.1 entry.2
          (incident edges entry.1) skipped.2 with ⟨traversed, left, split, result, count, _⟩
        apply ih
        show (Traversal.followAll evidence entry.1 entry.2 (incident edges entry.1) _).frontier.length +
          (graphMaxTraversedEdges -
            (Traversal.followAll evidence entry.1 entry.2 (incident edges entry.1) _).traversedEdges) ≤ fuel
        rw [result, followed_count]
        have length := Queue.length_reachAll (q := Traversal.queue { t with frontier := rest }) (n := entry.2 + 1)
          (traversed.map fun edge => edge.other entry.1)
        rw [← followed_queue evidence, List.length_map] at length
        simp only [Traversal.queue] at length count ⊢
        omega

def Traversal.start (seeds : List Uuid) : Traversal where
  frontier := seeds.map fun id => (id, 0)
  visited := Table.insertAll ∅ (seeds.map fun id => (id, 0))
  candidates := ∅
  traversedEdges := 0

theorem find_start : (Traversal.start seeds).visited[v]? = some n ↔ v ∈ seeds ∧ n = 0 := by
  show (Table.insertAll ∅ (seeds.map fun id => (id, 0)) : Table Uuid Nat)[v]? = some n ↔ _
  constructor
  · intro found
    rcases Table.find_insertAll found with written | ⟨_, absent⟩
    · simp only [List.mem_map, Prod.mk.injEq] at written
      rcases written with ⟨id, listed, rfl, rfl⟩
      exact ⟨listed, rfl⟩
    · simp at absent
  · rintro ⟨listed, rfl⟩
    have member : v ∈ (Table.insertAll ∅ (seeds.map fun id => (id, 0)) : Table Uuid Nat) := by
      rw [Table.mem_insertAll]
      simp [listed]
    rw [Std.ExtTreeMap.mem_iff_isSome_getElem?, Option.isSome_iff_exists] at member
    rcases member with ⟨n, found⟩
    rcases Table.find_insertAll found with written | ⟨_, absent⟩
    · simp only [List.mem_map, Prod.mk.injEq] at written
      rcases written with ⟨id, _, rfl, rfl⟩
      exact found
    · simp at absent

theorem Sweeping.start (distinct : seeds.Nodup) :
    Sweeping edges evidence seeds maxHops confidence [] (Traversal.start seeds) where
  swept := ⟨0, Swept.start distinct fun _ _ => find_start⟩
  below := by simp
  budget := Nat.zero_le _
  covered _ := Covered.start fun _ _ => find_start
  ranked _ := by constructor <;> simp [Traversal.start]

/-- The distance from the seeds to an end of an edge that the chunk is evidence for. -/
def EvidenceDistance (edges : List GraphEdge) (evidence : Uuid → List GraphEdgeEvidence) (seeds : List Uuid) (chunkId : Uuid)
    (d : Nat) : Prop :=
  ∃ edge ∈ edges, (∃ item ∈ evidence edge.id, item.chunkId = chunkId) ∧
    ∃ v, edge.Touches v ∧ Distance (fun v => v ∈ seeds) (Joined edges) v d

theorem Sweeping.offered_iff (sweeping : Sweeping edges evidence seeds maxHops confidence done t) (ended : t.frontier = [])
    (under : t.traversedEdges < graphMaxTraversedEdges) : (chunkId, n) ∈ done.flatMap (offers edges evidence) ↔
      ∃ d, n = 1 + d ∧ d < maxHops ∧ EvidenceDistance edges evidence seeds chunkId d := by
  have queue : t.queue = ⟨[], fun v => t.visited[v]?⟩ := by
    unfold Traversal.queue
    rw [ended]
  rcases sweeping.swept with ⟨level, swept⟩
  have covered := sweeping.covered under
  rw [queue] at swept covered
  have expanded {v : Uuid} {d : Nat} : (v, d) ∈ done ↔ d < maxHops ∧ Distance (fun v => v ∈ seeds) (Joined edges) v d :=
    swept.done_iff covered sweeping.below
  unfold EvidenceDistance offers
  simp only [List.mem_flatMap, List.mem_map, Prod.exists, Prod.mk.injEq, expanded, mem_incident]
  constructor
  · rintro ⟨v, d, ⟨near, distance⟩, edge, ⟨listed, touches⟩, item, attests, rfl, rfl⟩
    exact ⟨d, Nat.add_comm d 1, near, edge, listed, ⟨item, attests, rfl⟩, v, touches, distance⟩
  · rintro ⟨d, rfl, near, edge, listed, ⟨item, attests, rfl⟩, v, touches, distance⟩
    exact ⟨v, d, ⟨near, distance⟩, edge, ⟨listed, touches⟩, item, attests, rfl, Nat.add_comm d 1⟩

section
variable (x : Externals) (organizationId workspaceId : String)

def graphEdges (t : GraphTables) : List GraphEdge := Table.rows (edgeMap organizationId workspaceId t)

def graphSeeds (query : String) (t : GraphTables) : List Uuid :=
  ((Table.rows (entityMap organizationId workspaceId t)).filter fun entity =>
    (queryTerms x query).contains entity.normalizedName).map GraphEntity.id

def clampedHops (maxHops : Nat) : Nat := max 1 (min maxHops graphMaxHops)

def graphTraversal (query : String) (maxHops : Nat) (t : GraphTables) : Traversal :=
  let seeds := graphSeeds x organizationId workspaceId query t
  Traversal.run (graphEdges organizationId workspaceId t) (evidenceByEdge t) (clampedHops maxHops)
    (seeds.length + graphMaxTraversedEdges) (Traversal.start seeds)

def graphExpansions (query : String) (maxHops : Nat) (t : GraphTables) : List (Uuid × Nat) :=
  let seeds := graphSeeds x organizationId workspaceId query t
  Traversal.expansions (graphEdges organizationId workspaceId t) (evidenceByEdge t) (clampedHops maxHops)
    (seeds.length + graphMaxTraversedEdges) (Traversal.start seeds)

end

variable {x : Externals} {organizationId workspaceId query : String}

theorem graphCandidates_eq {s : Store} {limit : Nat} :
    graphCandidates x organizationId workspaceId query limit maxHops s =
      ((Table.rows (graphTraversal x organizationId workspaceId query maxHops s.projection.graph).candidates).insertionSort
        fun left right => right.score ≤ left.score).take limit := by
  by_cases none : (queryTerms x query).isEmpty = true
  · have seeds : graphSeeds x organizationId workspaceId query s.projection.graph = [] := by
      unfold graphSeeds
      rw [List.isEmpty_iff.mp none]
      simp
    have idle : (graphTraversal x organizationId workspaceId query maxHops s.projection.graph).candidates = ∅ := by
      unfold graphTraversal
      rw [seeds]
      rfl
    have empty : Table.rows (∅ : Table Uuid GraphCandidate) = [] := rfl
    rw [idle, empty]
    unfold graphCandidates
    simp [none]
  · have seeds : ((graphSeeds x organizationId workspaceId query s.projection.graph).map fun id => (id, 0)) =
        ((Table.rows (entityMap organizationId workspaceId s.projection.graph)).filter fun entity =>
          (queryTerms x query).contains entity.normalizedName).map fun entity => (entity.id, 0) := by
      rw [graphSeeds, List.map_map]
      rfl
    unfold graphCandidates
    rw [if_neg none]
    dsimp only
    rw [← seeds, List.length_map]
    rfl

theorem graphSeeds_nodup {t : GraphTables} : (graphSeeds x organizationId workspaceId query t).Nodup := by
  have distinct : ((Table.rows (entityMap organizationId workspaceId t)).map GraphEntity.id).Nodup := by
    rw [List.Nodup, List.pairwise_map]
    apply Table.pairwise_rows
    intro id id' entity entity' found found' apart same
    have keyed {id : Uuid} {entity : GraphEntity} (found : (entityMap organizationId workspaceId t)[id]? = some entity) :
        entity.id = id := by
      rcases Table.find_insertAll found with written | ⟨_, absent⟩
      · simp only [List.mem_map, Prod.mk.injEq] at written
        rcases written with ⟨_, _, rfl, rfl⟩
        rfl
      · simp at absent
    exact apart (by rw [← keyed found, ← keyed found', same])
  exact distinct.sublist (List.filter_sublist.map GraphEntity.id)

/-- Where all edges have one confidence, the bounded traversal computes the shortest evidence. -/
theorem graph_candidates_shortest {s : Store} (query : String) (limit maxHops : Nat) (positive : 0 < confidence)
    (uniform : ∀ edge ∈ graphEdges organizationId workspaceId s.projection.graph, edge.confidence = confidence) :
    let edges := graphEdges organizationId workspaceId s.projection.graph
    let evidence := evidenceByEdge s.projection.graph
    let seeds := graphSeeds x organizationId workspaceId query s.projection.graph
    let traversal := graphTraversal x organizationId workspaceId query maxHops s.projection.graph
    graphCandidates x organizationId workspaceId query limit maxHops s =
      ((Table.rows traversal.candidates).insertionSort fun left right => right.score ≤ left.score).take limit ∧
    traversal.frontier = [] ∧
    ((graphExpansions x organizationId workspaceId query maxHops s.projection.graph).map Prod.fst).Nodup ∧
    traversal.traversedEdges ≤ graphMaxTraversedEdges ∧
    (traversal.traversedEdges < graphMaxTraversedEdges → ∀ chunkId : Uuid,
      (chunkId ∈ traversal.candidates ↔ ∃ d, d < clampedHops maxHops ∧ EvidenceDistance edges evidence seeds chunkId d) ∧
      ∀ candidate, traversal.candidates[chunkId]? = some candidate → candidate.chunkId = chunkId ∧
        candidate.score = confidence / candidate.hops ∧
        ∃ d, IsLeast {d | EvidenceDistance edges evidence seeds chunkId d} d ∧ candidate.hops = 1 + d) := by
  intro edges evidence seeds traversal
  have ended : traversal.frontier = [] := by
    apply run_frontier
    simp [Traversal.start]
  have sweeping : Sweeping edges evidence seeds (clampedHops maxHops) confidence
      (graphExpansions x organizationId workspaceId query maxHops s.projection.graph) traversal := by
    have start : Sweeping edges evidence seeds (clampedHops maxHops) confidence [] (Traversal.start seeds) :=
      Sweeping.start graphSeeds_nodup
    show Sweeping edges evidence seeds (clampedHops maxHops) confidence
      ([] ++ Traversal.expansions edges evidence (clampedHops maxHops) (seeds.length + graphMaxTraversedEdges)
        (Traversal.start seeds))
      (Traversal.run edges evidence (clampedHops maxHops) (seeds.length + graphMaxTraversedEdges) (Traversal.start seeds))
    exact start.run positive uniform
  have once : ((graphExpansions x organizationId workspaceId query maxHops s.projection.graph).map Prod.fst).Nodup := by
    rcases sweeping.swept with ⟨level, swept⟩
    have distinct := swept.distinct
    rw [List.map_append, List.nodup_append] at distinct
    exact distinct.1
  refine ⟨graphCandidates_eq, ended, once, sweeping.budget, ?_⟩
  intro under chunkId
  have ranked := sweeping.ranked under
  have offered {n : Nat} : (chunkId, n) ∈ (graphExpansions x organizationId workspaceId query maxHops
      s.projection.graph).flatMap (offers edges evidence) ↔
        ∃ d, n = 1 + d ∧ d < clampedHops maxHops ∧ EvidenceDistance edges evidence seeds chunkId d :=
    sweeping.offered_iff ended under
  constructor
  · constructor
    · intro stored
      rw [Std.ExtTreeMap.mem_iff_isSome_getElem?, Option.isSome_iff_exists] at stored
      rcases stored with ⟨candidate, found⟩
      have attained := (ranked.exact chunkId candidate found).2.2.1
      rcases offered.mp attained with ⟨d, _, near, distance⟩
      exact ⟨d, near, distance⟩
    · rintro ⟨d, near, distance⟩
      exact ranked.complete _ (offered.mpr ⟨d, rfl, near, distance⟩)
  · intro candidate found
    rcases ranked.exact chunkId candidate found with ⟨named, score, attained, minimal⟩
    rcases offered.mp attained with ⟨d, hops, near, distance⟩
    refine ⟨named, score, d, ⟨distance, ?_⟩, hops⟩
    intro d' distance'
    by_cases near' : d' < clampedHops maxHops
    · have fewer := minimal (offered.mpr ⟨d', rfl, near', distance'⟩)
      omega
    · omega

def keyword (id : Uuid) (name : String) : GraphEntity :=
  ⟨id, "acme", "lab", name, name, "keyword", deterministicExtractor, extractionVersion, 0, 0⟩

def coOccurs (id source target : Uuid) : GraphEdge :=
  ⟨id, "acme", "lab", source, target, "co_occurs_with", 1 / 2, deterministicExtractor, extractionVersion, 0, 0⟩

def attests (edgeId chunkId : Uuid) : GraphEdgeEvidence := ⟨edgeId, chunkId, standInDigest [], 1 / 2, 0⟩

/-- alpha – beta – gamma, a chunk for each of the two edges. -/
def chainGraph : GraphTables where
  entities := Table.insertAll ∅ [(("acme/lab", "alpha"), keyword (serialUuid 1) "alpha"),
    (("acme/lab", "beta"), keyword (serialUuid 2) "beta"), (("acme/lab", "gamma"), keyword (serialUuid 3) "gamma")]
  edges := Table.insertAll ∅ [(serialUuid 4, coOccurs (serialUuid 4) (serialUuid 1) (serialUuid 2)),
    (serialUuid 5, coOccurs (serialUuid 5) (serialUuid 2) (serialUuid 3))]
  edgesBySource := ∅
  edgesByTarget := ∅
  edgeEvidence := Table.insertAll ∅ [((serialUuid 4, serialUuid 6), attests (serialUuid 4) (serialUuid 6)),
    ((serialUuid 5, serialUuid 7), attests (serialUuid 5) (serialUuid 7))]

def chainStore : Store :=
  { Store.empty .hashingV1 with projection := { (Store.empty .hashingV1).projection with graph := chainGraph } }

/-- From alpha the chunk of the second edge is two hops away. -/
theorem graph_candidates_shortest_chain :
    (graphCandidates sample "acme" "lab" "alpha" 5 2 chainStore).map (fun candidate =>
      (candidate.chunkId, candidate.hops, candidate.score)) = [(serialUuid 6, 1, 1 / 2), (serialUuid 7, 2, 1 / 4)] ∧
    ∃ d, IsLeast {d | EvidenceDistance (graphEdges "acme" "lab" chainGraph) (evidenceByEdge chainGraph)
      (graphSeeds sample "acme" "lab" "alpha" chainGraph) (serialUuid 7) d} d ∧ 2 = 1 + d := by
  have result : (graphCandidates sample "acme" "lab" "alpha" 5 2 chainStore).map (fun candidate =>
      (candidate.chunkId, candidate.hops, candidate.score)) = [(serialUuid 6, 1, 1 / 2), (serialUuid 7, 2, 1 / 4)] := by
    decide +kernel
  have uniform : ∀ edge ∈ graphEdges "acme" "lab" chainGraph, edge.confidence = 1 / 2 := by decide +kernel
  have found : (graphTraversal sample "acme" "lab" "alpha" 2 chainGraph).candidates[serialUuid 7]? =
      some ⟨serialUuid 5, serialUuid 7, 1 / 4, 2⟩ := by decide +kernel
  have under : (graphTraversal sample "acme" "lab" "alpha" 2 chainGraph).traversedEdges < graphMaxTraversedEdges := by
    decide +kernel
  obtain ⟨_, _, _, _, shortest⟩ := graph_candidates_shortest (x := sample) (s := chainStore) "alpha" 5 2 (by norm_num) uniform
  exact ⟨result, ((shortest under (serialUuid 7)).2 _ found).2.2⟩

end Hangar
