import Hangar.Lib.Firsts
import Hangar.Projection.Graph
import Mathlib.Data.String.Basic

namespace Hangar

open Lib

variable (x : Externals)

/-- The entity that a word of a text names, if it is long enough and not a stopword. -/
def mention (raw : String) : Option EntityCandidate :=
  let trimmed := trim raw
  let normalizedName := x.toLowercase trimmed
  if normalizedName.utf8ByteSize < 3 || isStopword normalizedName || !normalizedName.toList.any x.isAlphabetic then none
  else some ⟨normalizedName, trimmed⟩

def mentions (content : String) : List EntityCandidate :=
  (split (fun c => !x.isAlphanumeric c) content).filterMap (mention x)

def RelationCandidate.ends (relation : RelationCandidate) : String × String :=
  (relation.sourceNormalizedName, relation.targetNormalizedName)

variable {x} {content : String}

theorem extractEntities_eq {words : List String} {entities : List EntityCandidate}
    (room : entities.length < maxEntitiesPerChunk) :
    extractEntities x words entities = (entities ++ (firstsBy EntityCandidate.normalizedName
      (words.filterMap (mention x))).filter fun entity =>
        entity.normalizedName ∉ entities.map EntityCandidate.normalizedName).take maxEntitiesPerChunk := by
  induction words generalizing entities with
  | nil =>
    rw [extractEntities, List.filterMap_nil, firstsBy, List.filter_nil, List.append_nil, List.take_of_length_le room.le]
  | cons raw rest ih =>
    unfold extractEntities
    dsimp only
    by_cases skipped : (decide ((x.toLowercase (trim raw)).utf8ByteSize < 3) || isStopword (x.toLowercase (trim raw)) ||
        !(x.toLowercase (trim raw)).toList.any x.isAlphabetic) = true
    · have unnamed : mention x raw = none := if_pos skipped
      rw [if_pos skipped, List.filterMap_cons_none unnamed]
      exact ih room
    · have named : mention x raw = some ⟨x.toLowercase (trim raw), trim raw⟩ := if_neg skipped
      rw [if_neg skipped, List.filterMap_cons_some named]
      by_cases known : x.toLowercase (trim raw) ∈ entities.map EntityCandidate.normalizedName
      · have listed : (entities.any fun entity => entity.normalizedName == x.toLowercase (trim raw)) = true := by
          simpa using known
        rw [if_pos listed, ih room,
          filter_firstsBy_taken EntityCandidate.normalizedName (a := ⟨x.toLowercase (trim raw), trim raw⟩) known]
      · have unlisted : ¬(entities.any fun entity => entity.normalizedName == x.toLowercase (trim raw)) = true := by
          simpa using known
        rw [if_neg unlisted,
          filter_firstsBy_new EntityCandidate.normalizedName (a := ⟨x.toLowercase (trim raw), trim raw⟩) known]
        by_cases full : (entities ++ [(⟨x.toLowercase (trim raw), trim raw⟩ : EntityCandidate)]).length ≥
            maxEntitiesPerChunk
        · have length : (entities ++ [(⟨x.toLowercase (trim raw), trim raw⟩ : EntityCandidate)]).length =
              maxEntitiesPerChunk := by
            rw [List.length_append, List.length_singleton] at *
            omega
          rw [if_pos full, ← length, List.length_append, List.length_singleton, List.take_length_add_append]
          rfl
        · rw [if_neg full, ih (Nat.not_le.mp full), List.map_append, List.map_singleton, List.append_assoc]
          rfl

/-- The entities of a text are the first mentions of the first names. -/
theorem extract_entities : (extract x content).entities =
    (firstsBy EntityCandidate.normalizedName (mentions x content)).take maxEntitiesPerChunk := by
  show extractEntities x _ [] = _
  rw [extractEntities_eq (by decide), List.nil_append]
  congr 1
  apply List.filter_eq_self.mpr
  simp

theorem extract_entities_length : (extract x content).entities.length ≤ maxEntitiesPerChunk := by
  rw [extract_entities]
  exact List.length_take_le _ _

theorem extract_entities_nodup : ((extract x content).entities.map EntityCandidate.normalizedName).Nodup := by
  rw [extract_entities]
  exact firstsBy_nodup.sublist ((List.take_sublist _ _).map _)

theorem relate_ends {source target : EntityCandidate} : (relate source target).ends =
    if source.normalizedName ≤ target.normalizedName then (source.normalizedName, target.normalizedName)
    else (target.normalizedName, source.normalizedName) := by
  unfold relate RelationCandidate.ends
  dsimp only
  split <;> rfl

theorem extractRelations_of {P : RelationCandidate → Prop} (each : ∀ source target, P (relate source target))
    {entities : List EntityCandidate} {relation : RelationCandidate} (member : relation ∈ extractRelations entities) :
    P relation := by
  induction entities with
  | nil => cases member
  | cons source rest ih =>
    rcases List.mem_append.mp member with own | later
    · obtain ⟨target, _, rfl⟩ := List.mem_map.mp own
      exact each source target
    · exact ih later

theorem mem_extractRelations {entities : List EntityCandidate}
    (distinct : (entities.map EntityCandidate.normalizedName).Nodup) {source target : String} :
    (source, target) ∈ (extractRelations entities).map RelationCandidate.ends ↔
      source ∈ entities.map EntityCandidate.normalizedName ∧ target ∈ entities.map EntityCandidate.normalizedName ∧
        source < target := by
  induction entities with
  | nil => simp [extractRelations]
  | cons entity rest ih =>
    rw [List.map_cons, List.nodup_cons] at distinct
    rw [extractRelations, List.map_append, List.mem_append, ih distinct.2, List.map_cons, List.mem_cons, List.mem_cons,
      List.map_map]
    constructor
    · rintro (first | ⟨earlier, later, less⟩)
      · obtain ⟨other, member, same⟩ := List.mem_map.mp first
        have apart : entity.normalizedName ≠ other.normalizedName := by
          intro equal
          exact distinct.1 (equal ▸ List.mem_map_of_mem member)
        have named := List.mem_map_of_mem (f := EntityCandidate.normalizedName) member
        rw [Function.comp_apply, relate_ends] at same
        split at same
        · rename_i ordered
          cases same
          exact ⟨.inl rfl, .inr named, lt_of_le_of_ne ordered apart⟩
        · rename_i reversed
          cases same
          exact ⟨.inr named, .inl rfl, lt_of_not_ge reversed⟩
      · exact ⟨.inr earlier, .inr later, less⟩
    · rintro ⟨rfl | earlier, rfl | later, less⟩
      · exact absurd less (lt_irrefl _)
      · left
        obtain ⟨other, member, rfl⟩ := List.mem_map.mp later
        refine List.mem_map.mpr ⟨other, member, ?_⟩
        rw [Function.comp_apply, relate_ends, if_pos less.le]
      · left
        obtain ⟨other, member, rfl⟩ := List.mem_map.mp earlier
        refine List.mem_map.mpr ⟨other, member, ?_⟩
        rw [Function.comp_apply, relate_ends, if_neg (not_le_of_gt less)]
      · exact .inr ⟨earlier, later, less⟩

theorem extractRelations_nodup {entities : List EntityCandidate}
    (distinct : (entities.map EntityCandidate.normalizedName).Nodup) :
    ((extractRelations entities).map RelationCandidate.ends).Nodup := by
  induction entities with
  | nil => exact List.nodup_nil
  | cons entity rest ih =>
    rw [List.map_cons, List.nodup_cons] at distinct
    rw [extractRelations, List.map_append, List.nodup_append, List.map_map]
    have involves {source target : String} {other : EntityCandidate}
        (same : (relate entity other).ends = (source, target)) :
        source = entity.normalizedName ∨ target = entity.normalizedName := by
      rw [relate_ends] at same
      split at same <;> cases same
      · exact .inl rfl
      · exact .inr rfl
    refine ⟨?_, ih distinct.2, ?_⟩
    · apply List.Nodup.of_map (fun ends => if ends.1 = entity.normalizedName then ends.2 else ends.1)
      rw [List.map_map]
      have others : rest.map ((fun ends : String × String => if ends.1 = entity.normalizedName then ends.2 else ends.1) ∘
          RelationCandidate.ends ∘ relate entity) = rest.map EntityCandidate.normalizedName := by
        apply List.map_congr_left
        intro other member
        have apart : other.normalizedName ≠ entity.normalizedName := by
          intro equal
          exact distinct.1 (equal ▸ List.mem_map_of_mem member)
        simp only [Function.comp_apply, relate_ends]
        split
        · simp
        · simp
      rw [others]
      exact distinct.2
    · intro ends first ends' later same
      subst same
      obtain ⟨source, target⟩ := ends
      obtain ⟨earlier, last, _⟩ := (mem_extractRelations distinct.2).mp later
      obtain ⟨other, _, same⟩ := List.mem_map.mp first
      rcases involves same with rfl | rfl
      · exact distinct.1 earlier
      · exact distinct.1 last

end Hangar
