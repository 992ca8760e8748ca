import Mathlib.Algebra.BigOperators.Group.List.Basic
import Mathlib.Algebra.Ring.Nat
import Mathlib.Data.List.Basic

namespace Lib

variable {α : Type} (size : α → Nat)

/-- The items that fit into the room one after another; an item that does not fit is passed over. -/
def pack : Nat → List α → List α
  | _, [] => []
  | room, a :: rest => if size a ≤ room then a :: pack (room - size a) rest else pack room rest

def totalSize (items : List α) : Nat := (items.map size).sum

variable {size} {room : Nat} {items : List α} {a : α}

theorem pack_fits (fits : size a ≤ room) : pack size room (a :: items) = a :: pack size (room - size a) items := by
  rw [pack, if_pos fits]

theorem pack_passes (large : ¬size a ≤ room) : pack size room (a :: items) = pack size room items := by
  rw [pack, if_neg large]

theorem pack_sublist : (pack size room items).Sublist items := by
  induction items generalizing room with
  | nil => exact .slnil
  | cons b rest ih =>
    unfold pack
    split
    · exact ih.cons_cons b
    · exact ih.cons b

theorem totalSize_pack : totalSize size (pack size room items) ≤ room := by
  induction items generalizing room with
  | nil => simp [pack, totalSize]
  | cons b rest ih =>
    unfold pack
    split
    · have tail := @ih (room - size b)
      unfold totalSize at *
      rw [List.map_cons, List.sum_cons]
      omega
    · exact ih

theorem fits_of_packed (member : a ∈ pack size room items) : size a ≤ room := by
  induction items generalizing room with
  | nil => cases member
  | cons b rest ih =>
    by_cases fits : size b ≤ room
    · rw [pack_fits fits] at member
      rcases List.mem_cons.mp member with rfl | member
      · exact fits
      · exact Nat.le_trans (ih member) (Nat.sub_le _ _)
    · rw [pack_passes fits] at member
      exact ih member

/-- What is passed over does not fit into the room that is left. -/
theorem pack_maximal (member : a ∈ items) (passed : a ∉ pack size room items) :
    room - totalSize size (pack size room items) < size a := by
  induction items generalizing room with
  | nil => cases member
  | cons b rest ih =>
    unfold pack at passed ⊢
    split at passed
    · rename_i fits
      rw [if_pos fits]
      rw [List.mem_cons, not_or] at passed
      have tail := ih ((List.mem_cons.mp member).resolve_left passed.1) passed.2
      unfold totalSize at *
      rw [List.map_cons, List.sum_cons]
      omega
    · rename_i large
      rw [if_neg large]
      rcases List.mem_cons.mp member with rfl | member
      · omega
      · exact ih member passed

theorem pack_append {front back : List α} : pack size room (front ++ back) =
    pack size room front ++ pack size (room - totalSize size (pack size room front)) back := by
  induction front generalizing room with
  | nil => simp [pack, totalSize]
  | cons b rest ih =>
    rw [List.cons_append]
    by_cases fits : size b ≤ room
    · rw [pack_fits fits, pack_fits fits, ih, List.cons_append, totalSize, totalSize, List.map_cons, List.sum_cons,
        Nat.sub_sub]
    · rw [pack_passes fits, pack_passes fits, ih]

theorem pack_eq_self_iff : pack size room items = items ↔ totalSize size items ≤ room := by
  constructor
  · intro all
    rw [← all]
    exact totalSize_pack
  · intro small
    induction items generalizing room with
    | nil => rfl
    | cons b rest ih =>
      unfold totalSize at small ih
      rw [List.map_cons, List.sum_cons] at small
      unfold pack
      rw [if_pos (by omega), ih (by omega)]

theorem length_pack : (pack size room items).length = items.length ↔ totalSize size items ≤ room := by
  rw [← pack_eq_self_iff]
  exact ⟨pack_sublist.eq_of_length, congrArg List.length⟩

theorem pack_ne_nil (member : a ∈ items) (fits : size a ≤ room) : pack size room items ≠ [] := by
  intro nothing
  have passed : a ∉ pack size room items := by
    rw [nothing]
    exact List.not_mem_nil
  have large := pack_maximal member passed
  rw [nothing, totalSize] at large
  simp at large
  omega

/-- Packing only the first items wastes nothing when they all fit, or when no later item would be packed. -/
theorem pack_take_iff {count : Nat} (distinct : items.Nodup) :
    (∀ a ∈ items, a ∉ pack size room (items.take count) →
      (pack size room (items.take count)).length = count ∨
        room - totalSize size (pack size room (items.take count)) < size a) ↔
      totalSize size (items.take count) ≤ room ∨ ∀ a ∈ pack size room items, a ∈ items.take count := by
  have split : pack size room items = pack size room (items.take count) ++
      pack size (room - totalSize size (pack size room (items.take count))) (items.drop count) := by
    rw [← pack_append, List.take_append_drop]
  have apart {a : α} (later : a ∈ items.drop count) : a ∉ items.take count := by
    have parts := distinct
    rw [← List.take_append_drop count items, List.nodup_append] at parts
    exact fun earlier => parts.2.2 a earlier a later rfl
  constructor
  · intro reasons
    by_cases small : totalSize size (items.take count) ≤ room
    · exact .inl small
    right
    have short : (pack size room (items.take count)).length ≠ count := by
      intro full
      apply small
      apply length_pack.mp
      have bound : (pack size room (items.take count)).length ≤ (items.take count).length := pack_sublist.length_le
      have cut := List.length_take_le count items
      omega
    intro a member
    rw [split, List.mem_append] at member
    rcases member with first | later
    · exact pack_sublist.subset first
    · exfalso
      have listed := pack_sublist.subset later
      have fits := fits_of_packed later
      have passed : a ∉ pack size room (items.take count) := fun first => apart listed (pack_sublist.subset first)
      rcases reasons a (List.mem_of_mem_drop listed) passed with full | large
      · exact short full
      · omega
  · intro condition a member passed
    by_cases early : a ∈ items.take count
    · exact .inr (pack_maximal early passed)
    have later : a ∈ items.drop count := by
      rw [← List.take_append_drop count items, List.mem_append] at member
      exact member.resolve_left early
    rcases condition with small | confined
    · left
      rw [length_pack.mpr small, List.length_take]
      have longer := List.length_pos_of_mem later
      rw [List.length_drop] at longer
      omega
    · right
      by_contra fits
      obtain ⟨b, packed⟩ := List.exists_mem_of_ne_nil _ (pack_ne_nil later (Nat.le_of_not_lt fits))
      apply apart (pack_sublist.subset packed)
      apply confined
      rw [split]
      exact List.mem_append_right _ packed

end Lib
