import Mathlib.Data.List.Sort

namespace Lib

variable {α : Type} {r : α → α → Prop} [DecidableRel r] {front back : List α} {a : α}

theorem orderedInsert_append_front (first : ∀ b ∈ back, r a b) :
    (front ++ back).orderedInsert r a = front.orderedInsert r a ++ back := by
  induction front with
  | nil =>
    cases back with
    | nil => rfl
    | cons b back => exact List.orderedInsert_cons_of_le r back (first b List.mem_cons_self)
  | cons c front ih =>
    rw [List.cons_append, List.orderedInsert_cons, List.orderedInsert_cons, ih]
    split <;> rfl

theorem orderedInsert_append_back (last : ∀ b ∈ front, ¬r a b) :
    (front ++ back).orderedInsert r a = front ++ back.orderedInsert r a := by
  induction front with
  | nil => rfl
  | cons c front ih =>
    rw [List.cons_append, List.orderedInsert_of_not_le r _ (last c List.mem_cons_self),
      ih fun b member => last b (List.mem_cons_of_mem _ member), List.cons_append]

/-- Where all items of a kind come before all others, a sorted list is the sorted items of the kind, then the
    sorted others. -/
theorem insertionSort_filter {p : α → Bool} (before : ∀ a b, p a = true → p b = false → r a b ∧ ¬r b a)
    (items : List α) : items.insertionSort r =
      (items.filter p).insertionSort r ++ (items.filter fun a => !p a).insertionSort r := by
  induction items with
  | nil => rfl
  | cons a items ih =>
    rw [List.insertionSort_cons, ih]
    cases kind : p a with
    | true =>
      rw [List.filter_cons_of_pos kind, List.filter_cons_of_neg (by simp [kind]), List.insertionSort_cons]
      apply orderedInsert_append_front
      intro b member
      rw [List.mem_insertionSort, List.mem_filter, Bool.not_eq_true'] at member
      exact (before a b kind member.2).1
    | false =>
      rw [List.filter_cons_of_neg (by simp [kind]), List.filter_cons_of_pos (by simp [kind]), List.insertionSort_cons]
      apply orderedInsert_append_back
      intro b member
      rw [List.mem_insertionSort, List.mem_filter] at member
      exact (before b a member.2 kind).2

end Lib
