import Mathlib.Data.List.Nodup

namespace Lib

variable {α κ : Type} [DecidableEq κ] (key : α → κ)

def firstsBy : List α → List α
  | [] => []
  | a :: rest => a :: (firstsBy rest).filter fun b => key b ≠ key a

variable {key} {items : List α} {a : α} {k : κ}

theorem firstsBy_nodup : ((firstsBy key items).map key).Nodup := by
  induction items with
  | nil => exact List.nodup_nil
  | cons a rest ih =>
    rw [firstsBy, List.map_cons, List.nodup_cons]
    constructor
    · simp
    · exact ih.sublist (List.filter_sublist.map key)

theorem mem_firstsBy (member : a ∈ firstsBy key items) : a ∈ items := by
  induction items with
  | nil => exact member
  | cons b items ih =>
    rcases List.mem_cons.mp member with rfl | later
    · exact List.mem_cons_self
    · exact List.mem_cons_of_mem _ (ih (List.mem_of_mem_filter later))

/-- A first item whose key is not taken goes first; the others of its key go with it. -/
theorem filter_firstsBy_new (key : α → κ) {taken : List κ} (new : key a ∉ taken) :
    (firstsBy key (a :: items)).filter (fun b => key b ∉ taken) =
      a :: (firstsBy key items).filter fun b => key b ∉ taken ++ [key a] := by
  rw [firstsBy, List.filter_cons_of_pos (by simpa using new), List.filter_filter]
  congr 1
  apply List.filter_congr
  intro b _
  simp only [List.mem_append, List.mem_singleton, not_or, ne_eq, Bool.decide_and]

theorem filter_firstsBy_taken (key : α → κ) {taken : List κ} (old : key a ∈ taken) :
    (firstsBy key (a :: items)).filter (fun b => key b ∉ taken) =
      (firstsBy key items).filter fun b => key b ∉ taken := by
  rw [firstsBy, List.filter_cons_of_neg (by simpa using old), List.filter_filter]
  apply List.filter_congr
  intro b _
  by_cases listed : key b ∈ taken
  · simp [listed]
  · have other : key b ≠ key a := fun same => listed (same ▸ old)
    simp [listed, other]

end Lib
