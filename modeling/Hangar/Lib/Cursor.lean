import Hangar.Lib.Table

/-! Reading a log that grows at its end page by page, each page from the key of the last entry received. -/

namespace Lib

variable {κ α : Type} [Ord κ] {key : α → κ} {log seen rest : List α} {limit : Nat}

def Ascending (key : α → κ) (log : List α) : Prop := log.Pairwise fun a b => compare (key a) (key b) = .lt

def behind (key : α → κ) (cursor : Option κ) (log : List α) : List α :=
  log.filter fun a => cursor.all fun last => compare (key a) last == .gt

section
variable [Std.TransOrd κ] [Std.LawfulEqOrd κ]

theorem behind_last (ascending : Ascending key (seen ++ rest)) :
    behind key (seen.getLast?.map key) (seen ++ rest) = rest := by
  unfold behind
  rcases List.eq_nil_or_concat seen with rfl | ⟨start, last, rfl⟩
  · simp
  · rw [List.concat_eq_append] at ascending ⊢
    obtain ⟨first, _, apart⟩ := List.pairwise_append.mp ascending
    have reached : ∀ a ∈ start ++ [last], (compare (key a) (key last) == .gt) = false := by
      intro a member
      rcases List.mem_append.mp member with earlier | here
      · have before := (List.pairwise_append.mp first).2.2 a earlier last List.mem_cons_self
        rw [before]
        rfl
      · rw [List.mem_singleton.mp here, Std.LawfulEqOrd.compare_eq_iff_eq.mpr rfl]
        rfl
    have ahead : ∀ a ∈ rest, (compare (key a) (key last) == .gt) = true := by
      intro a member
      have after := apart last (List.mem_append_right _ List.mem_cons_self) a member
      rw [Std.OrientedOrd.eq_swap, after]
      rfl
    rw [List.filter_append, List.filter_eq_nil_iff.mpr, List.filter_eq_self.mpr]
    · rfl
    · simpa using ahead
    · simpa using reached

/-- A page joins what was received before to a longer first part of the log. -/
theorem page_prefix (ascending : Ascending key log) (received : seen <+: log) :
    seen ++ (behind key (seen.getLast?.map key) log).take limit <+: log := by
  obtain ⟨rest, rfl⟩ := received
  rw [behind_last ascending, List.prefix_append_right_inj]
  exact List.take_prefix _ _

theorem page_end (ascending : Ascending key log) (received : seen <+: log)
    (short : ((behind key (seen.getLast?.map key) log).take limit).length < limit) :
    seen ++ (behind key (seen.getLast?.map key) log).take limit = log := by
  obtain ⟨rest, rfl⟩ := received
  rw [behind_last ascending] at short ⊢
  rw [List.length_take] at short
  rw [List.take_of_length_le]
  omega

end

theorem Ascending.filter {p : α → Bool} (ascending : Ascending key log) : Ascending key (log.filter p) :=
  List.Pairwise.filter p ascending

theorem Ascending.nodup [Std.LawfulEqOrd κ] (ascending : Ascending key log) : (log.map key).Nodup := by
  rw [List.Nodup, List.pairwise_map]
  apply ascending.imp
  intro a b before same
  rw [same, Std.LawfulEqOrd.compare_eq_iff_eq.mpr rfl] at before
  cases before

end Lib
