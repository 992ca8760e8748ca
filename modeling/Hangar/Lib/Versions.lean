import Hangar.Lib.Table
import Hangar.Lib.Transition
import Mathlib.Data.List.Range
import Mathlib.Logic.Relation

namespace Lib

/-- How the records of a table are numbered: the key of a record, its series, and its version there. -/
structure Numbering (κ α σ : Type) where
  key : α → κ
  series : α → σ
  version : α → Nat

/-- What one call may do to a table of numbered records, and the key of the record it creates, if any. -/
inductive Edit {κ α : Type} [Ord κ] [Std.TransOrd κ] (makes : Table κ α → κ → α → Prop) (moves : α → α → Prop)
    (t : Table κ α) :
    Option κ → Table κ α → Prop where
  | keep : Edit makes moves t none t
  | create {k : κ} {a : α} (absent : k ∉ t) (made : makes t k a) : Edit makes moves t (some k) (t.insert k a)
  | move {k : κ} {a a' : α} (found : t[k]? = some a) (moved : moves a a') : Edit makes moves t none (t.insert k a')

variable {κ α σ : Type} [Ord κ] [Std.TransOrd κ]

def Kept (moves : α → α → Prop) (t t' : Table κ α) : Prop :=
  ∀ (k : κ) (a : α), t[k]? = some a → ∃ a', t'[k]? = some a' ∧ Relation.ReflTransGen moves a a'

section
variable {makes : Table κ α → κ → α → Prop} {moves : α → α → Prop} {t t' t'' : Table κ α} {created : Option κ}

theorem Kept.refl : Kept moves t t := fun _ a found => ⟨a, found, .refl⟩

theorem Kept.trans (first : Kept moves t t') (second : Kept moves t' t'') : Kept moves t t'' := by
  intro k a found
  obtain ⟨a', found', moved⟩ := first k a found
  obtain ⟨a'', found'', moved'⟩ := second k a' found'
  exact ⟨a'', found'', moved.trans moved'⟩

theorem Edit.kept [DecidableEq κ] [Std.LawfulEqOrd κ] (edit : Edit makes moves t created t') : Kept moves t t' := by
  cases edit with
  | keep => exact .refl
  | @create k a absent _ =>
    intro k' a' found
    have other : k ≠ k' := by
      rintro rfl
      rw [Std.ExtTreeMap.getElem?_eq_none absent] at found
      cases found
    exact ⟨a', (Table.find_insert_ne other).trans found, .refl⟩
  | @move k a moved found step =>
    intro k' a' found'
    rw [Table.find_insert]
    split
    · rename_i same
      subst same
      rw [found] at found'
      cases found'
      exact ⟨moved, rfl, .single step⟩
    · exact ⟨a', found', .refl⟩
end

namespace Numbering

variable (numbering : Numbering κ α σ) [DecidableEq σ]

def recordsOf (keys : List κ) (t : Table κ α) (s : σ) : List α :=
  (keys.filterMap fun k => t[k]?).filter fun a => numbering.series a = s

/-- The keys of the records in the order of their creation; the records of each series are numbered from one, up to
    a bound where the numbers stop. -/
structure Numbered (bound : Nat) (keys : List κ) (t : Table κ α) : Prop where
  distinct : keys.Nodup
  listed : ∀ k, k ∈ keys ↔ k ∈ t
  keyed : ∀ (k : κ) (a : α), t[k]? = some a → numbering.key a = k
  numbers : ∀ s, (numbering.recordsOf keys t s).map numbering.version =
    (List.range' 1 (numbering.recordsOf keys t s).length).map fun n => min n bound

variable {numbering} {bound : Nat} {keys : List κ} {t t' : Table κ α} {s : σ} {k : κ} {a a' : α}

theorem Numbered.empty : numbering.Numbered bound [] (∅ : Table κ α) := by
  constructor
  · exact List.nodup_nil
  · simp
  · simp
  · intro s
    rfl

variable [Std.LawfulEqOrd κ]

theorem filterMap_keys : (t.keys.filterMap fun k => t[k]?) = t.rows := by
  rw [← Std.ExtTreeMap.map_fst_toList_eq_keys, List.filterMap_map, Table.rows, ← List.filterMap_eq_map]
  apply List.filterMap_congr
  rintro ⟨k, a⟩ member
  exact Std.ExtTreeMap.mem_toList_iff_getElem?_eq_some.mp member

theorem Numbered.rows_perm (numbered : numbering.Numbered bound keys t) :
    (t.rows.filter fun a => numbering.series a = s).Perm (numbering.recordsOf keys t s) := by
  have perm : t.keys.Perm keys := by
    rw [List.perm_ext_iff_of_nodup Std.ExtTreeMap.nodup_keys numbered.distinct]
    intro k
    rw [Std.ExtTreeMap.mem_keys, numbered.listed]
  rw [← filterMap_keys]
  exact (perm.filterMap _).filter _

theorem foldl_max_eq {numbers : List Nat} {start m : Nat} (small : start ≤ m) (bounded : ∀ n ∈ numbers, n ≤ m)
    (reached : m = start ∨ m ∈ numbers) : numbers.foldl max start = m := by
  induction numbers generalizing start with
  | nil =>
    rcases reached with rfl | member
    · rfl
    · cases member
  | cons n numbers ih =>
    have first := bounded n List.mem_cons_self
    apply ih
    · omega
    · exact fun n' member => bounded n' (List.mem_cons_of_mem _ member)
    · rcases reached with rfl | member
      · left
        omega
      · rcases List.mem_cons.mp member with rfl | member
        · left
          omega
        · exact .inr member

theorem Numbered.next (numbered : numbering.Numbered bound keys t) :
    min (((t.rows.filter fun a => numbering.series a = s).map numbering.version).foldl max 0 + 1) bound =
      min ((numbering.recordsOf keys t s).length + 1) bound := by
  generalize length : (numbering.recordsOf keys t s).length = n
  have perm := (numbered.rows_perm (s := s)).map numbering.version
  rw [numbered.numbers, length] at perm
  have largest : ((t.rows.filter fun a => numbering.series a = s).map numbering.version).foldl max 0 = min n bound := by
    apply foldl_max_eq (Nat.zero_le _)
    · intro number member
      obtain ⟨i, listed, rfl⟩ := List.mem_map.mp (perm.mem_iff.mp member)
      rw [List.mem_range'_1] at listed
      omega
    · rcases Nat.eq_zero_or_pos n with rfl | some
      · left
        simp
      · right
        rw [perm.mem_iff, List.mem_map]
        exact ⟨n, by rw [List.mem_range'_1]; omega, rfl⟩
  rw [largest]
  omega

theorem Numbered.create [DecidableEq κ] (numbered : numbering.Numbered bound keys t) (absent : k ∉ t)
    (key : numbering.key a = k)
    (next : numbering.version a = min ((numbering.recordsOf keys t (numbering.series a)).length + 1) bound) :
    numbering.Numbered bound (keys ++ [k]) (t.insert k a) := by
  have unlisted : k ∉ keys := fun member => absent ((numbered.listed k).mp member)
  have records (s : σ) : numbering.recordsOf (keys ++ [k]) (t.insert k a) s =
      numbering.recordsOf keys t s ++ if numbering.series a = s then [a] else [] := by
    have before : (keys.filterMap fun k' => (t.insert k a)[k']?) = keys.filterMap fun k' => t[k']? := by
      apply List.filterMap_congr
      intro k' member
      apply Table.find_insert_ne
      rintro rfl
      exact unlisted member
    unfold recordsOf
    rw [List.filterMap_append, before, List.filter_append]
    congr 1
    by_cases same : numbering.series a = s <;> simp [same]
  constructor
  · rw [List.nodup_append]
    refine ⟨numbered.distinct, by simp, ?_⟩
    intro k' member k'' last
    rw [List.mem_singleton.mp last]
    rintro rfl
    exact unlisted member
  · intro k'
    rw [List.mem_append, List.mem_singleton, Std.ExtTreeMap.mem_insert, Std.LawfulEqOrd.compare_eq_iff_eq,
      numbered.listed, or_comm, eq_comm]
  · intro k' a' found
    rw [Table.find_insert] at found
    split at found
    · rename_i same
      cases found
      exact key.trans same
    · exact numbered.keyed k' a' found
  · intro s
    rw [records]
    by_cases same : numbering.series a = s
    · subst same
      rw [if_pos rfl, List.map_append, numbered.numbers, List.length_append, List.length_singleton,
        List.range'_concat, List.map_append, List.map_singleton, next]
      simp [Nat.add_comm]
    · rw [if_neg same, List.append_nil]
      exact numbered.numbers s

theorem Numbered.move [DecidableEq κ] (numbered : numbering.Numbered bound keys t) (found : t[k]? = some a)
    (key : numbering.key a' = numbering.key a) (series : numbering.series a' = numbering.series a) (version : numbering.version a' = numbering.version a) :
    numbering.Numbered bound keys (t.insert k a') := by
  have numbers (t : Table κ α) (s : σ) : (numbering.recordsOf keys t s).map numbering.version =
      ((keys.filterMap fun k => t[k]?.map fun a => (numbering.series a, numbering.version a)).filter
        fun view => view.1 = s).map Prod.snd := by
    rw [recordsOf, ← List.map_filterMap, List.filter_map, List.map_map]
    rfl
  have views (k' : κ) : ((t.insert k a')[k']?.map fun a => (numbering.series a, numbering.version a)) =
      t[k']?.map fun a => (numbering.series a, numbering.version a) := by
    rw [Table.find_insert]
    split
    · rename_i same
      subst same
      rw [found, Option.map_some, Option.map_some, series, version]
    · rfl
  have same (s : σ) : (numbering.recordsOf keys (t.insert k a') s).map numbering.version =
      (numbering.recordsOf keys t s).map numbering.version := by
    rw [numbers, numbers]
    simp only [views]
  constructor
  · exact numbered.distinct
  · intro k'
    rw [numbered.listed, Std.ExtTreeMap.mem_insert, Std.LawfulEqOrd.compare_eq_iff_eq]
    constructor
    · exact .inr
    · rintro (rfl | member)
      · rw [Std.ExtTreeMap.mem_iff_isSome_getElem?, found]
        rfl
      · exact member
  · intro k' a'' found'
    rw [Table.find_insert] at found'
    split at found'
    · rename_i same
      cases found'
      rw [key, numbered.keyed k a found, same]
    · exact numbered.keyed k' a'' found'
  · intro s
    have length := congrArg List.length (same s)
    rw [List.length_map, List.length_map] at length
    rw [same, length]
    exact numbered.numbers s

def Next (numbering : Numbering κ α σ) (bound : Nat) (t : Table κ α) (k : κ) (a : α) : Prop :=
  numbering.key a = k ∧ numbering.version a =
    min (((t.rows.filter fun b => numbering.series b = numbering.series a).map numbering.version).foldl max 0 + 1) bound

structure SameVersion (numbering : Numbering κ α σ) (a a' : α) : Prop where
  key : numbering.key a' = numbering.key a
  series : numbering.series a' = numbering.series a
  version : numbering.version a' = numbering.version a

theorem Numbered.edit [DecidableEq κ] {moves : α → α → Prop} {created : Option κ}
    (kept : ∀ a a', moves a a' → numbering.SameVersion a a') (numbered : numbering.Numbered bound keys t)
    (edit : Edit (numbering.Next bound) moves t created t') :
    numbering.Numbered bound (keys ++ created.toList) t' := by
  cases edit with
  | keep =>
    rw [Option.toList_none, List.append_nil]
    exact numbered
  | create absent made =>
    apply numbered.create absent made.1
    rw [made.2, numbered.next]
  | move found moved =>
    rw [Option.toList_none, List.append_nil]
    have same := kept _ _ moved
    exact numbered.move found same.key same.series same.version

/-- A run whose steps edit a table numbers its records in the order of their creation, and keeps those there are. -/
theorem numbered_run [DecidableEq κ] {τ ι : Type} {step : τ → ι → τ → Prop} {moves : α → α → Prop}
    (table : τ → Table κ α) {created : τ → ι → Option κ} {initial final : τ} {trace : List (τ × ι)}
    (kept : ∀ a a', moves a a' → numbering.SameVersion a a') (empty : table initial = ∅)
    (edits : ∀ s i s', step s i s' → Edit (numbering.Next bound) moves (table s) (created s i) (table s'))
    (run : Run step initial trace final) :
    numbering.Numbered bound (trace.filterMap fun p => created p.1 p.2) (table final) ∧
      ∀ p ∈ trace, Kept moves (table p.1) (table final) := by
  induction run with
  | start =>
    rw [empty]
    exact ⟨.empty, by simp⟩
  | @next trace s s' i _ taken ih =>
    obtain ⟨numbered, earlier⟩ := ih
    have edit := edits s i s' taken
    constructor
    · rw [List.filterMap_append]
      have last : ([(s, i)].filterMap fun p => created p.1 p.2) = (created s i).toList := by
        cases h : created s i <;> simp [h]
      rw [last]
      exact numbered.edit kept edit
    · intro p member
      rcases List.mem_append.mp member with before | last
      · exact (earlier p before).trans edit.kept
      · rw [List.mem_singleton.mp last]
        exact edit.kept

end Numbering

end Lib
