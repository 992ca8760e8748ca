import Mathlib.Data.List.Perm.Subperm
import Std.Data.ExtTreeMap.Lemmas

namespace Lib

theorem filter_key {α β : Type} [BEq β] [LawfulBEq β] {f : α → β} {items : List α} {a : α}
    (distinct : (items.map f).Nodup) (member : a ∈ items) : (items.filter fun b => f b == f a) = [a] := by
  induction items with
  | nil => simp at member
  | cons b items ih =>
    rw [List.map_cons, List.nodup_cons] at distinct
    rcases List.mem_cons.mp member with same | member
    · have rest : (items.filter fun b => f b == f a) = [] := by
        rw [List.filter_eq_nil_iff]
        intro other listed again
        rw [beq_iff_eq, same] at again
        exact distinct.1 (List.mem_map.mpr ⟨other, listed, again⟩)
      simp [← same, rest]
    · have other : f b ≠ f a := by
        intro same
        exact distinct.1 (List.mem_map.mpr ⟨a, member, same.symm⟩)
      simp [other, ih distinct.2 member]

abbrev Table (κ : Type) [Ord κ] (α : Type) : Type := Std.ExtTreeMap κ α compare

section
variable {α β : Type} [Ord α] [Ord β]

instance ordPair : Ord (α × β) := lexOrd

instance transOrdPair [Std.TransOrd α] [Std.TransOrd β] : Std.TransOrd (α × β) :=
  inferInstanceAs (Std.TransCmp (compareLex (compareOn Prod.fst) (compareOn Prod.snd)))

instance lawfulEqOrdPair [Std.LawfulEqOrd α] [Std.LawfulEqOrd β] : Std.LawfulEqOrd (α × β) where
  compare_self {p} := by
    change (compare p.1 p.1).then (compare p.2 p.2) = .eq
    simp
  eq_of_compare {p q} same := by
    change (compare p.1 q.1).then (compare p.2 q.2) = .eq at same
    rw [Ordering.then_eq_eq] at same
    exact Prod.ext (Std.LawfulEqOrd.eq_of_compare same.1) (Std.LawfulEqOrd.eq_of_compare same.2)

end

namespace Table

variable {κ α : Type} [Ord κ] [Std.TransOrd κ] [Std.LawfulEqOrd κ]

def rows (table : Table κ α) : List α := table.toList.map Prod.snd

theorem mem_rows {table : Table κ α} {a : α} : a ∈ table.rows ↔ ∃ k : κ, table[k]? = some a := by
  simp only [rows, List.mem_map, Prod.exists, exists_eq_right,
    Std.ExtTreeMap.mem_toList_iff_getElem?_eq_some]

theorem ordered_rows {table : Table κ α} {R : α → α → Prop}
    (each : ∀ (k k' : κ) (a a' : α), table[k]? = some a → table[k']? = some a' → compare k k' = .lt → R a a') :
    table.rows.Pairwise R := by
  rw [rows, List.pairwise_map]
  apply Std.ExtTreeMap.ordered_keys_toList.imp_of_mem
  intro entry entry' member member' before
  rw [Std.ExtTreeMap.mem_toList_iff_getElem?_eq_some] at member member'
  exact each entry.1 entry'.1 _ _ member member' before

/-- What holds of the values under any two different keys holds of any two rows. -/
theorem pairwise_rows {table : Table κ α} {R : α → α → Prop}
    (each : ∀ (k k' : κ) (a a' : α), table[k]? = some a → table[k']? = some a' → k ≠ k' → R a a') :
    table.rows.Pairwise R := by
  apply ordered_rows
  intro k k' a a' found found' before
  apply each k k' a a' found found'
  intro same
  rw [same, Std.LawfulEqOrd.compare_eq_iff_eq.mpr rfl] at before
  cases before

/-- The first entry that satisfies a condition comes before every other one that does. -/
theorem find_first {table : Table κ α} {p : κ × α → Bool} {entry : κ × α} (first : table.toList.find? p = some entry)
    {k : κ} {a : α} (stored : table[k]? = some a) (holds : p (k, a) = true) : entry = (k, a) ∨ compare entry.1 k = .lt := by
  obtain ⟨_, before, after, split, none⟩ := List.find?_eq_some_iff_append.mp first
  have listed : (k, a) ∈ table.toList := Std.ExtTreeMap.mem_toList_iff_getElem?_eq_some.mpr stored
  have ordered := Std.ExtTreeMap.ordered_keys_toList (t := table)
  rw [split] at listed ordered
  rcases List.mem_append.mp listed with earlier | here
  · simpa [holds] using none _ earlier
  · rcases List.mem_cons.mp here with same | later
    · exact .inl same.symm
    · exact .inr ((List.pairwise_cons.mp (List.pairwise_append.mp ordered).2.1).1 _ later)

omit [Std.LawfulEqOrd κ] in
theorem nodup_keys_filter {table : Table κ α} {p : κ × α → Bool} :
    ((table.toList.filter p).map Prod.fst).Nodup := by
  have nodup : (table.toList.map Prod.fst).Nodup := by
    rw [Std.ExtTreeMap.map_fst_toList_eq_keys]
    exact Std.ExtTreeMap.nodup_keys
  exact nodup.sublist (List.filter_sublist.map Prod.fst)

theorem find_insert [DecidableEq κ] {table : Table κ α} {k k' : κ} {a : α} :
    (table.insert k a)[k']? = if k = k' then some a else table[k']? := by
  simp only [Std.ExtTreeMap.getElem?_insert, Std.LawfulEqOrd.compare_eq_iff_eq]

theorem find_insert_self {table : Table κ α} {k : κ} {a : α} :
    (table.insert k a)[k]? = some a := by simp

theorem find_insert_ne [DecidableEq κ] {table : Table κ α} {k k' : κ} {a : α} (different : k ≠ k') :
    (table.insert k a)[k']? = table[k']? := by rw [find_insert, if_neg different]

theorem find_erase [DecidableEq κ] {table : Table κ α} {k k' : κ} :
    (table.erase k)[k']? = if k = k' then none else table[k']? := by
  simp only [Std.ExtTreeMap.getElem?_erase, Std.LawfulEqOrd.compare_eq_iff_eq]

theorem ext_find {left right : Table κ α} (same : ∀ k : κ, left[k]? = right[k]?) : left = right :=
  Std.ExtTreeMap.ext_getElem? fun k => same k

def eraseAll (table : Table κ α) (keys : List κ) : Table κ α := keys.foldl (·.erase ·) table

theorem find_eraseAll [DecidableEq κ] {table : Table κ α} {keys : List κ} {k : κ} :
    (table.eraseAll keys)[k]? = if k ∈ keys then none else table[k]? := by
  induction keys generalizing table with
  | nil => simp [eraseAll]
  | cons key keys ih =>
    change (eraseAll (table.erase key) keys)[k]? = _
    rw [ih, find_erase]
    by_cases same : key = k
    · simp [same]
    · simp [same, Ne.symm same]

def insertAll (table : Table κ α) (entries : List (κ × α)) : Table κ α :=
  entries.foldl (fun t entry => t.insert entry.1 entry.2) table

omit [Std.LawfulEqOrd κ] in
theorem insertAll_cons {table : Table κ α} {entry : κ × α} {entries : List (κ × α)} :
    table.insertAll (entry :: entries) = insertAll (table.insert entry.1 entry.2) entries := rfl

theorem mem_insertAll {table : Table κ α} {entries : List (κ × α)} {k : κ} :
    k ∈ table.insertAll entries ↔ k ∈ entries.map Prod.fst ∨ k ∈ table := by
  induction entries generalizing table with
  | nil => simp [insertAll]
  | cons entry entries ih =>
    rw [insertAll_cons, ih, Std.ExtTreeMap.mem_insert, Std.LawfulEqOrd.compare_eq_iff_eq]
    simp only [List.map_cons, List.mem_cons, eq_comm]
    tauto

theorem find_insertAll_of_notMem [DecidableEq κ] {table : Table κ α} {entries : List (κ × α)} {k : κ}
    (absent : k ∉ entries.map Prod.fst) : (table.insertAll entries)[k]? = table[k]? := by
  induction entries generalizing table with
  | nil => rfl
  | cons entry entries ih =>
    simp only [List.map_cons, List.mem_cons, not_or] at absent
    rw [insertAll_cons, ih absent.2, find_insert_ne (Ne.symm absent.1)]

theorem find_insertAll_of_mem [DecidableEq κ] {table : Table κ α} {entries : List (κ × α)} {k : κ} {a : α}
    (distinct : (entries.map Prod.fst).Nodup) (member : (k, a) ∈ entries) :
    (table.insertAll entries)[k]? = some a := by
  induction entries generalizing table with
  | nil => cases member
  | cons entry entries ih =>
    simp only [List.map_cons, List.nodup_cons] at distinct
    rw [insertAll_cons]
    rcases List.mem_cons.mp member with rfl | member
    · rw [find_insertAll_of_notMem distinct.1, find_insert_self]
    · exact ih distinct.2 member

theorem find_insertAll [DecidableEq κ] {table : Table κ α} {entries : List (κ × α)} {k : κ} {a : α}
    (found : (table.insertAll entries)[k]? = some a) :
    (k, a) ∈ entries ∨ k ∉ entries.map Prod.fst ∧ table[k]? = some a := by
  induction entries generalizing table with
  | nil => exact .inr ⟨by simp, found⟩
  | cons entry entries ih =>
    rw [insertAll_cons] at found
    rcases ih found with written | ⟨absent, found⟩
    · exact .inl (List.mem_cons_of_mem _ written)
    · rw [find_insert] at found
      by_cases same : entry.1 = k
      · rw [if_pos same] at found
        cases found
        subst same
        exact .inl List.mem_cons_self
      · rw [if_neg same] at found
        exact .inr ⟨by simp [absent, Ne.symm same], found⟩

theorem find_filter {table : Table κ α} {p : κ → α → Bool} {k : κ} :
    (table.filter p)[k]? = table[k]?.filter (p k) := Std.ExtTreeMap.getElem?_filter'

theorem find_filter_eq_some {table : Table κ α} {p : κ → α → Bool} {k : κ} {a : α} :
    (table.filter p)[k]? = some a ↔ table[k]? = some a ∧ p k a = true := by
  rw [find_filter, Option.filter_eq_some_iff]

/-- Where two tables have the same selected rows, a key finds the same selected row. -/
theorem find_filter_congr {left right : Table κ α} {p : α → Bool}
    (same : (left.filter fun _ a => p a) = right.filter fun _ a => p a) (k : κ) :
    left[k]?.filter p = right[k]?.filter p := by
  have found : (left.filter fun _ a => p a)[k]? = (right.filter fun _ a => p a)[k]? := by rw [same]
  rwa [find_filter, find_filter] at found

omit [Std.LawfulEqOrd κ] in
theorem rows_filter {table : Table κ α} {p : α → Bool} :
    rows (table.filter fun _ a => p a) = (rows table).filter p := by
  rw [rows, rows, Std.ExtTreeMap.toList_filter, List.filter_map]
  rfl

theorem filter_eq_filter {left right : Table κ α} {p q : κ → α → Bool}
    (same : ∀ k a, left[k]? = some a ∧ p k a = true ↔ right[k]? = some a ∧ q k a = true) :
    left.filter p = right.filter q := by
  apply ext_find
  intro k
  apply Option.ext
  intro a
  rw [find_filter_eq_some, find_filter_eq_some]
  exact same k a

theorem rows_sublist {left right : Table κ α} (part : ∀ (k : κ) a, left[k]? = some a → right[k]? = some a) :
    left.rows.Sublist right.rows := by
  have selected : left = right.filter fun k _ => left.contains k := by
    apply ext_find
    intro k
    apply Option.ext
    intro a
    rw [find_filter_eq_some]
    constructor
    · intro found
      refine ⟨part k a found, ?_⟩
      rw [← Std.ExtTreeMap.mem_iff_contains, Std.ExtTreeMap.mem_iff_isSome_getElem?, found]
      rfl
    · intro ⟨found, listed⟩
      rw [← Std.ExtTreeMap.mem_iff_contains, Std.ExtTreeMap.mem_iff_isSome_getElem?, Option.isSome_iff_exists] at listed
      obtain ⟨a', found'⟩ := listed
      rw [part k a' found', Option.some.injEq] at found
      rw [found', found]
  rw [selected, rows, rows, Std.ExtTreeMap.toList_filter]
  exact List.filter_sublist.map Prod.snd

theorem size_le_of_keys {β : Type} {left : Table κ α} {right : Table κ β} (part : ∀ k ∈ left, k ∈ right) :
    left.size ≤ right.size := by
  rw [← Std.ExtTreeMap.length_keys, ← Std.ExtTreeMap.length_keys]
  apply List.Subperm.length_le
  apply List.subperm_of_subset Std.ExtTreeMap.nodup_keys
  intro k listed
  rw [Std.ExtTreeMap.mem_keys] at listed ⊢
  exact part k listed

theorem find_map {β : Type} {table : Table κ α} {f : κ → α → β} {k : κ} :
    (table.map f)[k]? = table[k]?.map (f k) := Std.ExtTreeMap.getElem?_map

theorem map_insert [DecidableEq κ] {β : Type} {table : Table κ α} {f : α → β} {k : κ} {a : α} :
    ((table.insert k a).map fun _ a => f a) = (table.map fun _ a => f a).insert k (f a) := by
  apply ext_find
  intro k'
  rw [find_map, find_insert, find_insert, find_map]
  split <;> rfl

theorem map_insertAll [DecidableEq κ] {β : Type} {table : Table κ α} {f : α → β} {entries : List (κ × α)} :
    ((table.insertAll entries).map fun _ a => f a) =
      insertAll (table.map fun _ a => f a) (entries.map fun entry => (entry.1, f entry.2)) := by
  induction entries generalizing table with
  | nil => rfl
  | cons entry entries ih => rw [List.map_cons, insertAll_cons, insertAll_cons, ih, map_insert]

theorem filter_eq_empty {table : Table κ α} {p : κ → α → Bool}
    (dropped : ∀ k a, table[k]? = some a → p k a = false) : table.filter p = ∅ := by
  apply ext_find
  intro k
  rw [find_filter, Std.ExtTreeMap.getElem?_empty]
  cases found : table[k]? with
  | none => rfl
  | some a => simp [dropped k a found]

theorem filter_insert [DecidableEq κ] {table : Table κ α} {p : κ → α → Bool} {k : κ} {a : α}
    (after : p k a = false) (before : ∀ b, table[k]? = some b → p k b = false) :
    (table.insert k a).filter p = table.filter p := by
  apply filter_eq_filter
  intro k' b
  rw [find_insert]
  by_cases same : k = k'
  · subst same
    rw [if_pos rfl]
    constructor
    · rintro ⟨written, chosen⟩
      cases written
      simp [after] at chosen
    · rintro ⟨found, chosen⟩
      simp [before b found] at chosen
  · rw [if_neg same]

theorem find_rewrite [DecidableEq κ] {table : Table κ α} {p : α → Bool} {f : α → α} {k : κ} :
    (table.insertAll ((table.toList.filter fun entry => p entry.2).map fun entry => (entry.1, f entry.2)))[k]? =
      table[k]?.map fun a => if p a then f a else a := by
  have keys : ((table.toList.filter fun entry => p entry.2).map fun entry => (entry.1, f entry.2)).map Prod.fst =
      (table.toList.filter fun entry => p entry.2).map Prod.fst := by
    rw [List.map_map]
    rfl
  have distinct := keys ▸ @nodup_keys_filter _ _ _ _ table fun entry => p entry.2
  by_cases selected : ∃ a, table[k]? = some a ∧ p a = true
  · obtain ⟨a, found, chosen⟩ := selected
    have member : (k, f a) ∈ (table.toList.filter fun entry => p entry.2).map fun entry => (entry.1, f entry.2) := by
      rw [List.mem_map]
      refine ⟨(k, a), ?_, rfl⟩
      rw [List.mem_filter, Std.ExtTreeMap.mem_toList_iff_getElem?_eq_some]
      exact ⟨found, chosen⟩
    rw [find_insertAll_of_mem distinct member, found, Option.map_some, if_pos chosen]
  · have absent : k ∉ (table.toList.filter fun entry => p entry.2).map Prod.fst := by
      intro member
      obtain ⟨entry, stored, rfl⟩ := List.mem_map.mp member
      obtain ⟨stored, chosen⟩ := List.mem_filter.mp stored
      rw [Std.ExtTreeMap.mem_toList_iff_getElem?_eq_some] at stored
      exact selected ⟨entry.2, stored, chosen⟩
    rw [find_insertAll_of_notMem (keys ▸ absent)]
    cases found : table[k]? with
    | none => rfl
    | some a =>
      have skipped : p a ≠ true := fun chosen => selected ⟨a, found, chosen⟩
      rw [Option.map_some, if_neg skipped]

theorem rows_insert_perm [DecidableEq κ] {table : Table κ α} {k : κ} {a : α} (absent : table[k]? = none) :
    (rows (table.insert k a)).Perm (a :: rows table) := by
  have nodup {table : Table κ α} : table.toList.Nodup := by
    apply Std.ExtTreeMap.distinct_keys_toList.imp
    intro entry entry' apart same
    rw [same, Std.LawfulEqOrd.compare_eq_iff_eq] at apart
    exact apart rfl
  have fresh : ((k, a) :: table.toList).Nodup := by
    rw [List.nodup_cons, Std.ExtTreeMap.mem_toList_iff_getElem?_eq_some, absent]
    exact ⟨nofun, nodup⟩
  have entries : (table.insert k a).toList.Perm ((k, a) :: table.toList) := by
    rw [List.perm_ext_iff_of_nodup nodup fresh]
    rintro ⟨k', b⟩
    rw [List.mem_cons, Std.ExtTreeMap.mem_toList_iff_getElem?_eq_some,
      Std.ExtTreeMap.mem_toList_iff_getElem?_eq_some, find_insert]
    by_cases same : k = k'
    · subst same
      simp [absent, eq_comm]
    · simp [same, Ne.symm same]
  exact entries.map Prod.snd

omit [Std.LawfulEqOrd κ] in
theorem rows_map {β : Type} {table : Table κ α} {f : α → β} :
    rows (table.map fun _ a => f a) = (rows table).map f := by
  rw [rows, rows, Std.ExtTreeMap.toList_map, List.map_map, List.map_map]
  rfl

theorem rows_map_congr {β : Type} {left right : Table κ α} {f : α → β}
    (same : ∀ k : κ, left[k]?.map f = right[k]?.map f) : (rows left).map f = (rows right).map f := by
  have alike : (left.map fun _ a => f a) = right.map fun _ a => f a := by
    apply ext_find
    intro k
    rw [find_map, find_map]
    exact same k
  rw [← rows_map, ← rows_map, alike]

theorem rows_filterMap_congr {β : Type} {left right : Table κ α} {f : α → Option β}
    (same : ∀ k : κ, left[k]?.bind f = right[k]?.bind f) : (rows left).filterMap f = (rows right).filterMap f := by
  have mapped {table : Table κ α} : (rows table).filterMap f = rows (table.filterMap fun _ a => f a) := by
    rw [rows, rows, Std.ExtTreeMap.toList_filterMap, List.filterMap_map, List.map_filterMap]
    apply List.filterMap_congr
    intro entry _
    rw [Option.map_map]
    show f entry.2 = Option.map id (f entry.2)
    rw [Option.map_id, id_eq]
  have alike : (left.filterMap fun _ a => f a) = right.filterMap fun _ a => f a := by
    apply ext_find
    intro k
    rw [Std.ExtTreeMap.getElem?_filterMap', Std.ExtTreeMap.getElem?_filterMap']
    exact same k
  rw [mapped, mapped, alike]

theorem eq_of_ordered {entries entries' : List (κ × α)}
    (ordered : entries.Pairwise fun entry entry' => compare entry.1 entry'.1 = .lt)
    (ordered' : entries'.Pairwise fun entry entry' => compare entry.1 entry'.1 = .lt)
    (same : ∀ entry, entry ∈ entries ↔ entry ∈ entries') : entries = entries' := by
  have nodup {entries : List (κ × α)} (ordered : entries.Pairwise fun entry entry' => compare entry.1 entry'.1 = .lt) :
      entries.Nodup := by
    apply ordered.imp
    intro entry entry' before equal
    rw [equal, Std.LawfulEqOrd.compare_eq_iff_eq.mpr rfl] at before
    cases before
  have perm := (List.perm_ext_iff_of_nodup (nodup ordered) (nodup ordered')).mpr same
  apply List.Perm.eq_of_pairwise _ ordered ordered' perm
  intro entry entry' _ _ before after
  rw [Std.OrientedOrd.eq_swap, after] at before
  cases before

theorem rows_insert_last [DecidableEq κ] {table : Table κ α} {k : κ} {a : α} (last : ∀ k' ∈ table, compare k' k = .lt) :
    rows (table.insert k a) = rows table ++ [a] := by
  have absent : k ∉ table := by
    intro member
    have before := last k member
    rw [Std.LawfulEqOrd.compare_eq_iff_eq.mpr rfl] at before
    cases before
  have sorted : (table.toList ++ [(k, a)]).Pairwise fun entry entry' => compare entry.1 entry'.1 = .lt := by
    rw [List.pairwise_append]
    refine ⟨Std.ExtTreeMap.ordered_keys_toList, List.pairwise_singleton .., ?_⟩
    intro entry member entry' member'
    rw [List.mem_singleton.mp member']
    rw [Std.ExtTreeMap.mem_toList_iff_getElem?_eq_some] at member
    apply last
    rw [Std.ExtTreeMap.mem_iff_isSome_getElem?, member]
    rfl
  have lists : (table.insert k a).toList = table.toList ++ [(k, a)] := by
    apply eq_of_ordered Std.ExtTreeMap.ordered_keys_toList sorted
    rintro ⟨k', b⟩
    rw [List.mem_append, List.mem_singleton, Std.ExtTreeMap.mem_toList_iff_getElem?_eq_some,
      Std.ExtTreeMap.mem_toList_iff_getElem?_eq_some, find_insert]
    have missing : table[k]? = none := Std.ExtTreeMap.getElem?_eq_none absent
    by_cases same : k = k'
    · subst same
      simp [missing, eq_comm]
    · simp [same, Ne.symm same]
  rw [rows, rows, lists, List.map_append]
  rfl

theorem rows_insertAll_last [DecidableEq κ] {table : Table κ α} {entries : List (κ × α)}
    (last : ∀ k ∈ table, ∀ entry ∈ entries, compare k entry.1 = .lt)
    (ascending : entries.Pairwise fun entry entry' => compare entry.1 entry'.1 = .lt) :
    rows (table.insertAll entries) = rows table ++ entries.map Prod.snd := by
  induction entries generalizing table with
  | nil => simp [insertAll]
  | cons entry entries ih =>
    rw [List.pairwise_cons] at ascending
    have first : ∀ k ∈ table, compare k entry.1 = .lt := fun k member => last k member entry List.mem_cons_self
    rw [insertAll_cons, ih _ ascending.2, rows_insert_last first, List.map_cons, List.append_assoc]
    · rfl
    · intro k member later listed
      rw [Std.ExtTreeMap.mem_insert, Std.LawfulEqOrd.compare_eq_iff_eq] at member
      rcases member with same | member
      · rw [← same]
        exact ascending.1 later listed
      · exact last k member later (List.mem_cons_of_mem _ listed)

/-- A table that keeps its rows and gains only keys behind all of them lists the old rows first. -/
theorem rows_prefix {table table' : Table κ α}
    (kept : ∀ (k : κ) (a : α), table[k]? = some a → table'[k]? = some a)
    (last : ∀ k ∈ table', k ∉ table → ∀ k' ∈ table, compare k' k = .lt) : rows table <+: rows table' := by
  let added := table'.toList.filter fun entry => decide (entry.1 ∉ table)
  have fresh {entry : κ × α} (member : entry ∈ added) : table'[entry.1]? = some entry.2 ∧ entry.1 ∉ table := by
    obtain ⟨listed, absent⟩ := List.mem_filter.mp member
    rw [Std.ExtTreeMap.mem_toList_iff_getElem?_eq_some] at listed
    exact ⟨listed, of_decide_eq_true absent⟩
  have sorted : (table.toList ++ added).Pairwise fun entry entry' => compare entry.1 entry'.1 = .lt := by
    rw [List.pairwise_append]
    refine ⟨Std.ExtTreeMap.ordered_keys_toList, Std.ExtTreeMap.ordered_keys_toList.filter _, ?_⟩
    intro entry member entry' member'
    rw [Std.ExtTreeMap.mem_toList_iff_getElem?_eq_some] at member
    obtain ⟨found, absent⟩ := fresh member'
    apply last entry'.1 _ absent entry.1
    · rw [Std.ExtTreeMap.mem_iff_isSome_getElem?, member]
      rfl
    · rw [Std.ExtTreeMap.mem_iff_isSome_getElem?, found]
      rfl
  have lists : table'.toList = table.toList ++ added := by
    apply eq_of_ordered Std.ExtTreeMap.ordered_keys_toList sorted
    rintro ⟨k, a⟩
    rw [List.mem_append, List.mem_filter, Std.ExtTreeMap.mem_toList_iff_getElem?_eq_some,
      Std.ExtTreeMap.mem_toList_iff_getElem?_eq_some, decide_eq_true_eq]
    constructor
    · intro found
      by_cases before : k ∈ table
      · obtain ⟨b, stored⟩ := Option.isSome_iff_exists.mp (Std.ExtTreeMap.mem_iff_isSome_getElem?.mp before)
        rw [kept k b stored, Option.some.injEq] at found
        exact .inl (found ▸ stored)
      · exact .inr ⟨found, before⟩
    · rintro (stored | ⟨found, _⟩)
      · exact kept k a stored
      · exact found
  rw [rows, rows, lists, List.map_append]
  exact List.prefix_append _ _

theorem filter_rows_insert [DecidableEq κ] {table : Table κ α} {p : α → Bool} {k : κ} {a : α}
    (after : p a = false) (before : ∀ b, table[k]? = some b → p b = false) :
    (rows (table.insert k a)).filter p = (rows table).filter p := by
  rw [← rows_filter, ← rows_filter, filter_insert after before]

end Table

end Lib
