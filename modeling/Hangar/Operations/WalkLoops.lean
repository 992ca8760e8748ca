import Hangar.Operations.WalkFiles

/-! A walk of a tree that its own copy lies in. From any place on the way into the copy there is a next name. -/

namespace Hangar.OnDisk

open Lib Lib.Program

variable {x : Externals} {system : System} {root relative base path : Path} {name : FileName}
  {files : List BackupFile} {disk disk' : Disk}

theorem next_name (loops : base <+: relative ++ base) (some : relative ≠ []) :
    ∃ name rest, relative ++ base = base ++ name :: rest ∧ base ++ [name] <+: relative ++ (base ++ [name]) := by
  obtain ⟨rest, split⟩ := loops
  cases rest with
  | nil =>
    have lengths := congrArg List.length split
    rw [List.append_nil, List.length_append] at lengths
    have positive := List.length_pos_iff.mpr some
    omega
  | cons name rest =>
    refine ⟨name, rest, split.symm, rest ++ [name], ?_⟩
    rw [← List.append_assoc relative, ← split]
    simp

def Paved (path : Path) (disk : Disk) : Prop := ∀ p, p <+: path → disk.lookup p = some .directory

theorem Paved.closed (destination path : Path) : Closed system destination (Paved path) where
  directory relative disk disk' paved created p inside := by
    rw [Disk.lookup_createDirAll created]
    split
    · rfl
    · exact paved p inside
  file relative content disk disk' paved created p inside := by
    rw [Disk.lookup_createFile created, if_neg, paved p inside]
    rintro rfl
    exact Disk.createFile_ne_directory created (paved _ inside)

theorem paved_of_createDirAll {limit : Option Nat} (created : disk.createDirAll limit path = some disk') :
    Paved path disk' := by
  intro p inside
  rw [Disk.lookup_createDirAll created, if_pos inside]

/-- A walk that meets its own copy never succeeds: what it creates is there to be read when it gets there. -/
theorem copyTreeInner_never_succeeds (some : relative ≠ []) (fuel : Nat) (loops : base <+: relative ++ base)
    (paved : Paved (root ++ relative ++ base) disk) :
    Triple (copyTreeInner x system root (root ++ relative) true fuel (root ++ base) files) disk
      (fun _ _ => False) fun _ _ => True := by
  induction fuel generalizing base files disk with
  | zero => exact Triple.fail trivial
  | succ fuel ih =>
    obtain ⟨next, rest, split, loops'⟩ := next_name loops some
    have onward : root ++ (base ++ [next]) <+: root ++ relative ++ base := by
      rw [List.append_assoc root relative, split]
      exact ⟨rest, by simp⟩
    unfold copyTreeInner
    refine (query_triple (Q := fun names disk' => disk = disk' ∧ next ∈ names) ?_ fun _ _ => trivial).bind ?_
    · intro names listed
      obtain ⟨_, _, listed⟩ := bind_eq_ok.mp listed
      cases listed
      refine ⟨rfl, ?_⟩
      rw [(system.arrange_perm _ _ _).mem_iff, Disk.mem_children, List.append_assoc, paved _ onward]
      simp
    rintro names _ ⟨rfl, listed⟩
    refine (Triple.foldlM_prefix (E := fun _ _ => True) (I := fun done _ disk' =>
      Paved (root ++ relative ++ base) disk' ∧ next ∉ done) ?_ ⟨paved, List.not_mem_nil⟩).weaken
      (fun _ _ kept => kept.2 listed) fun _ _ _ => trivial
    rintro done name later split' files disk ⟨paved, unlisted⟩
    by_cases same : name = next
    · subst same
      have directory := paved _ onward
      apply copyEntry_triple (Paved.closed _ _) paved fun _ _ _ => trivial
      · intro found disk' created _
        have deeper := paved_of_createDirAll created
        exact (ih loops' deeper).weaken (fun _ _ wrong => wrong.elim) fun _ _ _ => trivial
      · intro content found
        rw [directory] at found
        cases found
      · intro found
        rw [directory] at found
        cases found
    · have unlisted' : next ∉ done ++ [name] := by
        rw [List.mem_append, List.mem_singleton]
        rintro (old | new)
        · exact unlisted old
        · exact same new.symm
      apply copyEntry_triple (Paved.closed _ _) paved fun _ _ _ => trivial
      · intro found disk' created kept
        exact (copyTreeInner_keeps (Paved.closed _ _) fuel kept).weaken (fun _ _ kept => ⟨kept, unlisted'⟩)
          fun _ _ _ => trivial
      · intro content found disk' file kept _
        exact ⟨kept, unlisted'⟩
      · intro found
        exact ⟨paved, unlisted'⟩

def nextName (root relative current : Path) : Option FileName :=
  (relativeTo root current).bind fun base => (relative ++ base)[base.length]?

def arrangeInward (root relative : Path) (_ : Disk) (current : Path) (names : List FileName) : List FileName :=
  match nextName root relative current with
  | some name => if name ∈ names then name :: names.erase name else names
  | none => names

/-- A system without a bound on paths that happens to list the way into the copy first. -/
def inward (root relative : Path) : System where
  limit := none
  arrange := arrangeInward root relative
  arrange_perm disk path names := by
    unfold arrangeInward
    split
    · split
      · next listed => exact (List.perm_cons_erase listed).symm
      · exact .refl _
    · exact .refl _

theorem arrangeInward_first (root : Path) (disk : Disk) {rest : Path} {names : List FileName} (split : relative ++ base = base ++ name :: rest)
    (listed : name ∈ names) : arrangeInward root relative disk (root ++ base) names = name :: names.erase name := by
  have next : nextName root relative (root ++ base) = some name := by
    rw [nextName, relativeTo_append, Option.bind_some, split]
    simp
  unfold arrangeInward
  rw [next]
  exact if_pos listed

theorem copyEntry_directory (system : System) {recurse : Path → List BackupFile → Command (List BackupFile)} {destination : Path}
    (found : disk.lookup (root ++ (base ++ [name])) = some .directory)
    (created : disk.createDirAll system.limit (destination ++ (base ++ [name])) = some disk') :
    copyEntry x system recurse root (root ++ base) destination true files name disk =
      recurse (root ++ (base ++ [name])) files disk' := by
  unfold copyEntry
  dsimp only
  rw [List.append_assoc, bind_run (query_run (context_eq_ok.mpr found))]
  dsimp only
  rw [bind_run (query_run (context_eq_ok.mpr (relativeTo_append _ _))), if_neg (by simp [skips]),
    bind_run (act_run created)]

/-- Where paths are not bounded the walk into its own copy goes on as long as it may. -/
theorem copyTreeInner_diverges (some : relative ≠ []) (fuel : Nat) (loops : base <+: relative ++ base)
    (paved : Paved (root ++ relative ++ base) disk)
    (fresh : ∀ q, disk.lookup (root ++ relative ++ q) ≠ none → q <+: base) :
    (copyTreeInner x (inward root relative) root (root ++ relative) true fuel (root ++ base) files disk).2 =
      .error .unfinished := by
  induction fuel generalizing base files disk with
  | zero => rfl
  | succ fuel ih =>
    obtain ⟨next, rest, split, loops'⟩ := next_name loops some
    have onward : root ++ (base ++ [next]) <+: root ++ relative ++ base := by
      rw [List.append_assoc root relative, split]
      exact ⟨rest, by simp⟩
    have creatable : Disk.Creatable none disk (root ++ relative ++ (base ++ [next])) := by
      refine ⟨rfl, fun p inside => ?_⟩
      rw [List.mem_inits, ← List.append_assoc, List.prefix_concat_iff] at inside
      rcases inside with rfl | inside
      · left
        by_contra there
        rw [List.append_assoc] at there
        have longer := (fresh _ there).length_le
        rw [List.length_append, List.length_singleton] at longer
        omega
      · exact .inr (paved p inside)
    obtain ⟨disk', created⟩ := creatable.createDirAll
    have deeper := paved_of_createDirAll created
    have fresh' (q : Path) (there : disk'.lookup (root ++ relative ++ q) ≠ none) : q <+: base ++ [next] := by
      rw [Disk.lookup_createDirAll created] at there
      split at there
      · next inside => exact (List.prefix_append_right_inj _).mp inside
      · exact (fresh q there).trans (List.prefix_append _ _)
    have listed : next ∈ disk.children (root ++ base) := by
      rw [Disk.mem_children, List.append_assoc, paved _ onward]
      simp
    have current : disk.isDir (root ++ base) = true := by
      have directory := paved (root ++ base) ((List.prefix_append _ [next]).trans (by rwa [List.append_assoc]))
      unfold Disk.isDir Disk.node
      rw [directory]
      rfl
    have arranged := arrangeInward_first root disk split listed
    have names : readDir (inward root relative) (root ++ base) disk =
        .ok (next :: (disk.children (root ++ base)).erase next) :=
      bind_eq_ok.mpr ⟨(), ensure_eq_ok.mpr current, congrArg Except.ok arranged⟩
    unfold copyTreeInner
    rw [bind_run (query_run names), List.foldlM_cons, bind_result,
      copyEntry_directory (inward root relative) (paved _ onward) created, ih loops' deeper fresh']
    rfl

end Hangar.OnDisk
