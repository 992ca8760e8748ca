import Hangar.Operations.Walk

namespace Hangar.OnDisk

open Lib Lib.Program

def describe (x : Externals) (file : Path × List UInt8) : Result BackupFile := do
  let listed ← relativeToManifestPath file.1
  return ⟨listed, file.2.length, (x.sha256 file.2).text⟩

structure Files (disk : Disk) (root : Path) (within : Path → Prop) (files : List (Path × List UInt8)) : Prop where
  nodup : files.Nodup
  mem_iff : ∀ relative content, (relative, content) ∈ files ↔
    within relative ∧ disk.lookup (root ++ relative) = some (.node (.file content))

def Lists (x : Externals) (disk : Disk) (root : Path) (within : Path → Prop) (files files' : List BackupFile) : Prop :=
  ∃ found described, Files disk root within found ∧ found.mapM (describe x) = .ok described ∧ files' = files ++ described

variable {x : Externals} {json : ManifestJson} {opens : List UInt8 → Bool} {system : System}
  {root destination base current path : Path} {name : FileName} {files : List BackupFile} {disk disk' : Disk}

section
variable {α : Type} {Q : α → Disk → Prop} {E : Stop → Disk → Prop}

theorem query_run {f : Disk → Result α} {a : α} (answer : f disk = .ok a) : query f disk = (disk, .ok a) := by
  unfold query Program.query
  dsimp only
  rw [answer]
  rfl

theorem act_run {refusal : String} {f : Disk → Option Disk} (changed : f disk = some disk') :
    act refusal f disk = (disk', .ok ()) := by
  unfold act Program.transaction
  dsimp only
  rw [changed]

theorem query_triple {f : Disk → Result α} (post : ∀ a, f disk = .ok a → Q a disk)
    (error : ∀ failure, f disk = .error failure → E (.failed failure) disk) : Triple (query f) disk Q E := by
  apply Triple.query
  · intro a done
    apply post a
    cases answer : f disk with
    | ok b =>
      rw [answer] at done
      cases done
      rfl
    | error failure =>
      rw [answer] at done
      cases done
  · intro stop failed
    cases answer : f disk with
    | ok b =>
      rw [answer] at failed
      cases failed
    | error failure =>
      rw [answer] at failed
      cases failed
      exact error failure answer

theorem act_triple {refusal : String} {f : Disk → Option Disk} {Q : Unit → Disk → Prop}
    (post : ∀ disk', f disk = some disk' → Q () disk') (error : f disk = none → E (.failed (.external refusal)) disk) :
    Triple (act refusal f) disk Q E := by
  apply Triple.transaction
  · intro a disk' done
    cases changed : f disk with
    | some disk'' =>
      rw [changed] at done
      cases done
      exact post disk' changed
    | none =>
      rw [changed] at done
      cases done
  · intro stop failed
    cases changed : f disk with
    | some disk'' =>
      rw [changed] at failed
      cases failed
    | none =>
      rw [changed] at failed
      cases failed
      exact error changed

end

/-- What survives everything a copy to the destination writes. -/
structure Closed (system : System) (destination : Path) (I : Disk → Prop) : Prop where
  directory : ∀ relative disk disk', I disk →
    disk.createDirAll system.limit (destination ++ relative) = some disk' → I disk'
  file : ∀ relative content disk disk', I disk →
    disk.createFile system.limit (destination ++ relative) content = some disk' → I disk'

theorem read_of_file {content : List UInt8} (found : disk.lookup path = some (.node (.file content))) :
    disk.read path = some content := by
  rw [Disk.read, Disk.node, found]
  rfl

theorem file_of_createDirAll {content : List UInt8} {target : Path} {limit : Option Nat}
    (found : disk.lookup path = some (.node (.file content))) (created : disk.createDirAll limit target = some disk') :
    disk'.lookup path = some (.node (.file content)) := by
  rw [Disk.lookup_createDirAll created, if_neg, found]
  intro inside
  rcases (Disk.createDirAll_creatable created).on inside with none | directory
  · rw [found] at none
    cases none
  · rw [found] at directory
    cases directory

/-- A turn of the copy, by what it finds: it fails, descends, copies a file or passes. -/
theorem copyEntry_triple {recurse : Path → List BackupFile → Command (List BackupFile)} {I : Disk → Prop}
    {Q : List BackupFile → Disk → Prop} {E : Stop → Disk → Prop} (closed : Closed system destination I) (holds : I disk)
    (error : ∀ failure disk', I disk' → E (.failed failure) disk')
    (descend : disk.lookup (root ++ (base ++ [name])) = some .directory → ∀ disk',
      disk.createDirAll system.limit (destination ++ (base ++ [name])) = some disk' → I disk' →
      Triple (recurse (root ++ (base ++ [name])) files) disk' Q E)
    (copied : ∀ content, disk.lookup (root ++ (base ++ [name])) = some (.node (.file content)) → ∀ disk' file, I disk' →
      describe x (base ++ [name], content) = .ok file → Q (files ++ [file]) disk')
    (passed : disk.lookup (root ++ (base ++ [name])) = some (.node .special) → Q files disk) :
    Triple (copyEntry x system recurse root (root ++ base) destination true files name) disk Q E := by
  have target : (destination ++ (base ++ [name])).dropLast = destination ++ base := by
    rw [← List.append_assoc, List.dropLast_concat]
  unfold copyEntry
  dsimp only
  rw [List.append_assoc]
  refine (query_triple (Q := fun entry disk' => disk = disk' ∧ disk.lookup (root ++ (base ++ [name])) = some entry)
    (fun entry found => ⟨rfl, context_eq_ok.mp found⟩) fun failure _ => error failure disk holds).bind ?_
  rintro entry _ ⟨rfl, found⟩
  cases entry with
  | symlink target => exact Triple.fail (error _ _ holds)
  | node node =>
    dsimp only
    refine (query_triple (Q := fun relative disk' => disk = disk' ∧ base ++ [name] = relative)
      (fun relative stripped => ⟨rfl, ?_⟩) fun failure _ => error failure disk holds).bind ?_
    · have same := relativeTo_eq_some.mp (context_eq_ok.mp stripped)
      simpa using same
    rintro _ _ ⟨rfl, rfl⟩
    rw [if_neg (by simp [skips])]
    cases node with
    | special => exact Triple.pure (passed found)
    | directory =>
      dsimp only
      refine (act_triple (Q := fun _ disk' => disk.createDirAll system.limit (destination ++ (base ++ [name])) = some disk')
        (fun _ created => created) fun _ => error _ _ holds).bind ?_
      intro _ disk' created
      exact descend found disk' created (closed.directory _ _ _ holds created)
    | file content =>
      dsimp only
      rw [target]
      refine (act_triple (Q := fun _ disk' => disk.createDirAll system.limit (destination ++ base) = some disk')
        (fun _ created => created) fun _ => error _ _ holds).bind ?_
      intro _ parented created
      have holds := closed.directory _ _ _ holds created
      have kept := read_of_file (file_of_createDirAll found created)
      refine Triple.bind (Q := fun _ disk' => I disk' ∧ disk'.read (root ++ (base ++ [name])) = some content) ?_ ?_
      · unfold copyFileSync
        refine (query_triple (Q := fun read disk' => parented = disk' ∧ content = read) (fun read opened => ⟨rfl, ?_⟩)
          fun failure _ => error failure _ holds).bind ?_
        · exact Option.some_inj.mp (kept.symm.trans (context_eq_ok.mp opened))
        rintro _ _ ⟨rfl, rfl⟩
        refine act_triple (fun disk' written => ⟨closed.file _ _ _ _ holds written, ?_⟩) fun _ => error _ _ holds
        apply read_of_file
        rw [Disk.lookup_createFile written]
        split
        · rfl
        · exact file_of_createDirAll found created
      rintro _ written ⟨holds, reread⟩
      refine (query_triple (Q := fun listed disk' => written = disk' ∧ relativeToManifestPath (base ++ [name]) = .ok listed)
        (fun listed named => ⟨rfl, named⟩) fun failure _ => error failure _ holds).bind ?_
      rintro listed _ ⟨rfl, named⟩
      refine (query_triple (Q := fun read disk' => written = disk' ∧ content = read) (fun read opened => ⟨rfl, ?_⟩)
        fun failure _ => error failure _ holds).bind ?_
      · exact Option.some_inj.mp (reread.symm.trans (context_eq_ok.mp opened))
      rintro _ _ ⟨rfl, rfl⟩
      apply Triple.pure
      apply copied content found written _ holds
      rw [describe, named]
      rfl

def Shallow (system : System) (root destination : Path) (I : Disk → Prop) (depth : Nat) : Prop :=
  ∀ relative disk, I disk → disk.lookup (root ++ relative) = some .directory →
    Disk.Creatable system.limit disk (destination ++ relative) → relative.length ≤ depth

theorem copyTreeInner_keeps {I : Disk → Prop} (closed : Closed system destination I) (fuel : Nat) (holds : I disk) :
    Triple (copyTreeInner x system root destination true fuel (root ++ base) files) disk (fun _ => I)
      fun stop disk' => I disk' ∧ ∀ depth, Shallow system root destination I depth → base.length ≤ depth →
        depth < base.length + fuel → stop ≠ .unfinished := by
  induction fuel generalizing base files disk with
  | zero =>
    refine Triple.fail ⟨holds, ?_⟩
    intro depth _ low high
    omega
  | succ fuel ih =>
    have failed (failure : Failure) (disk' : Disk) (holds : I disk') : I disk' ∧ ∀ depth,
        Shallow system root destination I depth → base.length ≤ depth → depth < base.length + (fuel + 1) →
          Stop.failed failure ≠ .unfinished := ⟨holds, fun _ _ _ _ same => by cases same⟩
    unfold copyTreeInner
    refine (query_triple (Q := fun _ disk' => disk = disk') (fun _ _ => rfl)
      fun failure _ => failed failure disk holds).bind ?_
    rintro names _ rfl
    refine Triple.foldlM_prefix (I := fun _ _ => I) ?_ holds
    intro done name rest split files disk holds
    apply copyEntry_triple closed holds failed
    · intro found disk' created holds'
      refine (ih holds').weaken (fun _ _ kept => kept) ?_
      rintro stop disk'' ⟨kept, ends⟩
      refine ⟨kept, fun depth shallow low high => ?_⟩
      have deeper := shallow _ disk holds found (Disk.createDirAll_creatable created)
      apply ends depth shallow deeper
      rw [List.length_append, List.length_singleton]
      omega
    · intro content found disk' file kept described
      exact kept
    · intro found
      exact holds

theorem Files.nil {within : Path → Prop}
    (none : ∀ relative content, within relative → disk.lookup (root ++ relative) ≠ some (.node (.file content))) :
    Files disk root within [] where
  nodup := List.nodup_nil
  mem_iff relative content := by
    constructor
    · intro member
      cases member
    · rintro ⟨inside, found⟩
      exact absurd found (none relative content inside)

theorem Files.append {within within' : Path → Prop} {found found' : List (Path × List UInt8)}
    (first : Files disk root within found) (later : Files disk root within' found')
    (apart : ∀ relative, within relative → ¬within' relative) :
    Files disk root (fun relative => within relative ∨ within' relative) (found ++ found') where
  nodup := by
    apply first.nodup.append later.nodup
    intro file member member'
    obtain ⟨relative, content⟩ := file
    exact apart relative ((first.mem_iff _ _).mp member).1 ((later.mem_iff _ _).mp member').1
  mem_iff relative content := by
    rw [List.mem_append, first.mem_iff, later.mem_iff]
    tauto

theorem Files.congr {within within' : Path → Prop} {found : List (Path × List UInt8)}
    (listed : Files disk root within found)
    (same : ∀ relative content, disk.lookup (root ++ relative) = some (.node (.file content)) →
      (within relative ↔ within' relative)) : Files disk root within' found where
  nodup := listed.nodup
  mem_iff relative content := by
    rw [listed.mem_iff]
    constructor
    · rintro ⟨inside, found⟩
      exact ⟨(same relative content found).mp inside, found⟩
    · rintro ⟨inside, found⟩
      exact ⟨(same relative content found).mpr inside, found⟩

theorem Files.single {content : List UInt8} (rooted : disk.Rooted)
    (found : disk.lookup (root ++ base) = some (.node (.file content))) :
    Files disk root (base <+: ·) [(base, content)] where
  nodup := List.nodup_singleton _
  mem_iff relative content' := by
    constructor
    · intro member
      cases List.mem_singleton.mp member
      exact ⟨List.prefix_rfl, found⟩
    · rintro ⟨⟨rest, rfl⟩, found'⟩
      by_cases last : rest = []
      · subst last
        rw [List.append_nil] at found' ⊢
        rw [found] at found'
        cases found'
        exact List.mem_singleton_self _
      · rw [← List.append_assoc] at found'
        have above := rooted.above (by rw [found']; simp) last
        rw [found] at above
        cases above

theorem Lists.append {within within' : Path → Prop} {files files' files'' : List BackupFile}
    (first : Lists x disk root within files files') (later : Lists x disk root within' files' files'')
    (apart : ∀ relative, within relative → ¬within' relative) :
    Lists x disk root (fun relative => within relative ∨ within' relative) files files'' := by
  obtain ⟨found, described, listed, run, rfl⟩ := first
  obtain ⟨found', described', listed', run', rfl⟩ := later
  refine ⟨found ++ found', described ++ described', listed.append listed' apart, ?_, by rw [List.append_assoc]⟩
  rw [List.mapM_append, run, run']
  rfl

theorem Lists.congr {within within' : Path → Prop} {files files' : List BackupFile}
    (lists : Lists x disk root within files files')
    (same : ∀ relative content, disk.lookup (root ++ relative) = some (.node (.file content)) →
      (within relative ↔ within' relative)) : Lists x disk root within' files files' := by
  obtain ⟨found, described, listed, run, extended⟩ := lists
  exact ⟨found, described, listed.congr same, run, extended⟩

theorem not_below_both {name' : FileName} (other : name ≠ name') {relative : Path} (first : base ++ [name] <+: relative) :
    ¬base ++ [name'] <+: relative := by
  intro second
  have same := List.prefix_of_prefix_length_le first second (by simp)
  exact other (by simpa using same.eq_of_length (by simp))

section
variable {source : Disk} {I : Disk → Prop} (closed : Closed system destination I) (rooted : source.Rooted)
  (frame : ∀ disk, I disk → ∀ path, root <+: path → disk.lookup path = source.lookup path)
include closed rooted frame

/-- A walk whose writes leave the source alone lists the files it had. -/
theorem copyTreeInner_lists (fuel : Nat) (holds : I disk) (directory : source.lookup (root ++ base) = some .directory) :
    Triple (copyTreeInner x system root destination true fuel (root ++ base) files) disk
      (fun files' disk' => I disk' ∧ Lists x source root (base <+: ·) files files') fun _ _ => True := by
  induction fuel generalizing base files disk with
  | zero => exact Triple.fail trivial
  | succ fuel ih =>
    unfold copyTreeInner
    refine (query_triple (Q := fun names disk' => disk = disk' ∧ names.Nodup ∧
      ∀ name, name ∈ names ↔ source.lookup (root ++ (base ++ [name])) ≠ none) ?_ fun _ _ => trivial).bind ?_
    · intro names listed
      obtain ⟨_, _, listed⟩ := bind_eq_ok.mp listed
      cases listed
      have perm := system.arrange_perm disk (root ++ base) (disk.children (root ++ base))
      refine ⟨rfl, perm.nodup_iff.mpr Disk.nodup_children, ?_⟩
      intro name
      rw [perm.mem_iff, Disk.mem_children, List.append_assoc, frame disk holds _ (List.prefix_append _ _)]
    rintro names _ ⟨rfl, distinct, children⟩
    refine (Triple.foldlM_prefix (E := fun _ _ => True) (I := fun done files' disk' => I disk' ∧
      Lists x source root (fun relative => ∃ name ∈ done, base ++ [name] <+: relative) files files') ?_ ?_).weaken ?_
      fun _ _ _ => trivial
    · rintro done name rest split files' disk ⟨holds, lists⟩
      have fresh : name ∉ done := by
        rw [split] at distinct
        intro again
        exact (List.nodup_append.mp distinct).2.2 name again name List.mem_cons_self rfl
      have extend {files'' : List BackupFile} (own : Lists x source root (base ++ [name] <+: ·) files' files'') :
          Lists x source root (fun relative => ∃ name' ∈ done ++ [name], base ++ [name'] <+: relative) files files'' := by
        have apart (relative : Path) : (∃ name' ∈ done, base ++ [name'] <+: relative) → ¬base ++ [name] <+: relative := by
          rintro ⟨name', listed, below⟩
          apply not_below_both _ below
          rintro rfl
          exact fresh listed
        have both := lists.append own apart
        refine both.congr fun relative content _ => ?_
        simp [or_and_right, exists_or]
      have present := frame disk holds (root ++ (base ++ [name])) (List.prefix_append _ _)
      apply copyEntry_triple closed holds fun _ _ _ => trivial
      · intro found disk' created holds'
        rw [present] at found
        exact (ih holds' found).weaken (fun _ _ ⟨kept, own⟩ => ⟨kept, extend own⟩) fun _ _ _ => trivial
      · intro content found disk' file holds' described
        rw [present] at found
        refine ⟨holds', extend ⟨[(base ++ [name], content)], [file], .single rooted found, ?_, rfl⟩⟩
        rw [List.mapM_cons, described]
        rfl
      · intro found
        rw [present] at found
        refine ⟨holds, extend ⟨[], [], .nil ?_, rfl, (List.append_nil _).symm⟩⟩
        rintro relative content ⟨rest, rfl⟩ below
        by_cases last : rest = []
        · rw [last, List.append_nil, found] at below
          cases below
        · rw [← List.append_assoc] at below
          have above := rooted.above (by rw [below]; simp) last
          rw [found] at above
          cases above
    · refine ⟨holds, [], [], .nil ?_, rfl, (List.append_nil _).symm⟩
      rintro relative content ⟨name, member, _⟩
      cases member
    · rintro files' disk' ⟨holds', lists⟩
      refine ⟨holds', lists.congr fun relative content found => ?_⟩
      constructor
      · rintro ⟨name, _, below⟩
        exact (List.prefix_append _ _).trans below
      · rintro ⟨rest, rfl⟩
        cases rest with
        | nil =>
          rw [List.append_nil, directory] at found
          cases found
        | cons name rest =>
          refine ⟨name, (children name).mpr ?_, rest, by simp⟩
          have below : root ++ (base ++ name :: rest) = root ++ (base ++ [name]) ++ rest := by simp
          rw [below] at found
          exact rooted.prefix_present (by rw [found]; simp) (List.prefix_append _ _)

end

end Hangar.OnDisk
