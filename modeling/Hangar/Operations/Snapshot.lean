import Hangar.Operations.RoundTrip
import Hangar.Operations.WalkLoops

/-! When a backup ends, and lists what its source was. -/

namespace Hangar.OnDisk

open Lib Lib.Program

structure Starts (limit : Option Nat) (disk : Disk) (destination temporary : Path) : Prop where
  named : siblingTemporaryPath destination = .ok temporary
  free : disk.present temporary = false
  creatable : Disk.Creatable limit disk temporary

/-- The call ended: with an error and the source unchanged, or with a backup that lists the files of the source. -/
def Snapshot (x : Externals) (json : ManifestJson) (disk : Disk) (source destination : Path) :
    Disk × Except Stop Unit → Prop
  | (disk', .ok _) => ∃ manifest found described,
    disk'.lookup (destination ++ [manifestFile]) = some (.node (.file (json.write manifest))) ∧
      Files disk source (fun _ => True) found ∧ found.mapM (describe x) = .ok described ∧
        manifest.files.Perm described
  | (disk', .error (.failed _)) => ∀ path, source <+: path → disk'.lookup path = disk.lookup path
  | (_, .error .unfinished) => False

/-- A backup that starts is not inside its source, or only where paths are bounded and in a directory that exists. -/
def Harmless (limit : Option Nat) (disk : Disk) (source destination : Path) : Prop :=
  ∀ temporary, Starts limit disk destination temporary → source <+: destination.dropLast →
    limit.isSome ∧ disk.lookup destination.dropLast = some .directory

variable {x : Externals} {json : ManifestJson} {opens : List UInt8 → Bool} {system : System} {limit : Option Nat}
  {source destination temporary : Path} {disk created : Disk} {fuel now : Nat}

theorem snapshot_of_triple {command : Command Unit}
    (holds : Triple command created (fun a disk' => Snapshot x json disk source destination (disk', .ok a))
      fun stop disk' => Snapshot x json disk source destination (disk', .error stop)) :
    Snapshot x json disk source destination (command created) :=
  holds.outcome fun outcome disk' => Snapshot x json disk source destination (disk', outcome)

def finishBackup (x : Externals) (json : ManifestJson) (system : System) (fuel now : Nat)
    (source destination temporary : Path) : Command Unit := do
  let files ← (copyTree x system fuel source temporary true).onError (cleanUp (Disk.removeDirAll temporary))
  let manifest : BackupManifest := ⟨backupFormat, now, files⟩
  act "creating a file" (Disk.createFile system.limit (temporary ++ [manifestFile]) (json.write manifest))
  act "atomically publishing backup from " (Disk.rename temporary destination)

section
variable (live : validateLiveDataDirectory opens source disk = .ok ()) (absent : disk.present destination = false)
include live absent

theorem createBackup_run (starts : Starts system.limit disk destination temporary)
    (made : disk.createDirAll system.limit temporary = some created) :
    createBackup x json opens system fuel now source destination disk =
      finishBackup x json system fuel now source destination temporary created := by
  have free : check (!disk.present destination) "backup destination already exists: " = .ok () :=
    ensure_eq_ok.mpr (by simp [absent])
  have free' : check (!disk.present temporary) "temporary backup path already exists: " = .ok () :=
    ensure_eq_ok.mpr (by simp [starts.free])
  unfold createBackup
  rw [bind_run (query_run live), bind_run (query_run free), bind_run (query_run starts.named),
    bind_run (query_run free'), bind_run (act_run made)]
  rfl

end

theorem createBackup_early (never : ∀ temporary, ¬Starts system.limit disk destination temporary) :
    Triple (createBackup x json opens system fuel now source destination) disk (fun _ _ => False)
      fun stop disk' => disk' = disk ∧ ∃ failure, stop = .failed failure := by
  unfold createBackup
  refine (query_triple (Q := fun _ disk' => disk = disk') (fun _ _ => rfl) fun failure _ => ⟨rfl, failure, rfl⟩).bind ?_
  rintro _ _ rfl
  refine (query_triple (Q := fun _ disk' => disk = disk') (fun _ _ => rfl) fun failure _ => ⟨rfl, failure, rfl⟩).bind ?_
  rintro _ _ rfl
  refine (query_triple (Q := fun temporary disk' => disk = disk' ∧ siblingTemporaryPath destination = .ok temporary)
    (fun _ named => ⟨rfl, named⟩) fun failure _ => ⟨rfl, failure, rfl⟩).bind ?_
  rintro temporary _ ⟨rfl, named⟩
  refine (query_triple (Q := fun _ disk' => disk = disk' ∧ disk.present temporary = false)
    (fun _ free => ⟨rfl, ?_⟩) fun failure _ => ⟨rfl, failure, rfl⟩).bind ?_
  · simpa using ensure_eq_ok.mp free
  rintro _ _ ⟨rfl, free⟩
  refine (act_triple (Q := fun _ _ => False) (fun _ made => ?_) fun _ => ⟨rfl, _, rfl⟩).bind fun _ _ wrong => wrong.elim
  exact never temporary ⟨named, free, Disk.createDirAll_creatable made⟩

theorem current_root (root : Path) : root = root ++ [] := (List.append_nil root).symm

section
variable {I : Disk → Prop} (closed : Closed system temporary I)
include closed

theorem copyTree_keeps (holds : I disk) : Triple (copyTree x system fuel source temporary true) disk (fun _ => I)
    fun stop disk' => I disk' ∧
      ∀ depth, Shallow system source temporary I depth → depth < fuel → stop ≠ .unfinished := by
  have walk := @copyTreeInner_keeps x system source temporary [] [] disk I closed fuel holds
  rw [← current_root] at walk
  refine (walk.weaken (fun _ _ kept => kept) ?_).bind fun _ _ kept => Triple.pure kept
  rintro stop disk' ⟨kept, ends⟩
  refine ⟨kept, fun depth shallow enough => ends depth shallow (Nat.zero_le _) ?_⟩
  simpa using enough

theorem copyTree_lists (rooted : disk.Rooted)
    (frame : ∀ disk', I disk' → ∀ path, source <+: path → disk'.lookup path = disk.lookup path) (holds : I created)
    (directory : disk.lookup source = some .directory) :
    Triple (copyTree x system fuel source temporary true) created (fun files _ => ∃ found described,
      Files disk source (fun _ => True) found ∧ found.mapM (describe x) = .ok described ∧ files.Perm described)
      fun _ _ => True := by
  have inside : disk.lookup (source ++ []) = some .directory := by rwa [← current_root]
  have walk := @copyTreeInner_lists x system source temporary [] [] created disk I closed rooted frame fuel holds inside
  rw [← current_root] at walk
  refine walk.bind ?_
  rintro files disk' ⟨_, found, described, listed, run, rfl⟩
  refine Triple.pure ⟨found, _, listed.congr ?_, run, List.perm_insertionSort _ _⟩
  intro relative content _
  simp

end

section
variable {relative : Path} (some : relative ≠ []) (paved : Paved (source ++ relative) disk)
include some paved

theorem copyTree_never_succeeds : Triple (copyTree x system fuel source (source ++ relative) true) disk
    (fun _ _ => False) fun _ _ => True := by
  have paved' : Paved (source ++ relative ++ []) disk := by rwa [← current_root]
  have walk := @copyTreeInner_never_succeeds x system source relative [] [] disk some fuel List.nil_prefix paved'
  rw [← current_root] at walk
  exact walk.bind fun _ _ wrong => wrong.elim

theorem copyTree_diverges (fresh : ∀ q, disk.lookup (source ++ relative ++ q) ≠ none → q = []) :
    (copyTree x (inward source relative) fuel source (source ++ relative) true disk).2 = .error .unfinished := by
  have paved' : Paved (source ++ relative ++ []) disk := by rwa [← current_root]
  have walk := @copyTreeInner_diverges x source relative [] [] disk some fuel List.nil_prefix paved'
    fun q there => List.prefix_nil.mpr (fresh q there)
  rw [← current_root] at walk
  unfold copyTree
  rw [bind_result, walk]
  rfl

end

theorem siblingTemporaryPath_sibling (named : siblingTemporaryPath destination = .ok temporary) :
    ∃ name, temporary = destination.dropLast ++ [name] := by
  obtain ⟨name, _, run⟩ := bind_eq_ok.mp named
  cases run
  exact ⟨_, rfl⟩

theorem absent_of_free (rooted : disk.Rooted) (free : disk.present temporary = false) {rest : Path} (below : rest ≠ []) :
    disk.lookup (temporary ++ rest) = none := by
  by_contra there
  have above := rooted.above there below
  simp [Disk.present, Disk.node, above, Entry.follow] at free

theorem not_below (rooted : disk.Rooted) (directory : disk.lookup source = some .directory)
    (free : disk.present temporary = false) (outside : ¬source <+: temporary) {path : Path} (inside : source <+: path) :
    ¬temporary <+: path := by
  intro below
  rcases List.prefix_or_prefix_of_prefix inside below with into | ⟨rest, same⟩
  · exact outside into
  · have none : rest ≠ [] := by
      rintro rfl
      rw [List.append_nil] at same
      exact outside (same ▸ List.prefix_rfl)
    rw [← same, absent_of_free rooted free none] at directory
    cases directory

/-- Apart from one path and what leads to it or lies below it, nothing has changed. -/
def Beside (temporary : Path) (before disk : Disk) : Prop :=
  ∀ path, ¬temporary <+: path → disk.lookup path = before.lookup path

theorem Beside.closed {before : Disk} (paved : Paved temporary before) :
    Closed system temporary (Beside temporary before) where
  directory relative disk disk' beside made path apart := by
    rw [Disk.lookup_createDirAll made]
    split
    · next inside =>
      rcases List.prefix_or_prefix_of_prefix inside (List.prefix_append temporary relative) with above | below
      · exact (paved path above).symm
      · exact absurd below apart
    · exact beside path apart
  file relative content disk disk' beside made path apart := by
    rw [Disk.lookup_createFile made, if_neg, beside path apart]
    rintro rfl
    exact apart (List.prefix_append _ _)

theorem exists_depth (disk : Disk) : ∃ depth, ∀ path, disk.lookup path ≠ none → path.length ≤ depth := by
  have longest (paths : List Path) : ∃ depth, ∀ path ∈ paths, path.length ≤ depth := by
    induction paths with
    | nil => exact ⟨0, fun _ member => by cases member⟩
    | cons first paths ih =>
      obtain ⟨depth, deep⟩ := ih
      refine ⟨max first.length depth, fun path member => ?_⟩
      rcases List.mem_cons.mp member with rfl | later
      · exact Nat.le_max_left _ _
      · exact Nat.le_trans (deep path later) (Nat.le_max_right _ _)
  obtain ⟨depth, deep⟩ := longest disk.keys
  exact ⟨depth, fun path there => deep path (Disk.mem_keys.mpr there)⟩

section
variable (rooted : disk.Rooted) (directory : disk.lookup source = some .directory)
  (starts : Starts system.limit disk destination temporary)
  (made : disk.createDirAll system.limit temporary = some created)
include rooted directory starts made

/-- Outside of its source a backup ends, and lists what the source has. -/
theorem finishBackup_outside (outside : ¬source <+: destination.dropLast) : ∃ enough, ∀ fuel, enough ≤ fuel →
    Snapshot x json disk source destination
      (finishBackup x json system fuel now source destination temporary created) := by
  have apart : ¬source <+: temporary := by
    obtain ⟨name, rfl⟩ := siblingTemporaryPath_sibling starts.named
    rw [List.prefix_concat_iff]
    rintro (same | inside)
    · have free := starts.free
      rw [← same] at free
      simp [Disk.present, Disk.node, directory, Entry.follow] at free
    · exact outside inside
  have beyond {path : Path} (inside : source <+: path) : ¬temporary <+: path :=
    not_below rooted directory starts.free apart inside
  have own {path : Path} (relative : Path) (inside : source <+: path) : ¬path <+: temporary ++ relative := by
    intro above
    rcases List.prefix_or_prefix_of_prefix above (List.prefix_append temporary relative) with into | below
    · exact apart (inside.trans into)
    · exact beyond inside below
  let Kept (disk' : Disk) : Prop := ∀ path, source <+: path → disk'.lookup path = disk.lookup path
  have closed : Closed system temporary Kept := by
    constructor
    · intro relative before after kept written path inside
      rw [Disk.lookup_createDirAll written, if_neg (own relative inside), kept path inside]
    · intro relative content before after kept written path inside
      rw [Disk.lookup_createFile written, if_neg, kept path inside]
      rintro rfl
      exact own relative inside List.prefix_rfl
  have initial : Kept created := by
    intro path inside
    have above := own [] inside
    rw [List.append_nil] at above
    rw [Disk.lookup_createDirAll made, if_neg above]
  obtain ⟨depth, deep⟩ := exists_depth disk
  have shallow : Shallow system source temporary Kept depth := by
    intro relative disk' kept found _
    rw [kept _ (List.prefix_append _ _)] at found
    have bound := deep (source ++ relative) (by rw [found]; simp)
    rw [List.length_append] at bound
    omega
  refine ⟨depth + 1, fun fuel enough => ?_⟩
  have keeps := @copyTree_keeps x system source temporary created fuel _ closed initial
  have lists := @copyTree_lists x system source temporary disk created fuel _ closed rooted (fun _ kept => kept) initial
    directory
  apply snapshot_of_triple
  unfold finishBackup
  refine (Triple.onError (((keeps.and lists).weaken (fun _ _ both => both) ?_))).bind ?_
  · rintro stop disk' ⟨⟨kept, ends⟩, _⟩
    cases stop with
    | unfinished => exact absurd rfl (ends depth shallow (by omega))
    | failed failure =>
      intro path inside
      rw [cleanUp, Disk.lookup_removeDirAll, if_neg (beyond inside), kept path inside]
  · rintro files disk' ⟨kept, found, described, listed, run, perm⟩
    refine (act_triple (Q := fun _ written => Kept written ∧ written.lookup (temporary ++ [manifestFile]) =
      some (.node (.file (json.write ⟨backupFormat, now, files⟩)))) ?_ fun _ => kept).bind ?_
    · intro written done
      refine ⟨closed.file _ _ _ _ kept done, ?_⟩
      rw [Disk.lookup_createFile done, if_pos rfl]
    rintro _ written ⟨kept, manifest⟩
    refine act_triple (fun published renamed => ?_) fun _ => kept
    exact ⟨_, found, described, Disk.lookup_rename renamed manifest, listed, run, perm⟩

section
variable (inside : source <+: destination.dropLast)
include inside

omit rooted directory in
/-- Inside its source a backup never succeeds; if it fails, what its directory held is gone and nothing else. -/
theorem finishBackup_inside {I : Disk → Prop} (closed : Closed system temporary I) (initial : I created) :
    Triple (finishBackup x json system fuel now source destination temporary) created (fun _ _ => False)
      fun stop disk' => match stop with
        | .failed _ => ∃ left, I left ∧ disk' = left.removeDirAll temporary
        | .unfinished => ∀ depth, Shallow system source temporary I depth → fuel ≤ depth := by
  have paved := paved_of_createDirAll made
  obtain ⟨name, sibling⟩ := siblingTemporaryPath_sibling starts.named
  obtain ⟨rest, parent⟩ := inside
  have relative : temporary = source ++ (rest ++ [name]) := by rw [sibling, ← parent, List.append_assoc]
  have paved' : Paved (source ++ (rest ++ [name])) created := by rwa [← relative]
  have never := @copyTree_never_succeeds x system source created fuel (rest ++ [name]) (by simp) paved'
  rw [← relative] at never
  have keeps := @copyTree_keeps x system source temporary created fuel _ closed initial
  unfold finishBackup
  refine (Triple.onError ((keeps.and never).weaken (fun _ _ both => both) ?_)).bind fun _ _ both => both.2.elim
  rintro stop disk' ⟨⟨kept, ends⟩, _⟩
  cases stop with
  | unfinished =>
    intro depth shallow
    by_contra enough
    exact ends depth shallow (Nat.not_le.mp enough) rfl
  | failed failure => exact ⟨disk', kept, rfl⟩

omit rooted directory in
theorem finishBackup_leaves : Triple (finishBackup x json system fuel now source destination temporary) created
    (fun _ _ => False) fun stop disk' => stop = .unfinished ∨
      disk'.lookup destination.dropLast = some .directory := by
  have paved := paved_of_createDirAll made
  refine (finishBackup_inside starts made inside (Paved.closed _ _) paved).weaken (fun _ _ wrong => wrong) ?_
  intro stop disk' left
  cases stop with
  | unfinished => exact .inl rfl
  | failed failure =>
    obtain ⟨left, kept, rfl⟩ := left
    obtain ⟨name, sibling⟩ := siblingTemporaryPath_sibling starts.named
    right
    rw [Disk.lookup_removeDirAll, if_neg, kept _ (by rw [sibling]; exact List.prefix_append _ _)]
    intro below
    have longer := below.length_le
    rw [sibling, List.length_append, List.length_singleton] at longer
    omega

omit directory in
theorem finishBackup_bounded (bounded : system.limit.isSome)
    (parent : disk.lookup destination.dropLast = some .directory) : ∃ enough, ∀ fuel, enough ≤ fuel →
      Snapshot x json disk source destination
        (finishBackup x json system fuel now source destination temporary created) := by
  have paved := paved_of_createDirAll made
  obtain ⟨longest, limit⟩ := Option.isSome_iff_exists.mp bounded
  have shallow : Shallow system source temporary (Beside temporary created) longest := by
    intro relative disk' _ _ creatable
    have short := creatable.1
    rw [limit, Disk.admits, Option.all_some, decide_eq_true_eq, pathSize_append] at short
    have own := length_le_pathSize relative
    omega
  have new {path : Path} (below : temporary <+: path) : disk.lookup path = none := by
    obtain ⟨rest, rfl⟩ := below
    by_cases last : rest = []
    · rw [last, List.append_nil]
      rcases starts.creatable.on List.prefix_rfl with none | directory
      · exact none
      · have free := starts.free
        simp [Disk.present, Disk.node, directory, Entry.follow] at free
    · exact absent_of_free rooted starts.free last
  refine ⟨longest + 1, fun fuel enough => snapshot_of_triple ?_⟩
  refine (finishBackup_inside starts made inside (Beside.closed paved) fun _ _ => rfl).weaken
    (fun _ _ wrong => wrong.elim) ?_
  intro stop disk' left
  cases stop with
  | unfinished =>
    have short := left longest shallow
    omega
  | failed failure =>
    obtain ⟨left, beside, rfl⟩ := left
    intro path _
    rw [Disk.lookup_removeDirAll]
    split
    · next below => exact (new below).symm
    · next apart =>
      rw [beside path apart, Disk.lookup_createDirAll made]
      split
      · next above =>
        obtain ⟨name, sibling⟩ := siblingTemporaryPath_sibling starts.named
        rw [sibling, List.prefix_concat_iff] at above
        rcases above with same | ⟨rest, split⟩
        · exact absurd (by rw [same, sibling]) apart
        · by_cases last : rest = []
          · rw [last, List.append_nil] at split
            rw [split, parent]
          · rw [← split] at parent
            exact (rooted.above (by rw [parent]; simp) last).symm
      · rfl

end

end

/-- Inside its source and without a bound on paths a backup need not end. -/
theorem finishBackup_diverges (rooted : disk.Rooted) (starts : Starts none disk destination temporary)
    (made : disk.createDirAll none temporary = some created) {relative : Path} (some : relative ≠ [])
    (inside : temporary = source ++ relative) :
    (finishBackup x json (inward source relative) fuel now source destination temporary created).2 =
      .error .unfinished := by
  subst inside
  have fresh (q : Path) (there : created.lookup (source ++ relative ++ q) ≠ none) : q = [] := by
    by_contra below
    rw [Disk.lookup_createDirAll made, if_neg, absent_of_free rooted starts.free below] at there
    · exact there rfl
    · intro above
      have longer := above.length_le
      rw [List.length_append] at longer
      exact below (List.length_eq_zero_iff.mp (by omega))
  have walk := @copyTree_diverges x source created fuel relative some (paved_of_createDirAll made) fresh
  have undone : ((copyTree x (inward source relative) fuel source (source ++ relative) true).onError
      (cleanUp (Disk.removeDirAll (source ++ relative))) created).2 = .error .unfinished := by
    unfold Program.onError
    rw [run_of_result walk]
  unfold finishBackup
  rw [bind_result, undone]
  rfl

theorem directory_of_live (rooted : disk.Rooted) (live : validateLiveDataDirectory opens source disk = .ok ()) :
    disk.lookup source = some .directory := by
  obtain ⟨_, _, run⟩ := bind_eq_ok.mp live
  obtain ⟨content, canonical, _⟩ := bind_eq_ok.mp run
  have there := context_eq_ok.mp canonical
  refine rooted.above ?_ (List.cons_ne_nil canonicalFile [])
  intro none
  simp [Disk.read, Disk.node, none] at there

section
variable (rooted : disk.Rooted) (live : validateLiveDataDirectory opens source disk = .ok ())
  (absent : disk.present destination = false)
include rooted live absent

theorem createBackup_snapshots (harmless : Harmless system.limit disk source destination) :
    ∃ enough, ∀ fuel, enough ≤ fuel → Snapshot x json disk source destination
      (createBackup x json opens system fuel now source destination disk) := by
  by_cases started : ∃ temporary, Starts system.limit disk destination temporary
  · obtain ⟨temporary, starts⟩ := started
    obtain ⟨created, made⟩ := starts.creatable.createDirAll
    have directory := directory_of_live rooted live
    have run (fuel : Nat) := @createBackup_run x json opens system source destination temporary disk created fuel now live
      absent starts made
    simp only [run]
    by_cases inside : source <+: destination.dropLast
    · obtain ⟨bounded, parent⟩ := harmless temporary starts inside
      exact finishBackup_bounded rooted starts made inside bounded parent
    · exact finishBackup_outside rooted directory starts made inside
  · refine ⟨0, fun fuel _ => snapshot_of_triple ?_⟩
    refine (createBackup_early fun temporary starts => started ⟨temporary, starts⟩).weaken (fun _ _ wrong => wrong.elim) ?_
    rintro _ _ ⟨rfl, failure, rfl⟩ path _
    rfl

theorem harmless_of_snapshots
    (snapshots : ∀ system : System, system.limit = limit → ∃ enough, ∀ fuel, enough ≤ fuel →
      Snapshot x json disk source destination (createBackup x json opens system fuel now source destination disk)) :
    Harmless limit disk source destination := by
  intro temporary starts inside
  obtain ⟨created, made⟩ := starts.creatable.createDirAll
  constructor
  · cases limit with
    | some longest => rfl
    | none =>
      obtain ⟨name, sibling⟩ := siblingTemporaryPath_sibling starts.named
      obtain ⟨rest, parent⟩ := inside
      have relative : temporary = source ++ (rest ++ [name]) := by rw [sibling, ← parent, List.append_assoc]
      obtain ⟨enough, ends⟩ := snapshots (inward source (rest ++ [name])) rfl
      have snapshot := ends enough (Nat.le_refl _)
      have walk := @finishBackup_diverges x json source destination temporary disk created enough now rooted starts made
        (rest ++ [name]) (by simp) relative
      rw [createBackup_run live absent starts made, run_of_result walk] at snapshot
      exact snapshot.elim
  · let system : System := ⟨limit, fun _ _ names => names, fun _ _ _ => .refl _⟩
    obtain ⟨enough, ends⟩ := snapshots system rfl
    have snapshot := ends enough (Nat.le_refl _)
    rw [@createBackup_run x json opens system source destination temporary disk created enough now live absent starts
      made] at snapshot
    have leaves := (@finishBackup_leaves x json system source destination temporary disk created enough now starts made
      inside).run
    cases outcome : finishBackup x json system enough now source destination temporary created with
    | mk disk' result =>
      rw [outcome] at snapshot leaves
      match result with
      | .ok _ => exact leaves.elim
      | .error .unfinished => exact snapshot.elim
      | .error (.failed _) =>
        rcases leaves with unfinished | stays
        · cases unfinished
        · rw [← snapshot _ inside, stays]

/-- Whatever order directories are listed in, a backup ends with a snapshot or with its source as it was, exactly
    if it is harmless. -/
theorem createBackup_snapshots_iff :
    (∀ system : System, system.limit = limit → ∃ enough, ∀ fuel, enough ≤ fuel →
      Snapshot x json disk source destination (createBackup x json opens system fuel now source destination disk)) ↔
        Harmless limit disk source destination := by
  constructor
  · exact harmless_of_snapshots rooted live absent
  · rintro harmless system rfl
    exact createBackup_snapshots rooted live absent harmless

end

def sampleDisk : Disk :=
  (((∅ : Disk).insert [] .directory).insert [.utf8 "data"] .directory).insert [.utf8 "data", canonicalFile]
    (.node (.file redbHeader))

/-- `serde_json` on the manifest of its backup at 7. -/
noncomputable def diskJson : ManifestJson := textJson ⟨backupFormat, 7, [canonicalEntry]⟩ (by decide +kernel)

def dataDirectory : Path := [.utf8 "data"]

theorem sampleDisk_rooted : sampleDisk.Rooted := by decide +kernel

theorem sampleDisk_live : validateLiveDataDirectory opensRedb dataDirectory sampleDisk = .ok () := by
  decide +kernel

theorem createBackup_snapshots_iff_beside :
    (∀ system : System, system.limit = some 4096 → ∃ enough, ∀ fuel, enough ≤ fuel →
      Snapshot backupSample diskJson sampleDisk dataDirectory [.utf8 "backup"]
        (createBackup backupSample diskJson opensRedb system fuel 7 dataDirectory [.utf8 "backup"] sampleDisk)) ↔
      Harmless (some 4096) sampleDisk dataDirectory [.utf8 "backup"] :=
  createBackup_snapshots_iff sampleDisk_rooted sampleDisk_live (by decide +kernel)

/-- A destination in a directory of the source that is not there yet. -/
def nested : Path := [.utf8 "data", .utf8 "new", .utf8 "backup"]

theorem createBackup_nested :
    (¬∀ system : System, system.limit = some 4096 → ∃ enough, ∀ fuel, enough ≤ fuel →
      Snapshot backupSample diskJson sampleDisk dataDirectory nested
        (createBackup backupSample diskJson opensRedb system fuel 7 dataDirectory nested sampleDisk)) ∧
      ¬∀ system : System, system.limit = none → ∃ enough, ∀ fuel, enough ≤ fuel →
        Snapshot backupSample diskJson sampleDisk dataDirectory nested
          (createBackup backupSample diskJson opensRedb system fuel 7 dataDirectory nested sampleDisk) := by
  have absent : sampleDisk.present nested = false := by decide +kernel
  have inside : dataDirectory <+: nested.dropLast := ⟨[.utf8 "new"], rfl⟩
  let temporary : Path := [.utf8 "data", .utf8 "new", .utf8 ".backup.hangar-incomplete"]
  constructor
  · intro snapshots
    have harmless := harmless_of_snapshots sampleDisk_rooted sampleDisk_live absent snapshots
    have missing := (harmless temporary ⟨by decide +kernel, by decide +kernel, by decide +kernel⟩ inside).2
    exact absurd missing (by decide +kernel)
  · intro snapshots
    have harmless := harmless_of_snapshots sampleDisk_rooted sampleDisk_live absent snapshots
    have bounded := (harmless temporary ⟨by decide +kernel, by decide +kernel, by decide +kernel⟩ inside).1
    cases bounded

end Hangar.OnDisk
