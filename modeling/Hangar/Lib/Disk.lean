import Hangar.Lib.Directory
import Mathlib.Algebra.Ring.Nat
import Mathlib.Data.List.AList
import Mathlib.Data.List.Infix

/-! A file system as the entries at its paths. Paths are resolved: no symbolic link and no `..` lies on the way. -/

namespace Lib

inductive Node where
  | directory
  | file (content : List UInt8)
  | special
deriving DecidableEq

/-- What lies at a path: a node, or a symbolic link to one or to nothing. -/
inductive Entry where
  | node (node : Node)
  | symlink (target : Option Node)
deriving DecidableEq

def Entry.follow : Entry → Option Node
  | .node entry => some entry
  | .symlink target => target

abbrev Disk : Type := AList fun _ : Path => Entry

abbrev Entry.directory : Entry := .node .directory

def FileName.size : FileName → Nat
  | .utf8 text => text.utf8ByteSize
  | .raw bytes => bytes.length

/-- The bytes of a path, a separator with each name. -/
def pathSize (path : Path) : Nat := (path.map fun name => name.size + 1).sum

/-- `Path::strip_prefix`. -/
def relativeTo (base path : Path) : Option Path := if base <+: path then some (path.drop base.length) else none

theorem relativeTo_append (base relative : Path) : relativeTo base (base ++ relative) = some relative := by
  simp [relativeTo]

theorem relativeTo_eq_some {base path relative : Path} : relativeTo base path = some relative ↔ path = base ++ relative := by
  constructor
  · intro stripped
    unfold relativeTo at stripped
    split at stripped
    · next inside =>
      obtain ⟨rest, rfl⟩ := inside
      simpa using stripped
    · cases stripped
  · rintro rfl
    exact relativeTo_append base relative

theorem length_le_pathSize (path : Path) : path.length ≤ pathSize path := by
  induction path with
  | nil => exact Nat.le_refl 0
  | cons name path ih =>
    rw [pathSize] at ih ⊢
    rw [List.map_cons, List.sum_cons, List.length_cons]
    omega

theorem pathSize_append (path path' : Path) : pathSize (path ++ path') = pathSize path + pathSize path' := by
  simp [pathSize]

namespace Disk

variable {limit : Option Nat} {disk disk' : Disk} {path p : Path} {content : List UInt8} {name : FileName}

def node (disk : Disk) (path : Path) : Option Node := (disk.lookup path).bind Entry.follow

/-- `Path::exists`. -/
def present (disk : Disk) (path : Path) : Bool := (disk.node path).isSome

def isDir (disk : Disk) (path : Path) : Bool := disk.node path == some .directory

def read (disk : Disk) (path : Path) : Option (List UInt8) :=
  match disk.node path with
  | some (.file content) => some content
  | _ => none

def children (disk : Disk) (path : Path) : List FileName :=
  disk.keys.filterMap fun key =>
    match relativeTo path key with
    | some [name] => some name
    | _ => none

/-- The length of a path is one the system accepts; a single name may be as long as its path. -/
def admits (limit : Option Nat) (path : Path) : Bool := limit.all fun longest => pathSize path ≤ longest

/-- A path can be made a directory: it is not too long, and nothing but directories lies on it. -/
def Creatable (limit : Option Nat) (disk : Disk) (path : Path) : Prop :=
  admits limit path = true ∧ ∀ p ∈ path.inits, disk.lookup p = none ∨ disk.lookup p = some .directory

instance : Decidable (Creatable limit disk path) := inferInstanceAs (Decidable (_ ∧ _))

def createDirAll (limit : Option Nat) (path : Path) (disk : Disk) : Option Disk :=
  if Creatable limit disk path then some (path.inits.foldl (fun disk p => disk.insert p .directory) disk) else none

def admitsFile (disk : Disk) (path : Path) : Bool :=
  match disk.lookup path with
  | none => true
  | some (.node (.file _)) => true
  | _ => false

/-- `File::create` and a write: a file is overwritten, anything else refuses. -/
def createFile (limit : Option Nat) (path : Path) (content : List UInt8) (disk : Disk) : Option Disk :=
  if disk.admitsFile path ∧ admits limit path ∧ disk.lookup path.dropLast = some .directory then
    some (disk.insert path (.node (.file content)))
  else none

def removeDirAll (path : Path) (disk : Disk) : Disk where
  entries := disk.entries.filter fun entry => ¬path <+: entry.1
  nodupKeys := disk.nodupKeys.sublist List.filter_sublist

/-- `fs::rename` of a directory. -/
def rename (source target : Path) (disk : Disk) : Option Disk :=
  if disk.lookup target = none ∧ disk.lookup target.dropLast = some .directory then
    let moved := disk.entries.filterMap fun entry =>
      (relativeTo source entry.1).map fun relative => (⟨target ++ relative, entry.2⟩ : (_ : Path) × Entry)
    some (moved.toAList ∪ disk.removeDirAll source)
  else none

def Rooted (disk : Disk) : Prop := ∀ path ∈ disk.keys, disk.lookup path.dropLast = some .directory

instance : Decidable disk.Rooted := inferInstanceAs (Decidable (∀ _ ∈ _, _))

theorem mem_keys : path ∈ disk.keys ↔ disk.lookup path ≠ none := by
  rw [← AList.mem_keys, ne_eq, AList.lookup_eq_none, not_not]

theorem mem_children : name ∈ disk.children path ↔ disk.lookup (path ++ [name]) ≠ none := by
  rw [← mem_keys, children, List.mem_filterMap]
  constructor
  · rintro ⟨key, listed, split⟩
    split at split
    · next stripped =>
      cases split
      rwa [← relativeTo_eq_some.mp stripped]
    · cases split
  · intro listed
    exact ⟨_, listed, by rw [relativeTo_append]⟩

theorem nodup_children : (disk.children path).Nodup := by
  apply List.Nodup.filterMap _ disk.keys_nodup
  intro key key' name first second
  simp only [Option.mem_def] at first second
  split at first
  · next stripped =>
    split at second
    · next stripped' =>
      cases first
      cases second
      rw [relativeTo_eq_some.mp stripped, relativeTo_eq_some.mp stripped']
    · cases second
  · cases first

theorem lookup_createDirAll (created : disk.createDirAll limit path = some disk') (p : Path) :
    disk'.lookup p = if p <+: path then some .directory else disk.lookup p := by
  have loop (paths : List Path) (disk : Disk) :
      (paths.foldl (fun disk p => disk.insert p Entry.directory) disk).lookup p =
        if p ∈ paths then some Entry.directory else disk.lookup p := by
    induction paths generalizing disk with
    | nil => rfl
    | cons first paths ih =>
      rw [List.foldl_cons, ih]
      by_cases later : p ∈ paths
      · simp [later]
      · by_cases same : p = first
        · subst same
          simp [later]
        · simp [later, same]
  unfold createDirAll at created
  split at created
  · cases created
    rw [loop]
    simp only [List.mem_inits]
  · cases created

theorem createDirAll_creatable (created : disk.createDirAll limit path = some disk') : Creatable limit disk path := by
  unfold createDirAll at created
  split at created
  · assumption
  · cases created

theorem Creatable.createDirAll (creatable : Creatable limit disk path) :
    ∃ disk', disk.createDirAll limit path = some disk' := ⟨_, if_pos creatable⟩

theorem Creatable.on (creatable : Creatable limit disk path) (inside : p <+: path) :
    disk.lookup p = none ∨ disk.lookup p = some .directory := creatable.2 p ((List.mem_inits _ _).mpr inside)

theorem lookup_createFile (created : disk.createFile limit path content = some disk') (p : Path) :
    disk'.lookup p = if p = path then some (.node (.file content)) else disk.lookup p := by
  unfold createFile at created
  split at created
  · cases created
    by_cases same : p = path
    · rw [if_pos same, same, AList.lookup_insert]
    · rw [if_neg same, AList.lookup_insert_ne same]
  · cases created

theorem createFile_ne_directory (created : disk.createFile limit path content = some disk') :
    disk.lookup path ≠ some .directory := by
  intro directory
  unfold createFile at created
  simp [admitsFile, directory] at created

section
variable {key : Path} {entry : Entry} {entries : List ((_ : Path) × Entry)}

theorem dlookup_same : ((⟨p, entry⟩ : (_ : Path) × Entry) :: entries).dlookup p = some entry :=
  List.dlookup_cons_eq entries p entry

theorem dlookup_other (other : p ≠ key) :
    ((⟨key, entry⟩ : (_ : Path) × Entry) :: entries).dlookup p = entries.dlookup p :=
  List.dlookup_cons_ne entries (⟨key, entry⟩ : (_ : Path) × Entry) other

end

theorem lookup_removeDirAll (path p : Path) :
    (disk.removeDirAll path).lookup p = if path <+: p then none else disk.lookup p := by
  have kept (entries : List ((_ : Path) × Entry)) :
      (entries.filter fun entry => ¬path <+: entry.1).dlookup p =
        if path <+: p then none else entries.dlookup p := by
    induction entries with
    | nil => simp
    | cons entry entries ih =>
      obtain ⟨key, entry⟩ := entry
      by_cases inside : path <+: key
      · rw [List.filter_cons_of_neg (by simpa using inside), ih]
        by_cases same : p = key
        · rw [same, if_pos inside, if_pos inside]
        · rw [dlookup_other same]
      · rw [List.filter_cons_of_pos (by simpa using inside)]
        by_cases same : p = key
        · rw [same, dlookup_same, if_neg inside, dlookup_same]
        · rw [dlookup_other same, dlookup_other same, ih]
  exact kept disk.entries

theorem lookup_rename {source target relative : Path} {entry : Entry}
    (renamed : disk.rename source target = some disk') (found : disk.lookup (source ++ relative) = some entry) :
    disk'.lookup (target ++ relative) = some entry := by
  have moved (entries : List ((_ : Path) × Entry)) :
      (entries.filterMap fun entry =>
        (relativeTo source entry.1).map fun relative => (⟨target ++ relative, entry.2⟩ : (_ : Path) × Entry)).dlookup
          (target ++ relative) = entries.dlookup (source ++ relative) := by
    induction entries with
    | nil => rfl
    | cons entry entries ih =>
      obtain ⟨key, entry⟩ := entry
      rw [List.filterMap_cons]
      cases stripped : relativeTo source key with
      | none =>
        have other : source ++ relative ≠ key := by
          rintro rfl
          rw [relativeTo_append] at stripped
          cases stripped
        rw [dlookup_other other]
        exact ih
      | some rest =>
        obtain rfl := relativeTo_eq_some.mp stripped
        by_cases same : relative = rest
        · subst same
          rw [dlookup_same]
          exact dlookup_same
        · rw [dlookup_other (by simpa using same), ← ih]
          exact dlookup_other (by simpa using same)
  unfold rename at renamed
  split at renamed
  · cases renamed
    apply AList.lookup_union_eq_some.mpr
    left
    rw [AList.lookup_to_alist, moved]
    exact found
  · cases renamed

theorem Rooted.above (rooted : disk.Rooted) {rest : Path} (found : disk.lookup (path ++ rest) ≠ none)
    (below : rest ≠ []) : disk.lookup path = some .directory := by
  induction rest using List.reverseRecOn with
  | nil => exact absurd rfl below
  | append_singleton rest name ih =>
    have parent := rooted _ (mem_keys.mpr found)
    rw [← List.append_assoc, List.dropLast_concat] at parent
    by_cases last : rest = []
    · rwa [last, List.append_nil] at parent
    · exact ih (by simp [parent]) last

theorem Rooted.prefix_present (rooted : disk.Rooted) (found : disk.lookup path ≠ none) (inside : p <+: path) :
    disk.lookup p ≠ none := by
  obtain ⟨rest, rfl⟩ := inside
  by_cases last : rest = []
  · rwa [last, List.append_nil] at found
  · simp [rooted.above found last]

end Disk

end Lib
