import Hangar.Lib.Disk
import Hangar.Lib.Program
import Hangar.Operations.Backup

/-! Backups on the file system itself, where a copy can meet what it writes. The paths shown in messages are left out. -/

namespace Hangar.OnDisk

open Lib Lib.Program

/-- Why a command stops; one that outruns its fuel has not ended. -/
inductive Stop where
  | failed (failure : Failure)
  | unfinished
deriving DecidableEq

abbrev Command (α : Type) : Type := Program Disk Stop α

/-- What the system decides: how long its paths get, if it bounds them, and the order in which `read_dir` lists
    a directory. -/
structure System where
  limit : Option Nat
  arrange : Disk → Path → List FileName → List FileName
  arrange_perm : ∀ disk path names, (arrange disk path names).Perm names

def query {α : Type} (f : Disk → Result α) : Command α := Program.query fun disk => (f disk).mapError .failed

def act (refusal : String) (f : Disk → Option Disk) : Command Unit :=
  Program.transaction fun disk =>
    match f disk with
    | some changed => .ok (changed, ())
    | none => .error (.failed (.external refusal))

-- `opens` tells the contents that `Database::open` accepts
variable (x : Externals) (json : ManifestJson) (opens : List UInt8 → Bool) (system : System)

def validateLiveDataDirectory (directory : Path) (disk : Disk) : Result Unit := do
  check (disk.isDir directory) "data directory does not exist: "
  let canonical ← found (disk.read (directory ++ [canonicalFile])) "canonical.redb is missing from "
  ensure (opens canonical) (.external "opening canonical database ")

def siblingTemporaryPath (destination : Path) : Result Path := do
  let name ← found (destination.getLast?.bind toStr) "backup destination must have a normal directory name"
  return destination.dropLast ++ [.utf8 ("." ++ name ++ ".hangar-incomplete")]

def readDir (current : Path) (disk : Disk) : Result (List FileName) := do
  ensure (disk.isDir current) (.external "reading a directory")
  return system.arrange disk current (disk.children current)

def copyFileSync (path target : Path) : Command Unit := do
  let content ← query fun disk => context (disk.read path) (.external "opening a file")
  act "creating a file" (Disk.createFile system.limit target content)

/-- One turn of the loop of `copy_tree_inner`. -/
def copyEntry (recurse : Path → List BackupFile → Command (List BackupFile)) (root current destination : Path)
    (includeManifest : Bool) (files : List BackupFile) (name : FileName) : Command (List BackupFile) := do
  let path := current ++ [name]
  let entry ← query fun disk => context (disk.lookup path) (.external "reading a file type")
  match entry with
  | .symlink _ => fail (.failed (.check "backup refuses symlink: "))
  | .node node => do
    let relative ← query fun _ => context (relativeTo root path) (.external "prefix not found")
    if skips includeManifest relative then return files
    else do
      let target := destination ++ relative
      match node with
      | .directory => do
        act "creating a directory" (Disk.createDirAll system.limit target)
        recurse path files
      | .file _ => do
        act "creating a directory" (Disk.createDirAll system.limit target.dropLast)
        copyFileSync system path target
        let listed ← query fun _ => relativeToManifestPath relative
        let content ← query fun disk => context (disk.read path) (.external "reading a file")
        return files ++ [⟨listed, content.length, (x.sha256 content).text⟩]
      | .special => return files

/-- The copy of the entries of `current`; `fuel` bounds how deep the calls go. -/
def copyTreeInner (root destination : Path) (includeManifest : Bool) :
    Nat → Path → List BackupFile → Command (List BackupFile)
  | 0, _, _ => fail .unfinished
  | fuel + 1, current, files => do
    let names ← query (readDir system current)
    names.foldlM (copyEntry x system (copyTreeInner root destination includeManifest fuel) root current destination
      includeManifest) files

def copyTree (fuel : Nat) (source destination : Path) (includeManifest : Bool) : Command (List BackupFile) := do
  let files ← copyTreeInner x system source destination includeManifest fuel source []
  return files.insertionSort fun left right => left.path ≤ right.path

def cleanUp (undo : Disk → Disk) : Stop → Disk → Disk
  | .failed _, disk => undo disk
  | .unfinished, disk => disk

def createBackup (fuel now : Nat) (source destination : Path) : Command Unit := do
  query (validateLiveDataDirectory opens source)
  query fun disk => check (!disk.present destination) "backup destination already exists: "
  let temporary ← query fun _ => siblingTemporaryPath destination
  query fun disk => check (!disk.present temporary) "temporary backup path already exists: "
  act "creating a directory" (Disk.createDirAll system.limit temporary)
  let files ← (copyTree x system fuel source temporary true).onError (cleanUp (Disk.removeDirAll temporary))
  let manifest : BackupManifest := ⟨backupFormat, now, files⟩
  act "creating a file" (Disk.createFile system.limit (temporary ++ [manifestFile]) (json.write manifest))
  act "atomically publishing backup from " (Disk.rename temporary destination)

end Hangar.OnDisk
