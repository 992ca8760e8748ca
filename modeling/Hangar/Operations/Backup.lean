import Hangar.Lib.Directory
import Hangar.Platform
import Mathlib.Data.List.Sort

/-! Offline backups. A tree is copied to a fresh place outside it, so what a copy writes is what it has read;
    the paths shown in messages are left out. -/

namespace Hangar

open Lib

def backupFormat : String := "hangar.backup.v1"

def manifestFile : FileName := .utf8 "hangar-backup-manifest.json"

def canonicalFile : FileName := .utf8 "canonical.redb"

structure BackupFile where
  path : String
  bytes : Nat
  sha256 : String
deriving DecidableEq

structure BackupManifest where
  format : String
  createdAtUnixMs : Nat
  files : List BackupFile
deriving DecidableEq

/-- `serde_json` on manifests: what is written reads back. -/
structure ManifestJson where
  write : BackupManifest → List UInt8
  read : List UInt8 → Option BackupManifest
  read_write : ∀ manifest, read (write manifest) = some manifest

/-- A path that a command is to create: whether it exists, its last name as text, and which names exist beside it. -/
structure Destination where
  occupied : Bool
  fileName : Option String
  siblingOccupied : String → Bool

-- `opens` tells the contents that `Database::open` accepts
variable (x : Externals) (json : ManifestJson) (opens : List UInt8 → Bool)

def validateLiveDataDirectory (directory : Listing) : Result Unit := do
  let canonical ← found (directory.contentAt true [canonicalFile]) "canonical.redb is missing from "
  ensure (opens canonical) (.external "opening canonical database ")

def siblingTemporaryPath (destination : Destination) : Result String := do
  let name ← found destination.fileName "backup destination must have a normal directory name"
  return "." ++ name ++ ".hangar-incomplete"

def toStr : FileName → Option String
  | .utf8 text => some text
  | .raw _ => none

def replaceChar (old new : Char) (text : String) : String :=
  String.ofList (text.toList.map fun c => if c = old then new else c)

def relativeToManifestPath (path : Path) : Result String := do
  let names ← found (path.mapM toStr) "backup path is not valid UTF-8"
  return replaceChar '\\' '/' (joinPath names)

def validatedRelativePath (value : String) : Result String := do
  check (value.toList.head? ≠ some '/') "backup manifest path is absolute"
  check (".." ∉ components value) "backup manifest path escapes its root"
  return value

/-- The manifest at the root is left out of a restored tree. -/
def skips (includeManifest : Bool) (relative : Path) : Bool := !includeManifest && relative == [manifestFile]

/-- The copy of the entries of `current`, and the files among them. -/
def copyTreeInner (includeManifest : Bool) : Path → Listing → Result (Listing × List BackupFile)
  | _, .done => return (.done, [])
  | current, .file name content rest =>
    if skips includeManifest (current ++ [name]) then copyTreeInner includeManifest current rest
    else do
      let path ← relativeToManifestPath (current ++ [name])
      let (copied, files) ← copyTreeInner includeManifest current rest
      return (.file name content copied, ⟨path, content.length, (x.sha256 content).text⟩ :: files)
  | current, .directory name children rest =>
    if skips includeManifest (current ++ [name]) then copyTreeInner includeManifest current rest
    else do
      let (inner, files) ← copyTreeInner includeManifest (current ++ [name]) children
      let (copied, later) ← copyTreeInner includeManifest current rest
      return (.directory name inner copied, files ++ later)
  | _, .symlink _ _ _ => bail "backup refuses symlink: "
  | current, .special _ rest => copyTreeInner includeManifest current rest

def copyTree (includeManifest : Bool) (source : Listing) : Result (Listing × List BackupFile) := do
  let (copied, files) ← copyTreeInner x includeManifest [] source
  return (copied, files.insertionSort fun left right => left.path ≤ right.path)

/-- `File::create` and a write: a file is overwritten, anything else refuses. -/
def createFile (name : FileName) (content : List UInt8) (directory : Listing) : Result Listing := do
  ensure (directory.admitsFile name) (.external "is not a file")
  return directory.putFile name content

def createBackup (now : Nat) (source : Listing) (destination : Destination) : Result Listing := do
  validateLiveDataDirectory opens source
  check (!destination.occupied) "backup destination already exists: "
  let temporary ← siblingTemporaryPath destination
  check (!destination.siblingOccupied temporary) "temporary backup path already exists: "
  let (copied, files) ← copyTree x true source
  createFile manifestFile (json.write ⟨backupFormat, now, files⟩) copied

def readManifest (source : Listing) : Result BackupManifest := do
  let bytes ← context (source.contentAt true [manifestFile]) (.external "reading backup manifest ")
  context (json.read bytes) (.external "parsing backup manifest")

def verifyFile (source : Listing) (file : BackupFile) : Result Unit := do
  let relative ← validatedRelativePath file.path
  let content ← found ((filePath relative).bind (source.contentAt true)) ("backup file is missing: " ++ file.path)
  check (content.length = file.bytes) ("backup file size differs: " ++ file.path)
  check ((x.sha256 content).text = file.sha256) ("backup file checksum differs: " ++ file.path)

def verifyBackup (source : Listing) : Result Unit := do
  let manifest ← readManifest json source
  check (manifest.format = backupFormat) "unsupported backup format"
  manifest.files.forM (verifyFile x source)
  validateLiveDataDirectory opens source

def restoreBackup (source : Listing) (destination : Destination) : Result Listing := do
  verifyBackup x json opens source
  check (!destination.occupied) "restore destination already exists: "
  let temporary ← siblingTemporaryPath destination
  check (!destination.siblingOccupied temporary) "temporary restore path already exists: "
  let (copied, _) ← copyTree x false source
  validateLiveDataDirectory opens copied
  return copied

end Hangar
