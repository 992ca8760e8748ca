import Hangar.Store.Tables

namespace Hangar

open Lib

/-- How `fs::write` ends other than well: no file is created, or the file keeps a beginning of the
    bytes. -/
inductive WriteFault where
  | create
  | write (written : Nat)
deriving DecidableEq

variable (x : Externals) (fault : Option WriteFault)

def Store.writeBlobFile (path : String) (content : List UInt8) (s : Store) : Store :=
  { s with blobs := { s.blobs with files := s.blobs.files.insert path content } }

def Store.writeBlobManifest (key : String) (manifest : BlobManifest) (s : Store) : Store :=
  { s with blobs := { s.blobs with manifests := s.blobs.manifests.insert key manifest } }

/-- `fs::write` to a path under `blobs_dir`. -/
def writeBlob (path : String) (content : List UInt8) : Call Unit :=
  match fault with
  | none => Program.update (Store.writeBlobFile path content)
  | some .create => Program.fail (.external "writing blob")
  | some (.write written) => do
    Program.update (Store.writeBlobFile path (content.take written))
    Program.fail (.external "writing blob")

def putBlob (organizationId workspaceId mediaType : String) (content : List UInt8) (sha256 : String) :
    Call BlobReceipt := do
  Program.query fun _ => do
    check (!isBlank organizationId) "organization_id cannot be empty"
    check (!isBlank workspaceId) "workspace_id cannot be empty"
    check ((x.sha256 content).text = sha256) "blob digest mismatch"
  let deduplicated ← Program.query fun s => .ok (s.blobs.files[sha256]?).isSome
  if !deduplicated then
    writeBlob fault sha256 content
  let manifest : BlobManifest :=
    { organizationId := organizationId
      workspaceId := workspaceId
      sha256 := x.sha256 content
      bytes := content.length
      mediaType := mediaType }
  Program.transaction fun s =>
    .ok (s.writeBlobManifest (blobKey organizationId workspaceId sha256) manifest, ())
  return {
    sha256 := x.sha256 content
    bytes := content.length
    mediaType := mediaType
    deduplicated := deduplicated }

def putBlobWithLimits (organizationId workspaceId mediaType : String) (content : List UInt8) (sha256 : String)
    (limits : WorkspaceLimits) : Call BlobReceipt := do
  Program.query fun s => enforceBlobLimits organizationId workspaceId limits s content.length sha256
  putBlob x fault organizationId workspaceId mediaType content sha256

end Hangar
