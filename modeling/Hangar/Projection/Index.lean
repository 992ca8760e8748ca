import Hangar.Store.Tables

namespace Hangar

open Lib

def textIndexVersion : Nat := 1

/-- Where a call stops short of its end, with what the unfinished file holds: the machine stops
    there, or the operation on the disk fails. -/
inductive Fault where
  | prepared
  | vectorTemporary (entries : List (Nat × List ℚ))
  | vectorPublished
  | textTemporary (entries : List TextEntry)
  | textPublished
  | textActivated
  | completed
deriving DecidableEq

def interrupted {α : Type} : Call α := Program.fail (.external "interrupted")

def stopAt (fault : Option Fault) (point : Fault) : Call Unit :=
  if fault = some point then interrupted else pure ()

section
variable (x : Externals) (organizationId workspaceId : String)

def vectorScopeKey : HexText := x.sha256 (bytes organizationId ++ [0] ++ bytes workspaceId)

def textGenerationKey : String := "text:" ++ (vectorScopeKey x organizationId workspaceId).text

def graphScopeKey : String := "graph:" ++ (vectorScopeKey x organizationId workspaceId).text

/-- The text whose digest names a workspace's vector index. -/
def indexScope (profile : EmbeddingProfile) : String :=
  organizationId ++ ":" ++ workspaceId ++ ":" ++ profile.provider ++ ":" ++ profile.modelRevision ++ ":" ++
    toString profile.dimensions

def indexPath (profile : EmbeddingProfile) : String :=
  (x.sha256Text (indexScope organizationId workspaceId profile)).text ++ ".usearch"

/-- `path.with_extension("tmp")`. -/
def indexTemporary (profile : EmbeddingProfile) : String :=
  (x.sha256Text (indexScope organizationId workspaceId profile)).text ++ ".tmp"

def textScope : String :=
  organizationId ++ ":" ++ workspaceId ++ ":tantivy:" ++ toString textIndexVersion

def workspaceDir : String := (x.sha256Text (textScope organizationId workspaceId)).text

def generationPath (generation : String) : String × String :=
  (workspaceDir x organizationId workspaceId, generation)

end

def temporaryGeneration (generation : String) : String := "." ++ generation ++ ".tmp"

def Store.writeVectors (path : String) (entries : List (Nat × List ℚ)) (s : Store) : Store :=
  { s with index := { s.index with vectors := s.index.vectors.insert path entries } }

def Store.removeVectors (path : String) (s : Store) : Store :=
  { s with index := { s.index with vectors := s.index.vectors.erase path } }

def Store.writeText (path : String × String) (entries : List TextEntry) (s : Store) : Store :=
  { s with index := { s.index with text := s.index.text.insert path entries } }

def Store.removeText (path : String × String) (s : Store) : Store :=
  { s with index := { s.index with text := s.index.text.erase path } }

namespace WorkspaceVectorIndex

variable (x : Externals) (fault : Option Fault) (organizationId workspaceId : String)

def publishGeneration (profile : EmbeddingProfile) (entries : List (Nat × List ℚ)) : Call Unit := do
  Program.query fun _ =>
    check (∀ entry ∈ entries, entry.2.length = profile.dimensions) "invalid vector dimensions"
  let path := indexPath x organizationId workspaceId profile
  let temporary := indexTemporary x organizationId workspaceId profile
  match fault with
  | some (.vectorTemporary written) =>
    Program.update (Store.writeVectors temporary written)
    interrupted
  | _ =>
    Program.update fun s => (s.removeVectors temporary).writeVectors path entries
    stopAt fault .vectorPublished

def isTemporary (name : String) : Bool := ".tmp".toList.isSuffixOf name.toList

def removeStaleTemporaryFiles : Call Nat := do
  let stale ← Program.query fun s => .ok (s.index.vectors.keys.filter isTemporary).length
  Program.update fun s =>
    { s with index := { s.index with vectors := s.index.vectors.filter fun name _ => !isTemporary name } }
  return stale

end WorkspaceVectorIndex

namespace WorkspaceTextIndex

variable (x : Externals) (fault : Option Fault) (organizationId workspaceId : String)

def publishGeneration (generation : String) (entries : List TextEntry) : Call Unit := do
  Program.query fun _ => check (!isBlank generation) "text generation cannot be empty"
  let path := generationPath x organizationId workspaceId generation
  let temporary := generationPath x organizationId workspaceId (temporaryGeneration generation)
  Program.query fun s => check s.index.text[path]?.isNone "text index generation already exists"
  match fault with
  | some (.textTemporary written) =>
    Program.update (Store.writeText temporary written)
    interrupted
  | _ =>
    Program.update fun s => (s.removeText temporary).writeText path entries
    stopAt fault .textPublished

/-- A generation directory that `cleanup_unreferenced_generations` removes. -/
def isStale (active : List (String × String)) (path : String × String) : Bool :=
  path.2.toList.head? == some '.' || !active.contains path

def cleanupUnreferencedGenerations (active : List (String × String)) : Call Nat := do
  let stale ← Program.query fun s => .ok (s.index.text.keys.filter (isStale active)).length
  Program.update fun s =>
    { s with index := { s.index with text := s.index.text.filter fun path _ => !isStale active path } }
  return stale

end WorkspaceTextIndex

end Hangar
