import Hangar.Lib.Subdirectories
import Hangar.Operations.RoundTrip

/-! The embedding model on disk: the manifest of its installation, the check before a start, and the files that the
    server loads. A link to a directory is listed as that directory; the paths shown in messages are left out. -/

namespace Hangar

open Lib

def localModelManifest : FileName := .utf8 "hangar-local-model-manifest.json"

def localMultilingualCacheRepository : FileName := .utf8 "models--Qdrant--paraphrase-multilingual-MiniLM-L12-v2-onnx-Q"

structure LocalModelManifest where
  provider : String
  modelRevision : String
  dimensions : Nat
  files : Table String String

structure LocalModelJson where
  write : LocalModelManifest → List UInt8
  read : List UInt8 → Option LocalModelManifest

/-- `to_string_lossy` of one name. -/
def FileName.lossy : FileName → String
  | .utf8 text => text
  | .raw bytes => String.ofList (decodeLossy 0 bytes)

def artifactPath (path : Path) : String := replaceChar '\\' '/' (joinPath (path.map FileName.lossy))

structure ModelArtifacts where
  model : List UInt8
  tokenizerFile : List UInt8
  configFile : List UInt8
  specialTokensMapFile : List UInt8
  tokenizerConfigFile : List UInt8
deriving DecidableEq

variable (x : Externals) (json : LocalModelJson)

/-- What is collected for one file: its path and digest, unless it is the manifest. -/
def collectModelFile (directory : Path) (name : FileName) (content : List UInt8) : List (String × String) :=
  if name = localModelManifest then [] else [(artifactPath (directory ++ [name]), (x.sha256 content).text)]

/-- The files below a directory, with their digests, in the order they are met. -/
def collectModelFilesAt : Path → Listing → List (String × String)
  | _, .done => []
  | directory, .file name content rest =>
    collectModelFile x directory name content ++ collectModelFilesAt directory rest
  | directory, .directory name children rest =>
    collectModelFilesAt (directory ++ [name]) children ++ collectModelFilesAt directory rest
  | directory, .symlink name target rest =>
    target.elim [] (collectModelFile x directory name) ++ collectModelFilesAt directory rest
  | directory, .special _ rest => collectModelFilesAt directory rest

def collectModelFiles (root : Listing) : Table String String := Table.insertAll ∅ (collectModelFilesAt x [] root)

def newLocalModelManifest (files : Table String String) : LocalModelManifest where
  provider := EmbeddingProvider.localMultilingualV1.profile.provider
  modelRevision := EmbeddingProvider.localMultilingualV1.profile.modelRevision
  dimensions := EmbeddingProvider.localMultilingualV1.profile.dimensions
  files := files

def writeLocalModelManifest (root : Listing) : Result Listing := do
  let files := collectModelFiles x root
  check (!files.isEmpty) "local model installation produced no files"
  createFile localModelManifest (json.write (newLocalModelManifest files)) root

def verifyArtifact (root : Listing) (entry : String × String) : Result Unit := do
  check (entry.1.toList.head? ≠ some '/' ∧ ".." ∉ components entry.1)
    "local model manifest contains an unsafe artifact path"
  let content ← found ((filePath entry.1).bind (root.contentAt true)) "local model artifact is missing: "
  check ((x.sha256 content).text = entry.2) "local model artifact checksum mismatch: "

def verifyLocalModel (root : Listing) : Result LocalModelManifest := do
  let bytes ← context (root.contentAt true [localModelManifest]) (.external "reading local model manifest ")
  let manifest ← context (json.read bytes) (.external "parsing local model manifest")
  check (EmbeddingProvider.localMultilingualV1.profile.matchesManifest manifest.provider manifest.modelRevision
    manifest.dimensions) "local model manifest does not match the supported profile"
  check (!manifest.files.isEmpty) "local model manifest has no artifacts"
  manifest.files.toList.forM (verifyArtifact x root)
  return manifest

def readArtifact (snapshot : Listing) (name : String) : Result (List UInt8) :=
  context (snapshot.contentAt true [.utf8 name]) (.external "reading local model artifact ")

def snapshotsOf (root : Listing) : Option Listing :=
  (root.child localMultilingualCacheRepository).bind fun repository => repository.child (.utf8 "snapshots")

def readModelArtifacts (root : Listing) : Result ModelArtifacts := do
  let snapshots ← context (snapshotsOf root) (.external "reading local model snapshots ")
  let snapshot ← found snapshots.directories.head? "verified local model cache has no snapshot"
  check snapshots.directories.tail.isEmpty "verified local model cache must contain exactly one snapshot"
  let model ← readArtifact snapshot.2 "model_optimized.onnx"
  let tokenizerFile ← readArtifact snapshot.2 "tokenizer.json"
  let configFile ← readArtifact snapshot.2 "config.json"
  let specialTokensMapFile ← readArtifact snapshot.2 "special_tokens_map.json"
  let tokenizerConfigFile ← readArtifact snapshot.2 "tokenizer_config.json"
  return ⟨model, tokenizerFile, configFile, specialTokensMapFile, tokenizerConfigFile⟩

inductive StartedProvider (μ : Type) where
  | hashingV1
  | localMultilingualV1 (model : μ)
deriving DecidableEq

variable {μ : Type} (tryNewFromUserDefined : ModelArtifacts → Option μ)

/-- The files that `tryNewFromUserDefined`, the runtime's load of a model, gets are those of the cache. -/
def localMultilingualV1FromVerifiedCache (root : Listing) : Result μ := do
  let artifacts ← readModelArtifacts root
  context (tryNewFromUserDefined artifacts) (.external "loading verified local multilingual ONNX model")

/-- The choice of the provider in `main`. -/
def startProvider (embeddingProfile : String) (localModelDir : Option Listing) : Result (StartedProvider μ) :=
  if embeddingProfile = "hashing-v1" then return .hashingV1
  else if embeddingProfile = "local-multilingual-v1" then do
    let source ← found localModelDir
      "HANGAR_LOCAL_MODEL_DIR is required for HANGAR_EMBEDDING_PROFILE=local-multilingual-v1"
    let _ ← verifyLocalModel x json source
    let model ← localMultilingualV1FromVerifiedCache tryNewFromUserDefined source
    return .localMultilingualV1 model
  else .error (.check ("unsupported HANGAR_EMBEDDING_PROFILE=" ++ embeddingProfile ++
    "; supported profiles are hashing-v1 and local-multilingual-v1"))

variable {x : Externals} {json : LocalModelJson} {root root' installed : Listing} {directory path : Path}
  {content : List UInt8}

def Collected (x : Externals) (directory : Path) (root : Listing) (entry : String × String) : Prop :=
  ∃ path content, root.contentAt true path = some content ∧ path.getLast? ≠ some localModelManifest ∧
    entry = (artifactPath (directory ++ path), (x.sha256 content).text)

variable {name : FileName} {children rest : Listing} {entry : String × String}

theorem mem_collectModelFile : entry ∈ collectModelFile x directory name content ↔
    name ≠ localModelManifest ∧ entry = (artifactPath (directory ++ [name]), (x.sha256 content).text) := by
  unfold collectModelFile
  split
  · next manifest => simp [manifest]
  · next named => simp [named]

theorem collected_of_contentAt (present : root.contentAt true path = some content)
    (other : path.getLast? ≠ some localModelManifest) :
    (artifactPath (directory ++ path), (x.sha256 content).text) ∈ collectModelFilesAt x directory root := by
  induction root generalizing directory path with
  | done => cases present
  | file name stored rest ih =>
    unfold Listing.contentAt at present
    split at present
    · next first =>
      split at present
      · next single =>
        cases present
        obtain ⟨tail, rfl⟩ := List.head?_eq_some_iff.mp first
        have alone : tail = [] := by simpa using single
        subst alone
        exact List.mem_append_left _ (mem_collectModelFile.mpr ⟨by simpa using other, rfl⟩)
      · cases present
    · exact List.mem_append_right _ (ih present other)
  | directory name children rest ihChildren ih =>
    unfold Listing.contentAt at present
    split at present
    · next first =>
      obtain ⟨tail, rfl⟩ := List.head?_eq_some_iff.mp first
      cases tail with
      | nil => exact absurd rfl (Listing.ne_nil_of_contentAt present)
      | cons next tail =>
        have inside := @ihChildren (directory ++ [name]) _ present (by simpa using other)
        rw [List.append_assoc] at inside
        exact List.mem_append_left _ inside
    · exact List.mem_append_right _ (ih present other)
  | symlink name target rest ih =>
    unfold Listing.contentAt at present
    split at present
    · next first =>
      split at present
      · next single =>
        subst present
        obtain ⟨tail, rfl⟩ := List.head?_eq_some_iff.mp first
        have alone : tail = [] := by simpa using single
        subst alone
        exact List.mem_append_left _ (mem_collectModelFile.mpr ⟨by simpa using other, rfl⟩)
      · cases present
    · exact List.mem_append_right _ (ih present other)
  | special name rest ih =>
    unfold Listing.contentAt at present
    split at present
    · cases present
    · exact ih present other

theorem Collected.mono (collected : Collected x directory rest entry)
    (kept : ∀ path content, rest.contentAt true path = some content → root.contentAt true path = some content) :
    Collected x directory root entry := by
  obtain ⟨path, content, present, other, same⟩ := collected
  exact ⟨path, content, kept path content present, other, same⟩

theorem Collected.inside (collected : Collected x (directory ++ [name]) children entry) :
    Collected x directory (.directory name children rest) entry := by
  obtain ⟨path, content, present, other, same⟩ := collected
  refine ⟨name :: path, content, ?_, ?_, ?_⟩
  · simpa [Listing.contentAt] using present
  · cases path with
    | nil => exact absurd rfl (Listing.ne_nil_of_contentAt present)
    | cons next tail => simpa using other
  · rw [same, List.append_assoc]
    rfl

theorem Collected.single (present : root.contentAt true [name] = some content)
    (listed : entry ∈ collectModelFile x directory name content) : Collected x directory root entry := by
  obtain ⟨named, same⟩ := mem_collectModelFile.mp listed
  exact ⟨[name], content, present, by simpa using named, same⟩

theorem contentAt_of_collected (valid : root.WellFormed) (listed : entry ∈ collectModelFilesAt x directory root) :
    Collected x directory root entry := by
  -- a path into the rest of a directory does not start with the name before it
  have past {name : FileName} {rest : Listing} (absent : name ∉ rest.names) {path : Path} {content : List UInt8}
      (present : rest.contentAt true path = some content) : ¬path.head? = some name :=
    fun first => absent (Listing.head_mem_names present first)
  induction root generalizing directory with
  | done => cases listed
  | file name stored rest ih =>
    rcases List.mem_append.mp listed with own | later
    · exact Collected.single (by simp [Listing.contentAt]) own
    · exact (ih valid.2.2 later).mono fun path content present => (if_neg (past valid.2.1 present)).trans present
  | directory name children rest ihChildren ih =>
    rcases List.mem_append.mp listed with inside | later
    · exact (ihChildren valid.2.2.1 inside).inside
    · exact (ih valid.2.2.2 later).mono fun path content present => (if_neg (past valid.2.1 present)).trans present
  | symlink name target rest ih =>
    rcases List.mem_append.mp listed with own | later
    · cases target with
      | none => cases own
      | some stored => exact Collected.single (by simp [Listing.contentAt]) own
    · exact (ih valid.2.2 later).mono fun path content present => (if_neg (past valid.2.1 present)).trans present
  | special name rest ih =>
    exact (ih valid.2.2 listed).mono fun path content present => (if_neg (past valid.2.1 present)).trans present

theorem plain_spelled (plain : ∀ name ∈ path, name.Plain) :
    (∃ names : List String, path = names.map FileName.utf8) ∧ ¬HasBackslash path := by
  constructor
  · induction path with
    | nil => exact ⟨[], rfl⟩
    | cons name rest ih =>
      obtain ⟨names, rfl⟩ := ih fun other member => plain other (List.mem_cons_of_mem _ member)
      cases name with
      | utf8 text => exact ⟨text :: names, rfl⟩
      | raw bytes => exact (plain _ List.mem_cons_self).elim
  · rintro ⟨text, member, slash⟩
    exact plain _ member slash

/-- The text an artifact is listed under may be read as a path inside the root. -/
def SafePath (text : String) : Prop := text.toList.head? ≠ some '/' ∧ ".." ∉ components text

theorem filePath_artifactPath (valid : ∀ name ∈ path, name.Valid) (nonempty : path ≠ [])
    (plain : ∀ name ∈ path, name.Plain) :
    SafePath (artifactPath path) ∧ filePath (artifactPath path) = some path := by
  obtain ⟨⟨names, rfl⟩, clear⟩ := plain_spelled plain
  have texts : (names.map FileName.utf8).mapM toStr = some names := mapM_toStr.mpr rfl
  have recorded : manifestPath (names.map FileName.utf8) = some (artifactPath (names.map FileName.utf8)) := by
    unfold manifestPath artifactPath
    rw [texts, List.map_map]
    simp [Function.comp_def, FileName.lossy]
  obtain ⟨accepted, leads⟩ := filePath_manifestPath valid nonempty clear recorded
  refine ⟨?_, leads⟩
  unfold validatedRelativePath at accepted
  obtain ⟨_, relative, accepted⟩ := bind_eq_ok.mp accepted
  obtain ⟨_, inside, _⟩ := bind_eq_ok.mp accepted
  exact ⟨ensure_eq_ok.mp relative, ensure_eq_ok.mp inside⟩

theorem verifyArtifact_eq_ok {text digest : String} : verifyArtifact x root (text, digest) = .ok () ↔
    SafePath text ∧ ∃ content, (filePath text).bind (root.contentAt true) = some content ∧
      (x.sha256 content).text = digest := by
  unfold verifyArtifact SafePath
  simp only [bind_eq_ok, ensure_eq_ok, context_eq_ok]
  constructor
  · rintro ⟨_, safe, content, present, same⟩
    exact ⟨safe, content, present, same⟩
  · rintro ⟨safe, content, present, same⟩
    exact ⟨(), safe, content, present, same⟩

theorem writeLocalModelManifest_eq_ok : writeLocalModelManifest x json root = .ok installed ↔
    (collectModelFiles x root).isEmpty = false ∧ root.admitsFile localModelManifest = true ∧
      installed = root.putFile localModelManifest (json.write (newLocalModelManifest (collectModelFiles x root))) := by
  unfold writeLocalModelManifest createFile
  simp only [bind_eq_ok, ensure_eq_ok, pure_eq_ok, Bool.not_eq_true']
  constructor
  · rintro ⟨_, filled, _, admitted, rfl⟩
    exact ⟨filled, admitted, rfl⟩
  · rintro ⟨filled, admitted, rfl⟩
    exact ⟨(), filled, (), admitted, rfl⟩

theorem verifyLocalModel_eq_ok {manifest : LocalModelManifest} : verifyLocalModel x json root = .ok manifest ↔
    (root.contentAt true [localModelManifest]).bind json.read = some manifest ∧
      EmbeddingProvider.localMultilingualV1.profile.matchesManifest manifest.provider manifest.modelRevision
        manifest.dimensions = true ∧ manifest.files.isEmpty = false ∧
      ∀ entry ∈ manifest.files.toList, verifyArtifact x root entry = .ok () := by
  unfold verifyLocalModel
  simp only [bind_eq_ok, ensure_eq_ok, context_eq_ok, pure_eq_ok, Bool.not_eq_true',
    Option.bind_eq_some_iff]
  constructor
  · rintro ⟨bytes, stored, _, read, _, profile, _, filled, _, verified, rfl⟩
    exact ⟨⟨bytes, stored, read⟩, profile, filled, forM_eq_ok.mp verified⟩
  · rintro ⟨⟨bytes, stored, read⟩, profile, filled, verified⟩
    exact ⟨bytes, stored, manifest, read, (), profile, (), filled, (), forM_eq_ok.mpr verified, rfl⟩

theorem collectModelFiles_entry {text digest : String} (listed : (collectModelFiles x root)[text]? = some digest) :
    (text, digest) ∈ collectModelFilesAt x [] root := by
  rcases Table.find_insertAll listed with listed | ⟨_, absent⟩
  · exact listed
  · simp at absent

theorem artifactPath_mem_collected (present : root.contentAt true path = some content)
    (other : path.getLast? ≠ some localModelManifest) : artifactPath path ∈ collectModelFiles x root := by
  have listed := @collected_of_contentAt x root [] path content present other
  exact Table.mem_insertAll.mpr (.inl (List.mem_map_of_mem listed))

theorem manifest_written (admitted : root.admitsFile localModelManifest = true)
    (present : root.contentAt true path = some content) (other : path.getLast? ≠ some localModelManifest) :
    ∃ installed, writeLocalModelManifest x json root = .ok installed := by
  have filled : (collectModelFiles x root).isEmpty = false :=
    Std.ExtTreeMap.isEmpty_eq_false_iff.mpr (Std.ExtTreeMap.ne_empty_of_mem (artifactPath_mem_collected present other))
  exact ⟨_, writeLocalModelManifest_eq_ok.mpr ⟨filled, admitted, rfl⟩⟩

def LocalModelJson.ReadsBack (json : LocalModelJson) (manifest : LocalModelManifest) : Prop :=
  json.read (json.write manifest) = some manifest

theorem written_manifest (reads : json.ReadsBack (newLocalModelManifest (collectModelFiles x root)))
    (written : writeLocalModelManifest x json root = .ok installed) :
    (installed.contentAt true [localModelManifest]).bind json.read =
      some (newLocalModelManifest (collectModelFiles x root)) := by
  obtain ⟨_, admitted, rfl⟩ := writeLocalModelManifest_eq_ok.mp written
  rw [Listing.putFile_contentAt admitted, if_pos rfl]
  exact reads

/-- Every installed artifact is in the second tree as it was. -/
def KeepsArtifacts (root root' : Listing) : Prop :=
  ∀ path content, root.contentAt true path = some content → path.getLast? ≠ some localModelManifest →
    root'.contentAt true path = some content

theorem written_keepsArtifacts (written : writeLocalModelManifest x json root = .ok installed) :
    KeepsArtifacts root installed := by
  obtain ⟨_, admitted, rfl⟩ := writeLocalModelManifest_eq_ok.mp written
  intro path content present other
  cases path with
  | nil => exact absurd rfl (Listing.ne_nil_of_contentAt present)
  | cons head tail =>
    rw [Listing.putFile_contentAt admitted]
    split
    · next manifest =>
      -- a file below the name of the manifest would make it a directory
      cases tail with
      | nil => exact absurd (congrArg some manifest) other
      | cons next tail =>
        rw [manifest, Listing.contentAt_below admitted] at present
        cases present
    · exact present

/-- Files at one path of the two trees have the same digest only where they are the same. -/
def CollisionFree (x : Externals) (root root' : Listing) : Prop :=
  ∀ path content content', root.contentAt true path = some content → root'.contentAt true path = some content' →
    x.sha256 content = x.sha256 content' → content = content'

section

variable (valid : root.WellFormed) (plain : ∀ name ∈ root.entryNames, name.Plain)
  (reads : json.ReadsBack (newLocalModelManifest (collectModelFiles x root)))
  (written : writeLocalModelManifest x json root = .ok installed)
  (kept : root'.contentAt true [localModelManifest] = installed.contentAt true [localModelManifest])

include valid plain in
theorem artifactPath_leads (present : root.contentAt true path = some content) :
    SafePath (artifactPath path) ∧ filePath (artifactPath path) = some path := by
  apply filePath_artifactPath (Listing.valid_of_contentAt valid present) (Listing.ne_nil_of_contentAt present)
  exact fun name member => plain name (Listing.entryNames_of_contentAt present name member)

include valid plain in
theorem KeepsArtifacts.collected (keeps : KeepsArtifacts root root') :
    ∀ entry ∈ (collectModelFiles x root).toList, verifyArtifact x root' entry = .ok () := by
  rintro ⟨text, digest⟩ listed
  have found := Std.ExtTreeMap.mem_toList_iff_getElem?_eq_some.mp listed
  obtain ⟨path, content, present, other, entry⟩ := contentAt_of_collected valid (collectModelFiles_entry found)
  obtain ⟨rfl, rfl⟩ := Prod.mk.inj entry
  obtain ⟨safe, leads⟩ := artifactPath_leads valid plain present
  rw [List.nil_append, verifyArtifact_eq_ok, leads]
  exact ⟨safe, content, keeps path content present other, rfl⟩

include valid plain in
theorem keepsArtifacts_of_collected (collisionFree : CollisionFree x root root')
    (verified : ∀ entry ∈ (collectModelFiles x root).toList, verifyArtifact x root' entry = .ok ()) :
    KeepsArtifacts root root' := by
  intro path content present other
  have listed := Std.ExtTreeMap.getElem?_eq_some_getElem (artifactPath_mem_collected (x := x) present other)
  obtain ⟨_, content', found, same⟩ :=
    verifyArtifact_eq_ok.mp (verified _ (Std.ExtTreeMap.mem_toList_iff_getElem?_eq_some.mpr listed))
  have leads := (artifactPath_leads valid plain present).2
  rw [leads, Option.bind_some] at found
  -- the digest was taken from a file that is listed under this text, which is the file itself
  obtain ⟨path', stored', present', _, entry⟩ := contentAt_of_collected valid (collectModelFiles_entry listed)
  obtain ⟨texts, digests⟩ := Prod.mk.inj entry
  rw [List.nil_append] at texts
  have paths : path = path' := by
    rw [← Option.some.injEq, ← leads, ← (artifactPath_leads valid plain present').2, texts]
  subst paths
  have equal : stored' = content' := collisionFree path _ _ present' found (HexText.ext (digests.symm.trans same.symm))
  rw [found, ← equal, ← present', present]

include valid plain reads written kept in
theorem KeepsArtifacts.verified (keeps : KeepsArtifacts root root') :
    ∃ manifest, verifyLocalModel x json root' = .ok manifest := by
  have stored := written_manifest reads written
  rw [← kept] at stored
  obtain ⟨filled, _, _⟩ := writeLocalModelManifest_eq_ok.mp written
  refine ⟨_, verifyLocalModel_eq_ok.mpr ⟨stored, ?_, filled, keeps.collected valid plain⟩⟩
  simp [newLocalModelManifest, EmbeddingProfile.matchesManifest]

include valid plain reads written kept in
theorem verifyLocalModel_installed (collisionFree : CollisionFree x root root') :
    (∃ manifest, verifyLocalModel x json root' = .ok manifest) ↔ KeepsArtifacts root root' := by
  constructor
  · rintro ⟨manifest, verified⟩
    obtain ⟨read, _, _, each⟩ := verifyLocalModel_eq_ok.mp verified
    rw [kept, written_manifest reads written] at read
    cases read
    exact keepsArtifacts_of_collected valid plain collisionFree each
  · exact fun keeps => keeps.verified valid plain reads written kept

include valid plain reads written in
/-- What is installed is verified, and a tree with its manifest exactly as long as it keeps the artifacts. -/
theorem installed_model_verified_iff : (∃ manifest, verifyLocalModel x json installed = .ok manifest) ∧
    ∀ root' : Listing, root'.contentAt true [localModelManifest] = installed.contentAt true [localModelManifest] →
      CollisionFree x root root' →
      ((∃ manifest, verifyLocalModel x json root' = .ok manifest) ↔ KeepsArtifacts root root') := by
  constructor
  · exact (written_keepsArtifacts written).verified valid plain reads written rfl
  · exact fun root' kept collisionFree => verifyLocalModel_installed valid plain reads written kept collisionFree

def quotedEntry (entry : String × String) : String := "    " ++ quoted entry.1 ++ ": " ++ quoted entry.2

/-- `serde_json::to_vec_pretty`, for a manifest with files whose texts need no escapes. -/
def prettyLocalModelManifest (manifest : LocalModelManifest) : String :=
  "\x7b\n  \"provider\": " ++ quoted manifest.provider ++
    ",\n  \"model_revision\": " ++ quoted manifest.modelRevision ++
    ",\n  \"dimensions\": " ++ manifest.dimensions.repr ++ ",\n  \"files\": \x7b\n" ++
    ",\n".intercalate (manifest.files.toList.map quotedEntry) ++ "\n  \x7d\n\x7d"

/-- `serde_json` as far as it reads the text of this manifest. -/
def recognizing (known : LocalModelManifest) : LocalModelJson where
  write manifest := bytes (prettyLocalModelManifest manifest)
  read content := if content = bytes (prettyLocalModelManifest known) then some known else none

theorem recognizing_readsBack (known : LocalModelManifest) : (recognizing known).ReadsBack known := if_pos rfl

/-- An ONNX model of one `Identity` node. -/
def identityModel : List UInt8 :=
  [0x08, 0x08, 0x3a, 0x2b, 0x0a, 0x10, 0x0a, 0x01, 0x78, 0x12, 0x01, 0x79, 0x22, 0x08, 0x49, 0x64, 0x65,
    0x6e, 0x74, 0x69, 0x74, 0x79, 0x12, 0x01, 0x67, 0x5a, 0x09, 0x0a, 0x01, 0x78, 0x12, 0x04, 0x0a,
    0x02, 0x08, 0x07, 0x62, 0x09, 0x0a, 0x01, 0x79, 0x12, 0x04, 0x0a, 0x02, 0x08, 0x07, 0x42, 0x02, 0x10, 0x0d]

def smallArtifacts : ModelArtifacts where
  model := identityModel
  tokenizerFile := bytes ("\x7b\"version\":\"1.0\",\"model\":\x7b\"type\":\"WordLevel\"," ++
    "\"vocab\":\x7b\"[UNK]\":0\x7d,\"unk_token\":\"[UNK]\"\x7d\x7d")
  configFile := bytes "\x7b\"pad_token_id\":0\x7d"
  specialTokensMapFile := bytes "\x7b\x7d"
  tokenizerConfigFile := bytes "\x7b\"model_max_length\":512,\"pad_token\":\"[UNK]\"\x7d"

def modelDigests : List (List UInt8 × HexText) :=
  [(bytes "known-good-model", ⟨"feaf7749dee5ed6f12a835e0474a2cb9434185178fbd734ef3f271dad880a2fc", by decide +kernel⟩),
    (bytes "tampered-model", ⟨"b61e85a9b8855a979b7583e42afea97062074cc539a6b85ac0e5ab6ed2967be7", by decide +kernel⟩),
    (bytes "r1", ⟨"82f3e9c695dc6b8d1b11818d5701919e286de8d47f7c3eb3100c485f79e57828", by decide +kernel⟩),
    (smallArtifacts.model, ⟨"fe6d1d90dbf7b26195a4c87a8aa1c1a7a99b0cd93843e9b2a464d18d49ff28c3", by decide +kernel⟩),
    (smallArtifacts.tokenizerFile, ⟨"849c6e6797d8fe1b0b78f1fef1357d33c0d76b58c258c52be9fd1815aa59ac5a", by decide +kernel⟩),
    (smallArtifacts.configFile, ⟨"e9c9753a1e7a3944fd29b676a23726eb49076cc6fa9b41c8e45fb328447a2fd5", by decide +kernel⟩),
    (smallArtifacts.specialTokensMapFile,
      ⟨"44136fa355b3678a1146ad16f7e8649e94fb4fc21fe77e8310c060f61caaff8a", by decide +kernel⟩),
    (smallArtifacts.tokenizerConfigFile,
      ⟨"d274bb599c2ebd57035b8a725f617440dd3156ecf8ee7a1ad7d5b574945b4055", by decide +kernel⟩)]

def modelSample : Externals := { sample with sha256 := listedDigest modelDigests }

theorem modelSample_injective : Function.Injective modelSample.sha256 := by
  apply listedDigest_injective
  · decide +kernel
  · decide +kernel

def knownGoodModel : Listing := .file (.utf8 "model.onnx") (bytes "known-good-model") .done

def sampleManifest (root : Listing) : LocalModelManifest := newLocalModelManifest (collectModelFiles modelSample root)

/-- An artifact of an installation is changed, which its manifest brings to light. -/
theorem tampered_model_unverified : ∃ installed,
    writeLocalModelManifest modelSample (recognizing (sampleManifest knownGoodModel)) knownGoodModel =
      .ok installed ∧
    (∃ manifest, verifyLocalModel modelSample (recognizing (sampleManifest knownGoodModel)) installed =
      .ok manifest) ∧
    ¬∃ manifest, verifyLocalModel modelSample (recognizing (sampleManifest knownGoodModel))
      (installed.putFile (.utf8 "model.onnx") (bytes "tampered-model")) = .ok manifest := by
  have valid : knownGoodModel.WellFormed := by
    simp [knownGoodModel, Listing.WellFormed, Listing.names, FileName.Valid]
  have plain : ∀ name ∈ knownGoodModel.entryNames, name.Plain := by
    simp [knownGoodModel, Listing.entryNames, FileName.Plain]
  have stored : knownGoodModel.contentAt true [.utf8 "model.onnx"] = some (bytes "known-good-model") := rfl
  obtain ⟨installed, written⟩ := @manifest_written modelSample (recognizing (sampleManifest knownGoodModel)) _ _ _
    (by decide) stored (by decide)
  obtain ⟨verified, tampering⟩ := installed_model_verified_iff valid plain (recognizing_readsBack _) written
  refine ⟨installed, written, verified, ?_⟩
  have admitted : installed.admitsFile (.utf8 "model.onnx") = true := by
    obtain ⟨_, _, rfl⟩ := writeLocalModelManifest_eq_ok.mp written
    decide
  have kept : (installed.putFile (.utf8 "model.onnx") (bytes "tampered-model")).contentAt true [localModelManifest] =
      installed.contentAt true [localModelManifest] := by
    rw [Listing.putFile_contentAt admitted, if_neg (by decide)]
  intro accepted
  have keeps := (tampering _ kept fun _ _ _ _ _ same => modelSample_injective same).mp accepted
  have changed := keeps [.utf8 "model.onnx"] _ stored (by decide)
  rw [Listing.putFile_contentAt admitted, if_pos rfl] at changed
  exact absurd changed (by decide)

def artifactFiles : List (String × (ModelArtifacts → List UInt8)) :=
  [("model_optimized.onnx", ModelArtifacts.model), ("tokenizer.json", ModelArtifacts.tokenizerFile),
    ("config.json", ModelArtifacts.configFile), ("special_tokens_map.json", ModelArtifacts.specialTokensMapFile),
    ("tokenizer_config.json", ModelArtifacts.tokenizerConfigFile)]

theorem artifactFiles_named : ∀ file ∈ artifactFiles, FileName.utf8 file.1 ≠ localModelManifest := by
  have named : ∀ name ∈ artifactFiles.map Prod.fst, FileName.utf8 name ≠ localModelManifest := by decide
  exact fun file member => named file.1 (List.mem_map_of_mem member)

variable {artifacts artifacts' : ModelArtifacts}

def Holds (snapshot : Listing) (artifacts : ModelArtifacts) : Prop :=
  ∀ file ∈ artifactFiles, snapshot.contentAt true [.utf8 file.1] = some (file.2 artifacts)

theorem Holds.unique {snapshot : Listing} (holds : Holds snapshot artifacts) (holds' : Holds snapshot artifacts') :
    artifacts' = artifacts := by
  have same : ∀ file ∈ artifactFiles, file.2 artifacts' = file.2 artifacts := fun file member =>
    Option.some.inj ((holds' file member).symm.trans (holds file member))
  obtain ⟨model, tokenizer, config, specialTokensMap, tokenizerConfig⟩ := artifacts
  obtain ⟨model', tokenizer', config', specialTokensMap', tokenizerConfig'⟩ := artifacts'
  simp only [artifactFiles, List.forall_mem_cons] at same
  obtain ⟨rfl, rfl, rfl, rfl, rfl, _⟩ := same
  rfl

def OneSnapshot (root : Listing) (snapshot : FileName × Listing) : Prop :=
  ∃ snapshots, snapshotsOf root = some snapshots ∧ snapshots.directories = [snapshot]

theorem readModelArtifacts_eq_ok : readModelArtifacts root = .ok artifacts ↔
    ∃ snapshot, OneSnapshot root snapshot ∧ Holds snapshot.2 artifacts := by
  unfold readModelArtifacts readArtifact
  simp only [bind_eq_ok, ensure_eq_ok, context_eq_ok, pure_eq_ok]
  constructor
  · rintro ⟨snapshots, found, snapshot, first, _, alone, _, modelRead, _, tokenizerRead, _, configRead,
      _, specialTokensMapRead, _, tokenizerConfigRead, rfl⟩
    obtain ⟨later, listed⟩ := List.head?_eq_some_iff.mp first
    have single : later = [] := by simpa [listed] using alone
    refine ⟨snapshot, ⟨snapshots, found, single ▸ listed⟩, ?_⟩
    simp only [Holds, artifactFiles, List.forall_mem_cons]
    exact ⟨modelRead, tokenizerRead, configRead, specialTokensMapRead, tokenizerConfigRead, by simp⟩
  · rintro ⟨snapshot, ⟨snapshots, found, listed⟩, holds⟩
    simp only [Holds, artifactFiles, List.forall_mem_cons] at holds
    obtain ⟨modelRead, tokenizerRead, configRead, specialTokensMapRead, tokenizerConfigRead, _⟩ := holds
    exact ⟨snapshots, found, snapshot, by rw [listed]; rfl, (), by rw [listed]; rfl, _, modelRead, _, tokenizerRead,
      _, configRead, _, specialTokensMapRead, _, tokenizerConfigRead, rfl⟩

def snapshotPath (snapshot : FileName) (file : String) : Path :=
  [localMultilingualCacheRepository, .utf8 "snapshots", snapshot, .utf8 file]

theorem contentAt_snapshotPath {snapshot : FileName} {file : String} :
    root.contentAt true (snapshotPath snapshot file) =
      (snapshotsOf root).bind fun snapshots => (snapshots.child snapshot).bind fun children =>
        children.contentAt true [.utf8 file] := by
  unfold snapshotPath snapshotsOf
  rw [Listing.contentAt_child, Option.bind_assoc]
  congr 1
  funext repository
  rw [Listing.contentAt_child]
  congr 1
  funext snapshots
  exact Listing.contentAt_child

theorem OneSnapshot.in_installed {snapshot : FileName × Listing} (one : OneSnapshot root snapshot)
    (written : writeLocalModelManifest x json root = .ok installed) : OneSnapshot installed snapshot := by
  obtain ⟨_, _, rfl⟩ := writeLocalModelManifest_eq_ok.mp written
  unfold OneSnapshot snapshotsOf
  rw [Listing.child_putFile]
  exact one

theorem KeepsArtifacts.holds (keeps : KeepsArtifacts root root') (valid : root.WellFormed)
    {snapshot snapshot' : FileName × Listing} (one : OneSnapshot root snapshot) (one' : OneSnapshot root' snapshot')
    (holds : Holds snapshot.2 artifacts) : Holds snapshot'.2 artifacts := by
  obtain ⟨snapshots, found, listed⟩ := one
  obtain ⟨snapshots', found', listed'⟩ := one'
  obtain ⟨repository, first, second⟩ := Option.bind_eq_some_iff.mp found
  have child : snapshots.child snapshot.1 = some snapshot.2 := by
    apply Listing.child_of_mem_directories (Listing.child_wellFormed (Listing.child_wellFormed valid first) second)
    rw [listed]
    exact List.mem_singleton_self _
  intro file member
  have present : root.contentAt true (snapshotPath snapshot.1 file.1) = some (file.2 artifacts) := by
    rw [contentAt_snapshotPath, found, Option.bind_some, child, Option.bind_some]
    exact holds file member
  have last : (snapshotPath snapshot.1 file.1).getLast? ≠ some localModelManifest := by
    simpa [snapshotPath] using artifactFiles_named file member
  have there := keeps _ _ present last
  rw [contentAt_snapshotPath, found', Option.bind_some] at there
  obtain ⟨children, child', stored⟩ := Option.bind_eq_some_iff.mp there
  have only := Listing.mem_directories_of_child child'
  rw [listed', List.mem_singleton] at only
  rw [← only]
  exact stored

variable {μ : Type} {tryNewFromUserDefined : ModelArtifacts → Option μ} {provider : StartedProvider μ}

theorem startProvider_eq_ok :
    startProvider x json tryNewFromUserDefined "local-multilingual-v1" (some root') = .ok provider ↔
      (∃ manifest, verifyLocalModel x json root' = .ok manifest) ∧ ∃ artifacts model,
        readModelArtifacts root' = .ok artifacts ∧ tryNewFromUserDefined artifacts = some model ∧
          provider = .localMultilingualV1 model := by
  unfold startProvider localMultilingualV1FromVerifiedCache
  rw [if_neg (by decide), if_pos rfl]
  simp only [bind_eq_ok, context_eq_ok, pure_eq_ok, Option.some.injEq]
  constructor
  · rintro ⟨_, rfl, manifest, verified, model, ⟨artifacts, read, loaded⟩, rfl⟩
    exact ⟨⟨manifest, verified⟩, artifacts, model, read, loaded, rfl⟩
  · rintro ⟨⟨manifest, verified⟩, artifacts, model, read, loaded, rfl⟩
    exact ⟨root', rfl, manifest, verified, model, ⟨artifacts, read, loaded⟩, rfl⟩

include valid plain reads written kept in
/-- With the manifest of an installation a server starts exactly on a tree that keeps the artifacts, has one snapshot
    and whose model the runtime loads, and that model is the installed one. -/
theorem installed_model_starts_iff (collisionFree : CollisionFree x root root')
    (complete : readModelArtifacts root = .ok artifacts) :
    startProvider x json tryNewFromUserDefined "local-multilingual-v1" (some root') = .ok provider ↔
      KeepsArtifacts root root' ∧ (∃ snapshot, OneSnapshot root' snapshot) ∧
        ∃ model, tryNewFromUserDefined artifacts = some model ∧ provider = .localMultilingualV1 model := by
  obtain ⟨snapshot, one, holds⟩ := readModelArtifacts_eq_ok.mp complete
  rw [startProvider_eq_ok, verifyLocalModel_installed valid plain reads written kept collisionFree]
  constructor
  · rintro ⟨keeps, artifacts', model, read, loaded, rfl⟩
    obtain ⟨snapshot', one', holds'⟩ := readModelArtifacts_eq_ok.mp read
    have same : artifacts' = artifacts := (keeps.holds valid one one' holds).unique holds'
    exact ⟨keeps, ⟨snapshot', one'⟩, model, same ▸ loaded, rfl⟩
  · rintro ⟨keeps, ⟨snapshot', one'⟩, model, loaded, rfl⟩
    have read := readModelArtifacts_eq_ok.mpr ⟨snapshot', one', keeps.holds valid one one' holds⟩
    exact ⟨keeps, artifacts, model, read, loaded, rfl⟩

def cachedModel : Listing :=
  .directory localMultilingualCacheRepository
    (.directory (.utf8 "refs") (.file (.utf8 "main") (bytes "r1") .done)
      (.directory (.utf8 "snapshots")
        (.directory (.utf8 "r1")
          (.file (.utf8 "model_optimized.onnx") smallArtifacts.model
            (.file (.utf8 "tokenizer.json") smallArtifacts.tokenizerFile
              (.file (.utf8 "config.json") smallArtifacts.configFile
                (.file (.utf8 "special_tokens_map.json") smallArtifacts.specialTokensMapFile
                  (.file (.utf8 "tokenizer_config.json") smallArtifacts.tokenizerConfigFile .done)))))
          .done)
        .done))
    .done

/-- The runtime as far as it loads the small model; a loaded model is known by its files. -/
def loadsSmall (artifacts : ModelArtifacts) : Option ModelArtifacts :=
  if artifacts = smallArtifacts then some artifacts else none

theorem cached_model_starts : ∃ installed,
    writeLocalModelManifest modelSample (recognizing (sampleManifest cachedModel)) cachedModel = .ok installed ∧
      startProvider modelSample (recognizing (sampleManifest cachedModel)) loadsSmall "local-multilingual-v1"
        (some installed) = .ok (.localMultilingualV1 smallArtifacts) := by
  have valid : cachedModel.WellFormed := by
    simp [cachedModel, localMultilingualCacheRepository, Listing.WellFormed, Listing.names, FileName.Valid]
  have plain : ∀ name ∈ cachedModel.entryNames, name.Plain := by
    simp [cachedModel, localMultilingualCacheRepository, Listing.entryNames, FileName.Plain]
  have complete : readModelArtifacts cachedModel = .ok smallArtifacts := rfl
  have revision : cachedModel.contentAt true [localMultilingualCacheRepository, .utf8 "refs", .utf8 "main"] =
      some (bytes "r1") := by decide
  obtain ⟨installed, written⟩ := @manifest_written modelSample (recognizing (sampleManifest cachedModel)) _ _ _
    (by decide) revision (by decide)
  have collisionFree : CollisionFree modelSample cachedModel installed :=
    fun _ _ _ _ _ same => modelSample_injective same
  obtain ⟨snapshot, one, _⟩ := readModelArtifacts_eq_ok.mp complete
  refine ⟨installed, written, (installed_model_starts_iff valid plain (recognizing_readsBack _) written rfl
    collisionFree complete).mpr ⟨written_keepsArtifacts written, ?_, smallArtifacts, if_pos rfl, rfl⟩⟩
  exact ⟨snapshot, one.in_installed written⟩

end

end Hangar
