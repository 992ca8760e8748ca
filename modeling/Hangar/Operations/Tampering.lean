import Hangar.Operations.RoundTrip

namespace Hangar

open Lib

variable {x : Externals} {json : ManifestJson} {opens : List UInt8 → Bool} {directory restored : Listing}
  {manifest : BackupManifest} {destination : Destination} {files : List BackupFile}

structure BackupManifest.Describes (x : Externals) (manifest : BackupManifest) (tree : Listing) : Prop where
  present : ∀ file ∈ manifest.files, ∃ path content, filePath file.path = some path ∧
    tree.fileAt path = some content ∧ content.length = file.bytes ∧ (x.sha256 content).text = file.sha256
  listed : ∀ path content, tree.fileAt path = some content → ∃ file ∈ manifest.files, filePath file.path = some path

/-- Every file of the directory but the manifest at its root is listed, and that one is not. -/
structure BackupManifest.Covers (manifest : BackupManifest) (directory : Listing) : Prop where
  listed : ∀ path content, directory.fileAt path = some content → path ≠ [manifestFile] →
    ∃ file ∈ manifest.files, filePath file.path = some path
  unlisted : ∀ file ∈ manifest.files, filePath file.path ≠ some [manifestFile]

section
variable {includeManifest : Bool} {current : Path}

theorem Copies.unlinked_of_kept (copies : Copies x includeManifest current directory restored files)
    {head : FileName} {tail : Path} (kept : skips includeManifest (current ++ [head]) = false) :
    directory.contentAt true (head :: tail) = directory.fileAt (head :: tail) := by
  induction copies generalizing head tail with
  | done => rfl
  | @skipDirectory _ name _ _ _ _ skipped _ ih =>
    have other : head ≠ name := by
      rintro rfl
      rw [skipped] at kept
      cases kept
    simp only [Listing.fileAt, Listing.contentAt, List.head?_cons, Option.some.injEq, other, if_false]
    exact ih kept
  | @directory current name children _ _ _ _ _ _ _ _ ihInside ih =>
    by_cases same : head = name
    · simp only [Listing.fileAt, Listing.contentAt, same, List.head?_cons, if_true, List.tail_cons]
      cases tail with
      | nil => rw [Listing.contentAt_nil, Listing.contentAt_nil]
      | cons next tail => exact ihInside skips_deep
    · simp only [Listing.fileAt, Listing.contentAt, List.head?_cons, Option.some.injEq, same, if_false]
      exact ih kept
  | skipFile _ _ ih | file _ _ _ ih | special _ ih =>
    simp only [Listing.fileAt, Listing.contentAt]
    rw [ih kept]

theorem Copies.unlinked_name (copies : Copies x includeManifest current directory restored files) {name : FileName} :
    directory.contentAt true [name] = directory.fileAt [name] := by
  induction copies with
  | done => rfl
  | @skipDirectory _ other _ _ _ _ _ _ ih | @directory _ other _ _ _ _ _ _ _ _ _ _ ih =>
    by_cases same : name = other
    · simp [Listing.contentAt, Listing.contentAt_nil, same]
    · simpa [Listing.contentAt, same] using ih
  | skipFile _ _ ih | file _ _ _ ih | special _ ih =>
    simp only [Listing.fileAt, Listing.contentAt]
    rw [ih]

end

structure Restores (x : Externals) (json : ManifestJson) (directory restored : Listing) (manifest : BackupManifest) :
    Prop where
  file : ∃ content, directory.fileAt [manifestFile] = some content
  copies : ∃ files, Copies x false [] directory restored files
  verified : ∀ file ∈ manifest.files, verifyFile x directory file = .ok ()

theorem restoreBackup_restores (read : readManifest json directory = .ok manifest)
    (run : restoreBackup x json opens directory destination = .ok restored) :
    Restores x json directory restored manifest := by
  unfold restoreBackup at run
  obtain ⟨⟨⟩, verified, run⟩ := bind_eq_ok.mp run
  obtain ⟨_, _, run⟩ := bind_eq_ok.mp run
  obtain ⟨_, _, run⟩ := bind_eq_ok.mp run
  obtain ⟨_, _, run⟩ := bind_eq_ok.mp run
  obtain ⟨⟨copied, sorted⟩, copying, run⟩ := bind_eq_ok.mp run
  obtain ⟨_, _, run⟩ := bind_eq_ok.mp run
  cases run
  unfold copyTree at copying
  obtain ⟨⟨copied, files⟩, inner, same⟩ := bind_eq_ok.mp copying
  cases same
  have copies := copies_of_run inner
  unfold verifyBackup at verified
  rw [bind_of_ok read] at verified
  obtain ⟨_, _, verified⟩ := bind_eq_ok.mp verified
  obtain ⟨⟨⟩, each, _⟩ := bind_eq_ok.mp verified
  constructor
  case file =>
    unfold readManifest at read
    obtain ⟨content, present, _⟩ := bind_eq_ok.mp read
    rw [context_eq_ok, copies.unlinked_name] at present
    exact ⟨content, present⟩
  case copies => exact ⟨files, copies⟩
  case verified => exact fun file member => forM_eq_ok.mp each file member

theorem Restores.kept (restores : Restores x json directory restored manifest) {name : FileName} {tail : Path}
    (other : name :: tail ≠ [manifestFile]) {content : List UInt8}
    (present : directory.contentAt true (name :: tail) = some content) : skips false [name] = false := by
  obtain ⟨_, file⟩ := restores.file
  have different : name ≠ manifestFile := by
    rintro rfl
    cases tail with
    | nil => exact other rfl
    | cons next tail =>
      rw [Listing.contentAt_below_file file] at present
      cases present
  simp [skips, different]

theorem Restores.fileAt (restores : Restores x json directory restored manifest) (valid : directory.WellFormed)
    {path : Path} : restored.fileAt path = if path = [manifestFile] then none else directory.fileAt path := by
  obtain ⟨files, copies⟩ := restores.copies
  obtain ⟨_, file⟩ := restores.file
  cases path with
  | nil => simp [Listing.contentAt_nil]
  | cons name tail =>
    rw [Listing.fileAt, copies.contentAt valid]
    by_cases same : name = manifestFile
    · subst same
      cases tail with
      | nil => simp [skips]
      | cons next tail => simp [skips, Listing.contentAt_below_file file]
    · simp [skips, same]

theorem Restores.stored (restores : Restores x json directory restored manifest) {file : BackupFile}
    (member : file ∈ manifest.files) : ∃ path content, filePath file.path = some path ∧
      directory.contentAt true path = some content ∧ content.length = file.bytes ∧
        (x.sha256 content).text = file.sha256 := by
  have verified := restores.verified file member
  unfold verifyFile at verified
  obtain ⟨relative, accepted, verified⟩ := bind_eq_ok.mp verified
  obtain ⟨content, found, verified⟩ := bind_eq_ok.mp verified
  obtain ⟨_, size, digest⟩ := bind_eq_ok.mp verified
  rw [validatedRelativePath_eq accepted, context_eq_ok, Option.bind_eq_some_iff] at found
  obtain ⟨path, located, present⟩ := found
  exact ⟨path, content, located, present, ensure_eq_ok.mp size, ensure_eq_ok.mp digest⟩

/-- A restored tree has exactly the files of the manifest when and only when every file of the directory but the
    manifest is listed, and the manifest does not list itself. -/
theorem restore_described_iff (valid : directory.WellFormed) (read : readManifest json directory = .ok manifest)
    (run : restoreBackup x json opens directory destination = .ok restored) :
    manifest.Describes x restored ↔ manifest.Covers directory := by
  have restores := restoreBackup_restores read run
  obtain ⟨files, copies⟩ := restores.copies
  constructor
  · intro describes
    constructor
    · intro path content present other
      apply describes.listed path content
      rw [restores.fileAt valid, if_neg other, present]
    · intro file member located
      obtain ⟨path, content, same, present, _⟩ := describes.present file member
      rw [located] at same
      cases same
      rw [restores.fileAt valid, if_pos rfl] at present
      cases present
  · intro covers
    constructor
    · intro file member
      obtain ⟨path, content, located, present, size, digest⟩ := restores.stored member
      have other : path ≠ [manifestFile] := by
        rintro rfl
        exact covers.unlisted file member located
      refine ⟨path, content, located, ?_, size, digest⟩
      rw [restores.fileAt valid, if_neg other]
      cases path with
      | nil =>
        rw [Listing.contentAt_nil] at present
        cases present
      | cons name tail =>
        have kept := restores.kept other present
        rw [← copies.unlinked_of_kept kept, present]
    · intro path content present
      rw [restores.fileAt valid] at present
      split at present
      · cases present
      · next other => exact covers.listed path content present other

def bareDirectory : Listing := .file canonicalFile redbHeader .done

def bareManifest : BackupManifest := ⟨backupFormat, 1, [canonicalEntry]⟩

noncomputable def bareJson : ManifestJson := textJson bareManifest (by decide +kernel)

def bareBackup : Listing := .file canonicalFile redbHeader (.file manifestFile earlierManifest .done)

def plantedBackup : Listing := bareBackup.putFile (.utf8 "planted.redb") redbHeader

theorem plantedBackup_wellFormed : plantedBackup.WellFormed := by
  simp [plantedBackup, bareBackup, Listing.putFile, Listing.WellFormed, Listing.names, FileName.Valid, canonicalFile,
    manifestFile]

theorem restore_described_bare : ∃ restored,
    restoreBackup backupSample bareJson opensRedb bareBackup freePlace = .ok restored ∧
      (bareManifest.Describes backupSample restored ↔ bareManifest.Covers bareBackup) := by
  have valid : bareBackup.WellFormed := by
    simp [bareBackup, Listing.WellFormed, Listing.names, FileName.Valid, canonicalFile, manifestFile]
  have read : ∃ manifest, readManifest bareJson bareBackup = .ok manifest ∧ manifest = bareManifest := by
    decide +kernel
  have run : ∃ restored, restoreBackup backupSample bareJson opensRedb bareBackup freePlace = .ok restored ∧ True := by
    decide +kernel
  obtain ⟨manifest, read, rfl⟩ := read
  obtain ⟨restored, run, _⟩ := run
  exact ⟨restored, run, restore_described_iff valid read run⟩

/-- A file put into a backup is restored, though no manifest lists it. -/
theorem planted_file_restored : Function.Injective backupSample.sha256 ∧ plantedBackup.WellFormed ∧
    (∃ backup, createBackup backupSample bareJson opensRedb 1 bareDirectory freePlace = .ok backup ∧
      backup = bareBackup) ∧
    (∃ manifest, readManifest bareJson plantedBackup = .ok manifest ∧ manifest = bareManifest) ∧
    ∃ restored, restoreBackup backupSample bareJson opensRedb plantedBackup freePlace = .ok restored ∧
      restored.fileAt [.utf8 "planted.redb"] = some redbHeader ∧ ¬ bareManifest.Describes backupSample restored := by
  have run : ∃ restored, restoreBackup backupSample bareJson opensRedb plantedBackup freePlace = .ok restored ∧
      restored.fileAt [.utf8 "planted.redb"] = some redbHeader := by decide +kernel
  obtain ⟨restored, run, present⟩ := run
  refine ⟨backupSample_injective, plantedBackup_wellFormed, by decide +kernel, by decide +kernel, restored, run,
    present, ?_⟩
  intro describes
  obtain ⟨file, member, located⟩ := describes.listed _ _ present
  cases List.mem_singleton.mp member
  revert located
  decide

end Hangar
