import Hangar.Concrete
import Hangar.Operations.Copy
import Mathlib.Data.Countable.Basic
import Mathlib.Logic.Equiv.List

namespace Hangar

open Lib

variable {x : Externals} {json : ManifestJson} {opens : List UInt8 → Bool} {source copied : Listing}
  {files : List BackupFile}

/-- The command's destination is free, and so is the temporary path beside it. -/
def Destination.Fresh (destination : Destination) : Prop :=
  destination.occupied = false ∧ ∃ temporary, siblingTemporaryPath destination = .ok temporary ∧
    destination.siblingOccupied temporary = false

/-- Each backup taken at this time verifies, and is restored with exactly the files of its source. -/
def RoundTrips (x : Externals) (json : ManifestJson) (opens : List UInt8 → Bool) (source : Listing) (now : Nat) : Prop :=
  ∀ destination backup, createBackup x json opens now source destination = .ok backup →
    verifyBackup x json opens backup = .ok () ∧
      ∀ fresh : Destination, fresh.Fresh → ∃ restored, restoreBackup x json opens backup fresh = .ok restored ∧
        ∀ path, restored.fileAt path = source.fileAt path

def Leads (source : Listing) (text : String) (content : List UInt8) : Prop :=
  validatedRelativePath text = .ok text ∧ (filePath text).bind source.fileAt = some content

def HasBackslash (path : Path) : Prop := ∃ text, FileName.utf8 text ∈ path ∧ '\\' ∈ text.toList

/-- No file at the root has the name of the manifest, and a file with a backslash in its path has a copy
    where slashes take the place of the backslashes. -/
structure Restorable (source : Listing) : Prop where
  unlisted : source.fileAt [manifestFile] = none
  mirrored : ∀ path content text, source.fileAt path = some content → HasBackslash path →
    manifestPath path = some text → Leads source text content

theorem createBackup_eq_ok {now : Nat} {destination : Destination} {backup : Listing} :
    createBackup x json opens now source destination = .ok backup ↔
      validateLiveDataDirectory opens source = .ok () ∧ destination.Fresh ∧
        ∃ copied files, Copies x true [] source copied files ∧
          copied.admitsFile manifestFile = true ∧
          backup = copied.putFile manifestFile (json.write ⟨backupFormat, now,
            files.insertionSort fun left right => left.path ≤ right.path⟩) := by
  unfold createBackup copyTree createFile Destination.Fresh
  simp only [bind_eq_ok, ensure_eq_ok, pure_eq_ok]
  constructor
  · intro run
    obtain ⟨⟨⟩, live, _, free, temporary, sibling, _, clear, ⟨_, _⟩, ⟨⟨copied, files⟩, copies, same⟩, _, admitted, rfl⟩ := run
    cases same
    exact ⟨live, ⟨by simpa using free, temporary, sibling, by simpa using clear⟩, copied, files, copies_of_run copies,
      admitted, rfl⟩
  · intro taken
    obtain ⟨live, ⟨free, temporary, sibling, clear⟩, copied, files, copies, admitted, rfl⟩ := taken
    exact ⟨(), live, (), by simp [free], temporary, sibling, (), by simp [clear], (copied, _),
      ⟨(copied, files), run_of_copies copies, rfl⟩, (), admitted, rfl⟩

section
variable {path : Path} {text : String} {content : List UInt8}

theorem mapM_toStr {names : List String} : path.mapM toStr = some names ↔ path = names.map FileName.utf8 := by
  induction path generalizing names with
  | nil => cases names <;> simp
  | cons name rest ih =>
    cases name with
    | utf8 first =>
      cases names with
      | nil => simp [toStr, Option.bind_eq_some_iff]
      | cons head tail =>
        simp only [List.mapM_cons, toStr, Option.bind_eq_bind, Option.bind_some, Option.bind_eq_some_iff, ih,
          Option.pure_def, Option.some.injEq, List.cons.injEq, List.map_cons, FileName.utf8.injEq]
        constructor
        · intro spelled
          obtain ⟨_, rfl, rfl, rfl⟩ := spelled
          exact ⟨rfl, rfl⟩
        · intro spelled
          exact ⟨tail, spelled.2, spelled.1, rfl⟩
    | raw bytes => cases names <;> simp [toStr]

theorem filePath_manifestPath (valid : ∀ name ∈ path, name.Valid) (nonempty : path ≠ [])
    (plain : ¬HasBackslash path) (recorded : manifestPath path = some text) :
    validatedRelativePath text = .ok text ∧ filePath text = some path := by
  obtain ⟨names, spelled, rfl⟩ := Option.map_eq_some_iff.mp recorded
  rw [mapM_toStr] at spelled
  subst spelled
  have named (name : String) (member : name ∈ names) : (FileName.utf8 name).Valid :=
    valid _ (List.mem_map_of_mem member)
  have present : names ≠ [] := by simpa using nonempty
  have kept : replaceChar '\\' '/' (joinPath names) = joinPath names := by
    have clear : ∀ c ∈ (joinPath names).toList, (if c = '\\' then '/' else c) = id c := by
      intro c member
      apply if_neg
      rintro rfl
      rcases mem_joinPath member with slash | ⟨name, listed, inside⟩
      · exact absurd slash (by decide)
      · exact plain ⟨name, List.mem_map_of_mem listed, inside⟩
    rw [replaceChar, List.map_congr_left clear, List.map_id, String.ofList_toList]
  rw [kept]
  constructor
  · have absolute : (joinPath names).toList.head? ≠ some '/' := by
      obtain ⟨first, rest, rfl⟩ := List.exists_cons_of_ne_nil present
      obtain ⟨filled, _, _, clear⟩ := named first List.mem_cons_self
      rw [head_joinPath filled]
      intro slash
      exact clear (List.mem_of_head? slash)
    have inside : ".." ∉ components (joinPath names) := by
      rw [components_joinPath (fun name member => (named name member).2.2.2) present]
      intro member
      exact (named _ member).2.2.1 rfl
    unfold validatedRelativePath
    rw [bind_of_ok ((ensure_eq_ok (u := ())).mpr absolute), bind_of_ok ((ensure_eq_ok (u := ())).mpr inside)]
    rfl
  · exact filePath_joinPath named present

theorem validatedRelativePath_eq {value : String} (accepted : validatedRelativePath value = .ok text) : text = value := by
  unfold validatedRelativePath at accepted
  obtain ⟨_, _, accepted⟩ := bind_eq_ok.mp accepted
  obtain ⟨_, _, accepted⟩ := bind_eq_ok.mp accepted
  cases accepted
  rfl

/-- A listed file verifies exactly where its manifest path leads to its content. -/
theorem verifyFile_eq_ok {backup : Listing} {file : BackupFile} (injective : Function.Injective x.sha256)
    (lists : file.Lists x path content) :
    verifyFile x backup file = .ok () ↔ validatedRelativePath file.path = .ok file.path ∧
      (filePath file.path).bind (backup.contentAt true) = some content := by
  obtain ⟨_, size, digest⟩ := lists
  unfold verifyFile
  simp only [bind_eq_ok, context_eq_ok, ensure_eq_ok]
  constructor
  · intro run
    obtain ⟨relative, accepted, stored, present, _, _, same⟩ := run
    have kept := validatedRelativePath_eq accepted
    subst kept
    rw [digest] at same
    have equal : stored = content := injective (HexText.ext same)
    exact ⟨accepted, equal ▸ present⟩
  · intro leads
    exact ⟨file.path, leads.1, content, leads.2, (), size.symm, digest.symm⟩

end

theorem validateLiveDataDirectory_congr {left right : Listing}
    (same : left.contentAt true [canonicalFile] = right.contentAt true [canonicalFile]) :
    validateLiveDataDirectory opens left = validateLiveDataDirectory opens right := by
  unfold validateLiveDataDirectory
  rw [same]

section
variable (valid : source.WellFormed) (copies : Copies x true [] source copied files)
  (admitted : copied.admitsFile manifestFile = true)

include valid copies admitted

theorem backup_contentAt {follow : Bool} {content : List UInt8} {path : Path} :
    (copied.putFile manifestFile content).contentAt follow path =
      if path = [manifestFile] then some content else source.fileAt path := by
  have same {head : FileName} {tail : Path} :
      copied.contentAt follow (head :: tail) = source.fileAt (head :: tail) := by
    rw [copies.contentAt valid, if_neg]
    simp [skips]
  cases path with
  | nil => simp [Listing.contentAt_nil]
  | cons head tail =>
    rw [Listing.putFile_contentAt admitted]
    by_cases first : head = manifestFile
    · subst first
      cases tail with
      | nil => simp
      | cons next tail =>
        rw [← same, Listing.contentAt_below admitted]
        simp
    · simp [first, same]

theorem restored_contentAt {content : List UInt8} :
    ∃ restored listed, copyTreeInner x false [] (copied.putFile manifestFile content) = .ok (restored, listed) ∧
      ∀ follow path, restored.contentAt follow path =
        if path = [manifestFile] then none else source.fileAt path := by
  obtain ⟨⟨restored, listed⟩, again⟩ := copies.again false
  refine ⟨restored, listed, by rw [copyTreeInner_putFile, again], ?_⟩
  intro follow path
  cases path with
  | nil => simp [Listing.contentAt_nil]
  | cons head tail =>
    have before : copied.fileAt (head :: tail) = source.fileAt (head :: tail) := by
      rw [Listing.fileAt, copies.contentAt valid, if_neg]
      simp [skips]
    rw [(copies_of_run again).contentAt (copies.wellFormed valid)]
    by_cases first : head = manifestFile
    · subst first
      have skipped : skips false ([] ++ [manifestFile]) = true := by decide
      rw [if_pos skipped]
      cases tail with
      | nil => simp
      | cons next tail =>
        rw [← before, Listing.fileAt, Listing.contentAt_below admitted]
        simp
    · rw [before, if_neg (by simp [skips, first]), if_neg (by simp [first])]

/-- A backup verifies exactly when each file it lists does. -/
theorem verifyBackup_eq_ok {now : Nat} (live : validateLiveDataDirectory opens source = .ok ()) :
    verifyBackup x json opens (copied.putFile manifestFile (json.write ⟨backupFormat, now,
        files.insertionSort fun left right => left.path ≤ right.path⟩)) = .ok () ↔
      ∀ file ∈ files, verifyFile x (copied.putFile manifestFile (json.write ⟨backupFormat, now,
        files.insertionSort fun left right => left.path ≤ right.path⟩)) file = .ok () := by
  generalize written : (⟨backupFormat, now, files.insertionSort fun left right => left.path ≤ right.path⟩ :
    BackupManifest) = manifest
  have listed : ∀ file, file ∈ manifest.files ↔ file ∈ files := by
    intro file
    rw [← written]
    exact List.mem_insertionSort _
  have format : manifest.format = backupFormat := by rw [← written]
  have readBack : readManifest json (copied.putFile manifestFile (json.write manifest)) = .ok manifest := by
    have present : (copied.putFile manifestFile (json.write manifest)).contentAt true [manifestFile] =
        some (json.write manifest) := by
      rw [backup_contentAt valid copies admitted, if_pos rfl]
    unfold readManifest
    rw [present, bind_of_ok (context_eq_ok.mpr rfl), json.read_write]
    rfl
  have still : validateLiveDataDirectory opens (copied.putFile manifestFile (json.write manifest)) = .ok () := by
    rw [← live]
    apply validateLiveDataDirectory_congr
    rw [backup_contentAt valid copies admitted, if_neg (by decide), copies.unlinked]
  unfold verifyBackup
  rw [bind_of_ok readBack, bind_of_ok ((ensure_eq_ok (u := ())).mpr format)]
  constructor
  · intro run
    obtain ⟨⟨⟩, each, _⟩ := bind_eq_ok.mp run
    intro file member
    exact forM_eq_ok.mp each file ((listed file).mpr member)
  · intro each
    have all : manifest.files.forM (verifyFile x (copied.putFile manifestFile (json.write manifest))) = .ok () :=
      forM_eq_ok.mpr fun file member => each file ((listed file).mp member)
    rw [bind_of_ok all, still]

theorem restoreBackup_eq_ok {content : List UInt8} (live : validateLiveDataDirectory opens source = .ok ())
    (verified : verifyBackup x json opens (copied.putFile manifestFile content) = .ok ()) :
    ∃ restored, (∀ fresh : Destination, fresh.Fresh →
        restoreBackup x json opens (copied.putFile manifestFile content) fresh = .ok restored) ∧
      ∀ path, restored.fileAt path = if path = [manifestFile] then none else source.fileAt path := by
  obtain ⟨restored, listed, again, kept⟩ := @restored_contentAt _ _ _ _ valid copies admitted content
  refine ⟨restored, ?_, fun path => kept false path⟩
  intro fresh clear
  obtain ⟨free, temporary, sibling, empty⟩ := clear
  have still : validateLiveDataDirectory opens restored = .ok () := by
    rw [← live]
    apply validateLiveDataDirectory_congr
    rw [kept, if_neg (by decide), copies.unlinked]
  have copying : ∃ sorted, copyTree x false (copied.putFile manifestFile content) = .ok (restored, sorted) := by
    unfold copyTree
    rw [bind_of_ok again]
    exact ⟨_, rfl⟩
  obtain ⟨sorted, copying⟩ := copying
  unfold restoreBackup
  rw [bind_of_ok verified, bind_of_ok ((ensure_eq_ok (u := ())).mpr (by simp [free])), bind_of_ok sibling,
    bind_of_ok ((ensure_eq_ok (u := ())).mpr (by simp [empty])), bind_of_ok copying]
  exact bind_of_ok still

end

/-- Whenever a backup can be taken, it round-trips at every time exactly when its source has no file of the
    manifest's name and its backslashes read as slashes lead to the same contents. -/
theorem backups_round_trip_iff (injective : Function.Injective x.sha256) (valid : source.WellFormed)
    (accepted : ∃ now destination backup, createBackup x json opens now source destination = .ok backup) :
    (∀ now, RoundTrips x json opens source now) ↔ Restorable source := by
  obtain ⟨first, destination, backup, taken⟩ := accepted
  obtain ⟨live, free, copied, files, copies, admitted, _⟩ := createBackup_eq_ok.mp taken
  let manifest (now : Nat) : BackupManifest :=
    ⟨backupFormat, now, files.insertionSort fun left right => left.path ≤ right.path⟩
  let taking (now : Nat) : Listing := copied.putFile manifestFile (json.write (manifest now))
  have backs (now : Nat) : createBackup x json opens now source destination = .ok (taking now) :=
    createBackup_eq_ok.mpr ⟨live, free, copied, files, copies, admitted, rfl⟩
  have stored (now : Nat) (path : Path) : (taking now).contentAt true path =
      if path = [manifestFile] then some (json.write (manifest now)) else source.fileAt path :=
    backup_contentAt valid copies admitted
  have verifies (now : Nat) : verifyBackup x json opens (taking now) = .ok () ↔
      ∀ file ∈ files, verifyFile x (taking now) file = .ok () := verifyBackup_eq_ok valid copies admitted live
  have lists {path : Path} {content : List UInt8} {file : BackupFile} (present : source.fileAt path = some content)
      (listed : file.Lists x path content) : file ∈ files :=
    (copies.mem_files valid).mpr ⟨path, content, present, listed⟩
  constructor
  · intro trips
    constructor
    · obtain ⟨verified, restores⟩ := trips first destination (taking first) (backs first)
      obtain ⟨restored, run, same⟩ := restores destination free
      obtain ⟨copy, runs, kept⟩ := restoreBackup_eq_ok valid copies admitted live verified
      rw [runs destination free] at run
      cases run
      rw [← same, kept, if_pos rfl]
    · intro path content text present backslash recorded
      let file : BackupFile := ⟨text, content.length, (x.sha256 content).text⟩
      have listed : file.Lists x path content := ⟨recorded, rfl, rfl⟩
      have leads (now : Nat) := (verifyFile_eq_ok injective listed).mp
        ((verifies now).mp (trips now destination (taking now) (backs now)).1 file (lists present listed))
      refine ⟨(leads first).1, ?_⟩
      obtain ⟨target, located, arrives⟩ := Option.bind_eq_some_iff.mp (leads first).2
      -- a path to the manifest itself would give manifests of different times one content
      have elsewhere : target ≠ [manifestFile] := by
        intro same
        obtain ⟨target', located', arrives'⟩ := Option.bind_eq_some_iff.mp (leads (first + 1)).2
        rw [located] at located'
        cases located'
        rw [stored, if_pos same] at arrives arrives'
        have written : json.write (manifest first) = json.write (manifest (first + 1)) :=
          Option.some.inj (arrives.trans arrives'.symm)
        have reads := congrArg json.read written
        rw [json.read_write, json.read_write] at reads
        have times := congrArg BackupManifest.createdAtUnixMs (Option.some.inj reads)
        simp [manifest] at times
      rw [stored, if_neg elsewhere] at arrives
      exact Option.bind_eq_some_iff.mpr ⟨target, located, arrives⟩
  · intro restorable now other backup' taken'
    obtain ⟨_, _, copied', files', copies', admitted', rfl⟩ := createBackup_eq_ok.mp taken'
    have same := (run_of_copies copies).symm.trans (run_of_copies copies')
    cases same
    have verified : verifyBackup x json opens (taking now) = .ok () := by
      rw [verifies]
      intro file member
      obtain ⟨path, content, present, listed⟩ := (copies.mem_files valid).mp member
      rw [verifyFile_eq_ok injective listed]
      by_cases backslash : HasBackslash path
      · obtain ⟨accepted, leads⟩ := restorable.mirrored path content file.path present backslash listed.1
        refine ⟨accepted, ?_⟩
        obtain ⟨target, located, arrives⟩ := Option.bind_eq_some_iff.mp leads
        have elsewhere : target ≠ [manifestFile] := by
          rintro rfl
          rw [restorable.unlisted] at arrives
          cases arrives
        rw [located, Option.bind_some, stored, if_neg elsewhere, arrives]
      · have nonempty : path ≠ [] := by
          rintro rfl
          rw [Listing.fileAt, Listing.contentAt_nil] at present
          cases present
        obtain ⟨accepted, located⟩ := filePath_manifestPath (Listing.valid_of_contentAt valid present) nonempty
          backslash listed.1
        refine ⟨accepted, ?_⟩
        have elsewhere : path ≠ [manifestFile] := by
          rintro rfl
          rw [restorable.unlisted] at present
          cases present
        rw [located, Option.bind_some, stored, if_neg elsewhere, present]
    obtain ⟨restored, runs, kept⟩ := restoreBackup_eq_ok valid copies admitted live verified
    refine ⟨verified, fun fresh clear => ⟨restored, runs fresh clear, ?_⟩⟩
    intro path
    rw [kept]
    split
    · next same => rw [same, restorable.unlisted]
    · rfl

def quoted (text : String) : String := "\"" ++ text ++ "\""

def prettyFile (file : BackupFile) : String :=
  "    \x7b\n      \"path\": " ++ quoted file.path ++ ",\n      \"bytes\": " ++ file.bytes.repr ++
    ",\n      \"sha256\": " ++ quoted file.sha256 ++ "\n    \x7d"

/-- `serde_json::to_string_pretty` and a line end, for a manifest of files whose texts need no escapes. -/
def prettyManifest (manifest : BackupManifest) : String :=
  "\x7b\n  \"format\": " ++ quoted manifest.format ++ ",\n  \"created_at_unix_ms\": " ++
    manifest.createdAtUnixMs.repr ++ ",\n  \"files\": [\n" ++
    ",\n".intercalate (manifest.files.map prettyFile) ++ "\n  ]\n\x7d\n"

def redbHeader : List UInt8 := [0x72, 0x65, 0x64, 0x62, 0x1A, 0x0A, 0xA9, 0x0D, 0x0A]

def canonicalEntry : BackupFile :=
  ⟨"canonical.redb", 9, "f3ba4d2390b78989d9bb5a2bdee1d6de1e8aff1ecdf724e3f3c28b7d284de4e9"⟩

def earlierManifest : List UInt8 := bytes (prettyManifest ⟨backupFormat, 1, [canonicalEntry]⟩)

def laterManifest : BackupManifest :=
  ⟨backupFormat, 2, [canonicalEntry, ⟨"hangar-backup-manifest.json", 225,
    "16e1bd66a051e6b83e4692478d73eee1f65470c56bc2e37d10778b73e984afd8"⟩]⟩

def backupDigests : List (List UInt8 × HexText) :=
  [(redbHeader, ⟨"f3ba4d2390b78989d9bb5a2bdee1d6de1e8aff1ecdf724e3f3c28b7d284de4e9", by decide +kernel⟩),
    (earlierManifest, ⟨"16e1bd66a051e6b83e4692478d73eee1f65470c56bc2e37d10778b73e984afd8", by decide +kernel⟩),
    (bytes "knowledge", ⟨"e0f895872d65b2528feec97350a3a212b3d4ab88748e25d022a34641d338216b", by decide +kernel⟩)]

def backupSample : Externals := { sample with sha256 := listedDigest backupDigests }

theorem backupSample_injective : Function.Injective backupSample.sha256 := by
  apply listedDigest_injective
  · decide +kernel
  · decide +kernel

theorem exists_manifest_index : ∃ index : BackupManifest → Nat, Function.Injective index := by
  have texts : Function.Injective fun text : String => text.toList.map Char.toNat := by
    intro left right same
    exact String.toList_inj.mp (List.map_injective_iff.mpr (fun _ _ => Char.toNat_inj.mp) same)
  have countableTexts : Countable String := texts.countable
  have fields : Function.Injective fun manifest : BackupManifest =>
      (manifest.format, manifest.createdAtUnixMs, manifest.files.map fun file => (file.path, file.bytes, file.sha256)) := by
    intro left right same
    have files : Function.Injective fun file : BackupFile => (file.path, file.bytes, file.sha256) := by
      intro left right same
      cases left
      cases right
      simpa using same
    cases left
    cases right
    simp only [Prod.mk.injEq] at same
    obtain ⟨rfl, rfl, listed⟩ := same
    rw [List.map_injective_iff.mpr files listed]
  have countable : Countable BackupManifest := fields.countable
  exact exists_injective_nat BackupManifest

/-- Zeros, as many as a numbering of all manifests says. -/
noncomputable def numbered (manifest : BackupManifest) : List UInt8 :=
  List.replicate (Classical.choose exists_manifest_index manifest) 0

theorem numbered_injective : Function.Injective numbered := by
  intro left right same
  have lengths := congrArg List.length same
  simp only [numbered, List.length_replicate] at lengths
  exact Classical.choose_spec exists_manifest_index lengths

/-- The text of `serde_json` for one manifest, and a code for every other one. -/
noncomputable def textJson (known : BackupManifest) (brace : (0x7b : UInt8) ∈ bytes (prettyManifest known)) :
    ManifestJson where
  write manifest := if manifest = known then bytes (prettyManifest manifest) else numbered manifest
  read content := if content = bytes (prettyManifest known) then some known else Function.partialInv numbered content
  read_write manifest := by
    split
    · next same => rw [same, if_pos rfl]
    · have other : numbered manifest ≠ bytes (prettyManifest known) := by
        intro same
        rw [← same] at brace
        exact absurd (List.eq_of_mem_replicate brace) (by decide)
      rw [if_neg other, Function.partialInv_left numbered_injective]

noncomputable def sampleJson : ManifestJson := textJson laterManifest (by decide +kernel)

def opensRedb (content : List UInt8) : Bool := redbHeader.isPrefixOf content

def freePlace : Destination := ⟨false, some "backup", fun _ => false⟩

def carriedOver : Listing := .file canonicalFile redbHeader (.file manifestFile earlierManifest .done)

/-- A backup of a backup is taken, and does not verify. -/
theorem carried_manifest_unverified : carriedOver.WellFormed ∧ Function.Injective backupSample.sha256 ∧
    ∃ backup, createBackup backupSample sampleJson opensRedb 2 carriedOver freePlace = .ok backup ∧
      verifyBackup backupSample sampleJson opensRedb backup =
        .error (.check "backup file size differs: hangar-backup-manifest.json") := by
  refine ⟨?_, backupSample_injective, by decide +kernel⟩
  simp [carriedOver, Listing.WellFormed, Listing.names, FileName.Valid, canonicalFile, manifestFile]

def oneBlob : Listing :=
  .file canonicalFile redbHeader
    (.directory (.utf8 "blobs") (.file (.utf8 "example") (bytes "knowledge") .done) .done)

theorem oneBlob_wellFormed : oneBlob.WellFormed := by
  simp [oneBlob, Listing.WellFormed, Listing.names, FileName.Valid, canonicalFile]

theorem oneBlob_plain {path : Path} {content : List UInt8} (present : oneBlob.fileAt path = some content) :
    ¬HasBackslash path := by
  have paths : path = [canonicalFile] ∨ path = [.utf8 "blobs", .utf8 "example"] := by
    cases path with
    | nil => simp [oneBlob, Listing.contentAt] at present
    | cons head tail =>
      by_cases canonical : head = canonicalFile
      · simp_all [oneBlob, Listing.contentAt]
      · cases tail with
        | nil => simp_all [oneBlob, Listing.contentAt]
        | cons next tail => simp_all [oneBlob, Listing.contentAt]
  intro backslash
  obtain ⟨text, member, inside⟩ := backslash
  rcases paths with rfl | rfl
  · simp [canonicalFile] at member
    subst member
    exact absurd inside (by decide)
  · simp at member
    rcases member with rfl | rfl
    · exact absurd inside (by decide)
    · exact absurd inside (by decide)

def oneBlobManifest : BackupManifest :=
  ⟨backupFormat, 1, [⟨"blobs/example", 9, "e0f895872d65b2528feec97350a3a212b3d4ab88748e25d022a34641d338216b"⟩,
    canonicalEntry]⟩

noncomputable def oneBlobJson : ManifestJson := textJson oneBlobManifest (by decide +kernel)

theorem backups_round_trip_oneBlob : RoundTrips backupSample oneBlobJson opensRedb oneBlob 1 := by
  have taken : ∃ backup, createBackup backupSample oneBlobJson opensRedb 1 oneBlob freePlace = .ok backup ∧
      backup.contentAt true [manifestFile] = some (bytes (prettyManifest oneBlobManifest)) := by decide +kernel
  obtain ⟨backup, taken, _⟩ := taken
  have plain : Restorable oneBlob := by
    constructor
    · decide
    · intro path content text present backslash _
      exact absurd backslash (oneBlob_plain present)
  exact (backups_round_trip_iff backupSample_injective oneBlob_wellFormed ⟨1, freePlace, backup, taken⟩).mpr plain 1

end Hangar
