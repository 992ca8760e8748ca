import Hangar.Operations.Backup

namespace Hangar

open Lib

def manifestPath (path : Path) : Option String := (path.mapM toStr).map fun names => replaceChar '\\' '/' (joinPath names)

def BackupFile.Lists (x : Externals) (path : Path) (content : List UInt8) (file : BackupFile) : Prop :=
  manifestPath path = some file.path ∧ file.bytes = content.length ∧ file.sha256 = (x.sha256 content).text

/-- The copies of the entries of a directory, with what they add to the manifest. -/
inductive Copies (x : Externals) (includeManifest : Bool) : Path → Listing → Listing → List BackupFile → Prop where
  | done {current : Path} : Copies x includeManifest current .done .done []
  | skipFile {current : Path} {name : FileName} {content : List UInt8} {rest copied : Listing} {files : List BackupFile}
      (skipped : skips includeManifest (current ++ [name]) = true)
      (later : Copies x includeManifest current rest copied files) :
      Copies x includeManifest current (.file name content rest) copied files
  | file {current : Path} {name : FileName} {content : List UInt8} {rest copied : Listing} {files : List BackupFile}
      {file : BackupFile} (kept : skips includeManifest (current ++ [name]) = false)
      (lists : file.Lists x (current ++ [name]) content) (later : Copies x includeManifest current rest copied files) :
      Copies x includeManifest current (.file name content rest) (.file name content copied) (file :: files)
  | skipDirectory {current : Path} {name : FileName} {children rest copied : Listing} {files : List BackupFile}
      (skipped : skips includeManifest (current ++ [name]) = true)
      (later : Copies x includeManifest current rest copied files) :
      Copies x includeManifest current (.directory name children rest) copied files
  | directory {current : Path} {name : FileName} {children rest inner copied : Listing} {first files : List BackupFile}
      (kept : skips includeManifest (current ++ [name]) = false)
      (inside : Copies x includeManifest (current ++ [name]) children inner first)
      (later : Copies x includeManifest current rest copied files) :
      Copies x includeManifest current (.directory name children rest) (.directory name inner copied) (first ++ files)
  | special {current : Path} {name : FileName} {rest copied : Listing} {files : List BackupFile}
      (later : Copies x includeManifest current rest copied files) :
      Copies x includeManifest current (.special name rest) copied files

variable {x : Externals} {includeManifest : Bool} {current : Path} {source copied : Listing} {files : List BackupFile}

theorem relativeToManifestPath_eq_ok {path : Path} {text : String} :
    relativeToManifestPath path = .ok text ↔ manifestPath path = some text := by
  unfold relativeToManifestPath manifestPath
  cases path.mapM toStr <;> simp [context, Except.bind, Bind.bind, Pure.pure, Except.pure]

theorem copies_of_run (run : copyTreeInner x includeManifest current source = .ok (copied, files)) :
    Copies x includeManifest current source copied files := by
  induction source generalizing current copied files with
  | done =>
    cases run
    exact .done
  | file name content rest ih =>
    unfold copyTreeInner at run
    cases skipped : skips includeManifest (current ++ [name]) with
    | true =>
      rw [skipped] at run
      exact .skipFile skipped (ih run)
    | false =>
      rw [skipped] at run
      obtain ⟨text, recorded, run⟩ := bind_eq_ok.mp run
      obtain ⟨⟨_, _⟩, later, run⟩ := bind_eq_ok.mp run
      cases run
      exact .file skipped ⟨relativeToManifestPath_eq_ok.mp recorded, rfl, rfl⟩ (ih later)
  | directory name children rest ihChildren ih =>
    unfold copyTreeInner at run
    cases skipped : skips includeManifest (current ++ [name]) with
    | true =>
      rw [skipped] at run
      exact .skipDirectory skipped (ih run)
    | false =>
      rw [skipped] at run
      obtain ⟨⟨_, _⟩, inside, run⟩ := bind_eq_ok.mp run
      obtain ⟨⟨_, _⟩, later, run⟩ := bind_eq_ok.mp run
      cases run
      exact .directory skipped (ihChildren inside) (ih later)
  | symlink name target rest _ => cases run
  | special name rest ih => exact .special (ih run)

theorem run_of_copies (copies : Copies x includeManifest current source copied files) :
    copyTreeInner x includeManifest current source = .ok (copied, files) := by
  induction copies with
  | done => rfl
  | skipFile skipped _ ih | skipDirectory skipped _ ih => rw [copyTreeInner, if_pos skipped, ih]
  | @file current _ content _ _ _ file kept lists _ ih =>
    obtain ⟨recorded, size, digest⟩ := lists
    have named := relativeToManifestPath_eq_ok.mpr recorded
    have entry : file = ⟨file.path, content.length, (x.sha256 content).text⟩ := by rw [← size, ← digest]
    rw [copyTreeInner, kept, entry]
    simp only [Bool.false_eq_true, if_false]
    rw [bind_of_ok named, bind_of_ok ih]
    rfl
  | directory kept _ _ ihInside ih =>
    rw [copyTreeInner, kept]
    simp only [Bool.false_eq_true, if_false]
    rw [bind_of_ok ihInside]
    show (copyTreeInner x includeManifest _ _ >>= _) = _
    rw [bind_of_ok ih]
    rfl
  | special _ ih => exact ih

theorem BackupFile.Lists.unique {path : Path} {content : List UInt8} {file file' : BackupFile}
    (first : file.Lists x path content) (second : file'.Lists x path content) : file = file' := by
  obtain ⟨recorded, size, digest⟩ := first
  obtain ⟨recorded', size', digest'⟩ := second
  have text : file.path = file'.path := Option.some.inj (recorded.symm.trans recorded')
  cases file
  cases file'
  simp_all

theorem skips_deep {name next : FileName} : skips includeManifest (current ++ [name] ++ [next]) = false := by
  cases current <;> simp [skips]

section
variable (copies : Copies x includeManifest current source copied files)

include copies

theorem Copies.names : ∀ name ∈ copied.names, name ∈ source.names := by
  induction copies with
  | done => simp [Listing.names]
  | skipFile _ _ ih | skipDirectory _ _ ih | special _ ih =>
    intro name member
    exact List.mem_cons_of_mem _ (ih name member)
  | file _ _ _ ih | directory _ _ _ _ ih =>
    intro other member
    rcases List.mem_cons.mp member with rfl | later
    · exact List.mem_cons_self
    · exact List.mem_cons_of_mem _ (ih other later)

theorem Copies.wellFormed (valid : source.WellFormed) : copied.WellFormed := by
  induction copies with
  | done => trivial
  | skipFile _ _ ih | special _ ih => exact ih valid.2.2
  | skipDirectory _ _ ih => exact ih valid.2.2.2
  | file _ _ later ih =>
    obtain ⟨named, fresh, valid⟩ := valid
    exact ⟨named, fun member => fresh (later.names _ member), ih valid⟩
  | directory _ _ later ihInside ih =>
    obtain ⟨named, fresh, validChildren, valid⟩ := valid
    exact ⟨named, fun member => fresh (later.names _ member), ihInside validChildren, ih valid⟩

/-- The copy has the regular files of the original, the skipped ones apart, and no others even through links. -/
theorem Copies.contentAt {follow : Bool} {head : FileName} {tail : Path} (valid : source.WellFormed) :
    copied.contentAt follow (head :: tail) =
      if skips includeManifest (current ++ [head]) then none else source.fileAt (head :: tail) := by
  induction copies generalizing head tail with
  | done => simp [Listing.contentAt]
  | @skipFile _ name _ _ _ _ skipped _ ih =>
    rw [ih valid.2.2]
    by_cases same : head = name
    · simp [same, skipped]
    · simp [Listing.contentAt, Listing.fileAt, same]
  | @skipDirectory _ name _ _ _ _ skipped _ ih =>
    rw [ih valid.2.2.2]
    by_cases same : head = name
    · simp [same, skipped]
    · simp [Listing.contentAt, Listing.fileAt, same]
  | @file _ name _ _ _ _ _ kept _ _ ih =>
    by_cases same : head = name
    · simp [Listing.contentAt, same, kept]
    · simp only [Listing.contentAt, List.head?_cons, Option.some.injEq, same, if_false]
      exact ih valid.2.2
  | @directory current name _ _ _ _ _ _ kept _ _ ihInside ih =>
    by_cases same : head = name
    · simp only [Listing.contentAt, same, List.head?_cons, if_true, List.tail_cons, kept]
      cases tail with
      | nil => simp [Listing.contentAt_nil]
      | cons next tail => rw [ihInside valid.2.2.1, if_neg (by rw [skips_deep]; simp), if_neg (by simp)]
    · simp only [Listing.contentAt, List.head?_cons, Option.some.injEq, same, if_false]
      exact ih valid.2.2.2
  | @special _ name _ _ _ _ ih =>
    obtain ⟨_, fresh, valid⟩ := valid
    rw [ih valid]
    by_cases same : head = name
    · rw [same]
      simp [Listing.contentAt, Listing.contentAt_of_notMem fresh]
    · simp [Listing.contentAt, same]

theorem Copies.again (inclusion : Bool) : ∃ result, copyTreeInner x inclusion current copied = .ok result := by
  have copied_again : ∃ twice listed, Copies x inclusion current copied twice listed := by
    induction copies with
    | done => exact ⟨_, _, .done⟩
    | skipFile _ _ ih | skipDirectory _ _ ih | special _ ih => exact ih
    | @file current name _ _ _ _ _ _ lists _ ih =>
      obtain ⟨_, _, again⟩ := ih
      cases omitted : skips inclusion (current ++ [name]) with
      | true => exact ⟨_, _, .skipFile omitted again⟩
      | false => exact ⟨_, _, .file omitted lists again⟩
    | @directory current name _ _ _ _ _ _ _ _ _ ihInside ih =>
      obtain ⟨_, _, inner⟩ := ihInside
      obtain ⟨_, _, again⟩ := ih
      cases omitted : skips inclusion (current ++ [name]) with
      | true => exact ⟨_, _, .skipDirectory omitted again⟩
      | false => exact ⟨_, _, .directory omitted inner again⟩
  obtain ⟨twice, listed, again⟩ := copied_again
  exact ⟨_, run_of_copies again⟩

end

section
variable (copies : Copies x true current source copied files)

include copies

theorem Copies.unlinked {path : Path} : source.contentAt true path = source.fileAt path := by
  induction copies generalizing path with
  | done => rfl
  | skipFile skipped | skipDirectory skipped => cases skipped
  | file _ _ _ ih | special _ ih =>
    simp only [Listing.contentAt]
    rw [ih]
  | directory _ _ _ ihInside ih =>
    simp only [Listing.contentAt]
    rw [ih, ihInside]

theorem Copies.mem_files {file : BackupFile} (valid : source.WellFormed) :
    file ∈ files ↔ ∃ path content, source.fileAt path = some content ∧ file.Lists x (current ++ path) content := by
  induction copies with
  | done => simp [Listing.contentAt]
  | skipFile skipped | skipDirectory skipped => cases skipped
  | @file current name content rest _ _ entry _ lists _ ih =>
    obtain ⟨_, fresh, valid⟩ := valid
    have others := ih valid
    simp only [List.mem_cons, others]
    constructor
    · intro member
      rcases member with rfl | ⟨path, inner, present, listed⟩
      · exact ⟨[name], content, by simp [Listing.contentAt], lists⟩
      · have other : path.head? ≠ some name := fresh.elim ∘ Listing.head_mem_names present
        exact ⟨path, inner, by simpa [Listing.contentAt, other] using present, listed⟩
    · intro member
      obtain ⟨path, inner, present, listed⟩ := member
      by_cases same : path.head? = some name
      · left
        obtain ⟨tail, rfl⟩ := List.head?_eq_some_iff.mp same
        simp only [Listing.contentAt, List.head?_cons, if_true, List.tail_cons] at present
        cases tail with
        | cons next tail => simp at present
        | nil =>
          have equal : content = inner := by simpa using present
          subst equal
          exact BackupFile.Lists.unique listed lists
      · right
        exact ⟨path, inner, by simpa [Listing.contentAt, same] using present, listed⟩
  | @directory current name children rest _ _ _ _ _ _ _ ihInside ih =>
    obtain ⟨_, fresh, validChildren, valid⟩ := valid
    have inner := ihInside validChildren
    have others := ih valid
    simp only [List.mem_append, inner, others]
    constructor
    · intro member
      rcases member with ⟨path, content, present, listed⟩ | ⟨path, content, present, listed⟩
      · exact ⟨name :: path, content, by simpa [Listing.contentAt] using present, by simpa using listed⟩
      · have other : path.head? ≠ some name := fresh.elim ∘ Listing.head_mem_names present
        exact ⟨path, content, by simpa [Listing.contentAt, other] using present, listed⟩
    · intro member
      obtain ⟨path, content, present, listed⟩ := member
      by_cases same : path.head? = some name
      · left
        obtain ⟨tail, rfl⟩ := List.head?_eq_some_iff.mp same
        exact ⟨tail, content, by simpa [Listing.contentAt] using present, by simpa using listed⟩
      · right
        exact ⟨path, content, by simpa [Listing.contentAt, same] using present, listed⟩
  | @special current name rest _ _ _ ih =>
    obtain ⟨_, fresh, valid⟩ := valid
    have others := ih valid
    have same {path : Path} {content : List UInt8} :
        Listing.fileAt (.special name rest) path = some content ↔ rest.fileAt path = some content := by
      by_cases first : path.head? = some name
      · obtain ⟨tail, rfl⟩ := List.head?_eq_some_iff.mp first
        simp [Listing.contentAt, Listing.contentAt_of_notMem fresh]
      · simp [Listing.contentAt, first]
    simp only [same]
    exact others

end

theorem copyTreeInner_putFile {content : List UInt8} :
    copyTreeInner x false [] (source.putFile manifestFile content) = copyTreeInner x false [] source := by
  have skipped : skips false ([] ++ [manifestFile]) = true := by decide
  have passes {old : List UInt8} {rest : Listing} :
      copyTreeInner x false [] (.file manifestFile old rest) = copyTreeInner x false [] rest := by
    rw [copyTreeInner, if_pos skipped]
  induction source with
  | done => rw [Listing.putFile, passes]
  | file name old rest ih =>
    by_cases same : name = manifestFile
    · rw [Listing.putFile, if_pos same, same, passes, passes]
    · rw [Listing.putFile, if_neg same, copyTreeInner, copyTreeInner, ih]
  | directory name children rest _ ih => rw [Listing.putFile, copyTreeInner, copyTreeInner, ih]
  | symlink name target rest _ => rfl
  | special name rest ih => rw [Listing.putFile, copyTreeInner, copyTreeInner, ih]

end Hangar
