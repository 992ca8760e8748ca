import Hangar.Lib.Text

/-! Directory trees and the paths of their files. -/

namespace Lib

/-- A file name, as a text where it is UTF-8. -/
inductive FileName where
  | utf8 (text : String)
  | raw (bytes : List UInt8)
deriving DecidableEq

abbrev Path : Type := List FileName

/-- The entries of a directory in the order `read_dir` lists them. A symbolic link has the content of the
    file it leads to, if it leads to one. -/
inductive Listing where
  | done
  | file (name : FileName) (content : List UInt8) (rest : Listing)
  | directory (name : FileName) (children rest : Listing)
  | symlink (name : FileName) (target : Option (List UInt8)) (rest : Listing)
  | special (name : FileName) (rest : Listing)
deriving DecidableEq

def FileName.Valid : FileName → Prop
  | .utf8 text => text ≠ "" ∧ text ≠ "." ∧ text ≠ ".." ∧ '/' ∉ text.toList
  | .raw _ => True

namespace Listing

def names : Listing → List FileName
  | .done => []
  | .file name _ rest => name :: rest.names
  | .directory name _ rest => name :: rest.names
  | .symlink name _ rest => name :: rest.names
  | .special name rest => name :: rest.names

def WellFormed : Listing → Prop
  | .done => True
  | .file name _ rest => name.Valid ∧ name ∉ rest.names ∧ rest.WellFormed
  | .directory name children rest => name.Valid ∧ name ∉ rest.names ∧ children.WellFormed ∧ rest.WellFormed
  | .symlink name _ rest => name.Valid ∧ name ∉ rest.names ∧ rest.WellFormed
  | .special name rest => name.Valid ∧ name ∉ rest.names ∧ rest.WellFormed

/-- The content of the file at a path; `follow` says whether a symbolic link counts as the file it leads to. -/
def contentAt (follow : Bool) : Listing → Path → Option (List UInt8)
  | .done, _ => none
  | .file name content rest, path =>
    if path.head? = some name then if path.tail.isEmpty then some content else none
    else rest.contentAt follow path
  | .directory name children rest, path =>
    if path.head? = some name then children.contentAt follow path.tail else rest.contentAt follow path
  | .symlink name target rest, path =>
    if path.head? = some name then if follow && path.tail.isEmpty then target else none
    else rest.contentAt follow path
  | .special name rest, path => if path.head? = some name then none else rest.contentAt follow path

abbrev fileAt (listing : Listing) (path : Path) : Option (List UInt8) := listing.contentAt false path

def admitsFile (name : FileName) : Listing → Bool
  | .done => true
  | .file other _ rest => other == name || rest.admitsFile name
  | .directory other _ rest => other != name && rest.admitsFile name
  | .symlink other _ rest => other != name && rest.admitsFile name
  | .special other rest => other != name && rest.admitsFile name

def putFile (name : FileName) (content : List UInt8) : Listing → Listing
  | .done => .file name content .done
  | .file other old rest =>
    if other = name then .file name content rest else .file other old (rest.putFile name content)
  | .directory other children rest => .directory other children (rest.putFile name content)
  | .symlink other target rest => .symlink other target (rest.putFile name content)
  | .special other rest => .special other (rest.putFile name content)

variable {follow : Bool} {listing : Listing}

theorem contentAt_nil : listing.contentAt follow [] = none := by
  induction listing with
  | done => rfl
  | file name content rest ih => simpa [contentAt] using ih
  | directory name children rest _ ih => simpa [contentAt] using ih
  | symlink name target rest ih => simpa [contentAt] using ih
  | special name rest ih => simpa [contentAt] using ih

theorem ne_nil_of_contentAt {path : Path} {content : List UInt8}
    (present : listing.contentAt follow path = some content) : path ≠ [] := by
  rintro rfl
  rw [contentAt_nil] at present
  cases present

theorem contentAt_of_notMem {name : FileName} {path : Path} (absent : name ∉ listing.names) :
    listing.contentAt follow (name :: path) = none := by
  induction listing with
  | done => rfl
  | file other content rest ih | directory other children rest _ ih | symlink other target rest ih
  | special other rest ih =>
    simp only [names, List.mem_cons, not_or] at absent
    simp [contentAt, absent.1, ih absent.2]

theorem head_mem_names {name : FileName} {path : Path} {content : List UInt8}
    (present : listing.contentAt follow path = some content) (first : path.head? = some name) : name ∈ listing.names := by
  obtain ⟨tail, rfl⟩ := List.head?_eq_some_iff.mp first
  by_contra absent
  rw [contentAt_of_notMem absent] at present
  cases present

theorem valid_of_contentAt {path : Path} {content : List UInt8} (valid : listing.WellFormed)
    (present : listing.contentAt follow path = some content) : ∀ name ∈ path, name.Valid := by
  induction listing generalizing path with
  | done => cases present
  | file other _ rest ih | symlink other _ rest ih =>
    simp only [contentAt] at present
    split at present
    · next first =>
      split at present
      · next single =>
        intro name member
        obtain ⟨tail, rfl⟩ := List.head?_eq_some_iff.mp first
        cases tail with
        | nil =>
          cases List.mem_singleton.mp member
          exact valid.1
        | cons next tail => simp at single
      · cases present
    · exact ih valid.2.2 present
  | directory other children rest ihChildren ih =>
    simp only [contentAt] at present
    split at present
    · next first =>
      intro name member
      obtain ⟨tail, rfl⟩ := List.head?_eq_some_iff.mp first
      rcases List.mem_cons.mp member with rfl | inside
      · exact valid.1
      · exact ihChildren valid.2.2.1 present name inside
    · exact ih valid.2.2.2 present
  | special other rest ih =>
    simp only [contentAt] at present
    split at present
    · cases present
    · exact ih valid.2.2 present

theorem putFile_contentAt {name head : FileName} {content : List UInt8} {tail : Path}
    (admitted : listing.admitsFile name = true) :
    (listing.putFile name content).contentAt follow (head :: tail) =
      if head = name then if tail.isEmpty then some content else none else listing.contentAt follow (head :: tail) := by
  induction listing with
  | done => simp [putFile, contentAt]
  | file other old rest ih =>
    by_cases same : other = name
    · by_cases first : head = name <;> simp [putFile, contentAt, same, first]
    · by_cases first : head = other <;> simp_all [putFile, contentAt, admitsFile]
  | directory other children rest _ ih | symlink other target rest ih | special other rest ih =>
    by_cases first : head = other <;> simp_all [putFile, contentAt, admitsFile]

theorem contentAt_below {name next : FileName} {tail : Path} (admitted : listing.admitsFile name = true) :
    listing.contentAt follow (name :: next :: tail) = none := by
  induction listing with
  | done => rfl
  | file other old rest ih =>
    by_cases same : name = other
    · simp [contentAt, same]
    · simp_all [contentAt, admitsFile, Ne.symm same]
  | directory other children rest _ ih | symlink other target rest ih | special other rest ih =>
    by_cases same : name = other <;> simp_all [contentAt, admitsFile]

theorem contentAt_below_file {name next : FileName} {tail : Path} {content : List UInt8}
    (present : listing.fileAt [name] = some content) : listing.contentAt follow (name :: next :: tail) = none := by
  induction listing with
  | done => rfl
  | file other old rest ih | symlink other target rest ih | special other rest ih =>
    by_cases same : name = other
    · simp [contentAt, same]
    · simp only [fileAt, contentAt, List.head?_cons, Option.some.injEq, same, if_false] at present ⊢
      exact ih present
  | directory other children rest _ ih =>
    by_cases same : name = other
    · simp [contentAt, contentAt_nil, same] at present
    · simp only [fileAt, contentAt, List.head?_cons, Option.some.injEq, same, if_false] at present ⊢
      exact ih present

end Listing

def joinPath : List String → String
  | [] => ""
  | [name] => name
  | name :: rest => name ++ "/" ++ joinPath rest

def components (text : String) : List String := split (fun c => c == '/') text

/-- The names that a relative path without `..` goes through, where it can end at a file. -/
def filePath (text : String) : Option Path :=
  let parts := components text
  match parts.getLast? with
  | some last =>
    if last = "" ∨ last = "." then none
    else some ((parts.filter fun part => part ≠ "" ∧ part ≠ ".").map FileName.utf8)
  | none => none

theorem mem_joinPath {names : List String} {c : Char} (member : c ∈ (joinPath names).toList) :
    c = '/' ∨ ∃ name ∈ names, c ∈ name.toList := by
  induction names with
  | nil => simp [joinPath] at member
  | cons name rest ih =>
    cases rest with
    | nil => exact .inr ⟨name, List.mem_cons_self, member⟩
    | cons next rest =>
      have unfolded : joinPath (name :: next :: rest) = name ++ "/" ++ joinPath (next :: rest) := rfl
      simp only [unfolded, String.toList_append, List.mem_append] at member
      rcases member with (first | slash) | later
      · exact .inr ⟨name, List.mem_cons_self, first⟩
      · left
        simpa using slash
      · rcases ih later with slash | ⟨other, listed, inside⟩
        · exact .inl slash
        · exact .inr ⟨other, List.mem_cons_of_mem _ listed, inside⟩

theorem head_joinPath {name : String} {rest : List String} (nonempty : name ≠ "") :
    (joinPath (name :: rest)).toList.head? = name.toList.head? := by
  have characters : name.toList ≠ [] := by simpa using nonempty
  obtain ⟨c, tail, spelled⟩ := List.exists_cons_of_ne_nil characters
  cases rest with
  | nil => rfl
  | cons next rest =>
    have unfolded : joinPath (name :: next :: rest) = name ++ "/" ++ joinPath (next :: rest) := rfl
    rw [unfolded]
    simp [spelled]

theorem components_joinPath {names : List String} (clear : ∀ name ∈ names, '/' ∉ name.toList)
    (nonempty : names ≠ []) : components (joinPath names) = names := by
  have single {name : String} (clear : '/' ∉ name.toList) :
      name.toList.splitOnP (fun c => c == '/') = [name.toList] := by
    apply List.splitOnP_eq_singleton
    intro c member
    have different : c ≠ '/' := fun same => clear (same ▸ member)
    simp [different]
  induction names with
  | nil => exact absurd rfl nonempty
  | cons name rest ih =>
    have first := clear name List.mem_cons_self
    cases rest with
    | nil =>
      unfold joinPath components split
      rw [single first]
      simp
    | cons next rest =>
      have later := ih (fun name member => clear name (List.mem_cons_of_mem _ member)) (by simp)
      have unfolded : joinPath (name :: next :: rest) = name ++ "/" ++ joinPath (next :: rest) := rfl
      have characters : (joinPath (name :: next :: rest)).toList =
          name.toList ++ '/' :: (joinPath (next :: rest)).toList := by
        rw [unfolded]
        simp
      unfold components split at later ⊢
      rw [characters, List.splitOnP_append_cons _ _ (by simp), single first, List.map_append, later]
      simp

theorem filePath_joinPath {names : List String} (valid : ∀ name ∈ names, (FileName.utf8 name).Valid)
    (nonempty : names ≠ []) : filePath (joinPath names) = some (names.map FileName.utf8) := by
  have parts := components_joinPath (fun name member => (valid name member).2.2.2) nonempty
  have last := valid _ (List.getLast_mem nonempty)
  have kept : names.filter (fun part => part ≠ "" ∧ part ≠ ".") = names := by
    apply List.filter_eq_self.mpr
    intro name member
    have named := valid name member
    simp [named.1, named.2.1]
  unfold filePath
  simp only [parts, List.getLast?_eq_some_getLast nonempty, kept]
  rw [if_neg]
  intro wrong
  rcases wrong with empty | dot
  · exact last.1 empty
  · exact last.2.1 dot

end Lib
