import Hangar.Lib.Directory

/-! The directories inside a directory, and the names of a whole tree. -/

namespace Lib

def FileName.Plain : FileName → Prop
  | .utf8 text => '\\' ∉ text.toList
  | .raw _ => False

namespace Listing

variable {follow : Bool} {listing : Listing}

def directories : Listing → List (FileName × Listing)
  | .done => []
  | .file _ _ rest => rest.directories
  | .directory name children rest => (name, children) :: rest.directories
  | .symlink _ _ rest => rest.directories
  | .special _ rest => rest.directories

def child (name : FileName) : Listing → Option Listing
  | .done => none
  | .file other _ rest => if other = name then none else rest.child name
  | .directory other children rest => if other = name then some children else rest.child name
  | .symlink other _ rest => if other = name then none else rest.child name
  | .special other rest => if other = name then none else rest.child name

def entryNames : Listing → List FileName
  | .done => []
  | .file name _ rest => name :: rest.entryNames
  | .directory name children rest => name :: (children.entryNames ++ rest.entryNames)
  | .symlink name _ rest => name :: rest.entryNames
  | .special name rest => name :: rest.entryNames

theorem entryNames_of_contentAt {path : Path} {content : List UInt8}
    (present : listing.contentAt follow path = some content) : ∀ name ∈ path, name ∈ listing.entryNames := by
  induction listing generalizing path with
  | done => cases present
  | file other _ rest ih =>
    intro name member
    unfold contentAt at present
    split at present
    · next first =>
      split at present
      · next single =>
        obtain ⟨tail, rfl⟩ := List.head?_eq_some_iff.mp first
        have alone : tail = [] := by
          simpa using single
        rw [alone, List.mem_singleton] at member
        rw [member]
        exact List.mem_cons_self
      · cases present
    · exact List.mem_cons_of_mem _ (ih present name member)
  | symlink other _ rest ih =>
    intro name member
    unfold contentAt at present
    split at present
    · next first =>
      split at present
      · next single =>
        obtain ⟨tail, rfl⟩ := List.head?_eq_some_iff.mp first
        have alone : tail = [] := by
          simpa using (Bool.and_eq_true_iff.mp single).2
        rw [alone, List.mem_singleton] at member
        rw [member]
        exact List.mem_cons_self
      · cases present
    · exact List.mem_cons_of_mem _ (ih present name member)
  | directory other children rest ihChildren ih =>
    intro name member
    unfold contentAt at present
    split at present
    · next first =>
      obtain ⟨tail, rfl⟩ := List.head?_eq_some_iff.mp first
      rcases List.mem_cons.mp member with rfl | below
      · exact List.mem_cons_self
      · exact List.mem_cons_of_mem _ (List.mem_append_left _ (ihChildren present name below))
    · exact List.mem_cons_of_mem _ (List.mem_append_right _ (ih present name member))
  | special other rest ih =>
    intro name member
    unfold contentAt at present
    split at present
    · cases present
    · exact List.mem_cons_of_mem _ (ih present name member)

section
variable {name next : FileName} {tail : Path} {children : Listing}

theorem contentAt_child : listing.contentAt follow (name :: next :: tail) =
    (listing.child name).bind fun children => children.contentAt follow (next :: tail) := by
  induction listing with
  | done => rfl
  | file other _ rest ih | symlink other _ rest ih | special other rest ih =>
    by_cases same : other = name
    · simp [contentAt, child, same]
    · simp [contentAt, child, same, Ne.symm same, ih]
  | directory other children rest _ ih =>
    by_cases same : other = name
    · simp [contentAt, child, same]
    · simp [contentAt, child, same, Ne.symm same, ih]

theorem child_putFile {file : FileName} {content : List UInt8} :
    (listing.putFile file content).child name = listing.child name := by
  induction listing with
  | done => simp [putFile, child]
  | file other _ rest ih =>
    unfold putFile
    split
    · next same => simp [child, same]
    · simp [child, ih]
  | directory other _ rest _ ih | symlink other _ rest ih | special other rest ih => simp [putFile, child, ih]

theorem mem_directories_of_child (found : listing.child name = some children) :
    (name, children) ∈ listing.directories := by
  induction listing with
  | done => cases found
  | file other _ rest ih | symlink other _ rest ih | special other rest ih =>
    unfold child at found
    split at found
    · cases found
    · exact ih found
  | directory other _ rest _ ih =>
    unfold child at found
    split at found
    · next same =>
      cases found
      rw [same]
      exact List.mem_cons_self
    · exact List.mem_cons_of_mem _ (ih found)

theorem name_mem_of_directories (listed : (name, children) ∈ listing.directories) :
    name ∈ listing.names := by
  induction listing with
  | done => cases listed
  | file other _ rest ih | symlink other _ rest ih | special other rest ih =>
    exact List.mem_cons_of_mem _ (ih listed)
  | directory other _ rest _ ih =>
    rcases List.mem_cons.mp listed with same | listed
    · cases same
      exact List.mem_cons_self
    · exact List.mem_cons_of_mem _ (ih listed)

theorem child_of_mem_directories (valid : listing.WellFormed)
    (listed : (name, children) ∈ listing.directories) : listing.child name = some children := by
  induction listing with
  | done => cases listed
  | file other _ rest ih | symlink other _ rest ih | special other rest ih =>
    have different : other ≠ name := by
      rintro rfl
      exact valid.2.1 (name_mem_of_directories listed)
    unfold child
    rw [if_neg different]
    exact ih valid.2.2 listed
  | directory other _ rest _ ih =>
    unfold child
    rcases List.mem_cons.mp listed with same | listed
    · cases same
      exact if_pos rfl
    · have different : other ≠ name := by
        rintro rfl
        exact valid.2.1 (name_mem_of_directories listed)
      rw [if_neg different]
      exact ih valid.2.2.2 listed

theorem child_wellFormed (valid : listing.WellFormed) (found : listing.child name = some children) :
    children.WellFormed := by
  induction listing with
  | done => cases found
  | file other _ rest ih | symlink other _ rest ih | special other rest ih =>
    unfold child at found
    split at found
    · cases found
    · exact ih valid.2.2 found
  | directory other _ rest _ ih =>
    unfold child at found
    split at found
    · cases found
      exact valid.2.2.1
    · exact ih valid.2.2.2 found

end

end Listing

end Lib
