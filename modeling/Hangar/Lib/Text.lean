import Mathlib.Data.List.DropRight

/-! The text operations of Rust's standard library, under its names. -/

namespace Lib

def isWhitespace (c : Char) : Bool :=
  let n := c.toNat
  (9 ≤ n && n ≤ 13) || n == 0x20 || n == 0x85 || n == 0xA0 || n == 0x1680 ||
    (0x2000 ≤ n && n ≤ 0x200A) || n == 0x2028 || n == 0x2029 || n == 0x202F || n == 0x205F || n == 0x3000

def trim (s : String) : String :=
  String.ofList ((s.toList.dropWhile isWhitespace).rdropWhile isWhitespace)

def isBlank (s : String) : Bool := (trim s).isEmpty

def stripPrefix (start s : String) : Option String :=
  if start.toList.isPrefixOf s.toList then some (String.ofList (s.toList.drop start.toList.length)) else none

def split (separator : Char → Bool) (s : String) : List String :=
  (s.toList.splitOnP separator).map String.ofList

def splitWhitespace (s : String) : List String :=
  (split isWhitespace s).filter fun word => !word.isEmpty

/-- `str::split("\n\n")` on the characters of a text. -/
def splitBlankLines : List Char → List (List Char)
  | '\n' :: '\n' :: rest => [] :: splitBlankLines rest
  | c :: rest =>
    match splitBlankLines rest with
    | paragraph :: paragraphs => (c :: paragraph) :: paragraphs
    | [] => [[c]]
  | [] => [[]]

/-- `haystack.matches(term).count()` for a nonempty term; `skip` characters belong to the last match. -/
def countMatches (term : List Char) : Nat → List Char → Nat
  | _, [] => 0
  | skip + 1, _ :: rest => countMatches term skip rest
  | 0, c :: rest =>
    if term.isPrefixOf (c :: rest) then countMatches term (term.length - 1) rest + 1
    else countMatches term 0 rest

def bytes (s : String) : List UInt8 := s.toByteArray.data.toList

def isContinuation (b : UInt8) : Bool := 0x80 ≤ b && b ≤ 0xBF

def isSecond (lead b : UInt8) : Bool :=
  if lead == 0xE0 then 0xA0 ≤ b && b ≤ 0xBF
  else if lead == 0xED then 0x80 ≤ b && b ≤ 0x9F
  else if lead == 0xF0 then 0x90 ≤ b && b ≤ 0xBF
  else if lead == 0xF4 then 0x80 ≤ b && b ≤ 0x8F
  else isContinuation b

/-- The character that starts here, if it is well formed, and how many bytes after `lead` it takes.
    A malformed start takes its longest well-formed beginning. -/
def decodeFirst (lead : UInt8) (rest : List UInt8) : Option Char × Nat :=
  let payload (b : UInt8) : Nat := b.toNat % 64
  if lead < 0x80 then (some (Char.ofNat lead.toNat), 0)
  else if 0xC2 ≤ lead && lead ≤ 0xDF then
    match rest with
    | b :: _ =>
      if isContinuation b then (some (Char.ofNat (lead.toNat % 32 * 64 + payload b)), 1) else (none, 0)
    | [] => (none, 0)
  else if 0xE0 ≤ lead && lead ≤ 0xEF then
    match rest with
    | b :: c :: _ =>
      if !isSecond lead b then (none, 0)
      else if isContinuation c then
        (some (Char.ofNat (lead.toNat % 16 * 4096 + payload b * 64 + payload c)), 2)
      else (none, 1)
    | [b] => (none, if isSecond lead b then 1 else 0)
    | [] => (none, 0)
  else if 0xF0 ≤ lead && lead ≤ 0xF4 then
    match rest with
    | b :: c :: d :: _ =>
      if !isSecond lead b then (none, 0)
      else if !isContinuation c then (none, 1)
      else if isContinuation d then
        (some (Char.ofNat
          (lead.toNat % 8 * 262144 + payload b * 4096 + payload c * 64 + payload d)), 3)
      else (none, 2)
    | [b, c] => (none, if isSecond lead b then if isContinuation c then 2 else 1 else 0)
    | [b] => (none, if isSecond lead b then 1 else 0)
    | [] => (none, 0)
  else (none, 0)

/-- The characters of `String::from_utf8_lossy`; `skip` bytes belong to the last character. -/
def decodeLossy : Nat → List UInt8 → List Char
  | _, [] => []
  | skip + 1, _ :: rest => decodeLossy skip rest
  | 0, lead :: rest =>
    let first := decodeFirst lead rest
    first.1.getD (Char.ofNat 0xFFFD) :: decodeLossy first.2 rest

def fromUtf8Lossy (part : List UInt8) : String := String.ofList (decodeLossy 0 part)

theorem bytes_injective : Function.Injective bytes := by
  intro left right same
  have arrays : left.toByteArray = right.toByteArray := by
    apply ByteArray.ext
    exact Array.toList_inj.mp same
  exact String.toByteArray_inj.mp arrays

theorem isBlank_iff {s : String} : isBlank s = true ↔ ∀ c ∈ s.toList, isWhitespace c = true := by
  rw [isBlank, trim, String.isEmpty_iff]
  constructor
  · intro empty
    have trimmed := congrArg String.toList empty
    simp only [String.toList_ofList, String.toList_empty, List.rdropWhile_eq_nil_iff] at trimmed
    cases rest : s.toList.dropWhile isWhitespace with
    | nil => simpa [List.dropWhile_eq_nil_iff] using rest
    | cons c cs =>
      have first := List.head_dropWhile_not isWhitespace (l := s.toList) (by simp [rest])
      simp only [rest, List.head_cons] at first
      exact absurd (trimmed c (by simp [rest])) (by simp [first])
  · intro white
    have none : s.toList.dropWhile isWhitespace = [] := List.dropWhile_eq_nil_iff.mpr white
    simp [none]

/-- The text before the first separator determines, with the rest, both parts of a joined text. -/
theorem append_first_inj {α : Type} {separator : α} {first first' rest rest' : List α}
    (clear : separator ∉ first) (clear' : separator ∉ first') :
    first ++ separator :: rest = first' ++ separator :: rest' ↔ first = first' ∧ rest = rest' := by
  constructor
  · intro same
    induction first generalizing first' with
    | nil =>
      cases first' with
      | nil => simpa using same
      | cons c first' =>
        simp only [List.nil_append, List.cons_append, List.cons.injEq] at same
        exact absurd (same.1 ▸ List.mem_cons_self) clear'
    | cons c first ih =>
      cases first' with
      | nil =>
        simp only [List.nil_append, List.cons_append, List.cons.injEq] at same
        exact absurd (same.1 ▸ List.mem_cons_self) clear
      | cons c' first' =>
        simp only [List.cons_append, List.cons.injEq] at same
        obtain ⟨rfl, same⟩ := same
        simp only [List.mem_cons, not_or] at clear clear'
        obtain ⟨rfl, rfl⟩ := ih clear.2 clear'.2 same
        exact ⟨rfl, rfl⟩
  · rintro ⟨rfl, rfl⟩
    rfl

theorem append_last_inj {α : Type} {separator : α} {rest rest' last last' : List α}
    (clear : separator ∉ last) (clear' : separator ∉ last') :
    rest ++ separator :: last = rest' ++ separator :: last' ↔ rest = rest' ∧ last = last' := by
  have turned := @append_first_inj _ separator last.reverse last'.reverse rest.reverse rest'.reverse
    (by rwa [List.mem_reverse]) (by rwa [List.mem_reverse])
  rw [List.reverse_inj, List.reverse_inj] at turned
  rw [← List.reverse_inj]
  simpa [and_comm] using turned

theorem colon_inj {a a' b b' : String} (clear : ':' ∉ b.toList) (clear' : ':' ∉ b'.toList) :
    a ++ ":" ++ b = a' ++ ":" ++ b' ↔ a = a' ∧ b = b' := by
  rw [← String.toList_inj, ← String.toList_inj, ← @String.toList_inj b]
  simpa using @append_last_inj _ ':' a.toList a'.toList _ _ clear clear'

end Lib
