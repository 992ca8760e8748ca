import Hangar.Lib.Text
import Mathlib.Tactic.IntervalCases

/-! URLs of the schemes `http` and `https`, as the WHATWG URL standard parses them, and the form-encoded pairs of
    their queries. -/

namespace Lib

/-- The special schemes read a backslash as a slash. -/
def isPathSeparator (c : Char) : Bool := c == '/' || c == '\\'

def endsPath (c : Char) : Bool := c == '?' || c == '#'

def isTabOrNewline (c : Char) : Bool := c == '\t' || c == '\n' || c == '\r'

def isControlOrSpace (c : Char) : Bool := c.toNat ≤ 0x20

def percentEncodeByte (b : UInt8) : List Char :=
  ['%', (Nat.digitChar (b.toNat / 16)).toUpper, (Nat.digitChar (b.toNat % 16)).toUpper]

/-- One character under a percent-encode set, which all characters after `~` belong to. -/
def percentEncodeChar (inSet : Char → Bool) (c : Char) : List Char :=
  if c.toNat ≤ 0x1F || 0x7E < c.toNat || inSet c then (bytes (String.ofList [c])).flatMap percentEncodeByte else [c]

def inQuerySet (c : Char) : Bool := [' ', '"', '#', '<', '>', '\''].contains c

/-- The path percent-encode set of the WHATWG standard, which has `^`. -/
def inPathSet (c : Char) : Bool := [' ', '"', '#', '<', '>', '?', '^', '`', '\x7b', '\x7d'].contains c

def encodeSegment (segment : List Char) : String := String.ofList (segment.flatMap (percentEncodeChar inPathSet))

def toAsciiLowercase (text : String) : String := String.ofList (text.toList.map Char.toLower)

def isSingleDot (segment : String) : Bool := [".", "%2e"].contains (toAsciiLowercase segment)

def isDoubleDot (segment : String) : Bool := ["..", ".%2e", "%2e.", "%2e%2e"].contains (toAsciiLowercase segment)

/-- A segment that a slash ends. -/
def enterSegment (path : List String) (segment : String) : List String :=
  if isDoubleDot segment then path.dropLast else if isSingleDot segment then path else path ++ [segment]

def endSegment (path : List String) (segment : String) : List String :=
  if isDoubleDot segment then path.dropLast ++ [""] else if isSingleDot segment then path ++ [""] else path ++ [segment]

def walkPath (path : List String) : List String → List String
  | [] => path
  | [last] => endSegment path last
  | segment :: next :: rest => walkPath (enterSegment path segment) (next :: rest)

/-- What stands after the authority of a URL, up to the end of its text. -/
structure Reference where
  path : List Char
  query : Option (List Char)
  fragment : Option (List Char)
deriving DecidableEq

def readReference (text : List Char) : Reference :=
  let path := text.takeWhile fun c => !endsPath c
  match text.dropWhile fun c => !endsPath c with
  | [] => ⟨path, none, none⟩
  | '?' :: rest =>
    match rest.dropWhile (· != '#') with
    | [] => ⟨path, some rest, none⟩
    | _ :: fragment => ⟨path, some (rest.takeWhile (· != '#')), some fragment⟩
  | _ :: fragment => ⟨path, none, some fragment⟩

def segments (path : List Char) : List String := (path.splitOnP isPathSeparator).map encodeSegment

structure Url where
  scheme : String
  authority : String
  path : List String
  query : Option (List Char)
  fragment : Option (List Char)
deriving DecidableEq

/-- Controls and spaces around the text go, and so do tabs and line breaks in it. -/
def cleanUrl (text : List Char) : List Char :=
  ((text.dropWhile isControlOrSpace).rdropWhile isControlOrSpace).filter fun c => !isTabOrNewline c

/-- The text after the slashes that follow the scheme, and the scheme. -/
def splitScheme (text : List Char) : String × List Char :=
  (toAsciiLowercase (String.ofList (text.takeWhile (· != ':'))),
    ((text.dropWhile (· != ':')).drop 1).dropWhile isPathSeparator)

def inAuthority (c : Char) : Bool := !isPathSeparator c && !endsPath c

/-- `Url::parse`; `readAuthority` checks the user information, host and port and gives their serialization. -/
def Url.parse (readAuthority : List Char → Option String) (input : String) : Option Url :=
  let (scheme, located) := splitScheme (cleanUrl input.toList)
  let authority := located.takeWhile inAuthority
  if (scheme == "http" || scheme == "https") && !authority.isEmpty then do
    let origin ← readAuthority authority
    let reference := readReference (located.dropWhile inAuthority)
    some {
      scheme := scheme
      authority := origin
      path := walkPath [] (segments (reference.path.drop 1))
      query := reference.query.map fun query => query.flatMap (percentEncodeChar inQuerySet)
      fragment := reference.fragment }
  else none

def isUnreserved (c : Char) : Bool := c.isAlphanum || ['*', '-', '.', '_'].contains c

def serializeByte (b : UInt8) : List Char :=
  let c := Char.ofNat b.toNat
  if b == 0x20 then ['+'] else if b < 0x80 && isUnreserved c then [c] else percentEncodeByte b

/-- `form_urlencoded::byte_serialize`. -/
def serializePart (part : List UInt8) : List Char := part.flatMap serializeByte

/-- `query_pairs_mut().append_pair`. -/
def appendPair (query : List Char) (name value : String) : List Char :=
  (if query.isEmpty then [] else query ++ ['&']) ++ serializePart (bytes name) ++ '=' :: serializePart (bytes value)

def hexValue (c : Char) : Option Nat :=
  if '0' ≤ c ∧ c ≤ '9' then some (c.toNat - 48)
  else if 'A' ≤ c ∧ c ≤ 'F' then some (c.toNat - 55)
  else if 'a' ≤ c ∧ c ≤ 'f' then some (c.toNat - 87)
  else none

/-- A part of a form-encoded text: a plus is a space, and percent signs are undone. -/
def decodePart : List Char → List UInt8
  | '%' :: high :: low :: rest =>
    match hexValue high, hexValue low with
    | some h, some l => UInt8.ofNat (h * 16 + l) :: decodePart rest
    | _, _ => 0x25 :: decodePart (high :: low :: rest)
  | '+' :: rest => 0x20 :: decodePart rest
  | c :: rest => bytes (String.ofList [c]) ++ decodePart rest
  | [] => []

def readPair (piece : List Char) : List UInt8 × List UInt8 :=
  (decodePart (piece.takeWhile (· != '=')), decodePart ((piece.dropWhile (· != '=')).drop 1))

def queryPairs (query : List Char) : List (List UInt8 × List UInt8) :=
  ((query.splitOnP (· == '&')).filter fun piece => !piece.isEmpty).map readPair

section
variable {p : Char → Bool} {text rest : List Char}

theorem takeWhile_append_of_stop (stops : text.dropWhile p ≠ []) : (text ++ rest).takeWhile p = text.takeWhile p := by
  induction text with
  | nil => exact absurd rfl stops
  | cons c text ih =>
    cases passes : p c with
    | true =>
      rw [List.dropWhile_cons, if_pos passes] at stops
      simp [passes, ih stops]
    | false => simp [passes]

theorem dropWhile_append_of_stop (stops : text.dropWhile p ≠ []) :
    (text ++ rest).dropWhile p = text.dropWhile p ++ rest := by
  rw [List.dropWhile_append, if_neg]
  simpa using stops

theorem dropWhile_append_slash (stops : p '/' = false) :
    (text ++ '/' :: rest).dropWhile p = text.dropWhile p ++ '/' :: rest := by
  rw [List.dropWhile_append]
  split
  · next empty =>
    rw [List.isEmpty_iff] at empty
    simp [stops, empty]
  · rfl

theorem rdropWhile_append_slash (stops : p '/' = false) :
    (text ++ '/' :: rest).rdropWhile p = text ++ '/' :: rest.rdropWhile p := by
  have turned := @dropWhile_append_slash p rest.reverse text.reverse stops
  unfold List.rdropWhile
  rw [List.reverse_append, List.reverse_cons, List.append_assoc, List.singleton_append, turned]
  simp

end

def cleanEnd (text : List Char) : List Char := (text.rdropWhile isControlOrSpace).filter fun c => !isTabOrNewline c

theorem cleanUrl_slash {start rest : List Char} : cleanUrl (start ++ '/' :: rest) =
    (start.dropWhile isControlOrSpace).filter (fun c => !isTabOrNewline c) ++ '/' :: cleanEnd rest := by
  unfold cleanUrl cleanEnd
  rw [dropWhile_append_slash (by decide), rdropWhile_append_slash (by decide), List.filter_append,
    List.filter_cons_of_pos (by decide)]

theorem cleanEnd_slash {start rest : List Char} : cleanEnd (start ++ '/' :: rest) =
    start.filter (fun c => !isTabOrNewline c) ++ '/' :: cleanEnd rest := by
  unfold cleanEnd
  rw [rdropWhile_append_slash (by decide), List.filter_append, List.filter_cons_of_pos (by decide)]

section
variable {text rest : List Char}

theorem readReference_append (plain : ∀ c ∈ text, endsPath c = false) : readReference (text ++ rest) =
    { readReference rest with path := text ++ (readReference rest).path } := by
  have all : ∀ c ∈ text, (fun c => !endsPath c) c = true := by
    intro c member
    simp [plain c member]
  unfold readReference
  rw [List.takeWhile_append_of_pos all, List.dropWhile_append_of_pos all]
  split <;> (try split) <;> rfl

theorem readReference_plain (query : (readReference text).query = none)
    (fragment : (readReference text).fragment = none) : ∀ c ∈ text, endsPath c = false := by
  have empty : text.dropWhile (fun c => !endsPath c) = [] := by
    unfold readReference at query fragment
    split at query
    · next none => exact none
    · split at query <;> cases query
    · next other =>
      rw [other] at fragment
      simp at fragment
  intro c member
  have all := List.dropWhile_eq_nil_iff.mp empty c member
  simpa using all

theorem segments_slash : segments (text ++ '/' :: rest) = segments text ++ segments rest := by
  unfold segments
  rw [List.splitOnP_append_cons _ _ (by decide), List.map_append]

end

theorem segments_ne_nil {text : List Char} : segments text ≠ [] := by
  simp [segments, List.splitOnP_ne_nil]

theorem walkPath_append {path first rest : List String} (more : rest ≠ []) :
    walkPath path (first ++ rest) = walkPath (first.foldl enterSegment path) rest := by
  induction first generalizing path with
  | nil => rfl
  | cons segment first ih =>
    obtain ⟨next, later, split⟩ := List.exists_cons_of_ne_nil (List.append_ne_nil_of_right_ne_nil first more)
    rw [List.cons_append, split, walkPath, ← split, ih, List.foldl_cons]

/-- How far segments climb from where they start, and what they come down through. -/
structure Walk where
  up : Nat
  down : List String
deriving DecidableEq

def Walk.enter (w : Walk) (segment : String) : Walk :=
  if isDoubleDot segment then
    if w.down.isEmpty then { w with up := w.up + 1 } else { w with down := w.down.dropLast }
  else if isSingleDot segment then w
  else { w with down := w.down ++ [segment] }

def Walk.finish (w : Walk) (segment : String) : Walk :=
  if isDoubleDot segment || isSingleDot segment then { w.enter segment with down := (w.enter segment).down ++ [""] }
  else w.enter segment

def Walk.take (w : Walk) : List String → Walk
  | [] => w
  | [last] => w.finish last
  | segment :: next :: rest => (w.enter segment).take (next :: rest)

def Walk.apply (w : Walk) (path : List String) : List String := path.take (path.length - w.up) ++ w.down

section
variable {w : Walk} {path : List String} {segment : String}

theorem enterSegment_apply : enterSegment (w.apply path) segment = (w.enter segment).apply path := by
  unfold enterSegment Walk.enter Walk.apply
  split
  · split
    · next empty =>
      rw [List.isEmpty_iff] at empty
      rw [empty, List.append_nil, List.append_nil, List.dropLast_eq_take, List.take_take, List.length_take]
      congr 1
      dsimp only
      omega
    · next filled =>
      rw [List.isEmpty_iff] at filled
      rw [List.dropLast_append_of_ne_nil filled]
  · split
    · rfl
    · rw [List.append_assoc]

theorem endSegment_apply : endSegment (w.apply path) segment = (w.finish segment).apply path := by
  have entered := @enterSegment_apply w path segment
  unfold endSegment Walk.finish
  unfold enterSegment at entered
  cases double : isDoubleDot segment with
  | true =>
    simp only [double, if_true] at entered
    simp only [if_true, Bool.true_or]
    rw [entered, Walk.apply, Walk.apply, List.append_assoc]
  | false =>
    cases single : isSingleDot segment with
    | true =>
      simp only [double, single, if_true, Bool.false_eq_true, if_false] at entered
      simp only [if_true, Bool.false_or, Bool.false_eq_true, if_false]
      rw [entered, Walk.apply, Walk.apply, List.append_assoc]
    | false =>
      simp only [double, single, Bool.false_eq_true, if_false] at entered
      simp only [Bool.false_or, Bool.false_eq_true, if_false]
      exact entered

/-- A path is walked as far up and down as its segments go by themselves. -/
theorem walkPath_apply {path : List String} {steps : List String} :
    walkPath (w.apply path) steps = (w.take steps).apply path := by
  induction steps generalizing w with
  | nil => rfl
  | cons segment rest ih =>
    cases rest with
    | nil => exact endSegment_apply
    | cons next rest =>
      rw [walkPath, enterSegment_apply, ih]
      rfl

end

theorem walkPath_start {path steps : List String} :
    walkPath path steps = ((⟨0, []⟩ : Walk).take steps).apply path := by
  rw [← walkPath_apply]
  simp [Walk.apply]

theorem splitScheme_append {text rest : List Char} (located : (splitScheme text).2 ≠ []) :
    splitScheme (text ++ rest) = ((splitScheme text).1, (splitScheme text).2 ++ rest) := by
  unfold splitScheme at located ⊢
  dsimp only at located ⊢
  have colon : text.dropWhile (· != ':') ≠ [] := by
    intro absent
    rw [absent] at located
    exact located rfl
  rw [takeWhile_append_of_stop colon, dropWhile_append_of_stop colon]
  obtain ⟨c, after, split⟩ := List.exists_cons_of_ne_nil colon
  rw [split] at located ⊢
  rw [List.cons_append, List.drop_one, List.tail_cons] at *
  rw [dropWhile_append_of_stop located]
  rfl

theorem splitScheme_suffix {text : List Char} : (splitScheme text).2 <:+ text := by
  unfold splitScheme
  have first := List.dropWhile_suffix (l := text) (· != ':')
  have second := List.drop_suffix 1 (text.dropWhile (· != ':'))
  exact ((List.dropWhile_suffix _).trans second).trans first

theorem segments_directory {text : List Char} (ends : text = [] ∨ ∃ before, text = before ++ ['/']) :
    ∃ parents, ∀ rest, segments (text ++ rest) = parents ++ segments rest := by
  rcases ends with rfl | ⟨before, rfl⟩
  · exact ⟨[], fun _ => rfl⟩
  · refine ⟨segments before, fun rest => ?_⟩
    rw [List.append_assoc, List.singleton_append, segments_slash]

theorem ends_in_slash {before last text : List Char} (suffix : last <:+ text) (ends : text = before ++ ['/'])
    (filled : last ≠ []) : ∃ inside, last = inside ++ ['/'] := by
  rcases List.eq_nil_or_concat last with empty | ⟨inside, c, split⟩
  · exact absurd empty filled
  · obtain ⟨front, joined⟩ := suffix
    rw [split, ends, List.concat_eq_append, ← List.append_assoc] at joined
    have same := List.append_inj_right' joined rfl
    cases same
    exact ⟨inside, by rw [split, List.concat_eq_append]⟩

/-- The URL of a directory without query and fragment, and what stands below it: scheme and authority stay, and the
    path is walked on. -/
theorem Url.parse_below {readAuthority : List Char → Option String} {directory below : String} {root : Url}
    (parsed : Url.parse readAuthority (directory ++ "/") = some root) (query : root.query = none)
    (fragment : root.fragment = none) :
    Url.parse readAuthority (directory ++ "/" ++ below) = some {
      scheme := root.scheme
      authority := root.authority
      path := walkPath root.path.dropLast (segments (readReference (cleanEnd below.toList)).path)
      query := (readReference (cleanEnd below.toList)).query.map fun query =>
        query.flatMap (percentEncodeChar inQuerySet)
      fragment := (readReference (cleanEnd below.toList)).fragment } := by
  generalize rest : cleanEnd below.toList = below'
  have cleaned : cleanUrl (directory ++ "/" ++ below).toList = cleanUrl (directory ++ "/").toList ++ below' := by
    rw [← rest]
    simp only [String.toList_append]
    show cleanUrl (directory.toList ++ ['/'] ++ below.toList) = cleanUrl (directory.toList ++ '/' :: []) ++ _
    rw [List.append_assoc, List.singleton_append, cleanUrl_slash, cleanUrl_slash]
    simp [cleanEnd]
  have ends : cleanUrl (directory ++ "/").toList =
      (directory.toList.dropWhile isControlOrSpace).filter (fun c => !isTabOrNewline c) ++ ['/'] := by
    rw [String.toList_append]
    exact cleanUrl_slash
  unfold Url.parse at parsed ⊢
  rw [cleaned]
  generalize cleanUrl (directory ++ "/").toList = text at parsed ends ⊢
  dsimp only at parsed ⊢
  split at parsed
  · next accepted =>
    obtain ⟨origin, read, parsed⟩ := Option.bind_eq_some_iff.mp parsed
    have located : (splitScheme text).2 ≠ [] := by
      intro empty
      rw [empty] at accepted
      simp at accepted
    obtain ⟨inside, located'⟩ := ends_in_slash splitScheme_suffix ends located
    have stops : (splitScheme text).2.dropWhile inAuthority ≠ [] := by
      rw [located', List.dropWhile_append]
      split <;> simp [inAuthority, isPathSeparator]
    rw [splitScheme_append located]
    dsimp only
    rw [takeWhile_append_of_stop stops, dropWhile_append_of_stop stops, if_pos accepted, read]
    have suffix : (splitScheme text).2.dropWhile inAuthority <:+ text :=
      (List.dropWhile_suffix _).trans splitScheme_suffix
    have first := List.head_dropWhile_not inAuthority stops
    generalize (splitScheme text).2.dropWhile inAuthority = path at parsed stops suffix first ⊢
    cases parsed
    dsimp only at query fragment ⊢
    rw [Option.map_eq_none_iff] at query
    have plain := readReference_plain query fragment
    have whole : (readReference path).path = path := by
      have joined := @readReference_append path [] plain
      rw [List.append_nil] at joined
      rw [joined]
      simp [readReference]
    obtain ⟨c, after, rfl⟩ := List.exists_cons_of_ne_nil stops
    have below : after = [] ∨ ∃ before, after = before ++ ['/'] := by
      rcases after with _ | ⟨d, after⟩
      · exact .inl rfl
      · right
        exact ends_in_slash ((List.suffix_cons c _).trans suffix) ends (List.cons_ne_nil _ _)
    obtain ⟨parents, walked⟩ := segments_directory below
    rw [readReference_append plain, whole]
    simp only [List.cons_append, List.drop_one, List.tail_cons]
    have alone := walked []
    rw [List.append_nil] at alone
    rw [walked, alone, walkPath_append segments_ne_nil, walkPath_append segments_ne_nil]
    generalize parents.foldl enterSegment [] = path
    have back : (walkPath path (segments [])).dropLast = path := by
      show (endSegment path "").dropLast = path
      rw [endSegment, if_neg (by decide), if_neg (by decide), List.dropLast_concat]
    rw [back]
    rfl
  · cases parsed

theorem hexValue_digit {n : Nat} (small : n < 16) : hexValue (Nat.digitChar n).toUpper = some n := by
  interval_cases n <;> decide

theorem decodePart_percent {b : UInt8} {rest : List Char} :
    decodePart (percentEncodeByte b ++ rest) = b :: decodePart rest := by
  have bound := b.toNat_lt
  have high : b.toNat / 16 < 16 := by omega
  have low : b.toNat % 16 < 16 := by omega
  have joined : b.toNat / 16 * 16 + b.toNat % 16 = b.toNat := by omega
  simp [percentEncodeByte, decodePart, hexValue_digit high, hexValue_digit low, joined]

/-- Every byte as its serialization shows it: a plus, an unreserved character, or percent-encoded. -/
theorem serializeByte_shape {b : UInt8} : b = 0x20 ∧ serializeByte b = ['+'] ∨
    (∃ c, c ≠ '%' ∧ c ≠ '+' ∧ c ≠ '&' ∧ c ≠ '=' ∧ bytes (String.ofList [c]) = [b] ∧ serializeByte b = [c]) ∨
    serializeByte b = percentEncodeByte b := by
  unfold serializeByte
  dsimp only
  by_cases space : b = 0x20
  · left
    simp [space]
  · right
    by_cases kept : (b < 0x80 && isUnreserved (Char.ofNat b.toNat)) = true
    · left
      refine ⟨Char.ofNat b.toNat, ?_⟩
      rw [if_neg (by simpa using space), if_pos kept]
      have all : ∀ n : Fin 256, (UInt8.ofFin n < 0x80 && isUnreserved (Char.ofNat n)) = true →
          Char.ofNat n ≠ '%' ∧ Char.ofNat n ≠ '+' ∧ Char.ofNat n ≠ '&' ∧ Char.ofNat n ≠ '=' ∧
            bytes (String.ofList [Char.ofNat n]) = [UInt8.ofFin n] := by decide +kernel
      obtain ⟨percent, plus, ampersand, equals, encoded⟩ := all b.toFin kept
      exact ⟨percent, plus, ampersand, equals, encoded, rfl⟩
    · right
      rw [if_neg (by simpa using space), if_neg kept]

theorem decodePart_serializeByte {b : UInt8} {rest : List Char} :
    decodePart (serializeByte b ++ rest) = b :: decodePart rest := by
  rcases @serializeByte_shape b with ⟨rfl, shape⟩ | ⟨c, percent, plus, _, _, encoded, shape⟩ | shape
  · rw [shape]
    rfl
  · rw [shape, List.singleton_append, decodePart, encoded]
    · rfl
    · simp [percent]
    · exact plus
  · rw [shape, decodePart_percent]

theorem decodePart_serializePart {part : List UInt8} : decodePart (serializePart part) = part := by
  induction part with
  | nil => rfl
  | cons b part ih =>
    show decodePart (serializeByte b ++ serializePart part) = b :: part
    rw [decodePart_serializeByte, ih]

theorem serializePart_clear {part : List UInt8} : ∀ c ∈ serializePart part, c ≠ '&' ∧ c ≠ '=' := by
  intro c member
  obtain ⟨b, _, inside⟩ := List.mem_flatMap.mp member
  rcases @serializeByte_shape b with ⟨_, shape⟩ | ⟨d, _, _, ampersand, equals, _, shape⟩ | shape
  · rw [shape, List.mem_singleton] at inside
    rw [inside]
    decide
  · rw [shape, List.mem_singleton] at inside
    rw [inside]
    exact ⟨ampersand, equals⟩
  · rw [shape] at inside
    have all : ∀ n : Fin 256, ((percentEncodeByte (UInt8.ofFin n)).all fun c => c != '&' && c != '=') = true := by
      decide +kernel
    have here := List.all_eq_true.mp (all b.toFin) c inside
    simpa using here

theorem isTabOrNewline_control {c : Char} (plain : isControlOrSpace c = false) : isTabOrNewline c = false := by
  by_contra tab
  simp only [isTabOrNewline, Bool.not_eq_false, Bool.or_eq_true, beq_iff_eq] at tab
  rcases tab with (rfl | rfl) | rfl <;> exact absurd plain (by decide)

theorem cleanEnd_plain {text : List Char} (plain : ∀ c ∈ text, isControlOrSpace c = false) : cleanEnd text = text := by
  unfold cleanEnd
  have stays : text.rdropWhile isControlOrSpace = text := by
    rw [List.rdropWhile_eq_self_iff]
    intro present
    simp [plain _ (List.getLast_mem present)]
  rw [stays, List.filter_eq_self]
  intro c member
  simp [isTabOrNewline_control (plain c member)]

theorem readPair_serialize {name value : List UInt8} :
    readPair (serializePart name ++ '=' :: serializePart value) = (name, value) := by
  have clear : ∀ c ∈ serializePart name, (c != '=') = true := by
    intro c member
    simpa using (serializePart_clear c member).2
  unfold readPair
  rw [List.takeWhile_append_of_pos clear, List.dropWhile_append_of_pos clear]
  simp [decodePart_serializePart]

/-- A pair that is appended reads back, after those that were there. -/
theorem queryPairs_appendPair {query : List Char} {name value : String} :
    queryPairs (appendPair query name value) = queryPairs query ++ [(bytes name, bytes value)] := by
  generalize written : serializePart (bytes name) ++ '=' :: serializePart (bytes value) = piece
  have alone : queryPairs piece = [(bytes name, bytes value)] := by
    have clear : ∀ c ∈ piece, (c == '&') = false := by
      intro c member
      rw [← written, List.mem_append, List.mem_cons] at member
      rcases member with inside | rfl | inside
      · simpa using (serializePart_clear c inside).1
      · decide
      · simpa using (serializePart_clear c inside).1
    unfold queryPairs
    rw [List.splitOnP_eq_singleton (by simpa using clear)]
    simp [← written, readPair_serialize]
  unfold appendPair
  rw [List.append_assoc, written]
  split
  · next empty =>
    rw [List.isEmpty_iff] at empty
    rw [empty, List.nil_append, alone]
    rfl
  · unfold queryPairs at alone ⊢
    rw [List.append_assoc, List.singleton_append, List.splitOnP_append_cons _ _ (by decide), List.filter_append,
      List.map_append, alone]

theorem queryPairs_eq_nil {query : List Char} : queryPairs query = [] ↔ ∀ c ∈ query, c = '&' := by
  unfold queryPairs
  rw [List.map_eq_nil_iff, List.filter_eq_nil_iff]
  induction query with
  | nil => simp
  | cons c query ih =>
    rw [List.splitOnP_cons_eq_if_modifyHead]
    by_cases ampersand : c = '&'
    · simpa [ampersand] using ih
    · obtain ⟨first, rest, split⟩ := List.exists_cons_of_ne_nil (List.splitOnP_ne_nil (· == '&') query)
      simp [ampersand, split]

theorem bytes_character {c : Char} : bytes (String.ofList [c]) ≠ [] := by
  intro empty
  have same : String.ofList [c] = "" := bytes_injective (empty.trans (by decide))
  have listed := congrArg String.toList same
  simp at listed

theorem encodeSegment_ne_empty {segment : List Char} (filled : segment ≠ []) : encodeSegment segment ≠ "" := by
  obtain ⟨c, rest, rfl⟩ := List.exists_cons_of_ne_nil filled
  intro empty
  have listed := congrArg String.toList empty
  rw [encodeSegment, String.toList_ofList, List.flatMap_cons, String.toList_empty, List.append_eq_nil_iff] at listed
  have first := listed.1
  unfold percentEncodeChar at first
  split at first
  · obtain ⟨b, later, split⟩ := List.exists_cons_of_ne_nil (bytes_character (c := c))
    rw [split] at first
    simp [percentEncodeByte] at first
  · cases first

theorem percentEncodeChar_ampersand {c : Char} :
    (∀ d ∈ percentEncodeChar inQuerySet c, d = '&') ↔ c = '&' := by
  constructor
  · intro all
    unfold percentEncodeChar at all
    split at all
    · obtain ⟨b, later, split⟩ := List.exists_cons_of_ne_nil (bytes_character (c := c))
      rw [split] at all
      have percent := all '%' (by simp [percentEncodeByte])
      exact absurd percent (by decide)
    · exact all c List.mem_cons_self
  · rintro rfl d member
    have plain : percentEncodeChar inQuerySet '&' = ['&'] := by decide
    rw [plain] at member
    exact List.mem_singleton.mp member

end Lib
