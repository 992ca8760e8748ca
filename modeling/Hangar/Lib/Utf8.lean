import Hangar.Lib.Text

/-! What `String::from_utf8_lossy` makes of the pieces of well-formed UTF-8. -/

namespace Lib

/-- U+FFFD, which stands for each malformed sequence. -/
def replacement : Char := Char.ofNat 0xFFFD

variable {c : Char} {lead b b' b'' : UInt8} {tail part rest : List UInt8}

theorem toNat_byte {n : Nat} (small : n < 256) : (UInt8.ofNat n).toNat = n := by
  simp [UInt8.toNat_ofNat', Nat.mod_eq_of_lt small]

theorem ascii_iff : b < 0x80 ↔ b.toNat < 128 := UInt8.lt_iff_toNat_lt

theorem inRange_iff {low high : UInt8} :
    (decide (low ≤ b) && decide (b ≤ high)) = true ↔ low.toNat ≤ b.toNat ∧ b.toNat ≤ high.toNat := by
  simp [UInt8.le_iff_toNat_le]

theorem isContinuation_iff : isContinuation b = true ↔ 128 ≤ b.toNat ∧ b.toNat ≤ 191 := by
  simp [isContinuation, UInt8.le_iff_toNat_le]

theorem isSecond_iff : isSecond lead b = true ↔ 128 ≤ b.toNat ∧ b.toNat ≤ 191 ∧
    (lead.toNat = 0xE0 → 160 ≤ b.toNat) ∧ (lead.toNat = 0xED → b.toNat ≤ 159) ∧
    (lead.toNat = 0xF0 → 144 ≤ b.toNat) ∧ (lead.toNat = 0xF4 → b.toNat ≤ 143) := by
  simp only [isSecond, isContinuation, beq_iff_eq, ← UInt8.toNat_inj]
  split
  · rw [inRange_iff]
    simp only [UInt8.reduceToNat] at *
    omega
  · split
    · rw [inRange_iff]
      simp only [UInt8.reduceToNat] at *
      omega
    · split
      · rw [inRange_iff]
        simp only [UInt8.reduceToNat] at *
        omega
      · split
        · rw [inRange_iff]
          simp only [UInt8.reduceToNat] at *
          omega
        · rw [inRange_iff]
          simp only [UInt8.reduceToNat] at *
          omega

inductive Encoded (v : Nat) : List UInt8 → Prop where
  | one (lead : UInt8) (same : lead.toNat = v) (range : v ≤ 0x7F) : Encoded v [lead]
  | two (lead b : UInt8) (first : lead.toNat = v / 64 + 192) (second : b.toNat = v % 64 + 128)
      (range : 0x7F < v ∧ v ≤ 0x7FF) : Encoded v [lead, b]
  | three (lead b b' : UInt8) (first : lead.toNat = v / 4096 + 224) (second : b.toNat = v / 64 % 64 + 128)
      (third : b'.toNat = v % 64 + 128) (range : 0x7FF < v ∧ v ≤ 0xFFFF) (scalar : v < 0xD800 ∨ 0xDFFF < v) :
      Encoded v [lead, b, b']
  | four (lead b b' b'' : UInt8) (first : lead.toNat = v / 262144 + 240) (second : b.toNat = v / 4096 % 64 + 128)
      (third : b'.toNat = v / 64 % 64 + 128) (fourth : b''.toNat = v % 64 + 128)
      (range : 0xFFFF < v ∧ v < 0x110000) : Encoded v [lead, b, b', b'']

theorem encoded (c : Char) : Encoded c.toNat (String.utf8EncodeChar c) := by
  have scalar : c.val.toNat < 0xD800 ∨ 0xDFFF < c.val.toNat ∧ c.val.toNat < 0x110000 := c.valid
  show Encoded c.val.toNat (String.utf8EncodeChar c)
  unfold String.utf8EncodeChar
  dsimp only
  generalize c.val.toNat = v at scalar ⊢
  split
  · apply Encoded.one
    · exact toNat_byte (by omega)
    · omega
  · split
    · apply Encoded.two
      · rw [toNat_byte (by omega)]
        omega
      · exact toNat_byte (by omega)
      · omega
    · split
      · apply Encoded.three
        · rw [toNat_byte (by omega)]
          omega
        · exact toNat_byte (by omega)
        · exact toNat_byte (by omega)
        · omega
        · omega
      · apply Encoded.four
        · rw [toNat_byte (by omega)]
          omega
        · exact toNat_byte (by omega)
        · exact toNat_byte (by omega)
        · exact toNat_byte (by omega)
        · omega

theorem char_ofNat {n : Nat} (same : n = c.toNat) : Char.ofNat n = c := by
  rw [same, Char.ofNat_toNat]

/-- The decoder takes a whole encoded character, whatever follows it. -/
theorem decodeFirst_whole (encoding : String.utf8EncodeChar c = lead :: tail) :
    decodeFirst lead (tail ++ rest) = (some c, tail.length) := by
  have shape := encoded c
  rw [encoding] at shape
  unfold decodeFirst
  simp only [ascii_iff, inRange_iff, isContinuation_iff, Bool.not_eq_true', Bool.eq_false_iff, ne_eq, isSecond_iff,
    UInt8.reduceToNat]
  cases shape with
  | one _ same range =>
    rw [if_pos (by omega), char_ofNat same]
    rfl
  | two _ b first second range =>
    rw [if_neg (by omega), if_pos (by omega)]
    simp only [List.cons_append]
    rw [if_pos (by omega), char_ofNat (c := c) (by omega)]
    rfl
  | three _ b b' first second third range scalar =>
    rw [if_neg (by omega), if_neg (by omega), if_pos (by omega)]
    simp only [List.cons_append]
    rw [if_neg (by omega), if_pos (by omega), char_ofNat (c := c) (by omega)]
    rfl
  | four _ b b' b'' first second third fourth range =>
    rw [if_neg (by omega), if_neg (by omega), if_neg (by omega), if_pos (by omega)]
    simp only [List.cons_append]
    rw [if_neg (by omega), if_neg (by omega), if_pos (by omega), char_ofNat (c := c) (by omega)]
    rfl

theorem decodeFirst_broken (encoding : String.utf8EncodeChar c = lead :: (part ++ b :: rest)) :
    decodeFirst lead part = (none, part.length) := by
  have shape := encoded c
  rw [encoding] at shape
  generalize whole : lead :: (part ++ b :: rest) = enc at shape
  unfold decodeFirst
  simp only [ascii_iff, inRange_iff, isContinuation_iff, Bool.not_eq_true', Bool.eq_false_iff, ne_eq, isSecond_iff,
    UInt8.reduceToNat]
  cases shape with
  | one _ same range => simp at whole
  | two _ b first second range =>
    cases part with
    | nil =>
      cases whole
      rw [if_neg (by omega), if_pos (by omega)]
      rfl
    | cons p part => simp at whole
  | three _ b b' first second third range scalar =>
    match part with
    | [] =>
      cases whole
      rw [if_neg (by omega), if_neg (by omega), if_pos (by omega)]
      rfl
    | [_] =>
      cases whole
      rw [if_neg (by omega), if_neg (by omega), if_pos (by omega)]
      simp only
      rw [if_pos (by omega)]
      rfl
    | p :: p' :: part => simp at whole
  | four _ b b' b'' first second third fourth range =>
    match part with
    | [] =>
      cases whole
      rw [if_neg (by omega), if_neg (by omega), if_neg (by omega), if_pos (by omega)]
      rfl
    | [_] =>
      cases whole
      rw [if_neg (by omega), if_neg (by omega), if_neg (by omega), if_pos (by omega)]
      simp only
      rw [if_pos (by omega)]
      rfl
    | [_, _] =>
      cases whole
      rw [if_neg (by omega), if_neg (by omega), if_neg (by omega), if_pos (by omega)]
      simp only
      rw [if_pos (by omega), if_pos (by omega)]
      rfl
    | p :: p' :: p'' :: part => simp at whole

theorem tail_continues (encoding : String.utf8EncodeChar c = lead :: tail) :
    tail.length ≤ 3 ∧ ∀ b ∈ tail, isContinuation b = true := by
  have shape := encoded c
  rw [encoding] at shape
  cases shape with
  | one => simp
  | two _ b first second range =>
    have follows : isContinuation b = true := isContinuation_iff.mpr (by omega)
    simp [follows]
  | three _ b b' first second third range scalar =>
    have follows : isContinuation b = true := isContinuation_iff.mpr (by omega)
    have follows' : isContinuation b' = true := isContinuation_iff.mpr (by omega)
    simp [follows, follows']
  | four _ b b' b'' first second third fourth range =>
    have follows : isContinuation b = true := isContinuation_iff.mpr (by omega)
    have follows' : isContinuation b' = true := isContinuation_iff.mpr (by omega)
    have follows'' : isContinuation b'' = true := isContinuation_iff.mpr (by omega)
    simp [follows, follows', follows'']

theorem decodeFirst_continuation (continues : isContinuation b = true) : decodeFirst b rest = (none, 0) := by
  rw [isContinuation_iff] at continues
  unfold decodeFirst
  simp only [ascii_iff, inRange_iff, UInt8.reduceToNat]
  rw [if_neg (by omega), if_neg (by omega), if_neg (by omega), if_neg (by omega)]

theorem encoding_cons (c : Char) : ∃ lead tail, String.utf8EncodeChar c = lead :: tail := by
  have shape := encoded c
  generalize String.utf8EncodeChar c = enc at shape
  cases shape <;> exact ⟨_, _, rfl⟩

theorem decodeLossy_skip : decodeLossy part.length (part ++ rest) = decodeLossy 0 rest := by
  induction part with
  | nil => rfl
  | cons b part ih => exact ih

theorem decodeLossy_char (c : Char) (rest : List UInt8) :
    decodeLossy 0 (String.utf8EncodeChar c ++ rest) = c :: decodeLossy 0 rest := by
  obtain ⟨lead, tail, encoding⟩ := encoding_cons c
  rw [encoding, List.cons_append, decodeLossy]
  simp only [decodeFirst_whole encoding, Option.getD_some, decodeLossy_skip]

theorem decodeLossy_chars (chars : List Char) (rest : List UInt8) :
    decodeLossy 0 (chars.flatMap String.utf8EncodeChar ++ rest) = chars ++ decodeLossy 0 rest := by
  induction chars with
  | nil => rfl
  | cons c chars ih => rw [List.flatMap_cons, List.append_assoc, decodeLossy_char, ih, List.cons_append]

/-- Each byte of the end of a character is replaced. -/
theorem decodeLossy_tail (continues : ∀ b ∈ part, isContinuation b = true) (rest : List UInt8) :
    decodeLossy 0 (part ++ rest) = List.replicate part.length replacement ++ decodeLossy 0 rest := by
  induction part with
  | nil => rfl
  | cons b part ih =>
    rw [List.cons_append, decodeLossy]
    simp only [decodeFirst_continuation (continues b List.mem_cons_self), Option.getD_none, List.length_cons,
      List.replicate_succ, List.cons_append, ih fun b' member => continues b' (List.mem_cons_of_mem _ member)]
    rfl

theorem decodeLossy_head (encoding : String.utf8EncodeChar c = lead :: (part ++ b :: rest)) :
    decodeLossy 0 (lead :: part) = [replacement] := by
  rw [decodeLossy]
  simp only [decodeFirst_broken encoding, Option.getD_none]
  have skipped := @decodeLossy_skip part []
  rw [List.append_nil] at skipped
  rw [skipped]
  rfl

theorem decodeLossy_eq_nil : decodeLossy 0 part = [] ↔ part = [] := by
  cases part <;> simp [decodeLossy]

theorem length_decodeLossy_le (skip : Nat) (part : List UInt8) : (decodeLossy skip part).length ≤ part.length := by
  induction part generalizing skip with
  | nil => cases skip <;> rfl
  | cons b part ih =>
    cases skip with
    | zero =>
      rw [decodeLossy, List.length_cons, List.length_cons]
      exact Nat.succ_le_succ (ih _)
    | succ skip => exact Nat.le_succ_of_le (ih skip)

theorem bytes_ofList (chars : List Char) : bytes (String.ofList chars) = chars.flatMap String.utf8EncodeChar := by
  simp [bytes, List.utf8Encode]

theorem bytes_eq (s : String) : bytes s = s.toList.flatMap String.utf8EncodeChar := by
  rw [← bytes_ofList, String.ofList_toList]

theorem length_bytes (s : String) : (bytes s).length = s.utf8ByteSize := by
  simp [bytes]

theorem decodeLossy_bytes (s : String) : decodeLossy 0 (bytes s) = s.toList := by
  have whole := decodeLossy_chars s.toList []
  rwa [List.append_nil, ← bytes_eq, decodeLossy, List.append_nil] at whole

theorem length_le_size (s : String) : s.length ≤ s.utf8ByteSize := by
  have fewer := length_decodeLossy_le 0 (bytes s)
  rwa [decodeLossy_bytes, String.length_toList, length_bytes] at fewer

end Lib
