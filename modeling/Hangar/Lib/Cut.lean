import Hangar.Lib.Utf8

/-! Texts cut at blank lines and at byte positions, and the characters that survive it. -/

namespace Lib

section
variable {α : Type} {size : Nat}

theorem toChunks_go (positive : 0 < size) (items : List α) (part : Array α) (parts : Array (List α))
    (room : part.size ≤ size) : List.toChunks.go size items part parts = parts.toList ++
      (part.toList ++ items.take (size - part.size)) :: (items.drop (size - part.size)).toChunks size := by
  have restart (a : α) (rest : List α) : (a :: rest).toChunks size = List.toChunks.go size rest #[a] #[] := by
    cases size with
    | zero => omega
    | succ n => rfl
  induction items generalizing part parts with
  | nil => simp [List.toChunks.go, List.toChunks]
  | cons a items ih =>
    unfold List.toChunks.go
    by_cases full : part.size = size
    · have fresh : (#[a] : Array α).size ≤ size := positive
      rw [if_pos (beq_iff_eq.mpr full), full, Nat.sub_self, List.take_zero, List.drop_zero, restart,
        ih #[a] #[] fresh]
      have again := ih #[a] (parts.push part.toList) fresh
      simpa using again
    · rw [if_neg (by simpa using full), ih _ _ (by rw [Array.size_push]; omega)]
      have left : size - part.size = (size - (part.size + 1)) + 1 := by omega
      rw [Array.size_push, left, List.take_succ_cons, List.drop_succ_cons]
      simp

/-- The first part of a cut list, and the cut of what is left. -/
theorem toChunks_of_ne_nil (positive : 0 < size) {items : List α} (some : items ≠ []) :
    items.toChunks size = items.take size :: (items.drop size).toChunks size := by
  cases items with
  | nil => exact absurd rfl some
  | cons a items =>
    have first : (a :: items).toChunks size = List.toChunks.go size items #[a] #[] := by
      cases size with
      | zero => omega
      | succ n => rfl
    obtain ⟨n, rfl⟩ : ∃ n, size = n + 1 := ⟨size - 1, by omega⟩
    have fresh : (#[a] : Array α).size ≤ n + 1 := positive
    rw [first, toChunks_go positive items #[a] #[] fresh, List.take_succ_cons, List.drop_succ_cons]
    simp

theorem mem_toChunks (positive : 0 < size) {items part : List α} (member : part ∈ items.toChunks size) :
    part ≠ [] ∧ part.length ≤ size := by
  induction length : items.length using Nat.strongRecOn generalizing items with
  | ind n ih =>
    subst length
    by_cases empty : items = []
    · simp [empty, List.toChunks] at member
    · rw [toChunks_of_ne_nil positive empty] at member
      have shorter : (items.drop size).length < items.length := by
        have some := List.length_pos_iff.mpr empty
        rw [List.length_drop]
        omega
      rcases List.mem_cons.mp member with rfl | later
      · refine ⟨?_, List.length_take_le _ _⟩
        rw [ne_eq, List.take_eq_nil_iff]
        rintro (zero | none)
        · omega
        · exact empty none
      · exact ih _ shorter later rfl

end

section
variable {α : Type} {p : α → Bool}

theorem filter_dropWhile (items : List α) :
    (items.dropWhile p).filter (fun a => !p a) = items.filter fun a => !p a := by
  induction items with
  | nil => rfl
  | cons a items ih =>
    rw [List.dropWhile_cons]
    cases holds : p a with
    | true => simp [holds, ih]
    | false => simp

theorem filter_rdropWhile (items : List α) :
    (items.rdropWhile p).filter (fun a => !p a) = items.filter fun a => !p a := by
  rw [List.rdropWhile, List.filter_reverse, filter_dropWhile, List.filter_reverse, List.reverse_reverse]

end

def visible (s : String) : List Char := s.toList.filter fun c => !isWhitespace c

section
variable {s s' : String}

theorem visible_append : visible (s ++ s') = visible s ++ visible s' := by
  simp [visible]

theorem visible_trim : visible (trim s) = visible s := by
  simp only [visible, trim, String.toList_ofList]
  rw [filter_rdropWhile, filter_dropWhile]

theorem visible_eq_nil : visible s = [] ↔ isBlank s = true := by
  rw [isBlank_iff, visible, List.filter_eq_nil_iff]
  simp

theorem visible_splitBlankLines (chars : List Char) :
    (splitBlankLines chars).flatMap (fun paragraph => paragraph.filter fun c => !isWhitespace c) =
      chars.filter fun c => !isWhitespace c := by
  have newline : isWhitespace '\n' = true := by decide
  fun_induction splitBlankLines chars with
  | case1 rest ih =>
    simp [newline, ih]
  | case2 c rest _ paragraph paragraphs split ih =>
    rw [split, List.flatMap_cons] at ih
    rw [List.flatMap_cons, List.filter_cons, List.filter_cons, ← ih]
    split <;> rfl
  | case3 c rest _ split ih =>
    rw [split, List.flatMap_nil] at ih
    rw [List.flatMap_singleton, List.filter_cons, List.filter_cons, ← ih]
    rfl
  | case4 => rfl

end

section
variable {size offset : Nat} {chars chars' : List Char} {part tail : List UInt8}

def encode (chars : List Char) : List UInt8 := chars.flatMap String.utf8EncodeChar

@[simp] theorem encode_nil : encode [] = [] := rfl

@[simp] theorem encode_cons (c : Char) : encode (c :: chars) = String.utf8EncodeChar c ++ encode chars := rfl

@[simp] theorem encode_append : encode (chars ++ chars') = encode chars ++ encode chars' := List.flatMap_append

theorem decodeLossy_encode (chars : List Char) (rest : List UInt8) : decodeLossy 0 (encode chars ++ rest) = chars ++ decodeLossy 0 rest :=
  decodeLossy_chars chars rest

theorem decodeLossy_encode_nil : decodeLossy 0 (encode chars) = chars := by
  have whole := decodeLossy_encode chars []
  rwa [List.append_nil, decodeLossy, List.append_nil] at whole

/-- The characters that come out of well-formed text cut into parts of so many bytes. -/
def recut (size : Nat) (part : List UInt8) : List Char := (part.toChunks size).flatMap (decodeLossy 0)

/-- No character straddles a multiple of the size. -/
def Aligned (size : Nat) (chars : List Char) : Prop := ∀ before c after, chars = before ++ c :: after →
  ∀ k, (encode before).length < k * size → (encode before).length + (String.utf8EncodeChar c).length ≤ k * size

def countVisible (chars : List Char) : Nat := chars.countP fun c => !isWhitespace c

theorem recut_short (positive : 0 < size) (short : part.length ≤ size) : recut size part = decodeLossy 0 part := by
  unfold recut
  by_cases none : part = []
  · rw [none]
    rfl
  · rw [toChunks_of_ne_nil positive none, List.take_of_length_le short, List.drop_of_length_le short]
    simp [List.toChunks]

theorem recut_append (positive : 0 < size) (full : part.length = size) :
    recut size (part ++ tail) = decodeLossy 0 part ++ recut size tail := by
  have some : part ++ tail ≠ [] := by
    intro none
    rw [List.append_eq_nil_iff] at none
    rw [none.1, List.length_nil] at full
    omega
  unfold recut
  rw [toChunks_of_ne_nil positive some, List.take_left' full, List.drop_left' full, List.flatMap_cons]

theorem exists_char_at (inside : offset < (encode chars).length) : ∃ before c after, chars = before ++ c :: after ∧
    (encode before).length ≤ offset ∧ offset < (encode before).length + (String.utf8EncodeChar c).length := by
  induction chars generalizing offset with
  | nil => simp at inside
  | cons first chars ih =>
    by_cases here : offset < (String.utf8EncodeChar first).length
    · exact ⟨[], first, chars, rfl, Nat.zero_le _, by simpa using here⟩
    · rw [encode_cons, List.length_append] at inside
      have later : offset - (String.utf8EncodeChar first).length < (encode chars).length := by omega
      obtain ⟨before, c, after, rfl, low, high⟩ := ih later
      refine ⟨first :: before, c, after, rfl, ?_, ?_⟩
      · rw [encode_cons, List.length_append]
        omega
      · rw [encode_cons, List.length_append]
        omega

/-- A character that is cut leaves a beginning, which is replaced once, and an end of continuation bytes. -/
theorem cut_char (c : Char) (inside : 0 < offset) (short : offset < (String.utf8EncodeChar c).length) :
    ∃ head tail, String.utf8EncodeChar c = head ++ tail ∧ head.length = offset ∧ tail ≠ [] ∧ tail.length ≤ 3 ∧
      decodeLossy 0 head = [replacement] ∧ ∀ b ∈ tail, isContinuation b = true := by
  obtain ⟨lead, follow, encoding⟩ := encoding_cons c
  obtain ⟨few, continues⟩ := tail_continues encoding
  rw [encoding, List.length_cons] at short
  obtain ⟨b, rest, left⟩ : ∃ b rest, follow.drop (offset - 1) = b :: rest := by
    cases left : follow.drop (offset - 1) with
    | nil =>
      have length := congrArg List.length left
      rw [List.length_drop, List.length_nil] at length
      omega
    | cons b rest => exact ⟨b, rest, rfl⟩
  have split : follow = follow.take (offset - 1) ++ b :: rest := by rw [← left, List.take_append_drop]
  refine ⟨lead :: follow.take (offset - 1), b :: rest, ?_, ?_, by simp, ?_, ?_, ?_⟩
  · rw [encoding, List.cons_append, ← split]
  · rw [List.length_cons, List.length_take]
    omega
  · rw [← left, List.length_drop]
    omega
  · rw [split] at encoding
    exact decodeLossy_head encoding
  · intro b' member
    rw [← left] at member
    exact continues b' (List.mem_of_mem_drop member)

theorem countVisible_append : countVisible (chars ++ chars') = countVisible chars + countVisible chars' :=
  List.countP_append

theorem countVisible_replaced {n : Nat} : countVisible (List.replicate n replacement) = n := by
  have seen : isWhitespace replacement = false := by decide
  simp [countVisible, List.countP_replicate, seen]

theorem countVisible_cons_le (c : Char) (chars : List Char) : countVisible (c :: chars) ≤ countVisible chars + 1 := by
  rw [countVisible, List.countP_cons, countVisible]
  split <;> omega

/-- Where the first cut of a text falls that starts with the end of a broken character. -/
inductive FirstCut (size : Nat) (tail : List UInt8) (chars : List Char) : Prop where
  | clean (before after : List Char) (same : chars = before ++ after)
      (full : tail.length + (encode before).length = size)
      (cut : recut size (tail ++ encode chars) =
        List.replicate tail.length replacement ++ before ++ recut size (encode after))
  | broken (before : List Char) (c : Char) (after : List Char) (rest : List UInt8)
      (same : chars = before ++ c :: after) (low : tail.length + (encode before).length < size)
      (high : size < tail.length + (encode before).length + (String.utf8EncodeChar c).length)
      (some : rest ≠ []) (few : rest.length ≤ 3) (continues : ∀ b ∈ rest, isContinuation b = true)
      (fewer : (rest ++ encode after).length + size = (tail ++ encode chars).length)
      (cut : recut size (tail ++ encode chars) =
        List.replicate tail.length replacement ++ before ++ replacement :: recut size (rest ++ encode after))

theorem firstCut (wide : 4 ≤ size) (continues : ∀ b ∈ tail, isContinuation b = true) (few : tail.length ≤ 3)
    (long : size < (tail ++ encode chars).length) : FirstCut size tail chars := by
  rw [List.length_append] at long
  have reached : size - tail.length < (encode chars).length := by omega
  obtain ⟨before, c, after, rfl, low, high⟩ := exists_char_at reached
  by_cases clean : (encode before).length = size - tail.length
  · have full : (tail ++ encode before).length = size := by
      rw [List.length_append]
      omega
    refine .clean before (c :: after) rfl (by omega) ?_
    rw [encode_append, ← List.append_assoc, recut_append (by omega) full, decodeLossy_tail continues,
      decodeLossy_encode_nil]
  · have within : 0 < size - tail.length - (encode before).length := by omega
    obtain ⟨head, rest, encoding, reach, some, few', replaced, continues'⟩ := cut_char c within (by omega)
    have full : (tail ++ encode before ++ head).length = size := by
      rw [List.length_append, List.length_append, reach]
      omega
    have bytes : tail ++ encode (before ++ c :: after) =
        (tail ++ encode before ++ head) ++ (rest ++ encode after) := by
      rw [encode_append, encode_cons, encoding]
      simp only [List.append_assoc]
    refine .broken before c after rest rfl (by omega) (by omega) some few' continues' ?_ ?_
    · have lengths := congrArg List.length bytes
      simp only [List.length_append] at lengths full ⊢
      omega
    · rw [bytes, recut_append (by omega) full, List.append_assoc, decodeLossy_tail continues, decodeLossy_encode,
        replaced]
      simp

/-- Cutting never hides characters: each end of a broken one comes out as its bytes, replaced. -/
theorem countVisible_recut (wide : 4 ≤ size) (continues : ∀ b ∈ tail, isContinuation b = true)
    (few : tail.length ≤ 3) :
    tail.length + countVisible chars ≤ countVisible (recut size (tail ++ encode chars)) := by
  induction length : (tail ++ encode chars).length using Nat.strongRecOn generalizing chars tail with
  | ind n ih =>
    subst length
    by_cases short : (tail ++ encode chars).length ≤ size
    · rw [recut_short (by omega) short, decodeLossy_tail continues, decodeLossy_encode_nil, countVisible_append,
        countVisible_replaced]
    · cases firstCut wide continues few (Nat.not_le.mp short) with
      | clean before after same full cut =>
        have fewer : (encode after).length < (tail ++ encode chars).length := by
          rw [same, encode_append, List.length_append, List.length_append]
          omega
        have later : ([] : List UInt8).length + countVisible after ≤ countVisible (recut size ([] ++ encode after)) :=
          ih (encode after).length fewer (by simp) (by simp) rfl
        rw [List.nil_append, List.length_nil] at later
        rw [cut, same, countVisible_append, countVisible_append, countVisible_append, countVisible_replaced]
        omega
      | broken before c after rest same low high some few' continues' fewer cut =>
        have later : rest.length + countVisible after ≤ countVisible (recut size (rest ++ encode after)) :=
          ih _ (by omega) continues' few' rfl
        have bound := countVisible_cons_le c after
        have positive := List.length_pos_iff.mpr some
        have one (chars : List Char) : countVisible (replacement :: chars) = countVisible chars + 1 :=
          List.countP_cons_of_pos (by decide)
        rw [cut, same, countVisible_append, countVisible_append, countVisible_append, countVisible_replaced, one]
        omega

theorem Aligned.recut (wide : 4 ≤ size) (aligned : Aligned size chars) : recut size (encode chars) = chars := by
  induction length : (encode chars).length using Nat.strongRecOn generalizing chars with
  | ind n ih =>
    subst length
    by_cases short : (encode chars).length ≤ size
    · rw [recut_short (by omega) short, decodeLossy_encode_nil]
    · have long : size < ([] ++ encode chars).length := Nat.not_le.mp short
      cases firstCut wide (by simp) (by simp) long with
      | clean before after same full cut =>
        rw [List.length_nil, Nat.zero_add] at full
        have later : Aligned size after := by
          intro before' c after' split k low
          have moved := aligned (before ++ before') c after' (by rw [same, split, List.append_assoc]) (k + 1)
          rw [encode_append, List.length_append, Nat.succ_mul] at moved
          omega
        have fewer : (encode after).length < (encode chars).length := by
          rw [same, encode_append, List.length_append]
          omega
        rw [List.nil_append, ih _ fewer later rfl] at cut
        rw [cut, same]
        rfl
      | broken before c after rest same low high =>
        have inside := aligned before c after same 1
        rw [List.length_nil] at low high
        omega

theorem aligned_of_length (short : (encode chars).length ≤ size) : Aligned size chars := by
  intro before c after split k low
  rw [split, encode_append, encode_cons, List.length_append, List.length_append] at short
  have one : 1 ≤ k := by
    rcases Nat.eq_zero_or_pos k with rfl | positive
    · omega
    · exact positive
  have first := Nat.mul_le_mul_right size one
  omega

theorem aligned_of_countVisible (wide : 4 ≤ size)
    (same : countVisible (recut size (encode chars)) ≤ countVisible chars) : Aligned size chars := by
  induction length : (encode chars).length using Nat.strongRecOn generalizing chars with
  | ind n ih =>
    subst length
    by_cases short : (encode chars).length ≤ size
    · exact aligned_of_length short
    · have long : size < ([] ++ encode chars).length := Nat.not_le.mp short
      cases firstCut wide (by simp) (by simp) long with
      | clean before after split full cut =>
        rw [List.length_nil, Nat.zero_add] at full
        have fewer : (encode after).length < (encode chars).length := by
          rw [split, encode_append, List.length_append]
          omega
        have fewer' : countVisible (recut size (encode after)) ≤ countVisible after := by
          rw [List.nil_append, split] at cut
          rw [split, cut, countVisible_append, countVisible_append, countVisible_append] at same
          omega
        have later := ih (encode after).length fewer fewer' rfl
        intro before' c after' split' k low
        have one : 1 ≤ k := by
          rcases Nat.eq_zero_or_pos k with rfl | positive
          · omega
          · exact positive
        have first := Nat.mul_le_mul_right size one
        rcases List.append_eq_append_iff.mp (split.symm.trans split') with ⟨gap, rfl, tail⟩ | ⟨gap, rfl, tail⟩
        · rw [encode_append, List.length_append] at low ⊢
          obtain ⟨k, rfl⟩ : ∃ k', k = k' + 1 := ⟨k - 1, by omega⟩
          rw [Nat.succ_mul] at low ⊢
          have inside := later gap c after' tail k (by omega)
          omega
        · cases gap with
          | nil =>
            obtain ⟨k, rfl⟩ : ∃ k', k = k' + 1 := ⟨k - 1, by omega⟩
            rw [List.append_nil] at full
            rw [Nat.succ_mul] at low ⊢
            have inside := later [] c after' tail.symm k
            rw [encode_nil, List.length_nil] at inside
            omega
          | cons c' gap =>
            cases tail
            rw [encode_append, encode_cons, List.length_append, List.length_append] at full
            omega
      | broken before c after rest split low high some few continues fewer cut =>
        have later : rest.length + countVisible after ≤ countVisible (recut size (rest ++ encode after)) :=
          countVisible_recut wide continues few
        have positive := List.length_pos_iff.mpr some
        have bound := countVisible_cons_le c after
        have one (chars : List Char) : countVisible (replacement :: chars) = countVisible chars + 1 :=
          List.countP_cons_of_pos (by decide)
        rw [List.nil_append] at cut
        rw [cut, split, countVisible_append, countVisible_append, countVisible_append, countVisible_replaced,
          one] at same
        omega

end
end Lib
