import Hangar.Ingestion.Chunks
import Hangar.Ingestion.Process

namespace Hangar

open Lib

/-- The chunks together hold the content but for whitespace, and each character of each paragraph. -/
structure Lossless (content : String) (maximumChars : Nat) : Prop where
  text : visible (String.join (chunkText content maximumChars)) = visible content
  characters : ∀ paragraph ∈ paragraphs content, ∀ c ∈ paragraph.toList,
    ∃ chunk ∈ chunkText content maximumChars, c ∈ chunk.toList

variable {maximumChars : Nat} {blocks : List Block} {block : Block} {content paragraph : String}
  {done packed : List String}

theorem visible_join (chunks : List String) : visible (String.join chunks) = chunks.flatMap visible := by
  simp only [visible, String.toList_join, List.filter_flatMap]
  rfl

theorem visible_packedText : visible (packedText packed) = packed.flatMap visible := by
  have separator : visible "\n\n" = [] := by decide
  induction packed with
  | nil => rfl
  | cons first rest ih =>
    cases rest with
    | nil => simp [packedText]
    | cons second rest =>
      rw [packedText] at ih
      rw [packedText, String.intercalate_cons_cons, visible_append, visible_append, separator, List.append_nil, ih]
      rfl

def Block.shown (maximumChars : Nat) (block : Block) : List Char := (block.chunks maximumChars).flatMap visible

def Block.held (block : Block) : List Char := block.paragraphs.flatMap visible

theorem encode_toList : encode paragraph.toList = bytes paragraph := (bytes_eq paragraph).symm

theorem toList_cut : ((Block.cut paragraph).chunks maximumChars).flatMap String.toList =
    recut maximumChars (encode paragraph.toList) := by
  rw [Block.chunks, List.flatMap_map, recut, encode_toList]
  simp only [fromUtf8Lossy, String.toList_ofList]

theorem length_shown_cut : ((Block.cut paragraph).shown maximumChars).length =
    countVisible (recut maximumChars (encode paragraph.toList)) := by
  rw [← toList_cut, Block.shown, countVisible, List.countP_eq_length_filter, List.filter_flatMap]
  rfl

theorem length_held_cut : (Block.cut paragraph).held.length = countVisible paragraph.toList := by
  rw [Block.held, Block.paragraphs, List.flatMap_singleton, countVisible, List.countP_eq_length_filter]
  rfl

theorem shown_packed : (Block.packed packed).shown maximumChars = (Block.packed packed).held := by
  rw [Block.shown, Block.chunks, List.flatMap_singleton, visible_packedText]
  rfl

theorem Block.length_held_le (wide : 4 ≤ maximumChars) (block : Block) :
    block.held.length ≤ (block.shown maximumChars).length := by
  cases block with
  | packed packed => rw [shown_packed]
  | cut paragraph =>
    have kept : ([] : List UInt8).length + countVisible paragraph.toList ≤
        countVisible (recut maximumChars ([] ++ encode paragraph.toList)) :=
      countVisible_recut wide (by simp) (by simp)
    rw [length_held_cut, length_shown_cut]
    simpa using kept

theorem length_flatMap_held_le (wide : 4 ≤ maximumChars) (blocks : List Block) :
    (blocks.flatMap Block.held).length ≤ (blocks.flatMap (Block.shown maximumChars)).length := by
  induction blocks with
  | nil => exact Nat.le_refl 0
  | cons block blocks ih =>
    have first := block.length_held_le wide
    rw [List.flatMap_cons, List.flatMap_cons, List.length_append, List.length_append]
    omega

theorem length_shown_le (wide : 4 ≤ maximumChars)
    (total : (blocks.flatMap (Block.shown maximumChars)).length ≤ (blocks.flatMap Block.held).length)
    (member : block ∈ blocks) : (block.shown maximumChars).length ≤ block.held.length := by
  obtain ⟨earlier, later, rfl⟩ := List.append_of_mem member
  have before := length_flatMap_held_le wide earlier
  have after := length_flatMap_held_le wide later
  simp only [List.flatMap_append, List.flatMap_cons, List.length_append] at total
  omega

theorem aligned_of_short (short : paragraph.utf8ByteSize ≤ maximumChars) :
    Aligned maximumChars paragraph.toList := by
  apply aligned_of_length
  rw [encode_toList, length_bytes]
  exact short

theorem Laid.aligned_of_shown (laid : Laid maximumChars done blocks) (wide : 4 ≤ maximumChars)
    (total : (blocks.flatMap (Block.shown maximumChars)).length ≤ (blocks.flatMap Block.held).length)
    (member : paragraph ∈ done) : Aligned maximumChars paragraph.toList := by
  rw [← laid.paragraphs] at member
  obtain ⟨block, listed, inside⟩ := List.mem_flatMap.mp member
  have own := length_shown_le wide total listed
  cases block with
  | packed packed =>
    have listed' : paragraph ∈ packed := inside
    obtain ⟨before, after, whole⟩ := packedText_mem listed'
    have size := congrArg String.utf8ByteSize whole
    rw [String.utf8ByteSize_append, String.utf8ByteSize_append] at size
    have short := (laid.packed packed listed).2
    exact aligned_of_short (by omega)
  | cut long =>
    obtain rfl := List.mem_singleton.mp inside
    rw [length_shown_cut, length_held_cut] at own
    exact aligned_of_countVisible wide own

theorem Block.toList_aligned (block : Block) (wide : 4 ≤ maximumChars)
    (aligned : ∀ paragraph ∈ block.paragraphs, Aligned maximumChars paragraph.toList) :
    block.shown maximumChars = block.held ∧ ∀ paragraph ∈ block.paragraphs, ∀ c ∈ paragraph.toList,
      ∃ chunk ∈ block.chunks maximumChars, c ∈ chunk.toList := by
  cases block with
  | packed packed =>
    refine ⟨shown_packed, ?_⟩
    intro paragraph member c inside
    have listed : paragraph ∈ packed := member
    obtain ⟨before, after, whole⟩ := packedText_mem listed
    refine ⟨packedText packed, List.mem_singleton_self _, ?_⟩
    rw [whole, String.toList_append, String.toList_append]
    exact List.mem_append_left _ (List.mem_append_right _ inside)
  | cut paragraph =>
    have whole := (aligned paragraph (List.mem_singleton_self _)).recut wide
    rw [← toList_cut] at whole
    constructor
    · rw [Block.held, Block.paragraphs, List.flatMap_singleton, visible, ← whole, List.filter_flatMap]
      rfl
    · intro paragraph' member c inside
      obtain rfl := List.mem_singleton.mp member
      rw [← whole] at inside
      exact List.mem_flatMap.mp inside

/-- Chunking loses nothing exactly if no character of a paragraph straddles a multiple of the maximum in bytes. -/
theorem lossless_iff (wide : 4 ≤ maximumChars) : Lossless content maximumChars ↔
    ∀ paragraph ∈ paragraphs content, Aligned maximumChars paragraph.toList := by
  obtain ⟨blocks, laid, chunks⟩ := chunkText_laid content maximumChars
  have shown : visible (String.join (chunkText content maximumChars)) =
      blocks.flatMap (Block.shown maximumChars) := by
    rw [visible_join, chunks, List.flatMap_assoc]
    rfl
  have held : visible content = blocks.flatMap Block.held := by
    rw [← visible_paragraphs, ← laid.paragraphs, List.flatMap_assoc]
    rfl
  constructor
  · intro lossless paragraph member
    have same := lossless.text
    rw [shown, held] at same
    exact laid.aligned_of_shown wide (by rw [same]) member
  · intro aligned
    have each (block : Block) (listed : block ∈ blocks) := block.toList_aligned wide
      fun paragraph inside => aligned paragraph (by
        rw [← laid.paragraphs]
        exact List.mem_flatMap.mpr ⟨block, listed, inside⟩)
    constructor
    · rw [shown, held]
      exact List.flatMap_congr fun block listed => (each block listed).1
    · intro paragraph member c inside
      rw [← laid.paragraphs] at member
      obtain ⟨block, listed, own⟩ := List.mem_flatMap.mp member
      obtain ⟨chunk, part, found⟩ := (each block listed).2 paragraph own c inside
      refine ⟨chunk, ?_, found⟩
      rw [chunks]
      exact List.mem_flatMap.mpr ⟨block, listed, part⟩

/-- Chunking keeps a content exactly if each of its paragraphs is cut between characters only. -/
theorem chunks_lossless_iff (content : String) : Lossless content maximumChunkChars ↔
    ∀ paragraph ∈ paragraphs content, Aligned maximumChunkChars paragraph.toList :=
  lossless_iff (by decide)

section
variable {chars : List Char} (solid : ∀ c ∈ chars, isWhitespace c = false)
include solid

theorem trim_solid : trim (String.ofList chars) = String.ofList chars := by
  have front : chars.dropWhile isWhitespace = chars := by
    cases chars with
    | nil => rfl
    | cons c chars => rw [List.dropWhile_cons_of_neg (by simp [solid c List.mem_cons_self])]
  have back : chars.rdropWhile isWhitespace = chars := by
    rw [List.rdropWhile_eq_self_iff]
    intro some
    simp [solid _ (List.getLast_mem some)]
  rw [trim, String.toList_ofList, front, back]

theorem splitBlankLines_solid : splitBlankLines chars = [chars] := by
  have newline : isWhitespace '\n' = true := by decide
  fun_induction splitBlankLines chars with
  | case1 rest ih =>
    have first := solid _ List.mem_cons_self
    rw [newline] at first
    cases first
  | case2 c rest _ paragraph paragraphs split ih =>
    rw [ih fun c member => solid c (List.mem_cons_of_mem _ member)] at split
    cases split
    rfl
  | case3 c rest _ split ih =>
    rw [ih fun c member => solid c (List.mem_cons_of_mem _ member)] at split
    cases split
  | case4 => rfl

theorem paragraphs_solid (some : chars ≠ []) : paragraphs (String.ofList chars) = [String.ofList chars] := by
  have filled : (String.ofList chars).isEmpty = false := by simpa using some
  rw [paragraphs, String.toList_ofList, splitBlankLines_solid solid, paragraphsOf, List.map_singleton,
    List.map_singleton, trim_solid solid, List.filter_singleton, filled]
  rfl

end

/-- A word with a letter in bytes 999 and 1000. -/
def straddled : List Char := List.replicate 999 'a' ++ ['é']

theorem chunks_corrupted : ¬Lossless (String.ofList straddled) maximumChunkChars := by
  have letters : isWhitespace 'a' = false ∧ isWhitespace 'é' = false := by decide
  have solid : ∀ c ∈ straddled, isWhitespace c = false := by
    intro c member
    rcases List.mem_append.mp member with old | last
    · rw [List.eq_of_mem_replicate old]
      exact letters.1
    · rw [List.mem_singleton.mp last]
      exact letters.2
  intro lossless
  have aligned := (lossless_iff (by decide)).mp lossless (String.ofList straddled) (by
    rw [paragraphs_solid solid (List.append_ne_nil_of_right_ne_nil _ (by simp))]
    exact List.mem_singleton_self _)
  have before : (encode (List.replicate 999 'a')).length = 999 := by
    have one (n : Nat) : (encode (List.replicate n 'a')).length = n := by
      induction n with
      | zero => rfl
      | succ n ih =>
        rw [List.replicate_succ, encode_cons, List.length_append, ih]
        exact Nat.add_comm 1 n
    exact one 999
  have letter : (String.utf8EncodeChar 'é').length = 2 := by decide
  have whole := aligned (List.replicate 999 'a') 'é' [] (String.toList_ofList) 1
  rw [before, letter] at whole
  have maximum : maximumChunkChars = 1000 := rfl
  omega

end Hangar
