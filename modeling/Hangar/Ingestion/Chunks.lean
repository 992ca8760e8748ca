import Hangar.Ingestion.ChunkText
import Hangar.Lib.Cut
import Mathlib.Data.List.Chain

namespace Hangar

open Lib

def paragraphsOf (pieces : List String) : List String := (pieces.map trim).filter fun paragraph => !paragraph.isEmpty

def paragraphs (content : String) : List String :=
  paragraphsOf ((splitBlankLines content.toList).map String.ofList)

/-- What some of the chunks are made of: one chunk of whole paragraphs, or the pieces of one that is too long. -/
inductive Block where
  | packed (paragraphs : List String)
  | cut (paragraph : String)

def packedText (paragraphs : List String) : String := "\n\n".intercalate paragraphs

def Block.paragraphs : Block → List String
  | .packed paragraphs => paragraphs
  | .cut paragraph => [paragraph]

def Block.chunks (maximumChars : Nat) : Block → List String
  | .packed paragraphs => [packedText paragraphs]
  | .cut paragraph => ((bytes paragraph).toChunks maximumChars).map fromUtf8Lossy

def Block.Apart (maximumChars : Nat) : Block → Block → Prop
  | .packed earlier, .packed later =>
    maximumChars < (packedText earlier).utf8ByteSize + 2 + (packedText later).utf8ByteSize
  | _, _ => True

/-- The blocks hold the paragraphs in order, each within the maximum or cut, and no two packed ones could be merged. -/
structure Laid (maximumChars : Nat) (paragraphs : List String) (blocks : List Block) : Prop where
  paragraphs : blocks.flatMap Block.paragraphs = paragraphs
  packed : ∀ packed, .packed packed ∈ blocks → packed ≠ [] ∧ (packedText packed).utf8ByteSize ≤ maximumChars
  cut : ∀ paragraph, .cut paragraph ∈ blocks → maximumChars < paragraph.utf8ByteSize
  apart : blocks.IsChain (Block.Apart maximumChars)

def openBlock (current : List String) : List Block := if current = [] then [] else [.packed current]

/-- What the loop of `chunk_text` keeps: its chunks are blocks, its open chunk the last of them. -/
structure Packs (maximumChars : Nat) (done : List String) (blocks : List Block) (current : List String)
    (state : List String × String) : Prop where
  chunks : state.1 = blocks.flatMap (Block.chunks maximumChars)
  text : state.2 = packedText current
  laid : Laid maximumChars done (blocks ++ openBlock current)
  filled : ∀ paragraph ∈ current, paragraph ≠ ""
  closed : current = [] → ∀ last ∈ blocks.getLast?, ∃ paragraph, last = .cut paragraph

variable {maximumChars : Nat} {done current : List String} {blocks : List Block} {paragraph content : String}
  {state : List String × String}

theorem packedText_append (some : current ≠ []) :
    packedText (current ++ [paragraph]) = packedText current ++ "\n\n" ++ paragraph := by
  rw [packedText, String.intercalate_append_of_ne_nil some (by simp), String.intercalate_singleton]
  rfl

theorem packedText_size (some : current ≠ []) : (packedText (current ++ [paragraph])).utf8ByteSize =
    (packedText current).utf8ByteSize + 2 + paragraph.utf8ByteSize := by
  rw [packedText_append some, String.utf8ByteSize_append, String.utf8ByteSize_append]
  rfl

theorem packedText_eq_empty (filled : ∀ paragraph ∈ current, paragraph ≠ "") :
    packedText current = "" ↔ current = [] := by
  constructor
  · intro empty
    cases current with
    | nil => rfl
    | cons first rest =>
      have size := congrArg String.utf8ByteSize empty
      have own : first = "" := by
        cases rest with
        | nil => simpa [packedText] using empty
        | cons second rest =>
          rw [packedText, String.intercalate_cons_cons, String.utf8ByteSize_append, String.utf8ByteSize_append,
            String.utf8ByteSize_empty] at size
          exact String.utf8ByteSize_eq_zero_iff.mp (by omega)
      exact absurd own (filled first List.mem_cons_self)
  · rintro rfl
    exact String.intercalate_nil

theorem Laid.nil : Laid maximumChars [] [] where
  paragraphs := rfl
  packed _ member := by cases member
  cut _ member := by cases member
  apart := .nil

theorem openBlock_eq (some : current ≠ []) : openBlock current = [.packed current] := if_neg some

theorem Laid.push (block : Block) (laid : Laid maximumChars done blocks)
    (packed : ∀ packed, block = .packed packed → packed ≠ [] ∧ (packedText packed).utf8ByteSize ≤ maximumChars)
    (cut : ∀ paragraph, block = .cut paragraph → maximumChars < paragraph.utf8ByteSize)
    (apart : ∀ last ∈ blocks.getLast?, Block.Apart maximumChars last block) :
    Laid maximumChars (done ++ block.paragraphs) (blocks ++ [block]) where
  paragraphs := by
    rw [List.flatMap_append, laid.paragraphs, List.flatMap_singleton]
  packed packed' member := by
    rcases List.mem_append.mp member with old | new
    · exact laid.packed packed' old
    · exact packed packed' (List.mem_singleton.mp new).symm
  cut paragraph member := by
    rcases List.mem_append.mp member with old | new
    · exact laid.cut paragraph old
    · exact cut paragraph (List.mem_singleton.mp new).symm
  apart := by
    rw [List.isChain_append]
    refine ⟨laid.apart, .singleton block, ?_⟩
    intro last final first head
    cases head
    exact apart last final

theorem Laid.extend (laid : Laid maximumChars done (blocks ++ [.packed current])) (some : current ≠ [])
    (fits : (packedText (current ++ [paragraph])).utf8ByteSize ≤ maximumChars) :
    Laid maximumChars (done ++ [paragraph]) (blocks ++ [.packed (current ++ [paragraph])]) where
  paragraphs := by
    rw [← laid.paragraphs]
    simp [Block.paragraphs]
  packed packed' member := by
    rcases List.mem_append.mp member with old | new
    · exact laid.packed packed' (List.mem_append_left _ old)
    · cases List.mem_singleton.mp new
      exact ⟨by simp, fits⟩
  cut paragraph' member := by
    rcases List.mem_append.mp member with old | new
    · exact laid.cut paragraph' (List.mem_append_left _ old)
    · cases List.mem_singleton.mp new
  apart := by
    have apart := laid.apart
    rw [List.isChain_append] at apart ⊢
    refine ⟨apart.1, .singleton _, ?_⟩
    intro last final first head
    cases head
    have before := apart.2.2 last final (.packed current) rfl
    cases last with
    | packed earlier =>
      show maximumChars < _
      have far : maximumChars < (packedText earlier).utf8ByteSize + 2 + (packedText current).utf8ByteSize := before
      rw [packedText_size some]
      omega
    | cut earlier => exact trivial

theorem paragraphsOf_cons (raw : String) (rest : List String) :
    paragraphsOf (raw :: rest) = paragraphsOf [raw] ++ paragraphsOf rest := by
  simp [paragraphsOf, List.filter_cons]
  split <;> rfl

theorem Packs.start : Packs maximumChars [] [] [] ([], "") where
  chunks := rfl
  text := String.intercalate_nil.symm
  laid := .nil
  filled _ member := by cases member
  closed _ _ final := by cases final

theorem Packs.cut (packs : Packs maximumChars done blocks current state)
    (long : maximumChars < paragraph.utf8ByteSize) :
    Packs maximumChars (done ++ [paragraph]) (blocks ++ openBlock current ++ [.cut paragraph]) []
      ((blocks ++ openBlock current ++ [Block.cut paragraph]).flatMap (Block.chunks maximumChars), "") where
  chunks := rfl
  text := String.intercalate_nil.symm
  laid := by
    have pushed := packs.laid.push (.cut paragraph) (fun _ same => by cases same)
      (fun _ same => by
        cases same
        exact long)
      (fun last _ => by cases last <;> exact trivial)
    have none : openBlock [] = [] := if_pos rfl
    rw [none, List.append_nil]
    exact pushed
  filled _ member := by cases member
  closed _ last final := by
    rw [List.getLast?_concat, Option.mem_some_iff] at final
    exact ⟨paragraph, final.symm⟩

theorem Packs.fresh (packs : Packs maximumChars done blocks current state) (some : paragraph ≠ "")
    (short : paragraph.utf8ByteSize ≤ maximumChars)
    (far : current ≠ [] → maximumChars < (packedText current).utf8ByteSize + 2 + paragraph.utf8ByteSize) :
    Packs maximumChars (done ++ [paragraph]) (blocks ++ openBlock current) [paragraph]
      ((blocks ++ openBlock current).flatMap (Block.chunks maximumChars), paragraph) where
  chunks := rfl
  text := String.intercalate_singleton.symm
  laid := by
    rw [openBlock_eq (List.cons_ne_nil paragraph [])]
    refine packs.laid.push (.packed [paragraph]) ?_ (fun _ same => by cases same) ?_
    · intro packed same
      cases same
      refine ⟨by simp, ?_⟩
      rw [packedText, String.intercalate_singleton]
      exact short
    · intro last final
      by_cases none : current = []
      · rw [openBlock, if_pos none, List.append_nil] at final
        obtain ⟨cut, rfl⟩ := packs.closed none last final
        exact trivial
      · rw [openBlock_eq none, List.getLast?_concat, Option.mem_some_iff] at final
        subst final
        show maximumChars < _
        rw [packedText, packedText, String.intercalate_singleton]
        exact far none
  filled paragraph' member := by
    rw [List.mem_singleton.mp member]
    exact some
  closed none := by cases none

theorem Packs.extend (packs : Packs maximumChars done blocks current state) (some : paragraph ≠ "")
    (opened : current ≠ []) (fits : (packedText current).utf8ByteSize + 2 + paragraph.utf8ByteSize ≤ maximumChars) :
    Packs maximumChars (done ++ [paragraph]) blocks (current ++ [paragraph])
      (blocks.flatMap (Block.chunks maximumChars), packedText current ++ "\n\n" ++ paragraph) where
  chunks := rfl
  text := (packedText_append opened).symm
  laid := by
    have laid := packs.laid
    rw [openBlock_eq opened] at laid
    rw [openBlock_eq (by simp)]
    apply laid.extend opened
    rw [packedText_size opened]
    exact fits
  filled paragraph' member := by
    rcases List.mem_append.mp member with old | new
    · exact packs.filled paragraph' old
    · rw [List.mem_singleton.mp new]
      exact some
  closed none := by simp at none

theorem chunks_openBlock (opened : current ≠ []) :
    (blocks ++ openBlock current).flatMap (Block.chunks maximumChars) =
      blocks.flatMap (Block.chunks maximumChars) ++ [packedText current] := by
  rw [openBlock_eq opened, List.flatMap_append, List.flatMap_singleton]
  rfl

/-- One turn of the loop packs one more paragraph, if there is one. -/
theorem Packs.turn (packs : Packs maximumChars done blocks current state) (raw : String) :
    ∃ blocks' current', Packs maximumChars (done ++ paragraphsOf [raw]) blocks' current'
      (chunkParagraph maximumChars state raw) := by
  obtain ⟨chunks, text⟩ := state
  obtain rfl : chunks = _ := packs.chunks
  obtain rfl : text = _ := packs.text
  have opened : (packedText current).isEmpty = true ↔ current = [] := by
    rw [String.isEmpty_iff, packedText_eq_empty packs.filled]
  unfold chunkParagraph
  dsimp only
  by_cases blank : (trim raw).isEmpty = true
  · have none : paragraphsOf [raw] = [] := by simp [paragraphsOf, blank]
    rw [if_pos blank, none, List.append_nil]
    exact ⟨blocks, current, packs⟩
  · have one : paragraphsOf [raw] = [trim raw] := by simp [paragraphsOf, blank]
    have some : trim raw ≠ "" := fun empty => blank (String.isEmpty_iff.mpr empty)
    rw [if_neg blank, one]
    generalize trim raw = paragraph at some
    by_cases none : current = []
    · have idle : (!(packedText current).isEmpty &&
          decide ((packedText current).utf8ByteSize + paragraph.utf8ByteSize + 2 > maximumChars)) = false := by
        rw [opened.mpr none]
        rfl
      have block : openBlock current = [] := if_pos none
      have text : packedText current = "" := String.isEmpty_iff.mp (opened.mpr none)
      simp only [idle, Bool.false_eq_true, if_false]
      by_cases long : paragraph.utf8ByteSize > maximumChars
      · have cut := packs.cut long
        rw [block, List.append_nil, List.flatMap_append, List.flatMap_singleton] at cut
        rw [if_pos long, text]
        exact ⟨_, _, cut⟩
      · have fresh := packs.fresh some (Nat.not_lt.mp long) fun opened => absurd none opened
        rw [block, List.append_nil] at fresh
        rw [if_neg long, if_pos (opened.mpr none)]
        exact ⟨_, _, fresh⟩
    · have filled : (packedText current).isEmpty = false := Bool.eq_false_iff.mpr fun empty => none (opened.mp empty)
      by_cases far : (packedText current).utf8ByteSize + paragraph.utf8ByteSize + 2 > maximumChars
      · simp only [filled, Bool.not_false, Bool.true_and, decide_eq_true far, if_true]
        by_cases long : paragraph.utf8ByteSize > maximumChars
        · have cut := packs.cut long
          rw [List.flatMap_append, chunks_openBlock none, List.flatMap_singleton] at cut
          rw [if_pos long]
          exact ⟨_, _, cut⟩
        · have fresh := packs.fresh some (Nat.not_lt.mp long) fun _ => by omega
          rw [chunks_openBlock none] at fresh
          rw [if_neg long]
          exact ⟨_, _, fresh⟩
      · simp only [filled, Bool.not_false, Bool.true_and, decide_eq_false far, Bool.false_eq_true, if_false]
        rw [if_neg (by omega)]
        exact ⟨_, _, packs.extend some none (by omega)⟩

theorem Packs.run (packs : Packs maximumChars done blocks current state) (pieces : List String) :
    ∃ blocks' current', Packs maximumChars (done ++ paragraphsOf pieces) blocks' current'
      (pieces.foldl (chunkParagraph maximumChars) state) := by
  induction pieces generalizing done blocks current state with
  | nil =>
    rw [show paragraphsOf [] = [] from rfl, List.append_nil]
    exact ⟨blocks, current, packs⟩
  | cons raw rest ih =>
    obtain ⟨blocks', current', first⟩ := packs.turn raw
    obtain ⟨blocks'', current'', later⟩ := ih first
    rw [List.append_assoc, ← paragraphsOf_cons] at later
    rw [List.foldl_cons]
    exact ⟨blocks'', current'', later⟩

/-- The chunks of a text are those of blocks that hold its paragraphs. -/
theorem chunkText_laid (content : String) (maximumChars : Nat) : ∃ blocks,
    Laid maximumChars (paragraphs content) blocks ∧
      chunkText content maximumChars = blocks.flatMap (Block.chunks maximumChars) := by
  have start : Packs maximumChars [] [] [] ([], "") := .start
  obtain ⟨blocks, current, packs⟩ := start.run ((splitBlankLines content.toList).map String.ofList)
  refine ⟨blocks ++ openBlock current, packs.laid, ?_⟩
  unfold chunkText
  dsimp only
  rw [packs.text, packs.chunks]
  by_cases none : current = []
  · have text : (packedText current).isEmpty = true :=
      String.isEmpty_iff.mpr ((packedText_eq_empty packs.filled).mpr none)
    rw [if_pos text, openBlock, if_pos none, List.append_nil]
  · have text : ¬(packedText current).isEmpty = true := by
      rw [String.isEmpty_iff, packedText_eq_empty packs.filled]
      exact none
    rw [if_neg text, chunks_openBlock none]

theorem visible_paragraphsOf (pieces : List String) : (paragraphsOf pieces).flatMap visible = pieces.flatMap visible := by
  induction pieces with
  | nil => rfl
  | cons raw rest ih =>
    have first : (paragraphsOf [raw]).flatMap visible = visible raw := by
      by_cases blank : (trim raw).isEmpty = true
      · have none : paragraphsOf [raw] = [] := by simp [paragraphsOf, blank]
        rw [none, List.flatMap_nil]
        exact (visible_eq_nil.mpr blank).symm
      · have one : paragraphsOf [raw] = [trim raw] := by simp [paragraphsOf, blank]
        rw [one, List.flatMap_singleton, visible_trim]
    rw [paragraphsOf_cons, List.flatMap_append, List.flatMap_cons, ih, first]

theorem visible_paragraphs (content : String) : (paragraphs content).flatMap visible = visible content := by
  rw [paragraphs, visible_paragraphsOf, List.flatMap_map]
  simp only [visible, String.toList_ofList]
  exact visible_splitBlankLines content.toList

theorem mem_paragraphs_ne (member : paragraph ∈ paragraphs content) : paragraph ≠ "" := by
  intro empty
  have kept := (List.mem_filter.mp member).2
  simp [empty] at kept

theorem packedText_mem (member : paragraph ∈ current) :
    ∃ before after, packedText current = before ++ paragraph ++ after := by
  obtain ⟨earlier, later, rfl⟩ := List.append_of_mem member
  have front : ∃ before, packedText (earlier ++ [paragraph]) = before ++ paragraph := by
    by_cases none : earlier = []
    · refine ⟨"", ?_⟩
      rw [none, List.nil_append, packedText, String.intercalate_singleton, String.empty_append]
    · exact ⟨packedText earlier ++ "\n\n", packedText_append none⟩
  obtain ⟨before, front⟩ := front
  rw [List.append_cons]
  by_cases none : later = []
  · refine ⟨before, "", ?_⟩
    rw [none, List.append_nil, front, String.append_empty]
  · refine ⟨before, "\n\n" ++ packedText later, ?_⟩
    rw [packedText, String.intercalate_append_of_ne_nil (by simp) none, ← front, String.append_assoc]
    rfl

section
variable (positive : 0 < maximumChars)
include positive

theorem Laid.chunks_ne_nil (laid : Laid maximumChars done blocks) {block : Block} (member : block ∈ blocks) :
    block.chunks maximumChars ≠ [] := by
  cases block with
  | packed packed => simp [Block.chunks]
  | cut paragraph =>
    have long := laid.cut paragraph member
    have some : bytes paragraph ≠ [] := by
      intro none
      have size := length_bytes paragraph
      rw [none, List.length_nil] at size
      omega
    rw [Block.chunks, toChunks_of_ne_nil positive some]
    simp

theorem Laid.chunk_shape (laid : Laid maximumChars done blocks) (filled : ∀ paragraph ∈ done, paragraph ≠ "")
    {chunk : String} (member : chunk ∈ blocks.flatMap (Block.chunks maximumChars)) :
    chunk ≠ "" ∧ chunk.length ≤ maximumChars := by
  obtain ⟨block, listed, member⟩ := List.mem_flatMap.mp member
  cases block with
  | packed packed =>
    obtain rfl := List.mem_singleton.mp member
    obtain ⟨some, short⟩ := laid.packed packed listed
    have own : ∀ paragraph ∈ packed, paragraph ≠ "" := by
      intro paragraph inside
      apply filled
      rw [← laid.paragraphs]
      exact List.mem_flatMap.mpr ⟨_, listed, inside⟩
    constructor
    · rw [ne_eq, packedText_eq_empty own]
      exact some
    · exact Nat.le_trans (length_le_size _) short
  | cut paragraph =>
    obtain ⟨part, inside, rfl⟩ := List.mem_map.mp member
    obtain ⟨some, short⟩ := mem_toChunks positive inside
    constructor
    · intro empty
      have chars := congrArg String.toList empty
      rw [fromUtf8Lossy, String.toList_ofList, String.toList_empty, decodeLossy_eq_nil] at chars
      exact some chars
    · rw [fromUtf8Lossy, ← String.length_toList, String.toList_ofList]
      exact Nat.le_trans (length_decodeLossy_le 0 part) short

end

/-- What the chunks of a text look like: filled, within the maximum, at least one if there is text, the short
    paragraphs whole in one of them, and no two neighbours of whole paragraphs mergeable. -/
structure ChunksShaped (content : String) (maximumChars : Nat) : Prop where
  filled : ∀ chunk ∈ chunkText content maximumChars, chunk ≠ "" ∧ chunk.length ≤ maximumChars
  some : isBlank content = false → chunkText content maximumChars ≠ []
  whole : ∀ paragraph ∈ paragraphs content, paragraph.utf8ByteSize ≤ maximumChars →
    ∃ chunk ∈ chunkText content maximumChars, ∃ before after, chunk = before ++ paragraph ++ after
  laid : ∃ blocks, Laid maximumChars (paragraphs content) blocks ∧
    (∀ block ∈ blocks, block.chunks maximumChars ≠ []) ∧
    chunkText content maximumChars = blocks.flatMap (Block.chunks maximumChars)

theorem chunkText_shaped (content : String) (positive : 0 < maximumChars) : ChunksShaped content maximumChars := by
  obtain ⟨blocks, laid, chunks⟩ := chunkText_laid content maximumChars
  refine ⟨?_, ?_, ?_, blocks, laid, fun _ member => laid.chunks_ne_nil positive member, chunks⟩
  · intro chunk member
    rw [chunks] at member
    exact laid.chunk_shape positive (fun _ => mem_paragraphs_ne) member
  · intro text none
    rw [chunks, List.flatMap_eq_nil_iff] at none
    have empty : blocks = [] := by
      apply List.eq_nil_iff_forall_not_mem.mpr
      intro block member
      exact laid.chunks_ne_nil positive member (none block member)
    have nothing : visible content = [] := by
      rw [← visible_paragraphs, ← laid.paragraphs, empty]
      rfl
    rw [visible_eq_nil, text] at nothing
    cases nothing
  · intro paragraph member short
    rw [← laid.paragraphs] at member
    obtain ⟨block, listed, inside⟩ := List.mem_flatMap.mp member
    cases block with
    | packed packed =>
      refine ⟨packedText packed, ?_, packedText_mem inside⟩
      rw [chunks]
      exact List.mem_flatMap.mpr ⟨_, listed, List.mem_singleton_self _⟩
    | cut long =>
      obtain rfl := List.mem_singleton.mp inside
      exact absurd (laid.cut _ listed) (Nat.not_lt.mpr short)

/-- The first paragraph is cut, and the other two share a chunk. -/
example : chunkText "alpha beta gamma\n\ndelta\n\n  eps  " 12 = ["alpha beta g", "amma", "delta\n\neps"] := by
  decide +kernel

end Hangar
