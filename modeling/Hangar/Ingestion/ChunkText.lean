import Hangar.Lib.Text
import Mathlib.Data.List.Defs

namespace Hangar

open Lib

/-- One turn of the loop of `chunk_text`, on the chunks so far and the open one. -/
def chunkParagraph (maximumChars : Nat) (state : List String × String) (paragraph : String) :
    List String × String :=
  let paragraph := trim paragraph
  if paragraph.isEmpty then state
  else
    let flush := !state.2.isEmpty && state.2.utf8ByteSize + paragraph.utf8ByteSize + 2 > maximumChars
    let chunks := if flush then state.1 ++ [state.2] else state.1
    let current := if flush then "" else state.2
    if paragraph.utf8ByteSize > maximumChars then
      (chunks ++ ((bytes paragraph).toChunks maximumChars).map fromUtf8Lossy, current)
    else
      (chunks, if current.isEmpty then paragraph else current ++ "\n\n" ++ paragraph)

def chunkText (content : String) (maximumChars : Nat) : List String :=
  let state := ((splitBlankLines content.toList).map String.ofList).foldl (chunkParagraph maximumChars) ([], "")
  if state.2.isEmpty then state.1 else state.1 ++ [state.2]

end Hangar
