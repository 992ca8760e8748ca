import Hangar.Lib.Result
import Hangar.Lib.Text
import Mathlib.Algebra.Ring.Nat
import Mathlib.Data.Rat.Defs

namespace Hangar

open Lib

def isHexChar (c : Char) : Bool := ('0' ≤ c && c ≤ '9') || ('a' ≤ c && c ≤ 'f')

structure HexText where
  text : String
  isHex : text.toList.all isHexChar = true
deriving DecidableEq

/-- A UUID in its canonical hyphenated text, the form every table key and path uses.
    Only equality, order and alphabet of that text matter, so its length is left open. -/
structure Uuid where
  text : String
  isUuid : text.toList.all (fun c => isHexChar c || c == '-') = true
deriving DecidableEq

theorem HexText.ext {left right : HexText} (same : left.text = right.text) : left = right := by
  cases left
  cases right
  simp_all

theorem Uuid.ext {left right : Uuid} (same : left.text = right.text) : left = right := by
  cases left
  cases right
  simp_all

theorem HexText.no_colon (hex : HexText) : ':' ∉ hex.text.toList := by
  intro member
  have bad := List.all_eq_true.mp hex.isHex ':' member
  exact absurd bad (by decide)

theorem Uuid.no_colon (id : Uuid) : ':' ∉ id.text.toList := by
  intro member
  have bad := List.all_eq_true.mp id.isUuid ':' member
  exact absurd bad (by decide)

instance : Ord Uuid := ⟨compareOn Uuid.text⟩

instance : Std.TransOrd Uuid := inferInstanceAs (Std.TransCmp (compareOn Uuid.text))

instance : Std.LawfulEqOrd Uuid where
  compare_self {id} := by
    change compare id.text id.text = .eq
    simp
  eq_of_compare same := Uuid.ext (Std.LawfulEqOrd.eq_of_compare same)

def Uuid.nil : Uuid := ⟨"00000000-0000-0000-0000-000000000000", by decide⟩

/-- Every error of the modelled functions: a check or `context` of this source, or an error of a
    library below it. -/
inductive Failure where
  | check (message : String)
  | external (message : String)
deriving DecidableEq, Repr

abbrev Result (α : Type) : Type := Except Failure α

def bail {α : Type} (message : String) : Result α := .error (.check message)

abbrev check (condition : Prop) [Decidable condition] (message : String) : Result Unit :=
  ensure condition (.check message)

abbrev found {α : Type} (value : Option α) (message : String) : Result α :=
  context value (.check message)

structure EmbeddingProfile where
  provider : String
  modelRevision : String
  dimensions : Nat
deriving DecidableEq, Repr

inductive EmbeddingProvider where
  | hashingV1
  | localMultilingualV1
deriving DecidableEq, Repr

def EmbeddingProvider.profile : EmbeddingProvider → EmbeddingProfile
  | .hashingV1 => ⟨"hashing-v1", "builtin-1", 128⟩
  | .localMultilingualV1 =>
    ⟨"local-multilingual-v1", "qdrant-paraphrase-multilingual-minilm-l12-v2-onnx-q", 384⟩

def EmbeddingProfile.matchesManifest (profile : EmbeddingProfile) (provider modelRevision : String)
    (dimensions : Nat) : Bool :=
  profile.provider == provider && profile.modelRevision == modelRevision && profile.dimensions == dimensions

/-- What the modelled code takes from outside: hashes, name-based UUIDs, the Unicode tables of the
    standard library and the embedding models. Rationals stand for `f32`. -/
structure Externals where
  sha256 : List UInt8 → HexText
  newV5 : List UInt8 → Uuid
  toLowercase : String → String
  isAlphanumeric : Char → Bool
  isAlphabetic : Char → Bool
  embed : EmbeddingProvider → String → Except String (List ℚ)

def Externals.sha256Text (x : Externals) (s : String) : HexText := x.sha256 (bytes s)

theorem Externals.sha256Text_injective {x : Externals} (injective : Function.Injective x.sha256) :
    Function.Injective x.sha256Text := injective.comp bytes_injective

/-- What one call under the store lock reads from the machine: `now_unix_ms` and the successive
    values of `Uuid::now_v7`. -/
structure Env where
  now : Nat
  uuid : Nat → Uuid

end Hangar
