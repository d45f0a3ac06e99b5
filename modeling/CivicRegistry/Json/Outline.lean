import CivicRegistry.Json.Numeral
import CivicRegistry.Json.Value

/-!
# Outlines of documents

The outline of an input is what can be said of it reading from the left: the
document as far as it goes, with a break where the input stops being one.  A
typed reader goes over the outline in the order of the input, so that of a value
of the wrong kind and a break the one that comes first is what it finds.  A text
keeps its pieces, because a text that cannot be decoded is a break only for a
reader that wants the text.
-/

namespace CivicRegistry.Json

/-- A piece of a text: a character, half of a surrogate pair, or a byte that
belongs to no character. -/
inductive Piece where
  | char (c : Char)
  | surrogate (unit : Nat)
  | stray
deriving DecidableEq

/-- The pieces of a text in the order of the input. -/
abbrev Pieces := List Piece

/-- A list or an object that breaks off is not closed. -/
inductive Outline where
  | null
  | boolean (value : Bool)
  | number (value : Numeral)
  | text (pieces : Pieces)
  | array (items : List Outline) (closed : Bool)
  | object (members : List (Pieces × Outline)) (closed : Bool)
  | broken

/-- The character of a pair of surrogates. -/
def pairedChar? (high low : Nat) : Option Char :=
  if 0xD800 ≤ high ∧ high ≤ 0xDBFF ∧ 0xDC00 ≤ low ∧ low ≤ 0xDFFF then
    some (Char.ofNat (0x10000 + 0x400 * (high - 0xD800) + (low - 0xDC00)))
  else none

/-- The characters of a text, where its surrogates come in pairs and every byte
belongs to a character. -/
def Pieces.chars? : Pieces → Option (List Char)
  | [] => some []
  | .char c :: rest => (chars? rest).map (c :: ·)
  | .surrogate high :: .surrogate low :: rest => do
    let c ← pairedChar? high low
    let others ← chars? rest
    return c :: others
  | _ => none

def Pieces.text? (pieces : Pieces) : Option String :=
  pieces.chars?.map String.ofList

namespace Outline

mutual

/-- Whether the outline is of a complete document, whatever its texts and
numbers are worth. -/
def isWhole : Outline → Bool
  | .array items closed => closed && areWhole items
  | .object members closed => closed && membersAreWhole members
  | .broken => false
  | _ => true

def areWhole : List Outline → Bool
  | [] => true
  | item :: others => item.isWhole && areWhole others

def membersAreWhole : List (Pieces × Outline) → Bool
  | [] => true
  | (_, value) :: others => value.isWhole && membersAreWhole others

end

end Outline

end CivicRegistry.Json
