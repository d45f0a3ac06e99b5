import CivicRegistry.Json.Outline

/-!
# Reading complete values

The document of an outline is there if the outline is complete and every text
and number in it can be read.  Where something cannot be read, it matters how
far the reading got, because some values can be done without.  A reader goes on
after such a value even where it is refused, but only if it is refused at its
end: what is refused earlier leaves the reader in the middle of the value, and
from there on the input makes no sense.  A text is refused at its end for a byte
that belongs to no character, and for the first half of a pair of surrogates
before the closing quote.  A list or an object is refused at its end for its
last value.
-/

namespace CivicRegistry.Json

/-- What comes of reading a value. -/
inductive Passage (α : Type) where
  | read (value : α)
  /-- The value is refused at its end. -/
  | passed
  /-- The value is refused before its end. -/
  | stuck
deriving DecidableEq

namespace Passage

variable {α β : Type}

def map (f : α → β) : Passage α → Passage β
  | .read value => .read (f value)
  | .passed => .passed
  | .stuck => .stuck

/-- The passage of a value from that of its last part and whether nothing else
is in it. -/
def ofPart (isLast : Bool) : Passage α → Passage β
  | .passed => if isLast then .passed else .stuck
  | _ => .stuck

/-- The value that is read. -/
def value? : Passage α → Option α
  | .read value => some value
  | _ => none

end Passage

/-- Whether the surrogates of a text come in pairs, but for the first half of a
pair at its end. -/
def Pieces.pairUpToEnd : Pieces → Bool
  | [] => true
  | [.surrogate unit] => unit < 0xDC00
  | .surrogate high :: .surrogate low :: rest =>
    (pairedChar? high low).isSome && pairUpToEnd rest
  | .surrogate _ :: _ => false
  | _ :: rest => pairUpToEnd rest

/-- The passage of a text. -/
def Pieces.passage (pieces : Pieces) : Passage Json :=
  match pieces.text? with
  | some decoded => .read (.text decoded)
  | none => if pieces.pairUpToEnd then .passed else .stuck

/-- The passage of a number. -/
def Numeral.passage : Numeral → Passage Json
  | .integer value => .read (.integer value)
  | .float value => .read (.float value)
  | .tooLarge digitsLeft => if digitsLeft = 0 then .passed else .stuck

namespace Outline

mutual

/-- The passage of a value in which lists and objects nest no deeper than
`depth`. -/
def passage (depth : Nat) : Outline → Passage Json
  | .null => .read .null
  | .boolean value => .read (.boolean value)
  | .number numeral => numeral.passage
  | .text pieces => pieces.passage
  | .array items closed =>
    if closed && 0 < depth then (passages (depth - 1) items).map .array
    else .stuck
  | .object members closed =>
    if closed && 0 < depth then (memberPassages (depth - 1) members).map .object
    else .stuck
  | .broken => .stuck

def passages (depth : Nat) : List Outline → Passage (List Json)
  | [] => .read []
  | item :: others =>
    match passage depth item with
    | .read value => (passages depth others).map (value :: ·)
    | refused => refused.ofPart others.isEmpty

def memberPassages (depth : Nat) :
    List (Pieces × Outline) → Passage (List (String × Json))
  | [] => .read []
  | (pieces, outline) :: others =>
    match pieces.text?, passage depth outline with
    | none, _ => .stuck
    | some name, .read value =>
      (memberPassages depth others).map ((name, value) :: ·)
    | some _, refused => refused.ofPart others.isEmpty

end

/-- The passage of a value that is wanted only if it is a plain one.  A list or
an object is passed if it is empty. -/
def plainPassage : Outline → Passage Json
  | .array items closed => if closed && items.isEmpty then .passed else .stuck
  | .object members closed =>
    if closed && members.isEmpty then .passed else .stuck
  | outline => outline.passage 0

/-- The document of a complete outline whose texts can be decoded, whose numbers
have values and whose lists and objects nest no deeper than `depth`. -/
def document? (depth : Nat) (outline : Outline) : Option Json :=
  (outline.passage depth).value?

end Outline

end CivicRegistry.Json
