import CivicRegistry.Text.Mark
import CivicRegistry.Url.Domain.Direction
import CivicRegistry.Url.Domain.Joiner
import CivicRegistry.Url.Domain.Mapping
import CivicRegistry.Url.Domain.Punycode

/-!
# Names of domains

A name is labels with points between them.  It is read by mapping its characters
and reading each label of the result; a label with the sign of the written form
in front is first taken out of that form, and then its characters have to stand
for themselves.  A name that can be read has one canonical form.
-/

namespace CivicRegistry.Url.Domain

/-- Characters that no host has in it. -/
def isForbidden (c : Char) : Bool :=
  "\x00\t\n\r #/:<>?@[\\]^|".toList.contains c

/-- Characters that no name of a domain has in it. -/
def isForbiddenInName (c : Char) : Bool :=
  isForbidden c || c < ' ' || c == '%' || c == '\x7f'

def isAscii (c : Char) : Bool := c.toNat < 0x80

/-- What follows the sign of the written form. -/
def written? : List Char → Option (List Char)
  | 'x' :: 'n' :: '-' :: '-' :: rest => some rest
  | _ => none

/-- The most characters behind the sign of the written form. -/
def writtenLimit : Nat := 2000

/-- The most characters of a label that is not of ASCII alone. -/
def labelLimit : Nat := 1000

/-- Whether a label is right: nothing forbidden is in it, it does not start with
a mark, its joiners have their places, and if it is not of ASCII alone, it is
not too long and has no sign of the written form. -/
def isLabel (label : List Char) : Bool :=
  !label.any isForbiddenInName && !label.head?.any Text.isMark &&
    joinersArePlaced [] label &&
    (label.all isAscii ||
      (label.length ≤ labelLimit && (written? label).isNone))

/-- The label of a written form.  It must not be of ASCII alone and has to be as
the mapping would leave it. -/
def labelOfWritten? (chars : List Char) : Option (List Char) := do
  if writtenLimit < chars.length then none
  let label ← ofPunycode? chars
  if label.all isAscii then none
  else if label.all standsForItself && Text.composed label == label then
    return label
  else none

/-- Reads a label whose characters are mapped. -/
def readLabel? (label : List Char) : Option (List Char) := do
  let label ←
    if label.all isAscii then (written? label).elim (some label) labelOfWritten?
    else some label
  if isLabel label then return label else none

/-- The canonical labels of a name. -/
def labels? (name : List Char) : Option (List (List Char)) := do
  let mapped ← mapped? name
  let labels ← (mapped.splitOn '.').mapM readLabel?
  if haveOneDirection labels then return labels else none

/-- The canonical form of a name. -/
def canonical? (name : List Char) : Option (List Char) :=
  (labels? name).map fun labels => ['.'].intercalate labels

end CivicRegistry.Url.Domain
