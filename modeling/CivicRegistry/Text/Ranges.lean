import CivicRegistry.Text.Blank
import CivicRegistry.Text.Hex

/-!
# Ranges of code points

A property of characters is given by the ranges of code points that have it.  A
long list of them is written as a text of words with blanks in between: each
word is a code point in hexadecimal digits, or the first and the last code point
of a range with a hyphen in between.
-/

namespace CivicRegistry.Text

/-- The words of a text, which blanks separate. -/
def words (text : String) : List (List Char) :=
  (text.toList.splitOnP isBlank).filter (!·.isEmpty)

/-- The code point that some hexadecimal digits stand for. -/
def codePoint (digits : List Char) : Nat :=
  (hexNumber? digits).getD 0

def readRange (word : List Char) : Nat × Nat :=
  match word.splitOn '-' with
  | [first, last] => (codePoint first, codePoint last)
  | _ => (codePoint word, codePoint word)

/-- The ranges that a text lists. -/
def readRanges (table : String) : List (Nat × Nat) :=
  (words table).map readRange

/-- Whether a character lies in one of the given ranges. -/
def inRanges (ranges : List (Nat × Nat)) (c : Char) : Bool :=
  ranges.any fun range => range.1 ≤ c.toNat && c.toNat ≤ range.2

end CivicRegistry.Text
