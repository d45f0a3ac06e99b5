import CivicRegistry.Text.CombiningClass
import CivicRegistry.Text.CompositeTable

/-!
# Composed texts

Texts that mean the same have one composed form.  It is made in three steps:
every composite character is taken apart, the marks behind a letter are put in
the order of their combining classes, and what can be put together again is put
together from the left.  A mark reaches the letter unless a mark of its own or a
higher class stands in between.
-/

namespace CivicRegistry.Text

/-! ## Korean syllables

A syllable is a leading consonant and a vowel, or such a syllable and a trailing
consonant. -/

/-- The code point of the first syllable. -/
def firstSyllable : Nat := 0xAC00

/-- The code point of the first leading consonant. -/
def firstLeading : Nat := 0x1100

/-- The code point of the first vowel. -/
def firstVowel : Nat := 0x1161

/-- The code point before the first trailing consonant. -/
def beforeTrailing : Nat := 0x11A7

def leadingCount : Nat := 19
def vowelCount : Nat := 21

/-- The trailing consonants and the lack of one. -/
def trailingCount : Nat := 28

def isSyllable (n : Nat) : Bool :=
  firstSyllable ≤ n &&
    n < firstSyllable + leadingCount * vowelCount * trailingCount

/-- Whether a syllable has no trailing consonant. -/
def isOpenSyllable (n : Nat) : Bool :=
  isSyllable n && (n - firstSyllable) % trailingCount == 0

/-- The two parts of a syllable. -/
def syllableParts (n : Nat) : Nat × Nat :=
  let place := n - firstSyllable
  let trailing := place % trailingCount
  if trailing = 0 then
    (firstLeading + place / trailingCount / vowelCount,
      firstVowel + place / trailingCount % vowelCount)
  else (n - trailing, beforeTrailing + trailing)

/-- The syllable of two parts. -/
def syllable? (first second : Nat) : Option Nat :=
  if firstLeading ≤ first ∧ first < firstLeading + leadingCount ∧
      firstVowel ≤ second ∧ second < firstVowel + vowelCount then
    some (firstSyllable +
      ((first - firstLeading) * vowelCount + (second - firstVowel)) *
        trailingCount)
  else if isOpenSyllable first ∧ beforeTrailing < second ∧
      second < beforeTrailing + trailingCount then
    some (first + (second - beforeTrailing))
  else none

/-! ## Taking apart and putting together -/

/-- The two characters that a composite means. -/
def parts? (c : Char) : Option (Char × Char) :=
  if isSyllable c.toNat then
    let (first, second) := syllableParts c.toNat
    some (Char.ofNat first, Char.ofNat second)
  else
    (composites.find? (·.whole == c.toNat)).map fun composite =>
      (Char.ofNat composite.first, Char.ofNat composite.second)

/-- The composite that stands for two characters in a row. -/
def composite? (first second : Char) : Option Char :=
  match syllable? first.toNat second.toNat with
  | some whole => some (Char.ofNat whole)
  | none =>
    (composites.find? fun composite =>
        composite.first == first.toNat && composite.second == second.toNat).map
      fun composite => Char.ofNat composite.whole

/-- The most steps in which a character is taken apart. -/
def stepsApart : Nat := 3

/-- What a character is made of, taken apart in as many steps as given. -/
def takenApart : Nat → Char → List Char
  | 0, c => [c]
  | steps + 1, c =>
    match parts? c with
    | some (first, second) => takenApart steps first ++ [second]
    | none => [c]

/-- Puts a character in front of others, but behind those marks at their start
that are of a lower class. -/
def insertMark (c : Char) : List Char → List Char
  | [] => [c]
  | d :: rest =>
    if combiningClass d ≠ 0 ∧ combiningClass d < combiningClass c then
      d :: insertMark c rest
    else c :: d :: rest

/-- Each run of marks in the order of their classes; marks of one class keep
their order. -/
def inOrder (chars : List Char) : List Char :=
  chars.foldr insertMark []

/-- Puts together what follows a letter.  The marks that stay behind the letter
are `kept`, the last one first. -/
def putTogether (letter : Char) (kept : List Char) : List Char → List Char
  | [] => letter :: kept.reverse
  | c :: rest =>
    let reaches :=
      kept.head?.all fun mark => combiningClass mark < combiningClass c
    match if reaches then composite? letter c else none with
    | some whole => putTogether whole kept rest
    | none =>
      if combiningClass c = 0 then
        letter :: (kept.reverse ++ putTogether c [] rest)
      else putTogether letter (c :: kept) rest

/-- Puts together what follows the first letter. -/
def putAllTogether : List Char → List Char
  | [] => []
  | c :: rest =>
    if combiningClass c = 0 then putTogether c [] rest
    else c :: putAllTogether rest

/-- The composed form of a text.  The few characters that no composed text has
in it are left as they are. -/
def composed (chars : List Char) : List Char :=
  putAllTogether (inOrder (chars.flatMap (takenApart stepsApart)))

end CivicRegistry.Text
