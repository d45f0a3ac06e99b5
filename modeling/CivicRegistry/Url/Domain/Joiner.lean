import CivicRegistry.Text.CombiningClass
import CivicRegistry.Url.Domain.JoiningTable

/-!
# Joiners

Two characters without width ask for letters to be joined or to be kept apart.
Either makes a difference behind the mark that takes a vowel away, and the one
that keeps letters apart also between letters that would be joined.  Elsewhere
they have no place in a name.
-/

namespace CivicRegistry.Url.Domain

/-- The character that keeps letters apart. -/
def nonJoiner : Char := Char.ofNat 0x200C

/-- The character that joins letters. -/
def joiner : Char := Char.ofNat 0x200D

/-- The combining class of the marks that take a vowel away. -/
def vowelKillerClass : Nat := 9

/-- Whether the nearest of some characters takes a vowel away. -/
def followsVowelKiller (before : List Char) : Bool :=
  before.head?.any fun c => Text.combiningClass c == vowelKillerClass

/-- The first of some characters that counts between letters. -/
def nextLetter? (chars : List Char) : Option Char :=
  (chars.dropWhile isTransparent).head?

/-- Whether a joiner has its place behind the characters `before`, the nearest
first, and in front of `after`. -/
def isPlaced (c : Char) (before after : List Char) : Bool :=
  if c = nonJoiner then
    followsVowelKiller before ||
      ((nextLetter? before).any joinsNext &&
        (nextLetter? after).any joinsPrevious)
  else if c = joiner then followsVowelKiller before
  else true

/-- Whether every joiner has its place in characters that follow `before`, the
nearest first. -/
def joinersArePlaced (before : List Char) : List Char → Bool
  | [] => true
  | c :: rest => isPlaced c before rest && joinersArePlaced (c :: before) rest

end CivicRegistry.Url.Domain
