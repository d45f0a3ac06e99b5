import CivicRegistry.Text.CaseTables
import CivicRegistry.Text.Ranges

/-!
# Lower case

The lower-case form of a text replaces each character by its lower-case form.
Two characters need more than a table of single characters: the dotted capital I
becomes two characters, and a capital sigma becomes the final sigma where it
ends a word, that is, where a cased letter stands before it and none after it,
the case-ignorable characters in between not counting.
-/

namespace CivicRegistry.Text

def isCased (c : Char) : Bool :=
  inRanges casedRanges c

def isCaseIgnorable (c : Char) : Bool :=
  inRanges caseIgnorableRanges c

/-- Whether the range gives this code point a lower-case form. -/
def CaseRange.covers (range : CaseRange) (n : Nat) : Bool :=
  range.first ≤ n && n ≤ range.last && (n - range.first) % range.step == 0

/-- The lower-case form of one character, where it does not depend on its
neighbours. -/
def lowerChar (c : Char) : List Char :=
  if c.toNat = 0x130 then ['i', Char.ofNat 0x307]
  else
    match lowerCaseRanges.find? (·.covers c.toNat) with
    | some range => [Char.ofNat (c.toNat + range.shift).toNat]
    | none => [c]

/-- Whether a cased character comes next once the case-ignorable ones are passed
over. -/
def reachesCased (chars : List Char) : Bool :=
  match chars.dropWhile isCaseIgnorable with
  | c :: _ => isCased c
  | [] => false

/-- Lower case of a run of characters that follows `before`, the nearest of them
first. -/
def lowerFrom (before : List Char) : List Char → List Char
  | [] => []
  | c :: rest =>
    let lower :=
      if c = 'Σ' then
        if reachesCased before && !reachesCased rest then ['ς'] else ['σ']
      else lowerChar c
    lower ++ lowerFrom (c :: before) rest

/-- The lower-case form of a text. -/
def lowercase (chars : List Char) : List Char :=
  lowerFrom [] chars

end CivicRegistry.Text
