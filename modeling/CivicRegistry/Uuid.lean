import CivicRegistry.Text.Hex

/-!
# Identifiers of 128 bits

An identifier is written as thirty-two hexadecimal digits in groups of 8, 4, 4,
4 and 12 joined by hyphens.  It is read in that form, bare, in braces or after
`urn:uuid:` in any case, and also as thirty-two digits without hyphens.
Identifiers are ordered as numbers, which is the order of their written forms.
-/

namespace CivicRegistry

structure Uuid where
  bits : BitVec 128
deriving DecidableEq, Inhabited

namespace Uuid

def compare (left right : Uuid) : Ordering :=
  Ord.compare left.bits.toNat right.bits.toNat

/-- The identifier all of whose bits are zero. -/
def nil : Uuid := ⟨0⟩

/-- The lengths of the hyphenated groups of digits. -/
def groupLengths : List Nat := [8, 4, 4, 4, 12]

/-- Cuts a run of digits into hyphenated groups of the given lengths. -/
def hyphenated : List Nat → List Char → List Char
  | [], _ => []
  | [length], digits => digits.take length
  | length :: others, digits =>
    digits.take length ++ '-' :: hyphenated others (digits.drop length)

/-- The characters of the written form. -/
def chars (uuid : Uuid) : List Char :=
  hyphenated groupLengths (Text.hexDigits 32 uuid.bits.toNat)

/-- The written form: lower-case digits in hyphenated groups. -/
def text (uuid : Uuid) : String :=
  String.ofList uuid.chars

/-- The identifier of thirty-two digits. -/
def ofDigits? (digits : List Char) : Option Uuid :=
  if digits.length = 32 then
    (Text.hexNumber? digits).map fun n => ⟨BitVec.ofNat 128 n⟩
  else none

/-- The digits of a hyphenated form; nothing unless the groups have their
lengths. -/
def groupedDigits? (chars : List Char) : Option (List Char) :=
  let groups := chars.splitOn '-'
  if groups.map List.length = groupLengths then some groups.flatten else none

/-- What stands inside braces or after the scheme of a resource name; any other
text is left as it is. -/
def bare (chars : List Char) : List Char :=
  let scheme := "urn:uuid:".toList
  if (chars.take scheme.length).map Char.toLower = scheme then
    chars.drop scheme.length
  else if chars.head? = some '\x7b' ∧ chars.getLast? = some '\x7d' then
    (chars.drop 1).dropLast
  else chars

/-- Reads any of the written forms. -/
def ofText? (text : String) : Option Uuid :=
  let chars := text.toList
  if chars.length = 32 then ofDigits? chars
  else (groupedDigits? (bare chars)).bind ofDigits?

end Uuid

end CivicRegistry
