import CivicRegistry.Text.Blank

/-!
# Constant names and wire names

Every attribute has a constant name, upper-case segments joined by underscores
such as `WARD_NUMBER`, and a wire name, the same segments in camel case such as
`wardNumber`.  Each is computed from the other.  Letters are the letters of
ASCII; every other character is its own upper and lower case.
-/

namespace CivicRegistry.Naming

/-- A segment with its first letter in upper case and the others in lower
case. -/
def capitalized : List Char → List Char
  | [] => []
  | c :: rest => c.toUpper :: rest.map Char.toLower

/-- The non-empty segments of a constant name. -/
def segments (constant : List Char) : List (List Char) :=
  (constant.splitOn '_').filter (!·.isEmpty)

/-- The characters of the wire name of a constant name. -/
def wireChars (constant : List Char) : List Char :=
  match segments constant with
  | [] => []
  | first :: others => first.map Char.toLower ++ others.flatMap capitalized

/-- The wire name of a constant name: `WARD_NUMBER` becomes `wardNumber`. -/
def wireName (constant : String) : String :=
  String.ofList (wireChars constant.toList)

/-- A character of a wire name that is not the first: an upper-case letter
starts a segment. -/
def segmentStart (c : Char) : List Char :=
  if c.isUpper then ['_', c] else [c.toUpper]

/-- The characters of the constant name of a wire name. -/
def constantChars : List Char → List Char
  | [] => []
  | c :: rest => c.toUpper :: rest.flatMap segmentStart

/-- The constant name of a wire name: `wardNumber` becomes `WARD_NUMBER`. -/
def constantName (wire : String) : String :=
  String.ofList (constantChars wire.toList)

/-- The text in upper case, as far as the letters of ASCII go. -/
def upperCased (text : String) : String :=
  String.ofList (text.toList.map Char.toUpper)

/-- A token as it is compared with constant names: without surrounding blanks
and in upper case. -/
def canonicalToken (token : String) : String :=
  upperCased (Text.trim token)

end CivicRegistry.Naming
