import CivicRegistry.Binary64.Notation
import CivicRegistry.Json.Value
import CivicRegistry.Text.Hex

/-!
# Writing documents

Documents are written without spaces.  In a text only the quote, the backslash
and the control characters below the space are escaped; a number that is not
finite is written as null.
-/

namespace CivicRegistry.Json

/-- The characters a text needs for one of its own. -/
def escaped (c : Char) : List Char :=
  if c = '"' then ['\\', '"']
  else if c = '\\' then ['\\', '\\']
  else if c = '\x08' then ['\\', 'b']
  else if c = '\t' then ['\\', 't']
  else if c = '\n' then ['\\', 'n']
  else if c = '\x0c' then ['\\', 'f']
  else if c = '\r' then ['\\', 'r']
  else if c.toNat < 0x20 then ['\\', 'u'] ++ Text.hexDigits 4 c.toNat
  else [c]

def quoted (value : String) : String :=
  String.ofList ('"' :: value.toList.flatMap escaped ++ ['"'])

def floatText (value : Float) : String :=
  if value.isFinite then Binary64.documentText value else "null"

mutual

def print : Json → String
  | .null => "null"
  | .boolean true => "true"
  | .boolean false => "false"
  | .integer value => value.repr
  | .float value => floatText value
  | .text value => quoted value
  | .array items => "[" ++ printItems items ++ "]"
  | .object members => "\x7b" ++ printMembers members ++ "\x7d"

def printItems : List Json → String
  | [] => ""
  | [item] => item.print
  | item :: others => item.print ++ "," ++ printItems others

def printMembers : List (String × Json) → String
  | [] => ""
  | [(name, value)] => quoted name ++ ":" ++ value.print
  | (name, value) :: others =>
    quoted name ++ ":" ++ value.print ++ "," ++ printMembers others

end

end CivicRegistry.Json
