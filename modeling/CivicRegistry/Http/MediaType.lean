import CivicRegistry.Naming

/-!
# Media types

A media type is a type, a slash and a subtype, which may end in a plus and a
suffix, and may be followed by parameters after semicolons.  Documents are sent
as the application type `json` or as one with that suffix.
-/

namespace CivicRegistry.Http.MediaType

/-- The characters of names. -/
def isNameChar (c : Char) : Bool :=
  c.isAlphanum || "!#$%&'*+-.^_`|~".toList.contains c

/-- The characters of quoted values. -/
def isQuotable (c : Char) : Bool := ' ' ≤ c && c ≠ '\x7f'

/-- Where in a list of parameters a reader stands. -/
inductive Place where
  | beforeName
  | inName
  | beforeValue
  | inValue
  | afterQuote
  | inQuoted
  | afterQuoted

/-- Whether the rest of a list of parameters is well formed.  A quoted value has
at least one character. -/
def parametersFrom : Place → List Char → Bool
  | .beforeName, [] => true
  | .beforeName, c :: rest =>
    if c = ' ' then parametersFrom .beforeName rest
    else isNameChar c && parametersFrom .inName rest
  | .inName, [] => false
  | .inName, c :: rest =>
    if c = '=' then parametersFrom .beforeValue rest
    else isNameChar c && parametersFrom .inName rest
  | .beforeValue, [] => true
  | .beforeValue, c :: rest =>
    if c = '"' then parametersFrom .afterQuote rest
    else isNameChar c && parametersFrom .inValue rest
  | .inValue, [] => true
  | .inValue, c :: rest =>
    if c = ';' then parametersFrom .beforeName rest
    else isNameChar c && parametersFrom .inValue rest
  | .afterQuote, [] => false
  | .afterQuote, c :: rest => isQuotable c && parametersFrom .inQuoted rest
  | .inQuoted, [] => false
  | .inQuoted, c :: rest =>
    isQuotable c &&
      parametersFrom (if c = '"' then .afterQuoted else .inQuoted) rest
  | .afterQuoted, [] => true
  | .afterQuoted, c :: rest =>
    if c = ';' then parametersFrom .beforeName rest
    else c = ' ' && parametersFrom .afterQuoted rest

/-- A subtype before its last plus, unless that comes first, and the suffix
after it. -/
def splitSuffix (subtype : List Char) : List Char × Option (List Char) :=
  let suffix := (subtype.reverse.takeWhile (· != '+')).reverse
  let before := subtype.take (subtype.length - suffix.length - 1)
  if suffix.length < subtype.length ∧ !before.isEmpty then (before, some suffix)
  else (subtype, none)

/-- Whether a text is the media type of documents. -/
def isJson (text : String) : Bool :=
  let chars := text.toList.map Char.toLower
  let kind := chars.takeWhile (· != '/')
  let rest := chars.drop (kind.length + 1)
  let subtype := rest.takeWhile (· != ';')
  let (name, suffix) := splitSuffix subtype
  kind == "application".toList && subtype.all isNameChar &&
    (name == "json".toList || suffix == some "json".toList) &&
    parametersFrom .beforeName (rest.drop (subtype.length + 1))

end CivicRegistry.Http.MediaType
