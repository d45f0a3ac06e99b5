import CivicRegistry.Text.Utf8
import CivicRegistry.Url.Address
import CivicRegistry.Url.Domain.Name

/-!
# Locators

A locator starts with the name of a scheme and a colon.  What follows depends on
the scheme: some schemes always name a host, files may, and of any other scheme
a host follows two slashes and everything else is free.  Only what can be wrong
with a locator is looked at here; every path, query and fragment is right.
-/

namespace CivicRegistry.Url

/-- How the rest of a locator is read. -/
inductive Form where
  /-- A host follows, whatever slashes there are. -/
  | hosted
  | file
  | general
deriving DecidableEq

def Form.ofScheme (scheme : String) : Form :=
  if scheme = "file" then .file
  else if scheme ∈ ["http", "https", "ws", "wss", "ftp"] then .hosted
  else .general

/-- Whether a backslash is as good as a slash. -/
def Form.takesBackslash : Form → Bool
  | .general => false
  | _ => true

/-- The control characters and the space, which do not count at the ends of a
locator. -/
def isEdge (c : Char) : Bool := c ≤ ' '

/-- The tabulator and the ends of lines, which do not count anywhere in a
locator. -/
def isSkipped (c : Char) : Bool := c == '\t' || c == '\n' || c == '\r'

/-- The characters of a locator that count. -/
def significant (text : String) : List Char :=
  let trimmed :=
    ((text.toList.dropWhile isEdge).reverse.dropWhile isEdge).reverse
  trimmed.filter (!isSkipped ·)

def isSchemeChar (c : Char) : Bool :=
  c.isAlphanum || c == '+' || c == '-' || c == '.'

/-- The scheme in lower case and what follows its colon. -/
def splitScheme? (chars : List Char) : Option (String × List Char) :=
  let name := chars.takeWhile isSchemeChar
  match chars.head?, chars.drop name.length with
  | some first, ':' :: rest =>
    if first.isAlpha then some (String.ofList (name.map Char.toLower), rest)
    else none
  | _, _ => none

/-- Whether a character ends the part of a locator that names the host. -/
def endsAuthority (form : Form) (c : Char) : Bool :=
  c == '/' || c == '?' || c == '#' || (c == '\\' && form.takesBackslash)

/-- Bytes with each percent sign and two hexadecimal digits after it taken for
the byte of that number. -/
def decodePercent : List UInt8 → List UInt8
  | 37 :: high :: low :: rest =>
    match Text.hexNumber? [Char.ofNat high.toNat, Char.ofNat low.toNat] with
    | some value => UInt8.ofNat value :: decodePercent rest
    | none => 37 :: decodePercent (high :: low :: rest)
  | byte :: rest => byte :: decodePercent rest
  | [] => []

/-- The canonical name of a domain that a host is given by. -/
def domainName? (host : List Char) : Option (List Char) := do
  let text ←
    Text.textOfBytes?
      (decodePercent (String.ofList host).toUTF8.toList).toByteArray
  Domain.canonical? text.toList

/-- Whether a host is the name of a domain or a short address. -/
def isDomain (host : List Char) : Bool :=
  (domainName? host).any fun name =>
    !name.isEmpty && (!endsInNumber name || isShortAddress name)

/-- Whether a host is right; one in square brackets is a long address. -/
def isHost (form : Form) (host : List Char) : Bool :=
  match host with
  | '[' :: inner => inner.getLast? == some ']' && isLongAddress inner.dropLast
  | _ => if form = .general then !host.any Domain.isForbidden else isDomain host

/-- The host at the start of some characters, and what follows it.  A colon ends
it except between brackets. -/
def splitHost (form : Form) : Bool → List Char → List Char × List Char
  | _, [] => ([], [])
  | bracketed, c :: rest =>
    if endsAuthority form c || (c == ':' && !bracketed) then ([], c :: rest)
    else
      let inner :=
        if c == '[' then true else if c == ']' then false else bracketed
      let (host, after) := splitHost form inner rest
      (c :: host, after)

/-- Whether a port is right: digits of a number below 65536, or nothing. -/
def isPort (digits : List Char) : Bool :=
  digits.all Char.isDigit && (numberIn? 10 digits).any (· < 65536)

/-- Whether what follows a host is right: nothing, a port, or the rest of the
locator. -/
def isAfterHost : List Char → Bool
  | ':' :: rest =>
    isPort (rest.takeWhile fun c =>
      !(c == '/' || c == '\\' || c == '?' || c == '#'))
  | _ => true

/-- Whether a user is named before the host by anything but colons. -/
def namesUser (user : List Char) : Bool :=
  match user with
  | [] => false
  | ':' :: password => !password.isEmpty
  | _ => true

/-- Whether a host with what stands around it is right, where `user` stands
before the last at sign. -/
def isAuthority (form : Form) (user : Option (List Char)) (chars : List Char) :
    Bool :=
  let (host, after) := splitHost form false chars
  if host.isEmpty then
    form == .general && after.head? != some ':' && !user.any namesUser &&
      (user != some [] || !after.head?.any (endsAuthority form))
  else isHost form host && isAfterHost after

/-- What stands before the last at sign of an authority, and the characters from
there on. -/
def splitUser (form : Form) (chars : List Char) :
    Option (List Char) × List Char :=
  let authority := chars.takeWhile (!endsAuthority form ·)
  let host := (authority.reverse.takeWhile (· != '@')).reverse
  if host.length < authority.length then
    let user := authority.take (authority.length - host.length - 1)
    (some user, chars.drop (user.length + 1))
  else (none, chars)

/-- Whether the characters after the slashes in front of a host are right. -/
def isHosted (form : Form) (chars : List Char) : Bool :=
  let (user, rest) := splitUser form chars
  isAuthority form user rest

/-- Whether a host of files is the letter of a drive instead. -/
def isDrive : List Char → Bool
  | [letter, mark] => letter.isAlpha && (mark == ':' || mark == '|')
  | _ => false

/-- Whether the characters after the colon of a locator of files are right. -/
def isFile : List Char → Bool
  | first :: second :: rest =>
    let isSlash (c : Char) : Bool := c == '/' || c == '\\'
    if isSlash first && isSlash second then
      let host := rest.takeWhile (!endsAuthority .file ·)
      host.isEmpty || isDrive host || isHost .file host
    else true
  | _ => true

/-- Whether the characters after the colon of a scheme are right. -/
def isRest (form : Form) (chars : List Char) : Bool :=
  match form with
  | .file => isFile chars
  | .hosted => isHosted form (chars.dropWhile fun c => c == '/' || c == '\\')
  | .general =>
    match chars with
    | '/' :: '/' :: rest => isHosted form rest
    | _ => true

/-- The scheme of a locator; a text that is no locator has none. -/
def scheme? (text : String) : Option String :=
  match splitScheme? (significant text) with
  | some (scheme, rest) =>
    if isRest (Form.ofScheme scheme) rest then some scheme else none
  | none => none

/-- Whether a text is a locator. -/
def isValid (text : String) : Bool := (scheme? text).isSome

end CivicRegistry.Url
