import CivicRegistry.Text.Hex

/-!
# Addresses

A host is given by a name or by its address.  The shorter kind of address is
written as one to four numbers with points between them, the last of which fills
all places that are left.  The longer kind is eight groups of hexadecimal digits
with colons between them: a run of zero groups may be left out where two colons
stand together, and an address of the shorter kind may stand for the last two
groups.
-/

namespace CivicRegistry.Url

/-- The number that some digits of a base stand for; nothing where another
character is among them. -/
def numberIn? (base : Nat) (digits : List Char) : Option Nat :=
  digits.foldlM (fun total c => do
    let value ← Text.hexValue? c
    if value < base then some (base * total + value) else none) 0

/-- One of the numbers of a short address: after `0x` it is hexadecimal, after
another zero octal, else decimal. -/
def addressNumber? : List Char → Option Nat
  | [] => none
  | '0' :: 'x' :: digits => numberIn? 16 digits
  | '0' :: 'X' :: digits => numberIn? 16 digits
  | '0' :: c :: digits => numberIn? 8 (c :: digits)
  | digits => numberIn? 10 digits

/-- The parts of a name between its points, without an empty one at the end. -/
def labels (name : List Char) : List (List Char) :=
  let parts := name.splitOn '.'
  if parts.getLast? = some [] then parts.dropLast else parts

/-- Whether a name has to be a short address because it ends in a number. -/
def endsInNumber (name : List Char) : Bool :=
  (labels name).getLast?.any fun last =>
    (!last.isEmpty && last.all Char.isDigit) || (addressNumber? last).isSome

/-- Whether numbers fill the four places of a short address: all but the last
are below 256. -/
def fillsShort (numbers : List Nat) : Bool :=
  numbers.length ≤ 4 && numbers.dropLast.all (· < 256) &&
    numbers.getLast?.any (· < Nat.pow 256 (5 - numbers.length))

/-- Whether a name is a short address. -/
def isShortAddress (name : List Char) : Bool :=
  ((labels name).mapM addressNumber?).any fillsShort

/-- Whether a text is a decimal number below 256 without zeros in front. -/
def isOctet (digits : List Char) : Bool :=
  !digits.isEmpty && digits.all Char.isDigit &&
    (digits.length = 1 || digits.head? != some '0') &&
    (numberIn? 10 digits).any (· < 256)

/-- Whether a text is four decimal numbers with points between them. -/
def isDotted (text : List Char) : Bool :=
  let parts := text.splitOn '.'
  parts.length = 4 && parts.all isOctet

/-- Whether a text is one to four hexadecimal digits. -/
def isGroup (text : List Char) : Bool :=
  !text.isEmpty && text.length ≤ 4 && (Text.hexNumber? text).isSome

/-- The number of groups that parts between colons stand for.  Only the last
part can be a short address, if it may be one at all. -/
def groupCount? (mayBeDotted : Bool) : List (List Char) → Option Nat
  | [] => some 0
  | [last] =>
    if isGroup last then some 1
    else if mayBeDotted && isDotted last then some 2 else none
  | part :: others =>
    if isGroup part then (groupCount? mayBeDotted others).map (· + 1) else none

/-- The number of groups of a text, which may be empty. -/
def groupsIn? (mayBeDotted : Bool) (text : List Char) : Option Nat :=
  if text.isEmpty then some 0 else groupCount? mayBeDotted (text.splitOn ':')

/-- What stands before and after the first two colons that stand together. -/
def splitAtGap? : List Char → Option (List Char × List Char)
  | [] => none
  | ':' :: ':' :: rest => some ([], rest)
  | c :: rest =>
    (splitAtGap? rest).map fun (before, after) => (c :: before, after)

/-- Whether a text is a long address. -/
def isLongAddress (text : List Char) : Bool :=
  match splitAtGap? text with
  | none => groupsIn? true text == some 8
  | some (before, after) =>
    match groupsIn? false before, groupsIn? true after with
    | some left, some right => left + right ≤ 7
    | _, _ => false

end CivicRegistry.Url
