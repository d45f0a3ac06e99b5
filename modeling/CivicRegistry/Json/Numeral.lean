import CivicRegistry.Binary64.Reading
import CivicRegistry.Text.Decimal
import CivicRegistry.Text.Utf8

/-!
# Numbers in documents

A number is an optional minus, whole digits without a leading zero, an optional
fraction and an optional exponent.  Without fraction and exponent it is an
integer as long as it fits into 64 bits, with a sign only if it is negative;
every other number is read as a binary64 number, and one that is too large for
that has no value.
-/

namespace CivicRegistry.Json

open CivicRegistry.Text (Symbol)

/-- The value of a number.  One that is too large may be known to be so before
its last digit is reached. -/
inductive Numeral where
  | integer (value : Int)
  | float (value : Float)
  | tooLarge (digitsLeft : Nat)

/-- The exponent of a number as it is written. -/
structure WrittenExponent where
  negative : Bool
  digits : List Char

/-- The parts of a written number. -/
structure WrittenNumber where
  negative : Bool
  whole : List Char
  fraction : List Char
  exponent : Option WrittenExponent

/-- Digits at the start of the input and what follows them. -/
def spanDigits : List Symbol → List Char × List Symbol
  | some c :: rest =>
    if c.isDigit then
      let (digits, rest) := spanDigits rest
      (c :: digits, rest)
    else ([], some c :: rest)
  | rest => ([], rest)

/-- The largest whole number that the digits of a number are gathered in. -/
def significandLimit : Nat := Nat.pow 2 64 - 1

/-- The largest whole number that the digits of an exponent are gathered in. -/
def exponentLimit : Nat := Nat.pow 2 31 - 1

/-- Gathers digits as long as the whole number stays within a limit, and gives
the digits left over. -/
def gather (limit total : Nat) : List Char → Nat × List Char
  | [] => (total, [])
  | c :: rest =>
    let next := 10 * total + Text.digitValue c
    if next ≤ limit then gather limit next rest else (total, c :: rest)

namespace WrittenExponent

def value (exponent : WrittenExponent) : Int :=
  if exponent.negative then -(Text.decimal exponent.digits : Int)
  else Text.decimal exponent.digits

/-- The number of digits after the one by which a positive exponent goes beyond
its limit. -/
def digitsLeft (exponent : WrittenExponent) : Nat :=
  if exponent.negative then 0
  else (gather exponentLimit 0 exponent.digits).2.length - 1

end WrittenExponent

/-- The value of a written number.  Whole digits that no longer fit count as
powers of ten; fraction digits that no longer fit are dropped. -/
def WrittenNumber.value (number : WrittenNumber) : Numeral :=
  let (significand, wholeLeft) := gather significandLimit 0 number.whole
  let isWhole :=
    wholeLeft.isEmpty && number.fraction.isEmpty && number.exponent.isNone
  if isWhole && !number.negative then .integer significand
  else if isWhole && 1 ≤ significand && significand ≤ Nat.pow 2 63 then
    .integer (-(significand : Int))
  else
    let (gathered, fractionLeft) :=
      gather significandLimit significand number.fraction
    let shift : Int :=
      wholeLeft.length - (number.fraction.length - fractionLeft.length : Nat)
    match Binary64.ofParts? number.negative gathered
        (shift + number.exponent.elim 0 (·.value)) with
    | some value => .float value
    | none => .tooLarge (number.exponent.elim 0 (·.digitsLeft))

/-- The fraction of a number: nothing, or a point and at least one digit. -/
def scanFraction (input : List Symbol) : Option (List Char × List Symbol) :=
  match input with
  | some '.' :: rest =>
    let (digits, rest) := spanDigits rest
    if digits.isEmpty then none else some (digits, rest)
  | _ => some ([], input)

/-- The sign of an exponent and what follows it. -/
def scanSign : List Symbol → Bool × List Symbol
  | some '-' :: rest => (true, rest)
  | some '+' :: rest => (false, rest)
  | rest => (false, rest)

/-- The exponent of a number: nothing, or a mark, an optional sign and at least
one digit. -/
def scanExponent (input : List Symbol) :
    Option (Option WrittenExponent × List Symbol) :=
  match input with
  | some c :: rest =>
    if c = 'e' ∨ c = 'E' then
      let (negative, rest) := scanSign rest
      let (digits, rest) := spanDigits rest
      if digits.isEmpty then none else some (some ⟨negative, digits⟩, rest)
    else some (none, input)
  | _ => some (none, input)

/-- An unsigned number at the start of the input. -/
def scanUnsigned (negative : Bool) (input : List Symbol) :
    Option (Numeral × List Symbol) := do
  let (whole, rest) := spanDigits input
  if whole.isEmpty ∨ (whole.head? = some '0' ∧ 1 < whole.length) then none
  else
    let (fraction, rest) ← scanFraction rest
    let (exponent, rest) ← scanExponent rest
    return ((WrittenNumber.mk negative whole fraction exponent).value, rest)

/-- A number at the start of the input; nothing where none is complete. -/
def scanNumber (input : List Symbol) : Option (Numeral × List Symbol) :=
  match input with
  | some '-' :: rest => scanUnsigned true rest
  | _ => scanUnsigned false input

end CivicRegistry.Json
