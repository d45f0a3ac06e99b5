import CivicRegistry.Text.Blank
import CivicRegistry.Text.Decimal
import CivicRegistry.Calendar.Instant

/-!
# Reading instants

The written form of an instant is a date, one of `T`, `t` or a space, a time of
day with seconds, and an offset.  Every number may have fewer digits than its
width and may follow blanks, blanks may stand before a separator and around the
whole, and the fraction of a second is cut after nine digits.  The offset is
`Z`, `UTC` in any case, or a sign with two digits of hours and two of minutes,
colons and blanks allowed between them.
-/

namespace CivicRegistry.Calendar.Timestamp

/-- What is left to read. -/
abbrev Rest := List Char

/-- A number of at least one and at most `width` digits. -/
def number? (width : Nat) (chars : List Char) : Option (Nat × Rest) :=
  let digits := (chars.take width).takeWhile Char.isDigit
  if digits.isEmpty then none
  else some (Text.decimal digits, chars.drop digits.length)

/-- The given character. -/
def char? (c : Char) (chars : List Char) : Option Rest :=
  match chars with
  | d :: rest => if d = c then some rest else none
  | [] => none

/-- Blanks and then a number. -/
def spaced? (width : Nat) (chars : List Char) : Option (Nat × Rest) :=
  number? width (Text.dropBlank chars)

/-- Blanks and then the given separator. -/
def separator? (c : Char) (chars : List Char) : Option Rest :=
  char? c (Text.dropBlank chars)

/-- A year: four digits at most, or any number of them after a sign. -/
def year? (chars : List Char) : Option (Int × Rest) :=
  match Text.dropBlank chars with
  | '-' :: rest =>
    (number? rest.length rest).map fun (n, rest) => (-(n : Int), rest)
  | '+' :: rest =>
    (number? rest.length rest).map fun (n, rest) => ((n : Int), rest)
  | rest => (number? 4 rest).map fun (n, rest) => ((n : Int), rest)

/-- Year, month and day joined by hyphens. -/
def date? (chars : List Char) : Option (Date × Rest) := do
  let (year, rest) ← year? chars
  let (month, rest) ← spaced? 2 (← separator? '-' rest)
  let (day, rest) ← spaced? 2 (← separator? '-' rest)
  let date ← Date.ofParts? year month day
  return (date, rest)

/-- The first nine digits of a fraction as nanoseconds; further digits are
passed over. -/
def nanos? (chars : List Char) : Option (Nat × Rest) := do
  let (value, rest) ← number? 9 chars
  let width := ((chars.take 9).takeWhile Char.isDigit).length
  return (value * Nat.pow 10 (9 - width), rest.dropWhile Char.isDigit)

/-- A time of day in seconds and nanoseconds; the sixtieth second is a leap
second. -/
def clock? (chars : List Char) : Option (Nat × Nat × Rest) := do
  let (hour, rest) ← spaced? 2 chars
  let (minute, rest) ← spaced? 2 (← separator? ':' rest)
  let (second, rest) ← spaced? 2 (← separator? ':' rest)
  let (nanos, rest) ←
    match rest with
    | '.' :: digits => nanos? digits
    | _ => some (0, rest)
  if hour ≤ 23 ∧ minute ≤ 59 ∧ second ≤ 60 then
    let leap := if second = 60 then Instant.nanosPerSecond else 0
    return (3600 * hour + 60 * minute + min second 59, nanos + leap, rest)
  else none

/-- Hours and minutes of an offset in seconds. -/
def offsetSpan? (chars : List Char) : Option (Nat × Rest) :=
  match chars with
  | h₁ :: h₂ :: rest =>
    match rest.dropWhile fun c => c == ':' || Text.isBlank c with
    | m₁ :: m₂ :: rest =>
      if h₁.isDigit ∧ h₂.isDigit ∧ m₁.isDigit ∧ m₁ ≤ '5' ∧ m₂.isDigit then
        some (3600 * Text.decimal [h₁, h₂] + 60 * Text.decimal [m₁, m₂], rest)
      else none
    | _ => none
  | _ => none

/-- The offset from the zone Z in seconds, less than a day either way. -/
def offset? (chars : List Char) : Option (Int × Rest) :=
  if (chars.take 3).map Char.toUpper = ['U', 'T', 'C'] then
    some (0, chars.drop 3)
  else
    match chars with
    | 'z' :: rest => some (0, rest)
    | 'Z' :: rest => some (0, rest)
    | sign :: rest =>
      match offsetSpan? rest with
      | some (span, rest) =>
        if Instant.secondsPerDay ≤ span then none
        else if sign = '+' then some (span, rest)
        else if sign = '-' ∨ sign = '\u2212' then some (-(span : Int), rest)
        else none
      | none => none
    | [] => none

/-- The days that a date can have. -/
def inCalendar (day : Int) : Bool :=
  (Date.mk Date.firstYear 1 1).dayNumber ≤ day &&
    day ≤ (Date.mk Date.lastYear 12 31).dayNumber

/-- Reads a whole text as an instant. -/
def instant? (text : String) : Option Instant := do
  let (date, rest) ← date? text.toList
  let (second, nanos, rest) ←
    match rest with
    | 'T' :: rest => clock? rest
    | 't' :: rest => clock? rest
    | ' ' :: rest => clock? rest
    | _ => none
  let (offset, rest) ← offset? (Text.dropBlank rest)
  let seconds := date.dayNumber * Instant.secondsPerDay + second - offset
  if (Text.dropBlank rest).isEmpty ∧
      inCalendar (seconds / Instant.secondsPerDay) then
    return ⟨seconds, nanos⟩
  else none

/-- Reads a whole text as a date. -/
def calendarDate? (text : String) : Option Date := do
  let (date, rest) ← date? text.toList
  if (Text.dropBlank rest).isEmpty then return date else none

end CivicRegistry.Calendar.Timestamp
