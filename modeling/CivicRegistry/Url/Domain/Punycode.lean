/-!
# Labels written in ASCII

A label with characters beyond ASCII can be written in ASCII.  Its ASCII
characters come first; behind the last hyphen follow numbers that say which
characters are put in, in increasing order, and where.  A number has its lowest
digit first, and its last digit is known by being below a threshold, which
depends on the place of the digit and adapts to the numbers before.
-/

namespace CivicRegistry.Url.Domain

/-- The number of digits there are. -/
def digitCount : Nat := 36

/-- The value of a digit: a letter, or a decimal digit after the letters. -/
def punycodeDigit? (c : Char) : Option Nat :=
  if 'a' ≤ c ∧ c ≤ 'z' then some (c.toNat - 'a'.toNat)
  else if 'A' ≤ c ∧ c ≤ 'Z' then some (c.toNat - 'A'.toNat)
  else if '0' ≤ c ∧ c ≤ '9' then some (c.toNat - '0'.toNat + 26)
  else none

/-- The threshold at the place `36`, `72` and so on. -/
def threshold (bias place : Nat) : Nat :=
  if place ≤ bias then 1 else if bias + 26 ≤ place then 26 else place - bias

/-- Divides a number by 35 until it is at most 455, and gives 36 for each
division. -/
def scaleDown (delta : Nat) : Nat × Nat :=
  if 455 < delta then
    let (rest, places) := scaleDown (delta / 35)
    (rest, places + digitCount)
  else (delta, 0)
termination_by delta
decreasing_by exact Nat.div_lt_self (by omega) (by omega)

/-- The bias after a number, where `count` characters are there now. -/
def adapted (delta count : Nat) (isFirst : Bool) : Nat :=
  let scaled := if isFirst then delta / 700 else delta / 2
  let (rest, places) := scaleDown (scaled + scaled / count)
  places + 36 * rest / (rest + 38)

/-- The numbers beyond which a label is not read. -/
def numberLimit : Nat := Nat.pow 2 32

/-- Adds the number at the start of some digits to a total, and gives what
follows the number. -/
def readNumber? (bias : Nat) :
    List Char → (place weight total : Nat) → Option (Nat × List Char)
  | [], _, _, _ => none
  | c :: rest, place, weight, total => do
    let digit ← punycodeDigit? c
    let total := total + digit * weight
    if numberLimit ≤ total then none
    else if digit < threshold bias place then return (total, rest)
    else
      let weight := weight * (digitCount - threshold bias place)
      if numberLimit ≤ weight then none
      else readNumber? bias rest (place + digitCount) weight total

theorem length_of_readNumber? {bias : Nat} {digits : List Char}
    {place weight total : Nat} {read : Nat × List Char}
    (h : readNumber? bias digits place weight total = some read) :
    read.2.length < digits.length := by
  induction digits generalizing place weight total with
  | nil => simp [readNumber?] at h
  | cons c rest ih =>
    rw [readNumber?] at h
    cases hd : punycodeDigit? c with
    | none => simp [hd] at h
    | some digit =>
      simp only [hd, Option.bind_eq_bind, Option.bind_some] at h
      split at h
      · simp at h
      · split at h
        · simp only [pure, Option.some.injEq] at h
          simp [← h]
        · split at h
          · simp at h
          · have := ih h
            simp only [List.length_cons]
            omega

/-- Whether a number is that of a character. -/
def isScalar (n : Nat) : Bool :=
  n < 0xD800 || (0xDFFF < n && n < 0x110000)

/-- Puts characters into a label as the numbers say: `code` is the last
character put in and `place` where the next one would go. -/
def insertAll? (bias code place : Nat) (label digits : List Char) :
    Option (List Char) :=
  match digits with
  | [] => some label
  | c :: rest =>
    match h : readNumber? bias (c :: rest) digitCount 1 place with
    | none => none
    | some (total, others) =>
      let count := label.length + 1
      let code := code + total / count
      let spot := total % count
      if isScalar code then
        insertAll? (adapted (total - place) count (place == 0)) code (spot + 1)
          (label.insertIdx spot (Char.ofNat code)) others
      else none
termination_by digits.length
decreasing_by exact length_of_readNumber? h

/-- What stands before and after the last hyphen; where there is none, all of it
stands after. -/
def splitAtHyphen (chars : List Char) : List Char × List Char :=
  let after := (chars.reverse.takeWhile (· != '-')).reverse
  (chars.take (chars.length - after.length - 1), after)

/-- The label that is written by some characters.  A hyphen with nothing in
front of it is no digit. -/
def ofPunycode? (chars : List Char) : Option (List Char) :=
  if chars.head? = some '-' ∧ (splitAtHyphen chars).1 = [] then none
  else insertAll? 72 128 0 (splitAtHyphen chars).1 (splitAtHyphen chars).2

end CivicRegistry.Url.Domain
