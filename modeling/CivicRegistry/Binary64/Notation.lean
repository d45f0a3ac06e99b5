import CivicRegistry.Binary64.Shortest

/-!
# Written forms of numbers

Three notations: the one of data documents, which turns to an exponent for very
large and very small numbers; the plain one of messages, which never does and
writes no point after a whole number; and a fixed number of decimal places.
-/

namespace CivicRegistry.Binary64

def zeros (count : Nat) : String :=
  String.ofList (List.replicate count '0')

def signText (x : Float) : String :=
  if isNegative x then "-" else ""

/-- Digits with a point so that `before` of them, counted from the left, stand
before it. -/
def pointed (digits : List Char) (before : Nat) : String :=
  String.ofList (digits.take before) ++ "." ++
    String.ofList (digits.drop before)

/-- The largest and the smallest power of ten that is still written out in a
data document. -/
def largestPlain : Int := 15
def smallestPlain : Int := -5

/-- A finite number in a data document: plain with a point where the first digit
stands for a power of ten between `smallestPlain` and `largestPlain`, else one
digit, a point, the others and the power with its sign. -/
def documentText (x : Float) : String :=
  let decimal := shortest x
  let digits := decimal.digits.repr.toList
  let power := decimal.exponent + digits.length - 1
  let body :=
    if decimal.digits = 0 then "0.0"
    else if smallestPlain ≤ power ∧ power ≤ largestPlain then
      if 0 ≤ decimal.exponent then
        String.ofList digits ++ zeros decimal.exponent.toNat ++ ".0"
      else if 0 ≤ power then pointed digits (power.toNat + 1)
      else "0." ++ zeros (-power - 1).toNat ++ String.ofList digits
    else
      let mantissa :=
        if digits.length = 1 then String.ofList digits else pointed digits 1
      mantissa ++ "e" ++ (if power < 0 then "-" else "+") ++ power.natAbs.repr
  signText x ++ body

/-- Any number in a message: every digit written out, no point after a whole
number. -/
def plainText (x : Float) : String :=
  if x.isNaN then "NaN"
  else if x.isInf then signText x ++ "inf"
  else
    let decimal := shortest x
    let digits := decimal.digits.repr.toList
    let power := decimal.exponent + digits.length - 1
    let body :=
      if decimal.digits = 0 then "0"
      else if 0 ≤ decimal.exponent then
        String.ofList digits ++ zeros decimal.exponent.toNat
      else if 0 ≤ power then pointed digits (power.toNat + 1)
      else "0." ++ zeros (-power - 1).toNat ++ String.ofList digits
    signText x ++ body

/-- The quotient of two whole numbers rounded to the nearest whole number, a
half to the even neighbour. -/
def roundedQuotient (numerator denominator : Nat) : Nat :=
  let quotient := numerator / denominator
  let twice := 2 * (numerator % denominator)
  if twice < denominator then quotient
  else if denominator < twice then quotient + 1
  else quotient + quotient % 2

/-- Any number with the given number of decimal places, at least one. -/
def fixedText (places : Nat) (x : Float) : String :=
  if x.isNaN then "NaN"
  else if x.isInf then signText x ++ "inf"
  else
    let scaled := magnitude x
    let numerator :=
      scaled.units * Nat.pow 2 scaled.exponent.toNat * Nat.pow 10 places
    let count :=
      (roundedQuotient numerator
        (Nat.pow 2 (-scaled.exponent).toNat)).repr.toList
    let digits := List.replicate (places + 1 - count.length) '0' ++ count
    signText x ++ pointed digits (digits.length - places)

end CivicRegistry.Binary64
