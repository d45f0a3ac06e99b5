/-!
# Reading decimals by one scaling

A decimal of a data document is read as a whole number below 2^64 and a power of
ten.  The whole number is rounded to binary64 and then multiplied or divided
once by the power of ten, so a long decimal can come out next to the nearest
number instead of on it.  A power beyond the largest that binary64 holds is
applied in pieces.
-/

namespace CivicRegistry.Binary64

/-- The largest power of ten that is a finite number. -/
def largestPower : Nat := 308

/-- The number nearest to a power of ten. -/
def powerOfTen (power : Nat) : Float :=
  Float.ofScientific 1 false power

/-- Divides by ten to the given power, the largest finite power of ten at a
time.  Zero stays zero. -/
def scaledDown (x : Float) (power : Nat) : Float :=
  if power ≤ largestPower then x / powerOfTen power
  else if x == 0 then x
  else scaledDown (x / powerOfTen largestPower) (power - largestPower)
termination_by power
decreasing_by simp_all only [largestPower]; omega

/-- `significand` times ten to the power `exponent`; nothing where that is too
large. -/
def ofParts? (negative : Bool) (significand : Nat) (exponent : Int) :
    Option Float :=
  let whole := Float.ofNat significand
  let value :=
    if exponent < 0 then scaledDown whole exponent.natAbs
    else if exponent.toNat ≤ largestPower then whole * powerOfTen exponent.toNat
    else if significand = 0 then whole
    else whole / 0
  if value.isInf then none
  else some (if negative then -value else value)

end CivicRegistry.Binary64
