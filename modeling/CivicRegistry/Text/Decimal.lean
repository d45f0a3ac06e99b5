/-!
# Decimal digits

The value of a run of decimal digits.
-/

namespace CivicRegistry.Text

def digitValue (c : Char) : Nat := c.toNat - '0'.toNat

/-- The number that a run of decimal digits stands for; no digits stand for
zero. -/
def decimal (digits : List Char) : Nat :=
  digits.foldl (fun total c => 10 * total + digitValue c) 0

end CivicRegistry.Text
