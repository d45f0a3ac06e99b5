/-!
# Order of binary64 numbers

Numbers compare by value: the two zeros are equal, and what is not a number
compares with nothing, not even with itself.
-/

namespace CivicRegistry.Binary64

/-- The order of two numbers, where they have one. -/
def compare (left right : Float) : Option Ordering :=
  left.toModel.compare right.toModel

/-- Whether two numbers are equal by value. -/
def same (left right : Float) : Bool :=
  compare left right == some .eq

/-- The number nearest to an integer; of two equally near the one with an even
last place. -/
def ofInteger (n : Int) : Float :=
  Float.ofInt n

end CivicRegistry.Binary64
