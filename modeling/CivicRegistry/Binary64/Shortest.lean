/-!
# The shortest decimal that reads back

Every finite number is surrounded by an interval of reals that round to it.  The
shortest decimal of the number is the one with the fewest digits in that
interval, and of those the one nearest to the number.  The search goes down the
decimal grids from the coarsest, and on each grid only the two neighbours of the
number matter: if any point of the grid lies in the interval, one of them does.
-/

namespace CivicRegistry.Binary64

/-- A decimal: `digits` times ten to the power `exponent`. -/
structure Decimal where
  digits : Nat
  exponent : Int
deriving DecidableEq, Repr

/-- A positive number as a whole number of units, each two to the power
`exponent`. -/
structure Scaled where
  units : Nat
  exponent : Int
deriving DecidableEq, Repr

/-- Whether the sign is negative, of zeros too. -/
def isNegative (x : Float) : Bool :=
  x.toBits >>> 63 == 1

/-- The magnitude of a finite number. -/
def magnitude (x : Float) : Scaled :=
  let bits := x.toBits.toNat
  let fraction := bits % Nat.pow 2 52
  let exponent : Nat := bits / Nat.pow 2 52 % Nat.pow 2 11
  if exponent = 0 then ⟨fraction, -1074⟩
  else ⟨fraction + Nat.pow 2 52, (exponent : Int) - 1075⟩

/-- The interval of reals that round to a number, in quarters of a unit.  Below
a power of two the neighbour is half as far away as above it. -/
structure Interval where
  low : Nat
  value : Nat
  high : Nat
  exponent : Int
  closed : Bool

def Scaled.interval (x : Scaled) : Interval where
  low :=
    if x.units = Nat.pow 2 52 ∧ -1074 < x.exponent then 4 * x.units - 1
    else 4 * x.units - 2
  value := 4 * x.units
  high := 4 * x.units + 2
  exponent := x.exponent - 2
  closed := x.units % 2 == 0

/-- The factors by which whole numbers of quarter units and whole numbers of
steps of the decimal grid `10 ^ grid` become comparable. -/
def Interval.factors (interval : Interval) (grid : Int) : Nat × Nat :=
  (Nat.pow 2 interval.exponent.toNat * Nat.pow 10 (-grid).toNat,
    Nat.pow 2 (-interval.exponent).toNat * Nat.pow 10 grid.toNat)

/-- Whether the point `digits * 10 ^ grid` lies in the interval. -/
def Interval.contains (interval : Interval) (digits : Nat) (grid : Int) :
    Bool :=
  let (unit, step) := interval.factors grid
  let point := digits * step
  if interval.closed then
    interval.low * unit ≤ point && point ≤ interval.high * unit
  else interval.low * unit < point && point < interval.high * unit

/-- The point of the grid `10 ^ grid` that stands for the number, if one lies in
its interval: the nearer neighbour, and the even one of two equally near. -/
def Interval.onGrid? (interval : Interval) (grid : Int) : Option Nat :=
  let (unit, step) := interval.factors grid
  let value := interval.value * unit
  let below := value / step
  match interval.contains below grid, interval.contains (below + 1) grid with
  | true, false => some below
  | false, true => some (below + 1)
  | false, false => none
  | true, true =>
    let toBelow := value - below * step
    let toAbove := (below + 1) * step - value
    if toBelow < toAbove then some below
    else if toAbove < toBelow then some (below + 1)
    else if below % 2 = 0 then some below
    else some (below + 1)

/-- The first grid from `grid` downward, at most `steps` of them, that has a
point in the interval. -/
def Interval.search (interval : Interval) : Nat → Int → Decimal
  | 0, grid => ⟨0, grid⟩
  | steps + 1, grid =>
    match interval.onGrid? grid with
    | some digits => ⟨digits, grid⟩
    | none => interval.search steps (grid - 1)

/-- A grid no finer than the first one that can have a point in the interval:
three decimal digits are fewer than ten binary ones. -/
def Interval.coarsestGrid (interval : Interval) : Int :=
  ((interval.high.log2 : Int) + interval.exponent) * 30103 / 100000 + 2

/-- The shortest decimal of a finite number without its sign; zero is a single
digit. -/
def shortest (x : Float) : Decimal :=
  let scaled := magnitude x
  if scaled.units = 0 then ⟨0, 0⟩
  else scaled.interval.search 24 scaled.interval.coarsestGrid

end CivicRegistry.Binary64
