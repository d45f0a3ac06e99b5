import CivicRegistry.Calendar.Instant

/-!
# Moments and spans

A clock answers moments, counted in nanoseconds.  A span is a length of time; it
is written in the largest of seconds, milliseconds, microseconds and nanoseconds
of which it has at least one.
-/

namespace CivicRegistry.Calendar

/-- A length of time in nanoseconds. -/
structure Span where
  nanos : Nat
deriving DecidableEq, Inhabited

namespace Span

def ofMicros (micros : Nat) : Span := ⟨micros * 1000⟩

def ofMillis (millis : Nat) : Span := ⟨millis * 1000000⟩

def ofSeconds (seconds : Nat) : Span := ⟨seconds * 1000000000⟩

/-- The digits of a fraction of the given width, without zeros at the end. -/
def fractionText (width part : Nat) : String :=
  let digits :=
    ((padded width part).toList.reverse.dropWhile (· == '0')).reverse
  if digits.isEmpty then "" else String.ofList ('.' :: digits)

/-- A number of units, each of `10 ^ width` nanoseconds. -/
def inUnits (nanos width : Nat) (unit : String) : String :=
  (nanos / Nat.pow 10 width).repr ++
    fractionText width (nanos % Nat.pow 10 width) ++ unit

def text (span : Span) : String :=
  if Nat.pow 10 9 ≤ span.nanos then inUnits span.nanos 9 "s"
  else if Nat.pow 10 6 ≤ span.nanos then inUnits span.nanos 6 "ms"
  else if Nat.pow 10 3 ≤ span.nanos then inUnits span.nanos 3 "µs"
  else inUnits span.nanos 0 "ns"

end Span

/-- A moment of the clock, in nanoseconds since the start of 1970. -/
structure Moment where
  nanos : Int
deriving DecidableEq, Inhabited

namespace Moment

instance : LT Moment := ⟨fun left right => left.nanos < right.nanos⟩

instance : LE Moment := ⟨fun left right => left.nanos ≤ right.nanos⟩

instance (left right : Moment) : Decidable (left < right) :=
  inferInstanceAs (Decidable (left.nanos < right.nanos))

instance (left right : Moment) : Decidable (left ≤ right) :=
  inferInstanceAs (Decidable (left.nanos ≤ right.nanos))

/-- The whole seconds since the start of 1970. -/
def second (moment : Moment) : Int :=
  moment.nanos / Instant.nanosPerSecond

/-- The moment a span later. -/
def after (moment : Moment) (span : Span) : Moment :=
  ⟨moment.nanos + span.nanos⟩

/-- The instant of a moment. -/
def instant (moment : Moment) : Instant :=
  ⟨moment.second, (moment.nanos % Instant.nanosPerSecond).toNat⟩

theorem lt_iff {left right : Moment} :
    left < right ↔ left.nanos < right.nanos :=
  Iff.rfl

theorem le_iff {left right : Moment} :
    left ≤ right ↔ left.nanos ≤ right.nanos :=
  Iff.rfl

@[simp]
theorem nanos_after (moment : Moment) (span : Span) :
    (moment.after span).nanos = moment.nanos + span.nanos :=
  rfl

end Moment

end CivicRegistry.Calendar
