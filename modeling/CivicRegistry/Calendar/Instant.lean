import CivicRegistry.Calendar.Date

/-!
# Instants

An instant is a number of seconds since the start of 1970 and a number of
nanoseconds within the second.  A leap second is the second before it with a
further whole second of nanoseconds, so that it lies between its neighbours.
-/

namespace CivicRegistry.Calendar

structure Instant where
  seconds : Int
  nanos : Nat
deriving DecidableEq, Inhabited

namespace Instant

def compare (left right : Instant) : Ordering :=
  (Ord.compare left.seconds right.seconds).then
    (Ord.compare left.nanos right.nanos)

instance : LT Instant := ⟨fun left right => left.compare right = .lt⟩

instance (left right : Instant) : Decidable (left < right) :=
  inferInstanceAs (Decidable (left.compare right = .lt))

def secondsPerDay : Int := 86400

def nanosPerSecond : Nat := 1000000000

/-- The fraction of a second, with the fewest of 0, 3, 6 or 9 digits that lose
nothing. -/
def fractionText (nanos : Nat) : String :=
  if nanos = 0 then ""
  else if nanos % 1000000 = 0 then "." ++ padded 3 (nanos / 1000000)
  else if nanos % 1000 = 0 then "." ++ padded 6 (nanos / 1000)
  else "." ++ padded 9 nanos

/-- Date and time in the zone Z; a leap second is the sixtieth of its minute. -/
def text (instant : Instant) : String :=
  let day := instant.seconds / secondsPerDay
  let second := (instant.seconds - day * secondsPerDay).toNat
  let leap := nanosPerSecond ≤ instant.nanos
  let clock :=
    padded 2 (second / 3600) ++ ":" ++ padded 2 (second / 60 % 60) ++ ":" ++
    padded 2 (second % 60 + if leap then 1 else 0)
  let fraction :=
    fractionText
      (if leap then instant.nanos - nanosPerSecond else instant.nanos)
  (Date.ofDayNumber day).text ++ "T" ++ clock ++ fraction ++ "Z"

/-- Nanoseconds since the start of 1970. -/
def totalNanos (instant : Instant) : Int :=
  instant.seconds * nanosPerSecond + instant.nanos

end Instant

end CivicRegistry.Calendar
