import CivicRegistry.Entity.Row
import CivicRegistry.Predicate.Basic
import CivicRegistry.Text.Lowercase
import CivicRegistry.Text.Occurrence

/-!
# Matching rows

A row matches a condition when the value of the field does; an absent value
matches nothing, and a collection matches when any of its elements does.  A text
contains another when it does so with both in lower case.
-/

namespace CivicRegistry

namespace Value

/-- Whether a value equals another, where they can be compared. -/
def equals (left right : Value) : Bool :=
  left.compare right == some .eq

/-- Whether one text occurs in the other, whatever the case of either. -/
def containsText (hay needle : String) : Bool :=
  Text.occursIn (Text.lowercase needle.toList) (Text.lowercase hay.toList)

/-- Whether a single value satisfies an operator with the given data. -/
def satisfies (value : Value) (operator : Operator) (data : Value) : Bool :=
  match operator with
  | .equal => value.equals data
  | .atLeast => (value.compare data).any (·.isGE)
  | .atMost => (value.compare data).any (·.isLE)
  | .contains =>
    match value, data with
    | .text hay, .text needle => containsText hay needle
    | _, _ => false
  | .oneOf =>
    match data with
    | .list candidates => candidates.any value.equals
    | single => value.equals single

/-- Whether a value, or any element of a list, satisfies an operator with the
given data. -/
def anySatisfies (value : Value) (operator : Operator) (data : Value) : Bool :=
  match value with
  | .list elements => elements.any (·.satisfies operator data)
  | single => single.satisfies operator data

end Value

variable {entity : Entity}

/-- Whether a row meets a condition. -/
def Condition.holds (condition : Condition entity.Field) (row : Row entity) :
    Bool :=
  (row.get condition.field).any
    (·.anySatisfies condition.operator condition.data)

/-- The point of two fields of a row, where both are present numbers. -/
def Proximity.point? (proximity : Proximity entity.Field) (row : Row entity) :
    Option GeoPoint := do
  let latitude ← (← row.get proximity.latitude).number?
  let longitude ← (← row.get proximity.longitude).number?
  return ⟨latitude, longitude⟩

/-- Whether the point of a row lies in the circle. -/
def Proximity.holds (proximity : Proximity entity.Field) (row : Row entity) :
    Bool :=
  match proximity.point? row with
  | some point =>
    proximity.circle.center.distance point ≤ proximity.circle.radius
  | none => false

namespace Predicate

mutual

/-- Whether a row matches a predicate. -/
def holds (row : Row entity) : Predicate entity.Field → Bool
  | .always => true
  | .all parts => allHold row parts
  | .any parts => anyHolds row parts
  | .leaf condition => condition.holds row
  | .near proximity => proximity.holds row

def allHold (row : Row entity) : List (Predicate entity.Field) → Bool
  | [] => true
  | part :: others => part.holds row && allHold row others

def anyHolds (row : Row entity) : List (Predicate entity.Field) → Bool
  | [] => false
  | part :: others => part.holds row || anyHolds row others

end

@[simp]
theorem allHold_eq_all (row : Row entity)
    (parts : List (Predicate entity.Field)) :
    allHold row parts = parts.all (·.holds row) := by
  induction parts with
  | nil => rfl
  | cons part others ih => simp [allHold, ih]

@[simp]
theorem anyHolds_eq_any (row : Row entity)
    (parts : List (Predicate entity.Field)) :
    anyHolds row parts = parts.any (·.holds row) := by
  induction parts with
  | nil => rfl
  | cons part others ih => simp [anyHolds, ih]

end Predicate

end CivicRegistry
