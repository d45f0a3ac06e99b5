import CivicRegistry.Entity.Row
import CivicRegistry.Paging

/-!
# Sorting rows

Rows are sorted by the value of a field, rows without one after all others in
either direction, and rows whose values are equal or cannot be compared by their
identifiers.  Sorting is stable: a row is inserted after the last row that it is
not less than, counting from the end.
-/

namespace CivicRegistry.Ranking

variable {entity : Entity}

/-- The order of two values of a field; an absent value comes last. -/
def valueOrder (direction : Direction) : Option Value → Option Value → Ordering
  | some left, some right => direction.apply ((left.compare right).getD .eq)
  | some _, none => .lt
  | none, some _ => .gt
  | none, none => .eq

/-- The order of two rows: by a field and then by their identifiers. -/
def order (field : entity.Field) (direction : Direction)
    (left right : Row entity) : Ordering :=
  (valueOrder direction (left.get field) (right.get field)).then
    (direction.apply (left.id.compare right.id))

/-- Inserts an element into a run whose last element comes first: before every
element that it is less than. -/
def insertFromEnd {α : Type} (less : α → α → Bool) (x : α) : List α → List α
  | [] => [x]
  | last :: others =>
    if less x last then last :: insertFromEnd less x others
    else x :: last :: others

/-- The elements in order. -/
def sorted {α : Type} (less : α → α → Bool) (elements : List α) : List α :=
  (elements.foldl (fun run x => insertFromEnd less x run) []).reverse

/-- The rows sorted by a field. -/
def sortRows (field : entity.Field) (direction : Direction)
    (rows : List (Row entity)) : List (Row entity) :=
  sorted (fun left right => order field direction left right == .lt) rows

end CivicRegistry.Ranking
