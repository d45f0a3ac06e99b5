import CivicRegistry.Predicate.Basic
import CivicRegistry.Text.Blank

/-!
# Building specifications

Each builder covers one group of filters.  A group whose inputs are absent,
blank or empty gives no constraint.
-/

namespace CivicRegistry.Specification

variable {F : Type}

def condition (field : F) (operator : Operator) (data : Value) : Predicate F :=
  .leaf ⟨field, operator, data⟩

/-- The field equals a value, where one is given. -/
def equalTo (field : F) (value : Option Value) : Specification F :=
  match value with
  | some value => ofPredicate (condition field .equal value)
  | none => unconstrained

/-- The field lies between the bounds that are given, both included. -/
def between (field : F) (low high : Option Value) : Specification F :=
  let above := low.elim .always (condition field .atLeast)
  let below := high.elim .always (condition field .atMost)
  ofPredicate (above.and below)

/-- A text without its blanks, unless it is blank. -/
def effectiveTerm (term : Option String) : Option String :=
  (term.map Text.trim).filter (!·.isEmpty)

/-- The term occurs in at least one of the fields. -/
def searching (term : Option String) (fields : List F) : Specification F :=
  match effectiveTerm term with
  | some term =>
    ofPredicate (.anyOf
      (fields.map fun field => condition field .contains (.text term)))
  | none => unconstrained

/-- The field is one of the values, where there are any. -/
def memberOf (field : F) (values : List Value) : Specification F :=
  if values.isEmpty then unconstrained
  else ofPredicate (condition field .oneOf (.list values))

/-- An element of the collection is one of the values, where there are any; each
row counts once. -/
def elementOf (field : F) (values : List Value) : Specification F :=
  if values.isEmpty then unconstrained else (memberOf field values).markDistinct

/-- The point of two fields lies in the circle, where one is given. -/
def within (latitude longitude : F) (circle : Option Circle) :
    Specification F :=
  match circle with
  | some circle => ofPredicate (.near ⟨latitude, longitude, circle⟩)
  | none => unconstrained

end CivicRegistry.Specification
