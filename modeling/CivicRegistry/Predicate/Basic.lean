import CivicRegistry.Geography
import CivicRegistry.Value

/-!
# Predicates

A predicate is a tree of conditions on the fields of a row.  `always` constrains
nothing: it is neutral for conjunction and swallows a disjunction.
-/

namespace CivicRegistry

/-- How a condition compares a field with its data. -/
inductive Operator where
  | equal
  | atLeast
  | atMost
  /-- The data occurs in the field, whatever the case of either. -/
  | contains
  /-- The field is one of a list of data; of a collection, any element is. -/
  | oneOf
deriving DecidableEq

structure Condition (F : Type) where
  field : F
  operator : Operator
  data : Value

/-- A condition that the point of two fields lies in a circle. -/
structure Proximity (F : Type) where
  latitude : F
  longitude : F
  circle : Circle

inductive Predicate (F : Type) where
  | always
  | all (parts : List (Predicate F))
  | any (parts : List (Predicate F))
  | leaf (condition : Condition F)
  | near (proximity : Proximity F)
deriving Inhabited

namespace Predicate

variable {F : Type}

def isAlways : Predicate F → Bool
  | always => true
  | _ => false

/-- The conjuncts of a predicate: those of a conjunction, none of `always`, else
the predicate itself. -/
def conjuncts : Predicate F → List (Predicate F)
  | always => []
  | all parts => parts
  | other => [other]

/-- Both of two predicates.  Conjunctions are joined into one, and `always`
vanishes. -/
def and (left right : Predicate F) : Predicate F :=
  match left, right with
  | always, right => right
  | left, always => left
  | left, right => all (left.conjuncts ++ right.conjuncts)

/-- At least one of some predicates; `always` where there are none or one of
them is `always`. -/
def anyOf (parts : List (Predicate F)) : Predicate F :=
  if parts.isEmpty || parts.any isAlways then always
  else
    match parts with
    | [part] => part
    | parts => any parts

end Predicate

/-- A predicate together with the demand that every row counts once, which it
needs where it looks into a collection. -/
structure Specification (F : Type) where
  predicate : Predicate F
  distinct : Bool

namespace Specification

variable {F : Type}

/-- No constraint. -/
def unconstrained : Specification F := ⟨.always, false⟩

def ofPredicate (predicate : Predicate F) : Specification F :=
  ⟨predicate, false⟩

def markDistinct (spec : Specification F) : Specification F :=
  { spec with distinct := true }

def isUnconstrained (spec : Specification F) : Bool := spec.predicate.isAlways

/-- Both of two specifications, distinct if one of them is. -/
def and (left right : Specification F) : Specification F :=
  ⟨left.predicate.and right.predicate, left.distinct || right.distinct⟩

/-- All of some specifications. -/
def allOf (parts : List (Specification F)) : Specification F :=
  parts.foldl and unconstrained

end Specification

end CivicRegistry
