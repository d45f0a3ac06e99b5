import CivicRegistry.Criteria.Violations
import CivicRegistry.Entity.Vocabulary
import CivicRegistry.Predicate.Builder

/-!
# Filters that several requests have

A search term of limited length, and ward numbers given either as one number or
as a range but not as both.
-/

namespace CivicRegistry

/-- The most characters that a search term has. -/
def largestTerm : Nat := 100

def checkSearchTerm (term : Option String) (violations : Violations) :
    Violations :=
  violations.maxChars "searchTerm" term largestTerm

/-- One ward number, or bounds on it. -/
structure WardNumbers where
  only : Option Int
  low : Option Int
  high : Option Int

namespace WardNumbers

def empty : WardNumbers := ⟨none, none, none⟩

def check (wards : WardNumbers) (violations : Violations) : Violations :=
  let violations := violations.atLeast "wardNumber" wards.only 1
  let violations := violations.atLeast "wardNumberFrom" wards.low 1
  let violations := violations.atLeast "wardNumberTo" wards.high 1
  let violations :=
    violations.range "wardNumberFrom" wards.low "wardNumberTo" wards.high
  violations.exclusive "wardNumber" wards.only.isSome
    "wardNumberFrom/wardNumberTo"
    (wards.low.isSome || wards.high.isSome)

/-- The specifications of the one number and of the bounds. -/
def specifications {F : Type} (wards : WardNumbers) (field : F) :
    List (Specification F) :=
  [.equalTo field (wards.only.map .integer),
    .between field (wards.low.map .integer) (wards.high.map .integer)]

end WardNumbers

/-- The values of a list of words of a vocabulary. -/
def wordValues {α : Type} [Vocabulary α] (members : List α) : List Value :=
  members.map fun member => .text (Vocabulary.word member)

end CivicRegistry
