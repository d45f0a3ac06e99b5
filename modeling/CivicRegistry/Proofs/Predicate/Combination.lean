import CivicRegistry.Predicate.Match

/-!
# Combined predicates

Conjunctions are joined into one and neutral parts vanish when predicates are
combined.  None of this shows in the rows: a combination holds of a row exactly
if its parts do, all of them or one of them.
-/

namespace CivicRegistry

namespace Predicate

/-- The conjuncts of a conjunction are those of both sides. -/
theorem conjuncts_and {F : Type} {left right : Predicate F} :
    (left.and right).conjuncts = left.conjuncts ++ right.conjuncts := by
  cases left <;> cases right <;> simp [and, conjuncts]

variable {entity : Entity} (row : Row entity)

/-- A predicate holds of a row exactly if its conjuncts do. -/
theorem holds_eq_all_conjuncts (predicate : Predicate entity.Field) :
    predicate.holds row = predicate.conjuncts.all (·.holds row) := by
  cases predicate with
  | always => rfl
  | all parts => rw [holds, allHold_eq_all, conjuncts]
  | any | leaf | near => simp [conjuncts]

theorem holds_and (left right : Predicate entity.Field) :
    (left.and right).holds row = (left.holds row && right.holds row) := by
  rw [holds_eq_all_conjuncts, conjuncts_and, List.all_append,
    ← holds_eq_all_conjuncts, ← holds_eq_all_conjuncts]

theorem holds_of_isAlways {predicate : Predicate entity.Field}
    (halways : predicate.isAlways = true) : predicate.holds row = true := by
  cases predicate with
  | always => rfl
  | all | any | leaf | near => cases halways

/-- At least one of no predicates holds of every row. -/
theorem holds_anyOf (parts : List (Predicate entity.Field)) :
    (anyOf parts).holds row =
      (parts.isEmpty || parts.any (·.holds row)) := by
  rw [anyOf.eq_def]
  split
  · next hneutral =>
    rw [Bool.or_eq_true, List.any_eq_true] at hneutral
    symm
    rw [holds, Bool.or_eq_true, List.any_eq_true]
    apply hneutral.imp_right
    rintro ⟨part, hpart, halways⟩
    exact ⟨part, hpart, holds_of_isAlways row halways⟩
  · next hproper =>
    rw [Bool.or_eq_true, not_or, Bool.not_eq_true] at hproper
    rw [hproper.1, Bool.false_or]
    split
    · next part => simp
    · rw [holds, anyHolds_eq_any]

end Predicate

namespace Specification

variable {entity : Entity} (row : Row entity)

/-- All of some specifications hold of a row exactly if each of them does. -/
theorem holds_allOf (parts : List (Specification entity.Field)) :
    (allOf parts).predicate.holds row =
      parts.all (·.predicate.holds row) := by
  have hfold : ∀ first : Specification entity.Field,
      (parts.foldl and first).predicate.holds row =
        (first.predicate.holds row && parts.all (·.predicate.holds row)) := by
    induction parts with
    | nil => simp
    | cons part others ih =>
      intro first
      rw [List.foldl_cons, ih, and, Predicate.holds_and, List.all_cons,
        Bool.and_assoc]
  rw [allOf, hfold, unconstrained, Predicate.holds, Bool.true_and]

end Specification

end CivicRegistry
