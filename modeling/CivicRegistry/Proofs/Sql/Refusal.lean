import CivicRegistry.Proofs.Predicate.Combination
import CivicRegistry.Proofs.Sql.Skeleton

/-!
# What is refused as a clause

Every attribute has a column, so only the data of a condition can be refused: a
predicate has a clause unless one of its conditions looks for something that is
no text, and the first such condition is the reason that is given.  The values
of a clause are what its conditions compare with, and texts and floats besides,
so they have a property that all of these have.
-/

namespace CivicRegistry

/-! ## The conditions of predicates -/

namespace Condition

variable {F : Type}

/-- The condition looks for something that is no text. -/
def isUnsearchable (condition : Condition F) : Bool :=
  condition.operator == .contains && condition.data.text?.isNone

/-- A condition that looks for texts only and compares with values that have a
property. -/
structure ComparesWith (holds : Value → Prop) (condition : Condition F) :
    Prop where
  searchable : condition.isUnsearchable = false
  operands : ∀ value ∈ condition.operands, holds value

end Condition

namespace Predicate

variable {F : Type}

theorem partConditions_eq_flatMap (parts : List (Predicate F)) :
    partConditions parts = parts.flatMap conditions := by
  induction parts with
  | nil => rfl
  | cons part others ih => rw [partConditions, ih, List.flatMap_cons]

theorem conditions_eq_conjuncts (predicate : Predicate F) :
    predicate.conditions = predicate.conjuncts.flatMap conditions := by
  cases predicate with
  | always => rfl
  | all parts => rw [conditions, partConditions_eq_flatMap, conjuncts]
  | any | leaf | near => simp [conjuncts]

theorem conditions_and (left right : Predicate F) :
    (left.and right).conditions = left.conditions ++ right.conditions := by
  rw [conditions_eq_conjuncts, conjuncts_and, List.flatMap_append,
    ← conditions_eq_conjuncts, ← conditions_eq_conjuncts]

/-- Alternatives that vanish leave no condition behind. -/
theorem conditions_anyOf_subset (parts : List (Predicate F)) :
    (anyOf parts).conditions ⊆ parts.flatMap conditions := by
  rw [anyOf.eq_def]
  split
  · exact List.nil_subset _
  · split
    · next part => simp
    · rw [conditions, partConditions_eq_flatMap]
      exact List.Subset.refl _

end Predicate

/-- The conditions of all of some specifications are those of each. -/
theorem Specification.conditions_allOf {F : Type}
    (parts : List (Specification F)) :
    (allOf parts).predicate.conditions =
      parts.flatMap fun part => part.predicate.conditions := by
  have hfold (first : Specification F) :
      (parts.foldl and first).predicate.conditions =
        first.predicate.conditions ++
          parts.flatMap fun part => part.predicate.conditions := by
    induction parts generalizing first with
    | nil => simp
    | cons part others ih =>
      rw [List.foldl_cons, ih, and, Predicate.conditions_and,
        List.append_assoc, List.flatMap_cons]
  exact hfold unconstrained

namespace Sql

open Enumeration (error?)

variable {entity : Entity}

/-! ## The reason -/

theorem error?_map {ε α β : Type} (first : Except ε α) (combine : α → β) :
    error? (do return combine (← first)) = error? first := by
  cases first <;> rfl

/-- Of two attempts one after the other, the first that fails gives the
reason. -/
theorem error?_map₂ {ε α β γ : Type} (first : Except ε α) (second : Except ε β)
    (combine : α → β → γ) :
    error? (do
      let left ← first
      let right ← second
      return combine left right) = (error? first).or (error? second) := by
  cases first <;> cases second <;> rfl

/-- The reason for which a condition is refused. -/
def refusal (condition : Condition entity.Field) : LoweringError :=
  .data ("Substring match on " ++ (Entity.info condition.field).path ++
    " requires text")

theorem error?_ofCondition (column : Column)
    (condition : Condition entity.Field) :
    error? (ofCondition column condition) =
      ([condition].find? Condition.isUnsearchable).map refusal := by
  obtain ⟨field, operator, data⟩ := condition
  cases operator with
  | equal | atLeast | atMost => rfl
  | contains => cases data <;> rfl
  | oneOf => cases data <;> rfl

mutual

/-- The first condition that looks for no text is the reason for which a
predicate is refused. -/
theorem error?_ofPredicate (predicate : Predicate entity.Field) :
    error? (ofPredicate predicate) =
      (predicate.conditions.find? Condition.isUnsearchable).map refusal := by
  cases predicate with
  | always => rfl
  | all parts | any parts =>
    rw [ofPredicate, error?_map, error?_ofPredicates, Predicate.conditions]
  | leaf condition =>
    obtain ⟨column, -, hcolumn⟩ := Column.exists_ofField condition.field
    rw [ofPredicate, hcolumn]
    exact error?_ofCondition column condition
  | near proximity =>
    obtain ⟨latitude, -, hlatitude⟩ := Column.exists_ofField proximity.latitude
    obtain ⟨longitude, -, hlongitude⟩ :=
      Column.exists_ofField proximity.longitude
    rw [ofPredicate, hlatitude, hlongitude]
    rfl

theorem error?_ofPredicates (parts : List (Predicate entity.Field)) :
    error? (ofPredicates parts) =
      ((Predicate.partConditions parts).find?
        Condition.isUnsearchable).map refusal := by
  cases parts with
  | nil => rfl
  | cons part others =>
    rw [ofPredicates, error?_map₂, error?_ofPredicate part,
      error?_ofPredicates others, Predicate.partConditions, List.find?_append,
      Option.map_or]

end

theorem eq_error_iff {ε α : Type} {attempt : Except ε α} {error : ε} :
    attempt = .error error ↔ error? attempt = some error := by
  cases attempt <;> simp [error?]

theorem ofPredicate_eq_error_iff {predicate : Predicate entity.Field}
    {error : LoweringError} :
    ofPredicate predicate = .error error ↔
      ∃ condition, predicate.conditions.find? Condition.isUnsearchable =
        some condition ∧ refusal condition = error := by
  rw [eq_error_iff, error?_ofPredicate, Option.map_eq_some_iff]

theorem exists_error_iff {predicate : Predicate entity.Field} :
    (∃ error, ofPredicate predicate = .error error) ↔
      ∃ condition ∈ predicate.conditions, condition.isUnsearchable = true := by
  rw [← List.find?_isSome, Option.isSome_iff_exists]
  simp only [ofPredicate_eq_error_iff]
  constructor
  · intro ⟨_, condition, hcondition, _⟩
    exact ⟨condition, hcondition⟩
  · intro ⟨condition, hcondition⟩
    exact ⟨_, condition, hcondition, rfl⟩

/-- A predicate without a condition that looks for no text has a clause. -/
theorem exists_clause {predicate : Predicate entity.Field}
    (hsearchable : ∀ condition ∈ predicate.conditions,
      condition.isUnsearchable = false) :
    ∃ clause, ofPredicate predicate = .ok clause := by
  cases hclause : ofPredicate predicate with
  | ok clause => exact ⟨clause, rfl⟩
  | error error =>
    obtain ⟨condition, hcondition, hfound⟩ :=
      exists_error_iff.mp ⟨error, hclause⟩
    rw [hsearchable condition hcondition] at hfound
    cases hfound

/-! ## The values -/

section Values

variable {holds : Value → Prop}

theorem forall_values_ofCondition (htext : ∀ text, holds (.text text))
    {column : Column} {condition : Condition entity.Field}
    {clause : Clause Value}
    (hclause : ofCondition column condition = .ok clause)
    (hoperands : ∀ value ∈ condition.operands, holds value) :
    ∀ value ∈ clause.values, holds value := by
  obtain ⟨field, operator, data⟩ := condition
  cases operator with
  | equal | atLeast | atMost =>
    cases hclause
    exact hoperands
  | contains =>
    rw [ofCondition_contains] at hclause
    cases hterm : data.text? <;> rw [hterm] at hclause <;> cases hclause
    rw [Clause.values, List.forall_mem_singleton]
    exact htext _
  | oneOf =>
    rw [ofCondition_oneOf] at hclause
    rw [Condition.operands] at hoperands
    cases hitems : data.items? <;> rw [hitems] at hclause hoperands <;>
      cases hclause <;> exact hoperands

mutual

/-- The values of a clause are what its conditions compare with, texts that are
looked for and the numbers of circles. -/
theorem forall_values (htext : ∀ text, holds (.text text))
    (hfloat : ∀ number, holds (.float number))
    {predicate : Predicate entity.Field} {clause : Clause Value}
    (hclause : ofPredicate predicate = .ok clause)
    (hoperands : ∀ condition ∈ predicate.conditions,
      ∀ value ∈ condition.operands, holds value) :
    ∀ value ∈ clause.values, holds value := by
  cases predicate with
  | always =>
    cases hclause
    simp [Clause.values]
  | all parts =>
    obtain ⟨clauses, hclauses, rfl⟩ := exists_of_ofPredicate_all hclause
    exact forall_partValues htext hfloat hclauses hoperands
  | any parts =>
    obtain ⟨clauses, hclauses, rfl⟩ := exists_of_ofPredicate_any hclause
    exact forall_partValues htext hfloat hclauses hoperands
  | leaf condition =>
    obtain ⟨column, -, hcondition⟩ := exists_of_ofPredicate_leaf hclause
    exact forall_values_ofCondition htext hcondition
      (hoperands condition (List.mem_singleton_self condition))
  | near proximity =>
    obtain ⟨latitude, longitude, -, -, rfl⟩ :=
      exists_of_ofPredicate_near hclause
    simp only [Clause.values, List.forall_mem_cons]
    exact ⟨hfloat _, hfloat _, hfloat _, List.forall_mem_nil _⟩

theorem forall_partValues (htext : ∀ text, holds (.text text))
    (hfloat : ∀ number, holds (.float number))
    {parts : List (Predicate entity.Field)} {clauses : List (Clause Value)}
    (hclauses : ofPredicates parts = .ok clauses)
    (hoperands : ∀ condition ∈ Predicate.partConditions parts,
      ∀ value ∈ condition.operands, holds value) :
    ∀ value ∈ Clause.partValues clauses, holds value := by
  cases parts with
  | nil =>
    cases hclauses
    simp [Clause.partValues]
  | cons part others =>
    obtain ⟨first, rest, hfirst, hrest, rfl⟩ :=
      exists_of_ofPredicates_cons hclauses
    rw [Predicate.partConditions, List.forall_mem_append] at hoperands
    rw [Clause.partValues, List.forall_mem_append]
    exact ⟨forall_values htext hfloat hfirst hoperands.1,
      forall_partValues htext hfloat hrest hoperands.2⟩

end

end Values

end Sql

end CivicRegistry
