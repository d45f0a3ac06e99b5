import CivicRegistry.Proofs.Sql.Lowering
import CivicRegistry.Sql.Statement

/-!
# The texts of statements and their values

No value that a request compares with gets into the text of a statement.  Two
specifications of one shape, whatever their values are, are either refused for
the same reason or put as statements with the same text, the same joins and
equally many parameters.  The text is made from the skeleton of a clause, which
has a hole for each value, and the skeleton is settled by the shape.
-/

namespace CivicRegistry

/-! ## Shapes -/

/-- Data that may stand for each other beside an operator.  Only a text can be
looked for, and of a list the number of items counts; nothing else does. -/
def Operator.Exchangeable : Operator → Value → Value → Prop
  | .contains, left, right => left.text?.isSome = right.text?.isSome
  | .oneOf, left, right =>
    left.items?.map List.length = right.items?.map List.length
  | .equal, _, _ => True
  | .atLeast, _, _ => True
  | .atMost, _, _ => True

/-- Conditions on one field by one operator, with data that may differ. -/
structure Condition.SameShape {F : Type} (left right : Condition F) : Prop where
  field : left.field = right.field
  operator : left.operator = right.operator
  data : left.operator.Exchangeable left.data right.data

namespace Predicate

variable {F : Type}

mutual

/-- Two predicates are the same tree over the same fields and operators; the
data of their conditions and their circles may differ. -/
def SameShape : Predicate F → Predicate F → Prop
  | .always, .always => True
  | .all lefts, .all rights => SameShapes lefts rights
  | .any lefts, .any rights => SameShapes lefts rights
  | .leaf left, .leaf right => left.SameShape right
  | .near left, .near right =>
    left.latitude = right.latitude ∧ left.longitude = right.longitude
  | _, _ => False

def SameShapes : List (Predicate F) → List (Predicate F) → Prop
  | [], [] => True
  | left :: lefts, right :: rights =>
    left.SameShape right ∧ SameShapes lefts rights
  | _, _ => False

end

end Predicate

namespace Sql

/-! ## Skeletons -/

namespace Clause

variable {α β : Type}

mutual

/-- The clause with a function applied to its values. -/
def map (f : α → β) : Clause α → Clause β
  | .always => .always
  | .all parts => .all (mapParts f parts)
  | .any parts => .any (mapParts f parts)
  | .compare column relation value => .compare column relation (f value)
  | .like column pattern => .like column (f pattern)
  | .oneOf column values => .oneOf column (values.map f)
  | .near latitude longitude centerLatitude centerLongitude radius =>
    .near latitude longitude (f centerLatitude) (f centerLongitude) (f radius)

def mapParts (f : α → β) : List (Clause α) → List (Clause β)
  | [] => []
  | part :: others => part.map f :: mapParts f others

end

@[simp]
theorem mapParts_isEmpty (f : α → β) (parts : List (Clause α)) :
    (mapParts f parts).isEmpty = parts.isEmpty := by
  cases parts <;> rfl

mutual

@[simp]
theorem values_map (f : α → β) (clause : Clause α) :
    (clause.map f).values = clause.values.map f := by
  cases clause with
  | always | compare | like | oneOf | near => simp [map, values]
  | all parts | any parts => simp [map, values, partValues_map f parts]

theorem partValues_map (f : α → β) (parts : List (Clause α)) :
    partValues (mapParts f parts) = (partValues parts).map f := by
  cases parts with
  | nil => rfl
  | cons part others =>
    simp [mapParts, partValues, values_map f part, partValues_map f others]

end

mutual

@[simp]
theorem columns_map (f : α → β) (clause : Clause α) :
    (clause.map f).columns = clause.columns := by
  cases clause with
  | always | compare | like | oneOf | near => simp [map, columns]
  | all parts | any parts => simp [map, columns, partColumns_map f parts]

theorem partColumns_map (f : α → β) (parts : List (Clause α)) :
    partColumns (mapParts f parts) = partColumns parts := by
  cases parts with
  | nil => rfl
  | cons part others =>
    simp [mapParts, partColumns, columns_map f part, partColumns_map f others]

end

mutual

/-- Fragments number the values and do not look at them. -/
@[simp]
theorem fragments_map (f : α → β) (clause : Clause α) (start : Nat) :
    (clause.map f).fragments start = clause.fragments start := by
  cases clause with
  | always | compare | like | oneOf | near => simp [map, fragments]
  | all parts | any parts =>
    simp [map, fragments, partFragments_map f parts start]

theorem partFragments_map (f : α → β) (parts : List (Clause α)) (start : Nat) :
    partFragments start (mapParts f parts) = partFragments start parts := by
  cases parts with
  | nil => rfl
  | cons part others =>
    simp [mapParts, partFragments, fragments_map f part start,
      partFragments_map f others (start + part.values.length)]

end

/-- The clause with holes for its values. -/
def skeleton (clause : Clause α) : Clause Unit :=
  clause.map fun _ => ()

variable {left : Clause α} {right : Clause β}

/-- The text of a clause is that of its skeleton. -/
theorem sql_congr (hskeleton : left.skeleton = right.skeleton) (start : Nat) :
    left.sql start = right.sql start := by
  have hfragments := congrArg (fragments start) hskeleton
  rw [skeleton, skeleton, fragments_map, fragments_map] at hfragments
  rw [sql, sql, hfragments]

theorem joins_congr (hskeleton : left.skeleton = right.skeleton) :
    left.joins = right.joins := by
  have hcolumns := congrArg columns hskeleton
  rw [skeleton, skeleton, columns_map, columns_map] at hcolumns
  rw [joins, joins, hcolumns]

/-- Clauses of one skeleton have equally many values. -/
theorem length_values_congr (hskeleton : left.skeleton = right.skeleton) :
    left.values.length = right.values.length := by
  have hvalues := congrArg (fun clause => clause.values.length) hskeleton
  simpa [skeleton] using hvalues

end Clause

/-! ## Lowering -/

/-- Two attempts fail for the same reason or succeed with related results. -/
inductive Alike {ε α β : Type} (related : α → β → Prop) :
    Except ε α → Except ε β → Prop where
  | failed (fault : ε) : Alike related (.error fault) (.error fault)
  | done {left : α} {right : β} (hrelated : related left right) :
    Alike related (.ok left) (.ok right)

namespace Alike

variable {ε α β γ δ : Type} {related : α → β → Prop} {followed : γ → δ → Prop}

/-- What is done with related results in the same way leads to related
results. -/
theorem bind {left : Except ε α} {right : Except ε β}
    {next : α → Except ε γ} {later : β → Except ε δ}
    (halike : Alike related left right)
    (hnext : ∀ left right, related left right →
      Alike followed (next left) (later right)) :
    Alike followed (left >>= next) (right >>= later) := by
  cases halike with
  | failed fault => exact failed fault
  | done hrelated => exact hnext _ _ hrelated

/-- The same attempt, made twice. -/
theorem refl (attempt : Except ε α) : Alike (· = ·) attempt attempt := by
  cases attempt with
  | error fault => exact failed fault
  | ok value => exact done rfl

end Alike

variable {entity : Entity}

/-- Two clauses that differ in their values only. -/
def SameSkeleton (left right : Clause Value) : Prop :=
  left.skeleton = right.skeleton

/-- Only a text can be looked for; what is no text is refused with a message
that names the field and not the data. -/
theorem ofCondition_contains (column : Column) (field : entity.Field)
    (data : Value) :
    ofCondition column ⟨field, .contains, data⟩ =
      match data.text? with
      | some term => .ok (.like column (.text (String.ofList
          (substringPattern (Text.lowercase term.toList)))))
      | none => .error (.data ("Substring match on " ++
          (Entity.info field).path ++ " requires text")) := by
  cases data <;> rfl

theorem ofCondition_oneOf (column : Column) (field : entity.Field)
    (data : Value) :
    ofCondition column ⟨field, .oneOf, data⟩ =
      match data.items? with
      | some items => .ok (.oneOf column items)
      | none => .ok (.compare column .equal data) := by
  cases data <;> rfl

/-- Conditions of one shape give clauses of one skeleton. -/
theorem alike_ofCondition {left right : Condition entity.Field}
    (hshape : left.SameShape right) (column : Column) :
    Alike SameSkeleton (ofCondition column left)
      (ofCondition column right) := by
  obtain ⟨field, operator, data⟩ := left
  obtain ⟨_, _, other⟩ := right
  obtain ⟨rfl, rfl, hdata⟩ := hshape
  cases operator with
  | equal | atLeast | atMost => exact .done rfl
  | contains =>
    rw [ofCondition_contains, ofCondition_contains]
    have hsame : data.text?.isSome = other.text?.isSome := hdata
    cases hterm : data.text? <;> cases hlater : other.text? <;>
      rw [hterm, hlater] at hsame
    case none.none => exact .failed _
    case some.some => exact .done rfl
    all_goals cases hsame
  | oneOf =>
    rw [ofCondition_oneOf, ofCondition_oneOf]
    have hsame : data.items?.map List.length = other.items?.map List.length :=
      hdata
    cases hitems : data.items? <;> cases hlater : other.items? <;>
      rw [hitems, hlater] at hsame
    case none.none => exact .done rfl
    case some.some items later =>
      have hlength : items.length = later.length := Option.some.inj hsame
      apply Alike.done
      simp [SameSkeleton, Clause.skeleton, Clause.map, hlength]
    all_goals cases hsame

mutual

/-- Predicates of one shape give clauses of one skeleton. -/
theorem alike_ofPredicate {left right : Predicate entity.Field}
    (hshape : left.SameShape right) :
    Alike SameSkeleton (ofPredicate left) (ofPredicate right) := by
  cases left <;> cases right <;> try exact hshape.elim
  case always.always => exact .done rfl
  case all.all lefts rights =>
    have hparts : Predicate.SameShapes lefts rights := hshape
    apply (alike_ofPredicates hparts).bind
    intro clauses others hsame
    exact .done (congrArg Clause.all hsame)
  case any.any lefts rights =>
    have hparts : Predicate.SameShapes lefts rights := hshape
    apply (alike_ofPredicates hparts).bind
    intro clauses others hsame
    exact .done (congrArg Clause.any hsame)
  case leaf.leaf left right =>
    rw [ofPredicate, ofPredicate, ← hshape.field]
    apply (Alike.refl (Column.ofField left.field)).bind
    rintro column _ rfl
    exact alike_ofCondition hshape column
  case near.near left right =>
    rw [ofPredicate, ofPredicate, ← hshape.1, ← hshape.2]
    apply (Alike.refl (Column.ofField left.latitude)).bind
    rintro latitude _ rfl
    apply (Alike.refl (Column.ofField left.longitude)).bind
    rintro longitude _ rfl
    exact .done rfl

theorem alike_ofPredicates {lefts rights : List (Predicate entity.Field)}
    (hshape : Predicate.SameShapes lefts rights) :
    Alike (fun left right => Clause.mapParts (fun _ => ()) left =
        Clause.mapParts (fun _ => ()) right)
      (ofPredicates lefts) (ofPredicates rights) := by
  cases lefts <;> cases rights <;> try exact hshape.elim
  case nil.nil => exact .done rfl
  case cons.cons left lefts right rights =>
    rw [ofPredicates, ofPredicates]
    apply (alike_ofPredicate hshape.1).bind
    intro first second hpart
    apply (alike_ofPredicates hshape.2).bind
    intro others rest hothers
    exact .done (congrArg₂ List.cons hpart hothers)

end

/-! ## Statements -/

/-- Two statements differ in the values of their parameters only. -/
structure EqualButForValues (left right : Statement) : Prop where
  query : left.prepared.query = right.prepared.query
  joins : left.clause.joins = right.clause.joins
  params : left.prepared.params.length = right.prepared.params.length

/-- The text of a statement is made from the text and the joins of its
clause. -/
theorem query_congr {left right : Clause Value}
    (hsql : left.sql 0 = right.sql 0) (hjoins : left.joins = right.joins)
    (answer : Answer) (distinct : Bool) :
    Statement.query ⟨entity, answer, distinct, left⟩ =
      Statement.query ⟨entity, answer, distinct, right⟩ := by
  have hsource : Statement.source ⟨entity, answer, distinct, left⟩ =
      Statement.source ⟨entity, answer, distinct, right⟩ := by
    simp only [Statement.source, hsql, hjoins]
  have hidentified : Statement.byIdentifier ⟨entity, answer, distinct, left⟩ =
      Statement.byIdentifier ⟨entity, answer, distinct, right⟩ := by
    simp only [Statement.byIdentifier, hjoins]
  rw [Statement.query, Statement.query, hsource, hidentified, hsql]

/-- Statements that ask the same of clauses of one skeleton differ in the values
only. -/
theorem equalButForValues_of_skeleton {left right : Clause Value}
    (hskeleton : SameSkeleton left right) (answer : Answer) (distinct : Bool) :
    EqualButForValues ⟨entity, answer, distinct, left⟩
      ⟨entity, answer, distinct, right⟩ where
  query := query_congr (Clause.sql_congr hskeleton 0)
    (Clause.joins_congr hskeleton) answer distinct
  joins := Clause.joins_congr hskeleton
  params := Clause.length_values_congr hskeleton

variable {left right : Specification entity.Field}

theorem alike_counting (hdistinct : left.distinct = right.distinct)
    (hshape : left.predicate.SameShape right.predicate) :
    Alike EqualButForValues (counting left) (counting right) := by
  apply (Alike.refl (checkTableName entity.name)).bind
  intro _ _ _
  apply (alike_ofPredicate hshape).bind
  intro clause other hskeleton
  rw [hdistinct]
  exact .done (equalButForValues_of_skeleton hskeleton _ _)

theorem alike_listing (hdistinct : left.distinct = right.distinct)
    (hshape : left.predicate.SameShape right.predicate)
    (page : Option (PageRequest entity.Field)) :
    Alike EqualButForValues (listing left page) (listing right page) := by
  apply (Alike.refl (checkTableName entity.name)).bind
  intro _ _ _
  have hclauses := alike_ofPredicate hshape
  rw [hdistinct]
  cases page with
  | none =>
    apply hclauses.bind
    intro clause other hskeleton
    exact .done (equalButForValues_of_skeleton hskeleton _ _)
  | some page =>
    dsimp only
    split
    · exact .failed _
    · apply hclauses.bind
      intro clause other hskeleton
      apply (Alike.refl
        (SortClause.ofField page.sortField page.direction)).bind
      rintro order _ rfl
      exact .done (equalButForValues_of_skeleton hskeleton _ _)

/-- No value gets into the text of a statement.  Two specifications of one shape
are refused for the same reason or put as the same text with the same joins and
equally many parameters, whether their rows are counted or a page of them is
listed. -/
theorem texts_independent_of_values (hdistinct : left.distinct = right.distinct)
    (hshape : left.predicate.SameShape right.predicate)
    (page : Option (PageRequest entity.Field)) :
    Alike EqualButForValues (counting left) (counting right) ∧
      Alike EqualButForValues (listing left page) (listing right page) :=
  ⟨alike_counting hdistinct hshape, alike_listing hdistinct hshape page⟩

/-- A search for users by a term, some roles and a ward. -/
def sampleSearch (term left right : String) (ward : Int) :
    Specification (Entity.Field .users) where
  predicate :=
    .all [.any [.leaf ⟨.fullName, .contains, .text term⟩,
        .leaf ⟨.email, .contains, .text term⟩],
      .leaf ⟨.roles, .oneOf, .list [.text left, .text right]⟩,
      .leaf ⟨.wardNumber, .atLeast, .integer ward⟩]
  distinct := true

/-- A term that is itself a piece of a statement leaves the texts as they
are. -/
theorem texts_independent_of_values_sample :
    let plain := sampleSearch "ram" "ADMIN" "EDITOR" 3
    let hostile := sampleSearch "'; DROP TABLE users; --" "$1" "\"" (-7)
    let page : PageRequest (Entity.Field .users) := ⟨2, 10, .email, .ascending⟩
    plain.predicate.SameShape hostile.predicate ∧
      Alike EqualButForValues (counting plain) (counting hostile) ∧
      Alike EqualButForValues (listing plain (some page))
        (listing hostile (some page)) := by
  intro plain hostile page
  have hdistinct : plain.distinct = hostile.distinct := rfl
  have hshape : plain.predicate.SameShape hostile.predicate :=
    ⟨⟨⟨rfl, rfl, rfl⟩, ⟨rfl, rfl, rfl⟩, trivial⟩, ⟨rfl, rfl, rfl⟩,
      ⟨rfl, rfl, trivial⟩, trivial⟩
  exact ⟨hshape, texts_independent_of_values hdistinct hshape (some page)⟩

end Sql

end CivicRegistry
