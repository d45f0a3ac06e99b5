import CivicRegistry.Proofs.Predicate.View
import CivicRegistry.Proofs.Sql.ClauseText

/-!
# The clauses of predicates

The columns of the clause of a predicate are those of the attributes that the
predicate speaks of, and the clause is true in a scope exactly where the
predicate holds of the view that the scope gives of them.
-/

namespace CivicRegistry

namespace Sql

/-! ## Patterns -/

/-- A percent sign stands for any characters. -/
theorem matchesPattern_percent (pattern text : List Char) :
    matchesPattern ('%' :: pattern) text = true ↔
      ∃ rest, rest <:+ text ∧ matchesPattern pattern rest = true := by
  rw [matchesPattern, List.any_eq_true]
  constructor
  · rintro ⟨count, _, hmatches⟩
    exact ⟨text.drop count, List.drop_suffix count text, hmatches⟩
  · rintro ⟨rest, ⟨before, rfl⟩, hmatches⟩
    refine ⟨before.length, ?_, ?_⟩
    · rw [List.mem_range, List.length_append]
      omega
    · rwa [List.drop_left]

theorem matchesPattern_escapedForLike_nil (c : Char) (pattern : List Char) :
    matchesPattern (escapedForLike c ++ pattern) [] = false := by
  rw [escapedForLike]
  split
  · rfl
  · rw [List.singleton_append, matchesPattern.eq_def]
    split <;> simp_all

/-- An escaped character stands for itself. -/
theorem matchesPattern_escapedForLike_cons (c first : Char)
    (pattern rest : List Char) :
    matchesPattern (escapedForLike c ++ pattern) (first :: rest) =
      (first == c && matchesPattern pattern rest) := by
  rw [escapedForLike]
  split
  · rfl
  · rw [List.singleton_append, matchesPattern.eq_def]
    split <;> simp_all

/-- An escaped term stands for the texts that it begins. -/
theorem matchesPattern_escaped (term text : List Char) :
    matchesPattern (term.flatMap escapedForLike ++ ['%']) text = true ↔
      term <+: text := by
  induction term generalizing text with
  | nil =>
    have hempty : ∃ rest, rest <:+ text ∧ matchesPattern [] rest = true :=
      ⟨[], List.nil_suffix, rfl⟩
    simpa using (matchesPattern_percent [] text).mpr hempty
  | cons c term ih =>
    rw [List.flatMap_cons, List.append_assoc]
    cases text with
    | nil => simp [matchesPattern_escapedForLike_nil]
    | cons first rest =>
      rw [matchesPattern_escapedForLike_cons, Bool.and_eq_true, ih,
        beq_iff_eq, List.cons_prefix_cons, eq_comm]

/-- The pattern of a term stands for the texts in which the term occurs. -/
theorem matchesPattern_substringPattern (term text : List Char) :
    matchesPattern (substringPattern term) text = Text.occursIn term text := by
  rw [Bool.eq_iff_iff, Text.occursIn_eq_true_iff, List.infix_iff_prefix_suffix,
    substringPattern, List.cons_append, matchesPattern_percent]
  constructor
  · rintro ⟨rest, hsuffix, hmatches⟩
    exact ⟨rest, (matchesPattern_escaped term rest).mp hmatches, hsuffix⟩
  · rintro ⟨rest, hprefix, hsuffix⟩
    exact ⟨rest, hsuffix, (matchesPattern_escaped term rest).mpr hprefix⟩

/-! ## The columns of attributes -/

namespace Column

/-- The column of an attribute, by where it comes from. -/
def ofOrigin? {entity : Entity} (field : entity.Field) : Option Column :=
  match (Entity.info field).origin with
  | .own => some (.own (Entity.info field).column)
  | .sizeOf name => (entity.collection? name).map .count
  | .elementsOf name => do
    let collection ← entity.collection? name
    return .element collection (← collection.valueColumn)

/-- Every attribute has a column. -/
theorem exists_ofField {entity : Entity} (field : entity.Field) :
    ∃ column, ofOrigin? field = some column ∧ ofField field = .ok column := by
  have hall : ∀ field ∈ entity.fields,
      (ofOrigin? field).isSome = true ∧
        (ofField field).toOption = ofOrigin? field := by
    cases entity <;> decide +kernel
  obtain ⟨hsome, hoption⟩ := hall field (Enumeration.mem_all field)
  obtain ⟨column, hcolumn⟩ := Option.isSome_iff_exists.mp hsome
  refine ⟨column, hcolumn, ?_⟩
  rw [hcolumn] at hoption
  cases hfield : ofField field with
  | ok other =>
    rw [hfield] at hoption
    cases hoption
    rfl
  | error fault =>
    rw [hfield] at hoption
    cases hoption

end Column

/-- What a scope shows for the attributes. -/
def Scope.view {entity : Entity} (scope : Scope) : View entity :=
  fun field => (Column.ofOrigin? field).bind fun column => column.meaning scope

theorem Column.meaning_ofField {entity : Entity} {field : entity.Field}
    {column : Column} (hcolumn : ofField field = .ok column) (scope : Scope) :
    column.meaning scope = scope.view field := by
  obtain ⟨other, horigin, hfield⟩ := exists_ofField field
  rw [hcolumn] at hfield
  cases hfield
  rw [Scope.view, horigin, Option.bind_some]

/-- The column of an attribute is proper where what is shown for it is. -/
theorem Column.isProper_meaning {entity : Entity} {field : entity.Field}
    {column : Column} (hcolumn : ofField field = .ok column) {scope : Scope}
    {fields : List entity.Field} (hshown : scope.view.IsProperOn fields)
    (hfield : field ∈ fields) :
    ∀ value ∈ column.meaning scope, value.isProper = true := by
  rw [meaning_ofField hcolumn]
  exact hshown field hfield

/-! ## Conditions -/

theorem truth_compare {relation : Relation} {left right : Meaning}
    {scope : Scope} :
    (Meaning.compare relation left right).truth scope =
      compared relation (left scope) (right scope) :=
  Truth.ofValue_value _

/-- A value is known to be in a relation to another where both have an order. -/
theorem compared_eq_true {relation : Relation} {left : Option Value}
    {right : Value} :
    compared relation left (some right) = some true ↔
      left.any (fun left => (orderOf left right).any relation.holds) =
        true := by
  cases left with
  | none => simp [compared]
  | some left =>
    rw [compared]
    cases horder : orderOf left right <;> simp [horder]

/-- Where both are proper, they are compared as attribute values are. -/
theorem compared_proper {relation : Relation} {left : Option Value}
    {right : Value} (hleft : ∀ value ∈ left, value.isProper = true)
    (hright : right.isProper = true) :
    compared relation left (some right) = some true ↔
      left.any (fun left => (left.compare right).any relation.holds) =
        true := by
  rw [compared_eq_true]
  cases left with
  | none => rfl
  | some left =>
    rw [Option.any_some, Option.any_some,
      orderOf_proper (hleft left rfl) hright]

/-- Whether a column contains a term, both in lower case; unknown where it holds
no text. -/
theorem truth_isLike_lower {value pattern : Meaning} {scope : Scope}
    {term : String}
    (hpattern : pattern scope = some (.text (String.ofList (substringPattern
      (Text.lowercase term.toList))))) :
    (Meaning.isLike (.call "LOWER" [value]) pattern).truth scope =
      ((value scope).bind Value.text?).map (Value.containsText · term) := by
  have hlower : Meaning.call "LOWER" [value] scope =
      ((value scope).bind Value.text?).map fun text =>
        .text (String.ofList (Text.lowercase text.toList)) := by
    show applied scope "LOWER" [value scope] = _
    unfold applied
    rw [if_pos rfl]
    cases value scope with
    | none => rfl
    | some found => cases found <;> rfl
  rw [Meaning.truth, Meaning.isLike, Truth.ofValue_value, hlower, hpattern]
  cases (value scope).bind Value.text? with
  | none => rfl
  | some text =>
    simp [like, Value.containsText, matchesPattern_substringPattern]

/-- A value contains a term if it is a text that does. -/
theorem any_contains_iff {value : Option Value} {term : String} :
    value.any (·.satisfies .contains (.text term)) = true ↔
      (value.bind Value.text?).map (Value.containsText · term) = some true := by
  cases value with
  | none => simp
  | some found => cases found <;> simp [Value.text?, Value.satisfies]

theorem equals_eq_any (left right : Value) :
    left.equals right = (left.compare right).any Relation.equal.holds := by
  rw [Value.equals]
  cases left.compare right with
  | none => rfl
  | some order => cases order <;> rfl

/-- Whether a column is one of some values. -/
theorem truth_isOneOf {value : Meaning} {values : List Value}
    {choices : Scope → List (Option Value)} {scope : Scope}
    (hchoices : choices scope = values.map some)
    (hvalue : ∀ found ∈ value scope, found.isProper = true)
    (hvalues : ∀ choice ∈ values, choice.isProper = true) :
    (Meaning.isOneOf value choices).truth scope = some true ↔
      (value scope).any (fun value => values.any value.equals) = true := by
  rw [Meaning.truth, Meaning.isOneOf, Truth.ofValue_value, Truth.any_eq_true,
    hchoices, List.map_map, List.mem_map]
  have hequal : ∀ choice ∈ values,
      (compared .equal (value scope) (some choice) = some true ↔
        (value scope).any (·.equals choice) = true) := by
    intro choice hchoice
    simp only [compared_proper hvalue (hvalues choice hchoice), equals_eq_any]
  cases hfound : value scope with
  | none => simp [compared]
  | some found =>
    rw [hfound] at hequal
    simpa using exists_congr fun choice => and_congr_right (hequal choice)

/-! ## Parameters -/

/-- The parameters after a number begin with some values. -/
def Scope.Supplies (scope : Scope) (start : Nat) (values : List Value) : Prop :=
  values <+: scope.parameters.drop start

namespace Scope.Supplies

variable {scope : Scope} {start : Nat}

theorem append {left right : List Value}
    (hsupplies : scope.Supplies start (left ++ right)) :
    scope.Supplies start left ∧
      scope.Supplies (start + left.length) right := by
  obtain ⟨rest, hrest⟩ := hsupplies
  constructor
  · exact ⟨right ++ rest, by rw [← List.append_assoc, hrest]⟩
  · refine ⟨rest, ?_⟩
    rw [← List.drop_drop, ← hrest, List.append_assoc, List.drop_left]

theorem parameter {values : List Value} {value : Value} {i : Nat}
    (hsupplies : scope.Supplies start values)
    (hvalue : values[i]? = some value) :
    Meaning.parameter (start + i + 1) scope = some value := by
  obtain ⟨rest, hrest⟩ := hsupplies
  show scope.parameters[start + i]? = some value
  have hlength : i < values.length := (List.getElem?_eq_some_iff.mp hvalue).1
  rw [← List.getElem?_drop, ← hrest, List.getElem?_append_left hlength]
  exact hvalue

theorem parameters {values : List Value}
    (hsupplies : scope.Supplies start values) :
    (Sql.parameters start values.length).map (fun choice => choice scope) =
      values.map some := by
  apply List.ext_getElem
  · simp [Sql.parameters]
  · intro i _ hright
    have hi : i < values.length := by simpa using hright
    simp [Sql.parameters, hsupplies.parameter (List.getElem?_eq_getElem hi)]

end Scope.Supplies

/-! ## Distances -/

/-- The distance as the functions of a database compute it. -/
def distanceBy (functions : String → List (Option Value) → Option Value)
    (latitude longitude centerLatitude centerLongitude : Option Value) :
    Option Value :=
  let radians (degrees : Option Value) := functions "radians" [degrees]
  let meridian := functions "-" [radians longitude, radians centerLongitude]
  let cosines := functions "*" [functions "*" [
    functions "cos" [radians centerLatitude],
    functions "cos" [radians latitude]], functions "cos" [meridian]]
  let sines := functions "*" [functions "sin" [radians centerLatitude],
    functions "sin" [radians latitude]]
  let lowest := functions "-" [some (.float 1.0)]
  let bounded := functions "LEAST" [some (.float 1.0),
    functions "GREATEST" [lowest, functions "+" [cosines, sines]]]
  functions "*" [some (.float 6371.0), functions "acos" [bounded]]

/-- The functions of a database agree with the great-circle distance on the
points that lie in a circle.  Nothing is said of a point of which a coordinate
is not a number. -/
def AgreesOn (functions : String → List (Option Value) → Option Value)
    (circle : Circle) : Prop :=
  ∀ latitude longitude : Value,
    latitude.isProper = true → longitude.isProper = true →
      (compared .atMost (distanceBy functions latitude longitude
          (some (.float circle.center.latitude))
          (some (.float circle.center.longitude)))
        (some (.float circle.radius)) = some true ↔
      ∃ x ∈ latitude.number?, ∃ y ∈ longitude.number?,
        circle.center.distance ⟨x, y⟩ ≤ circle.radius)

theorem distance_eq_distanceBy (latitude longitude centerLatitude
      centerLongitude : Meaning) (scope : Scope) :
    distance latitude longitude centerLatitude centerLongitude scope =
      distanceBy scope.functions (latitude scope) (longitude scope)
        (centerLatitude scope) (centerLongitude scope) := by
  simp [distance, distanceBy, Meaning.call, Meaning.constant, applied]

theorem truth_nearMeaning {latitude longitude : Meaning} {start : Nat}
    {scope : Scope} {circle : Circle}
    (hsupplies : scope.Supplies start [.float circle.center.latitude,
      .float circle.center.longitude, .float circle.radius])
    (hagrees : AgreesOn scope.functions circle)
    (hlatitude : ∀ value ∈ latitude scope, value.isProper = true)
    (hlongitude : ∀ value ∈ longitude scope, value.isProper = true) :
    (nearMeaning latitude longitude start).truth scope = some true ↔
      ∃ x ∈ (latitude scope).bind Value.number?,
        ∃ y ∈ (longitude scope).bind Value.number?,
          circle.center.distance ⟨x, y⟩ ≤ circle.radius := by
  have hcenterLatitude : Meaning.parameter (start + 1) scope = _ :=
    hsupplies.parameter (i := 0) rfl
  have hcenterLongitude : Meaning.parameter (start + 2) scope = _ :=
    hsupplies.parameter (i := 1) rfl
  have hradius : Meaning.parameter (start + 3) scope = _ :=
    hsupplies.parameter (i := 2) rfl
  have hpresent (value : Meaning) :
      (Meaning.isPresent value).truth scope = some true ↔
        (value scope).isSome = true := by
    show some (value scope).isSome = some true ↔ _
    rw [Option.some_inj]
  rw [nearMeaning, Meaning.truth_conjunction]
  simp only [List.forall_mem_cons, List.not_mem_nil, false_imp_iff,
    implies_true, and_true, hpresent, truth_compare, distance_eq_distanceBy,
    hcenterLatitude, hcenterLongitude, hradius]
  cases hfirst : latitude scope with
  | none => simp
  | some x =>
    cases hsecond : longitude scope with
    | none => simp
    | some y =>
      rw [hfirst] at hlatitude
      rw [hsecond] at hlongitude
      simpa using hagrees x y (hlatitude x rfl) (hlongitude y rfl)

/-! ## Predicates -/

variable {entity : Entity}

variable {column : Column} {start : Nat} {scope : Scope}

theorem truth_comparison {relation : Relation} {data : Value}
    (hsupplies : scope.Supplies start [data])
    (hcolumn : ∀ value ∈ column.meaning scope, value.isProper = true)
    (hdata : data.isProper = true) :
    ((Clause.compare column relation data).meaning start).truth scope =
        some true ↔
      (column.meaning scope).any (fun value =>
        (value.compare data).any relation.holds) = true := by
  have hvalue : Meaning.parameter (start + 1) scope = some data :=
    hsupplies.parameter (i := 0) rfl
  rw [Clause.meaning, truth_compare, hvalue, compared_proper hcolumn hdata]

theorem truth_membership {values : List Value}
    (hsupplies : scope.Supplies start values)
    (hcolumn : ∀ value ∈ column.meaning scope, value.isProper = true)
    (hvalues : ∀ value ∈ values, value.isProper = true) :
    ((Clause.oneOf column values).meaning start).truth scope = some true ↔
      (column.meaning scope).any (fun value => values.any value.equals) =
        true := by
  cases values with
  | nil =>
    have hfalse : ((Clause.oneOf column ([] : List Value)).meaning start).truth
        scope = some false := rfl
    rw [hfalse]
    cases column.meaning scope <;> simp
  | cons value values =>
    rw [Clause.meaning]
    exact truth_isOneOf hsupplies.parameters hcolumn hvalues

/-- The clause of a condition is true where a shown value satisfies it. -/
theorem truth_ofCondition {condition : Condition entity.Field}
    {clause : Clause Value}
    (hclause : ofCondition column condition = .ok clause)
    (hsupplies : scope.Supplies start clause.values)
    (hshown : ∀ value ∈ column.meaning scope, value.isProper = true)
    (hproper : ∀ value ∈ condition.operands, value.isProper = true) :
    (clause.meaning start).truth scope = some true ↔
      (column.meaning scope).any (fun value =>
        value.satisfies condition.operator condition.data) = true := by
  obtain ⟨field, operator, data⟩ := condition
  cases operator with
  | equal =>
    cases hclause
    have hdata : data.isProper = true := hproper data List.mem_cons_self
    rw [truth_comparison hsupplies hshown hdata]
    simp only [Value.satisfies, equals_eq_any]
  | atLeast =>
    cases hclause
    exact truth_comparison hsupplies hshown (hproper data List.mem_cons_self)
  | atMost =>
    cases hclause
    exact truth_comparison hsupplies hshown (hproper data List.mem_cons_self)
  | contains =>
    cases data with
    | text term =>
      cases hclause
      rw [Clause.meaning, truth_isLike_lower (hsupplies.parameter (i := 0) rfl)]
      exact any_contains_iff.symm
    | integer | float | boolean | uuid | date | instant | list => cases hclause
  | oneOf =>
    cases data with
    | list values =>
      cases hclause
      exact truth_membership hsupplies hshown hproper
    | text | integer | float | boolean | uuid | date | instant =>
      cases hclause
      rw [truth_comparison hsupplies hshown (hproper _ List.mem_cons_self)]
      simp only [Value.satisfies, equals_eq_any]

theorem columns_ofCondition {condition : Condition entity.Field}
    {clause : Clause Value}
    (hclause : ofCondition column condition = .ok clause) :
    clause.columns = [column] := by
  obtain ⟨field, operator, data⟩ := condition
  cases operator with
  | equal | atLeast | atMost =>
    cases hclause
    rfl
  | contains =>
    cases data with
    | text term =>
      cases hclause
      rfl
    | integer | float | boolean | uuid | date | instant | list => cases hclause
  | oneOf =>
    cases data <;> cases hclause <;> rfl

theorem truth_truism : truism.truth scope = some true := rfl

section

variable {parts : List (Predicate entity.Field)} {meanings : List Meaning}

theorem forall_truth_iff (hparts : List.Forall₂ (fun part meaning =>
      Meaning.truth meaning scope = some true ↔
        part.shown scope.view = true) parts meanings) :
    (∀ meaning ∈ meanings, meaning.truth scope = some true) ↔
      Predicate.allShown scope.view parts = true := by
  induction hparts with
  | nil => simp [Predicate.allShown]
  | cons hpart hothers ih => simp [Predicate.allShown, hpart, ih]

theorem exists_truth_iff (hparts : List.Forall₂ (fun part meaning =>
      Meaning.truth meaning scope = some true ↔
        part.shown scope.view = true) parts meanings) :
    (∃ meaning ∈ meanings, meaning.truth scope = some true) ↔
      Predicate.anyShown scope.view parts = true := by
  induction hparts with
  | nil => simp [Predicate.anyShown]
  | cons hpart hothers ih => simp [Predicate.anyShown, hpart, ih]

end

section Inversion

variable {parts others : List (Predicate entity.Field)}
  {part : Predicate entity.Field} {clause : Clause Value}
  {clauses : List (Clause Value)}

theorem exists_of_ofPredicate_all
    (hclause : ofPredicate (.all parts) = .ok clause) :
    ∃ clauses, ofPredicates parts = .ok clauses ∧ clause = .all clauses := by
  rw [ofPredicate] at hclause
  obtain ⟨clauses, hclauses, hresult⟩ := exists_ok_of_bind hclause
  cases hresult
  exact ⟨clauses, hclauses, rfl⟩

theorem exists_of_ofPredicate_any
    (hclause : ofPredicate (.any parts) = .ok clause) :
    ∃ clauses, ofPredicates parts = .ok clauses ∧ clause = .any clauses := by
  rw [ofPredicate] at hclause
  obtain ⟨clauses, hclauses, hresult⟩ := exists_ok_of_bind hclause
  cases hresult
  exact ⟨clauses, hclauses, rfl⟩

theorem exists_of_ofPredicate_leaf {condition : Condition entity.Field}
    (hclause : ofPredicate (.leaf condition) = .ok clause) :
    ∃ column, Column.ofField condition.field = .ok column ∧
      ofCondition column condition = .ok clause := by
  rw [ofPredicate] at hclause
  exact exists_ok_of_bind hclause

theorem exists_of_ofPredicate_near {proximity : Proximity entity.Field}
    (hclause : ofPredicate (.near proximity) = .ok clause) :
    ∃ latitude longitude,
      Column.ofField proximity.latitude = .ok latitude ∧
      Column.ofField proximity.longitude = .ok longitude ∧
      clause = .near latitude longitude
        (.float proximity.circle.center.latitude)
        (.float proximity.circle.center.longitude)
        (.float proximity.circle.radius) := by
  rw [ofPredicate] at hclause
  obtain ⟨latitude, hlatitude, hrest⟩ := exists_ok_of_bind hclause
  obtain ⟨longitude, hlongitude, hresult⟩ := exists_ok_of_bind hrest
  cases hresult
  exact ⟨latitude, longitude, hlatitude, hlongitude, rfl⟩

theorem exists_of_ofPredicates_cons
    (hclauses : ofPredicates (part :: others) = .ok clauses) :
    ∃ first rest, ofPredicate part = .ok first ∧
      ofPredicates others = .ok rest ∧ clauses = first :: rest := by
  rw [ofPredicates] at hclauses
  obtain ⟨first, hfirst, htail⟩ := exists_ok_of_bind hclauses
  obtain ⟨rest, hrest, hresult⟩ := exists_ok_of_bind htail
  cases hresult
  exact ⟨first, rest, hfirst, hrest, rfl⟩

end Inversion

mutual

/-- The clause of a predicate is true where the predicate holds of the values
that the scope shows. -/
theorem truth_ofPredicate {predicate : Predicate entity.Field}
    {clause : Clause Value} {start : Nat}
    (hclause : ofPredicate predicate = .ok clause)
    (hsupplies : scope.Supplies start clause.values)
    (hagrees : ∀ circle ∈ predicate.circles, AgreesOn scope.functions circle)
    (hshown : scope.view.IsProperOn predicate.fields)
    (hproper : predicate.IsProper) :
    (clause.meaning start).truth scope = some true ↔
      predicate.shown scope.view = true := by
  match predicate with
  | .always =>
    cases hclause
    simp [Clause.meaning, Predicate.shown, truth_truism]
  | .all parts =>
    obtain ⟨clauses, hclauses, rfl⟩ := exists_of_ofPredicate_all hclause
    have hparts := truth_ofPredicates hclauses hsupplies hagrees hshown
      hproper
    cases clauses with
    | nil =>
      cases hparts
      simp [Clause.meaning, Predicate.shown, Predicate.allShown, truth_truism]
    | cons part others =>
      rw [Clause.meaning, List.isEmpty_cons, if_neg Bool.false_ne_true,
        Meaning.truth_conjunction, forall_truth_iff hparts, Predicate.shown]
  | .any parts =>
    obtain ⟨clauses, hclauses, rfl⟩ := exists_of_ofPredicate_any hclause
    have hparts := truth_ofPredicates hclauses hsupplies hagrees hshown
      hproper
    cases clauses with
    | nil =>
      cases hparts
      simp [Clause.meaning, Predicate.shown, truth_truism]
    | cons part others =>
      have hempty : parts.isEmpty = false := by
        cases parts with
        | nil => cases hparts
        | cons => rfl
      rw [Clause.meaning, List.isEmpty_cons, if_neg Bool.false_ne_true,
        Meaning.truth_disjunction, exists_truth_iff hparts, Predicate.shown,
        hempty, Bool.false_or]
  | .leaf condition =>
    obtain ⟨column, hcolumn, hcondition⟩ := exists_of_ofPredicate_leaf hclause
    have hvalue := Column.isProper_meaning hcolumn hshown List.mem_cons_self
    have hoperands := hproper condition List.mem_cons_self
    rw [truth_ofCondition hcondition hsupplies hvalue hoperands,
      Column.meaning_ofField hcolumn, Predicate.shown]
  | .near proximity =>
    obtain ⟨latitude, longitude, hlatitude, hlongitude, rfl⟩ :=
      exists_of_ofPredicate_near hclause
    have hcircle := hagrees proximity.circle List.mem_cons_self
    have hfirst := Column.isProper_meaning hlatitude hshown List.mem_cons_self
    have hsecond := Column.isProper_meaning hlongitude hshown
      (List.mem_cons_of_mem _ List.mem_cons_self)
    rw [Clause.meaning, truth_nearMeaning hsupplies hcircle hfirst hsecond,
      Column.meaning_ofField hlatitude, Column.meaning_ofField hlongitude,
      Predicate.shown]
    cases (scope.view proximity.latitude).bind Value.number? with
    | none => simp
    | some latitude =>
      cases (scope.view proximity.longitude).bind Value.number? with
      | none => simp
      | some longitude => simp

theorem truth_ofPredicates {parts : List (Predicate entity.Field)}
    {clauses : List (Clause Value)} {start : Nat}
    (hclauses : ofPredicates parts = .ok clauses)
    (hsupplies : scope.Supplies start (Clause.partValues clauses))
    (hagrees : ∀ circle ∈ Predicate.partCircles parts,
      AgreesOn scope.functions circle)
    (hshown : scope.view.IsProperOn (Predicate.partFields parts))
    (hproper : ∀ condition ∈ Predicate.partConditions parts,
      ∀ value ∈ condition.operands, value.isProper = true) :
    List.Forall₂ (fun part meaning => Meaning.truth meaning scope = some true ↔
        part.shown scope.view = true)
      parts (Clause.partMeanings start clauses) := by
  match parts with
  | [] =>
    cases hclauses
    rw [Clause.partMeanings]
    exact .nil
  | part :: others =>
    obtain ⟨clause, clauses, hclause, hothers, rfl⟩ :=
      exists_of_ofPredicates_cons hclauses
    rw [Clause.partValues] at hsupplies
    rw [Predicate.partCircles, List.forall_mem_append] at hagrees
    rw [Predicate.partFields, View.IsProperOn, List.forall_mem_append] at hshown
    rw [Predicate.partConditions, List.forall_mem_append] at hproper
    obtain ⟨hfirst, hsecond⟩ := hsupplies.append
    rw [Clause.partMeanings]
    exact .cons
      (truth_ofPredicate hclause hfirst hagrees.1 hshown.1 hproper.1)
      (truth_ofPredicates hothers hsecond hagrees.2 hshown.2 hproper.2)

end

mutual

/-- The columns of a clause are those of the attributes of the predicate. -/
theorem columns_ofPredicate {predicate : Predicate entity.Field}
    {clause : Clause Value} (hclause : ofPredicate predicate = .ok clause) :
    List.Forall₂ (fun field column => Column.ofField field = .ok column)
      predicate.fields clause.columns := by
  match predicate with
  | .always =>
    cases hclause
    exact .nil
  | .all parts =>
    obtain ⟨clauses, hclauses, rfl⟩ := exists_of_ofPredicate_all hclause
    exact columns_ofPredicates hclauses
  | .any parts =>
    obtain ⟨clauses, hclauses, rfl⟩ := exists_of_ofPredicate_any hclause
    exact columns_ofPredicates hclauses
  | .leaf condition =>
    obtain ⟨column, hcolumn, hcondition⟩ := exists_of_ofPredicate_leaf hclause
    rw [columns_ofCondition hcondition]
    exact .cons hcolumn .nil
  | .near proximity =>
    obtain ⟨latitude, longitude, hlatitude, hlongitude, rfl⟩ :=
      exists_of_ofPredicate_near hclause
    exact .cons hlatitude (.cons hlongitude .nil)

theorem columns_ofPredicates {parts : List (Predicate entity.Field)}
    {clauses : List (Clause Value)}
    (hclauses : ofPredicates parts = .ok clauses) :
    List.Forall₂ (fun field column => Column.ofField field = .ok column)
      (Predicate.partFields parts) (Clause.partColumns clauses) := by
  match parts with
  | [] =>
    cases hclauses
    exact .nil
  | part :: others =>
    obtain ⟨clause, clauses, hclause, hothers, rfl⟩ :=
      exists_of_ofPredicates_cons hclauses
    exact List.rel_append (columns_ofPredicate hclause)
      (columns_ofPredicates hothers)

end

/-- A column of the clause is that of an attribute of the predicate. -/
theorem mem_columns_iff {predicate : Predicate entity.Field}
    {clause : Clause Value} (hclause : ofPredicate predicate = .ok clause) :
    column ∈ clause.columns ↔
      ∃ field ∈ predicate.fields, Column.ofField field = .ok column := by
  have hcolumns := columns_ofPredicate hclause
  generalize predicate.fields = fields at hcolumns ⊢
  generalize clause.columns = columns at hcolumns ⊢
  induction hcolumns with
  | nil => simp
  | @cons field first fields columns hfield hothers ih =>
    have hfirst : column = first ↔ Column.ofField field = .ok column := by
      rw [hfield, Except.ok.injEq, eq_comm]
    simp [ih, hfirst]

/-- Only identifiers get into the text of the clause of a predicate. -/
theorem wellNamed_ofPredicate {predicate : Predicate entity.Field}
    {clause : Clause Value} (hclause : ofPredicate predicate = .ok clause) :
    ∀ column ∈ clause.columns, column.WellNamed := by
  intro column hcolumn
  obtain ⟨field, _, hfield⟩ := (mem_columns_iff hclause).mp hcolumn
  exact Column.wellNamed_ofPath hfield

end Sql

end CivicRegistry
