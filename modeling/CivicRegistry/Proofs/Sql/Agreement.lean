import CivicRegistry.Proofs.Sql.Stored

/-!
# Clauses and matching

The clause of a predicate selects a stored row exactly if the predicate holds of
one of the views of the row.  Matching a row looks at the row itself.  So the
two agree on predicates in which every alternative has parts and no two
conditions on the same list have to hold together, and neither can be left out:
an alternative without parts is selected and not matched, and two conditions on
a list are matched by two elements but selected by one only.  All this is said
of numbers: a float that is not a number has a place in the order of the
database, and is compared with nothing where rows are matched.
-/

namespace CivicRegistry.Sql

variable {entity : Entity}

/-- The text of a clause is true in one of the scopes in which the collections
of the clause are joined. -/
def Clause.Selects (clause : Clause Value) (start : Nat) (scope : Scope) :
    Prop :=
  ∃ joined ∈ joinedScopes (clause.joins.map joinOf) scope,
    ∃ condition ∈ readCondition? (clause.sql start),
      condition.truth joined = some true

/-- A joined table is bound to one tuple under its name. -/
theorem exists_bind_of_mem_scopes {join : Join} {scope joined : Scope}
    (hjoined : joined ∈ join.scopes scope) :
    ∃ tuple, joined = scope.bind join.source tuple := by
  rw [Join.scopes] at hjoined
  split at hjoined
  · exact ⟨[], List.mem_singleton.mp hjoined⟩
  · obtain ⟨tuple, _, rfl⟩ := List.mem_map.mp (List.mem_of_mem_filter hjoined)
    exact ⟨tuple, rfl⟩

/-- Joins add sources to a scope and leave everything else as it is. -/
theorem joinedScopes_same {joins : List Join} {scope joined : Scope}
    (hjoined : joined ∈ joinedScopes joins scope) :
    joined.parameters = scope.parameters ∧
      joined.functions = scope.functions := by
  induction joins generalizing scope with
  | nil =>
    rw [List.mem_singleton.mp hjoined]
    exact ⟨rfl, rfl⟩
  | cons join joins ih =>
    obtain ⟨middle, hmiddle, hrest⟩ := List.mem_flatMap.mp hjoined
    obtain ⟨hparameters, hfunctions⟩ := ih hrest
    obtain ⟨tuple, rfl⟩ := exists_bind_of_mem_scopes hmiddle
    exact ⟨hparameters, hfunctions⟩

section

variable {predicate : Predicate entity.Field} {clause : Clause Value}
  {row : Row entity} {scope : Scope} {start : Nat}
  (hclause : ofPredicate predicate = .ok clause)
  (hstored : Stored scope.tables (scope.sources "t") row)
  (hsupplies : scope.Supplies start clause.values)
  (hagrees : ∀ circle ∈ predicate.circles, AgreesOn scope.functions circle)
  (hrow : View.IsProperOn row.get predicate.fields)
  (hproper : predicate.IsProper)

include hclause hstored hsupplies hagrees hrow hproper

/-- The clause of a predicate selects a row exactly if the predicate holds of
one of its views. -/
theorem selects_iff_exists_view :
    clause.Selects start scope ↔
      ∃ view, row.Shows view ∧ predicate.shown view = true := by
  rw [← exists_joined_iff hclause hstored, Clause.Selects,
    Clause.readCondition?_sql start (wellNamed_ofPredicate hclause)]
  apply exists_congr
  intro joined
  apply and_congr_right
  intro hjoined
  obtain ⟨hparameters, hfunctions⟩ := joinedScopes_same hjoined
  have hjoinedSupplies : joined.Supplies start clause.values := by
    rw [Scope.Supplies, hparameters]
    exact hsupplies
  have hjoinedAgrees : ∀ circle ∈ predicate.circles,
      AgreesOn joined.functions circle := by
    rw [hfunctions]
    exact hagrees
  have hshown := isProperOn_of_joined hclause hstored hrow hjoined
  rw [← truth_ofPredicate hclause hjoinedSupplies hjoinedAgrees hshown hproper]
  simp

theorem holds_of_selects (hpopulated : predicate.Populated)
    (hselects : clause.Selects start scope) : predicate.holds row = true := by
  rw [selects_iff_exists_view hclause hstored hsupplies hagrees hrow hproper]
    at hselects
  obtain ⟨view, hshows, hshown⟩ := hselects
  exact Predicate.holds_of_shown hshows predicate hpopulated hshown

theorem selects_of_holds (hseparate : predicate.Separate)
    (hholds : predicate.holds row = true) : clause.Selects start scope := by
  rw [selects_iff_exists_view hclause hstored hsupplies hagrees hrow hproper]
  exact Predicate.exists_view_of_holds predicate hseparate hholds

end

/-- The text of the clause of a predicate can always be read.  Where no float is
concerned that is not a number, with its collections joined to a stored row it
is true of one of the joined rows exactly if the predicate holds of a view of
the row.  What it selects is matched if every alternative has parts, and what is
matched is selected if no two conditions on a list have to hold together. -/
theorem clause_agrees_with_matching {predicate : Predicate entity.Field}
    {clause : Clause Value} (hclause : ofPredicate predicate = .ok clause)
    {row : Row entity} {scope : Scope}
    (hstored : Stored scope.tables (scope.sources "t") row) {start : Nat}
    (hsupplies : scope.Supplies start clause.values)
    (hagrees : ∀ circle ∈ predicate.circles, AgreesOn scope.functions circle) :
    (readCondition? (clause.sql start)).isSome = true ∧
    (View.IsProperOn row.get predicate.fields → predicate.IsProper →
      (clause.Selects start scope ↔
        ∃ view, row.Shows view ∧ predicate.shown view = true) ∧
      (predicate.Populated → clause.Selects start scope →
        predicate.holds row = true) ∧
      (predicate.Separate → predicate.holds row = true →
        clause.Selects start scope)) := by
  have hread := Clause.readCondition?_sql start (wellNamed_ofPredicate hclause)
  constructor
  · rw [hread]
    rfl
  · intro hrow hproper
    exact ⟨selects_iff_exists_view hclause hstored hsupplies hagrees hrow
        hproper,
      holds_of_selects hclause hstored hsupplies hagrees hrow hproper,
      selects_of_holds hclause hstored hsupplies hagrees hrow hproper⟩

/-- A user who may edit and view. -/
def sampleUser : Row .users
  | .id => ⟨7#128⟩
  | .email => "a@b.c"
  | .fullName => "A"
  | .fullNameNepali => none
  | .phoneNumber => none
  | .roles => [.editor, .viewer]
  | .officePost => none
  | .wardNumber => some (3 : Int)
  | .isApproved => true
  | .approvedBy => none
  | .approvedAt => none
  | .isActive => true
  | .profilePicture => none
  | .createdAt => ⟨0, 0⟩
  | .updatedAt => ⟨0, 0⟩

/-- The tuple of the user, and two more that hold the roles. -/
def sampleTuple : Tuple :=
  [("id", some (.uuid ⟨7#128⟩)), ("email", some (.text "a@b.c")),
    ("full_name", some (.text "A")), ("ward_number", some (.integer 3)),
    ("is_approved", some (.boolean true)), ("is_active", some (.boolean true)),
    ("created_at", some (.instant ⟨0, 0⟩)),
    ("updated_at", some (.instant ⟨0, 0⟩))]

def sampleTables : String → List Tuple
  | "users" => [sampleTuple]
  | "user_roles" =>
    [[("user_id", some (.uuid ⟨7#128⟩)), ("role", some (.text "VIEWER"))],
      [("user_id", some (.uuid ⟨7#128⟩)), ("role", some (.text "EDITOR"))]]
  | _ => []

theorem stored_sampleUser : Stored sampleTables sampleTuple sampleUser := by
  constructor
  · intro field horigin
    cases field <;> first | rfl | cases horigin
  · intro field name collection horigin
    cases field <;> cases horigin
  · intro field name collection valueColumn horigin hcollection hvalue
    cases field <;> cases horigin
    cases hcollection
    cases hvalue
    exact ⟨_, rfl, List.Perm.swap _ _ _⟩

def sampleScope : Scope where
  tables := sampleTables
  parameters := [.text "EDITOR", .integer 2]
  functions := fun _ _ => none
  sources := fun _ => sampleTuple

def samplePredicate : Predicate (Entity.Field .users) :=
  .all [.leaf ⟨.roles, .equal, .text "EDITOR"⟩,
    .leaf ⟨.wardNumber, .atLeast, .integer 2⟩]

def sampleClause : Clause Value :=
  .all [.compare (.element ⟨"roles", "user_roles", "user_id", some "role"⟩
      "role") .equal (.text "EDITOR"),
    .compare (.own "ward_number") .atLeast (.integer 2)]

theorem clause_agrees_with_matching_sample :
    sampleClause.Selects 0 sampleScope := by
  have hclause : ofPredicate samplePredicate = .ok sampleClause := rfl
  have hsupplies : sampleScope.Supplies 0 sampleClause.values := ⟨[], rfl⟩
  have hagrees : ∀ circle ∈ samplePredicate.circles,
      AgreesOn sampleScope.functions circle := by
    intro circle hcircle
    cases hcircle
  have hseparate : samplePredicate.Separate := by
    simp [samplePredicate, Predicate.Separate, Predicate.AllSeparate,
      Predicate.Apart, Predicate.fields]
  have hrow : View.IsProperOn sampleUser.get samplePredicate.fields := by
    intro field _ value hvalue
    cases field <;> cases hvalue <;> rfl
  have hproper : samplePredicate.IsProper := by
    simp [Predicate.IsProper, samplePredicate, Predicate.conditions,
      Predicate.partConditions, Condition.operands, Value.isProper]
  obtain ⟨_, hagrees⟩ := clause_agrees_with_matching hclause
    (stored_sampleUser : Stored sampleScope.tables _ sampleUser) hsupplies
    hagrees
  exact (hagrees hrow hproper).2.2 hseparate (by decide)

/-! ## Where matching differs -/

/-- An alternative without parts is selected of every stored row and matched by
none. -/
theorem any_nil_selects (row : Row entity) {scope : Scope}
    (hstored : Stored scope.tables (scope.sources "t") row) :
    (Clause.any []).Selects 0 scope ∧
      (Predicate.any [] : Predicate entity.Field).holds row = false := by
  have hclause : ofPredicate (Predicate.any [] : Predicate entity.Field) =
      .ok (.any []) := rfl
  have hsupplies : scope.Supplies 0
      (Clause.any ([] : List (Clause Value))).values := List.nil_prefix
  have hrow : View.IsProperOn row.get (Predicate.any [] :
      Predicate entity.Field).fields := by
    intro field hfield
    cases hfield
  have hproper : (Predicate.any [] : Predicate entity.Field).IsProper := by
    intro condition hcondition
    cases hcondition
  have hcircles :
      ∀ circle ∈ (Predicate.any [] : Predicate entity.Field).circles,
        AgreesOn scope.functions circle := by
    intro circle hcircle
    cases hcircle
  obtain ⟨view, hview⟩ := Predicate.exists_view row
  have hselects := selects_iff_exists_view hclause hstored hsupplies hcircles
    hrow hproper
  exact ⟨hselects.mpr ⟨view, hview, rfl⟩, rfl⟩

/-- The demand for two roles. -/
def bothRoles (left right : Role) : Predicate (Entity.Field .users) :=
  .all [.leaf ⟨.roles, .equal, .text (Vocabulary.word left)⟩,
    .leaf ⟨.roles, .equal, .text (Vocabulary.word right)⟩]

theorem equals_word_iff {value : Value} {role : Role} :
    value.equals (.text (Vocabulary.word role)) = true ↔
      value = .text (Vocabulary.word role) := by
  cases value <;> simp [Value.equals, Value.compare]

theorem word_injective {left right : Role}
    (hword : Vocabulary.word left = Vocabulary.word right) : left = right := by
  revert hword
  cases left <;> cases right <;> decide

theorem get_roles {row : Row .users} {roles : List Role}
    (hroles : row UserField.roles = roles) :
    row.get UserField.roles = some (.list (roles.map fun role =>
      .text (Vocabulary.word role))) := by
  subst hroles
  rfl

theorem holds_role_iff {row : Row .users} {roles : List Role}
    (hroles : row UserField.roles = roles) {role : Role} :
    Predicate.holds row
      (.leaf ⟨UserField.roles, .equal, .text (Vocabulary.word role)⟩) = true ↔
        role ∈ roles := by
  rw [Predicate.holds, Condition.holds, get_roles hroles, Option.any_some,
    Value.anySatisfies, List.any_map, List.any_eq_true]
  constructor
  · rintro ⟨other, hother, hequal⟩
    have hword := equals_word_iff.mp hequal
    rw [Value.text.injEq] at hword
    rwa [← word_injective hword]
  · intro hrole
    exact ⟨role, hrole, equals_word_iff.mpr rfl⟩

/-- The demand for two different roles is matched by a user who has both and
selected of none. -/
theorem bothRoles_not_selected {left right : Role} (hne : left ≠ right)
    {row : Row .users} {roles : List Role}
    (hroles : row UserField.roles = roles) (hleft : left ∈ roles)
    (hright : right ∈ roles) {clause : Clause Value}
    (hclause : ofPredicate (bothRoles left right) = .ok clause)
    {scope : Scope} (hstored : Stored scope.tables (scope.sources "t") row)
    (hsupplies : scope.Supplies 0 clause.values) :
    ¬clause.Selects 0 scope ∧ (bothRoles left right).holds row = true := by
  have hcircles : ∀ circle ∈ (bothRoles left right).circles,
      AgreesOn scope.functions circle := by
    intro circle hcircle
    cases hcircle
  have hrow : View.IsProperOn row.get (bothRoles left right).fields := by
    intro field hfield value hvalue
    have hroles' : field = UserField.roles := by
      simpa [bothRoles, Predicate.fields, Predicate.partFields] using hfield
    rw [hroles', get_roles hroles] at hvalue
    cases hvalue
    rfl
  have hproper : (bothRoles left right).IsProper := by
    simp [Predicate.IsProper, bothRoles, Predicate.conditions,
      Predicate.partConditions, Condition.operands, Value.isProper]
  constructor
  · rw [selects_iff_exists_view hclause hstored hsupplies hcircles hrow hproper]
    rintro ⟨view, _, hshown⟩
    simp only [bothRoles, Predicate.shown, Predicate.allShown, Bool.and_true,
      Bool.and_eq_true, Option.any_eq_true] at hshown
    obtain ⟨⟨value, hvalue, hequalLeft⟩, other, hother, hequalRight⟩ := hshown
    rw [hvalue] at hother
    cases hother
    have hword := (equals_word_iff.mp hequalLeft).symm.trans
      (equals_word_iff.mp hequalRight)
    rw [Value.text.injEq] at hword
    exact hne (word_injective hword)
  · rw [bothRoles, Predicate.holds, Predicate.allHold, Predicate.allHold,
      Predicate.allHold, (holds_role_iff hroles).mpr hleft,
      (holds_role_iff hroles).mpr hright]
    rfl

/-- A stored float that is not a number is above every bound in the clause, and
matched by none. -/
theorem nan_selects {field : entity.Field}
    (hfield : Entity.isCollected field = false) {number bound : Float}
    (hnan : number.isNaN = true) (hbound : bound.isNaN = false)
    {row : Row entity} (hvalue : row.get field = some (.float number))
    {clause : Clause Value}
    (hclause : ofPredicate (.leaf ⟨field, .atLeast, .float bound⟩) =
      .ok clause) {scope : Scope}
    (hstored : Stored scope.tables (scope.sources "t") row)
    (hsupplies : scope.Supplies 0 clause.values) :
    clause.Selects 0 scope ∧
      (Predicate.leaf ⟨field, .atLeast, .float bound⟩).holds row = false := by
  have hjoins : clause.joins = [] := by
    apply joins_eq_nil_of_fields hclause
    rwa [Predicate.fields, List.forall_mem_singleton]
  obtain ⟨column, hcolumn, hcondition⟩ := exists_of_ofPredicate_leaf hclause
  cases hcondition
  have hparameter : Meaning.parameter (0 + 1) scope = some (.float bound) :=
    hsupplies.parameter (i := 0) rfl
  constructor
  · have hself : scope ∈ joinedScopes
        ((Clause.compare column .atLeast (Value.float bound)).joins.map joinOf)
          scope := by
      rw [hjoins]
      exact List.mem_singleton_self scope
    have horder :
        orderOf (Value.float number) (Value.float bound) = some .gt := by
      rw [orderOf, Value.isProper, Value.isProper, hnan, hbound]
      rfl
    refine ⟨scope, hself, _, Clause.readCondition?_sql 0
      (wellNamed_ofPredicate hclause), ?_⟩
    rw [Clause.meaning, truth_compare, hparameter,
      Column.meaning_ofField hcolumn, hstored.view_eq_get hfield, hvalue,
      compared, horder]
    rfl
  · have hnone : Value.compare (.float number) (.float bound) = none :=
      Binary64.compare_eq_none (.inl hnan)
    rw [Predicate.holds, Condition.holds, hvalue]
    show (Value.compare (.float number) (.float bound)).any (·.isGE) = false
    rw [hnone]
    rfl

end CivicRegistry.Sql
