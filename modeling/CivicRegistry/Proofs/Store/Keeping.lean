import CivicRegistry.Proofs.Criteria.Statements
import CivicRegistry.Proofs.Sql.Skeleton
import CivicRegistry.Store.Cell

/-!
# What a database keeps of a request

Only whole microseconds of an instant are sent to a database; any other value
that a request compares with is sent as it is.  The statements of a request are
therefore sent with the values of a request that is like it but for its bounds
on the time of creation, which are cut.
-/

namespace CivicRegistry

open Calendar (Instant)
open Store (Cell)

variable {entity : Entity}

/-! ## Values -/

/-- A whole number of microseconds that lies in no leap second. -/
structure Calendar.Instant.IsWhole (moment : Instant) : Prop where
  nanos_lt : moment.nanos < nanosPerSecond
  dvd : 1000 ∣ moment.nanos

/-- A database keeps whole microseconds. -/
theorem Store.Cell.storedInstant_eq_self {moment : Instant}
    (hwhole : moment.IsWhole) : storedInstant moment = moment := by
  obtain ⟨seconds, nanos⟩ := moment
  obtain ⟨hlt, micros, hmicros⟩ := hwhole
  dsimp only at hlt hmicros
  subst hmicros
  rw [Instant.nanosPerSecond] at hlt
  have hsum : Instant.totalNanos ⟨seconds, 1000 * micros⟩ -
      epochSeconds * Instant.nanosPerSecond =
        1000 * ((seconds - epochSeconds) * 1000000 + micros) := by
    rw [Instant.totalNanos, Instant.nanosPerSecond]
    dsimp only
    omega
  have hstored : databaseMicros ⟨seconds, 1000 * micros⟩ +
      epochSeconds * 1000000 = seconds * 1000000 + micros := by
    rw [databaseMicros, hsum, Int.mul_tdiv_cancel_left _ (by decide)]
    omega
  rw [storedInstant, hstored, Instant.mk.injEq]
  omega

/-- What a database keeps of a value: of an instant, its whole microseconds. -/
def Value.kept : Value → Value
  | .instant moment => .instant (Cell.storedInstant moment)
  | value => value

/-- What is kept of texts, integers, truth values and identifiers is all of
them. -/
theorem Value.keepsPlain : Value.HoldsOfPlain fun value => value.kept = value :=
  ⟨fun _ => rfl, fun _ => rfl, fun _ => rfl, fun _ => rfl⟩

/-- The value that a cell holds. -/
def Store.Cell.value? : Cell → Option Value
  | .null => none
  | .boolean value => some (.boolean value)
  | .int32 value => some (.integer value)
  | .int64 value => some (.integer value)
  | .float value => some (.float value)
  | .text value => some (.text value)
  | .texts values =>
    (values.mapM id).map fun texts => .list (texts.map .text)
  | .date value => some (.date value)
  | .instant value => some (.instant value)
  | .uuid value => some (.uuid value)

/-- A value that is no list arrives as what is kept of it. -/
theorem Store.Cell.value?_ofValue {value : Value}
    (hflat : value.items? = none) :
    (ofValue value).value? = some value.kept := by
  cases value with
  | list items => cases hflat
  | text | integer | float | boolean | uuid | date | instant => rfl

theorem Store.Cell.mapM_value?_ofValue {values : List Value}
    (hflat : ∀ value ∈ values, value.items? = none) :
    (values.map ofValue).mapM value? = some (values.map Value.kept) := by
  induction values with
  | nil => rfl
  | cons value others ih =>
    rw [List.forall_mem_cons] at hflat
    rw [List.map_cons, List.mapM_cons, value?_ofValue hflat.1, ih hflat.2]
    rfl

/-! ## Predicates -/

/-- What is kept of the data of a condition, each item of a list by itself. -/
def Operator.keptData : Operator → Value → Value
  | .oneOf, .list items => .list (items.map Value.kept)
  | _, data => data.kept

/-- The condition with what is kept of its data. -/
def Condition.kept {F : Type} (condition : Condition F) : Condition F :=
  { condition with data := condition.operator.keptData condition.data }

theorem Condition.kept_eq_self {F : Type} {condition : Condition F}
    (hkept : ∀ value ∈ condition.operands, value.kept = value) :
    condition.kept = condition := by
  obtain ⟨field, operator, data⟩ := condition
  have hdata : operator.keptData data = data := by
    cases operator with
    | equal | atLeast | atMost | contains =>
      exact hkept data (List.mem_singleton_self data)
    | oneOf =>
      cases data with
      | list items =>
        have hitems : items.map Value.kept = items.map id :=
          List.map_congr_left hkept
        rw [Operator.keptData, hitems, List.map_id]
      | text | integer | float | boolean | uuid | date | instant =>
        exact hkept _ (List.mem_singleton_self _)
  rw [kept, hdata]

namespace Predicate

variable {F : Type}

mutual

/-- The predicate with what is kept of the operands of its conditions. -/
def kept : Predicate F → Predicate F
  | .always => .always
  | .all parts => .all (keptParts parts)
  | .any parts => .any (keptParts parts)
  | .leaf condition => .leaf condition.kept
  | .near proximity => .near proximity

def keptParts : List (Predicate F) → List (Predicate F)
  | [] => []
  | part :: others => part.kept :: keptParts others

end

theorem keptParts_eq_map (parts : List (Predicate F)) :
    keptParts parts = parts.map kept := by
  induction parts with
  | nil => rfl
  | cons part others ih => rw [keptParts, ih, List.map_cons]

theorem kept_and (left right : Predicate F) :
    (left.and right).kept = left.kept.and right.kept := by
  cases left <;> cases right <;>
    simp [and, conjuncts, kept, keptParts_eq_map]

mutual

theorem kept_eq_self {predicate : Predicate F}
    (hkept : ∀ condition ∈ predicate.conditions,
      ∀ value ∈ condition.operands, value.kept = value) :
    predicate.kept = predicate := by
  cases predicate with
  | always | near => rfl
  | all parts => rw [kept, keptParts_eq_self hkept]
  | any parts => rw [kept, keptParts_eq_self hkept]
  | leaf condition =>
    rw [kept, Condition.kept_eq_self
      (hkept condition (List.mem_singleton_self condition))]

theorem keptParts_eq_self {parts : List (Predicate F)}
    (hkept : ∀ condition ∈ partConditions parts,
      ∀ value ∈ condition.operands, value.kept = value) :
    keptParts parts = parts := by
  cases parts with
  | nil => rfl
  | cons part others =>
    rw [partConditions, List.forall_mem_append] at hkept
    rw [keptParts, kept_eq_self hkept.1, keptParts_eq_self hkept.2]

end

mutual

theorem circles_kept (predicate : Predicate entity.Field) :
    predicate.kept.circles = predicate.circles := by
  cases predicate with
  | always | leaf | near => rfl
  | all parts | any parts => rw [kept, circles, circles, partCircles_kept parts]

theorem partCircles_kept (parts : List (Predicate entity.Field)) :
    partCircles (keptParts parts) = partCircles parts := by
  cases parts with
  | nil => rfl
  | cons part others =>
    rw [keptParts, partCircles, partCircles, circles_kept part,
      partCircles_kept others]

end

end Predicate

/-! ## Clauses -/

namespace Sql

theorem ofCondition_kept {column : Column} {condition : Condition entity.Field}
    {clause : Clause Value}
    (hclause : ofCondition column condition = .ok clause) :
    ofCondition column condition.kept = .ok (clause.map Value.kept) := by
  obtain ⟨field, operator, data⟩ := condition
  cases operator with
  | equal | atLeast | atMost =>
    cases hclause
    rfl
  | contains | oneOf => cases data <;> cases hclause <;> rfl

mutual

/-- The clause of what is kept of a predicate is the clause of the predicate
with what is kept of its values. -/
theorem ofPredicate_kept {predicate : Predicate entity.Field}
    {clause : Clause Value} (hclause : ofPredicate predicate = .ok clause) :
    ofPredicate predicate.kept = .ok (clause.map Value.kept) := by
  cases predicate with
  | always =>
    cases hclause
    rfl
  | all parts =>
    obtain ⟨clauses, hclauses, rfl⟩ := exists_of_ofPredicate_all hclause
    rw [Predicate.kept, ofPredicate, ofPredicates_kept hclauses]
    rfl
  | any parts =>
    obtain ⟨clauses, hclauses, rfl⟩ := exists_of_ofPredicate_any hclause
    rw [Predicate.kept, ofPredicate, ofPredicates_kept hclauses]
    rfl
  | leaf condition =>
    obtain ⟨column, hcolumn, hcondition⟩ := exists_of_ofPredicate_leaf hclause
    have hfield : condition.kept.field = condition.field := rfl
    rw [Predicate.kept, ofPredicate, hfield, hcolumn]
    exact ofCondition_kept hcondition
  | near proximity =>
    obtain ⟨latitude, longitude, hlatitude, hlongitude, rfl⟩ :=
      exists_of_ofPredicate_near hclause
    rw [Predicate.kept, ofPredicate, hlatitude, hlongitude]
    rfl

theorem ofPredicates_kept {parts : List (Predicate entity.Field)}
    {clauses : List (Clause Value)}
    (hclauses : ofPredicates parts = .ok clauses) :
    ofPredicates (Predicate.keptParts parts) =
      .ok (Clause.mapParts Value.kept clauses) := by
  cases parts with
  | nil =>
    cases hclauses
    rfl
  | cons part others =>
    obtain ⟨first, rest, hfirst, hrest, rfl⟩ :=
      exists_of_ofPredicates_cons hclauses
    rw [Predicate.keptParts, ofPredicates, ofPredicate_kept hfirst,
      ofPredicates_kept hrest]
    rfl

end

/-- What is kept of the values does not change the text of a statement. -/
theorem query_kept (answer : Answer) (distinct : Bool) (clause : Clause Value) :
    Statement.query ⟨entity, answer, distinct, clause.map Value.kept⟩ =
      Statement.query ⟨entity, answer, distinct, clause⟩ := by
  have hsql : (clause.map Value.kept).sql 0 = clause.sql 0 := by
    rw [Clause.sql, Clause.fragments_map, Clause.sql]
  have hjoins : (clause.map Value.kept).joins = clause.joins := by
    rw [Clause.joins, Clause.columns_map, Clause.joins]
  exact query_congr hsql hjoins answer distinct

end Sql

/-! ## Specifications -/

namespace Specification

variable {F : Type}

/-- The specification with what is kept of the operands of its conditions. -/
def kept (spec : Specification F) : Specification F :=
  { spec with predicate := spec.predicate.kept }

theorem kept_allOf (parts : List (Specification F)) :
    (allOf parts).kept = allOf (parts.map kept) := by
  have hfold (first : Specification F) :
      (parts.foldl and first).kept = (parts.map kept).foldl and first.kept := by
    induction parts generalizing first with
    | nil => rfl
    | cons part others ih =>
      have hand : (first.and part).kept = first.kept.and part.kept := by
        rw [kept, and, Predicate.kept_and]
        rfl
      rw [List.foldl_cons, ih, hand, List.map_cons, List.foldl_cons]
  exact hfold unconstrained

theorem kept_between {field : F} (low high : Option Instant) :
    (between field (low.map .instant) (high.map .instant)).kept =
      between field ((low.map Cell.storedInstant).map .instant)
        ((high.map Cell.storedInstant).map .instant) := by
  cases low <;> cases high <;> rfl

theorem kept_eq_self {spec : Specification entity.Field}
    (hkept : spec.ComparesWith fun value => value.kept = value) :
    spec.kept = spec := by
  rw [kept, Predicate.kept_eq_self fun condition hcondition =>
    (hkept condition hcondition).operands]

theorem map_kept {parts : List (Specification entity.Field)}
    (hparts : ∀ part ∈ parts,
      part.ComparesWith fun value => value.kept = value) :
    parts.map kept = parts := by
  have hsame : parts.map kept = parts.map id :=
    List.map_congr_left fun part hpart => kept_eq_self (hparts part hpart)
  rw [hsame, List.map_id]

end Specification

/-! ## Requests -/

namespace Criteria

open Specification

/-- The request with its bounds on the time of creation cut to what a database
keeps of them. -/
def cut : {entity : Entity} → entity.Criteria → entity.Criteria
  | .users, criteria =>
    let criteria : UserCriteria := criteria
    { criteria with
      createdFrom := criteria.createdFrom.map Cell.storedInstant
      createdTo := criteria.createdTo.map Cell.storedInstant }
  | .families, criteria =>
    let criteria : FamilyCriteria := criteria
    { criteria with
      createdFrom := criteria.createdFrom.map Cell.storedInstant
      createdTo := criteria.createdTo.map Cell.storedInstant }
  | .provinces, criteria => criteria
  | .districts, criteria => criteria
  | .municipalities, criteria => criteria
  | .wards, criteria => criteria

theorem areas_cut (criteria : entity.Criteria) :
    areas (cut criteria) = areas criteria := by
  cases entity <;> rfl

/-- A request in whole microseconds is cut nowhere. -/
theorem cut_eq_self {criteria : entity.Criteria}
    (hmoments : ∀ moment, some moment ∈ moments criteria → moment.IsWhole) :
    cut criteria = criteria := by
  have hmap {given : Option Instant} (hgiven : given ∈ moments criteria) :
      given.map Cell.storedInstant = given := by
    cases given with
    | none => rfl
    | some moment =>
      rw [Option.map_some, Cell.storedInstant_eq_self (hmoments moment hgiven)]
  cases entity with
  | users | families =>
    rw [cut, hmap List.mem_cons_self,
      hmap (List.mem_cons_of_mem _ List.mem_cons_self)]
  | provinces | districts | municipalities | wards => rfl

theorem parts_cut (criteria : entity.Criteria) :
    parts (cut criteria) = (parts criteria).map Specification.kept := by
  have hplain := Value.keepsPlain
  have hsame {spec : Specification entity.Field}
      (hspec : spec.ComparesWith fun value => value.kept = value) :
      spec.kept = spec := Specification.kept_eq_self hspec
  -- Only two entities have bounds that are cut.
  cases entity with
  | users =>
    simp only [parts, UserCriteria.parts, cut, List.map_append, List.map_cons,
      List.map_nil, kept_between, map_kept (comparesWith_wards hplain _),
      hsame (comparesWith_searching hplain),
      hsame (comparesWith_elementOf hplain),
      hsame (comparesWith_memberOf hplain),
      hsame (comparesWith_equalTo fun truth _ => hplain.boolean truth)]
  | families =>
    simp only [parts, FamilyCriteria.parts, cut, List.map_append,
      List.map_cons, List.map_nil, kept_between,
      map_kept (comparesWith_wards hplain _),
      hsame (comparesWith_searching hplain),
      hsame (comparesWith_integers hplain),
      hsame (comparesWith_memberOf hplain), hsame comparesWith_within]
  | provinces | districts | municipalities | wards =>
    have hmoments : ∀ moment, some moment ∈ moments criteria →
        (Value.instant moment).kept = .instant moment := by
      intro moment hmoment
      cases hmoment
    rw [map_kept (comparesWith_parts hplain criteria (fun _ _ => rfl) hmoments),
      cut]

/-- The specification of a request that is cut is what is kept of the
specification of the request. -/
theorem specification_cut (criteria : entity.Criteria) :
    specification (cut criteria) = (specification criteria).kept := by
  rw [specification, parts_cut, ← kept_allOf, specification]

end Criteria

end CivicRegistry
