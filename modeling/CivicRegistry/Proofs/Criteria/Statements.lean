import CivicRegistry.Criteria.Basic
import CivicRegistry.Proofs.Criteria.Paging
import CivicRegistry.Proofs.Criteria.Validation
import CivicRegistry.Proofs.Sql.Answering
import CivicRegistry.Proofs.Sql.Refusal

/-!
# The statements of requests

Every request can be put as statements, also one that breaks a rule: its filters
look for texts only and compare with no list, its order is by an attribute that
is no list, and whatever page it asks for is moved into range.
-/

namespace CivicRegistry

open Calendar (Instant)

variable {entity : Entity}

/-! ## Filters -/

/-- A property that texts, integers, truth values and identifiers have. -/
structure Value.HoldsOfPlain (holds : Value → Prop) : Prop where
  text : ∀ text, holds (.text text)
  integer : ∀ number, holds (.integer number)
  boolean : ∀ truth, holds (.boolean truth)
  uuid : ∀ id, holds (.uuid id)

namespace Specification

variable {holds : Value → Prop}

/-- All conditions of the specification look for texts only and compare with
values that have a property. -/
def ComparesWith (holds : Value → Prop) (spec : Specification entity.Field) :
    Prop :=
  ∀ condition ∈ spec.predicate.conditions, condition.ComparesWith holds

theorem comparesWith_unconstrained :
    (unconstrained : Specification entity.Field).ComparesWith holds := by
  intro condition hcondition
  cases hcondition

/-- A comparison with one value compares with that value. -/
theorem comparesWith_comparison {field : entity.Field} {operator : Operator}
    {data : Value} (hcontains : operator ≠ .contains)
    (honeOf : operator ≠ .oneOf) (hdata : holds data) :
    (Condition.mk field operator data).ComparesWith holds where
  searchable := by
    rw [Condition.isUnsearchable, beq_false_of_ne hcontains, Bool.false_and]
  operands := by
    cases operator with
    | contains => exact absurd rfl hcontains
    | oneOf => exact absurd rfl honeOf
    | equal | atLeast | atMost => exact List.forall_mem_singleton.mpr hdata

theorem comparesWith_equalTo {α : Type} {field : entity.Field}
    {given : Option α} {make : α → Value}
    (hgiven : ∀ value ∈ given, holds (make value)) :
    (equalTo field (given.map make)).ComparesWith holds := by
  cases given with
  | none => exact comparesWith_unconstrained
  | some value =>
    intro condition hcondition
    obtain rfl := List.mem_singleton.mp hcondition
    exact comparesWith_comparison (by decide) (by decide) (hgiven value rfl)

theorem comparesWith_between {α : Type} {field : entity.Field}
    {low high : Option α} {make : α → Value}
    (hbounds : ∀ bound, some bound ∈ [low, high] → holds (make bound)) :
    (between field (low.map make) (high.map make)).ComparesWith holds := by
  have hone {given : Option α} {operator : Operator}
      (hcontains : operator ≠ .contains) (honeOf : operator ≠ .oneOf)
      (hgiven : given ∈ [low, high]) :
      ∀ condition ∈ ((given.map make).elim .always
        (Specification.condition field operator)).conditions,
          condition.ComparesWith holds := by
    cases given with
    | none =>
      intro condition hcondition
      cases hcondition
    | some bound =>
      intro condition hcondition
      obtain rfl := List.mem_singleton.mp hcondition
      exact comparesWith_comparison hcontains honeOf (hbounds bound hgiven)
  rw [ComparesWith, between, ofPredicate, Predicate.conditions_and,
    List.forall_mem_append]
  exact ⟨hone (by decide) (by decide) (by simp),
    hone (by decide) (by decide) (by simp)⟩

theorem comparesWith_within {latitude longitude : entity.Field}
    {circle : Option Circle} :
    (within latitude longitude circle).ComparesWith holds := by
  cases circle <;> exact comparesWith_unconstrained

theorem comparesWith_allOf {parts : List (Specification entity.Field)}
    (hparts : ∀ part ∈ parts, part.ComparesWith holds) :
    (allOf parts).ComparesWith holds := by
  rw [ComparesWith, conditions_allOf]
  intro condition hcondition
  obtain ⟨part, hpart, hmem⟩ := List.mem_flatMap.mp hcondition
  exact hparts part hpart condition hmem

section

variable (hplain : Value.HoldsOfPlain holds)

include hplain

theorem comparesWith_searching {term : Option String}
    {fields : List entity.Field} :
    (searching term fields).ComparesWith holds := by
  rw [searching]
  split
  · next term _ =>
    intro condition hcondition
    have hmem := Predicate.conditions_anyOf_subset _ hcondition
    rw [List.flatMap_map, List.mem_flatMap] at hmem
    obtain ⟨field, -, hleaf⟩ := hmem
    obtain rfl := List.mem_singleton.mp hleaf
    exact ⟨rfl, List.forall_mem_singleton.mpr (hplain.text term)⟩
  · exact comparesWith_unconstrained

theorem comparesWith_memberOf {α : Type} [Vocabulary α] {field : entity.Field}
    {members : List α} :
    (memberOf field (wordValues members)).ComparesWith holds := by
  rw [memberOf]
  split
  · exact comparesWith_unconstrained
  · intro condition hcondition
    obtain rfl := List.mem_singleton.mp hcondition
    refine ⟨rfl, ?_⟩
    intro value hvalue
    obtain ⟨member, _, rfl⟩ := List.mem_map.mp hvalue
    exact hplain.text _

theorem comparesWith_elementOf {α : Type} [Vocabulary α] {field : entity.Field}
    {members : List α} :
    (elementOf field (wordValues members)).ComparesWith holds := by
  rw [elementOf]
  split
  · exact comparesWith_unconstrained
  · exact comparesWith_memberOf hplain

theorem comparesWith_integers {field : entity.Field} {low high : Option Int} :
    (between field (low.map .integer) (high.map .integer)).ComparesWith holds :=
  comparesWith_between fun number _ => hplain.integer number

theorem comparesWith_wards {field : entity.Field} (wards : WardNumbers) :
    ∀ part ∈ wards.specifications field, part.ComparesWith holds := by
  simp only [WardNumbers.specifications, List.forall_mem_cons]
  exact ⟨comparesWith_equalTo fun number _ => hplain.integer number,
    comparesWith_integers hplain, List.forall_mem_nil _⟩

end

end Specification

namespace Criteria

open Specification

/-- The bounds on an area. -/
def areas : {entity : Entity} → entity.Criteria → List (Option Float)
  | .users, _ => []
  | .families, _ => []
  | .provinces, criteria => (ProvinceCriteria.size criteria).numbers
  | .districts, criteria => (DistrictCriteria.size criteria).numbers
  | .municipalities, criteria => (MunicipalityCriteria.size criteria).numbers
  | .wards, criteria => (WardCriteria.size criteria).numbers

/-- The bounds on the time of creation. -/
def moments : {entity : Entity} → entity.Criteria → List (Option Instant)
  | .users, criteria =>
    [UserCriteria.createdFrom criteria, UserCriteria.createdTo criteria]
  | .families, criteria =>
    [FamilyCriteria.createdFrom criteria, FamilyCriteria.createdTo criteria]
  | .provinces, _ => []
  | .districts, _ => []
  | .municipalities, _ => []
  | .wards, _ => []

section

variable {holds : Value → Prop} (hplain : Value.HoldsOfPlain holds)

include hplain

theorem comparesWith_parts (criteria : entity.Criteria)
    (hareas : ∀ area, some area ∈ areas criteria → holds (.float area))
    (hmoments : ∀ moment, some moment ∈ moments criteria →
      holds (.instant moment)) :
    ∀ part ∈ parts criteria, part.ComparesWith holds := by
  cases entity with
  | users =>
    simp only [parts, UserCriteria.parts, List.forall_mem_append,
      List.forall_mem_cons]
    exact ⟨⟨⟨comparesWith_searching hplain, comparesWith_elementOf hplain,
      comparesWith_memberOf hplain,
      comparesWith_equalTo fun truth _ => hplain.boolean truth,
      comparesWith_equalTo fun truth _ => hplain.boolean truth,
      List.forall_mem_nil _⟩, comparesWith_wards hplain _⟩,
      comparesWith_between hmoments, List.forall_mem_nil _⟩
  | families =>
    simp only [parts, FamilyCriteria.parts, List.forall_mem_append,
      List.forall_mem_cons]
    exact ⟨⟨⟨comparesWith_searching hplain, List.forall_mem_nil _⟩,
      comparesWith_wards hplain _⟩, comparesWith_integers hplain,
      comparesWith_memberOf hplain, comparesWith_between hmoments,
      comparesWith_within, List.forall_mem_nil _⟩
  | provinces =>
    simp only [parts, ProvinceCriteria.parts, List.forall_mem_cons]
    exact ⟨comparesWith_searching hplain, comparesWith_between hareas,
      comparesWith_integers hplain, List.forall_mem_nil _⟩
  | districts =>
    simp only [parts, DistrictCriteria.parts, List.forall_mem_cons]
    exact ⟨comparesWith_searching hplain,
      comparesWith_equalTo fun id _ => hplain.uuid id,
      comparesWith_between hareas, comparesWith_integers hplain,
      List.forall_mem_nil _⟩
  | municipalities =>
    simp only [parts, MunicipalityCriteria.parts, List.forall_mem_cons]
    exact ⟨comparesWith_searching hplain,
      comparesWith_equalTo fun id _ => hplain.uuid id,
      comparesWith_memberOf hplain, comparesWith_integers hplain,
      comparesWith_between hareas, comparesWith_integers hplain,
      comparesWith_within, List.forall_mem_nil _⟩
  | wards =>
    simp only [parts, WardCriteria.parts, List.forall_mem_append,
      List.forall_mem_cons]
    exact ⟨⟨⟨comparesWith_searching hplain,
      comparesWith_equalTo fun id _ => hplain.uuid id,
      List.forall_mem_nil _⟩, comparesWith_wards hplain _⟩,
      comparesWith_between hareas, comparesWith_integers hplain,
      comparesWith_within, List.forall_mem_nil _⟩

/-- The filters of a request compare with values that have a property if its
areas and moments have it. -/
theorem comparesWith_specification (criteria : entity.Criteria)
    (hareas : ∀ area, some area ∈ areas criteria → holds (.float area))
    (hmoments : ∀ moment, some moment ∈ moments criteria →
      holds (.instant moment)) :
    (specification criteria).ComparesWith holds :=
  comparesWith_allOf (comparesWith_parts hplain criteria hareas hmoments)

end

/-- The filters of a request compare with no list. -/
theorem flat_specification (criteria : entity.Criteria) :
    (specification criteria).ComparesWith fun value => value.items? = none :=
  comparesWith_specification
    ⟨fun _ => rfl, fun _ => rfl, fun _ => rfl, fun _ => rfl⟩ criteria
    (fun _ _ => rfl) fun _ _ => rfl

end Criteria

/-! ## Pages -/

/-- A size is moved between one and the largest. -/
theorem PagingBlock.toNat_clampedSize (size : Int) :
    1 ≤ (clampedSize size).toNat ∧
      (clampedSize size).toNat ≤ largestSize := by
  have hlargest : largestSize = 100 := rfl
  have hmoved := toNat_clampedSize_eq size
  omega

/-- A page has room for a row at least. -/
theorem PagingBlock.clampedSize_ne_zero (size : Int) :
    clampedSize size ≠ 0 := by
  intro hzero
  have hpositive := (toNat_clampedSize size).1
  rw [hzero] at hpositive
  exact absurd hpositive (by decide)

/-- Rows are sorted by attributes that are no lists. -/
theorem Entity.isCollected_sortField (field : entity.SortField) :
    isCollected field.val = false := by
  have hall : ∀ field ∈ entity.sortFields, isCollected field = false := by
    cases entity <;> decide
  exact hall field.val field.property

namespace Sql

theorem Column.ofField_idField (entity : Entity) :
    ofField entity.idField = .ok (.own "id") := by
  cases entity <;> decide +kernel

/-- The last key of every order is the identifier. -/
theorem SortClause.exists_last_key {field : entity.Field}
    {direction : Direction} {order : SortClause}
    (horder : ofField field direction = .ok order) :
    ∃ key, order.keys.getLast? = some key ∧
      key.value = Meaning.column "t" "id" := by
  obtain ⟨column, hcolumn, -, rfl⟩ := exists_column horder
  rw [keys]
  cases hpath : (Entity.info field).path == "id" with
  | false => exact ⟨_, rfl, rfl⟩
  | true =>
    obtain rfl := eq_idField_of_path (eq_of_beq hpath)
    rw [Column.ofField_idField] at hcolumn
    cases hcolumn
    exact ⟨_, rfl, rfl⟩

/-- A selection of a page: it has room for a row and for no more than the
largest page, it leaves out whole pages before it, and it ends its order with
the identifier. -/
structure Select.IsPage (select : Select) : Prop where
  window : ∃ size page : Nat, select.limit = some size ∧ 1 ≤ size ∧
    size ≤ 100 ∧ page < 2 ^ 32 ∧ select.offset = size * page ∧
      select.offset < 2 ^ 63
  order : ∃ key, select.keys.getLast? = some key ∧
    key.value = Meaning.column "t" "id"

theorem isPage_listingSelect (statement : Statement)
    {request : PageRequest entity.Field} {order : SortClause}
    (hpositive : 1 ≤ request.size.toNat) (hlargest : request.size.toNat ≤ 100)
    (horder : SortClause.ofField request.sortField request.direction =
      .ok order) :
    (listingSelect statement order
      ⟨request.size.toNat, request.offset⟩).IsPage where
  window := by
    have hpage : request.page.toNat < 2 ^ 32 := request.page.toNat_lt
    refine ⟨request.size.toNat, request.page.toNat, rfl, hpositive, hlargest,
      hpage, Nat.mul_comm _ _, ?_⟩
    calc request.page.toNat * request.size.toNat
        ≤ 2 ^ 32 * 100 := Nat.mul_le_mul hpage.le hlargest
      _ < 2 ^ 63 := by decide
  order := SortClause.exists_last_key horder

/-- The values of a clause are no lists where its specification compares with
none. -/
theorem flat_values {spec : Specification entity.Field} {clause : Clause Value}
    (hclause : ofPredicate spec.predicate = .ok clause)
    (hflat : spec.ComparesWith fun value => value.items? = none) :
    ∀ value ∈ clause.values, value.items? = none :=
  forall_values (fun _ => rfl) (fun _ => rfl) hclause
    fun condition hcondition => (hflat condition hcondition).operands

/-- The statements for a page of a specification: both can be made, no value in
them is a list, and the text of the listing reads as a page. -/
structure Statements (spec : Specification entity.Field)
    (request : PageRequest entity.Field) (counted listed : Statement) :
    Prop where
  counting : counting spec = .ok counted
  listing : listing spec (some request) = .ok listed
  flat : ∀ value ∈ counted.prepared.params ++ listed.prepared.params,
    value.items? = none
  page : ∃ select, readStatement? listed.prepared.query = some select ∧
    select.IsPage

theorem exists_statements {spec : Specification entity.Field}
    {request : PageRequest entity.Field}
    (hflat : spec.ComparesWith fun value => value.items? = none)
    (hsize : request.size ≠ 0) (hpositive : 1 ≤ request.size.toNat)
    (hlargest : request.size.toNat ≤ 100)
    (hsort : Entity.isCollected request.sortField = false) :
    ∃ counted listed, Statements spec request counted listed := by
  obtain ⟨clause, hclause⟩ := exists_clause fun condition hcondition =>
    (hflat condition hcondition).searchable
  have hvalues := flat_values hclause hflat
  obtain ⟨order, horder⟩ :=
    @SortClause.exists_ofField _ _ request.direction hsort
  let listed : Statement := ⟨entity,
    .rows (some order) (some ⟨request.size.toNat, request.offset⟩),
      spec.distinct, clause⟩
  have hread : readStatement? listed.query =
      some (listingSelect listed order ⟨request.size.toNat, request.offset⟩) :=
    readStatement?_listing (wellFormed_ofPredicate hclause)
      (SortClause.wellNamed_column horder) rfl
  refine ⟨⟨entity, .count, spec.distinct, clause⟩, listed, ?_⟩
  constructor
  · exact counting_eq hclause
  · exact listing_eq hclause hsize horder
  · rw [List.forall_mem_append]
    exact ⟨hvalues, hvalues⟩
  · exact ⟨_, hread, isPage_listingSelect listed hpositive hlargest horder⟩

end Sql

/-! ## Requests -/

namespace Condition

theorem isUnsearchable_iff {F : Type} {condition : Condition F} :
    condition.isUnsearchable = true ↔
      condition.operator = .contains ∧
        ∀ term, condition.data ≠ .text term := by
  rw [isUnsearchable, Bool.and_eq_true, beq_iff_eq, Option.isNone_iff_eq_none]
  apply and_congr_right
  intro _
  cases condition.data <;> simp [Value.text?]

end Condition

namespace Criteria

open Sql

/-- Every request can be put as statements, whatever it asks for and however
large its pages are by default, and the page that is listed is within limits.
A predicate is refused exactly if one of its conditions looks for something that
is no text, and the first such condition is the reason. -/
theorem statements_within_limits (entity : Entity) :
    (∀ (criteria : entity.Criteria) (defaultSize : Nat),
      ∃ counted listed, Statements (specification criteria)
        (pageRequest criteria defaultSize) counted listed) ∧
    ∀ predicate : Predicate entity.Field,
      ((∃ error, ofPredicate predicate = .error error) ↔
        ∃ condition ∈ predicate.conditions, condition.operator = .contains ∧
          ∀ term, condition.data ≠ .text term) ∧
      ∀ error, ofPredicate predicate = .error error →
        ∃ condition ∈ predicate.conditions.find? Condition.isUnsearchable,
          error = .data ("Substring match on " ++
            (Entity.info condition.field).path ++ " requires text") := by
  constructor
  · intro criteria defaultSize
    let size := (paging criteria).pageSize.getD defaultSize
    obtain ⟨hpositive, hlargest⟩ := PagingBlock.toNat_clampedSize size
    exact exists_statements (flat_specification criteria)
      (PagingBlock.clampedSize_ne_zero size) hpositive hlargest
      (Entity.isCollected_sortField _)
  · intro predicate
    constructor
    · rw [exists_error_iff]
      simp only [Condition.isUnsearchable_iff]
    · intro error herror
      obtain ⟨condition, hcondition, rfl⟩ := ofPredicate_eq_error_iff.mp herror
      exact ⟨condition, hcondition, rfl⟩

/-- A ward number cannot be looked for, wherever the condition stands. -/
theorem statements_within_limits_sample :
    ofPredicate (.all [.leaf ⟨UserField.fullName, .contains, .text "a"⟩,
        .any [.leaf ⟨UserField.wardNumber, .contains, .integer 3⟩]] :
          Predicate Entity.users.Field) =
      .error (.data "Substring match on ward_number requires text") := by
  obtain ⟨error, herror⟩ := ((statements_within_limits .users).2 (.all
    [.leaf ⟨UserField.fullName, .contains, .text "a"⟩,
      .any [.leaf ⟨UserField.wardNumber, .contains, .integer 3⟩]])).1.mpr
    ⟨⟨UserField.wardNumber, .contains, .integer 3⟩, by
      simp [Predicate.conditions, Predicate.partConditions], rfl, by simp⟩
  obtain ⟨condition, hcondition, rfl⟩ :=
    ((statements_within_limits .users).2 _).2 error herror
  cases hcondition
  exact herror

end Criteria

end CivicRegistry
