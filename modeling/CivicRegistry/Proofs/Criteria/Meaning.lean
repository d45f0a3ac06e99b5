import CivicRegistry.Criteria.Basic
import CivicRegistry.Proofs.Predicate.Search
import CivicRegistry.Proofs.Value.Order
import Mathlib.Data.List.Nodup

/-!
# What requests ask for

A request admits a row if the row meets each filter that is given; filters that
are absent, blank or empty ask for nothing.  The specification of a request
holds of exactly the rows that the request admits.
-/

namespace CivicRegistry

open Calendar (Instant)

/-! ## Filters -/

/-- A term, without the blanks around it, occurs in one of the texts that are
there, both in lower case; a blank term asks for nothing. -/
def FoundIn (term : Option String) (texts : List (Option String)) : Prop :=
  ∀ text ∈ term, Text.trim text ≠ "" →
    ∃ held, some held ∈ texts ∧
      Text.lowercase (Text.trim text).toList <:+: Text.lowercase held.toList

/-- One of the values that are held is a member, unless there are no members. -/
def Selection.Takes {α : Type} [Enumeration α] [DecidableEq α]
    (selection : Selection α) (held : List α) : Prop :=
  (∃ member, member ∈ selection) → ∃ value ∈ held, value ∈ selection

/-- What is held is the value that is asked for, if one is. -/
def Asked {α : Type} (asked held : Option α) : Prop :=
  ∀ value ∈ asked, held = some value

/-- A value is held that lies between the bounds that are given, both
included. -/
structure Bounded {α : Type} [LE α] (low high held : Option α) : Prop where
  low : ∀ bound ∈ low, ∃ value ∈ held, bound ≤ value
  high : ∀ bound ∈ high, ∃ value ∈ held, value ≤ bound

/-- A point is held that lies in the circle, once its centre and its radius are
given. -/
def LocationBlock.Surrounds (location : LocationBlock)
    (latitude longitude : Option Float) : Prop :=
  ∀ lat ∈ location.latitude, ∀ lng ∈ location.longitude,
    ∀ radius ∈ location.radius, ∃ x ∈ latitude, ∃ y ∈ longitude,
      GeoPoint.distance ⟨lat, lng⟩ ⟨x, y⟩ ≤ radius

/-- The one ward number and the bounds on it. -/
structure WardNumbers.Admits (wards : WardNumbers) (held : Option Int) :
    Prop where
  only : Asked wards.only held
  range : Bounded wards.low wards.high held

/-- The bounds on area and population. -/
structure SizeBlock.Admits (size : SizeBlock) (area : Option Float)
    (population : Option Int) : Prop where
  area : Bounded size.minArea size.maxArea area
  population : Bounded size.minPopulation size.maxPopulation population

/-! ## Requests -/

structure UserCriteria.Admits (criteria : UserCriteria) (row : Row .users) :
    Prop where
  term : FoundIn criteria.searchTerm
    [some (row .fullName), row .fullNameNepali, some (row .email)]
  roles : criteria.roles.Takes (row .roles)
  officePosts : criteria.officePosts.Takes (Option.toList (row .officePost))
  isApproved : Asked criteria.isApproved (some (row .isApproved))
  isActive : Asked criteria.isActive (some (row .isActive))
  wards : criteria.wards.Admits (row .wardNumber)
  created : Bounded criteria.createdFrom criteria.createdTo
    (some (row .createdAt))

structure FamilyCriteria.Admits (criteria : FamilyCriteria)
    (row : Row .families) : Prop where
  term : FoundIn criteria.searchTerm [some (row .headOfFamily),
    row .headOfFamilyNepali, row .tole, row .contactNumber]
  wards : criteria.wards.Admits (some (row .wardNumber))
  members : Bounded criteria.minMembers criteria.maxMembers
    (some (row .totalMembers))
  houseOwnerships : criteria.houseOwnerships.Takes [row .houseOwnership]
  created : Bounded criteria.createdFrom criteria.createdTo
    (some (row .createdAt))
  location : criteria.location.Surrounds (row .latitude) (row .longitude)

structure ProvinceCriteria.Admits (criteria : ProvinceCriteria)
    (row : Row .provinces) : Prop where
  term : FoundIn criteria.searchTerm
    [some (row .name), row .nameNepali, row .headquarter]
  size : criteria.size.Admits (row .areaSqKm) (row .population)

structure DistrictCriteria.Admits (criteria : DistrictCriteria)
    (row : Row .districts) : Prop where
  term : FoundIn criteria.searchTerm
    [some (row .name), row .nameNepali, row .headquarter]
  provinceId : Asked criteria.provinceId (some (row .provinceId))
  size : criteria.size.Admits (row .areaSqKm) (row .population)

structure MunicipalityCriteria.Admits (criteria : MunicipalityCriteria)
    (row : Row .municipalities) : Prop where
  term : FoundIn criteria.searchTerm [some (row .name), row .nameNepali]
  districtId : Asked criteria.districtId (some (row .districtId))
  types : criteria.types.Takes [row .type]
  wards : Bounded criteria.minWards criteria.maxWards (some (row .totalWards))
  size : criteria.size.Admits (row .areaSqKm) (row .population)
  location : criteria.location.Surrounds (row .latitude) (row .longitude)

structure WardCriteria.Admits (criteria : WardCriteria) (row : Row .wards) :
    Prop where
  term : FoundIn criteria.searchTerm [row .officeAddress]
  municipalityId : Asked criteria.municipalityId (some (row .municipalityId))
  wards : criteria.wards.Admits (some (row .wardNumber))
  size : criteria.size.Admits (row .areaSqKm) (row .population)
  location : criteria.location.Surrounds (row .latitude) (row .longitude)

/-- The row meets every filter that the request gives. -/
def Criteria.Admits : {entity : Entity} → entity.Criteria → Row entity → Prop
  | .users, criteria, row => UserCriteria.Admits criteria row
  | .families, criteria, row => FamilyCriteria.Admits criteria row
  | .provinces, criteria, row => ProvinceCriteria.Admits criteria row
  | .districts, criteria, row => DistrictCriteria.Admits criteria row
  | .municipalities, criteria, row => MunicipalityCriteria.Admits criteria row
  | .wards, criteria, row => WardCriteria.Admits criteria row

/-! ## Values that filters compare -/

namespace Value

/-- Single values that are equal only to themselves. -/
def Discerned {α : Type} (toValue : α → Value) : Prop :=
  ∀ left right, (toValue left).anySatisfies .equal (toValue right) = true ↔
    left = right

theorem discerned_boolean : Discerned boolean := by
  intro left right
  cases left <;> cases right <;> decide

theorem discerned_integer : Discerned integer := by
  intro left right
  show (some (Ord.compare left right) == some Ordering.eq) = true ↔ left = right
  simp

theorem discerned_uuid : Discerned uuid := by
  intro left right
  show (some (left.compare right) == some Ordering.eq) = true ↔ left = right
  rw [beq_iff_eq, Option.some.injEq]
  constructor
  · exact Uuid.eq_of_compare
  · rintro rfl
    exact Std.ReflCmp.compare_self

/-- Single values that are compared in their own order. -/
structure Ordered {α : Type} [LE α] (toValue : α → Value) : Prop where
  atLeast : ∀ value bound,
    (toValue value).anySatisfies .atLeast (toValue bound) = true ↔
      bound ≤ value
  atMost : ∀ value bound,
    (toValue value).anySatisfies .atMost (toValue bound) = true ↔
      value ≤ bound

theorem ordered_integer : Ordered integer where
  atLeast value bound := by
    show (Ord.compare value bound).isGE = true ↔ bound ≤ value
    exact Int.isGE_compare
  atMost value bound := by
    show (Ord.compare value bound).isLE = true ↔ value ≤ bound
    exact Int.isLE_compare

/-- What is not a number lies between no bounds. -/
theorem ordered_float : Ordered float where
  atLeast value bound := by
    rw [Binary64.le_iff_compare, Binary64.compare_swap value bound,
      Option.any_map]
    show (Binary64.compare value bound).any (·.isGE) = true ↔ _
    simp only [Ordering.isLE_swap]
  atMost value bound := Binary64.le_iff_compare.symm

theorem ordered_instant : Ordered instant where
  atLeast value bound := by
    show (value.compare bound).isGE = true ↔ bound ≤ value
    rw [Std.OrientedCmp.isGE_iff_isLE, Instant.isLE_compare]
  atMost value bound := Instant.isLE_compare

/-- One of some words is the word of a member. -/
theorem oneOf_wordValues {α : Type} [Vocabulary α]
    (hword : Function.Injective (Vocabulary.word : α → String))
    {value : α} {members : List α} :
    (text (Vocabulary.word value)).satisfies .oneOf
        (.list (wordValues members)) = true ↔ value ∈ members := by
  have hequals : ∀ member : α,
      (text (Vocabulary.word value)).equals (text (Vocabulary.word member)) =
        true ↔ member = value := by
    intro member
    show (some (Ord.compare (Vocabulary.word value) (Vocabulary.word member)) ==
      some Ordering.eq) = true ↔ _
    rw [beq_iff_eq, Option.some.injEq, Std.LawfulEqCmp.compare_eq_iff_eq]
    exact ⟨fun hsame => hword hsame.symm, fun hsame => hsame ▸ rfl⟩
  simp [satisfies, wordValues, hequals]

end Value

/-! ## Builders -/

namespace Specification

variable {entity : Entity} {row : Row entity} {field : entity.Field}
variable {α : Type} {toValue : α → Value}

theorem holds_unconstrained :
    (unconstrained : Specification entity.Field).predicate.holds row = true :=
  rfl

theorem holds_condition {operator : Operator} {data : Value} {held : Option α}
    (hheld : row.get field = held.map toValue) :
    (condition field operator data).holds row = true ↔
      ∃ value ∈ held, (toValue value).anySatisfies operator data = true := by
  rw [condition, Predicate.holds, Condition.holds, hheld, Option.any_map,
    Option.any_eq_true]
  exact Iff.rfl

theorem holds_equalTo (hvalues : Value.Discerned toValue)
    {asked : Option α} (held : Option α)
    (hheld : row.get field = held.map toValue) :
    (equalTo field (asked.map toValue)).predicate.holds row = true ↔
      Asked asked held := by
  cases asked with
  | none => simp [equalTo, holds_unconstrained, Asked]
  | some value =>
    show (condition field .equal (toValue value)).holds row = true ↔ _
    simp [holds_condition hheld, hvalues _ _, Asked, eq_comm]

theorem holds_between [LE α] (hvalues : Value.Ordered toValue)
    {low high : Option α} (held : Option α)
    (hheld : row.get field = held.map toValue) :
    (between field (low.map toValue) (high.map toValue)).predicate.holds row =
      true ↔ Bounded low high held := by
  have hbound : ∀ (bound : Option α) (operator : Operator),
      ((bound.map toValue).elim .always (condition field operator)).holds row =
        true ↔ ∀ limit ∈ bound, ∃ value ∈ held,
          (toValue value).anySatisfies operator (toValue limit) = true := by
    intro bound operator
    cases bound with
    | none => simp [Predicate.holds]
    | some limit => simp [holds_condition hheld]
  rw [between, ofPredicate, Predicate.holds_and, Bool.and_eq_true, hbound,
    hbound]
  simp only [hvalues.atLeast, hvalues.atMost]
  exact ⟨fun h => ⟨h.1, h.2⟩, fun h => ⟨h.low, h.high⟩⟩

theorem holds_memberOf {values : List Value} :
    (memberOf field values).predicate.holds row = true ↔
      values.isEmpty = true ∨
        (condition field .oneOf (.list values)).holds row = true := by
  rw [memberOf]
  split
  · next hempty => simp [hempty, holds_unconstrained]
  · next hempty => simp [hempty, ofPredicate]

/-- Counting each row once changes nothing about the rows. -/
theorem predicate_elementOf {values : List Value} :
    (elementOf field values).predicate = (memberOf field values).predicate := by
  rw [elementOf]
  split
  · next hempty => rw [memberOf, if_pos hempty]
  · rfl

section

variable [Vocabulary α] [DecidableEq α] (selection : Selection α)

theorem takes_iff {held : List α} :
    selection.Takes held ↔ (wordValues selection.members).isEmpty = true ∨
      ∃ value ∈ held, value ∈ selection.members := by
  rw [wordValues, List.isEmpty_map, List.isEmpty_iff,
    List.eq_nil_iff_forall_not_mem, ← not_exists, ← imp_iff_not_or]
  exact Iff.rfl

theorem holds_memberOf_words
    (hword : Function.Injective (Vocabulary.word : α → String))
    (held : Option α) (hheld : row.get field =
      held.map fun value => .text (Vocabulary.word value)) :
    (memberOf field (wordValues selection.members)).predicate.holds row =
      true ↔ selection.Takes held.toList := by
  rw [holds_memberOf, takes_iff, holds_condition hheld]
  simp only [Option.mem_toList]
  apply or_congr_right
  apply exists_congr
  intro value
  exact and_congr_right fun _ => Value.oneOf_wordValues hword

theorem holds_elementOf_words
    (hword : Function.Injective (Vocabulary.word : α → String))
    (held : List α) (hheld : row.get field =
      some (.list (held.map fun value => .text (Vocabulary.word value)))) :
    (elementOf field (wordValues selection.members)).predicate.holds row =
      true ↔ selection.Takes held := by
  rw [predicate_elementOf, holds_memberOf, takes_iff, condition,
    Predicate.holds, Condition.holds, hheld, Option.any_some,
    Value.anySatisfies, List.any_map, List.any_eq_true]
  apply or_congr_right
  apply exists_congr
  intro value
  exact and_congr_right fun _ => Value.oneOf_wordValues hword

end

/-- The attributes that a term is looked for in hold some texts. -/
theorem holds_searching {term : Option String} {fields : List entity.Field}
    (hfields : fields ≠ []) (texts : List (Option String))
    (htexts : fields.map row.get = texts.map (Option.map Value.text)) :
    (searching term fields).predicate.holds row = true ↔
      FoundIn term texts := by
  have hshown : ∀ held : String,
      held ∈ row.texts fields ↔ some held ∈ texts := by
    intro held
    have hflat : row.texts fields = texts.flatMap Option.toList := by
      calc
        _ = (fields.map row.get).flatMap (·.elim [] Value.texts) := by
          rw [List.flatMap_map]
          rfl
        _ = texts.flatMap Option.toList := by
          rw [htexts, List.flatMap_map]
          refine congrArg texts.flatMap (funext fun text => ?_)
          cases text <;> rfl
    simp [hflat]
  cases term with
  | none => simp [searching, effectiveTerm, holds_unconstrained, FoundIn]
  | some given =>
    by_cases hblank : Text.trim given = ""
    · simp [searching, effectiveTerm_some, hblank, holds_unconstrained, FoundIn]
    · rw [holds_searching_some row fields hblank]
      simp [FoundIn, hblank, hfields, hshown]

theorem holds_within {latitude longitude : entity.Field}
    {location : LocationBlock} (x y : Option Float)
    (hlatitude : row.get latitude = x.map .float)
    (hlongitude : row.get longitude = y.map .float) :
    (within latitude longitude location.circle?).predicate.holds row = true ↔
      location.Surrounds x y := by
  obtain ⟨_ | lat, _ | lng, _ | radius⟩ := location
  case some.some.some =>
    show Proximity.holds ⟨latitude, longitude, ⟨⟨lat, lng⟩, radius⟩⟩ row =
      true ↔ _
    rw [Proximity.holds, Proximity.point?, hlatitude, hlongitude]
    cases x <;> cases y <;> simp [LocationBlock.Surrounds, Value.number?]
  all_goals
    simp [LocationBlock.circle?, LocationBlock.Surrounds, within,
      holds_unconstrained]

end Specification

/-! ## Words -/

/-- Different values of a vocabulary have different words where none of the
words is listed twice. -/
theorem word_injective_of_nodup {α : Type} [Vocabulary α]
    (hwords : ((Enumeration.all : List α).map Vocabulary.word).Nodup) :
    Function.Injective (Vocabulary.word : α → String) := by
  intro left right hword
  exact List.inj_on_of_nodup_map hwords (Enumeration.mem_all left)
    (Enumeration.mem_all right) hword

/-! ## The specifications of requests -/

open Specification

section

variable {entity : Entity} {row : Row entity}

/-- All of some specifications hold of a row. -/
def AllHold (row : Row entity) (parts : List (Specification entity.Field)) :
    Prop :=
  ∀ part ∈ parts, part.predicate.holds row = true

theorem allHold_nil : AllHold row [] ↔ True := by
  simp [AllHold]

theorem allHold_cons {part : Specification entity.Field}
    {others : List (Specification entity.Field)} {ask rest : Prop}
    (hpart : part.predicate.holds row = true ↔ ask)
    (hothers : AllHold row others ↔ rest) :
    AllHold row (part :: others) ↔ ask ∧ rest :=
  List.forall_mem_cons.trans (and_congr hpart hothers)

theorem allHold_append {parts others : List (Specification entity.Field)}
    {asks rest : Prop} (hparts : AllHold row parts ↔ asks)
    (hothers : AllHold row others ↔ rest) :
    AllHold row (parts ++ others) ↔ asks ∧ rest :=
  List.forall_mem_append.trans (and_congr hparts hothers)

theorem WardNumbers.admits_iff {wards : WardNumbers} {field : entity.Field}
    (held : Option Int) (hheld : row.get field = held.map .integer) :
    AllHold row (wards.specifications field) ↔ wards.Admits held := by
  have hparts : AllHold row (wards.specifications field) ↔
      Asked wards.only held ∧ Bounded wards.low wards.high held ∧ True :=
    allHold_cons (holds_equalTo Value.discerned_integer held hheld)
      (allHold_cons (holds_between Value.ordered_integer held hheld)
        allHold_nil)
  rw [hparts]
  exact ⟨fun h => ⟨h.1, h.2.1⟩, fun h => ⟨h.only, h.range, trivial⟩⟩

/-- The bounds on area and population, before what else is asked for. -/
theorem SizeBlock.admits_cons {size : SizeBlock}
    {areaField populationField : entity.Field}
    {others : List (Specification entity.Field)} {rest : Prop}
    (area : Option Float) (population : Option Int)
    (harea : row.get areaField = area.map .float)
    (hpopulation : row.get populationField = population.map .integer)
    (hothers : AllHold row others ↔ rest) :
    AllHold row
        (between areaField (size.minArea.map .float)
            (size.maxArea.map .float) ::
          between populationField (size.minPopulation.map .integer)
            (size.maxPopulation.map .integer) :: others) ↔
      size.Admits area population ∧ rest := by
  refine Iff.trans (allHold_cons
    (holds_between Value.ordered_float area harea) (allHold_cons
      (holds_between Value.ordered_integer population hpopulation) hothers)) ?_
  exact ⟨fun h => ⟨⟨h.1, h.2.1⟩, h.2.2⟩,
    fun h => ⟨h.1.area, h.1.population, h.2⟩⟩

end

theorem UserCriteria.admits_iff (criteria : UserCriteria) (row : Row .users) :
    AllHold row criteria.parts ↔ criteria.Admits row := by
  have hterm : (searching criteria.searchTerm searchable).predicate.holds row =
      true ↔ FoundIn criteria.searchTerm
        [some (row .fullName), row .fullNameNepali, some (row .email)] :=
    holds_searching (List.cons_ne_nil _ _) _ rfl
  have hroles : (elementOf UserField.roles
      (wordValues criteria.roles.members)).predicate.holds row = true ↔
        criteria.roles.Takes (row .roles) :=
    holds_elementOf_words _ (word_injective_of_nodup (by decide)) _ rfl
  have hofficePosts : (memberOf UserField.officePost
      (wordValues criteria.officePosts.members)).predicate.holds row = true ↔
        criteria.officePosts.Takes (Option.toList (row .officePost)) :=
    holds_memberOf_words _ (word_injective_of_nodup (by decide)) _ rfl
  have hisApproved : (equalTo UserField.isApproved
      (criteria.isApproved.map .boolean)).predicate.holds row = true ↔
        Asked criteria.isApproved (some (row .isApproved)) :=
    holds_equalTo Value.discerned_boolean _ rfl
  have hisActive : (equalTo UserField.isActive
      (criteria.isActive.map .boolean)).predicate.holds row = true ↔
        Asked criteria.isActive (some (row .isActive)) :=
    holds_equalTo Value.discerned_boolean _ rfl
  have hcreated : (between UserField.createdAt
      (criteria.createdFrom.map .instant)
      (criteria.createdTo.map .instant)).predicate.holds row = true ↔
        Bounded criteria.createdFrom criteria.createdTo
          (some (row .createdAt)) :=
    holds_between Value.ordered_instant _ rfl
  refine Iff.trans (allHold_append (allHold_append
    (allHold_cons hterm (allHold_cons hroles (allHold_cons hofficePosts
      (allHold_cons hisApproved (allHold_cons hisActive allHold_nil)))))
    (WardNumbers.admits_iff (row .wardNumber) rfl))
    (allHold_cons hcreated allHold_nil)) ?_
  constructor
  · rintro ⟨⟨⟨term, roles, posts, isApproved, isActive, _⟩, wards⟩, created, _⟩
    exact ⟨term, roles, posts, isApproved, isActive, wards, created⟩
  · rintro ⟨term, roles, posts, isApproved, isActive, wards, created⟩
    exact ⟨⟨⟨term, roles, posts, isApproved, isActive, trivial⟩, wards⟩,
      created, trivial⟩

theorem FamilyCriteria.admits_iff (criteria : FamilyCriteria)
    (row : Row .families) :
    AllHold row criteria.parts ↔ criteria.Admits row := by
  have hterm : (searching criteria.searchTerm searchable).predicate.holds row =
      true ↔ FoundIn criteria.searchTerm [some (row .headOfFamily),
        row .headOfFamilyNepali, row .tole, row .contactNumber] :=
    holds_searching (List.cons_ne_nil _ _) _ rfl
  have hmembers : (between FamilyField.totalMembers
      (criteria.minMembers.map .integer)
      (criteria.maxMembers.map .integer)).predicate.holds row = true ↔
        Bounded criteria.minMembers criteria.maxMembers
          (some (row .totalMembers)) :=
    holds_between Value.ordered_integer _ rfl
  have hownerships : (memberOf FamilyField.houseOwnership
      (wordValues criteria.houseOwnerships.members)).predicate.holds row =
        true ↔ criteria.houseOwnerships.Takes [row .houseOwnership] :=
    holds_memberOf_words criteria.houseOwnerships
      (word_injective_of_nodup (by decide)) (some (row .houseOwnership)) rfl
  have hcreated : (between FamilyField.createdAt
      (criteria.createdFrom.map .instant)
      (criteria.createdTo.map .instant)).predicate.holds row = true ↔
        Bounded criteria.createdFrom criteria.createdTo
          (some (row .createdAt)) :=
    holds_between Value.ordered_instant _ rfl
  have hlocation : (within FamilyField.latitude FamilyField.longitude
      criteria.location.circle?).predicate.holds row = true ↔
        criteria.location.Surrounds (row .latitude) (row .longitude) :=
    holds_within _ _ rfl rfl
  refine Iff.trans (allHold_append (allHold_append
    (allHold_cons hterm allHold_nil)
    (WardNumbers.admits_iff (some (row .wardNumber)) rfl))
    (allHold_cons hmembers (allHold_cons hownerships (allHold_cons hcreated
      (allHold_cons hlocation allHold_nil))))) ?_
  constructor
  · rintro ⟨⟨⟨term, _⟩, wards⟩, members, ownerships, created, location, _⟩
    exact ⟨term, wards, members, ownerships, created, location⟩
  · rintro ⟨term, wards, members, ownerships, created, location⟩
    exact ⟨⟨⟨term, trivial⟩, wards⟩, members, ownerships, created, location,
      trivial⟩

theorem ProvinceCriteria.admits_iff (criteria : ProvinceCriteria)
    (row : Row .provinces) :
    AllHold row criteria.parts ↔ criteria.Admits row := by
  have hterm : (searching criteria.searchTerm [ProvinceField.name,
      ProvinceField.nameNepali, ProvinceField.headquarter]).predicate.holds
        row = true ↔ FoundIn criteria.searchTerm
          [some (row .name), row .nameNepali, row .headquarter] :=
    holds_searching (List.cons_ne_nil _ _) _ rfl
  refine Iff.trans (allHold_cons hterm (SizeBlock.admits_cons
    (row .areaSqKm) (row .population) rfl rfl allHold_nil)) ?_
  constructor
  · rintro ⟨term, size, _⟩
    exact ⟨term, size⟩
  · rintro ⟨term, size⟩
    exact ⟨term, size, trivial⟩

theorem DistrictCriteria.admits_iff (criteria : DistrictCriteria)
    (row : Row .districts) :
    AllHold row criteria.parts ↔ criteria.Admits row := by
  have hterm : (searching criteria.searchTerm [DistrictField.name,
      DistrictField.nameNepali, DistrictField.headquarter]).predicate.holds
        row = true ↔ FoundIn criteria.searchTerm
          [some (row .name), row .nameNepali, row .headquarter] :=
    holds_searching (List.cons_ne_nil _ _) _ rfl
  have hprovinceId : (equalTo DistrictField.provinceId
      (criteria.provinceId.map .uuid)).predicate.holds row = true ↔
        Asked criteria.provinceId (some (row .provinceId)) :=
    holds_equalTo Value.discerned_uuid _ rfl
  refine Iff.trans (allHold_cons hterm (allHold_cons hprovinceId
    (SizeBlock.admits_cons (row .areaSqKm) (row .population) rfl rfl
      allHold_nil))) ?_
  constructor
  · rintro ⟨term, provinceId, size, _⟩
    exact ⟨term, provinceId, size⟩
  · rintro ⟨term, provinceId, size⟩
    exact ⟨term, provinceId, size, trivial⟩

theorem MunicipalityCriteria.admits_iff (criteria : MunicipalityCriteria)
    (row : Row .municipalities) :
    AllHold row criteria.parts ↔ criteria.Admits row := by
  have hterm : (searching criteria.searchTerm [MunicipalityField.name,
      MunicipalityField.nameNepali]).predicate.holds row = true ↔
        FoundIn criteria.searchTerm [some (row .name), row .nameNepali] :=
    holds_searching (List.cons_ne_nil _ _) _ rfl
  have hdistrictId : (equalTo MunicipalityField.districtId
      (criteria.districtId.map .uuid)).predicate.holds row = true ↔
        Asked criteria.districtId (some (row .districtId)) :=
    holds_equalTo Value.discerned_uuid _ rfl
  have htypes : (memberOf MunicipalityField.type
      (wordValues criteria.types.members)).predicate.holds row = true ↔
        criteria.types.Takes [row .type] :=
    holds_memberOf_words criteria.types (word_injective_of_nodup (by decide))
      (some (row .type)) rfl
  have hwards : (between MunicipalityField.totalWards
      (criteria.minWards.map .integer)
      (criteria.maxWards.map .integer)).predicate.holds row = true ↔
        Bounded criteria.minWards criteria.maxWards (some (row .totalWards)) :=
    holds_between Value.ordered_integer _ rfl
  have hlocation : (within MunicipalityField.latitude
      MunicipalityField.longitude criteria.location.circle?).predicate.holds
        row = true ↔
          criteria.location.Surrounds (row .latitude) (row .longitude) :=
    holds_within _ _ rfl rfl
  refine Iff.trans (allHold_cons hterm (allHold_cons hdistrictId
    (allHold_cons htypes (allHold_cons hwards (SizeBlock.admits_cons
      (row .areaSqKm) (row .population) rfl rfl
      (allHold_cons hlocation allHold_nil)))))) ?_
  constructor
  · rintro ⟨term, districtId, types, wards, size, location, _⟩
    exact ⟨term, districtId, types, wards, size, location⟩
  · rintro ⟨term, districtId, types, wards, size, location⟩
    exact ⟨term, districtId, types, wards, size, location, trivial⟩

theorem WardCriteria.admits_iff (criteria : WardCriteria) (row : Row .wards) :
    AllHold row criteria.parts ↔ criteria.Admits row := by
  have hterm : (searching criteria.searchTerm
      [WardField.officeAddress]).predicate.holds row = true ↔
        FoundIn criteria.searchTerm [row .officeAddress] :=
    holds_searching (List.cons_ne_nil _ _) _ rfl
  have hmunicipalityId : (equalTo WardField.municipalityId
      (criteria.municipalityId.map .uuid)).predicate.holds row = true ↔
        Asked criteria.municipalityId (some (row .municipalityId)) :=
    holds_equalTo Value.discerned_uuid _ rfl
  have hlocation : (within WardField.latitude WardField.longitude
      criteria.location.circle?).predicate.holds row = true ↔
        criteria.location.Surrounds (row .latitude) (row .longitude) :=
    holds_within _ _ rfl rfl
  refine Iff.trans (allHold_append (allHold_append
    (allHold_cons hterm (allHold_cons hmunicipalityId allHold_nil))
    (WardNumbers.admits_iff (some (row .wardNumber)) rfl))
    (SizeBlock.admits_cons (row .areaSqKm) (row .population) rfl rfl
      (allHold_cons hlocation allHold_nil))) ?_
  constructor
  · rintro ⟨⟨⟨term, municipalityId, _⟩, wards⟩, size, location, _⟩
    exact ⟨term, municipalityId, wards, size, location⟩
  · rintro ⟨term, municipalityId, wards, size, location⟩
    exact ⟨⟨⟨term, municipalityId, trivial⟩, wards⟩, size, location, trivial⟩

/-- The specification of a request holds of exactly the rows that meet every
filter of the request. -/
theorem Criteria.specification_holds_iff {entity : Entity}
    (criteria : entity.Criteria) (row : Row entity) :
    (specification criteria).predicate.holds row = true ↔
      Admits criteria row := by
  rw [specification, holds_allOf, List.all_eq_true]
  cases entity with
  | users => exact UserCriteria.admits_iff criteria row
  | families => exact FamilyCriteria.admits_iff criteria row
  | provinces => exact ProvinceCriteria.admits_iff criteria row
  | districts => exact DistrictCriteria.admits_iff criteria row
  | municipalities => exact MunicipalityCriteria.admits_iff criteria row
  | wards => exact WardCriteria.admits_iff criteria row

end CivicRegistry
