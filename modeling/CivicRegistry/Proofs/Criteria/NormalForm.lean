import CivicRegistry.Proofs.Criteria.Meaning
import CivicRegistry.Proofs.Predicate.Grouping
import CivicRegistry.Proofs.Text.Blank

/-!
# Specifications in normal form

The conditions that a request asks for are joined to one predicate: `always` if
there are none, the condition itself if there is one, and otherwise a
conjunction of them in their order.  No condition is neutral, a conjunction, an
alternative with nothing to choose from or a choice from no words.  A request
that passes its checks gives a circle completely or not at all, so that every
filter that it supplies puts a condition on the rows.
-/

namespace CivicRegistry

/-! ## Joined conditions -/

namespace Predicate

variable {F : Type}

/-- The predicate that some conditions come to together. -/
def joined : List (Predicate F) → Predicate F
  | [] => always
  | [part] => part
  | parts => all parts

/-- The predicate constrains something and is no conjunction. -/
def IsSingle : Predicate F → Prop
  | always | all _ => False
  | any _ | leaf _ | near _ => True

theorem IsSingle.conjuncts_eq {predicate : Predicate F}
    (hsingle : predicate.IsSingle) : predicate.conjuncts = [predicate] := by
  cases predicate with
  | always | all => exact hsingle.elim
  | any | leaf | near => rfl

variable {parts left right : List (Predicate F)}

theorem joined_of_length (hlength : 2 ≤ parts.length) :
    joined parts = all parts := by
  match parts, hlength with
  | _ :: _ :: _, _ => rfl

theorem conjuncts_joined (hsingle : ∀ part ∈ parts, part.IsSingle) :
    (joined parts).conjuncts = parts := by
  match parts with
  | [] => rfl
  | [part] => exact (hsingle part List.mem_cons_self).conjuncts_eq
  | _ :: _ :: _ => rfl

/-- Nothing is asked for only if there is no condition. -/
theorem joined_eq_always_iff (hsingle : ∀ part ∈ parts, part.IsSingle) :
    joined parts = always ↔ parts = [] := by
  constructor
  · intro halways
    rw [← conjuncts_joined hsingle, halways, conjuncts]
  · rintro rfl
    rfl

theorem joined_and_joined (hleft : ∀ part ∈ left, part.IsSingle)
    (hright : ∀ part ∈ right, part.IsSingle) :
    (joined left).and (joined right) = joined (left ++ right) := by
  by_cases hnone : left = []
  · rw [hnone, List.nil_append]
    rfl
  by_cases hothers : right = []
  · rw [hothers, List.append_nil]
    exact and_always (joined left)
  have hlength : 2 ≤ (left ++ right).length := by
    have hleft := List.length_pos_iff.mpr hnone
    have hright := List.length_pos_iff.mpr hothers
    rw [List.length_append]
    omega
  rw [and_of_ne_always (mt (joined_eq_always_iff hleft).mp hnone)
    (mt (joined_eq_always_iff hright).mp hothers), conjuncts_joined hleft,
    conjuncts_joined hright, joined_of_length hlength]

end Predicate

/-! ## Filters -/

/-- The words of a vocabulary in the order in which they are declared. -/
def Vocabulary.words (α : Type) [Vocabulary α] : List String :=
  (Enumeration.all : List α).map Vocabulary.word

/-- The words that values of a kind are chosen from, in the order in which they
are declared. -/
def Kind.words : Kind → List String
  | .roles => Vocabulary.words Role
  | .officePost => Vocabulary.words OfficePost
  | .houseOwnership => Vocabulary.words HouseOwnership
  | .municipalityType => Vocabulary.words MunicipalityType
  | .text | .uuid | .instant | .int32 | .int64 | .float | .boolean => []

variable {entity : Entity}

/-- What a single filter may ask of a row: a comparison with one value, one of
some words of an attribute, a place in a circle, or a text in one of several
attributes.  The words are declared for the attribute, and stand in the order
of their declaration without repeats. -/
inductive IsCondition : Predicate entity.Field → Prop where
  | comparison {field : entity.Field} {operator : Operator} {value : Value}
      (hoperator : operator ≠ .oneOf) :
      IsCondition (.leaf ⟨field, operator, value⟩)
  | choice {field : entity.Field} {words : List String} (hwords : words ≠ [])
      (hdeclared : words.Sublist (Entity.info field).kind.words)
      (hnodup : words.Nodup) :
      IsCondition (.leaf ⟨field, .oneOf, .list (words.map .text)⟩)
  | circle {proximity : Proximity entity.Field} : IsCondition (.near proximity)
  | search {text : String} {fields : List entity.Field}
      (hfields : 2 ≤ fields.length) :
      IsCondition (.any (fields.map fun field =>
        .leaf ⟨field, .contains, .text text⟩))

theorem IsCondition.isSingle {predicate : Predicate entity.Field}
    (hcondition : IsCondition predicate) : predicate.IsSingle := by
  cases hcondition <;> trivial

/-- A filter of a request: whether the request supplies it, and the condition
that it puts on the rows, if it does put one. -/
structure Criterion (F : Type) where
  supplied : Bool
  condition : Option (Predicate F)

namespace Criterion

variable {F : Type}

/-- A bound or a value that an attribute is compared with. -/
def comparison (field : F) (operator : Operator) (value : Option Value) :
    Criterion F where
  supplied := value.isSome
  condition := value.map fun value => .leaf ⟨field, operator, value⟩

/-- A set that a value of an attribute is to be from; the empty set is none. -/
def choice {α : Type} [Vocabulary α] [DecidableEq α] (field : F)
    (selection : Selection α) : Criterion F where
  supplied := !selection.isEmpty
  condition :=
    if selection.isEmpty then none
    else
      let words := selection.members.map Vocabulary.word
      some (.leaf ⟨field, .oneOf, .list (words.map .text)⟩)

/-- The text occurs in one of the attributes. -/
def containing (text : String) : List F → Predicate F
  | [field] => .leaf ⟨field, .contains, .text text⟩
  | fields =>
    .any (fields.map fun field => .leaf ⟨field, .contains, .text text⟩)

/-- A term that is looked for without the blanks around it; a blank term is
none. -/
def search (term : Option String) (fields : List F) : Criterion F where
  supplied := term.any (·.toList.any (!Text.isBlank ·))
  condition := (term.filter (·.toList.any (!Text.isBlank ·))).map fun text =>
    containing (Text.trim text) fields

/-- A circle that the point of two attributes is to lie in; it is supplied as
soon as one of its three numbers is. -/
def circle (latitude longitude : F) (location : LocationBlock) :
    Criterion F where
  supplied := location.latitude.isSome || location.longitude.isSome ||
    location.radius.isSome
  condition :=
    match location with
    | ⟨some lat, some lng, some radius⟩ =>
      some (.near ⟨latitude, longitude, ⟨⟨lat, lng⟩, radius⟩⟩)
    | _ => none

/-- The conditions of some filters in their order. -/
def conditions (filters : List (Criterion F)) : List (Predicate F) :=
  filters.flatMap (·.condition.toList)

end Criterion

/-! ## Filters of requests -/

def WardNumbers.filters {F : Type} (wards : WardNumbers) (field : F) :
    List (Criterion F) :=
  [.comparison field .equal (wards.only.map .integer),
    .comparison field .atLeast (wards.low.map .integer),
    .comparison field .atMost (wards.high.map .integer)]

def SizeBlock.filters {F : Type} (size : SizeBlock) (area population : F) :
    List (Criterion F) :=
  [.comparison area .atLeast (size.minArea.map .float),
    .comparison area .atMost (size.maxArea.map .float),
    .comparison population .atLeast (size.minPopulation.map .integer),
    .comparison population .atMost (size.maxPopulation.map .integer)]

def UserCriteria.filters (criteria : UserCriteria) :
    List (Criterion UserField) :=
  [.search criteria.searchTerm [.fullName, .fullNameNepali, .email],
    .choice .roles criteria.roles,
    .choice .officePost criteria.officePosts,
    .comparison .isApproved .equal (criteria.isApproved.map .boolean),
    .comparison .isActive .equal (criteria.isActive.map .boolean)] ++
  criteria.wards.filters .wardNumber ++
  [.comparison .createdAt .atLeast (criteria.createdFrom.map .instant),
    .comparison .createdAt .atMost (criteria.createdTo.map .instant)]

def FamilyCriteria.filters (criteria : FamilyCriteria) :
    List (Criterion FamilyField) :=
  [.search criteria.searchTerm
    [.headOfFamily, .headOfFamilyNepali, .tole, .contactNumber]] ++
  criteria.wards.filters .wardNumber ++
  [.comparison .totalMembers .atLeast (criteria.minMembers.map .integer),
    .comparison .totalMembers .atMost (criteria.maxMembers.map .integer),
    .choice .houseOwnership criteria.houseOwnerships,
    .comparison .createdAt .atLeast (criteria.createdFrom.map .instant),
    .comparison .createdAt .atMost (criteria.createdTo.map .instant),
    .circle .latitude .longitude criteria.location]

def ProvinceCriteria.filters (criteria : ProvinceCriteria) :
    List (Criterion ProvinceField) :=
  .search criteria.searchTerm [.name, .nameNepali, .headquarter] ::
  criteria.size.filters .areaSqKm .population

def DistrictCriteria.filters (criteria : DistrictCriteria) :
    List (Criterion DistrictField) :=
  [.search criteria.searchTerm [.name, .nameNepali, .headquarter],
    .comparison .provinceId .equal (criteria.provinceId.map .uuid)] ++
  criteria.size.filters .areaSqKm .population

def MunicipalityCriteria.filters (criteria : MunicipalityCriteria) :
    List (Criterion MunicipalityField) :=
  [.search criteria.searchTerm [.name, .nameNepali],
    .comparison .districtId .equal (criteria.districtId.map .uuid),
    .choice .type criteria.types,
    .comparison .totalWards .atLeast (criteria.minWards.map .integer),
    .comparison .totalWards .atMost (criteria.maxWards.map .integer)] ++
  criteria.size.filters .areaSqKm .population ++
  [.circle .latitude .longitude criteria.location]

def WardCriteria.filters (criteria : WardCriteria) :
    List (Criterion WardField) :=
  [.search criteria.searchTerm [.officeAddress],
    .comparison .municipalityId .equal (criteria.municipalityId.map .uuid)] ++
  criteria.wards.filters .wardNumber ++
  criteria.size.filters .areaSqKm .population ++
  [.circle .latitude .longitude criteria.location]

namespace Criteria

/-- The filters of a request in the order of its specification, those that are
not supplied included. -/
def filters : {entity : Entity} → entity.Criteria →
    List (Criterion entity.Field)
  | .users, criteria => UserCriteria.filters criteria
  | .families, criteria => FamilyCriteria.filters criteria
  | .provinces, criteria => ProvinceCriteria.filters criteria
  | .districts, criteria => DistrictCriteria.filters criteria
  | .municipalities, criteria => MunicipalityCriteria.filters criteria
  | .wards, criteria => WardCriteria.filters criteria

/-- The conditions that a request asks for. -/
def conditions (criteria : entity.Criteria) : List (Predicate entity.Field) :=
  Criterion.conditions (filters criteria)

/-- The request asks for users with one of some roles. -/
def AsksRoles : {entity : Entity} → entity.Criteria → Prop
  | .users, criteria => (UserCriteria.roles criteria).members ≠ []
  | .families, _ | .provinces, _ | .districts, _ | .municipalities, _
  | .wards, _ => False

end Criteria

/-! ## Builders -/

namespace Specification

/-- The specification joins the conditions of the filters. -/
structure Joins (spec : Specification entity.Field)
    (filters : List (Criterion entity.Field)) : Prop where
  predicate : spec.predicate = .joined (Criterion.conditions filters)
  conditions : ∀ condition ∈ Criterion.conditions filters,
    IsCondition condition

namespace Joins

variable {spec other : Specification entity.Field}
variable {filters others : List (Criterion entity.Field)}

theorem isSingle (hspec : spec.Joins filters) :
    ∀ condition ∈ Criterion.conditions filters, condition.IsSingle :=
  fun condition hcondition => (hspec.conditions condition hcondition).isSingle

theorem nil : (allOf []).Joins ([] : List (Criterion entity.Field)) where
  predicate := rfl
  conditions := nofun

/-- Nothing has to be flattened or dropped when specifications are combined. -/
theorem and (hspec : spec.Joins filters) (hother : other.Joins others) :
    (spec.and other).Joins (filters ++ others) := by
  have hconditions : Criterion.conditions (filters ++ others) =
      Criterion.conditions filters ++ Criterion.conditions others :=
    List.flatMap_append
  constructor
  · rw [hconditions, ← Predicate.joined_and_joined hspec.isSingle
      hother.isSingle, ← hspec.predicate, ← hother.predicate]
    rfl
  · rw [hconditions, List.forall_mem_append]
    exact ⟨hspec.conditions, hother.conditions⟩

theorem cons {filter : Criterion entity.Field}
    {parts : List (Specification entity.Field)}
    (hspec : spec.Joins [filter]) (hparts : (allOf parts).Joins others) :
    (allOf (spec :: parts)).Joins (filter :: others) := by
  rw [allOf_cons]
  exact hspec.and hparts

/-- A filter without a condition has nothing to join. -/
theorem none {filter : Criterion entity.Field}
    (hnone : filter.condition = .none) : unconstrained.Joins [filter] := by
  have hconditions : Criterion.conditions [filter] = [] := by
    simp [Criterion.conditions, hnone]
  constructor
  · rw [hconditions]
    rfl
  · simp [hconditions]

theorem some {filter : Criterion entity.Field}
    {condition : Predicate entity.Field}
    (hsome : filter.condition = .some condition)
    (hcondition : IsCondition condition) :
    (ofPredicate condition).Joins [filter] := by
  have hconditions : Criterion.conditions [filter] = [condition] := by
    simp [Criterion.conditions, hsome]
  constructor
  · rw [hconditions]
    rfl
  · simpa [hconditions] using hcondition

end Joins

variable {field : entity.Field}

theorem joins_equalTo (value : Option Value) :
    (equalTo field value).Joins [.comparison field .equal value] := by
  cases value with
  | none => exact .none rfl
  | some value => exact .some rfl (.comparison (by decide))

/-- Each of the bounds that are given is a condition. -/
theorem Joins.cons_between {low high : Option Value}
    {parts : List (Specification entity.Field)}
    {others : List (Criterion entity.Field)}
    (hparts : (allOf parts).Joins others) :
    (allOf (between field low high :: parts)).Joins
      (.comparison field .atLeast low :: .comparison field .atMost high ::
        others) := by
  have hbound (bound : Option Value) {operator : Operator}
      (hoperator : operator ≠ .oneOf) :
      (ofPredicate (bound.elim .always (condition field operator))).Joins
        [.comparison field operator bound] := by
    cases bound with
    | none => exact .none rfl
    | some value => exact .some rfl (.comparison hoperator)
  rw [allOf_cons]
  exact ((hbound low (by decide)).and (hbound high (by decide))).and hparts

theorem joins_within {latitude longitude : entity.Field}
    (location : LocationBlock) :
    (within latitude longitude location.circle?).Joins
      [.circle latitude longitude location] := by
  obtain ⟨_ | lat, _ | lng, _ | radius⟩ := location
  case some.some.some => exact .some rfl .circle
  all_goals exact .none rfl

section

variable {α : Type} [Vocabulary α] [DecidableEq α] (selection : Selection α)

/-- Members stand in the order of the vocabulary. -/
theorem members_sublist :
    (selection.members.map Vocabulary.word).Sublist (Vocabulary.words α) := by
  apply List.Sublist.map
  rw [← selection.members_eq]
  exact List.filter_sublist

theorem joins_memberOf
    (hkind : (Entity.info field).kind.words = Vocabulary.words α)
    (hnodup : (Vocabulary.words α).Nodup) :
    (memberOf field (wordValues selection.members)).Joins
      [.choice field selection] := by
  have hempty : (wordValues selection.members).isEmpty = selection.isEmpty :=
    List.isEmpty_map
  rw [memberOf, hempty]
  by_cases hnone : selection.isEmpty = true
  · rw [if_pos hnone]
    exact .none (if_pos hnone)
  · rw [if_neg hnone]
    have hwords : selection.members.map Vocabulary.word ≠ [] := by
      simpa [Selection.isEmpty] using hnone
    have hdeclared := members_sublist selection
    have hvalues : wordValues selection.members =
        (selection.members.map Vocabulary.word).map .text :=
      (List.map_map).symm
    rw [hvalues]
    exact .some (if_neg hnone)
      (.choice hwords (hkind ▸ hdeclared) (hdeclared.nodup hnodup))

theorem joins_elementOf
    (hkind : (Entity.info field).kind.words = Vocabulary.words α)
    (hnodup : (Vocabulary.words α).Nodup) :
    (elementOf field (wordValues selection.members)).Joins
      [.choice field selection] := by
  have hjoins := joins_memberOf selection hkind hnodup
  exact ⟨predicate_elementOf.trans hjoins.predicate, hjoins.conditions⟩

end

theorem isCondition_containing {text : String} {fields : List entity.Field}
    (hfields : fields ≠ []) :
    IsCondition (Criterion.containing text fields) := by
  match fields with
  | [field] => exact .comparison (by decide)
  | first :: second :: others => exact .search (by simp)

/-- What is looked for in a single attribute is no alternative. -/
theorem anyOf_eq_containing {text : String} {fields : List entity.Field}
    (hfields : fields ≠ []) :
    Predicate.anyOf (fields.map fun field =>
        condition field .contains (.text text)) =
      Criterion.containing text fields := by
  have hproper : (fields.map fun field =>
      condition field .contains (.text text)).any Predicate.isAlways =
        false := by
    rw [List.any_map, List.any_eq_false]
    exact fun _ _ => Bool.false_ne_true
  rw [Predicate.anyOf.eq_def, hproper, List.isEmpty_map,
    List.isEmpty_eq_false_iff.mpr hfields]
  cases fields with
  | nil => exact absurd rfl hfields
  | cons first others => cases others <;> rfl

theorem trim_eq_empty_iff (text : String) :
    Text.trim text = "" ↔ text.toList.any (!Text.isBlank ·) = false := by
  rw [← String.toList_eq_nil_iff, Text.toList_trim, Text.trimmed_eq_nil_iff,
    List.any_eq_false]
  simp

theorem joins_searching {term : Option String} {fields : List entity.Field}
    (hfields : fields ≠ []) :
    (searching term fields).Joins [.search term fields] := by
  cases term with
  | none => exact .none rfl
  | some given =>
    rw [searching, effectiveTerm_some]
    by_cases hblank : Text.trim given = ""
    · have hnone := (trim_eq_empty_iff given).mp hblank
      rw [if_pos hblank]
      exact .none (by simp only [Criterion.search, Option.filter, hnone]; rfl)
    · have hsome : given.toList.any (!Text.isBlank ·) = true := by
        rwa [trim_eq_empty_iff, Bool.not_eq_false] at hblank
      rw [if_neg hblank]
      simp only [anyOf_eq_containing hfields]
      exact .some (by simp only [Criterion.search, Option.filter, hsome]; rfl)
        (isCondition_containing hfields)

section

variable {parts : List (Specification entity.Field)}
variable {others : List (Criterion entity.Field)}

theorem Joins.wards (wards : WardNumbers)
    (hparts : (allOf parts).Joins others) :
    (allOf (wards.specifications field ++ parts)).Joins
      (wards.filters field ++ others) :=
  .cons (joins_equalTo _) (.cons_between hparts)

theorem Joins.size (size : SizeBlock) {area population : entity.Field}
    (hparts : (allOf parts).Joins others) :
    (allOf (between area (size.minArea.map .float) (size.maxArea.map .float) ::
        between population (size.minPopulation.map .integer)
          (size.maxPopulation.map .integer) :: parts)).Joins
      (size.filters area population ++ others) :=
  .cons_between (.cons_between hparts)

end

end Specification

/-! ## Specifications of requests -/

open Specification

theorem UserCriteria.joins_filters (criteria : UserCriteria) :
    @Joins .users (allOf criteria.parts) criteria.filters :=
  .cons (joins_searching (List.cons_ne_nil _ _))
    (.cons (joins_elementOf criteria.roles rfl (by decide))
      (.cons (joins_memberOf criteria.officePosts rfl (by decide))
        (.cons (joins_equalTo _) (.cons (joins_equalTo _)
          (.wards criteria.wards (.cons_between .nil))))))

theorem FamilyCriteria.joins_filters (criteria : FamilyCriteria) :
    @Joins .families (allOf criteria.parts) criteria.filters :=
  .cons (joins_searching (List.cons_ne_nil _ _))
    (.wards criteria.wards
      (.cons_between
        (.cons (joins_memberOf criteria.houseOwnerships rfl (by decide))
          (.cons_between (.cons (joins_within criteria.location) .nil)))))

theorem ProvinceCriteria.joins_filters (criteria : ProvinceCriteria) :
    @Joins .provinces (allOf criteria.parts) criteria.filters :=
  .cons (joins_searching (List.cons_ne_nil _ _)) (.size criteria.size .nil)

theorem DistrictCriteria.joins_filters (criteria : DistrictCriteria) :
    @Joins .districts (allOf criteria.parts) criteria.filters :=
  .cons (joins_searching (List.cons_ne_nil _ _))
    (.cons (joins_equalTo _) (.size criteria.size .nil))

theorem MunicipalityCriteria.joins_filters (criteria : MunicipalityCriteria) :
    @Joins .municipalities (allOf criteria.parts) criteria.filters :=
  .cons (joins_searching (List.cons_ne_nil _ _))
    (.cons (joins_equalTo _)
      (.cons (joins_memberOf criteria.types rfl (by decide))
        (.cons_between (.size criteria.size
          (.cons (joins_within criteria.location) .nil)))))

theorem WardCriteria.joins_filters (criteria : WardCriteria) :
    @Joins .wards (allOf criteria.parts) criteria.filters :=
  .cons (joins_searching (List.cons_ne_nil _ _))
    (.cons (joins_equalTo _)
      (.wards criteria.wards (.size criteria.size
        (.cons (joins_within criteria.location) .nil))))

theorem Criteria.joins_filters (criteria : entity.Criteria) :
    (specification criteria).Joins (filters criteria) := by
  cases entity with
  | users => exact UserCriteria.joins_filters criteria
  | families => exact FamilyCriteria.joins_filters criteria
  | provinces => exact ProvinceCriteria.joins_filters criteria
  | districts => exact DistrictCriteria.joins_filters criteria
  | municipalities => exact MunicipalityCriteria.joins_filters criteria
  | wards => exact WardCriteria.joins_filters criteria

/-! ## Filters of accepted requests -/

/-- Once a message is recorded there is always one. -/
theorem Violations.isEmpty_add (violations : Violations)
    (field message : String) :
    (violations.add field message).isEmpty = false := by
  obtain ⟨_ | ⟨entry, entries⟩⟩ := violations
  · rfl
  · rw [add, isEmpty, insertNew]
    split <;> rfl

theorem Violations.isEmpty_addIf (violations : Violations) (isWrong : Bool)
    (field message : String) :
    (violations.addIf isWrong field message).isEmpty =
      (violations.isEmpty && !isWrong) := by
  cases isWrong with
  | true => rw [addIf, if_pos rfl, isEmpty_add, Bool.not_true, Bool.and_false]
  | false => simp [addIf]

namespace Criterion

variable {F : Type}

/-- The filter puts a condition on the rows if it is supplied. -/
def IsComplete (filter : Criterion F) : Prop :=
  filter.condition.isSome = filter.supplied

theorem isComplete_comparison {field : F} {operator : Operator}
    {value : Option Value} : (comparison field operator value).IsComplete :=
  Option.isSome_map

theorem isComplete_choice {α : Type} [Vocabulary α] [DecidableEq α] {field : F}
    {selection : Selection α} : (choice field selection).IsComplete := by
  rw [IsComplete, choice]
  cases selection.isEmpty <;> rfl

theorem isComplete_search {term : Option String} {fields : List F} :
    (search term fields).IsComplete := by
  rw [IsComplete, search, Option.isSome_map]
  exact Option.isSome_filter

/-- A circle that is given in part is found fault with. -/
theorem isComplete_circle {latitude longitude : F} {location : LocationBlock}
    {violations : Violations}
    (haccepted : (location.check violations).isEmpty = true) :
    (circle latitude longitude location).IsComplete := by
  obtain ⟨_ | lat, _ | lng, _ | radius⟩ := location
  case none.none.none => rfl
  case some.some.some => rfl
  all_goals
    simp [LocationBlock.check, LocationBlock.checkPoint,
      LocationBlock.checkRadius, Violations.isEmpty_add,
      Violations.isEmpty_addIf] at haccepted

theorem isComplete_wards {wards : WardNumbers} {field : F} :
    ∀ filter ∈ wards.filters field, filter.IsComplete := by
  simp only [WardNumbers.filters, List.forall_mem_cons]
  exact ⟨isComplete_comparison, isComplete_comparison, isComplete_comparison,
    List.forall_mem_nil _⟩

theorem isComplete_size {size : SizeBlock} {area population : F} :
    ∀ filter ∈ size.filters area population, filter.IsComplete := by
  simp only [SizeBlock.filters, List.forall_mem_cons]
  exact ⟨isComplete_comparison, isComplete_comparison, isComplete_comparison,
    isComplete_comparison, List.forall_mem_nil _⟩

end Criterion

namespace Criteria

open Criterion

/-- No filter of an accepted request is dropped. -/
theorem isComplete_filters {criteria : entity.Criteria}
    (haccepted : validate criteria = .ok ()) :
    ∀ filter ∈ filters criteria, filter.IsComplete := by
  have hempty : (violations criteria).isEmpty = true := by
    rw [validate, Violations.result] at haccepted
    by_contra hsome
    rw [if_neg hsome] at haccepted
    cases haccepted
  cases entity with
  | users =>
    simp only [filters, UserCriteria.filters, List.forall_mem_append,
      List.forall_mem_cons]
    exact ⟨⟨⟨isComplete_search, isComplete_choice, isComplete_choice,
      isComplete_comparison, isComplete_comparison, List.forall_mem_nil _⟩,
      isComplete_wards⟩, isComplete_comparison, isComplete_comparison,
      List.forall_mem_nil _⟩
  | families =>
    simp only [filters, FamilyCriteria.filters, List.forall_mem_append,
      List.forall_mem_cons]
    exact ⟨⟨⟨isComplete_search, List.forall_mem_nil _⟩, isComplete_wards⟩,
      isComplete_comparison, isComplete_comparison, isComplete_choice,
      isComplete_comparison, isComplete_comparison, isComplete_circle hempty,
      List.forall_mem_nil _⟩
  | provinces =>
    simp only [filters, ProvinceCriteria.filters, List.forall_mem_cons]
    exact ⟨isComplete_search, isComplete_size⟩
  | districts =>
    simp only [filters, DistrictCriteria.filters, List.forall_mem_append,
      List.forall_mem_cons]
    exact ⟨⟨isComplete_search, isComplete_comparison, List.forall_mem_nil _⟩,
      isComplete_size⟩
  | municipalities =>
    simp only [filters, MunicipalityCriteria.filters, List.forall_mem_append,
      List.forall_mem_cons]
    exact ⟨⟨⟨isComplete_search, isComplete_comparison, isComplete_choice,
      isComplete_comparison, isComplete_comparison, List.forall_mem_nil _⟩,
      isComplete_size⟩, isComplete_circle hempty, List.forall_mem_nil _⟩
  | wards =>
    simp only [filters, WardCriteria.filters, List.forall_mem_append,
      List.forall_mem_cons]
    exact ⟨⟨⟨⟨isComplete_search, isComplete_comparison, List.forall_mem_nil _⟩,
      isComplete_wards⟩, isComplete_size⟩, isComplete_circle hempty,
      List.forall_mem_nil _⟩

theorem conditions_eq_nil_iff {criteria : entity.Criteria}
    (hcomplete : ∀ filter ∈ filters criteria, filter.IsComplete) :
    conditions criteria = [] ↔
      ∀ filter ∈ filters criteria, filter.supplied = false := by
  rw [conditions, Criterion.conditions, List.flatMap_eq_nil_iff]
  refine forall₂_congr fun filter hfilter => ?_
  rw [← hcomplete filter hfilter]
  simp

end Criteria

/-! ## Distinct rows -/

namespace Specification

variable {F : Type}

theorem distinct_searching (term : Option String) (fields : List F) :
    (searching term fields).distinct = false := by
  rw [searching]
  split <;> rfl

theorem distinct_equalTo (field : F) (value : Option Value) :
    (equalTo field value).distinct = false := by
  cases value <;> rfl

theorem distinct_between (field : F) (low high : Option Value) :
    (between field low high).distinct = false := rfl

theorem distinct_memberOf (field : F) (values : List Value) :
    (memberOf field values).distinct = false := by
  rw [memberOf]
  split <;> rfl

theorem distinct_elementOf (field : F) (values : List Value) :
    (elementOf field values).distinct = !values.isEmpty := by
  rw [elementOf]
  cases values <;> rfl

theorem distinct_within (latitude longitude : F) (circle : Option Circle) :
    (within latitude longitude circle).distinct = false := by
  cases circle <;> rfl

theorem any_distinct_wards (wards : WardNumbers) (field : F) :
    (wards.specifications field).any (·.distinct) = false := by
  simp [WardNumbers.specifications, distinct_equalTo, distinct_between]

end Specification

namespace Criteria

theorem distinct_specification (criteria : entity.Criteria) :
    (specification criteria).distinct = true ↔ AsksRoles criteria := by
  rw [specification, distinct_allOf]
  cases entity <;>
    simp [parts, AsksRoles, UserCriteria.parts, FamilyCriteria.parts,
      ProvinceCriteria.parts, DistrictCriteria.parts,
      MunicipalityCriteria.parts, WardCriteria.parts, distinct_searching,
      distinct_equalTo, distinct_between, distinct_memberOf,
      distinct_elementOf, distinct_within, any_distinct_wards, wordValues,
      -List.any_eq_true]

/-- The specification of an accepted request joins the conditions of exactly
the filters that the request supplies, in their order, so that it asks for
nothing only if the request supplies no filter.  No condition is neutral or a
conjunction, searches in several attributes have at least two alternatives, and
choices are from some words in the order of their declaration.  Rows have to be
distinct exactly if users with one of some roles are asked for. -/
theorem specification_normal (criteria : entity.Criteria)
    (haccepted : validate criteria = .ok ()) :
    (specification criteria).predicate = .joined (conditions criteria) ∧
      (∀ filter ∈ filters criteria,
        filter.condition.isSome = filter.supplied) ∧
      ((specification criteria).predicate = .always ↔
        ∀ filter ∈ filters criteria, filter.supplied = false) ∧
      (∀ condition ∈ conditions criteria,
        IsCondition condition ∧ condition.IsSingle) ∧
      ((specification criteria).distinct = true ↔ AsksRoles criteria) := by
  have hjoins := joins_filters criteria
  have hcomplete := isComplete_filters haccepted
  refine ⟨hjoins.predicate, hcomplete, ?_, ?_, distinct_specification criteria⟩
  · rw [hjoins.predicate, Predicate.joined_eq_always_iff hjoins.isSingle]
    exact conditions_eq_nil_iff hcomplete
  · intro condition hcondition
    exact ⟨hjoins.conditions condition hcondition,
      hjoins.isSingle condition hcondition⟩

/-- A search for municipalities with a blank term, two types of which one is
named twice, a bound on the wards and a circle. -/
def circled : Entity.Criteria .municipalities :=
  MunicipalityCriteria.mk (some " \t") none
    (.ofList [.municipality, .metropolitanCity, .municipality]) (some 3) none
    .empty ⟨some 27.7, some 85.3, some 5.0⟩ none .empty

theorem specification_normal_circled :
    validate circled = .ok () ∧
      (specification circled).predicate = .all
        [.leaf ⟨.type, .oneOf,
            .list [.text "METROPOLITAN_CITY", .text "MUNICIPALITY"]⟩,
          .leaf ⟨.totalWards, .atLeast, .integer 3⟩,
          .near ⟨.latitude, .longitude, ⟨⟨27.7, 85.3⟩, 5.0⟩⟩] ∧
      (specification circled).distinct = false := by
  have haccepted : validate circled = .ok () := rfl
  obtain ⟨hpredicate, -, -, -, hdistinct⟩ :=
    specification_normal circled haccepted
  refine ⟨haccepted, hpredicate.trans rfl, ?_⟩
  rw [← Bool.not_eq_true, hdistinct]
  exact not_false

end Criteria

end CivicRegistry
