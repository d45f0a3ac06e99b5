import CivicRegistry.Criteria.Basic
import CivicRegistry.Proofs.Criteria.Accumulation
import CivicRegistry.Proofs.Value.Order

/-!
# What is reported of a request

The rules of a request stand in the order in which they are checked.  A request
passes if none of them is broken.  Otherwise the fields of all broken rules are
reported, each with the message of the first broken rule that is charged to it.
-/

namespace CivicRegistry

/-! ## Rules of blocks -/

/-- A value is missing that has to be there with another one. -/
def Rule.companion {α β : Type} (field : String) (value : Option α)
    (otherName : String) (other : Option β) : Rule where
  field := field
  message := field ++ " is required when " ++ otherName ++ " is given"
  Broken := value.isNone ∧ other.isSome

def PagingBlock.rules {entity : Entity} (block : PagingBlock entity) :
    List Rule :=
  [.floor "page" block.page 0,
    .span "pageSize" block.pageSize 1 PagingBlock.largestSize]

def WardNumbers.rules (wards : WardNumbers) : List Rule :=
  [.floor "wardNumber" wards.only 1,
    .floor "wardNumberFrom" wards.low 1,
    .floor "wardNumberTo" wards.high 1,
    .order "wardNumberFrom" wards.low "wardNumberTo" wards.high,
    .exclusive "wardNumber" wards.only.isSome "wardNumberFrom/wardNumberTo"
      (wards.low.isSome || wards.high.isSome)]

def SizeBlock.rules (size : SizeBlock) : List Rule :=
  [.floor "minArea" size.minArea 0.0,
    .floor "maxArea" size.maxArea 0.0,
    .order "minArea" size.minArea "maxArea" size.maxArea,
    .floor "minPopulation" size.minPopulation 0,
    .floor "maxPopulation" size.maxPopulation 0,
    .order "minPopulation" size.minPopulation "maxPopulation"
      size.maxPopulation]

namespace LocationBlock

/-- One of the coordinates is given. -/
def HasPoint (location : LocationBlock) : Prop :=
  location.latitude.isSome ∨ location.longitude.isSome

instance (location : LocationBlock) : Decidable location.HasPoint :=
  inferInstanceAs (Decidable (_ ∨ _))

/-- Both coordinates have to be given or none. -/
def pointRules (location : LocationBlock) : List Rule :=
  [.span "latitude" location.latitude (-90.0) 90.0,
    .span "longitude" location.longitude (-180.0) 180.0,
    .companion "longitude" location.longitude "latitude" location.latitude,
    .companion "latitude" location.latitude "longitude" location.longitude]

/-- A radius that is given is not positive or too large. -/
def radiusBound (location : LocationBlock) : Rule where
  field := "radiusKm"
  message := "radiusKm must be greater than 0 and at most " ++
    Written.written largestRadius
  Broken := ∃ radius ∈ location.radius, ¬(0.0 < radius ∧ radius ≤ largestRadius)

/-- A radius has to be given with a point, and only then. -/
def radiusRules (location : LocationBlock) : List Rule :=
  [{ field := "radiusKm"
     message := "radiusKm is required for a geographic search"
     Broken := location.radius.isNone ∧ location.HasPoint },
    { field := "radiusKm"
      message := "radiusKm requires latitude and longitude"
      Broken := location.radius.isSome ∧ ¬location.HasPoint },
    location.radiusBound]

def rules (location : LocationBlock) : List Rule :=
  location.pointRules ++ location.radiusRules

end LocationBlock

/-! ## Rules of requests -/

def termRule (term : Option String) : Rule :=
  .length "searchTerm" term largestTerm

def UserCriteria.rules (criteria : UserCriteria) : List Rule :=
  termRule criteria.searchTerm :: criteria.wards.rules ++
  [.order "createdFrom" criteria.createdFrom "createdTo" criteria.createdTo]

def FamilyCriteria.rules (criteria : FamilyCriteria) : List Rule :=
  termRule criteria.searchTerm :: criteria.wards.rules ++
  [.floor "minMembers" criteria.minMembers 0,
    .floor "maxMembers" criteria.maxMembers 0,
    .order "minMembers" criteria.minMembers "maxMembers" criteria.maxMembers,
    .order "createdFrom" criteria.createdFrom "createdTo" criteria.createdTo] ++
  criteria.location.rules

def ProvinceCriteria.rules (criteria : ProvinceCriteria) : List Rule :=
  termRule criteria.searchTerm :: criteria.size.rules

def DistrictCriteria.rules (criteria : DistrictCriteria) : List Rule :=
  termRule criteria.searchTerm :: criteria.size.rules

def MunicipalityCriteria.rules (criteria : MunicipalityCriteria) : List Rule :=
  [termRule criteria.searchTerm,
    .floor "minWards" criteria.minWards 1,
    .floor "maxWards" criteria.maxWards 1,
    .order "minWards" criteria.minWards "maxWards" criteria.maxWards] ++
  criteria.size.rules ++ criteria.location.rules

def WardCriteria.rules (criteria : WardCriteria) : List Rule :=
  termRule criteria.searchTerm :: criteria.wards.rules ++
  criteria.size.rules ++ criteria.location.rules

namespace Criteria

variable {entity : Entity}

def filterRules : {entity : Entity} → entity.Criteria → List Rule
  | .users, criteria => UserCriteria.rules criteria
  | .families, criteria => FamilyCriteria.rules criteria
  | .provinces, criteria => ProvinceCriteria.rules criteria
  | .districts, criteria => DistrictCriteria.rules criteria
  | .municipalities, criteria => MunicipalityCriteria.rules criteria
  | .wards, criteria => WardCriteria.rules criteria

/-- The rules of a request in the order in which they are checked. -/
def rules (criteria : entity.Criteria) : List Rule :=
  (paging criteria).rules ++ filterRules criteria

end Criteria

/-! ## Numbers of requests -/

def SizeBlock.numbers (size : SizeBlock) : List (Option Float) :=
  [size.minArea, size.maxArea]

def LocationBlock.numbers (location : LocationBlock) : List (Option Float) :=
  [location.latitude, location.longitude, location.radius]

/-- The numbers of a request that need not be integers, as far as they are
given. -/
def Criteria.numbers : {entity : Entity} → entity.Criteria →
    List (Option Float)
  | .users, _ => []
  | .families, criteria => (FamilyCriteria.location criteria).numbers
  | .provinces, criteria => (ProvinceCriteria.size criteria).numbers
  | .districts, criteria => (DistrictCriteria.size criteria).numbers
  | .municipalities, criteria =>
    (MunicipalityCriteria.size criteria).numbers ++
      (MunicipalityCriteria.location criteria).numbers
  | .wards, criteria =>
    (WardCriteria.size criteria).numbers ++
      (WardCriteria.location criteria).numbers

/-- What is given of some numbers can be compared. -/
def AreNumbers (numbers : List (Option Float)) : Prop :=
  ∀ number, some number ∈ numbers → number.isNaN = false

theorem AreNumbers.of_mem {numbers : List (Option Float)}
    (hnumbers : AreNumbers numbers) {value : Option Float}
    (hvalue : value ∈ numbers) : ∀ given ∈ value, given.isNaN = false := by
  rintro given ⟨⟩
  exact hnumbers given hvalue

theorem AreNumbers.right {others numbers : List (Option Float)}
    (hnumbers : AreNumbers (others ++ numbers)) : AreNumbers numbers :=
  fun number hnumber => hnumbers number (List.mem_append_right _ hnumber)

/-! ## Checks of blocks -/

open Violations

variable {violations : Violations}

theorem PagingBlock.check_eq {entity : Entity} (block : PagingBlock entity) :
    block.check violations = violations.recordAll block.rules := by
  rw [check, atLeast_eq_record, between_eq_record]
  · rfl
  · intro given _
    omega

theorem checkSearchTerm_eq (term : Option String) :
    checkSearchTerm term violations = violations.record (termRule term) :=
  maxChars_eq_record

theorem WardNumbers.check_eq (wards : WardNumbers) :
    wards.check violations = violations.recordAll wards.rules := by
  rw [check, exclusive_eq_record, range_eq_record, atLeast_eq_record,
    atLeast_eq_record, atLeast_eq_record]
  rfl

theorem SizeBlock.check_eq (size : SizeBlock) :
    size.check violations = violations.recordAll size.rules := by
  simp only [check, atLeast_eq_record, range_eq_record]
  rfl

/-- A number is out of bounds if it does not lie between them. -/
theorem Binary64.outside_iff {number low high : Float}
    (hnumber : number.isNaN = false) (hlow : low.isNaN = false)
    (hhigh : high.isNaN = false) :
    number < low ∨ high < number ↔ ¬(low ≤ number ∧ number ≤ high) := by
  rw [not_and_or, not_le_iff_lt hlow hnumber, not_le_iff_lt hnumber hhigh]

namespace LocationBlock

theorem checkPoint_eq (location : LocationBlock) :
    location.checkPoint violations =
      (violations.record (.companion "longitude" location.longitude
        "latitude" location.latitude)).record
          (.companion "latitude" location.latitude
            "longitude" location.longitude) := by
  obtain ⟨_ | latitude, _ | longitude, radius⟩ := location <;> rfl

/-- The radius is charged once, with the first thing that is wrong with it. -/
theorem checkRadius_eq (location : LocationBlock)
    (hradius : ∀ radius ∈ location.radius, radius.isNaN = false) :
    location.checkRadius violations =
      violations.recordAll location.radiusRules := by
  obtain ⟨latitude, longitude, _ | radius⟩ := location
  · cases latitude <;> cases longitude <;> rfl
  · have hzero : radius ≤ 0.0 ↔ ¬0.0 < radius := by
      rw [← Binary64.not_le_iff_lt (hradius radius rfl) (by decide), not_not]
    have hlargest : largestRadius < radius ↔ ¬radius ≤ largestRadius :=
      (Binary64.not_le_iff_lt (hradius radius rfl) (by decide)).symm
    have hbound : (decide (radius ≤ 0.0) || decide (largestRadius < radius)) =
        true ↔ (radiusBound ⟨latitude, longitude, some radius⟩).Broken := by
      simp [radiusBound, hzero, hlargest, imp_iff_not_or]
    have hwithPoint : violations.addIf
        (decide (radius ≤ 0.0) || decide (largestRadius < radius)) "radiusKm"
          ("radiusKm must be greater than 0 and at most " ++
            Written.written largestRadius) =
        violations.record (radiusBound ⟨latitude, longitude, some radius⟩) :=
      addIf_eq_record (radiusBound ⟨latitude, longitude, some radius⟩) hbound
    cases latitude with
    | some latitude => exact hwithPoint
    | none =>
      cases longitude with
      | some longitude => exact hwithPoint
      | none =>
        -- Without a point the bound of the radius is not looked at any more,
        -- but the field has its message then.
        exact (record_of_charged
          (radiusBound ⟨none, none, some radius⟩) _).symm

theorem check_eq (location : LocationBlock)
    (hnumbers : AreNumbers location.numbers) :
    location.check violations = violations.recordAll location.rules := by
  have hlatitude : ∀ given ∈ location.latitude, given.isNaN = false :=
    hnumbers.of_mem (by simp [numbers])
  have hlongitude : ∀ given ∈ location.longitude, given.isNaN = false :=
    hnumbers.of_mem (by simp [numbers])
  have hradius : ∀ given ∈ location.radius, given.isNaN = false :=
    hnumbers.of_mem (by simp [numbers])
  rw [check, checkRadius_eq location hradius, checkPoint_eq,
    between_eq_record fun given hgiven => Binary64.outside_iff
      (hlongitude given hgiven) (by decide) (by decide),
    between_eq_record fun given hgiven => Binary64.outside_iff
      (hlatitude given hgiven) (by decide) (by decide),
    rules, recordAll_append]
  rfl

end LocationBlock

/-! ## Checks of requests -/

theorem UserCriteria.check_eq (criteria : UserCriteria) :
    criteria.check violations = violations.recordAll criteria.rules := by
  rw [check, range_eq_record, WardNumbers.check_eq, checkSearchTerm_eq, rules,
    recordAll_append]
  rfl

theorem FamilyCriteria.check_eq (criteria : FamilyCriteria)
    (hlocation : AreNumbers criteria.location.numbers) :
    criteria.check violations = violations.recordAll criteria.rules := by
  rw [check, LocationBlock.check_eq _ hlocation, range_eq_record,
    range_eq_record, atLeast_eq_record, atLeast_eq_record,
    WardNumbers.check_eq, checkSearchTerm_eq, rules, recordAll_append,
    recordAll_append]
  rfl

theorem ProvinceCriteria.check_eq (criteria : ProvinceCriteria) :
    criteria.check violations = violations.recordAll criteria.rules := by
  rw [check, SizeBlock.check_eq, checkSearchTerm_eq]
  rfl

theorem DistrictCriteria.check_eq (criteria : DistrictCriteria) :
    criteria.check violations = violations.recordAll criteria.rules := by
  rw [check, SizeBlock.check_eq, checkSearchTerm_eq]
  rfl

theorem MunicipalityCriteria.check_eq (criteria : MunicipalityCriteria)
    (hlocation : AreNumbers criteria.location.numbers) :
    criteria.check violations = violations.recordAll criteria.rules := by
  rw [check, LocationBlock.check_eq _ hlocation, SizeBlock.check_eq,
    range_eq_record, atLeast_eq_record, atLeast_eq_record, checkSearchTerm_eq,
    rules, recordAll_append, recordAll_append]
  rfl

theorem WardCriteria.check_eq (criteria : WardCriteria)
    (hlocation : AreNumbers criteria.location.numbers) :
    criteria.check violations = violations.recordAll criteria.rules := by
  rw [check, LocationBlock.check_eq _ hlocation, SizeBlock.check_eq,
    WardNumbers.check_eq, checkSearchTerm_eq, rules, recordAll_append,
    recordAll_append]
  rfl

namespace Criteria

variable {entity : Entity}

/-- The checks of a request record what its rules say. -/
theorem violations_eq (criteria : entity.Criteria)
    (hnumbers : AreNumbers (numbers criteria)) :
    Criteria.violations criteria =
      Violations.empty.recordAll (rules criteria) := by
  rw [Criteria.violations, PagingBlock.check_eq, rules, recordAll_append]
  cases entity with
  | users => exact UserCriteria.check_eq criteria
  | families => exact FamilyCriteria.check_eq criteria hnumbers
  | provinces => exact ProvinceCriteria.check_eq criteria
  | districts => exact DistrictCriteria.check_eq criteria
  | municipalities =>
    exact MunicipalityCriteria.check_eq criteria hnumbers.right
  | wards => exact WardCriteria.check_eq criteria hnumbers.right

/-- A request passes exactly if it breaks no rule.  Otherwise the fields that
its broken rules are charged to are reported, each with the message of the
first of them. -/
theorem validate_reports (criteria : entity.Criteria)
    (hnumbers : AreNumbers (numbers criteria)) :
    (validate criteria = .ok () ↔ ∀ rule ∈ rules criteria, ¬rule.Broken) ∧
      ∀ violations, validate criteria = .error violations →
        Reports (rules criteria) violations := by
  have hreports : Reports (rules criteria) (Criteria.violations criteria) := by
    rw [violations_eq criteria hnumbers]
    exact reports_recordAll (rules criteria)
  rw [validate, Violations.result, ← hreports.isEmpty_iff]
  split
  · next hempty => exact ⟨iff_of_true rfl hempty, nofun⟩
  · next hsome =>
    refine ⟨iff_of_false nofun hsome, ?_⟩
    rintro _ ⟨⟩
    exact hreports

/-- A search for families in which several rules are broken, some of them for
the same field. -/
def overlapping : Entity.Criteria .families :=
  FamilyCriteria.mk none ⟨some 0, some 5, some 3⟩ (some (-1)) none .empty none
    none ⟨some 95.0, none, some 0.0⟩ none ⟨some (-1), some 500, none, none⟩

theorem validate_reports_overlapping :
    AreNumbers (numbers overlapping) ∧
      ∃ violations, validate overlapping = .error violations ∧
        Reports (rules overlapping) violations ∧
        violations.fields = ["latitude", "longitude", "minMembers", "page",
          "pageSize", "radiusKm", "wardNumber", "wardNumberFrom"] ∧
        violations.message? "wardNumber" =
          some "wardNumber must be at least 1" := by
  have hnumbers : AreNumbers (numbers overlapping) := by
    intro number hnumber
    have hgiven : number = 95.0 ∨ number = 0.0 := by
      simpa [numbers, overlapping, LocationBlock.numbers] using hnumber
    rcases hgiven with rfl | rfl <;> decide
  refine ⟨hnumbers, Criteria.violations overlapping, ?_, ?_, ?_, ?_⟩
  · rfl
  · exact (validate_reports overlapping hnumbers).2 _ rfl
  · rfl
  · rfl

end Criteria

end CivicRegistry
