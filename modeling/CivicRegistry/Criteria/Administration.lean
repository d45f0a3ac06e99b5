import CivicRegistry.Criteria.Blocks
import CivicRegistry.Criteria.Selection
import CivicRegistry.Criteria.WardNumbers

/-!
# Requests for the levels of administration

The filters of the requests for provinces, districts, municipalities and wards,
what is checked of them, and the specification they amount to.
-/

namespace CivicRegistry

/-- A search for provinces.  The term is looked for in both names and the
headquarter. -/
structure ProvinceCriteria where
  searchTerm : Option String
  size : SizeBlock
  fields : Option (Selection ProvinceField)
  paging : PagingBlock .provinces

namespace ProvinceCriteria

def check (criteria : ProvinceCriteria) (violations : Violations) :
    Violations :=
  criteria.size.check (checkSearchTerm criteria.searchTerm violations)

/-- The filters in their order, those that are not given included. -/
def parts (criteria : ProvinceCriteria) : List (Specification ProvinceField) :=
  [.searching criteria.searchTerm [.name, .nameNepali, .headquarter],
    .between .areaSqKm (criteria.size.minArea.map .float)
      (criteria.size.maxArea.map .float),
    .between .population (criteria.size.minPopulation.map .integer)
      (criteria.size.maxPopulation.map .integer)]

end ProvinceCriteria

/-- A search for districts.  The term is looked for in both names and the
headquarter. -/
structure DistrictCriteria where
  searchTerm : Option String
  provinceId : Option Uuid
  size : SizeBlock
  fields : Option (Selection DistrictField)
  paging : PagingBlock .districts

namespace DistrictCriteria

def check (criteria : DistrictCriteria) (violations : Violations) :
    Violations :=
  criteria.size.check (checkSearchTerm criteria.searchTerm violations)

/-- The filters in their order, those that are not given included. -/
def parts (criteria : DistrictCriteria) : List (Specification DistrictField) :=
  [.searching criteria.searchTerm [.name, .nameNepali, .headquarter],
    .equalTo .provinceId (criteria.provinceId.map .uuid),
    .between .areaSqKm (criteria.size.minArea.map .float)
      (criteria.size.maxArea.map .float),
    .between .population (criteria.size.minPopulation.map .integer)
      (criteria.size.maxPopulation.map .integer)]

end DistrictCriteria

/-- A search for municipalities.  The term is looked for in both names. -/
structure MunicipalityCriteria where
  searchTerm : Option String
  districtId : Option Uuid
  types : Selection MunicipalityType
  minWards : Option Int
  maxWards : Option Int
  size : SizeBlock
  location : LocationBlock
  fields : Option (Selection MunicipalityField)
  paging : PagingBlock .municipalities

namespace MunicipalityCriteria

def check (criteria : MunicipalityCriteria) (violations : Violations) :
    Violations :=
  let violations := checkSearchTerm criteria.searchTerm violations
  let violations := violations.atLeast "minWards" criteria.minWards 1
  let violations := violations.atLeast "maxWards" criteria.maxWards 1
  let violations :=
    violations.range "minWards" criteria.minWards "maxWards" criteria.maxWards
  criteria.location.check (criteria.size.check violations)

/-- The filters in their order, those that are not given included. -/
def parts (criteria : MunicipalityCriteria) :
    List (Specification MunicipalityField) :=
  [.searching criteria.searchTerm [.name, .nameNepali],
    .equalTo .districtId (criteria.districtId.map .uuid),
    .memberOf .type (wordValues criteria.types.members),
    .between .totalWards (criteria.minWards.map .integer)
      (criteria.maxWards.map .integer),
    .between .areaSqKm (criteria.size.minArea.map .float)
      (criteria.size.maxArea.map .float),
    .between .population (criteria.size.minPopulation.map .integer)
      (criteria.size.maxPopulation.map .integer),
    .within .latitude .longitude criteria.location.circle?]

end MunicipalityCriteria

/-- A search for wards.  The term is looked for in the address of the office. -/
structure WardCriteria where
  searchTerm : Option String
  municipalityId : Option Uuid
  wards : WardNumbers
  size : SizeBlock
  location : LocationBlock
  fields : Option (Selection WardField)
  paging : PagingBlock .wards

namespace WardCriteria

def check (criteria : WardCriteria) (violations : Violations) : Violations :=
  let violations :=
    criteria.wards.check (checkSearchTerm criteria.searchTerm violations)
  criteria.location.check (criteria.size.check violations)

/-- The filters in their order, those that are not given included. -/
def parts (criteria : WardCriteria) : List (Specification WardField) :=
  [.searching criteria.searchTerm [.officeAddress],
    .equalTo .municipalityId (criteria.municipalityId.map .uuid)] ++
  criteria.wards.specifications .wardNumber ++
  [.between .areaSqKm (criteria.size.minArea.map .float)
      (criteria.size.maxArea.map .float),
    .between .population (criteria.size.minPopulation.map .integer)
      (criteria.size.maxPopulation.map .integer),
    .within .latitude .longitude criteria.location.circle?]

end WardCriteria

end CivicRegistry
