import CivicRegistry.Criteria.Administration
import CivicRegistry.Criteria.People
import CivicRegistry.Projection

/-!
# Requests

A request for an entity is what a client asks for: filters, a page, an order and
the attributes to answer.  It is checked as a whole; from a request that passes
come the specification of the rows, the page request and the attributes that are
answered.
-/

namespace CivicRegistry

/-- The requests for each entity. -/
@[reducible]
def Entity.Criteria : Entity → Type
  | .users => UserCriteria
  | .families => FamilyCriteria
  | .provinces => ProvinceCriteria
  | .districts => DistrictCriteria
  | .municipalities => MunicipalityCriteria
  | .wards => WardCriteria

namespace Criteria

/-- The block for the page and the order. -/
def paging : {entity : Entity} → entity.Criteria → PagingBlock entity
  | .users, criteria => UserCriteria.paging criteria
  | .families, criteria => FamilyCriteria.paging criteria
  | .provinces, criteria => ProvinceCriteria.paging criteria
  | .districts, criteria => DistrictCriteria.paging criteria
  | .municipalities, criteria => MunicipalityCriteria.paging criteria
  | .wards, criteria => WardCriteria.paging criteria

/-- The attributes that are asked for. -/
def fields :
    {entity : Entity} → entity.Criteria → Option (Selection entity.Field)
  | .users, criteria => UserCriteria.fields criteria
  | .families, criteria => FamilyCriteria.fields criteria
  | .provinces, criteria => ProvinceCriteria.fields criteria
  | .districts, criteria => DistrictCriteria.fields criteria
  | .municipalities, criteria => MunicipalityCriteria.fields criteria
  | .wards, criteria => WardCriteria.fields criteria

/-- The checks of the filters. -/
def check : {entity : Entity} → entity.Criteria → Violations → Violations
  | .users, criteria => UserCriteria.check criteria
  | .families, criteria => FamilyCriteria.check criteria
  | .provinces, criteria => ProvinceCriteria.check criteria
  | .districts, criteria => DistrictCriteria.check criteria
  | .municipalities, criteria => MunicipalityCriteria.check criteria
  | .wards, criteria => WardCriteria.check criteria

/-- The filters in their order, those that are not given included. -/
def parts :
    {entity : Entity} → entity.Criteria → List (Specification entity.Field)
  | .users, criteria => UserCriteria.parts criteria
  | .families, criteria => FamilyCriteria.parts criteria
  | .provinces, criteria => ProvinceCriteria.parts criteria
  | .districts, criteria => DistrictCriteria.parts criteria
  | .municipalities, criteria => MunicipalityCriteria.parts criteria
  | .wards, criteria => WardCriteria.parts criteria

variable {entity : Entity}

/-- Everything that is wrong with a request. -/
def violations (criteria : entity.Criteria) : Violations :=
  check criteria ((paging criteria).check .empty)

/-- Accepts a request or gives all that is wrong with it. -/
def validate (criteria : entity.Criteria) : Except Violations Unit :=
  (violations criteria).result

/-- The rows that a request asks for. -/
def specification (criteria : entity.Criteria) : Specification entity.Field :=
  .allOf (parts criteria)

/-- The page that a request asks for. -/
def pageRequest (criteria : entity.Criteria) (defaultSize : Nat) :
    PageRequest entity.Field :=
  (paging criteria).request defaultSize

/-- The attributes that are answered: those asked for, or the default ones where
none are. -/
def selectedFields (criteria : entity.Criteria) : List entity.Field :=
  match fields criteria with
  | some selection =>
    if selection.isEmpty then entity.defaultFields else selection.members
  | none => entity.defaultFields

end Criteria

end CivicRegistry
