import CivicRegistry.Criteria.Blocks
import CivicRegistry.Criteria.Selection
import CivicRegistry.Criteria.WardNumbers

/-!
# Requests for users and families

The filters of each request, what is checked of them, and the specification they
amount to.
-/

namespace CivicRegistry

open Calendar (Instant)

/-- A search for users.  The term is looked for in both names and the e-mail
address. -/
structure UserCriteria where
  searchTerm : Option String
  roles : Selection Role
  officePosts : Selection OfficePost
  isApproved : Option Bool
  isActive : Option Bool
  wards : WardNumbers
  createdFrom : Option Instant
  createdTo : Option Instant
  fields : Option (Selection UserField)
  paging : PagingBlock .users

namespace UserCriteria

def check (criteria : UserCriteria) (violations : Violations) : Violations :=
  let violations := checkSearchTerm criteria.searchTerm violations
  let violations := criteria.wards.check violations
  violations.range "createdFrom" criteria.createdFrom "createdTo"
    criteria.createdTo

def searchable : List UserField := [.fullName, .fullNameNepali, .email]

/-- The filters in their order, those that are not given included. -/
def parts (criteria : UserCriteria) : List (Specification UserField) :=
  [.searching criteria.searchTerm searchable,
    .elementOf .roles (wordValues criteria.roles.members),
    .memberOf .officePost (wordValues criteria.officePosts.members),
    .equalTo .isApproved (criteria.isApproved.map .boolean),
    .equalTo .isActive (criteria.isActive.map .boolean)] ++
  criteria.wards.specifications .wardNumber ++
  [.between .createdAt (criteria.createdFrom.map .instant)
      (criteria.createdTo.map .instant)]

end UserCriteria

/-- A search for families.  The term is looked for in both names of the head,
the tole and the contact number. -/
structure FamilyCriteria where
  searchTerm : Option String
  wards : WardNumbers
  minMembers : Option Int
  maxMembers : Option Int
  houseOwnerships : Selection HouseOwnership
  createdFrom : Option Instant
  createdTo : Option Instant
  location : LocationBlock
  fields : Option (Selection FamilyField)
  paging : PagingBlock .families

namespace FamilyCriteria

def check (criteria : FamilyCriteria) (violations : Violations) : Violations :=
  let violations := checkSearchTerm criteria.searchTerm violations
  let violations := criteria.wards.check violations
  let violations := violations.atLeast "minMembers" criteria.minMembers 0
  let violations := violations.atLeast "maxMembers" criteria.maxMembers 0
  let violations :=
    violations.range "minMembers" criteria.minMembers "maxMembers"
      criteria.maxMembers
  let violations :=
    violations.range "createdFrom" criteria.createdFrom "createdTo"
      criteria.createdTo
  criteria.location.check violations

def searchable : List FamilyField :=
  [.headOfFamily, .headOfFamilyNepali, .tole, .contactNumber]

/-- The filters in their order, those that are not given included. -/
def parts (criteria : FamilyCriteria) : List (Specification FamilyField) :=
  [.searching criteria.searchTerm searchable] ++
  criteria.wards.specifications .wardNumber ++
  [.between .totalMembers (criteria.minMembers.map .integer)
      (criteria.maxMembers.map .integer),
    .memberOf .houseOwnership (wordValues criteria.houseOwnerships.members),
    .between .createdAt (criteria.createdFrom.map .instant)
      (criteria.createdTo.map .instant),
    .within .latitude .longitude criteria.location.circle?]

end FamilyCriteria

end CivicRegistry
