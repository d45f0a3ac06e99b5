import CivicRegistry.Entity.Attribute

/-!
# The attributes of each entity

One enumeration for each of the six entities, in the order in which the
attributes are listed, and the description of each attribute.
-/

namespace CivicRegistry

/-- What is recorded of a user. -/
inductive UserField where
  | id
  | email
  | fullName
  | fullNameNepali
  | phoneNumber
  | roles
  | officePost
  | wardNumber
  | isApproved
  | approvedBy
  | approvedAt
  | isActive
  | profilePicture
  | createdAt
  | updatedAt
deriving DecidableEq

namespace UserField

def all : List UserField :=
  [.id, .email, .fullName, .fullNameNepali, .phoneNumber, .roles, .officePost,
    .wardNumber, .isApproved, .approvedBy, .approvedAt, .isActive,
    .profilePicture, .createdAt, .updatedAt]

def info : UserField → Attribute
  | .id => .required .uuid "ID" "id"
  | .email => .required .text "EMAIL" "email"
  | .fullName => .required .text "FULL_NAME" "full_name"
  | .fullNameNepali => .maybe .text "FULL_NAME_NEPALI" "full_name_nepali"
  | .phoneNumber => .maybe .text "PHONE_NUMBER" "phone_number"
  | .roles => .elements .roles "roles" "ROLES" "roles"
  | .officePost => .maybe .officePost "OFFICE_POST" "office_post"
  | .wardNumber => .maybe .int32 "WARD_NUMBER" "ward_number"
  | .isApproved => .required .boolean "IS_APPROVED" "is_approved"
  | .approvedBy => .maybe .uuid "APPROVED_BY" "approved_by"
  | .approvedAt => .maybe .instant "APPROVED_AT" "approved_at"
  | .isActive => .required .boolean "IS_ACTIVE" "is_active"
  | .profilePicture => .maybe .text "PROFILE_PICTURE" "profile_picture"
  | .createdAt => .required .instant "CREATED_AT" "created_at"
  | .updatedAt => .required .instant "UPDATED_AT" "updated_at"

instance : Enumeration UserField where
  all := all
  mem_all field := by cases field <;> decide

end UserField

/-- What is recorded of a family. -/
inductive FamilyField where
  | id
  | headOfFamily
  | headOfFamilyNepali
  | contactNumber
  | wardNumber
  | tole
  | totalMembers
  | houseOwnership
  | latitude
  | longitude
  | photoUrl
  | createdBy
  | createdAt
  | updatedAt
deriving DecidableEq

namespace FamilyField

def all : List FamilyField :=
  [.id, .headOfFamily, .headOfFamilyNepali, .contactNumber, .wardNumber, .tole,
    .totalMembers, .houseOwnership, .latitude, .longitude, .photoUrl,
    .createdBy, .createdAt, .updatedAt]

def info : FamilyField → Attribute
  | .id => .required .uuid "ID" "id"
  | .headOfFamily => .required .text "HEAD_OF_FAMILY" "head_of_family"
  | .headOfFamilyNepali =>
    .maybe .text "HEAD_OF_FAMILY_NEPALI" "head_of_family_nepali"
  | .contactNumber => .maybe .text "CONTACT_NUMBER" "contact_number"
  | .wardNumber => .required .int32 "WARD_NUMBER" "ward_number"
  | .tole => .maybe .text "TOLE" "tole"
  | .totalMembers => .required .int32 "TOTAL_MEMBERS" "total_members"
  | .houseOwnership =>
    .required .houseOwnership "HOUSE_OWNERSHIP" "house_ownership"
  | .latitude => .maybe .float "LATITUDE" "latitude"
  | .longitude => .maybe .float "LONGITUDE" "longitude"
  | .photoUrl => .maybe .text "PHOTO_URL" "photo_url"
  | .createdBy => .maybe .uuid "CREATED_BY" "created_by"
  | .createdAt => .required .instant "CREATED_AT" "created_at"
  | .updatedAt => .required .instant "UPDATED_AT" "updated_at"

instance : Enumeration FamilyField where
  all := all
  mem_all field := by cases field <;> decide

end FamilyField

/-- What is recorded of a province. -/
inductive ProvinceField where
  | id
  | name
  | nameNepali
  | areaSqKm
  | population
  | headquarter
  | headquarterNepali
  | districtCount
  | createdAt
  | updatedAt
deriving DecidableEq

namespace ProvinceField

def all : List ProvinceField :=
  [.id, .name, .nameNepali, .areaSqKm, .population, .headquarter,
    .headquarterNepali, .districtCount, .createdAt, .updatedAt]

def info : ProvinceField → Attribute
  | .id => .required .uuid "ID" "id"
  | .name => .required .text "NAME" "name"
  | .nameNepali => .maybe .text "NAME_NEPALI" "name_nepali"
  | .areaSqKm => .maybe .float "AREA_SQ_KM" "area_sq_km"
  | .population => .maybe .int64 "POPULATION" "population"
  | .headquarter => .maybe .text "HEADQUARTER" "headquarter"
  | .headquarterNepali => .maybe .text "HEADQUARTER_NEPALI" "headquarter_nepali"
  | .districtCount => .size "districts" "DISTRICT_COUNT" "district_count"
  | .createdAt => .required .instant "CREATED_AT" "created_at"
  | .updatedAt => .required .instant "UPDATED_AT" "updated_at"

instance : Enumeration ProvinceField where
  all := all
  mem_all field := by cases field <;> decide

end ProvinceField

/-- What is recorded of a district. -/
inductive DistrictField where
  | id
  | provinceId
  | name
  | nameNepali
  | areaSqKm
  | population
  | headquarter
  | headquarterNepali
  | municipalityCount
  | createdAt
  | updatedAt
deriving DecidableEq

namespace DistrictField

def all : List DistrictField :=
  [.id, .provinceId, .name, .nameNepali, .areaSqKm, .population, .headquarter,
    .headquarterNepali, .municipalityCount, .createdAt, .updatedAt]

def info : DistrictField → Attribute
  | .id => .required .uuid "ID" "id"
  | .provinceId => .required .uuid "PROVINCE_ID" "province_id"
  | .name => .required .text "NAME" "name"
  | .nameNepali => .maybe .text "NAME_NEPALI" "name_nepali"
  | .areaSqKm => .maybe .float "AREA_SQ_KM" "area_sq_km"
  | .population => .maybe .int64 "POPULATION" "population"
  | .headquarter => .maybe .text "HEADQUARTER" "headquarter"
  | .headquarterNepali => .maybe .text "HEADQUARTER_NEPALI" "headquarter_nepali"
  | .municipalityCount =>
    .size "municipalities" "MUNICIPALITY_COUNT" "municipality_count"
  | .createdAt => .required .instant "CREATED_AT" "created_at"
  | .updatedAt => .required .instant "UPDATED_AT" "updated_at"

instance : Enumeration DistrictField where
  all := all
  mem_all field := by cases field <;> decide

end DistrictField

/-- What is recorded of a municipality. -/
inductive MunicipalityField where
  | id
  | districtId
  | name
  | nameNepali
  | type
  | areaSqKm
  | population
  | latitude
  | longitude
  | officeAddress
  | website
  | totalWards
  | wardCount
  | createdAt
  | updatedAt
deriving DecidableEq

namespace MunicipalityField

def all : List MunicipalityField :=
  [.id, .districtId, .name, .nameNepali, .type, .areaSqKm, .population,
    .latitude, .longitude, .officeAddress, .website, .totalWards, .wardCount,
    .createdAt, .updatedAt]

def info : MunicipalityField → Attribute
  | .id => .required .uuid "ID" "id"
  | .districtId => .required .uuid "DISTRICT_ID" "district_id"
  | .name => .required .text "NAME" "name"
  | .nameNepali => .maybe .text "NAME_NEPALI" "name_nepali"
  | .type => .required .municipalityType "TYPE" "municipality_type"
  | .areaSqKm => .maybe .float "AREA_SQ_KM" "area_sq_km"
  | .population => .maybe .int64 "POPULATION" "population"
  | .latitude => .maybe .float "LATITUDE" "latitude"
  | .longitude => .maybe .float "LONGITUDE" "longitude"
  | .officeAddress => .maybe .text "OFFICE_ADDRESS" "office_address"
  | .website => .maybe .text "WEBSITE" "website"
  | .totalWards => .required .int32 "TOTAL_WARDS" "total_wards"
  | .wardCount => .size "wards" "WARD_COUNT" "ward_count"
  | .createdAt => .required .instant "CREATED_AT" "created_at"
  | .updatedAt => .required .instant "UPDATED_AT" "updated_at"

instance : Enumeration MunicipalityField where
  all := all
  mem_all field := by cases field <;> decide

end MunicipalityField

/-- What is recorded of a ward. -/
inductive WardField where
  | id
  | municipalityId
  | wardNumber
  | areaSqKm
  | population
  | latitude
  | longitude
  | officeAddress
  | contactNumber
  | createdAt
  | updatedAt
deriving DecidableEq

namespace WardField

def all : List WardField :=
  [.id, .municipalityId, .wardNumber, .areaSqKm, .population, .latitude,
    .longitude, .officeAddress, .contactNumber, .createdAt, .updatedAt]

def info : WardField → Attribute
  | .id => .required .uuid "ID" "id"
  | .municipalityId => .required .uuid "MUNICIPALITY_ID" "municipality_id"
  | .wardNumber => .required .int32 "WARD_NUMBER" "ward_number"
  | .areaSqKm => .maybe .float "AREA_SQ_KM" "area_sq_km"
  | .population => .maybe .int64 "POPULATION" "population"
  | .latitude => .maybe .float "LATITUDE" "latitude"
  | .longitude => .maybe .float "LONGITUDE" "longitude"
  | .officeAddress => .maybe .text "OFFICE_ADDRESS" "office_address"
  | .contactNumber => .maybe .text "CONTACT_NUMBER" "contact_number"
  | .createdAt => .required .instant "CREATED_AT" "created_at"
  | .updatedAt => .required .instant "UPDATED_AT" "updated_at"

instance : Enumeration WardField where
  all := all
  mem_all field := by cases field <;> decide

end WardField

end CivicRegistry
