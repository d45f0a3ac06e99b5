import CivicRegistry.Entity.Field

/-!
# Entities

The register holds six entities: users, families and the four levels of
administration.  Each has its own attributes; an entity is a value, so that what
holds of every entity can be said once.
-/

namespace CivicRegistry

inductive Entity where
  | users
  | families
  | provinces
  | districts
  | municipalities
  | wards
deriving DecidableEq

/-- A to-many association of an entity: rows of `table` refer to it by
`foreignKey`.  A collection of plain values has the column of the value; of any
other collection only the size can be addressed. -/
structure Collection where
  name : String
  table : String
  foreignKey : String
  valueColumn : Option String
deriving DecidableEq

namespace Entity

def all : List Entity :=
  [.users, .families, .provinces, .districts, .municipalities, .wards]

/-- The name of the entity: its table in the store and its segment of a
route. -/
def name : Entity → String
  | .users => "users"
  | .families => "families"
  | .provinces => "provinces"
  | .districts => "districts"
  | .municipalities => "municipalities"
  | .wards => "wards"

/-- The attributes of an entity. -/
@[reducible]
def Field : Entity → Type
  | .users => UserField
  | .families => FamilyField
  | .provinces => ProvinceField
  | .districts => DistrictField
  | .municipalities => MunicipalityField
  | .wards => WardField

instance : (entity : Entity) → DecidableEq entity.Field
  | .users => inferInstanceAs (DecidableEq UserField)
  | .families => inferInstanceAs (DecidableEq FamilyField)
  | .provinces => inferInstanceAs (DecidableEq ProvinceField)
  | .districts => inferInstanceAs (DecidableEq DistrictField)
  | .municipalities => inferInstanceAs (DecidableEq MunicipalityField)
  | .wards => inferInstanceAs (DecidableEq WardField)

instance : (entity : Entity) → Enumeration entity.Field
  | .users => inferInstanceAs (Enumeration UserField)
  | .families => inferInstanceAs (Enumeration FamilyField)
  | .provinces => inferInstanceAs (Enumeration ProvinceField)
  | .districts => inferInstanceAs (Enumeration DistrictField)
  | .municipalities => inferInstanceAs (Enumeration MunicipalityField)
  | .wards => inferInstanceAs (Enumeration WardField)

/-- The attributes in the order in which they are listed. -/
def fields (entity : Entity) : List entity.Field :=
  Enumeration.all

/-- The description of an attribute. -/
def info : {entity : Entity} → entity.Field → Attribute
  | .users, field => UserField.info field
  | .families, field => FamilyField.info field
  | .provinces, field => ProvinceField.info field
  | .districts, field => DistrictField.info field
  | .municipalities, field => MunicipalityField.info field
  | .wards, field => WardField.info field

/-- The attribute that identifies a row. -/
def idField : (entity : Entity) → entity.Field
  | .users => .id
  | .families => .id
  | .provinces => .id
  | .districts => .id
  | .municipalities => .id
  | .wards => .id

/-- The attributes that are answered when none are asked for. -/
def defaultFields : (entity : Entity) → List entity.Field
  | .users =>
    [.id, .email, .fullName, .roles, .officePost, .wardNumber, .isApproved]
  | .families =>
    [.id, .headOfFamily, .wardNumber, .tole, .totalMembers, .houseOwnership]
  | .provinces => [.id, .name, .nameNepali, .headquarter, .districtCount]
  | .districts =>
    [.id, .provinceId, .name, .nameNepali, .headquarter, .municipalityCount]
  | .municipalities =>
    [.id, .districtId, .name, .nameNepali, .type, .totalWards]
  | .wards => [.id, .municipalityId, .wardNumber, .population, .officeAddress]

/-- The attributes of a short listing. -/
def summaryFields : (entity : Entity) → List entity.Field
  | .users => [.id, .fullName, .email]
  | .families => [.id, .headOfFamily, .wardNumber]
  | .provinces => [.id, .name]
  | .districts => [.id, .name]
  | .municipalities => [.id, .name, .type]
  | .wards => [.id, .wardNumber]

/-- The attributes that say who changed a row and when. -/
def auditFields : (entity : Entity) → List entity.Field
  | .users => [.createdAt, .updatedAt, .approvedBy, .approvedAt]
  | .families => [.createdBy, .createdAt, .updatedAt]
  | .provinces => [.createdAt, .updatedAt]
  | .districts => [.createdAt, .updatedAt]
  | .municipalities => [.createdAt, .updatedAt]
  | .wards => [.createdAt, .updatedAt]

/-- The attributes that rows can be sorted by. -/
def sortFields : (entity : Entity) → List entity.Field
  | .users => [.fullName, .email, .wardNumber, .createdAt, .approvedAt]
  | .families =>
    [.headOfFamily, .wardNumber, .totalMembers, .createdAt, .updatedAt]
  | .provinces => [.name, .areaSqKm, .population, .districtCount, .createdAt]
  | .districts =>
    [.name, .areaSqKm, .population, .municipalityCount, .createdAt]
  | .municipalities =>
    [.name, .type, .areaSqKm, .population, .totalWards, .wardCount, .createdAt]
  | .wards => [.wardNumber, .population, .areaSqKm, .createdAt]

/-- An attribute that rows can be sorted by. -/
abbrev SortField (entity : Entity) : Type :=
  { field : entity.Field // field ∈ entity.sortFields }

/-- The attribute that rows are sorted by when none is asked for. -/
def defaultSort : (entity : Entity) → entity.SortField
  | .users => ⟨.createdAt, by decide⟩
  | .families => ⟨.createdAt, by decide⟩
  | .provinces => ⟨.name, by decide⟩
  | .districts => ⟨.name, by decide⟩
  | .municipalities => ⟨.name, by decide⟩
  | .wards => ⟨.wardNumber, by decide⟩

def collections : Entity → List Collection
  | .users => [⟨"roles", "user_roles", "user_id", some "role"⟩]
  | .provinces => [⟨"districts", "districts", "province_id", none⟩]
  | .districts => [⟨"municipalities", "municipalities", "district_id", none⟩]
  | .municipalities => [⟨"wards", "wards", "municipality_id", none⟩]
  | .families => []
  | .wards => []

def collection? (entity : Entity) (name : String) : Option Collection :=
  entity.collections.find? (·.name == name)

end Entity

end CivicRegistry
