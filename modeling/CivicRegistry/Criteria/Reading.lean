import CivicRegistry.Criteria.Basic
import CivicRegistry.Intake.Schema

/-!
# Reading requests

A request is read from an object.  The keys of the filters are read as they are
met.  Everything else is kept until the object has been read to its end; then
the keys of the blocks are read, block by block, and what is left over is
ignored.
-/

namespace CivicRegistry

/-- The keys of the filters, of all entities together. -/
inductive FilterKey where
  | searchTerm
  | roles
  | officePosts
  | houseOwnerships
  | types
  | isApproved
  | isActive
  | wardNumber
  | wardNumberFrom
  | wardNumberTo
  | minMembers
  | maxMembers
  | minWards
  | maxWards
  | provinceId
  | districtId
  | municipalityId
  | createdFrom
  | createdTo
  | fields
deriving DecidableEq

namespace FilterKey

def name : FilterKey → String
  | .searchTerm => "searchTerm"
  | .roles => "roles"
  | .officePosts => "officePosts"
  | .houseOwnerships => "houseOwnerships"
  | .types => "types"
  | .isApproved => "isApproved"
  | .isActive => "isActive"
  | .wardNumber => "wardNumber"
  | .wardNumberFrom => "wardNumberFrom"
  | .wardNumberTo => "wardNumberTo"
  | .minMembers => "minMembers"
  | .maxMembers => "maxMembers"
  | .minWards => "minWards"
  | .maxWards => "maxWards"
  | .provinceId => "provinceId"
  | .districtId => "districtId"
  | .municipalityId => "municipalityId"
  | .createdFrom => "createdFrom"
  | .createdTo => "createdTo"
  | .fields => "fields"

/-- What is read under a key. -/
@[reducible]
def Carrier (entity : Entity) : FilterKey → Type
  | .searchTerm => Option String
  | .roles => List Role
  | .officePosts => List OfficePost
  | .houseOwnerships => List HouseOwnership
  | .types => List MunicipalityType
  | .isApproved | .isActive => Option Bool
  | .wardNumber | .wardNumberFrom | .wardNumberTo => Option Int
  | .minMembers | .maxMembers | .minWards | .maxWards => Option Int
  | .provinceId | .districtId | .municipalityId => Option Uuid
  | .createdFrom | .createdTo => Option Calendar.Instant
  | .fields => Option (List entity.Field)

/-- A value that may be null. -/
def maybe {α : Type} (read : Reader Shape α) : Reader Json.Outline (Option α) :=
  Intake.optional (Intake.single read)

/-- The words of a vocabulary. -/
def words (α : Type) [Vocabulary α] : Reader Json.Outline (List α) :=
  Intake.items (Intake.wordOfOutline Vocabulary.ofWord?)

def read (entity : Entity) :
    (key : FilterKey) → Reader Json.Outline (Carrier entity key)
  | .searchTerm => maybe Shape.readText
  | .roles => words Role
  | .officePosts => words OfficePost
  | .houseOwnerships => words HouseOwnership
  | .types => words MunicipalityType
  | .isApproved => maybe Shape.readBoolean
  | .isActive => maybe Shape.readBoolean
  | .wardNumber => maybe Shape.readInt32
  | .wardNumberFrom => maybe Shape.readInt32
  | .wardNumberTo => maybe Shape.readInt32
  | .minMembers => maybe Shape.readInt32
  | .maxMembers => maybe Shape.readInt32
  | .minWards => maybe Shape.readInt32
  | .maxWards => maybe Shape.readInt32
  | .provinceId => maybe Shape.readUuid
  | .districtId => maybe Shape.readUuid
  | .municipalityId => maybe Shape.readUuid
  | .createdFrom => maybe Shape.readInstant
  | .createdTo => maybe Shape.readInstant
  | .fields =>
    Intake.optional (Intake.items (Intake.single (Shape.readField entity)))

/-- The keys of the filters of an entity. -/
def ofEntity : Entity → List FilterKey
  | .users =>
    [.searchTerm, .roles, .officePosts, .isApproved, .isActive, .wardNumber,
      .wardNumberFrom, .wardNumberTo, .createdFrom, .createdTo, .fields]
  | .families =>
    [.searchTerm, .wardNumber, .wardNumberFrom, .wardNumberTo, .minMembers,
      .maxMembers, .houseOwnerships, .createdFrom, .createdTo, .fields]
  | .provinces => [.searchTerm, .fields]
  | .districts => [.searchTerm, .provinceId, .fields]
  | .municipalities =>
    [.searchTerm, .districtId, .types, .minWards, .maxWards, .fields]
  | .wards =>
    [.searchTerm, .municipalityId, .wardNumber, .wardNumberFrom, .wardNumberTo,
      .fields]

/-- The filters of an entity. -/
@[reducible]
def schema (entity : Entity) : Schema Json.Outline FilterKey :=
  ⟨ofEntity entity, name, Carrier entity, read entity⟩

end FilterKey

/-- The keys of the block for the page. -/
inductive PagingKey where
  | page
  | pageSize
  | sortBy
  | sortDirection
deriving DecidableEq

namespace PagingKey

def name : PagingKey → String
  | .page => "page"
  | .pageSize => "pageSize"
  | .sortBy => "sortBy"
  | .sortDirection => "sortDirection"

@[reducible]
def Carrier (entity : Entity) : PagingKey → Type
  | .page => Option Int
  | .pageSize => Option Int
  | .sortBy => Option entity.SortField
  | .sortDirection => Option Direction

/-- A direction is written in upper or in lower case, but not in both. -/
def direction? (word : String) : Option Direction :=
  if word = "ASC" ∨ word = "asc" then some .ascending
  else if word = "DESC" ∨ word = "desc" then some .descending
  else none

def read (entity : Entity) :
    (key : PagingKey) → Reader Json (Carrier entity key)
  | .page => Intake.optionalShape Shape.readInt64
  | .pageSize => Intake.optionalShape Shape.readInt64
  | .sortBy => Intake.optionalShape (Shape.readSortField entity)
  | .sortDirection => fun
    | .null => .ok none
    | document => (Intake.wordOfDocument direction? document).map some

@[reducible]
def schema (entity : Entity) : Schema Json PagingKey :=
  ⟨[.page, .pageSize, .sortBy, .sortDirection], name, Carrier entity,
    read entity⟩

end PagingKey

/-- The keys of the block for a circle. -/
inductive LocationKey where
  | latitude
  | longitude
  | radiusKm
deriving DecidableEq

namespace LocationKey

def name : LocationKey → String
  | .latitude => "latitude"
  | .longitude => "longitude"
  | .radiusKm => "radiusKm"

@[reducible]
def schema : Schema Json LocationKey :=
  ⟨[.latitude, .longitude, .radiusKm], name, fun _ => Option Float,
    fun _ => Intake.optionalShape Shape.readFloat⟩

end LocationKey

/-- The keys of the block for area and population. -/
inductive SizeKey where
  | minArea
  | maxArea
  | minPopulation
  | maxPopulation
deriving DecidableEq

namespace SizeKey

def name : SizeKey → String
  | .minArea => "minArea"
  | .maxArea => "maxArea"
  | .minPopulation => "minPopulation"
  | .maxPopulation => "maxPopulation"

@[reducible]
def Carrier : SizeKey → Type
  | .minArea => Option Float
  | .maxArea => Option Float
  | .minPopulation => Option Int
  | .maxPopulation => Option Int

def read : (key : SizeKey) → Reader Json (Carrier key)
  | .minArea => Intake.optionalShape Shape.readFloat
  | .maxArea => Intake.optionalShape Shape.readFloat
  | .minPopulation => Intake.optionalShape Shape.readInt64
  | .maxPopulation => Intake.optionalShape Shape.readInt64

@[reducible]
def schema : Schema Json SizeKey :=
  ⟨[.minArea, .maxArea, .minPopulation, .maxPopulation], name, Carrier, read⟩

end SizeKey

namespace Criteria

/-- What stands under no key of a filter is kept for the blocks and has to be a
document. -/
def keptRefusal? (value : Json.Outline) : Option Refusal :=
  match value.document? (Json.depthLimit - 1) with
  | some _ => none
  | none => some .syntaxError

/-- The members that no filter has the key of. -/
def kept (entity : Entity) (members : Schema.Members Json.Outline) :
    Schema.Members Json :=
  members.filterMap fun (name, value) =>
    match name with
    | some name =>
      match (FilterKey.schema entity).keyOf? name with
      | some _ => none
      | none => (value.document? (Json.depthLimit - 1)).map (some name, ·)
    | none => none

/-- Keys that a block does not have are ignored by it. -/
def readBlock {Key : Type} [DecidableEq Key] (schema : Schema Json Key)
    (members : Schema.Members Json) : Except Refusal schema.Values :=
  schema.readMembers (fun _ => none) members

variable {entity : Entity}

def pagingOf (values : (PagingKey.schema entity).Values) : PagingBlock entity :=
  ⟨(values .page).join, (values .pageSize).join, (values .sortBy).join,
    (values .sortDirection).join⟩

def locationOf (values : LocationKey.schema.Values) : LocationBlock :=
  ⟨(values .latitude).join, (values .longitude).join, (values .radiusKm).join⟩

def sizeOf (values : SizeKey.schema.Values) : SizeBlock :=
  ⟨(values .minArea).join, (values .maxArea).join, (values .minPopulation).join,
    (values .maxPopulation).join⟩

def wardsOf (values : (FilterKey.schema entity).Values) : WardNumbers :=
  ⟨(values .wardNumber).join, (values .wardNumberFrom).join,
    (values .wardNumberTo).join⟩

def fieldsOf (values : (FilterKey.schema entity).Values) :
    Option (Selection entity.Field) :=
  (values .fields).join.map Selection.ofList

/-- The set of values under a key; a key that does not stand there gives the
empty set. -/
def selectionOf {α : Type} [Enumeration α] [DecidableEq α]
    (values : Option (List α)) : Selection α :=
  Selection.ofList (values.getD [])

/-- The request of an entity from its filters and the members kept for its
blocks. -/
def assemble :
    (entity : Entity) → (FilterKey.schema entity).Values →
      Schema.Members Json → Except Refusal entity.Criteria
  | .users, values, rest => do
    let paging ← readBlock (PagingKey.schema .users) rest
    return UserCriteria.mk (values .searchTerm).join
      (selectionOf (values .roles)) (selectionOf (values .officePosts))
      (values .isApproved).join (values .isActive).join (wardsOf values)
      (values .createdFrom).join (values .createdTo).join (fieldsOf values)
      (pagingOf paging)
  | .families, values, rest => do
    let location ← readBlock LocationKey.schema rest
    let paging ← readBlock (PagingKey.schema .families) rest
    return FamilyCriteria.mk (values .searchTerm).join (wardsOf values)
      (values .minMembers).join (values .maxMembers).join
      (selectionOf (values .houseOwnerships)) (values .createdFrom).join
      (values .createdTo).join (locationOf location) (fieldsOf values)
      (pagingOf paging)
  | .provinces, values, rest => do
    let size ← readBlock SizeKey.schema rest
    let paging ← readBlock (PagingKey.schema .provinces) rest
    return ProvinceCriteria.mk (values .searchTerm).join (sizeOf size)
      (fieldsOf values) (pagingOf paging)
  | .districts, values, rest => do
    let size ← readBlock SizeKey.schema rest
    let paging ← readBlock (PagingKey.schema .districts) rest
    return DistrictCriteria.mk (values .searchTerm).join
      (values .provinceId).join (sizeOf size) (fieldsOf values)
      (pagingOf paging)
  | .municipalities, values, rest => do
    let size ← readBlock SizeKey.schema rest
    let location ← readBlock LocationKey.schema rest
    let paging ← readBlock (PagingKey.schema .municipalities) rest
    return MunicipalityCriteria.mk (values .searchTerm).join
      (values .districtId).join (selectionOf (values .types))
      (values .minWards).join (values .maxWards).join (sizeOf size)
      (locationOf location) (fieldsOf values) (pagingOf paging)
  | .wards, values, rest => do
    let size ← readBlock SizeKey.schema rest
    let location ← readBlock LocationKey.schema rest
    let paging ← readBlock (PagingKey.schema .wards) rest
    return WardCriteria.mk (values .searchTerm).join
      (values .municipalityId).join (wardsOf values) (sizeOf size)
      (locationOf location) (fieldsOf values) (pagingOf paging)

/-- Reads a request for an entity. -/
def ofOutline (entity : Entity) (outline : Json.Outline) :
    Except Refusal entity.Criteria := do
  let values ← (FilterKey.schema entity).readObject keptRefusal? outline
  match outline with
  | .object members _ =>
    assemble entity values (kept entity (Schema.decodedMembers members))
  | _ => .error .syntaxError

/-- Reads a request from the start of an input; what follows the first document
is ignored. -/
def ofInput (entity : Entity) (input : List Text.Symbol) :
    Except Refusal entity.Criteria :=
  ofOutline entity (Json.outline input)

end Criteria

end CivicRegistry
