import CivicRegistry.Entity.Basic

/-!
# Rows

A row of an entity holds a value for each attribute that must be there and may
hold one for each of the others.
-/

namespace CivicRegistry

/-- What is recorded of one instance of an entity. -/
abbrev Row (entity : Entity) : Type :=
  (field : entity.Field) → (Entity.info field).Carrier

namespace Attribute

/-- The value that a row holds for the attribute, if any. -/
def value? (a : Attribute) : a.Carrier → Option Value :=
  match a with
  | ⟨_, _, kind, true, _⟩ => fun held => held.map kind.toValue
  | ⟨_, _, kind, false, _⟩ => fun held => some (kind.toValue held)

end Attribute

namespace Row

variable {entity : Entity}

/-- The value of an attribute; nothing where it is absent. -/
def get (row : Row entity) (field : entity.Field) : Option Value :=
  (Entity.info field).value? (row field)

/-- The identifier of a row. -/
def id : {entity : Entity} → Row entity → Uuid
  | .users, row => row .id
  | .families, row => row .id
  | .provinces, row => row .id
  | .districts, row => row .id
  | .municipalities, row => row .id
  | .wards, row => row .id

/-- The document of a whole row: every attribute in order, null where it is
absent. -/
def json (row : Row entity) : Json :=
  .object (entity.fields.map fun field =>
    ((Entity.info field).member, Json.ofOption Value.json (row.get field)))

/-- The identifier of a row is the value of its identifying attribute. -/
theorem get_idField (row : Row entity) :
    row.get entity.idField = some (.uuid row.id) := by
  cases entity <;> rfl

end Row

end CivicRegistry
