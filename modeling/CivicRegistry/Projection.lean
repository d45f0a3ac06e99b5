import CivicRegistry.Entity.Row
import CivicRegistry.Entity.Token

/-!
# Projections

The projection of a row on some attributes lists the values that are present,
each under the wire name of its attribute and once, in the order in which the
attributes are first mentioned.
-/

namespace CivicRegistry

/-- Values under the wire names of their attributes. -/
abbrev Projection := List (String × Value)

namespace Projection

variable {entity : Entity}

/-- The value under a wire name. -/
def get? (projection : Projection) (name : String) : Option Value :=
  projection.lookup name

def keys (projection : Projection) : List String :=
  projection.map (·.1)

/-- The projection with the value of one more attribute, unless its wire name is
there already or the row lacks it. -/
def extend (row : Row entity) (projection : Projection) (field : entity.Field) :
    Projection :=
  let name := (Entity.info field).wire
  if projection.keys.contains name then projection
  else
    match row.get field with
    | some value => projection ++ [(name, value)]
    | none => projection

/-- The values of the given attributes of a row. -/
def ofRow (row : Row entity) (fields : List entity.Field) : Projection :=
  fields.foldl (extend row) []

/-- The values of the attributes that some tokens name; the tokens are resolved
before the row is looked at. -/
def ofTokens (row : Row entity) (tokens : List String) :
    Except UnknownField Projection := do
  let fields ← entity.resolve tokens
  return ofRow row fields

def json (projection : Projection) : Json :=
  .object (projection.map fun (name, value) => (name, value.json))

end Projection

end CivicRegistry
