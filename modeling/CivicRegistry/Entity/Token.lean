import CivicRegistry.Entity.Basic

/-!
# Reading attribute tokens

A token names an attribute by its constant name in any case or by its wire name,
blanks around it not counting.  A list of tokens is resolved as a whole: one bad
token refuses the list, and an attribute named twice counts once.
-/

namespace CivicRegistry

/-- A token that names no attribute. -/
structure UnknownField where
  token : String
deriving DecidableEq

def UnknownField.message (error : UnknownField) : String :=
  "Unknown field: '" ++ error.token ++ "'"

/-- Why a token is no attribute to sort by. -/
inductive SortRefusal where
  | unknown (error : UnknownField)
  | notSortable (token : String)
deriving DecidableEq

def SortRefusal.message : SortRefusal → String
  | .unknown error => error.message
  | .notSortable token => "Field '" ++ token ++ "' is not sortable"

namespace Entity

/-- The attribute with this constant name. -/
def fieldNamed? (entity : Entity) (constant : String) : Option entity.Field :=
  entity.fields.find? fun field => (info field).constant == constant

/-- The attribute whose constant name the token is, in any case. -/
def constantField? (entity : Entity) (token : String) : Option entity.Field :=
  entity.fieldNamed? (Naming.canonicalToken token)

/-- The attribute that a token names. -/
def field? (entity : Entity) (token : String) : Option entity.Field :=
  (entity.constantField? token).or
    (entity.constantField? (Naming.constantName (Text.trim token)))

/-- The attribute that a token names, or the refusal of the token. -/
def readField (entity : Entity) (token : String) :
    Except UnknownField entity.Field :=
  match entity.field? token with
  | some field => .ok field
  | none => .error ⟨token⟩

/-- The attributes that a list of tokens names, each once and in the order of
first mention. -/
def resolve (entity : Entity) (tokens : List String) :
    Except UnknownField (List entity.Field) := do
  let fields ← tokens.mapM entity.readField
  return fields.eraseDups

/-- The attribute to sort by that a token names. -/
def readSortField (entity : Entity) (token : String) :
    Except SortRefusal entity.SortField :=
  match entity.field? token with
  | some field =>
    if h : field ∈ entity.sortFields then .ok ⟨field, h⟩
    else .error (.notSortable token)
  | none => .error (.unknown ⟨token⟩)

end Entity

end CivicRegistry
