/-!
# Data documents

A document is null, a truth value, a number, a text, a list of documents or a
list of named documents.  Members keep their order and may repeat a name;
integers and other numbers are kept apart.
-/

namespace CivicRegistry

inductive Json where
  | null
  | boolean (value : Bool)
  | integer (value : Int)
  | float (value : Float)
  | text (value : String)
  | array (items : List Json)
  | object (members : List (String × Json))
deriving Inhabited

namespace Json

/-- A document for a value that may be absent. -/
def ofOption {α : Type} (encode : α → Json) : Option α → Json
  | some value => encode value
  | none => .null

/-- A list of texts. -/
def texts (values : List String) : Json :=
  .array (values.map .text)

/-- The first member with the given name. -/
def member? (name : String) : Json → Option Json
  | .object members => members.lookup name
  | _ => none

end Json

end CivicRegistry
