import CivicRegistry.Entity.Vocabulary
import CivicRegistry.Value

/-!
# Attributes

An attribute of an entity has a constant name, a column it is stored in or read
from, a kind of values, and may be absent or not.  Most attributes are columns
of the entity's own table; some are derived from a collection, either its size
or its elements.
-/

namespace CivicRegistry

/-- What the values of an attribute are. -/
inductive Kind where
  | text
  | uuid
  | instant
  | int32
  | int64
  | float
  | boolean
  | roles
  | officePost
  | houseOwnership
  | municipalityType
deriving DecidableEq

namespace Kind

/-- The type of the values of a kind. -/
@[reducible]
def Carrier : Kind → Type
  | .text => String
  | .uuid => Uuid
  | .instant => Calendar.Instant
  | .int32 => Int
  | .int64 => Int
  | .float => Float
  | .boolean => Bool
  | .roles => List Role
  | .officePost => OfficePost
  | .houseOwnership => HouseOwnership
  | .municipalityType => MunicipalityType

/-- The attribute value of a value of the kind; a word of a vocabulary is a
text. -/
def toValue : (kind : Kind) → kind.Carrier → Value
  | .text, value => .text value
  | .uuid, value => .uuid value
  | .instant, value => .instant value
  | .int32, value => .integer value
  | .int64, value => .integer value
  | .float, value => .float value
  | .boolean, value => .boolean value
  | .roles, values =>
    .list (values.map fun role => .text (Vocabulary.word role))
  | .officePost, value => .text (Vocabulary.word value)
  | .houseOwnership, value => .text (Vocabulary.word value)
  | .municipalityType, value => .text (Vocabulary.word value)

end Kind

/-- Where an attribute comes from: its own column, or a collection of the given
name. -/
inductive Origin where
  | own
  | sizeOf (collection : String)
  | elementsOf (collection : String)
deriving DecidableEq

structure Attribute where
  constant : String
  column : String
  kind : Kind
  optional : Bool
  origin : Origin
deriving DecidableEq

namespace Attribute

/-- An attribute that every row has. -/
def required (kind : Kind) (constant column : String) : Attribute :=
  ⟨constant, column, kind, false, .own⟩

/-- An attribute that a row may lack. -/
def maybe (kind : Kind) (constant column : String) : Attribute :=
  ⟨constant, column, kind, true, .own⟩

/-- The number of rows of a collection. -/
def size (collection constant column : String) : Attribute :=
  ⟨constant, column, .int64, false, .sizeOf collection⟩

/-- The elements of a collection. -/
def elements (kind : Kind) (collection constant column : String) : Attribute :=
  ⟨constant, column, kind, false, .elementsOf collection⟩

/-- The path that conditions and orderings address the attribute by. -/
def path (a : Attribute) : String :=
  match a.origin with
  | .own => a.column
  | .sizeOf collection => collection ++ ".size"
  | .elementsOf collection => collection

/-- The name of the attribute in requests and answers. -/
def wire (a : Attribute) : String :=
  Naming.wireName a.constant

/-- The name of the attribute in the document of a whole row. -/
def member (a : Attribute) : String :=
  Naming.wireName a.column

/-- What a row holds for the attribute. -/
@[reducible]
def Carrier (a : Attribute) : Type :=
  match a.optional with
  | true => Option a.kind.Carrier
  | false => a.kind.Carrier

end Attribute

end CivicRegistry
