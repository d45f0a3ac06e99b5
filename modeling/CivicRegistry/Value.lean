import CivicRegistry.Binary64.Order
import CivicRegistry.Calendar.Instant
import CivicRegistry.Json.Value
import CivicRegistry.Uuid

/-!
# Attribute values

A value is what an attribute of a row holds or what a condition compares it
with.  Values of one kind are ordered; integers and floats are ordered together
by value, an integer rounded to a float for the purpose.  Lists and values of
different kinds are not ordered.
-/

namespace CivicRegistry

open Calendar (Date Instant)

inductive Value where
  | text (value : String)
  | integer (value : Int)
  | float (value : Float)
  | boolean (value : Bool)
  | uuid (value : Uuid)
  | date (value : Date)
  | instant (value : Instant)
  | list (items : List Value)
deriving Inhabited

namespace Value

/-- The text of a text. -/
def text? : Value → Option String
  | .text value => some value
  | _ => none

/-- The number of an integer or a float. -/
def number? : Value → Option Float
  | .integer value => some (Binary64.ofInteger value)
  | .float value => some value
  | _ => none

/-- The order of two values, where they have one. -/
def compare : Value → Value → Option Ordering
  | .integer left, .integer right => some (Ord.compare left right)
  | .integer left, .float right =>
    Binary64.compare (Binary64.ofInteger left) right
  | .float left, .integer right =>
    Binary64.compare left (Binary64.ofInteger right)
  | .float left, .float right => Binary64.compare left right
  | .text left, .text right => some (Ord.compare left right)
  | .boolean left, .boolean right => some (Ord.compare left right)
  | .uuid left, .uuid right => some (left.compare right)
  | .date left, .date right => some (left.compare right)
  | .instant left, .instant right => some (left.compare right)
  | _, _ => none

mutual

/-- Whether two values are of one kind and equal; floats are equal by value. -/
def same : Value → Value → Bool
  | .text left, .text right => left == right
  | .integer left, .integer right => left == right
  | .float left, .float right => Binary64.same left right
  | .boolean left, .boolean right => left == right
  | .uuid left, .uuid right => left == right
  | .date left, .date right => left == right
  | .instant left, .instant right => left == right
  | .list left, .list right => sameItems left right
  | _, _ => false

def sameItems : List Value → List Value → Bool
  | [], [] => true
  | left :: lefts, right :: rights => left.same right && sameItems lefts rights
  | _, _ => false

end

mutual

/-- The document of a value, without a mark of its kind. -/
def json : Value → Json
  | .text value => .text value
  | .integer value => .integer value
  | .float value => .float value
  | .boolean value => .boolean value
  | .uuid value => .text value.text
  | .date value => .text value.text
  | .instant value => .text value.text
  | .list items => .array (jsonItems items)

def jsonItems : List Value → List Json
  | [] => []
  | item :: others => item.json :: jsonItems others

end

end Value

end CivicRegistry
