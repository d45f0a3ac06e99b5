import CivicRegistry.Binary64.Notation
import CivicRegistry.Calendar.Instant

/-!
# Violations

Checks of a request gather what is wrong with it, at most one message for each
field: the first one stays.  The messages are kept in the order of the field
names.
-/

namespace CivicRegistry

/-- A type whose values can be written in a message. -/
class Written (α : Type) where
  written : α → String

instance : Written Int := ⟨Int.repr⟩

instance : Written Float := ⟨Binary64.plainText⟩

/-- Messages by field, in the order of the fields. -/
structure Violations where
  entries : List (String × String)
deriving DecidableEq

namespace Violations

def empty : Violations := ⟨[]⟩

def isEmpty (violations : Violations) : Bool := violations.entries.isEmpty

def message? (violations : Violations) (field : String) : Option String :=
  violations.entries.lookup field

/-- Puts an entry in its place unless there is one for the field. -/
def insertNew (field message : String) :
    List (String × String) → List (String × String)
  | [] => [(field, message)]
  | entry :: others =>
    match Ord.compare field entry.1 with
    | .lt => (field, message) :: entry :: others
    | .eq => entry :: others
    | .gt => entry :: insertNew field message others

/-- Records a message for a field; the first message of a field stays. -/
def add (violations : Violations) (field message : String) : Violations :=
  ⟨insertNew field message violations.entries⟩

/-- Records a message where something is wrong. -/
def addIf (violations : Violations) (isWrong : Bool) (field message : String) :
    Violations :=
  if isWrong then violations.add field message else violations

/-- Of two given bounds the lower may not exceed the upper; the lower one is to
blame. -/
def range {α : Type} [LT α] [DecidableLT α] (violations : Violations)
    (fromName : String) (low : Option α) (toName : String) (high : Option α) :
    Violations :=
  match low, high with
  | some low, some high =>
    violations.addIf (high < low) fromName
      (fromName ++ " must be less than or equal to " ++ toName)
  | _, _ => violations

/-- Two ways of asking for the same thing exclude each other. -/
def exclusive (violations : Violations) (name : String) (isSet : Bool)
    (otherName : String) (otherSet : Bool) : Violations :=
  violations.addIf (isSet && otherSet) name
    (name ++ " cannot be combined with " ++ otherName)

/-- A given value may not be less than a bound. -/
def atLeast {α : Type} [LT α] [DecidableLT α] [Written α]
    (violations : Violations) (field : String) (value : Option α) (low : α) :
    Violations :=
  match value with
  | some value =>
    violations.addIf (value < low) field
      (field ++ " must be at least " ++ Written.written low)
  | none => violations

/-- A given value has to lie between two bounds. -/
def between {α : Type} [LT α] [DecidableLT α] [Written α]
    (violations : Violations) (field : String) (value : Option α)
    (low high : α) : Violations :=
  match value with
  | some value =>
    violations.addIf (value < low || high < value) field
      (field ++ " must be between " ++ Written.written low ++ " and " ++
        Written.written high)
  | none => violations

/-- A given text may not have more than a number of characters. -/
def maxChars (violations : Violations) (field : String) (value : Option String)
    (most : Nat) : Violations :=
  match value with
  | some value =>
    violations.addIf (most < value.length) field
      (field ++ " must be at most " ++ most.repr ++ " characters")
  | none => violations

/-- What is wrong with a request, field by field, as one text. -/
def text (violations : Violations) : String :=
  "Validation failed" ++
    match violations.entries with
    | [] => ""
    | entries =>
      ": " ++ "; ".intercalate
        (entries.map fun (field, message) => field ++ ": " ++ message)

/-- The violations, unless there are none. -/
def result (violations : Violations) : Except Violations Unit :=
  if violations.isEmpty then .ok () else .error violations

end Violations

end CivicRegistry
