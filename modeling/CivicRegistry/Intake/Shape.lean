import CivicRegistry.Calendar.Timestamp
import CivicRegistry.Intake.Refusal

/-!
# Reading single values

A reader of a single value looks at the shape of a document: the value itself
where it is a plain one, or that it is a list or an object.  A number has to be
written as what it is read as; a float also reads an integer.
-/

namespace CivicRegistry

/-- What a document is, without the contents of lists and objects. -/
inductive Shape where
  | null
  | boolean (value : Bool)
  | integer (value : Int)
  | float (value : Float)
  | text (value : String)
  | array
  | object

/-- A reader of values of type `α`. -/
abbrev Reader (Source α : Type) := Source → Except Refusal α

/-- Something that is wrong with a value. -/
def wrong {α : Type} (cause : Mismatch) : Except Refusal α :=
  .error (.mismatch cause)

namespace Shape

/-- The mismatch of a value of another kind. -/
def wrongKind : Shape → Mismatch
  | .text value => .wrongKind (some value)
  | _ => .wrongKind none

def readText : Reader Shape String
  | .text value => .ok value
  | shape => wrong shape.wrongKind

def readBoolean : Reader Shape Bool
  | .boolean value => .ok value
  | shape => wrong shape.wrongKind

/-- An integer between two bounds. -/
def readInteger (low high : Int) : Reader Shape Int
  | .integer value =>
    if low ≤ value ∧ value ≤ high then .ok value else wrong .illFormed
  | shape => wrong shape.wrongKind

/-- An integer of 32 bits. -/
def readInt32 : Reader Shape Int :=
  readInteger (-Int.pow 2 31) (Int.pow 2 31 - 1)

/-- An integer of 64 bits. -/
def readInt64 : Reader Shape Int :=
  readInteger (-Int.pow 2 63) (Int.pow 2 63 - 1)

def readFloat : Reader Shape Float
  | .integer value => .ok (Binary64.ofInteger value)
  | .float value => .ok value
  | shape => wrong shape.wrongKind

/-- A text in a written form. -/
def readForm {α : Type} (form : String → Option α) : Reader Shape α
  | .text value => (form value).elim (wrong .illFormed) .ok
  | shape => wrong shape.wrongKind

def readUuid : Reader Shape Uuid := readForm Uuid.ofText?

def readInstant : Reader Shape Calendar.Instant :=
  readForm Calendar.Timestamp.instant?

/-- A token of an attribute. -/
def readField (entity : Entity) : Reader Shape entity.Field
  | .text token =>
    (entity.readField token).mapError fun error =>
      .mismatch (.unknownField error)
  | shape => wrong shape.wrongKind

/-- A token of an attribute to sort by. -/
def readSortField (entity : Entity) : Reader Shape entity.SortField
  | .text token =>
    match entity.readSortField token with
    | .ok field => .ok field
    | .error (.unknown error) => wrong (.unknownField error)
    | .error (.notSortable token) => wrong (.notSortable token)
  | shape => wrong shape.wrongKind

end Shape

/-- The shape of a complete document. -/
def Json.shape : Json → Shape
  | .null => .null
  | .boolean value => .boolean value
  | .integer value => .integer value
  | .float value => .float value
  | .text value => .text value
  | .array _ => .array
  | .object _ => .object

/-- The shape of an outline; a break, a text that cannot be decoded and a number
without a value have none. -/
def Json.Outline.shape : Json.Outline → Except Refusal Shape
  | .null => .ok .null
  | .boolean value => .ok (.boolean value)
  | .number (.integer value) => .ok (.integer value)
  | .number (.float value) => .ok (.float value)
  | .number (.tooLarge _) => .error .syntaxError
  | .text pieces =>
    pieces.text?.elim (.error .syntaxError) fun text => .ok (.text text)
  | .array _ _ => .ok .array
  | .object _ _ => .ok .object
  | .broken => .error .syntaxError

/-- The refusal of an outline whose value is not wanted: it has to be
complete. -/
def Json.Outline.ignored? (outline : Json.Outline) : Option Refusal :=
  if outline.isWhole then none else some .syntaxError

namespace Intake

/-- The word of a small vocabulary: the first value whose words include it. -/
def readWord {α : Type} (ofWord : String → Option α) (word : String) :
    Except Refusal α :=
  (ofWord word).elim (wrong (.unknownWord word)) .ok

/-- A word in a complete document: a text, or the one key of an object with an
empty value. -/
def wordOfDocument {α : Type} (ofWord : String → Option α) : Reader Json α
  | .text word => readWord ofWord word
  | .object [(word, value)] => do
    let result ← readWord ofWord word
    match value with
    | .null => return result
    | .object [] => return result
    | other => wrong other.shape.wrongKind
  | .object _ => wrong .illFormed
  | other => wrong other.shape.wrongKind

/-- A word in an outline: a text, or the one key of an object with the value
null.  Anything else breaks off the reading. -/
def wordOfOutline {α : Type} (ofWord : String → Option α) :
    Reader Json.Outline α
  | .text pieces => pieces.text?.elim (.error .syntaxError) (readWord ofWord)
  | .object ((pieces, value) :: others) closed => do
    let word ← pieces.text?.elim (.error .syntaxError) .ok
    let result ← readWord ofWord word
    match ← value.shape with
    | .null =>
      if others.isEmpty ∧ closed then return result else .error .syntaxError
    | shape => wrong shape.wrongKind
  | _ => .error .syntaxError

/-- The shape of an outline read as a single value. -/
def single {α : Type} (read : Reader Shape α) : Reader Json.Outline α :=
  fun outline => do
  read (← outline.shape)

/-- A value that null stands for the absence of. -/
def optional {α : Type} (read : Reader Json.Outline α) :
    Reader Json.Outline (Option α)
  | .null => .ok none
  | outline => (read outline).map some

/-- The items of a list, one after the other. -/
def items {α : Type} (read : Reader Json.Outline α) :
    Reader Json.Outline (List α)
  | .array outlines closed => do
    let values ← outlines.mapM read
    if closed then return values else .error .syntaxError
  | other => do wrong (← other.shape).wrongKind

/-- A value of a complete document that null stands for the absence of. -/
def optionalShape {α : Type} (read : Reader Shape α) : Reader Json (Option α)
  | .null => .ok none
  | document => (read document.shape).map some

end Intake

end CivicRegistry
