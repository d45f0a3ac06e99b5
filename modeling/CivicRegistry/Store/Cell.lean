import CivicRegistry.Entity.Row
import CivicRegistry.Store.Fault

/-!
# Cells and records

A database exchanges cells, each of one of its own kinds or null.  Values become
cells when they are bound to a statement, and the cells of an answered record
become a row: every attribute takes the cell under its column, which has to be
of its kind.
-/

namespace CivicRegistry.Store

open Calendar (Instant)

inductive Cell where
  | null
  | boolean (value : Bool)
  | int32 (value : Int)
  | int64 (value : Int)
  | float (value : Float)
  | text (value : String)
  | texts (values : List (Option String))
  | date (value : Calendar.Date)
  | instant (value : Instant)
  | uuid (value : Uuid)
deriving DecidableEq, Inhabited

namespace Cell

/-- The instant from which a database counts microseconds: the start of the year
2000. -/
def epochSeconds : Int := 946684800

/-- Microseconds from the epoch of the database; what is left of one is dropped
towards the epoch. -/
def databaseMicros (value : Instant) : Int :=
  (value.totalNanos - epochSeconds * Instant.nanosPerSecond).tdiv 1000

/-- The instant that a database keeps. -/
def storedInstant (value : Instant) : Instant :=
  let micros := databaseMicros value + epochSeconds * 1000000
  ⟨micros / 1000000, (micros % 1000000).toNat * 1000⟩

/-- The cell that a value is bound as; of a list only the texts are bound. -/
def ofValue : Value → Cell
  | .text value => .text value
  | .integer value => .int64 value
  | .float value => .float value
  | .boolean value => .boolean value
  | .uuid value => .uuid value
  | .date value => .date value
  | .instant value => .instant (storedInstant value)
  | .list items => .texts ((items.filterMap Value.text?).map some)

end Cell

/-- A cell that holds no value of a kind; the word if it is one of no
vocabulary. -/
abbrev CellMismatch := Option UnknownWord

/-- The value of a word. -/
def wordOfCell {α : Type} [Vocabulary α] (word : String) :
    Except CellMismatch α :=
  (Vocabulary.parse word).mapError some

/-- The value of a kind that a cell holds. -/
def valueOfCell : (kind : Kind) → Cell → Except CellMismatch kind.Carrier
  | .text, .text value => .ok value
  | .uuid, .uuid value => .ok value
  | .instant, .instant value => .ok value
  | .int32, .int32 value => .ok value
  | .int64, .int64 value => .ok value
  | .float, .float value => .ok value
  | .boolean, .boolean value => .ok value
  | .roles, .texts values => do
    let words ← (values.mapM id).elim (.error none) .ok
    words.mapM wordOfCell
  | .officePost, .text word => wordOfCell word
  | .houseOwnership, .text word => wordOfCell word
  | .municipalityType, .text word => wordOfCell word
  | _, _ => .error none

/-- What a row holds for an attribute whose cell is given; only an attribute
that a row may lack can be null. -/
def heldOfCell (a : Attribute) (cell : Cell) : Except CellMismatch a.Carrier :=
  match a with
  | ⟨_, _, kind, true, _⟩ =>
    if cell = .null then .ok none else (valueOfCell kind cell).map some
  | ⟨_, _, kind, false, _⟩ => valueOfCell kind cell

/-- The cells that a statement answers for one row, under the names of their
columns. -/
abbrev Record := List (String × Cell)

namespace Record

/-- The cell of a column; of columns with one name the last counts. -/
def cell? (record : Record) (column : String) : Option Cell :=
  record.reverse.lookup column

/-- What is held for an attribute. -/
def held (record : Record) (a : Attribute) : Except DatabaseFault a.Carrier :=
  match record.cell? a.column with
  | none => .error (.missingColumn a.column)
  | some cell => (heldOfCell a cell).mapError (.unreadable a.column)

/-- The row of a record; the first attribute that cannot be read refuses it. -/
def row (record : Record) (entity : Entity) :
    Except DatabaseFault (Row entity) :=
  Enumeration.sequence fun field : entity.Field =>
    record.held (Entity.info field)

/-- The number in a column of sixty-four bits. -/
def number (record : Record) (column : String) : Except DatabaseFault Int :=
  match record.cell? column with
  | none => .error (.missingColumn column)
  | some (.int64 value) => .ok value
  | some _ => .error (.unreadable column none)

end Record

end CivicRegistry.Store
