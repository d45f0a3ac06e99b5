import CivicRegistry.Sql.Statement
import CivicRegistry.Store.Cell

/-!
# Tables in a database

A table in a database is searched by two statements: one counts the rows that
meet a specification and then one lists a page of them.  The database is given
as a function that executes a statement in some monad, so that what is sent to
it can be followed.
-/

namespace CivicRegistry.Store.Relational

/-- A statement as it is sent: its text and the cells bound to its
placeholders. -/
structure Command where
  sql : String
  parameters : List Cell

def Command.ofStatement (statement : Sql.Statement) : Command :=
  ⟨statement.prepared.query, statement.prepared.params.map Cell.ofValue⟩

/-- A database: what it answers to a command. -/
abbrev Database (m : Type → Type) :=
  Command → m (Except DatabaseFault (List Record))

section

variable {m : Type → Type} [Monad m] {entity : Entity}

/-- Sends a command; what goes wrong with the database is the fault of the
store. -/
def send (database : Database m) (command : Command) :
    ExceptT Fault m (List Record) := do
  match ← (database command : m _) with
  | .ok records => return records
  | .error fault => throw (.database fault)

/-- A result of reading records, with its fault as one of the store. -/
def reading {α : Type} (result : Except DatabaseFault α) : ExceptT Fault m α :=
  ExceptT.mk (pure (result.mapError .database))

/-- A statement, or the fault of a request that cannot be put as one. -/
def lowered (result : Except Sql.LoweringError Sql.Statement) :
    ExceptT Fault m Sql.Statement :=
  ExceptT.mk (pure (result.mapError .ofLowering))

/-- The number of rows that meet a specification, as the database counts
them. -/
def count (database : Database m) (spec : Specification entity.Field) :
    ExceptT Fault m Int := do
  let statement ← lowered (Sql.counting spec)
  match ← send database (.ofStatement statement) with
  | [] => throw (.database .noRow)
  | record :: _ => reading (record.number "count")

/-- The rows of a page. -/
def list (database : Database m) (spec : Specification entity.Field)
    (request : PageRequest entity.Field) :
    ExceptT Fault m (List (Row entity)) := do
  let statement ← lowered (Sql.listing spec (some request))
  let records ← send database (.ofStatement statement)
  reading (records.mapM fun record => record.row entity)

/-- The page of the rows that meet a specification; a count below zero is taken
for zero. -/
def find (database : Database m) (spec : Specification entity.Field)
    (request : PageRequest entity.Field) :
    ExceptT Fault m (Page (Row entity)) := do
  let total ← count database spec
  let rows ← list database spec request
  return .answering rows request total.toNat

/-- Makes sure that the database answers. -/
def checkHealth (database : Database m) : ExceptT Fault m Unit := do
  let _ ← send database ⟨"SELECT 1", []⟩

end

end CivicRegistry.Store.Relational
