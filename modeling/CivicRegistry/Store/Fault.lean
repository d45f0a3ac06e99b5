import CivicRegistry.Calendar.Moment
import CivicRegistry.Entity.Vocabulary
import CivicRegistry.Sql.Column

/-!
# Faults of stores

Why a store gave no page.  What the database itself reports is kept apart from
what goes wrong before or after it is asked.
-/

namespace CivicRegistry.Store

/-- What goes wrong between a store and its database. -/
inductive DatabaseFault where
  /-- A statement that has to answer a row answered none. -/
  | noRow
  /-- A column that is read is not among those answered. -/
  | missingColumn (name : String)
  /-- A column holds what it may not hold; the word if it is one of no
  vocabulary. -/
  | unreadable (column : String) (cause : Option UnknownWord)
  /-- The database refused a statement. -/
  | refused (reason : String)
deriving DecidableEq

def DatabaseFault.message : DatabaseFault → String
  | .noRow =>
    "no rows returned by a query that expected to return at least one row"
  | .missingColumn name => "no column found for name: " ++ name
  | .unreadable column cause =>
    "error occurred while decoding column \"" ++ column ++ "\": " ++
      cause.elim "unexpected value" UnknownWord.message
  | .refused reason => "error returned from database: " ++ reason

inductive Fault where
  | missingSetting (name : String)
  | invalidUrl
  /-- A request that cannot be put as a statement, or a failure told in
  words. -/
  | query (reason : String)
  | timedOut (limit : Calendar.Span)
  | database (fault : DatabaseFault)
deriving DecidableEq

namespace Fault

def message : Fault → String
  | .missingSetting name => "Missing configuration: " ++ name
  | .invalidUrl => "Invalid database URL"
  | .query reason => "Query error: " ++ reason
  | .timedOut limit => "Query timed out after " ++ limit.text
  | .database fault => fault.message

/-- The fault of a request that cannot be put as a statement. -/
def ofLowering (error : Sql.LoweringError) : Fault := .query error.message

end Fault

end CivicRegistry.Store
