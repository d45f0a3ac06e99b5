import CivicRegistry.Http.Message
import CivicRegistry.Intake.Refusal
import CivicRegistry.Service.Search
import CivicRegistry.Token.Fault

/-!
# Faults as clients see them

Every fault is told a client by a status, a code and a message.  What a store or
a ledger reports is not passed on: the message depends on the kind of the fault
alone.
-/

namespace CivicRegistry.Http

inductive Fault where
  | badRequest (message : String)
  | validation (message : String) (violations : Option Violations)
  | invalidJson (message : String)
  | unknownField (message : String)
  | unauthorized (message : String)
  | internal (message : String)
  | unavailable (message : String)
deriving DecidableEq

namespace Fault

def status : Fault → Nat
  | .badRequest _ => 400
  | .validation _ _ => 400
  | .invalidJson _ => 400
  | .unknownField _ => 400
  | .unauthorized _ => 401
  | .internal _ => 500
  | .unavailable _ => 503

def code : Fault → String
  | .badRequest _ => "BAD_REQUEST"
  | .validation _ _ => "VALIDATION_ERROR"
  | .invalidJson _ => "INVALID_JSON"
  | .unknownField _ => "UNKNOWN_FIELD"
  | .unauthorized _ => "UNAUTHORIZED"
  | .internal _ => "INTERNAL_SERVER_ERROR"
  | .unavailable _ => "SERVICE_UNAVAILABLE"

def message : Fault → String
  | .badRequest message => message
  | .validation message _ => message
  | .invalidJson message => message
  | .unknownField message => message
  | .unauthorized message => message
  | .internal message => message
  | .unavailable message => message

/-- The messages by field of a request that breaks rules. -/
def fieldErrors : Fault → Option Violations
  | .validation _ violations => violations
  | _ => none

/-- The document of a fault, its members in the order of their names. -/
def json (fault : Fault) : Json :=
  .object ([("code", .text fault.code), ("error", .text fault.message)] ++
    (fault.fieldErrors.map fun violations =>
      ("field_errors",
        Json.object (violations.entries.map fun (field, message) =>
          (field, .text message)))).toList ++
    [("success", .boolean false)])

def response (fault : Fault) : Response :=
  .ofJson fault.status fault.json

def ofViolations (violations : Violations) : Fault :=
  .validation "Invalid search criteria" (some violations)

def ofStore : Store.Fault → Fault
  | .timedOut _ => .unavailable "Request processing timed out"
  | .missingSetting _ => .unavailable "Database temporarily unavailable"
  | .invalidUrl => .unavailable "Database temporarily unavailable"
  | .query _ => .internal "An error occurred while processing your request"
  | .database _ => .internal "Database error occurred"

def ofSearch : Service.SearchFault → Fault
  | .invalid violations => ofViolations violations
  | .store fault => ofStore fault

def ofToken : Token.Fault → Fault
  | .ledger _ => .unavailable "Token verification unavailable"
  | .unsigned _ => .internal "Failed to issue token"
  | .noSecret => .internal "Failed to issue token"
  | fault => .unauthorized fault.message

/-- The fault of a refused body.  Its code is told from the message alone. -/
def ofRefusal : Refusal → Fault
  | .syntaxError => .invalidJson Refusal.syntaxError.message
  | .mismatch cause =>
    let message := (Refusal.mismatch cause).message
    if cause.mentionsUnknownField then .unknownField message
    else .badRequest message

end Fault

end CivicRegistry.Http
