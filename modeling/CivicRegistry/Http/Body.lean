import CivicRegistry.Criteria.Reading
import CivicRegistry.Http.Fault
import CivicRegistry.Http.MediaType

/-!
# Bodies

The body of a request is read as a document if it is declared as one and is not
too long.  Two requests about tokens have bodies of their own; each has one key.
-/

namespace CivicRegistry.Http

/-- Why a body is not read. -/
inductive BodyFault where
  /-- It is not declared as a document. -/
  | undeclared
  | tooLong
  | refused (refusal : Refusal)
deriving DecidableEq

def BodyFault.fault : BodyFault → Fault
  | .undeclared =>
    .invalidJson "Expected request with `Content-Type: application/json`"
  | .tooLong =>
    .invalidJson "Failed to buffer the request body: length limit exceeded"
  | .refused refusal => .ofRefusal refusal

/-- The most bytes a body may have. -/
def bodyLimit : Nat := 2 * Nat.pow 2 20

/-- Whether the body of a request is declared as a document. -/
def Request.declaresJson (request : Request) : Bool :=
  ((request.header? "content-type").bind printable?).any MediaType.isJson

/-- What is read from the start of the body of a request; what follows the first
document is ignored. -/
def Request.read {α : Type} (read : Reader Json.Outline α) (request : Request) :
    Except BodyFault α :=
  if !request.declaresJson then .error .undeclared
  else if bodyLimit < request.body.length then .error .tooLong
  else
    (read (Json.outline (Text.symbols request.body.toByteArray))).mapError
      .refused

/-- The one key of the bodies about tokens. -/
inductive TokenKey where
  | refreshToken
deriving DecidableEq

/-- Reads a body with one token, read in the given way. -/
def TokenKey.schema {α : Type} (read : Reader Json.Outline α) :
    Schema Json.Outline TokenKey :=
  ⟨[.refreshToken], fun _ => "refreshToken", fun _ => α, fun _ => read⟩

/-- The token of a body, if the key is there. -/
def readToken? {α : Type} (read : Reader Json.Outline α) :
    Reader Json.Outline (Option α) := fun outline => do
  let values ← (TokenKey.schema read).readRecord Json.Outline.ignored? outline
  return values .refreshToken

/-- The token to be exchanged, which has to be there. -/
def readExchange : Reader Json.Outline String := fun outline => do
  match ← readToken? (Intake.single Shape.readText) outline with
  | some token => return token
  | none => wrong .missing

/-- The token to be given up, if there is one. -/
def readGivenUp : Reader Json.Outline (Option String) := fun outline => do
  return (← readToken?
    (Intake.optional (Intake.single Shape.readText)) outline).join

/-- The token that a request asks to exchange, without the blanks at its
ends. -/
def Request.exchangedToken (request : Request) : Except Fault String := do
  let token :=
    Text.trim (← (request.read readExchange).mapError BodyFault.fault)
  if token.isEmpty then .error (.badRequest "refreshToken is required")
  else .ok token

/-- The token that a request gives up besides its own, without the blanks at its
ends.  A body that is not declared as a document is not looked at. -/
def Request.givenUpToken? (request : Request) : Except Fault (Option String) :=
  match request.read readGivenUp with
  | .ok token => .ok ((token.map Text.trim).filter (!·.isEmpty))
  | .error .undeclared => .ok none
  | .error fault => .error fault.fault

end CivicRegistry.Http
