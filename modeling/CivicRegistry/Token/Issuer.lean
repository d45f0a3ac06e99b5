import CivicRegistry.Calendar.Timestamp
import CivicRegistry.Service.Procedure
import CivicRegistry.Token.Signed

/-!
# Issuing and checking tokens

An issuer holds a secret and the lifetimes of its tokens.  A token it has issued
is accepted until it expires or is revoked.  A refresh token is exchanged for a
new pair once: the exchange claims its key in the ledger, and only one claim of
a key succeeds.
-/

namespace CivicRegistry.Token

open Calendar (Moment Span Instant)
open Service (Procedure Question Reply)

/-- How long a token is good for from the time it is issued, in nanoseconds; it
may be none or less. -/
structure Lifetime where
  nanos : Int
deriving DecidableEq, Inhabited

namespace Lifetime

/-- The most milliseconds that a lifetime has in either direction. -/
def largestMillis : Int := Int.pow 2 63 - 1

/-- The lifetime of a number of seconds, unless that is too large. -/
def ofSeconds? (seconds : Int) : Option Lifetime :=
  if -largestMillis ≤ seconds * 1000 ∧ seconds * 1000 ≤ largestMillis then
    some ⟨seconds * Instant.nanosPerSecond⟩
  else none

/-- The whole seconds of a lifetime, what is left of one dropped. -/
def seconds (lifetime : Lifetime) : Int :=
  lifetime.nanos.tdiv Instant.nanosPerSecond

/-- The whole second in which a lifetime that starts at a moment ends, unless
the calendar ends before it. -/
def expiry? (lifetime : Lifetime) (start : Moment) : Option Int :=
  let second := (Moment.mk (start.nanos + lifetime.nanos)).second
  if Calendar.Timestamp.inCalendar (second / Instant.secondsPerDay) then
    some second
  else none

end Lifetime

/-- The key of a token in the ledger; it does not give the token away. -/
def ledgerKey (token : String) : String :=
  "revoked:" ++
    String.ofList ((Digest.sha256 (utf8 token.toList)).flatMap fun byte =>
      Text.hexDigits 2 byte.toNat)

/-- Tokens for a client: one for access and one for the exchange, and the
seconds for which the first is good. -/
structure Pair where
  access : String
  refresh : String
  expiresIn : Int
deriving DecidableEq

def Pair.json (pair : Pair) : Json :=
  .object [("accessToken", .text pair.access),
    ("refreshToken", .text pair.refresh), ("tokenType", .text "Bearer"),
    ("expiresIn", .integer pair.expiresIn)]

/-- A procedure that may come to a fault. -/
abbrev Attempt (α : Type) := ExceptT Fault Procedure α

/-- The reply to a question to the ledger. -/
def askLedger {α : Type} (question : Question)
    (toReply : question.Answer → Reply LedgerFault α) : Attempt α :=
  ExceptT.mk (.ask question fun answer =>
    .done (((toReply answer).result .timedOut).mapError .ledger))

/-- The answer to a question that is always answered. -/
def askAlways (question : Question) : Attempt question.Answer :=
  ExceptT.mk (.ask question fun answer => .done (.ok answer))

/-- What an issuer signs with and how long its tokens are good for. -/
structure Issuer where
  secret : Secret
  accessLifetime : Lifetime
  refreshLifetime : Lifetime
  secret_ne : secret ≠ ""

namespace Issuer

/-- An issuer has to have a secret. -/
def ofSecret (secret : Secret) (accessLifetime refreshLifetime : Lifetime) :
    Except Fault Issuer :=
  if h : secret = "" then .error .noSecret
  else .ok ⟨secret, accessLifetime, refreshLifetime, h⟩

variable (issuer : Issuer)

/-- Issues a token; there is none if its lifetime leaves the calendar. -/
def issue (subject : Subject) (purpose : Purpose) (lifetime : Lifetime) :
    Procedure String := do
  let now ← Procedure.question .moment
  let id ← Procedure.question .identifier
  match lifetime.expiry? now with
  | some expiry =>
    return sign issuer.secret ⟨subject, purpose, id, now.second, expiry⟩
  | none => .broken

/-- Issues a pair of tokens. -/
def issuePair (subject : Subject) : Procedure Pair := do
  let access ← issuer.issue subject .access issuer.accessLifetime
  let refresh ← issuer.issue subject .refresh issuer.refreshLifetime
  return ⟨access, refresh, issuer.accessLifetime.seconds⟩

/-- The claims of a token of this issuer, whether or not it is still good. -/
def claimsOf (token : String) : Except Fault Claims :=
  (decode issuer.secret token).mapError .malformed

/-- The user that a token was issued for, whether or not it is still good. -/
def userOf (token : String) : Except Fault Uuid :=
  (issuer.claimsOf token).map (·.subject.userId)

/-- Whether a token is revoked. -/
def isRevoked (token : String) : Attempt Bool :=
  askLedger (.isRevoked (ledgerKey token)) id

/-- Checks a token for a purpose: that it is of this issuer, has not expired, is
for the purpose and is not revoked. -/
def verify (token : String) (expected : Purpose) : Attempt Claims := do
  let claims ← ExceptT.mk (.done (issuer.claimsOf token))
  let now ← askAlways .moment
  if claims.expiresAt ≤ now.second then throw .expired
  if claims.purpose ≠ expected then
    throw (.wrongPurpose expected claims.purpose)
  if ← isRevoked token then throw .revoked
  return claims

/-- Whether a token is good for its own purpose; where the ledger gives no
answer it is not. -/
def validate (token : String) : Procedure Bool :=
  match issuer.claimsOf token with
  | .error _ => return false
  | .ok claims => do
    let now ← Procedure.question .moment
    if claims.expiresAt ≤ now.second then return false
    match ← (isRevoked token).run with
    | .ok revoked => return !revoked
    | .error _ => return false

/-- The time that is left until some claims expire, in whole seconds; nothing
once they have. -/
def remaining? (claims : Claims) (now : Moment) : Option Span :=
  if now.second < claims.expiresAt then
    some (.ofSeconds (claims.expiresAt - now.second).toNat)
  else none

/-- Revokes a token for the rest of its lifetime; nothing is done about one that
has expired or is no token. -/
def revoke (token : String) : Attempt Unit :=
  match issuer.claimsOf token with
  | .error _ => return ()
  | .ok claims => do
    let now ← askAlways .moment
    match remaining? claims now with
    | none => return ()
    | some span => askLedger (.revoke (ledgerKey token) span) id

/-- Exchanges a refresh token for a new pair.  The token is claimed before the
pair is issued. -/
def refresh (token : String) : Attempt Pair := do
  let claims ← issuer.verify token .refresh
  let now ← askAlways .moment
  match remaining? claims now with
  | none => throw .expired
  | some span =>
    if ← askLedger (.claim (ledgerKey token) span) id then
      issuer.issuePair claims.subject
    else throw .revoked

end Issuer

end CivicRegistry.Token
