import CivicRegistry.Token.Claims

/-!
# Faults of tokens

Why a token is not accepted or not issued.
-/

namespace CivicRegistry.Token

/-- Why a text is no token of a service. -/
inductive Malformation where
  /-- Fewer than three parts. -/
  | parts
  | base64
  | json
  | algorithm
  | signature
  | missingClaim (name : String)
  | audience
  /-- A cause that is only known by its description. -/
  | described (text : String)
deriving DecidableEq

def Malformation.text : Malformation → String
  | .parts => "InvalidToken"
  | .base64 => "Base64 error"
  | .json => "JSON error"
  | .algorithm => "InvalidAlgorithm"
  | .signature => "InvalidSignature"
  | .missingClaim name => "Missing required claim: " ++ name
  | .audience => "InvalidAudience"
  | .described text => text

/-- Why the ledger of revoked tokens gave no answer. -/
inductive LedgerFault where
  | unavailable (reason : String)
  | timedOut
deriving DecidableEq

def LedgerFault.message : LedgerFault → String
  | .unavailable reason => "Revocation store unavailable: " ++ reason
  | .timedOut => "Revocation store operation timed out"

inductive Fault where
  | malformed (cause : Malformation)
  | expired
  | revoked
  | wrongPurpose (expected found : Purpose)
  | unsigned (reason : String)
  | noSecret
  | ledger (fault : LedgerFault)
deriving DecidableEq

def Fault.message : Fault → String
  | .malformed cause => "Malformed token: " ++ cause.text
  | .expired => "Token expired"
  | .revoked => "Token revoked"
  | .wrongPurpose expected found =>
    "Expected " ++ expected.word ++ " token, got " ++ found.word
  | .unsigned reason => "Token signing failed: " ++ reason
  | .noSecret => "JWT secret not configured"
  | .ledger fault => fault.message

end CivicRegistry.Token
