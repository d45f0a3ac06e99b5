import CivicRegistry.Http.Message
import CivicRegistry.Text.Blank

/-!
# Bearer tokens

A client shows its token in the header `Authorization`, after the word `Bearer`
and a space.
-/

namespace CivicRegistry.Http

open CivicRegistry.Digest (Bytes)

/-- Why a request shows no token. -/
inductive BearerFault where
  | missing
  | unprintable
  | otherScheme
  | empty
deriving DecidableEq

def BearerFault.message : BearerFault → String
  | .missing => "Missing Authorization header"
  | .unprintable => "Invalid Authorization header format"
  | .otherScheme => "Authorization header must use Bearer token format"
  | .empty => "Empty JWT token"

/-- What stands before the token. -/
def bearerScheme : List Char := "Bearer ".toList

/-- The token of the first header for authorization, without blanks around
it. -/
def bearerToken (header : Option Bytes) : Except BearerFault String := do
  let bytes ← header.elim (.error .missing) .ok
  let text ← (printable? bytes).elim (.error .unprintable) .ok
  if bearerScheme.isPrefixOf text.toList then
    let token := Text.trimmed (text.toList.drop bearerScheme.length)
    if token.isEmpty then .error .empty else .ok (String.ofList token)
  else .error .otherScheme

end CivicRegistry.Http
