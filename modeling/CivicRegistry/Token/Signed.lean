import CivicRegistry.Json.Scanner
import CivicRegistry.Text.Base64Url
import CivicRegistry.Token.Fault
import CivicRegistry.Token.KeyDescription

/-!
# Signed tokens

A token is three parts joined by dots: a header, the claims and a signature over
both, each written in the alphabet for addresses.  A token is opened by taking
it apart from the right, reading its header, making its signature again and
reading its claims; the first step that fails gives the cause.
-/

namespace CivicRegistry.Token

open CivicRegistry.Digest (Bytes)

/-- A secret that tokens are signed with. -/
abbrev Secret := String

/-- The keys of a header. -/
inductive HeaderKey where
  | typ
  | alg
  | cty
  | jku
  | jwk
  | kid
  | x5u
  | x5c
  | x5t
  | x5tS256
deriving DecidableEq

/-- An algorithm that a header may name. -/
inductive Algorithm where
  | hs256
  | other
deriving DecidableEq

/-- The algorithm of a name. -/
def Algorithm.ofName? (name : String) : Option Algorithm :=
  if name = "HS256" then some .hs256
  else if name ∈ ["HS384", "HS512", "ES256", "ES384", "RS256", "RS384", "RS512",
    "PS256", "PS384", "PS512", "EdDSA"]
    then some .other
  else none

namespace HeaderKey

def name : HeaderKey → String
  | .typ => "typ"
  | .alg => "alg"
  | .cty => "cty"
  | .jku => "jku"
  | .jwk => "jwk"
  | .kid => "kid"
  | .x5u => "x5u"
  | .x5c => "x5c"
  | .x5t => "x5t"
  | .x5tS256 => "x5t#S256"

@[reducible]
def Carrier : HeaderKey → Type
  | .alg => Algorithm
  | _ => Unit

/-- A text or null. -/
def readText : Reader Json.Outline Unit := fun outline =>
  (Intake.optional (Intake.single Shape.readText) outline).map fun _ => ()

def read : (key : HeaderKey) → Reader Json.Outline (Carrier key)
  | .alg => Intake.wordOfOutline Algorithm.ofName?
  | .x5c => fun outline =>
    (Intake.optional (Intake.items (Intake.single Shape.readText)) outline).map
      fun _ => ()
  | .jwk =>
    fun outline =>
      (Intake.optional (readKey (Json.depthLimit - 1)) outline).map fun _ => ()
  | .typ => readText
  | .cty => readText
  | .jku => readText
  | .kid => readText
  | .x5u => readText
  | .x5t => readText
  | .x5tS256 => readText

@[reducible]
def schema : Schema Json.Outline HeaderKey :=
  ⟨[.typ, .alg, .cty, .jku, .jwk, .kid, .x5u, .x5c, .x5t, .x5tS256], name,
    Carrier, read⟩

end HeaderKey

/-- The bytes of some characters. -/
def utf8 (chars : List Char) : Bytes :=
  (String.ofList chars).toUTF8.toList

/-- The outline of a document in bytes. -/
def outlineOfBytes? (bytes : Bytes) : Option Json.Outline :=
  Json.wholeOutline? (Text.symbols bytes.toByteArray)

/-- The algorithm that a header names. -/
def headerAlgorithm? (bytes : Bytes) : Option Algorithm := do
  let outline ← outlineOfBytes? bytes
  let values ←
    (HeaderKey.schema.readRecord Json.Outline.ignored? outline).toOption
  values .alg

/-- The header of the tokens that are issued. -/
def headerText : String :=
  (Json.object [("typ", .text "JWT"), ("alg", .text "HS256")]).print

/-- The signature of the first two parts of a token. -/
def signature (secret : Secret) (message : List Char) : List Char :=
  Text.Base64Url.encode (Digest.hmacSha256 (utf8 secret.toList) (utf8 message))

/-- A header and claims as the first two parts of a token. -/
def message (header claims : String) : List Char :=
  Text.Base64Url.encode (utf8 header.toList) ++ '.' ::
    Text.Base64Url.encode (utf8 claims.toList)

/-- The token of some claims under a secret. -/
def sign (secret : Secret) (claims : Claims) : String :=
  let signed := message headerText claims.json.print
  String.ofList (signed ++ '.' :: signature secret signed)

/-- What stands before and after the last dot. -/
def splitAtLastDot? (chars : List Char) : Option (List Char × List Char) :=
  let backwards := chars.reverse
  match backwards.dropWhile (· != '.') with
  | [] => none
  | _ :: before =>
    some (before.reverse, (backwards.takeWhile (· != '.')).reverse)

/-- The claims of a payload that is accepted whoever it is for. -/
def claimsOfPayload (payload : List Char) : Except Malformation Claims := do
  let bytes ← (Text.Base64Url.decode? payload).elim (.error .base64) .ok
  let (claims, namesAudience) ←
    ((outlineOfBytes? bytes).bind Claims.ofOutline?).elim (.error .json) .ok
  if claims.expiresAt < 0 then throw (.missingClaim "exp")
  if namesAudience then throw .audience
  return claims

/-- The claims of a token, whatever the time is. -/
def decode (secret : Secret) (token : String) : Except Malformation Claims := do
  let (signed, signatureText) ←
    (splitAtLastDot? token.toList).elim (.error .parts) .ok
  let (header, payload) ← (splitAtLastDot? signed).elim (.error .parts) .ok
  let headerBytes ← (Text.Base64Url.decode? header).elim (.error .base64) .ok
  let algorithm ← (headerAlgorithm? headerBytes).elim (.error .json) .ok
  if algorithm ≠ .hs256 then throw .algorithm
  if signatureText ≠ signature secret signed then throw .signature
  claimsOfPayload payload

end CivicRegistry.Token
