import CivicRegistry.Entity.Vocabulary
import CivicRegistry.Intake.Schema
import CivicRegistry.Json.Printer

/-!
# Claims

The claims of a token say whom it is issued for, what it is good for and from
when to when.  They are written as an object and read back from any document of
that form.
-/

namespace CivicRegistry.Token

/-- What a token is good for: access, or the exchange for a new pair of
tokens. -/
inductive Purpose where
  | access
  | refresh
deriving DecidableEq, Inhabited

namespace Purpose

def word : Purpose → String
  | .access => "access"
  | .refresh => "refresh"

def ofWord? (word : String) : Option Purpose :=
  [.access, .refresh].find? fun purpose => purpose.word == word

end Purpose

/-- The identity a token is issued for. -/
structure Subject where
  userId : Uuid
  email : String
  roles : List Role
deriving DecidableEq, Inhabited

/-- The claims of a token; its times are in whole seconds since the start of
1970. -/
structure Claims where
  subject : Subject
  purpose : Purpose
  tokenId : Uuid
  issuedAt : Int
  expiresAt : Int
deriving DecidableEq, Inhabited

/-- The keys of the object of the claims. -/
inductive ClaimKey where
  | sub
  | email
  | roles
  | tokenType
  | jti
  | iat
  | exp
deriving DecidableEq

namespace ClaimKey

def name : ClaimKey → String
  | .sub => "sub"
  | .email => "email"
  | .roles => "roles"
  | .tokenType => "token_type"
  | .jti => "jti"
  | .iat => "iat"
  | .exp => "exp"

@[reducible]
def Carrier : ClaimKey → Type
  | .sub => Uuid
  | .email => String
  | .roles => List Role
  | .tokenType => Purpose
  | .jti => Uuid
  | .iat => Int
  | .exp => Int

def read : (key : ClaimKey) → Reader Json.Outline (Carrier key)
  | .sub => Intake.single Shape.readUuid
  | .email => Intake.single Shape.readText
  | .roles => Intake.items (Intake.wordOfOutline Vocabulary.ofWord?)
  | .tokenType => Intake.wordOfOutline Purpose.ofWord?
  | .jti => Intake.single Shape.readUuid
  | .iat => Intake.single Shape.readInt64
  | .exp => Intake.single Shape.readInt64

@[reducible]
def schema : Schema Json.Outline ClaimKey :=
  ⟨[.sub, .email, .roles, .tokenType, .jti, .iat, .exp], name, Carrier, read⟩

end ClaimKey

/-- The keys that are also looked at when the claims are judged. -/
inductive RegisteredKey where
  | nbf
  | iss
  | aud
deriving DecidableEq

namespace RegisteredKey

def name : RegisteredKey → String
  | .nbf => "nbf"
  | .iss => "iss"
  | .aud => "aud"

@[reducible]
def Carrier : RegisteredKey → Type
  | .nbf => Unit
  | .iss => Unit
  | .aud => Bool

/-- Reads what comes of a value that can be done without, and stops where the
value cannot be passed. -/
def readPassage (passage : Json.Passage Json) : Except Refusal (Option Json) :=
  match passage with
  | .read document => .ok (some document)
  | .passed => .ok none
  | .stuck => .error .syntaxError

/-- Whether a document names an audience: a text or a list of texts. -/
def namesAudience : Json → Bool
  | .text _ => true
  | .array items => items.all fun
    | .text _ => true
    | _ => false
  | _ => false

/-- The depth that is left for a value of the claims. -/
def depthLeft : Nat := Json.depthLimit - 1

def read : (key : RegisteredKey) → Reader Json.Outline (Carrier key)
  | .nbf => fun outline => (readPassage outline.plainPassage).map fun _ => ()
  | .iss =>
    fun outline => (readPassage (outline.passage depthLeft)).map fun _ => ()
  | .aud =>
    fun outline =>
      (readPassage (outline.passage depthLeft)).map (·.any namesAudience)

@[reducible]
def schema : Schema Json.Outline RegisteredKey :=
  ⟨[.nbf, .iss, .aud], name, Carrier, read⟩

end RegisteredKey

namespace Claims

/-- The document of some claims. -/
def json (claims : Claims) : Json :=
  .object [("sub", .text claims.subject.userId.text),
    ("email", .text claims.subject.email),
    ("roles", .texts (claims.subject.roles.map Vocabulary.word)),
    ("token_type", .text claims.purpose.word),
    ("jti", .text claims.tokenId.text), ("iat", .integer claims.issuedAt),
    ("exp", .integer claims.expiresAt)]

/-- The claims under the keys of an object; every key has to be there. -/
def ofValues? (values : ClaimKey.schema.Values) : Option Claims := do
  return ⟨⟨← values .sub, ← values .email, ← values .roles⟩,
    ← values .tokenType, ← values .jti, ← values .iat,
    ← values .exp⟩

/-- The claims of an outline, and whether it names an audience. -/
def ofOutline? (outline : Json.Outline) : Option (Claims × Bool) := do
  let values ←
    (ClaimKey.schema.readObject Json.Outline.ignored? outline).toOption
  let claims ← ofValues? values
  let registered ←
    (RegisteredKey.schema.readObject Json.Outline.ignored? outline).toOption
  return (claims, (registered .aud).getD false)

end Claims

end CivicRegistry.Token
