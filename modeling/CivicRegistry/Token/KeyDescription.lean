import CivicRegistry.Intake.Schema

/-!
# Descriptions of keys

The header of a token may describe a key.  A description says of what family the
key is and gives the numbers that make it up, each as a text; some families also
name a curve.  Besides, it may say what the key is for and where certificates of
it are found.  What else it says is not looked at.
-/

namespace CivicRegistry.Token

/-- What any description may say about its key. -/
inductive KeyRemark where
  | use
  | operations
  | algorithm
  | identifier
  | certificateUrl
  | certificateChain
  | thumbprint
  | longThumbprint
deriving DecidableEq

/-- The algorithms that a key may be said to be for. -/
def keyAlgorithms : List String :=
  ["HS256", "HS384", "HS512", "ES256", "ES384", "RS256", "RS384", "RS512",
    "PS256", "PS384", "PS512", "EdDSA", "RSA1_5", "RSA-OAEP", "RSA-OAEP-256"]

namespace KeyRemark

def all : List KeyRemark :=
  [.use, .operations, .algorithm, .identifier, .certificateUrl,
    .certificateChain, .thumbprint, .longThumbprint]

def name : KeyRemark → String
  | .use => "use"
  | .operations => "key_ops"
  | .algorithm => "alg"
  | .identifier => "kid"
  | .certificateUrl => "x5u"
  | .certificateChain => "x5c"
  | .thumbprint => "x5t"
  | .longThumbprint => "x5t#S256"

/-- A list of texts or null. -/
def readTexts : Reader Json Unit
  | .null => .ok ()
  | .array items =>
    items.forM fun item => (Shape.readText item.shape).map fun _ => ()
  | document => wrong document.shape.wrongKind

/-- The name of an algorithm or null. -/
def readAlgorithm : Reader Json Unit
  | .null => .ok ()
  | document =>
    Intake.wordOfDocument
      (fun word => if word ∈ keyAlgorithms then some () else none) document

def read : KeyRemark → Reader Json Unit
  | .operations => readTexts
  | .certificateChain => readTexts
  | .algorithm => readAlgorithm
  | _ =>
    fun document =>
      (Intake.optionalShape Shape.readText document).map fun _ => ()

@[reducible]
def schema : Schema Json KeyRemark :=
  ⟨all, name, fun _ => Unit, read⟩

end KeyRemark

/-- A family of keys: its name, whether its keys lie on a curve, and the names
of the numbers that make up a key. -/
structure KeyFamily where
  name : String
  onCurve : Bool
  numbers : List String

/-- What a description has to say about a key of a family. -/
inductive KeyPart where
  | family
  | curve
  | number (name : String)
deriving DecidableEq

namespace KeyFamily

def all : List KeyFamily :=
  [⟨"EC", true, ["x", "y"]⟩, ⟨"RSA", false, ["n", "e"]⟩, ⟨"oct", false, ["k"]⟩,
    ⟨"OKP", true, ["x"]⟩]

/-- The curves that keys lie on. -/
def curves : List String :=
  ["P-256", "P-384", "P-521", "Ed25519"]

/-- One of some words: as a text, or as the one key of an object with the value
null. -/
def readOneOf (words : List String) : Reader Json Unit
  | .text word => if word ∈ words then .ok () else wrong (.unknownWord word)
  | .object [(word, .null)] =>
    if word ∈ words then .ok () else wrong (.unknownWord word)
  | document => wrong document.shape.wrongKind

def partName : KeyPart → String
  | .family => "kty"
  | .curve => "crv"
  | .number name => name

variable (family : KeyFamily)

def parts : List KeyPart :=
  .family :: (if family.onCurve then [.curve] else []) ++
    family.numbers.map .number

def readPart : KeyPart → Reader Json Unit
  | .family => readOneOf [family.name]
  | .curve => readOneOf curves
  | .number _ => fun document => (Shape.readText document.shape).map fun _ => ()

@[reducible]
def schema : Schema Json KeyPart :=
  ⟨family.parts, partName, fun _ => Unit, family.readPart⟩

/-- Whether members describe a key of the family: every part of it is there,
once and well. -/
def describedBy (members : Schema.Members Json) : Bool :=
  match family.schema.readMembers (fun _ => none) members with
  | .ok values => family.parts.all fun part => (values part).isSome
  | .error _ => false

end KeyFamily

/-- Whether members describe a key: what they remark is right, and the others
describe a key of some family. -/
def describesKey (members : Schema.Members Json) : Bool :=
  let isRemark := fun (name : Option String) =>
    name.any fun name => (KeyRemark.schema.keyOf? name).isSome
  (KeyRemark.schema.readMembers (fun _ => none) members).isOk &&
    KeyFamily.all.any
      (·.describedBy (members.filter fun member => !isRemark member.1))

/-- Reads a description of a key in which lists and objects nest no deeper than
`depth`. -/
def readKey (depth : Nat) : Reader Json.Outline Unit := fun outline =>
  match outline.document? depth with
  | some (.object members) =>
    if describesKey (members.map fun (name, value) => (some name, value)) then
      .ok ()
    else wrong .illFormed
  | _ => .error .syntaxError

end CivicRegistry.Token
