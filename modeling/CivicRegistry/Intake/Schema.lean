import CivicRegistry.Intake.Shape

/-!
# Reading objects by their keys

A schema lists the keys of an object that are read and how.  Members are checked
in the order in which they stand: the first that is wrong, or that repeats a key
of the schema, refuses the object.  The values are then looked up by their keys,
so the order of the members of an accepted object does not matter.
-/

namespace CivicRegistry

structure Schema (Source Key : Type) where
  keys : List Key
  name : Key → String
  Carrier : Key → Type
  read : (key : Key) → Reader Source (Carrier key)

namespace Schema

variable {Source Key : Type}

/-- Members of an object; a name that cannot be decoded is none. -/
abbrev Members (Source : Type) := List (Option String × Source)

/-- The values of an object under the keys of a schema. -/
abbrev Values (schema : Schema Source Key) :=
  (key : Key) → Option (schema.Carrier key)

def keyOf? (schema : Schema Source Key) (name : String) : Option Key :=
  schema.keys.find? fun key => schema.name key == name

/-- The refusal of one member: a key of the schema must be new and its value
readable; what stands under any other key is judged by `other`. -/
def memberRefusal? [DecidableEq Key] (schema : Schema Source Key)
    (other : Source → Option Refusal)
    (seen : List Key) (name : String) (source : Source) : Option Refusal :=
  match schema.keyOf? name with
  | none => other source
  | some key =>
    if key ∈ seen then some (.mismatch .repeated)
    else
      match schema.read key source with
      | .ok _ => none
      | .error refusal => some refusal

/-- The first refusal among some members that follow the keys `seen`. -/
def refusal? [DecidableEq Key] (schema : Schema Source Key)
    (other : Source → Option Refusal) :
    List Key → Members Source → Option Refusal
  | _, [] => none
  | _, (none, _) :: _ => some .syntaxError
  | seen, (some name, source) :: others =>
    match schema.memberRefusal? other seen name source with
    | some refusal => some refusal
    | none => refusal? schema other ((schema.keyOf? name).toList ++ seen) others

/-- The value under a key. -/
def values (schema : Schema Source Key) (members : Members Source) :
    schema.Values := fun key =>
  (members.lookup (some (schema.name key))).bind fun source =>
    (schema.read key source).toOption

/-- The values of some members, unless one of them is refused. -/
def readMembers [DecidableEq Key] (schema : Schema Source Key)
    (other : Source → Option Refusal)
    (members : Members Source) : Except Refusal schema.Values :=
  match schema.refusal? other [] members with
  | some refusal => .error refusal
  | none => .ok (schema.values members)

/-- The members of an outline with their names decoded. -/
def decodedMembers (members : List (Json.Pieces × Json.Outline)) :
    Members Json.Outline :=
  members.map fun (pieces, value) => (pieces.text?, value)

/-- The values of an object that is read to its end; any other document is
refused. -/
def readObject [DecidableEq Key] (schema : Schema Json.Outline Key)
    (other : Json.Outline → Option Refusal) :
    Reader Json.Outline schema.Values
  | .object members closed => do
    let values ← schema.readMembers other (decodedMembers members)
    if closed then return values else .error .syntaxError
  | outline => do wrong (← outline.shape).wrongKind

/-- The refusal of a list of values in the order of some keys, of which each
must have one. -/
def listRefusal? (schema : Schema Source Key) :
    List Key → List Source → Option Refusal
  | [], [] => none
  | [], _ :: _ => some .syntaxError
  | _ :: _, [] => some (.mismatch .missing)
  | key :: keys, source :: others =>
    match schema.read key source with
    | .ok _ => listRefusal? schema keys others
    | .error refusal => some refusal

/-- The values of an object or of a list with one value for each key, read to
its end. -/
def readRecord [DecidableEq Key] (schema : Schema Json.Outline Key)
    (other : Json.Outline → Option Refusal) :
    Reader Json.Outline schema.Values
  | .array items closed =>
    match schema.listRefusal? schema.keys items with
    | some (.mismatch .missing) =>
      if closed then wrong .missing else .error .syntaxError
    | some refusal => .error refusal
    | none =>
      if closed then
        .ok fun key => ((schema.keys.zip items).lookup key).bind fun source =>
          (schema.read key source).toOption
      else .error .syntaxError
  | outline => schema.readObject other outline

end Schema

end CivicRegistry
