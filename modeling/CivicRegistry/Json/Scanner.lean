import CivicRegistry.Json.Passage
import CivicRegistry.Text.Hex

/-!
# Scanning documents

The scanner reads the outline of an input from the left.  Spaces, tabulators and
line ends may stand between the parts of a document.  After a break nothing
further is read.
-/

namespace CivicRegistry.Json

open CivicRegistry.Text (Symbol)

/-- What is left of the input, or nothing after a break. -/
abbrev Remaining := Option (List Symbol)

def isSpace (c : Char) : Bool :=
  c == ' ' || c == '\n' || c == '\t' || c == '\r'

def skipSpace : List Symbol → List Symbol
  | some c :: rest => if isSpace c then skipSpace rest else some c :: rest
  | rest => rest

/-- The piece of an escape of one character. -/
def simpleEscape? (c : Char) : Option Char :=
  if c = '"' ∨ c = '\\' ∨ c = '/' then some c
  else if c = 'b' then some '\x08'
  else if c = 'f' then some '\x0c'
  else if c = 'n' then some '\n'
  else if c = 'r' then some '\r'
  else if c = 't' then some '\t'
  else none

/-- The piece of an escape of four hexadecimal digits. -/
def codeUnit? (digits : List Char) : Option Piece :=
  (Text.hexNumber? digits).map fun unit =>
    if 0xD800 ≤ unit ∧ unit ≤ 0xDFFF then .surrogate unit
    else .char (Char.ofNat unit)

/-- The pieces of a text up to its closing quote, and what follows the quote. -/
def scanText : List Symbol → Option (Pieces × List Symbol)
  | some '"' :: rest => some ([], rest)
  | some '\\' :: some 'u' :: some h₁ :: some h₂ :: some h₃ :: some h₄ :: rest =>
    do
    let piece ← codeUnit? [h₁, h₂, h₃, h₄]
    let (pieces, rest) ← scanText rest
    return (piece :: pieces, rest)
  | some '\\' :: some c :: rest => do
    let c ← simpleEscape? c
    let (pieces, rest) ← scanText rest
    return (.char c :: pieces, rest)
  | some c :: rest =>
    if c = '\\' ∨ c.toNat < 0x20 then none
    else do
      let (pieces, rest) ← scanText rest
      return (.char c :: pieces, rest)
  | none :: rest => do
    let (pieces, rest) ← scanText rest
    return (.stray :: pieces, rest)
  | [] => none

/-- The rest of the input after the characters of a word. -/
def afterWord? : List Char → List Symbol → Remaining
  | [], rest => some rest
  | c :: word, some d :: rest => if c = d then afterWord? word rest else none
  | _ :: _, _ => none

/-- The outline of a word and what follows it. -/
def scanWord (word : String) (meaning : Outline) (input : List Symbol) :
    Outline × Remaining :=
  match afterWord? word.toList input with
  | some rest => (meaning, some rest)
  | none => (.broken, none)

/-- A document that is neither a list nor an object. -/
def scanScalar (input : List Symbol) : Outline × Remaining :=
  match input with
  | some '"' :: rest =>
    match scanText rest with
    | some (pieces, rest) => (.text pieces, some rest)
    | none => (.broken, none)
  | some 'n' :: _ => scanWord "null" .null input
  | some 't' :: _ => scanWord "true" (.boolean true) input
  | some 'f' :: _ => scanWord "false" (.boolean false) input
  | _ =>
    match scanNumber input with
    | some (number, rest) => (.number number, some rest)
    | none => (.broken, none)

mutual

/-- A document at the start of the input.  The first argument bounds the number
of steps. -/
def scanValue : Nat → List Symbol → Outline × Remaining
  | 0, _ => (.broken, none)
  | steps + 1, input =>
    match skipSpace input with
    | some '[' :: rest =>
      match skipSpace rest with
      | some ']' :: rest => (.array [] true, some rest)
      | rest =>
        let (items, closed, rest) := scanItems steps rest
        (.array items closed, rest)
    | some '\x7b' :: rest =>
      match skipSpace rest with
      | some '\x7d' :: rest => (.object [] true, some rest)
      | rest =>
        let (members, closed, rest) := scanMembers steps rest
        (.object members closed, rest)
    | rest => scanScalar rest

/-- The items of a list, at least one, up to its bracket. -/
def scanItems : Nat → List Symbol → List Outline × Bool × Remaining
  | 0, _ => ([], false, none)
  | steps + 1, input =>
    match scanValue steps input with
    | (item, none) => ([item], false, none)
    | (item, some rest) =>
      match skipSpace rest with
      | some ']' :: rest => ([item], true, some rest)
      | some ',' :: rest =>
        let (items, closed, rest) := scanItems steps rest
        (item :: items, closed, rest)
      | _ => ([item], false, none)

/-- The members of an object, at least one, up to its brace. -/
def scanMembers : Nat → List Symbol → List (Pieces × Outline) × Bool × Remaining
  | 0, _ => ([], false, none)
  | steps + 1, input =>
    match skipSpace input with
    | some '"' :: rest =>
      match scanText rest with
      | none => ([], false, none)
      | some (name, rest) =>
        match scanNamed steps rest with
        | (value, none) => ([(name, value)], false, none)
        | (value, some rest) =>
          match skipSpace rest with
          | some '\x7d' :: rest => ([(name, value)], true, some rest)
          | some ',' :: rest =>
            let (members, closed, rest) := scanMembers steps rest
            ((name, value) :: members, closed, rest)
          | _ => ([(name, value)], false, none)
    | _ => ([], false, none)

/-- A colon and the document after it. -/
def scanNamed : Nat → List Symbol → Outline × Remaining
  | 0, _ => (.broken, none)
  | steps + 1, input =>
    match skipSpace input with
    | some ':' :: rest => scanValue steps rest
    | _ => (.broken, none)

end

/-- The steps that are enough for an input: reading a symbol takes at most
three. -/
def enoughSteps (input : List Symbol) : Nat :=
  3 * input.length + 3

/-- The outline of an input and what follows the document. -/
def scan (input : List Symbol) : Outline × Remaining :=
  scanValue (enoughSteps input) input

/-- The outline of the first document of an input. -/
def outline (input : List Symbol) : Outline :=
  (scan input).1

/-- The deepest nesting of lists and objects that is read. -/
def depthLimit : Nat := 127

/-- The outline of an input that holds one document with nothing but spaces
after it. -/
def wholeOutline? (input : List Symbol) : Option Outline :=
  match scan input with
  | (outline, some rest) =>
    if (skipSpace rest).isEmpty then some outline else none
  | (_, none) => none

/-- The document that an input holds, with nothing but spaces after it. -/
def parse? (input : List Symbol) : Option Json :=
  (wholeOutline? input).bind (·.document? depthLimit)

end CivicRegistry.Json
