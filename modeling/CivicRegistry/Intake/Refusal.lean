import CivicRegistry.Entity.Token
import CivicRegistry.Json.Scanner
import CivicRegistry.Text.Occurrence

/-!
# Refusals of documents

A document is refused because it is not one, or because something in it is not
what is asked for.  The second kind keeps what it repeats of the document: a
text of the wrong kind, an unknown word, or a token.
-/

namespace CivicRegistry

/-- What is wrong with a value of a document. -/
inductive Mismatch where
  /-- A value of another kind; the text if it is one. -/
  | wrongKind (text : Option String)
  /-- A word that is not among those allowed. -/
  | unknownWord (word : String)
  | unknownField (error : UnknownField)
  | notSortable (token : String)
  /-- A number beyond its range or a text that is not in its written form. -/
  | illFormed
  /-- A key that stands twice. -/
  | repeated
  /-- A key or an item that has to be there. -/
  | missing
deriving DecidableEq

/-- Why a document is refused. -/
inductive Refusal where
  | syntaxError
  | mismatch (cause : Mismatch)
deriving DecidableEq

namespace Mismatch

/-- The mark by which messages about unknown attributes are told from others. -/
def unknownFieldMark : String := "Unknown field:"

/-- What the message of a mismatch takes over from the document or says about it
in words of its own. -/
def wording : Mismatch → String
  | .wrongKind text => text.getD ""
  | .unknownWord word => word
  | .unknownField error => error.message
  | .notSortable token => (SortRefusal.notSortable token).message
  | .illFormed => ""
  | .repeated => ""
  | .missing => ""

/-- Whether the message of a mismatch bears the mark of an unknown attribute. -/
def mentionsUnknownField (cause : Mismatch) : Bool :=
  Text.occursIn unknownFieldMark.toList cause.wording.toList

/-- The part of the message that names an attribute token. -/
def detail : Mismatch → Option String
  | .unknownField error => some error.message
  | .notSortable token => some (SortRefusal.notSortable token).message
  | _ => none

end Mismatch

/-- The message of a refusal. -/
def Refusal.message : Refusal → String
  | .syntaxError => "Failed to parse the request body as JSON"
  | .mismatch cause =>
    "Failed to deserialize the JSON body into the target type" ++
      cause.detail.elim "" (": " ++ ·)

end CivicRegistry
