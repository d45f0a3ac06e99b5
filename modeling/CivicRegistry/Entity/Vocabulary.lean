import CivicRegistry.Naming

/-!
# Vocabularies

A vocabulary is a finite list of values, each written as one word in upper
case.  A word is read leniently, blanks around it and its case not counting, or
exactly.
-/

namespace CivicRegistry

/-- A type whose values can be listed. -/
class Enumeration (α : Type) where
  all : List α
  mem_all (value : α) : value ∈ all

namespace Enumeration

variable {α ε : Type} [Enumeration α] {β : α → Type}

/-- The error of a result. -/
def error? {γ : Type} : Except ε γ → Option ε
  | .ok _ => none
  | .error error => some error

/-- The value of a result that is no error. -/
def get {γ : Type} : (result : Except ε γ) → error? result = none → γ
  | .ok value, _ => value

/-- A function from results for every value; the first error in the order of the
enumeration is the error of all. -/
def sequence (results : (value : α) → Except ε (β value)) :
    Except ε ((value : α) → β value) :=
  match h : all.findSome? fun value => error? (results value) with
  | some error => .error error
  | none =>
    .ok fun value =>
      get (results value) (List.findSome?_eq_none_iff.1 h value (mem_all value))

end Enumeration

/-- A type whose values are written as words; `title` names it in messages. -/
class Vocabulary (α : Type) extends Enumeration α where
  title : String
  word : α → String

/-- A word that is not of a vocabulary. -/
structure UnknownWord where
  title : String
  word : String
deriving DecidableEq

def UnknownWord.message (error : UnknownWord) : String :=
  "Unknown " ++ error.title ++ " value '" ++ error.word ++ "'"

namespace Vocabulary

variable {α : Type} [Vocabulary α]

/-- The value with exactly this word. -/
def ofWord? (word : String) : Option α :=
  (Enumeration.all (α := α)).find? fun value => Vocabulary.word value == word

/-- The value of a word in any case with blanks around it. -/
def parse (word : String) : Except UnknownWord α :=
  match ofWord? (α := α) (Naming.canonicalToken word) with
  | some value => .ok value
  | none => .error ⟨title α, word⟩

end Vocabulary

/-- What a user may do. -/
inductive Role where
  | superadmin
  | admin
  | editor
  | viewer
deriving DecidableEq, Inhabited

instance : Vocabulary Role where
  all := [.superadmin, .admin, .editor, .viewer]
  mem_all value := by cases value <;> decide
  title := "RoleType"
  word
    | .superadmin => "SUPERADMIN"
    | .admin => "ADMIN"
    | .editor => "EDITOR"
    | .viewer => "VIEWER"

/-- The post a user holds in an office. -/
inductive OfficePost where
  | chiefAdministrativeOfficer
  | wardSecretary
  | informationOfficer
  | itOfficer
  | dataEntryOperator
  | other
deriving DecidableEq, Inhabited

instance : Vocabulary OfficePost where
  all :=
    [.chiefAdministrativeOfficer, .wardSecretary, .informationOfficer,
      .itOfficer, .dataEntryOperator, .other]
  mem_all value := by cases value <;> decide
  title := "OfficePost"
  word
    | .chiefAdministrativeOfficer => "CHIEF_ADMINISTRATIVE_OFFICER"
    | .wardSecretary => "WARD_SECRETARY"
    | .informationOfficer => "INFORMATION_OFFICER"
    | .itOfficer => "IT_OFFICER"
    | .dataEntryOperator => "DATA_ENTRY_OPERATOR"
    | .other => "OTHER"

/-- By what right a family lives in its house. -/
inductive HouseOwnership where
  | owned
  | rented
  | institutional
  | other
deriving DecidableEq, Inhabited

instance : Vocabulary HouseOwnership where
  all := [.owned, .rented, .institutional, .other]
  mem_all value := by cases value <;> decide
  title := "HouseOwnership"
  word
    | .owned => "OWNED"
    | .rented => "RENTED"
    | .institutional => "INSTITUTIONAL"
    | .other => "OTHER"

inductive MunicipalityType where
  | metropolitanCity
  | subMetropolitanCity
  | municipality
  | ruralMunicipality
deriving DecidableEq, Inhabited

instance : Vocabulary MunicipalityType where
  all :=
    [.metropolitanCity, .subMetropolitanCity, .municipality, .ruralMunicipality]
  mem_all value := by cases value <;> decide
  title := "MunicipalityType"
  word
    | .metropolitanCity => "METROPOLITAN_CITY"
    | .subMetropolitanCity => "SUB_METROPOLITAN_CITY"
    | .municipality => "MUNICIPALITY"
    | .ruralMunicipality => "RURAL_MUNICIPALITY"

end CivicRegistry
