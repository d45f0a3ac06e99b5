import CivicRegistry.Predicate.Builder
import CivicRegistry.Proofs.Predicate.Combination
import CivicRegistry.Proofs.Text.Lowercase
import Mathlib.Data.List.Forall2

/-!
# Searching for a term

A term is looked for in the lower-case forms of the texts that a row shows.  A
term that stands in one of the texts, letter for letter, is found there unless
one of its capital sigmas ends a word in one of the two and not in the other.
Letters of ASCII match whatever their case.
-/

namespace CivicRegistry

namespace Value

/-- The texts that a value shows: its own, or those of its elements. -/
def texts : Value → List String
  | .list elements => elements.filterMap text?
  | single => single.text?.toList

theorem satisfies_contains (value : Value) (term : String) :
    value.satisfies .contains (.text term) =
      value.text?.any (containsText · term) := by
  cases value <;> rfl

theorem anySatisfies_contains (value : Value) (term : String) :
    value.anySatisfies .contains (.text term) =
      value.texts.any (containsText · term) := by
  have hsingle : value.satisfies .contains (.text term) =
      value.text?.toList.any (containsText · term) := by
    rw [satisfies_contains]
    cases value.text? <;> simp
  cases value with
  | list elements =>
    rw [texts, List.any_filterMap, anySatisfies]
    refine congrArg elements.any (funext fun element => ?_)
    rw [satisfies_contains]
    cases element.text? <;> rfl
  | _ => exact hsingle

end Value

variable {entity : Entity}

/-- The texts that some attributes of a row show. -/
def Row.texts (row : Row entity) (fields : List entity.Field) : List String :=
  fields.flatMap fun field => (row.get field).elim [] Value.texts

namespace Specification

variable (row : Row entity) (fields : List entity.Field) {term : String}

theorem effectiveTerm_some (given : String) :
    effectiveTerm (some given) =
      if Text.trim given = "" then none else some (Text.trim given) := by
  simp [effectiveTerm, Option.filter_some, ite_not]

/-- A search in no attributes at all asks for nothing. -/
theorem holds_searching_some (hterm : Text.trim term ≠ "") :
    (searching (some term) fields).predicate.holds row = true ↔
      fields = [] ∨ ∃ held ∈ row.texts fields,
        Text.lowercase (Text.trim term).toList <:+:
          Text.lowercase held.toList := by
  have hcontains : ∀ field : entity.Field,
      (condition field .contains (.text (Text.trim term))).holds row = true ↔
        ∃ held ∈ (row.get field).elim [] Value.texts,
          Text.lowercase (Text.trim term).toList <:+:
            Text.lowercase held.toList := by
    intro field
    rw [condition, Predicate.holds, Condition.holds]
    cases row.get field with
    | none => simp
    | some value =>
      rw [Option.any_some, Value.anySatisfies_contains, List.any_eq_true]
      simp only [Value.containsText, Text.occursIn_eq_true_iff,
        Option.elim_some]
  rw [searching, effectiveTerm_some, if_neg hterm]
  show (Predicate.anyOf _).holds row = true ↔ _
  rw [Predicate.holds_anyOf, Bool.or_eq_true, List.isEmpty_map,
    List.isEmpty_iff, List.any_map, List.any_eq_true]
  simp only [Function.comp_apply, hcontains, Row.texts, List.mem_flatMap]
  grind

/-- A term that stands undisturbed in a text that is shown is found. -/
theorem holds_searching_of_undisturbed (hterm : Text.trim term ≠ "")
    {held : String} (hheld : held ∈ row.texts fields) {before after : List Char}
    (hplace : held.toList = before ++ (Text.trim term).toList ++ after)
    (hundisturbed : Text.Undisturbed before (Text.trim term).toList after) :
    (searching (some term) fields).predicate.holds row = true := by
  rw [holds_searching_some row fields hterm]
  refine .inr ⟨held, hheld, ?_⟩
  rw [hplace]
  exact hundisturbed.lowercase_infix

theorem exists_lowercase_iff {texts others : List String}
    (hsame : List.Forall₂ Text.SameLetters texts others)
    (p : List Char → Prop) :
    (∃ held ∈ texts, p (Text.lowercase held.toList)) ↔
      ∃ held ∈ others, p (Text.lowercase held.toList) := by
  induction hsame with
  | nil => rfl
  | cons hletters _ ih =>
    rw [List.exists_mem_cons_iff, List.exists_mem_cons_iff,
      hletters.lowercase_eq, ih]

/-- The case of letters of ASCII does not matter to a search. -/
theorem holds_searching_same_letters (hterm : Text.trim term ≠ "")
    {other : Row entity} {variant : String}
    (hvariant : Text.SameLetters term variant)
    (hother : List.Forall₂ Text.SameLetters (row.texts fields)
      (other.texts fields)) :
    (searching (some variant) fields).predicate.holds other =
      (searching (some term) fields).predicate.holds row := by
  have hpresent : Text.trim variant ≠ "" :=
    mt hvariant.trim.eq_empty_iff.mpr hterm
  rw [Bool.eq_iff_iff, holds_searching_some other fields hpresent,
    holds_searching_some row fields hterm, hvariant.trim.lowercase_eq]
  exact or_congr_right (exists_lowercase_iff hother _).symm

/-- A row is found exactly if the lower case of the term occurs in that of a
text that the row shows.  Where the term stands in the text letter for letter,
its lower case stands in the same place exactly if the term is undisturbed
there, and then the row is found; a term without a capital sigma is undisturbed
everywhere, and any term where it stands apart from other letters.  Changing the
case of letters of ASCII, in the term and in the row, makes no difference. -/
theorem searched_in_texts (hterm : Text.trim term ≠ "") :
    ((searching (some term) fields).predicate.holds row = true ↔
      fields = [] ∨ ∃ held ∈ row.texts fields,
        Text.lowercase (Text.trim term).toList <:+:
          Text.lowercase held.toList) ∧
    (∀ held ∈ row.texts fields, ∀ before after : List Char,
      held.toList = before ++ (Text.trim term).toList ++ after →
        (Text.lowercase (Text.trim term).toList <+:
            (Text.lowercase held.toList).drop (Text.lowercase before).length ↔
          Text.Undisturbed before (Text.trim term).toList after) ∧
        (Text.Undisturbed before (Text.trim term).toList after →
          (searching (some term) fields).predicate.holds row = true) ∧
        ('Σ' ∉ (Text.trim term).toList ∨
            Text.reachesCased before.reverse = false ∧
              Text.reachesCased after = false →
          Text.Undisturbed before (Text.trim term).toList after)) ∧
    ∀ (other : Row entity) (variant : String),
      Text.SameLetters term variant →
      List.Forall₂ Text.SameLetters (row.texts fields) (other.texts fields) →
        (searching (some variant) fields).predicate.holds other =
          (searching (some term) fields).predicate.holds row := by
  refine ⟨holds_searching_some row fields hterm, ?_, ?_⟩
  · intro held hheld before after hplace
    refine ⟨?_,
      holds_searching_of_undisturbed row fields hterm hheld hplace, ?_⟩
    · rw [hplace]
      exact Text.lowercase_in_place
    · rintro (hnone | ⟨hbefore, hafter⟩)
      · exact Text.undisturbed_of_not_mem hnone
      · exact Text.undisturbed_of_apart hbefore hafter
  · intro other variant hvariant hother
    exact holds_searching_same_letters row fields hterm hvariant hother

/-- A province of the given name. -/
def sampleNamed (name : String) : Row .provinces
  | .id => ⟨1#128⟩
  | .name => name
  | .nameNepali => none
  | .areaSqKm => none
  | .population => none
  | .headquarter => none
  | .headquarterNepali => none
  | .districtCount => (0 : Int)
  | .createdAt => ⟨0, 0⟩
  | .updatedAt => ⟨0, 0⟩

/-- The name alone. -/
def sampleFields : List Entity.provinces.Field := [ProvinceField.name]

/-- The last sigma of the first term ends a word only while the term stands
alone, so the name is missed; the sigmas of the second term are undisturbed. -/
theorem searched_in_texts_sample :
    Text.trim "ΚΩΣ" ≠ "" ∧ Text.trim " ΣΤΑΣ Smith" ≠ "" ∧
    "ΚΩΣΤΑΣ Smith".toList =
      [] ++ (Text.trim "ΚΩΣ").toList ++ "ΤΑΣ Smith".toList ∧
    (searching (some "ΚΩΣ") sampleFields).predicate.holds
        (sampleNamed "ΚΩΣΤΑΣ Smith") = false ∧
    (searching (some " ΣΤΑΣ Smith") sampleFields).predicate.holds
        (sampleNamed "ΚΩΣΤΑΣ Smith") = true ∧
    (searching (some " ΣΤΑΣ sMITH") sampleFields).predicate.holds
        (sampleNamed "ΚΩΣΤΑΣ SMith") = true := by
  have hmissed : Text.trim "ΚΩΣ" ≠ "" := by decide
  have hfound : Text.trim " ΣΤΑΣ Smith" ≠ "" := by decide
  obtain ⟨hexact, -, -⟩ :=
    searched_in_texts (sampleNamed "ΚΩΣΤΑΣ Smith") sampleFields hmissed
  obtain ⟨-, hplaces, hletters⟩ :=
    searched_in_texts (sampleNamed "ΚΩΣΤΑΣ Smith") sampleFields hfound
  have hundisturbed : Text.Undisturbed "ΚΩ".toList
      (Text.trim " ΣΤΑΣ Smith").toList [] := by decide +kernel
  have hholds := (hplaces "ΚΩΣΤΑΣ Smith" (List.mem_singleton_self _)
    "ΚΩ".toList [] (by decide)).2.1 hundisturbed
  refine ⟨hmissed, hfound, by decide, ?_, hholds, ?_⟩
  · rw [Bool.eq_false_iff, ne_eq, hexact]
    rintro (hnone | ⟨held, hheld, hoccurs⟩)
    · cases hnone
    · obtain rfl : held = "ΚΩΣΤΑΣ Smith" := List.mem_singleton.mp hheld
      revert hoccurs
      decide +kernel
  · have hname : Text.SameLetters "ΚΩΣΤΑΣ Smith" "ΚΩΣΤΑΣ SMith" := by decide
    rw [hletters (sampleNamed "ΚΩΣΤΑΣ SMith") " ΣΤΑΣ sMITH" (by decide)
      (.cons hname .nil)]
    exact hholds

end Specification

end CivicRegistry
