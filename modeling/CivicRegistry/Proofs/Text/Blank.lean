import CivicRegistry.Text.Blank
import Mathlib.Data.List.TakeWhile

/-!
# Trimmed texts

A trimmed text neither starts nor ends with a blank character, and trimming a
text of that kind changes nothing.  What trimming leaves is empty if all
characters are blank.
-/

namespace CivicRegistry.Text

variable {chars : List Char}

/-- Neither the first nor the last character is blank. -/
structure IsTrimmed (chars : List Char) : Prop where
  head : ∀ c ∈ chars.head?, isBlank c = false
  last : ∀ c ∈ chars.getLast?, isBlank c = false

theorem dropBlank_eq_self (hhead : ∀ c ∈ chars.head?, isBlank c = false) :
    dropBlank chars = chars := by
  cases chars with
  | nil => rfl
  | cons c rest =>
    have hc : isBlank c = false := hhead c rfl
    rw [dropBlank, List.dropWhile_cons_of_neg (by simp [hc])]

theorem head_dropBlank (chars : List Char) :
    ∀ c ∈ (dropBlank chars).head?, isBlank c = false := by
  intro c hc
  have hnot := List.head?_dropWhile_not isBlank chars
  rw [dropBlank] at hc
  rw [Option.mem_def.mp hc] at hnot
  simpa using hnot

/-- What is left between the blank characters starts where they end. -/
theorem trimmed_prefix (chars : List Char) :
    trimmed chars <+: dropBlank chars := by
  rw [trimmed, ← List.reverse_suffix, List.reverse_reverse]
  exact List.dropWhile_suffix isBlank

theorem isTrimmed_trimmed (chars : List Char) : IsTrimmed (trimmed chars) := by
  constructor
  · intro c hc
    obtain ⟨rest, hrest⟩ := trimmed_prefix chars
    apply head_dropBlank chars c
    rw [← hrest, List.head?_append, Option.mem_def.mp hc]
    rfl
  · intro c hc
    rw [trimmed, List.getLast?_reverse] at hc
    exact head_dropBlank _ c hc

theorem IsTrimmed.trimmed_eq (hchars : IsTrimmed chars) :
    trimmed chars = chars := by
  have hlast : ∀ c ∈ chars.reverse.head?, isBlank c = false := by
    rw [List.head?_reverse]
    exact hchars.last
  rw [trimmed, dropBlank_eq_self hchars.head, dropBlank_eq_self hlast,
    List.reverse_reverse]

/-- Without blank characters there is nothing to trim. -/
theorem isTrimmed_of_forall (hchars : ∀ c ∈ chars, isBlank c = false) :
    IsTrimmed chars where
  head c hc := hchars c (List.mem_of_head? hc)
  last c hc := hchars c (List.mem_of_getLast? hc)

theorem trim_eq_self {text : String} (htext : IsTrimmed text.toList) :
    trim text = text := by
  rw [trim, htext.trimmed_eq, String.ofList_toList]

theorem isBlank_of_visible {c : Char} (habove : 32 < c.toNat)
    (hbelow : c.toNat < 127) : isBlank c = false := by
  simp only [isBlank, Bool.or_eq_false_iff, Bool.and_eq_false_iff,
    decide_eq_false_iff_not, beq_eq_false_iff_ne]
  omega

theorem dropBlank_eq_nil_iff :
    dropBlank chars = [] ↔ ∀ c ∈ chars, isBlank c = true :=
  List.dropWhile_eq_nil_iff

theorem trimmed_eq_nil_iff :
    trimmed chars = [] ↔ ∀ c ∈ chars, isBlank c = true := by
  have hreverse : (∀ c ∈ (dropBlank chars).reverse, isBlank c = true) ↔
      dropBlank chars = [] := by
    simp only [List.mem_reverse]
    constructor
    · intro hblank
      cases hrest : dropBlank chars with
      | nil => rfl
      | cons first rest =>
        have hfirst : isBlank first = false :=
          head_dropBlank chars first (by simp [hrest])
        have hmem : first ∈ dropBlank chars := by simp [hrest]
        exact absurd (hblank first hmem) (by simp [hfirst])
    · intro hnil
      simp [hnil]
  calc
    _ ↔ dropBlank (dropBlank chars).reverse = [] := List.reverse_eq_nil_iff
    _ ↔ ∀ c ∈ (dropBlank chars).reverse, isBlank c = true :=
      dropBlank_eq_nil_iff
    _ ↔ dropBlank chars = [] := hreverse
    _ ↔ ∀ c ∈ chars, isBlank c = true := dropBlank_eq_nil_iff

end CivicRegistry.Text
