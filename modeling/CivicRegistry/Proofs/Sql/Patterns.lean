import CivicRegistry.Proofs.Sql.Lowering

/-!
# Patterns of terms

A pattern describes the texts that have its form.  The pattern of a term
describes the texts in which the term occurs and no others, whatever percent
signs, underscores and backslashes are in the term, so that no two terms have
the same pattern.  A condition that asks for a term in a column finds what a
search for the term in the value of the column finds.
-/

namespace CivicRegistry.Sql

/-! ## Forms -/

/-- A text has the form of a pattern: a percent sign stands for any run of
characters and an underscore for any one, a backslash takes the character after
it as it is, and every other character stands for itself. -/
inductive HasForm : List Char → List Char → Prop where
  | ended : HasForm [] []
  | anyRun {pattern rest : List Char} (run : List Char)
      (hrest : HasForm pattern rest) : HasForm ('%' :: pattern) (run ++ rest)
  | anyOne {pattern rest : List Char} (c : Char)
      (hrest : HasForm pattern rest) : HasForm ('_' :: pattern) (c :: rest)
  | escaped {pattern rest : List Char} (c : Char)
      (hrest : HasForm pattern rest) :
      HasForm ('\\' :: c :: pattern) (c :: rest)
  | plain {pattern rest : List Char} {c : Char}
      (hplain : c ≠ '\\' ∧ c ≠ '%' ∧ c ≠ '_')
      (hrest : HasForm pattern rest) : HasForm (c :: pattern) (c :: rest)

variable {pattern text : List Char}

theorem HasForm.of_matchesPattern
    (hmatches : matchesPattern pattern text = true) : HasForm pattern text := by
  fun_induction matchesPattern pattern text with
  | case1 text =>
    rw [List.isEmpty_iff] at hmatches
    exact hmatches ▸ .ended
  | case2 pattern text ih =>
    rw [List.any_eq_true] at hmatches
    obtain ⟨count, -, hrest⟩ := hmatches
    rw [← List.take_append_drop count text]
    exact .anyRun _ (ih count hrest)
  | case4 pattern c text ih => exact .anyOne c (ih hmatches)
  | case6 literal pattern c text ih =>
    rw [Bool.and_eq_true, beq_iff_eq] at hmatches
    obtain ⟨rfl, hrest⟩ := hmatches
    exact .escaped c (ih hrest)
  | case9 literal pattern hpercent hunderscore hescape hdangling c text ih =>
    rw [Bool.and_eq_true, beq_iff_eq] at hmatches
    obtain ⟨rfl, hrest⟩ := hmatches
    refine .plain ⟨fun hbackslash => ?_, hpercent, hunderscore⟩ (ih hrest)
    -- a backslash either takes a character or stands at the end
    cases pattern with
    | nil => exact hdangling hbackslash rfl
    | cons next pattern => exact hescape next pattern hbackslash rfl
  | case3 | case5 | case7 | case8 => contradiction

theorem HasForm.matchesPattern (hform : HasForm pattern text) :
    matchesPattern pattern text = true := by
  induction hform with
  | ended => rfl
  | anyRun run hrest ih =>
    exact (matchesPattern_percent _ _).mpr ⟨_, List.suffix_append run _, ih⟩
  | anyOne c hrest ih => exact ih
  | escaped c hrest ih =>
    rw [Sql.matchesPattern, Bool.and_eq_true, beq_iff_eq]
    exact ⟨rfl, ih⟩
  | @plain pattern rest c hplain hrest ih =>
    have hsame : escapedForLike c = [c] := if_neg (by simpa using hplain)
    have hstep := matchesPattern_escapedForLike_cons c c pattern rest
    rw [hsame, List.singleton_append, ih, beq_self_eq_true] at hstep
    exact hstep

/-- Texts are told apart by patterns as their forms say. -/
theorem hasForm_iff :
    HasForm pattern text ↔ Sql.matchesPattern pattern text = true :=
  ⟨HasForm.matchesPattern, HasForm.of_matchesPattern⟩

/-! ## Patterns of terms -/

/-- The texts of the form of a term's pattern are those in which the term
occurs. -/
theorem hasForm_substringPattern {term : List Char} :
    HasForm (substringPattern term) text ↔ term <:+: text := by
  rw [hasForm_iff, matchesPattern_substringPattern, Text.occursIn_eq_true_iff]

/-- Terms with one pattern occur in each other. -/
theorem substringPattern_injective : Function.Injective substringPattern := by
  intro left right hpattern
  have hoccur (text : List Char) : left <:+: text ↔ right <:+: text := by
    rw [← hasForm_substringPattern, hpattern, hasForm_substringPattern]
  have hleft : left <:+: right := (hoccur right).mpr (List.infix_refl right)
  have hright : right <:+: left := (hoccur left).mp (List.infix_refl left)
  exact hleft.eq_of_length_le hright.length_le

/-! ## Conditions that ask for a term -/

/-- What a condition that asks for a term comes to in a scope: of a text whether
the term is found in it, and of anything else it is unknown. -/
def foundIn (scope : Scope) (column : Column) (term : String) : Truth :=
  ((column.meaning scope).bind Value.text?).map fun text =>
    (Value.text text).satisfies .contains (.text term)

theorem truth_asking {entity : Entity} {column : Column} {field : entity.Field}
    {term : String} {clause : Clause Value} {start : Nat} {scope : Scope}
    (hclause : ofCondition column ⟨field, .contains, .text term⟩ = .ok clause)
    (hsupplies : scope.Supplies start clause.values) :
    (clause.meaning start).truth scope = foundIn scope column term := by
  cases hclause
  exact truth_isLike_lower (hsupplies.parameter (i := 0) rfl)

/-- The texts of the form of a term's pattern are those in which the term
occurs, different terms have different patterns, and the condition on a column
that asks for a term finds it, both in lower case, where the search does. -/
theorem term_patterns_exact :
    (∀ term text : List Char,
      HasForm (substringPattern term) text ↔ term <:+: text) ∧
    Function.Injective substringPattern ∧
    ∀ (entity : Entity) (field : entity.Field) (column : Column)
        (term : String),
      ∃ clause,
        ofCondition column ⟨field, .contains, .text term⟩ = .ok clause ∧
          ∀ (start : Nat) (scope : Scope),
            scope.Supplies start clause.values →
              (clause.meaning start).truth scope =
                foundIn scope column term := by
  refine ⟨fun term text => hasForm_substringPattern,
    substringPattern_injective, fun entity field column term => ?_⟩
  obtain ⟨clause, hclause⟩ : ∃ clause,
      ofCondition column ⟨field, .contains, .text term⟩ = .ok clause := ⟨_, rfl⟩
  exact ⟨clause, hclause, fun start scope hsupplies =>
    truth_asking hclause hsupplies⟩

/-- A scope that supplies the pattern of a term full of signs for patterns, and
shows a text in which the term occurs. -/
def sampleTermScope : Scope where
  tables _ := []
  parameters := [.text "%50\\%\\_\\\\%"]
  functions _ _ := none
  sources _ := [("email", some (.text "Up 50%_\\ OFF"))]

theorem term_patterns_exact_sample :
    HasForm (substringPattern "50%_\\".toList) "50%_\\".toList ∧
      ¬HasForm (substringPattern "50%_\\".toList) "50 5\\".toList ∧
      sampleTermScope.Supplies 0 [.text "%50\\%\\_\\\\%"] ∧
      ∃ clause,
        @ofCondition .users (.own "email")
          ⟨UserField.email, .contains, .text "50%_\\"⟩ = .ok clause ∧
        (clause.meaning 0).truth sampleTermScope = some true := by
  obtain ⟨hforms, -, hconditions⟩ := term_patterns_exact
  have hsupplies : sampleTermScope.Supplies 0
      [.text "%50\\%\\_\\\\%"] := List.prefix_refl _
  refine ⟨(hforms _ _).mpr (List.infix_refl _), ?_, hsupplies, ?_⟩
  · rw [hforms]
    decide
  · obtain ⟨clause, hclause, htruth⟩ := hconditions .users UserField.email
      (.own "email") "50%_\\"
    refine ⟨clause, hclause, ?_⟩
    cases hclause
    rw [htruth 0 sampleTermScope hsupplies]
    rfl

end CivicRegistry.Sql
