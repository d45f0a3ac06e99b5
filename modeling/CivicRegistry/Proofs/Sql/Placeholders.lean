import CivicRegistry.Proofs.Sql.ClauseText

/-!
# The placeholders in texts

A dollar sign and the digits after it are a placeholder.  No run of characters
goes over the seam between two fragments of a clause, so the placeholders in the
text of a clause are those of its fragments, in their order, and their numbers
can be raised in the text as in the fragments.
-/

namespace CivicRegistry.Sql

/-! ## Texts -/

/-- The number of the placeholder that a run of characters is, if it is one. -/
def placeholderNumber? : List Char → Option Nat
  | '$' :: digits => some (numeral digits)
  | _ => none

/-- The numbers of the placeholders in a text, from left to right. -/
def mentioned (text : List Char) : List Nat :=
  (runs text).filterMap placeholderNumber?

/-- A run of characters with its number raised if it is a placeholder. -/
def raisedRun (distance : Nat) : List Char → List Char
  | '$' :: digits => '$' :: Nat.toDigits 10 (numeral digits + distance)
  | run => run

/-- The text with the numbers of all placeholders raised. -/
def raised (distance : Nat) (text : List Char) : List Char :=
  (runs text).flatMap (raisedRun distance)

theorem runs_placeholder (number : Nat) :
    runs ('$' :: Nat.toDigits 10 number) = ['$' :: Nat.toDigits 10 number] := by
  apply runs_word (Or.inr rfl)
  intro char hchar
  have hdigit := Nat.isDigit_of_mem_toDigits (by decide) (by decide) hchar
  simp [isNameChar, Char.isAlphanum, hdigit]

/-- The runs of a text put together are the text. -/
theorem flatten_runs (text : List Char) : (runs text).flatten = text :=
  List.flatten_splitBy continues text

theorem ne_dollar_of_mem_runs {text run : List Char} (htext : '$' ∉ text)
    (hrun : run ∈ runs text) (digits : List Char) : run ≠ '$' :: digits := by
  rintro rfl
  apply htext
  rw [← flatten_runs text]
  exact List.mem_flatten_of_mem hrun List.mem_cons_self

theorem mentioned_eq_nil {text : List Char} (htext : '$' ∉ text) :
    mentioned text = [] := by
  rw [mentioned, List.filterMap_eq_nil_iff]
  intro run hrun
  have hne := ne_dollar_of_mem_runs htext hrun
  rw [placeholderNumber?.eq_def]
  split
  · exact absurd rfl (hne _)
  · rfl

theorem raised_eq_self {text : List Char} (htext : '$' ∉ text)
    (distance : Nat) : raised distance text = text := by
  have hself : ∀ run ∈ runs text, raisedRun distance run = run := by
    intro run hrun
    have hne := ne_dollar_of_mem_runs htext hrun
    rw [raisedRun.eq_def]
    split
    · exact absurd rfl (hne _)
    · rfl
  rw [raised, List.flatMap_congr hself, List.flatMap_id', flatten_runs]

/-! ## Fragments -/

namespace Fragment

def number? : Fragment → Option Nat
  | .text _ => none
  | .placeholder number => some number

def raised (distance : Nat) : Fragment → Fragment
  | .text sql => .text sql
  | .placeholder number => .placeholder (number + distance)

/-- What is no placeholder has no dollar sign in it. -/
def IsPlain : Fragment → Prop
  | .text sql => '$' ∉ sql.toList
  | .placeholder _ => True

theorem isPlain_placeholder (number : Nat) :
    (Fragment.placeholder number).IsPlain := trivial

theorem mentioned_sql {fragment : Fragment} (hplain : fragment.IsPlain) :
    mentioned fragment.sql.toList = fragment.number?.toList := by
  cases fragment with
  | text sql => exact mentioned_eq_nil hplain
  | placeholder number =>
    rw [toList_placeholder, mentioned, runs_placeholder]
    simp [placeholderNumber?, number?, numeral]

theorem raised_sql {fragment : Fragment} (hplain : fragment.IsPlain)
    (distance : Nat) :
    Sql.raised distance fragment.sql.toList =
      (fragment.raised distance).sql.toList := by
  cases fragment with
  | text sql => exact raised_eq_self hplain distance
  | placeholder number =>
    rw [raised, toList_placeholder, toList_placeholder, Sql.raised,
      runs_placeholder]
    simp [raisedRun, numeral]

end Fragment

/-- No run of characters goes over the seam between two of the fragments, and
only placeholders have dollar signs in them. -/
structure Legible (fragments : List Fragment) : Prop where
  runs : runs (chars fragments) =
    fragments.flatMap fun fragment => runs fragment.sql.toList
  plain : ∀ fragment ∈ fragments, fragment.IsPlain

namespace Legible

variable {fragments left right : List Fragment}

theorem nil : Legible [] := ⟨rfl, nofun⟩

theorem singleton {fragment : Fragment} (hplain : fragment.IsPlain) :
    Legible [fragment] := by
  constructor
  · simp [chars]
  · simpa using hplain

theorem append (hleft : Legible left) (hright : Legible right)
    (hapart : Apart (chars left) (chars right)) : Legible (left ++ right) where
  runs := by
    rw [chars_append, runs_append hapart, hleft.runs, hright.runs,
      List.flatMap_append]
  plain := by
    rw [List.forall_mem_append]
    exact ⟨hleft.plain, hright.plain⟩

theorem cons_placeholder (number : Nat) (hfragments : Legible fragments)
    (hhead :
      (chars fragments).head?.all (fun char => !isNameChar char) = true) :
    Legible (.placeholder number :: fragments) :=
  (singleton (Fragment.isPlain_placeholder number)).append hfragments
    (apart_of_head hhead)

/-- A placeholder begins a run. -/
theorem cons_text {sql : String} (hsql : '$' ∉ sql.toList) {number : Nat}
    (hfragments : Legible (.placeholder number :: fragments)) :
    Legible (.text sql :: .placeholder number :: fragments) := by
  have hplain : (Fragment.text sql).IsPlain := hsql
  apply (singleton hplain).append hfragments
  apply apart_of_head
  rw [chars_cons, Fragment.toList_placeholder]
  rfl

theorem mentioned_chars (hlegible : Legible fragments) :
    mentioned (chars fragments) = fragments.filterMap Fragment.number? := by
  rw [mentioned, hlegible.runs, List.filterMap_flatMap,
    List.filterMap_eq_flatMap_toList]
  exact List.flatMap_congr fun fragment hfragment =>
    Fragment.mentioned_sql (hlegible.plain fragment hfragment)

theorem raised_chars (hlegible : Legible fragments) (distance : Nat) :
    raised distance (chars fragments) =
      chars (fragments.map (Fragment.raised distance)) := by
  rw [raised, hlegible.runs, List.flatMap_assoc, chars, List.flatMap_map]
  exact List.flatMap_congr fun fragment hfragment =>
    Fragment.raised_sql (hlegible.plain fragment hfragment) distance

end Legible

/-! ## Clauses -/

theorem Separates.legible {separator : String} {marks : List Piece}
    (hseparates : Separates separator marks) (hplain : '$' ∉ separator.toList)
    {parts : List (List Fragment)} (hparts : ∀ part ∈ parts, Legible part) :
    Legible (separated separator parts) := by
  induction parts with
  | nil => exact .nil
  | cons part others ih =>
    rw [List.forall_mem_cons] at hparts
    cases others with
    | nil => exact hparts.1
    | cons second others =>
      have htext : chars [.text separator] = separator.toList := by
        simp [chars, Fragment.sql]
      have hmark : (Fragment.text separator).IsPlain := hplain
      have hafter : Legible (.text separator :: separated separator
          (second :: others)) := by
        apply (Legible.singleton hmark).append (ih hparts.2)
        rw [htext]
        exact apart_of_last hseparates.last
      apply hparts.1.append hafter
      rw [chars_cons]
      exact hseparates.apart _ _

theorem dollar_not_mem_identifier {name : String}
    (hname : isIdentifier name.toList = true) : '$' ∉ name.toList := by
  intro hdollar
  have hstart : isNameStart '$' = false := rfl
  have hchar : isNameChar '$' = false := rfl
  rw [isIdentifier.eq_def] at hname
  split at hname
  · cases hname
  · next first rest hchars =>
    rw [Bool.and_eq_true, List.all_eq_true] at hname
    rw [hchars] at hdollar
    rcases List.mem_cons.mp hdollar with rfl | hrest
    · exact Bool.false_ne_true (hstart.symm.trans hname.1)
    · exact Bool.false_ne_true (hchar.symm.trans (hname.2 _ hrest))

theorem dollar_not_mem_quoted {name : String}
    (hname : isIdentifier name.toList = true) :
    '$' ∉ (quoted name).toList := by
  simp [quoted, dollar_not_mem_identifier hname]

theorem Column.dollar_not_mem_sql {column : Column}
    (hcolumn : column.WellNamed) : '$' ∉ column.sql.toList := by
  cases column with
  | own name =>
    have hname : '$' ∉ (quoted name).toList := dollar_not_mem_quoted hcolumn
    unfold sql
    simp [hname]
  | element collection valueColumn =>
    obtain ⟨hcollection, hvalue⟩ := hcolumn
    unfold sql
    simp [dollar_not_mem_quoted hcollection, dollar_not_mem_quoted hvalue]
  | count collection =>
    obtain ⟨htable, hkey⟩ := hcolumn
    unfold sql
    simp [dollar_not_mem_quoted htable, dollar_not_mem_quoted hkey]

namespace Clause

variable {α : Type}

theorem legible_group {separator : String} {parts : List (List Fragment)}
    (hparts : Legible (separated separator parts)) :
    Legible (group separator parts) := by
  have hplain (sql : String) (hsql : '$' ∉ sql.toList) :
      Legible [.text sql] := .singleton hsql
  rw [group]
  split
  · exact hplain "1=1" (by decide)
  · have hopened := (hplain "(" (by decide)).append hparts (apart_of_last rfl)
    exact hopened.append (hplain ")" (by decide)) (apart_of_head rfl)

theorem legible_placeholders (start count : Nat) :
    ∀ part ∈ placeholders start count, Legible part := by
  rw [placeholders, List.forall_mem_map]
  exact fun i _ => .singleton (Fragment.isPlain_placeholder (start + i + 1))

theorem legible_near {latitude longitude : Column}
    (hlatitude : latitude.WellNamed) (hlongitude : longitude.WellNamed)
    (start : Nat) : Legible (nearFragments latitude longitude start) := by
  have hlat := Column.dollar_not_mem_sql hlatitude
  have hlng := Column.dollar_not_mem_sql hlongitude
  have hclosing : (Fragment.text ")").IsPlain := by simp [Fragment.IsPlain]
  unfold nearFragments
  refine .cons_text (by simp [hlat, hlng]) (.cons_placeholder _ ?_ ?_)
  · refine .cons_text (by simp [hlat, hlng]) (.cons_placeholder _ ?_ rfl)
    refine .cons_text (by simp) (.cons_placeholder _ ?_ ?_)
    · exact .cons_text (by simp [hlat])
        (.cons_placeholder _ (.singleton hclosing) rfl)
    · simp [chars, Fragment.sql]
      rfl
  · simp [chars, Fragment.sql]
    rfl

mutual

/-- Every clause whose columns are well named is written in legible
fragments. -/
theorem legible_fragments (start : Nat) (clause : Clause α)
    (hcolumns : ∀ column ∈ clause.columns, column.WellNamed) :
    Legible (clause.fragments start) := by
  cases clause with
  | always =>
    rw [fragments]
    exact .singleton (by simp [Fragment.IsPlain])
  | all parts =>
    have hparts := legible_partFragments start parts hcolumns
    rw [fragments]
    exact legible_group (separates_and.legible (by simp) hparts)
  | any parts =>
    have hparts := legible_partFragments start parts hcolumns
    rw [fragments]
    exact legible_group (separates_or.legible (by simp) hparts)
  | compare column relation value =>
    have hcolumn := Column.dollar_not_mem_sql
      (hcolumns column (by simp [columns]))
    rw [fragments]
    exact .cons_text (by cases relation <;> simp [Relation.sql, hcolumn])
      (.singleton (Fragment.isPlain_placeholder _))
  | like column pattern =>
    have hcolumn := Column.dollar_not_mem_sql
      (hcolumns column (by simp [columns]))
    rw [fragments]
    exact .cons_text (by simp [hcolumn])
      (.singleton (Fragment.isPlain_placeholder _))
  | oneOf column values =>
    have hcolumn := Column.dollar_not_mem_sql
      (hcolumns column (by simp [columns]))
    have hopening : Fragment.IsPlain (.text (column.sql ++ " IN (")) := by
      simp [Fragment.IsPlain, hcolumn]
    have hclosing : Fragment.IsPlain (.text ")") := by simp [Fragment.IsPlain]
    have hvalues := separates_comma.legible (by simp)
      (legible_placeholders start values.length)
    rw [fragments]
    split
    · exact .singleton (by simp [Fragment.IsPlain])
    · have hopened := (Legible.singleton hopening).append hvalues
        (apart_of_last (by simp [chars, Fragment.sql]; rfl))
      exact hopened.append (.singleton hclosing) (apart_of_head rfl)
  | near latitude longitude =>
    rw [fragments]
    exact legible_near (hcolumns latitude (by simp [columns]))
      (hcolumns longitude (by simp [columns])) start

theorem legible_partFragments (start : Nat) (parts : List (Clause α))
    (hcolumns : ∀ column ∈ partColumns parts, column.WellNamed) :
    ∀ part ∈ partFragments start parts, Legible part := by
  cases parts with
  | nil =>
    rw [partFragments]
    nofun
  | cons part others =>
    rw [partColumns, List.forall_mem_append] at hcolumns
    rw [partFragments, List.forall_mem_cons]
    exact ⟨legible_fragments start part hcolumns.1,
      legible_partFragments _ others hcolumns.2⟩

end

end Clause

end CivicRegistry.Sql
