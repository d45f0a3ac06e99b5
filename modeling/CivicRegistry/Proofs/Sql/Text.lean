import CivicRegistry.Proofs.Sql.Reading
import Mathlib.Data.List.SplitBy
import Mathlib.Tactic.IntervalCases

/-!
# Texts and their pieces

What a text reads as does not depend on what was read before it, so a text that
is put together reads as the pieces of its parts, as long as no run goes over
the seam.  Names in quotes and texts in parentheses are pieces of their own.
-/

namespace CivicRegistry.Sql

/-! ## What has been read before -/

namespace Reader

/-- Open parentheses with some pieces before the first of them and others
around it. -/
def framed (before : List Piece) (around : List (List Piece)) :
    List (List Piece) → List (List Piece)
  | [] => around
  | [first] => (before ++ first) :: around
  | last :: others => last :: framed before around others

/-- The reader with more that was read before. -/
def within (before : List Piece) (around : List (List Piece))
    (reader : Reader) : Reader :=
  match reader.outer with
  | [] => ⟨before ++ reader.pieces, around, reader.name⟩
  | outer => ⟨reader.pieces, framed before around outer, reader.name⟩

variable {reader after : Reader} {before : List Piece}
  {around : List (List Piece)}

theorem next?_within {run : List Char}
    (hnext : reader.next? run = some after) :
    (reader.within before around).next? run =
      some (after.within before around) := by
  obtain ⟨pieces, outer, name⟩ := reader
  cases outer with
  | nil =>
    rw [next?.eq_def] at hnext ⊢
    simp only [within] at hnext ⊢
    split at hnext
    all_goals first
      | cases hnext
        simp [framed]
      | cases hnext
  | cons first outer =>
    rw [next?.eq_def] at hnext ⊢
    simp only [within] at hnext ⊢
    split at hnext
    case h_5 =>
      -- A parenthesis is closed, and it may be the last that is open.
      obtain ⟨content, hcontent, rfl⟩ := Option.map_eq_some_iff.mp hnext
      cases outer with
      | nil => simp [framed, hcontent]
      | cons second outer => simp [framed, hcontent]
    all_goals
      cases hnext
      simp [framed]

theorem read?_within {text : List Char}
    (hread : reader.read? text = some after) :
    (reader.within before around).read? text =
      some (after.within before around) := by
  rw [read?] at hread ⊢
  generalize runs text = parts at hread ⊢
  induction parts generalizing reader with
  | nil =>
    cases hread
    rfl
  | cons run others ih =>
    rw [List.foldlM_cons] at hread ⊢
    obtain ⟨middle, hnext, hrest⟩ := Option.bind_eq_some_iff.mp hread
    rw [next?_within hnext]
    exact ih hrest

end Reader

/-! ## Texts -/

/-- The text reads as the pieces. -/
def Reads (text : List Char) (pieces : List Piece) : Prop :=
  Reader.start.read? text = some ⟨pieces, [], none⟩

/-- No run goes over the seam between two texts. -/
def Apart (left right : List Char) : Prop :=
  ∀ before ∈ left.getLast?, ∀ char ∈ right.head?,
    continues before char = false

theorem runs_append {left right : List Char} (hapart : Apart left right) :
    runs (left ++ right) = runs left ++ runs right :=
  List.splitBy_append hapart

theorem Reader.read?_append {left right : List Char}
    (hapart : Apart left right) (reader : Reader) :
    reader.read? (left ++ right) =
      (reader.read? left).bind fun after => after.read? right := by
  rw [read?, runs_append hapart, List.foldlM_append]
  rfl

theorem Reads.read? {text : List Char} {pieces : List Piece}
    (hreads : Reads text pieces) (before : List Piece)
    (around : List (List Piece)) :
    Reader.read? ⟨before, around, none⟩ text =
      some ⟨before ++ pieces, around, none⟩ := by
  have hwithin := @Reader.read?_within _ _ before around _ hreads
  simpa [Reader.within, Reader.start] using hwithin

theorem Reads.append {left right : List Char} {first second : List Piece}
    (hleft : Reads left first) (hright : Reads right second)
    (hapart : Apart left right) : Reads (left ++ right) (first ++ second) := by
  rw [Reads, Reader.read?_append hapart, hleft]
  exact hright.read? first []

theorem reads_nil : Reads [] [] := rfl

/-- A text that begins with a character of no run stands apart from what is
before it. -/
theorem apart_of_head {left right : List Char}
    (hhead : right.head?.all (fun char => !isNameChar char) = true) :
    Apart left right := by
  intro before _ char hchar
  rw [Option.mem_def.mp hchar] at hhead
  have hname : isNameChar char = false := by simpa using hhead
  simp [continues, hname]

/-- A text that ends with a character of no run stands apart from what comes
after it. -/
theorem apart_of_last {left right : List Char}
    (hlast : left.getLast?.all
      (fun char => !(isNameChar char || char == '$')) = true) :
    Apart left right := by
  intro before hbefore char _
  rw [Option.mem_def.mp hbefore] at hlast
  have hname : (isNameChar before || before == '$') = false := by
    simpa using hlast
  simp [continues, hname]

/-- What stands in parentheses is one piece. -/
theorem Reads.group {text : List Char} {pieces : List Piece}
    {content : Content} (hreads : Reads text pieces)
    (hcontent : readContent? pieces = some content) :
    Reads ('(' :: (text ++ [')'])) [.group content] := by
  have hopened : Reader.start.read? ['('] = some ⟨[], [[]], none⟩ := rfl
  have hclosed : Reader.read? ⟨pieces, [[]], none⟩ [')'] =
      some ⟨[.group content], [], none⟩ := by
    show (readContent? pieces).map _ >>= _ = _
    rw [hcontent]
    rfl
  have hsplit : '(' :: (text ++ [')']) = ['('] ++ (text ++ [')']) := rfl
  have hfirst : Apart ['('] (text ++ [')']) := apart_of_last rfl
  have hlast : Apart text [')'] := apart_of_head rfl
  rw [Reads, hsplit, Reader.read?_append hfirst, hopened]
  show Reader.read? ⟨[], [[]], none⟩ (text ++ [')']) = _
  rw [Reader.read?_append hlast, hreads.read? [] [[]]]
  exact hclosed

/-- A function is applied to what stands in parentheses after its name. -/
theorem Reads.call {function text : List Char} {name : String}
    {pieces : List Piece} {values : List Meaning}
    (hname : Reads function [.word name]) (hreads : Reads text pieces)
    (hvalues : readContent? pieces = some (.values values)) :
    Reads (function ++ '(' :: (text ++ [')']))
      [.word name, .group (.values values)] :=
  hname.append (hreads.group hvalues) (apart_of_head rfl)

/-! ## Names and numbers -/

/-- Letters, digits and underscores are one run, with a dollar sign before them
or without. -/
theorem runs_word {first : Char} {rest : List Char}
    (hfirst : isNameChar first = true ∨ first = '$')
    (hrest : ∀ char ∈ rest, isNameChar char = true) :
    runs (first :: rest) = [first :: rest] := by
  apply List.splitBy_of_isChain (List.cons_ne_nil first rest)
  apply List.Pairwise.isChain
  apply List.Pairwise.cons
  · intro char hchar
    have hleft : (isNameChar first || first == '$') = true := by
      simpa using hfirst
    simp [continues, hleft, hrest char hchar]
  · apply List.pairwise_of_forall_mem_list
    intro before hbefore char hchar
    simp [continues, hrest before hbefore, hrest char hchar]

/-- An identifier is one run. -/
theorem runs_identifier {name : List Char} (hname : isIdentifier name = true) :
    runs name = [name] := by
  cases name with
  | nil => cases hname
  | cons first rest =>
    simp only [isIdentifier, Bool.and_eq_true, List.all_eq_true] at hname
    have hfirst : isNameChar first = true := by
      have hstart := hname.1
      simp only [isNameStart, isNameChar, Bool.or_eq_true,
        Char.isAlphanum] at hstart ⊢
      tauto
    exact runs_word (Or.inl hfirst) hname.2

/-- The digits of a number are one run after a dollar sign. -/
theorem reads_placeholder (number : Nat) :
    Reads ('$' :: Nat.toDigits 10 number) [.parameter number] := by
  have hdigits : ∀ char ∈ Nat.toDigits 10 number, isNameChar char = true := by
    intro char hchar
    have hdigit := Nat.isDigit_of_mem_toDigits (by decide) (by decide) hchar
    simp [isNameChar, Char.isAlphanum, hdigit]
  have hpiece : Piece.ofRun ('$' :: Nat.toDigits 10 number) =
      .parameter number := by
    show Piece.parameter (numeral (Nat.toDigits 10 number)) = _
    rw [numeral, Nat.ofDigitChars_ten_toDigits]
  rw [Reads, Reader.read?, runs_word (Or.inr rfl) hdigits, ← hpiece]
  rfl

/-- Keywords begin with a letter. -/
theorem Keyword.ofChars?_of_isDigit {first : Char} {rest : List Char}
    (hdigit : first.isDigit = true) :
    Keyword.ofChars? (first :: rest) = none := by
  have hrange : 48 ≤ first.toNat ∧ first.toNat ≤ 57 := by
    simpa [Char.isDigit, UInt32.le_iff_toNat_le] using hdigit
  have hten : first ∈ ['0', '1', '2', '3', '4', '5', '6', '7', '8', '9'] := by
    obtain ⟨hlow, hhigh⟩ := hrange
    rw [← Char.ofNat_toNat first]
    interval_cases first.toNat <;> decide
  simp only [List.mem_cons, List.not_mem_nil, or_false] at hten
  rcases hten with rfl | rfl | rfl | rfl | rfl | rfl | rfl | rfl | rfl | rfl <;>
    rfl

theorem Piece.ofRun_of_isDigit {first : Char} {rest : List Char}
    (hfirst : first.isDigit = true)
    (hrest : ∀ char ∈ rest, char.isDigit = true) :
    Piece.ofRun (first :: rest) = .number (first :: rest) := by
  have hne : first ≠ '$' := by
    rintro rfl
    cases hfirst
  have hall : (first :: rest).all Char.isDigit = true := by
    simpa [hfirst] using hrest
  rw [Piece.ofRun.eq_def, Keyword.ofChars?_of_isDigit hfirst]
  split <;> simp_all

/-- The digits of a number are one piece. -/
theorem reads_number (number : Nat) :
    Reads (Nat.toDigits 10 number) [.number (Nat.toDigits 10 number)] := by
  have hdigits : ∀ char ∈ Nat.toDigits 10 number, char.isDigit = true :=
    fun char hchar => Nat.isDigit_of_mem_toDigits (by decide) (by decide) hchar
  have hne : Nat.toDigits 10 number ≠ [] := Nat.toDigits_ne_nil
  generalize Nat.toDigits 10 number = digits at hdigits hne ⊢
  cases digits with
  | nil => exact absurd rfl hne
  | cons first rest =>
    rw [List.forall_mem_cons] at hdigits
    obtain ⟨hfirst, hrest⟩ := hdigits
    have hruns : runs (first :: rest) = [first :: rest] := by
      apply runs_word
      · simp [isNameChar, Char.isAlphanum, hfirst]
      · intro char hchar
        simp [isNameChar, Char.isAlphanum, hrest char hchar]
    have hnext : Reader.start.next? (first :: rest) =
        some ⟨[.ofRun (first :: rest)], [], none⟩ := by
      rw [Reader.next?.eq_def]
      split <;> simp_all [Reader.start]
    rw [Reads, Reader.read?, hruns, ← Piece.ofRun_of_isDigit hfirst hrest]
    simp [hnext]

/-- A name in quotes is one piece. -/
theorem reads_quoted {name : String} (hname : isIdentifier name.toList = true) :
    Reads (quoted name).toList [.name name] := by
  have htext : (quoted name).toList = ['"'] ++ (name.toList ++ ['"']) := by
    simp [quoted]
  have hfirst : Apart ['"'] (name.toList ++ ['"']) := apart_of_last rfl
  have hlast : Apart name.toList ['"'] := apart_of_head rfl
  have hquote : name.toList ≠ ['"'] := by
    intro hquote
    rw [hquote] at hname
    exact absurd hname (by decide)
  have hnext : Reader.next? ⟨[], [], some []⟩ name.toList =
      some ⟨[], [], some name.toList⟩ := by
    rw [Reader.next?.eq_def]
    split <;> simp_all
  rw [Reads, htext, Reader.read?, runs_append hfirst, runs_append hlast,
    runs_identifier hname]
  show (Reader.next? ⟨[], [], some []⟩ name.toList).bind _ = _
  rw [hnext, Option.bind_some]
  show (some _ : Option Reader) = _
  simp

/-- The characters of some texts one after the other. -/
theorem toList_join (texts : List String) :
    (String.join texts).toList = texts.flatMap String.toList := by
  have hfold : ∀ before : String, (texts.foldl (· ++ ·) before).toList =
      before.toList ++ texts.flatMap String.toList := by
    induction texts with
    | nil => simp
    | cons first rest ih =>
      intro before
      rw [List.foldl_cons, ih, String.toList_append, List.flatMap_cons,
        List.append_assoc]
  rw [String.join, hfold]
  rfl

end CivicRegistry.Sql
