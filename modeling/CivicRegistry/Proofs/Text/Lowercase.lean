import CivicRegistry.Proofs.Text.Blank
import CivicRegistry.Text.Lowercase

/-!
# Lower case of a part of a text

Only a capital sigma has a lower-case form that depends on what stands around
it.  The lower-case form of a part of a text is therefore found in that of the
whole exactly where every capital sigma of the part takes the form there that
it takes when the part stands alone.  The case of letters of ASCII makes no
difference to any lower-case form.
-/

namespace CivicRegistry.Text

/-! ## Parts -/

/-- A capital sigma between two runs ends a word; the nearest character of
either run comes first. -/
def endsWord (before after : List Char) : Bool :=
  reachesCased before && !reachesCased after

/-- Lower case of a character between two runs, the nearest character of either
run first. -/
def lowerBetween (before : List Char) (c : Char) (after : List Char) :
    List Char :=
  if c = 'Σ' then if endsWord before after then ['ς'] else ['σ']
  else lowerChar c

/-- Lower case of a part that stands between two runs. -/
def lowerPart (before : List Char) : List Char → List Char → List Char
  | [], _ => []
  | c :: rest, after =>
    lowerBetween before c (rest ++ after) ++ lowerPart (c :: before) rest after

variable {before after term : List Char}

/-- A text falls into the part at its start and what follows. -/
theorem lowerFrom_append (before part after : List Char) :
    lowerFrom before (part ++ after) =
      lowerPart before part after ++
        lowerFrom (part.reverse ++ before) after := by
  induction part generalizing before with
  | nil => rfl
  | cons c rest ih =>
    rw [List.cons_append, lowerFrom, ih, lowerPart, List.append_assoc,
      List.reverse_cons, List.append_assoc, List.singleton_append]
    rfl

theorem lowercase_eq_lowerPart (term : List Char) :
    lowercase term = lowerPart [] term [] := by
  have hwhole := lowerFrom_append [] term []
  rwa [List.append_nil, lowerFrom, List.append_nil] at hwhole

/-- A text falls into a part and what stands on either side of it. -/
theorem lowercase_append (before term after : List Char) :
    lowercase (before ++ term ++ after) =
      lowerPart [] before (term ++ after) ++
        (lowerPart before.reverse term after ++
          lowerFrom (term.reverse ++ before.reverse) after) := by
  rw [lowercase, List.append_assoc, lowerFrom_append, List.append_nil,
    lowerFrom_append]

theorem length_lowerBetween (c : Char)
    (before after before' after' : List Char) :
    (lowerBetween before c after).length =
      (lowerBetween before' c after').length := by
  unfold lowerBetween
  grind

/-- What stands around a part does not change the length of its lower case. -/
theorem length_lowerPart (part before after before' after' : List Char) :
    (lowerPart before part after).length =
      (lowerPart before' part after').length := by
  induction part generalizing before before' with
  | nil => rfl
  | cons c rest ih =>
    rw [lowerPart, lowerPart, List.length_append, List.length_append,
      length_lowerBetween c before (rest ++ after) before' (rest ++ after'),
      ih (c :: before) (c :: before')]

theorem lowerBetween_eq_iff {c : Char} {before' after' : List Char} :
    lowerBetween before c after = lowerBetween before' c after' ↔
      (c = 'Σ' → endsWord before after = endsWord before' after') := by
  unfold lowerBetween
  grind

/-- A part has the same lower case in two places exactly if each of its capital
sigmas ends a word in both or in neither. -/
theorem lowerPart_eq_iff {before' after' : List Char} :
    lowerPart before term after = lowerPart before' term after' ↔
      ∀ left right, term = left ++ 'Σ' :: right →
        endsWord (left.reverse ++ before) (right ++ after) =
          endsWord (left.reverse ++ before') (right ++ after') := by
  induction term generalizing before before' with
  | nil => simp [lowerPart]
  | cons c rest ih =>
    -- The lower case of the first character has one length in both places, so
    -- it and the rest can be told apart.
    rw [lowerPart, lowerPart, List.append_eq_append_iff_of_size_eq_left
      (length_lowerBetween c _ _ _ _), lowerBetween_eq_iff, ih]
    constructor
    · rintro ⟨hfirst, hrest⟩ left right hsplit
      rcases left with _ | ⟨first, left⟩
      · obtain ⟨rfl, rfl⟩ := List.cons.inj hsplit
        exact hfirst rfl
      · obtain ⟨rfl, hrest'⟩ := List.cons.inj hsplit
        simpa using hrest left right hrest'
    · intro hall
      refine ⟨fun hsigma => hall [] rest (by rw [hsigma, List.nil_append]), ?_⟩
      intro left right hsplit
      simpa using hall (c :: left) right (by rw [hsplit, List.cons_append])

/-- Every capital sigma of a term that stands between two runs ends a word there
exactly if it does when the term stands alone. -/
def Undisturbed (before term after : List Char) : Prop :=
  ∀ left right, term = left ++ 'Σ' :: right →
    endsWord (before ++ left).reverse (right ++ after) =
      endsWord left.reverse right

theorem undisturbed_iff :
    Undisturbed before term after ↔
      lowerPart before.reverse term after = lowercase term := by
  rw [lowercase_eq_lowerPart, lowerPart_eq_iff]
  simp only [Undisturbed, List.reverse_append, List.append_nil]

instance : Decidable (Undisturbed before term after) :=
  decidable_of_iff _ undisturbed_iff.symm

theorem undisturbed_of_not_mem (hterm : 'Σ' ∉ term) :
    Undisturbed before term after := by
  rintro left right rfl
  simp at hterm

/-- No cased letter comes into reach through a run that reaches none. -/
theorem reachesCased_append (hafter : reachesCased after = false)
    (chars : List Char) :
    reachesCased (chars ++ after) = reachesCased chars := by
  rw [reachesCased, reachesCased, List.dropWhile_append]
  cases hchars : chars.dropWhile isCaseIgnorable with
  | nil => exact hafter
  | cons c rest => rfl

/-- A term that stands apart from other letters is undisturbed. -/
theorem undisturbed_of_apart (hbefore : reachesCased before.reverse = false)
    (hafter : reachesCased after = false) :
    Undisturbed before term after := by
  intro left right _
  rw [endsWord, endsWord, List.reverse_append, reachesCased_append hbefore,
    reachesCased_append hafter]

/-- In the lower case of a whole text, that of a term stands in the place of the
term exactly if the term is undisturbed. -/
theorem lowercase_in_place :
    lowercase term <+: (lowercase (before ++ term ++ after)).drop
        (lowercase before).length ↔
      Undisturbed before term after := by
  have hbefore : (lowercase before).length =
      (lowerPart [] before (term ++ after)).length := by
    rw [lowercase_eq_lowerPart]
    exact length_lowerPart ..
  have hterm : (lowercase term).length =
      (lowerPart before.reverse term after).length := by
    rw [lowercase_eq_lowerPart]
    exact length_lowerPart ..
  rw [undisturbed_iff, lowercase_append, hbefore, List.drop_left,
    List.prefix_iff_eq_take, hterm, List.take_left]
  exact eq_comm

/-- A term occurs in a text, both in lower case, where it is undisturbed. -/
theorem Undisturbed.lowercase_infix (hterm : Undisturbed before term after) :
    lowercase term <:+: lowercase (before ++ term ++ after) :=
  (lowercase_in_place.mpr hterm).isInfix.trans (List.drop_suffix ..).isInfix

/-! ## Letters of ASCII -/

/-- Texts that differ at most in the case of letters of ASCII. -/
def SameLetters (left right : String) : Prop :=
  left.toList.map Char.toLower = right.toList.map Char.toLower

instance (left right : String) : Decidable (SameLetters left right) :=
  inferInstanceAs
    (Decidable (left.toList.map Char.toLower = right.toList.map Char.toLower))

/-- What does not tell the capital letters of ASCII from the small ones does not
see their case. -/
theorem toLower_invariant {α : Type} (f : Char → α)
    (hletters : ∀ n < 26,
      f (Char.ofNat (65 + n)).toLower = f (Char.ofNat (65 + n))) (c : Char) :
    f c.toLower = f c := by
  by_cases hcapital : 65 ≤ c.toNat ∧ c.toNat ≤ 90
  · have hletter := hletters (c.toNat - 65) (by omega)
    rwa [Nat.add_sub_cancel' hcapital.1, Char.ofNat_toNat] at hletter
  · have hsame : c.toLower = c := dif_neg hcapital
    rw [hsame]

theorem isBlank_toLower (c : Char) : isBlank c.toLower = isBlank c :=
  toLower_invariant isBlank (by decide +kernel) c

theorem isCased_toLower (c : Char) : isCased c.toLower = isCased c :=
  toLower_invariant isCased (by decide +kernel) c

theorem isCaseIgnorable_toLower (c : Char) :
    isCaseIgnorable c.toLower = isCaseIgnorable c :=
  toLower_invariant isCaseIgnorable (by decide +kernel) c

theorem lowerChar_toLower (c : Char) : lowerChar c.toLower = lowerChar c :=
  toLower_invariant lowerChar (by decide +kernel) c

theorem toLower_eq_sigma_iff (c : Char) : c.toLower = 'Σ' ↔ c = 'Σ' := by
  have hsame := toLower_invariant (fun c => decide (c = 'Σ'))
    (by decide +kernel) c
  simpa using hsame

/-- The case of letters of ASCII does not matter to what is reached. -/
theorem reachesCased_map_toLower (chars : List Char) :
    reachesCased (chars.map Char.toLower) = reachesCased chars := by
  have hignorable : isCaseIgnorable ∘ Char.toLower = isCaseIgnorable :=
    funext isCaseIgnorable_toLower
  rw [reachesCased, reachesCased, List.dropWhile_map, hignorable]
  cases chars.dropWhile isCaseIgnorable with
  | nil => rfl
  | cons c rest => exact isCased_toLower c

theorem lowerFrom_map_toLower (before chars : List Char) :
    lowerFrom (before.map Char.toLower) (chars.map Char.toLower) =
      lowerFrom before chars := by
  induction chars generalizing before with
  | nil => rfl
  | cons c rest ih =>
    rw [List.map_cons, lowerFrom, lowerFrom, ← List.map_cons, ih]
    simp only [toLower_eq_sigma_iff, reachesCased_map_toLower,
      lowerChar_toLower]

/-- Texts that differ in the case of letters of ASCII have one lower case. -/
theorem lowercase_map_toLower (chars : List Char) :
    lowercase (chars.map Char.toLower) = lowercase chars :=
  lowerFrom_map_toLower [] chars

theorem SameLetters.lowercase_eq {left right : String}
    (hsame : SameLetters left right) :
    lowercase left.toList = lowercase right.toList := by
  rw [← lowercase_map_toLower, hsame, lowercase_map_toLower]

theorem dropBlank_map_toLower (chars : List Char) :
    dropBlank (chars.map Char.toLower) =
      (dropBlank chars).map Char.toLower := by
  have hblank : isBlank ∘ Char.toLower = isBlank := funext isBlank_toLower
  rw [dropBlank, List.dropWhile_map, hblank, dropBlank]

theorem trimmed_map_toLower (chars : List Char) :
    trimmed (chars.map Char.toLower) = (trimmed chars).map Char.toLower := by
  rw [trimmed, dropBlank_map_toLower, ← List.map_reverse,
    dropBlank_map_toLower, ← List.map_reverse, trimmed]

theorem SameLetters.trim {left right : String}
    (hsame : SameLetters left right) :
    SameLetters (Text.trim left) (Text.trim right) := by
  rw [SameLetters, toList_trim, toList_trim, ← trimmed_map_toLower, hsame,
    trimmed_map_toLower]

theorem SameLetters.eq_empty_iff {left right : String}
    (hsame : SameLetters left right) : left = "" ↔ right = "" := by
  have hlength := congrArg List.length hsame
  rw [List.length_map, List.length_map] at hlength
  rw [← String.toList_eq_nil_iff, ← String.toList_eq_nil_iff,
    ← List.length_eq_zero_iff, ← List.length_eq_zero_iff, hlength]

end CivicRegistry.Text
