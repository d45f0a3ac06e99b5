import CivicRegistry.Naming
import Mathlib

/-!
# The two spellings of a name

A constant name and its wire name consist of the same segments.  Underscores
keep the segments apart in the one and capital letters in the other, so that
each of the two names is got back from the other.
-/

namespace CivicRegistry.Naming

/-! ## Letters -/

theorem toUpper_eq_self {c : Char} (hc : c.isUpper = true ∨ c.isDigit = true) :
    c.toUpper = c := by
  apply Char.toUpper_eq_of_not_isLower
  rcases hc with hupper | hdigit
  · exact Char.not_isLower_of_isUpper hupper
  · simp only [Char.isDigit, Char.isLower, Bool.and_eq_true, decide_eq_true_eq,
      UInt32.le_iff_toNat_le, ge_iff_le, Char.reduceVal,
      UInt32.reduceToNat] at hdigit ⊢
    omega

theorem map_toUpper_eq_self {chars : List Char}
    (hchars : ∀ c ∈ chars, c.isUpper = true ∨ c.isDigit = true) :
    chars.map Char.toUpper = chars := by
  calc
    _ = chars.map id := List.map_congr_left fun c hc =>
      toUpper_eq_self (hchars c hc)
    _ = chars := List.map_id chars

theorem map_toLower_eq_self {chars : List Char}
    (hchars : ∀ c ∈ chars, c.isUpper = false) :
    chars.map Char.toLower = chars := by
  calc
    _ = chars.map id := List.map_congr_left fun c hc =>
      Char.toLower_eq_of_not_isUpper (by simp [hchars c hc])
    _ = chars := List.map_id chars

theorem map_toUpper_map_toLower (chars : List Char) :
    (chars.map Char.toLower).map Char.toUpper = chars.map Char.toUpper := by
  rw [List.map_map]
  exact List.map_congr_left fun c _ => Char.toUpper_toLower_eq_toUpper c

theorem map_toLower_map_toUpper (chars : List Char) :
    (chars.map Char.toUpper).map Char.toLower = chars.map Char.toLower := by
  rw [List.map_map]
  exact List.map_congr_left fun c _ => Char.toLower_toUpper_eq_toLower c

/-! ## Constant names -/

/-- A segment of a constant name: capital letters and digits, and not none. -/
structure IsSegment (segment : List Char) : Prop where
  nonempty : segment ≠ []
  chars : ∀ c ∈ segment, c.isUpper = true ∨ c.isDigit = true

/-- Segments of which each after the first one starts with a letter. -/
structure AreSegments (first : List Char) (others : List (List Char)) :
    Prop where
  start : IsSegment first
  rest : ∀ other ∈ others, IsSegment other
  letters : ∀ other ∈ others, other.head?.any Char.isUpper = true

/-- Segments with single underscores between them. -/
def IsConstant (constant : String) : Prop :=
  ∃ first others, AreSegments first others ∧
    constant.toList = ['_'].intercalate (first :: others)

theorem intercalate_underscore (first : List Char) (others : List (List Char)) :
    ['_'].intercalate (first :: others) =
      first ++ others.flatMap fun other => '_' :: other := by
  induction others generalizing first with
  | nil => simp
  | cons other others ih =>
    rw [List.intercalate_cons_cons, ih, List.flatMap_cons, List.append_assoc]
    rfl

/-- The wire name has the segments of the constant name in their order. -/
theorem wireChars_intercalate {first : List Char} {others : List (List Char)}
    (hsegments : ∀ segment ∈ first :: others, segment ≠ [] ∧ '_' ∉ segment) :
    wireChars (['_'].intercalate (first :: others)) =
      first.map Char.toLower ++ (others.map capitalized).flatten := by
  have hsplit : segments (['_'].intercalate (first :: others)) =
      first :: others := by
    rw [segments, List.splitOn_intercalate '_'
      (fun segment hsegment => (hsegments segment hsegment).2)
      (List.cons_ne_nil first others), List.filter_eq_self]
    intro segment hsegment
    simpa using (hsegments segment hsegment).1
  rw [wireChars, hsplit]
  exact congrArg (first.map Char.toLower ++ ·) List.flatMap_def

/-! ## Camel case -/

/-- A text without underscores that does not start with a capital letter. -/
structure IsCamelCase (wire : String) : Prop where
  underscore_not_mem : '_' ∉ wire.toList
  head : ∀ c ∈ wire.toList.head?, c.isUpper = false

/-- A text in camel case of letters and digits, and not of none. -/
structure IsWire (wire : String) : Prop where
  camelCase : IsCamelCase wire
  nonempty : wire.toList ≠ []
  chars : ∀ c ∈ wire.toList, c.isAlphanum = true

/-- A word that a capital letter starts and that has no other. -/
def IsHump : List Char → Prop
  | [] => False
  | c :: rest => c.isUpper = true ∧ ∀ d ∈ rest, d.isUpper = false

/-- Words of which each after the first one starts with its only capital letter;
the first one has none. -/
structure AreWords (first : List Char) (others : List (List Char)) : Prop where
  start : ∀ c ∈ first, c.isUpper = false
  humps : ∀ other ∈ others, IsHump other

/-- Every text can be cut into words before its capital letters. -/
theorem exists_words (chars : List Char) :
    ∃ first others, chars = first ++ List.flatten others ∧
      AreWords first others := by
  induction chars with
  | nil => exact ⟨[], [], rfl, by simp, by simp⟩
  | cons c rest ih =>
    obtain ⟨first, others, rfl, hwords⟩ := ih
    cases hc : c.isUpper with
    | true =>
      refine ⟨[], (c :: first) :: others, rfl, by simp, ?_⟩
      rw [List.forall_mem_cons]
      exact ⟨⟨hc, hwords.start⟩, hwords.humps⟩
    | false =>
      refine ⟨c :: first, others, rfl, ?_, hwords.humps⟩
      rw [List.forall_mem_cons]
      exact ⟨hc, hwords.start⟩

theorem constantChars_eq_flatMap {chars : List Char}
    (hhead : ∀ c ∈ chars.head?, c.isUpper = false) :
    constantChars chars = chars.flatMap segmentStart := by
  cases chars with
  | nil => rfl
  | cons c rest =>
    have hc : c.isUpper = false := hhead c rfl
    simp [constantChars, segmentStart, hc]

theorem flatMap_segmentStart {word : List Char}
    (hword : ∀ c ∈ word, c.isUpper = false) :
    word.flatMap segmentStart = word.map Char.toUpper := by
  induction word with
  | nil => rfl
  | cons c rest ih =>
    rw [List.forall_mem_cons] at hword
    rw [List.flatMap_cons, ih hword.2]
    simp [segmentStart, hword.1]

namespace IsHump

variable {word : List Char}

theorem flatMap_segmentStart (hword : IsHump word) :
    word.flatMap segmentStart = '_' :: word.map Char.toUpper := by
  cases word with
  | nil => exact hword.elim
  | cons c rest =>
    obtain ⟨hc, hrest⟩ := hword
    rw [List.flatMap_cons, Naming.flatMap_segmentStart hrest]
    simp [segmentStart, hc, toUpper_eq_self (Or.inl hc)]

theorem capitalized_map_toUpper (hword : IsHump word) :
    capitalized (word.map Char.toUpper) = word := by
  cases word with
  | nil => exact hword.elim
  | cons c rest =>
    obtain ⟨hc, hrest⟩ := hword
    rw [List.map_cons, capitalized, map_toLower_map_toUpper,
      map_toLower_eq_self hrest, Char.toUpper_toUpper_eq_toUpper,
      toUpper_eq_self (Or.inl hc)]

end IsHump

/-- A segment that starts with a letter becomes a hump. -/
theorem isHump_capitalized {segment : List Char}
    (hstart : segment.head?.any Char.isUpper = true) :
    IsHump (capitalized segment) := by
  cases segment with
  | nil => cases hstart
  | cons c rest =>
    have hc : c.isUpper = true := hstart
    constructor
    · rwa [toUpper_eq_self (Or.inl hc)]
    · simp

theorem map_toUpper_capitalized (segment : List Char) :
    (capitalized segment).map Char.toUpper = segment.map Char.toUpper := by
  cases segment with
  | nil => rfl
  | cons c rest =>
    rw [capitalized, List.map_cons, List.map_cons, map_toUpper_map_toLower,
      Char.toUpper_toUpper_eq_toUpper]

/-- The constant name has a segment for each word. -/
theorem AreWords.constantChars_eq {first : List Char}
    {others : List (List Char)} (hwords : AreWords first others)
    (hhead : ∀ c ∈ (first ++ others.flatten).head?, c.isUpper = false) :
    constantChars (first ++ others.flatten) =
      ['_'].intercalate (first.map Char.toUpper ::
        others.map (List.map Char.toUpper)) := by
  have hothers : others.flatten.flatMap segmentStart =
      (others.map (List.map Char.toUpper)).flatMap ('_' :: ·) := by
    rw [List.flatMap_map, List.flatten_eq_flatMap, List.flatMap_assoc]
    exact List.flatMap_congr fun other hother =>
      (hwords.humps other hother).flatMap_segmentStart
  rw [constantChars_eq_flatMap hhead, List.flatMap_append,
    flatMap_segmentStart hwords.start, hothers, intercalate_underscore]

/-! ## From constant names -/

theorem IsSegment.underscore_not_mem {segment : List Char}
    (hsegment : IsSegment segment) : '_' ∉ segment := by
  intro hmem
  exact absurd (hsegment.chars '_' hmem) (by decide)

namespace AreSegments

variable {first : List Char} {others : List (List Char)}

theorem areWords (hsegments : AreSegments first others) :
    AreWords (first.map Char.toLower) (others.map capitalized) := by
  constructor
  · simp
  · rw [List.forall_mem_map]
    exact fun other hother =>
      isHump_capitalized (hsegments.letters other hother)

theorem wireChars_eq (hsegments : AreSegments first others) :
    wireChars (['_'].intercalate (first :: others)) =
      first.map Char.toLower ++ (others.map capitalized).flatten := by
  apply wireChars_intercalate
  rw [List.forall_mem_cons]
  constructor
  · exact ⟨hsegments.start.nonempty, hsegments.start.underscore_not_mem⟩
  · intro other hother
    have hsegment := hsegments.rest other hother
    exact ⟨hsegment.nonempty, hsegment.underscore_not_mem⟩

/-- What is got from a constant name does not start with a capital letter. -/
theorem head_wireChars (hsegments : AreSegments first others) :
    ∀ c ∈ (first.map Char.toLower ++ (others.map capitalized).flatten).head?,
      c.isUpper = false := by
  obtain ⟨c, rest, rfl⟩ := List.exists_cons_of_ne_nil hsegments.start.nonempty
  rintro _ ⟨⟩
  exact Char.isUpper_toLower_eq_false c

theorem constantChars_wireChars (hsegments : AreSegments first others) :
    constantChars (wireChars (['_'].intercalate (first :: others))) =
      ['_'].intercalate (first :: others) := by
  have hfirst : (first.map Char.toLower).map Char.toUpper = first := by
    rw [map_toUpper_map_toLower, map_toUpper_eq_self hsegments.start.chars]
  have hothers :
      (others.map capitalized).map (List.map Char.toUpper) = others := by
    calc
      _ = others.map id := by
        rw [List.map_map]
        apply List.map_congr_left
        intro other hother
        exact (map_toUpper_capitalized other).trans
          (map_toUpper_eq_self (hsegments.rest other hother).chars)
      _ = others := List.map_id others
  rw [hsegments.wireChars_eq,
    hsegments.areWords.constantChars_eq hsegments.head_wireChars, hfirst,
    hothers]

end AreSegments

theorem constantName_wireName {constant : String}
    (hconstant : IsConstant constant) :
    constantName (wireName constant) = constant := by
  obtain ⟨first, others, hsegments, hchars⟩ := hconstant
  rw [constantName, wireName, String.toList_ofList, hchars,
    hsegments.constantChars_wireChars, ← hchars, String.ofList_toList]

theorem isAlphanum_toLower {c : Char}
    (hc : c.isUpper = true ∨ c.isDigit = true) :
    c.toLower.isAlphanum = true := by
  cases halpha : c.isAlpha with
  | true => simp [Char.isAlphanum, halpha]
  | false =>
    have hupper : c.isUpper = false := by
      rw [Char.isAlpha, Bool.or_eq_false_iff] at halpha
      exact halpha.1
    rw [Char.toLower_eq_of_not_isUpper (by simp [hupper])]
    simpa [Char.isAlphanum, hupper] using Or.inr hc

theorem IsSegment.isAlphanum_capitalized {segment : List Char}
    (hsegment : IsSegment segment) :
    ∀ c ∈ capitalized segment, c.isAlphanum = true := by
  cases segment with
  | nil => exact fun c hc => absurd hc List.not_mem_nil
  | cons c rest =>
    have hchars := hsegment.chars
    rw [List.forall_mem_cons] at hchars
    rw [capitalized, List.forall_mem_cons, List.forall_mem_map]
    refine ⟨?_, fun d hd => isAlphanum_toLower (hchars.2 d hd)⟩
    rw [toUpper_eq_self hchars.1]
    rcases hchars.1 with hupper | hdigit
    · simp [Char.isAlphanum, Char.isAlpha, hupper]
    · simp [Char.isAlphanum, hdigit]

theorem AreSegments.isAlphanum_wireChars {first : List Char}
    {others : List (List Char)} (hsegments : AreSegments first others) :
    ∀ c ∈ first.map Char.toLower ++ (others.map capitalized).flatten,
      c.isAlphanum = true := by
  rw [List.forall_mem_append, List.forall_mem_map]
  constructor
  · exact fun c hc => isAlphanum_toLower (hsegments.start.chars c hc)
  · intro c hc
    obtain ⟨_, hmem, hc⟩ := List.mem_flatten.mp hc
    obtain ⟨segment, hsegment, rfl⟩ := List.mem_map.mp hmem
    exact (hsegments.rest segment hsegment).isAlphanum_capitalized c hc

theorem isWire_wireName {constant : String} (hconstant : IsConstant constant) :
    IsWire (wireName constant) := by
  obtain ⟨first, others, hsegments, hchars⟩ := hconstant
  have hwire : (wireName constant).toList =
      first.map Char.toLower ++ (others.map capitalized).flatten := by
    rw [wireName, String.toList_ofList, hchars, hsegments.wireChars_eq]
  have halphanum := hsegments.isAlphanum_wireChars
  rw [← hwire] at halphanum
  constructor
  · constructor
    · exact fun hunderscore => absurd (halphanum '_' hunderscore) (by decide)
    · rw [hwire]
      exact hsegments.head_wireChars
  · simp [hwire, hsegments.start.nonempty]
  · exact halphanum

/-! ## From wire names -/

theorem eq_underscore_of_toUpper {c : Char} (hc : c.toUpper = '_') :
    c = '_' := by
  cases hlower : c.isLower with
  | true =>
    have hupper : c.toUpper.isUpper = true := by simp [Char.isAlpha, hlower]
    rw [hc] at hupper
    exact absurd hupper (by decide)
  | false => rwa [Char.toUpper_eq_of_not_isLower (by simp [hlower])] at hc

theorem underscore_not_mem_map_toUpper {word : List Char}
    (hword : '_' ∉ word) : '_' ∉ word.map Char.toUpper := by
  rw [List.mem_map]
  rintro ⟨c, hc, hupper⟩
  exact hword (eq_underscore_of_toUpper hupper ▸ hc)

theorem IsHump.ne_nil {word : List Char} (hword : IsHump word) : word ≠ [] := by
  rintro rfl
  exact hword

namespace AreWords

variable {first : List Char} {others : List (List Char)}

theorem nonempty_of_head (hwords : AreWords first others)
    (hne : first ++ others.flatten ≠ [])
    (hhead : ∀ c ∈ (first ++ others.flatten).head?, c.isUpper = false) :
    first ≠ [] := by
  rintro rfl
  cases others with
  | nil => exact hne rfl
  | cons other others =>
    have hother : IsHump other := hwords.humps other List.mem_cons_self
    cases other with
    | nil => exact hother
    | cons c rest =>
      have hc : c.isUpper = false := hhead c rfl
      exact absurd hother.1 (by simp [hc])

/-- The words are got back from the segments. -/
theorem wireChars_eq (hwords : AreWords first others) (hfirst : first ≠ [])
    (hunderscore : '_' ∉ first ++ others.flatten) :
    wireChars (['_'].intercalate (first.map Char.toUpper ::
        others.map (List.map Char.toUpper))) = first ++ others.flatten := by
  have hsegments : ∀ segment ∈ first.map Char.toUpper ::
      others.map (List.map Char.toUpper), segment ≠ [] ∧ '_' ∉ segment := by
    rw [List.mem_append, not_or] at hunderscore
    rw [List.forall_mem_cons, List.forall_mem_map]
    constructor
    · exact ⟨by simpa using hfirst,
        underscore_not_mem_map_toUpper hunderscore.1⟩
    · intro other hother
      refine ⟨by simpa using (hwords.humps other hother).ne_nil,
        underscore_not_mem_map_toUpper fun hmem => hunderscore.2 ?_⟩
      exact List.mem_flatten_of_mem hother hmem
  have hothers :
      (others.map (List.map Char.toUpper)).map capitalized = others := by
    calc
      _ = others.map id := by
        rw [List.map_map]
        exact List.map_congr_left fun other hother =>
          (hwords.humps other hother).capitalized_map_toUpper
      _ = others := List.map_id others
  rw [wireChars_intercalate hsegments, map_toLower_map_toUpper,
    map_toLower_eq_self hwords.start, hothers]

end AreWords

theorem wireName_constantName {wire : String} (hwire : IsCamelCase wire) :
    wireName (constantName wire) = wire := by
  have hchars : wireChars (constantChars wire.toList) = wire.toList := by
    obtain ⟨first, others, hcut, hwords⟩ := exists_words wire.toList
    obtain ⟨hunderscore, hhead⟩ := hwire
    rw [hcut] at hunderscore hhead ⊢
    by_cases hne : first ++ others.flatten = []
    · rw [hne]
      rfl
    · rw [hwords.constantChars_eq hhead,
        hwords.wireChars_eq (hwords.nonempty_of_head hne hhead) hunderscore]
  rw [wireName, constantName, String.toList_ofList, hchars,
    String.ofList_toList]

theorem isSegment_map_toUpper {word : List Char} (hne : word ≠ [])
    (hword : ∀ c ∈ word, c.isAlphanum = true) :
    IsSegment (word.map Char.toUpper) := by
  constructor
  · simpa using hne
  · rw [List.forall_mem_map]
    intro c hc
    have halphanum := hword c hc
    rw [Char.isAlphanum, Bool.or_eq_true] at halphanum
    rcases halphanum with halpha | hdigit
    · exact Or.inl (by simp [halpha])
    · rw [toUpper_eq_self (Or.inr hdigit)]
      exact Or.inr hdigit

theorem isConstant_constantName {wire : String} (hwire : IsWire wire) :
    IsConstant (constantName wire) := by
  obtain ⟨first, others, hcut, hwords⟩ := exists_words wire.toList
  obtain ⟨⟨-, hhead⟩, hne, hchars⟩ := hwire
  rw [hcut] at hhead hne hchars
  rw [List.forall_mem_append] at hchars
  refine ⟨first.map Char.toUpper, others.map (List.map Char.toUpper), ?_, ?_⟩
  · constructor
    · exact isSegment_map_toUpper (hwords.nonempty_of_head hne hhead) hchars.1
    · rw [List.forall_mem_map]
      intro other hother
      apply isSegment_map_toUpper (hwords.humps other hother).ne_nil
      exact fun c hc => hchars.2 c (List.mem_flatten_of_mem hother hc)
    · rw [List.forall_mem_map]
      intro other hother
      have hhump : IsHump other := hwords.humps other hother
      cases other with
      | nil => exact hhump.elim
      | cons c rest =>
        show c.toUpper.isUpper = true
        simp [Char.isAlpha, hhump.1]
  · rw [constantName, String.toList_ofList, hcut, hwords.constantChars_eq hhead]

/-- A constant name is got back from its wire name, and a text in camel case
from the constant name made of it.  So wire names stand for constant names one
to one: no two constant names have the same wire name, and every text in camel
case of letters and digits is the wire name of one. -/
theorem spellings_inverse :
    (∀ constant, IsConstant constant →
      constantName (wireName constant) = constant) ∧
    (∀ wire, IsCamelCase wire → wireName (constantName wire) = wire) ∧
    Set.BijOn wireName {constant | IsConstant constant}
      {wire | IsWire wire} := by
  refine ⟨fun _ => constantName_wireName, fun _ => wireName_constantName, ?_⟩
  apply Set.InvOn.bijOn
  · constructor
    · exact fun _ hconstant => constantName_wireName hconstant
    · exact fun _ hwire => wireName_constantName hwire.camelCase
  · exact fun _ hconstant => isWire_wireName hconstant
  · exact fun _ hwire => isConstant_constantName hwire

theorem isConstant_sample : IsConstant "N2_AREA_B" := by
  refine ⟨['N', '2'], [['A', 'R', 'E', 'A'], ['B']], ?_, rfl⟩
  constructor
  · exact ⟨List.cons_ne_nil _ _, by simp⟩
  · simp only [List.forall_mem_cons]
    exact ⟨⟨List.cons_ne_nil _ _, by simp⟩,
      ⟨List.cons_ne_nil _ _, by simp⟩, List.forall_mem_nil _⟩
  · decide

theorem spellings_inverse_sample :
    IsConstant "N2_AREA_B" ∧
      constantName (wireName "N2_AREA_B") = "N2_AREA_B" ∧
      IsCamelCase "größeÄM²" ∧
      wireName (constantName "größeÄM²") = "größeÄM²" := by
  obtain ⟨hconstants, hwires, -⟩ := spellings_inverse
  have hwire : IsCamelCase "größeÄM²" := by
    constructor
    · decide
    · rintro _ ⟨⟩
      rfl
  exact ⟨isConstant_sample, hconstants _ isConstant_sample, hwire,
    hwires _ hwire⟩

end CivicRegistry.Naming
