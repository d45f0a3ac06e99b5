import CivicRegistry.Intake.Schema
import CivicRegistry.Proofs.Json.Numbers
import CivicRegistry.Proofs.Text.Encodings

/-!
# Reading back printed documents

A printed document is scanned to an outline of the same shape, whatever
follows it: a number is what its digits say, and a float that is not finite is
null.  Where the numbers are integers that fit into 64 bits, this is the outline
of what was printed.  The proof goes along the printer: digits, the characters
of a text, then lists and objects over what they hold.  Three steps of the
scanner for every character are enough, which is what an input is given.
-/

namespace CivicRegistry.Json

open CivicRegistry.Text (Symbol)

/-! ## Texts -/

theorem codeUnit?_hexDigits {c : Char} (hc : c.toNat < 0x20) :
    codeUnit? (Text.hexDigits 4 c.toNat) = some (.char c) := by
  have hplain : ¬(0xD800 ≤ c.toNat ∧ c.toNat ≤ 0xDFFF) := by omega
  rw [codeUnit?, Text.hexNumber?_hexDigits, Nat.mod_eq_of_lt (by omega),
    Option.map_some, if_neg hplain, Char.ofNat_toNat]

/-- An escape of one character is read back. -/
theorem scanText_simpleEscape {c d : Char} {rest later : List Symbol}
    {pieces : Pieces} (hescape : simpleEscape? c = some d)
    (hrest : scanText rest = some (pieces, later)) :
    scanText (some '\\' :: some c :: rest) =
      some (.char d :: pieces, later) := by
  have hunit : c ≠ 'u' := by
    rintro rfl
    cases hescape
  rw [scanText, hescape, hrest]
  · rfl
  · intros
    exact absurd ‹_› hunit

theorem scanText_codeUnit {h₁ h₂ h₃ h₄ : Char} {piece : Piece}
    {rest later : List Symbol} {pieces : Pieces}
    (hunit : codeUnit? [h₁, h₂, h₃, h₄] = some piece)
    (hrest : scanText rest = some (pieces, later)) :
    scanText (some '\\' :: some 'u' :: some h₁ :: some h₂ :: some h₃ ::
      some h₄ :: rest) = some (piece :: pieces, later) := by
  rw [scanText, hunit, hrest]
  rfl

theorem scanText_plain {c : Char} {rest later : List Symbol}
    {pieces : Pieces} (hquote : c ≠ '"') (hbackslash : c ≠ '\\')
    (hcontrol : ¬c.toNat < 0x20)
    (hrest : scanText rest = some (pieces, later)) :
    scanText (some c :: rest) = some (.char c :: pieces, later) := by
  rw [scanText, if_neg (not_or.mpr ⟨hbackslash, hcontrol⟩), hrest]
  · rfl
  all_goals
    intros
    simp_all

/-- A character is read back from what a text needs for it. -/
theorem scanText_escaped (c : Char) {rest later : List Symbol}
    {pieces : Pieces} (hrest : scanText rest = some (pieces, later)) :
    scanText ((escaped c).map some ++ rest) =
      some (.char c :: pieces, later) := by
  by_cases hquote : c = '"'
  · subst hquote
    exact scanText_simpleEscape rfl hrest
  by_cases hbackslash : c = '\\'
  · subst hbackslash
    exact scanText_simpleEscape rfl hrest
  rw [escaped, if_neg hquote, if_neg hbackslash]
  -- the control characters, first those with an escape of their own
  split
  · next hcontrol => exact hcontrol ▸ scanText_simpleEscape rfl hrest
  split
  · next hcontrol => exact hcontrol ▸ scanText_simpleEscape rfl hrest
  split
  · next hcontrol => exact hcontrol ▸ scanText_simpleEscape rfl hrest
  split
  · next hcontrol => exact hcontrol ▸ scanText_simpleEscape rfl hrest
  split
  · next hcontrol => exact hcontrol ▸ scanText_simpleEscape rfl hrest
  split
  · next hcontrol =>
    obtain ⟨h₁, h₂, h₃, h₄, hdigits⟩ : ∃ h₁ h₂ h₃ h₄,
        Text.hexDigits 4 c.toNat = [h₁, h₂, h₃, h₄] := ⟨_, _, _, _, rfl⟩
    have hunit := codeUnit?_hexDigits hcontrol
    rw [hdigits] at hunit ⊢
    exact scanText_codeUnit hunit hrest
  · next hcontrol => exact scanText_plain hquote hbackslash hcontrol hrest

theorem scanText_flatMap (chars : List Char) (rest : List Symbol) :
    scanText ((chars.flatMap escaped).map some ++ some '"' :: rest) =
      some (chars.map .char, rest) := by
  induction chars with
  | nil => rfl
  | cons c chars ih =>
    rw [List.flatMap_cons, List.map_append, List.append_assoc]
    exact scanText_escaped c ih

/-- The symbols of a quoted text after its opening quote. -/
theorem quoted_symbols (value : String) (rest : List Symbol) :
    (quoted value).toList.map some ++ rest =
      some '"' :: ((value.toList.flatMap escaped).map some ++
        some '"' :: rest) := by
  simp [quoted]

/-- The pieces of a text without surrogates and stray bytes. -/
theorem chars?_map_char (chars : List Char) :
    Pieces.chars? (chars.map .char) = some chars := by
  induction chars with
  | nil => rfl
  | cons c chars ih => rw [List.map_cons, Pieces.chars?, ih, Option.map_some]

theorem text?_map_char (value : String) :
    Pieces.text? (value.toList.map .char) = some value := by
  rw [Pieces.text?, chars?_map_char, Option.map_some, String.ofList_toList]

/-! ## Documents -/

mutual

/-- The outline of a document. -/
def outlined : Json → Outline
  | .null => .null
  | .boolean value => .boolean value
  | .integer value => .number (.integer value)
  | .float value => .number (.float value)
  | .text value => .text (value.toList.map .char)
  | .array items => .array (outlinedItems items) true
  | .object members => .object (outlinedMembers members) true

def outlinedItems : List Json → List Outline
  | [] => []
  | item :: others => item.outlined :: outlinedItems others

def outlinedMembers : List (String × Json) → List (Pieces × Outline)
  | [] => []
  | (name, value) :: others =>
    (name.toList.map .char, value.outlined) :: outlinedMembers others

end

mutual

/-- What the printed document is read as: a number is what its digits say, and a
float that is not finite is null. -/
def retold : Json → Outline
  | .null => .null
  | .boolean value => .boolean value
  | .integer value => .number (writtenInteger value).value
  | .float value =>
    if value.isFinite then .number (writtenFloat value).value else .null
  | .text value => .text (value.toList.map .char)
  | .array items => .array (retoldItems items) true
  | .object members => .object (retoldMembers members) true

def retoldItems : List Json → List Outline
  | [] => []
  | item :: others => item.retold :: retoldItems others

def retoldMembers : List (String × Json) → List (Pieces × Outline)
  | [] => []
  | (name, value) :: others =>
    (name.toList.map .char, value.retold) :: retoldMembers others

end

mutual

/-- All numbers of the document are integers that fit into 64 bits. -/
def Exact : Json → Prop
  | .integer value => FitsWord value
  | .float _ => False
  | .array items => ItemsExact items
  | .object members => MembersExact members
  | _ => True

def ItemsExact : List Json → Prop
  | [] => True
  | item :: others => item.Exact ∧ ItemsExact others

def MembersExact : List (String × Json) → Prop
  | [] => True
  | (_, value) :: others => value.Exact ∧ MembersExact others

end

theorem isSpace_of_startsNumber {c : Char} (hc : startsNumber c = true) :
    isSpace c = false := by
  have hspace := startsNumber_ne hc (d := ' ') (by decide)
  have hline := startsNumber_ne hc (d := '\n') (by decide)
  have htabulator := startsNumber_ne hc (d := '\t') (by decide)
  have hreturn := startsNumber_ne hc (d := '\r') (by decide)
  simp [isSpace, hspace, hline, htabulator, hreturn]

theorem skipSpace_cons {c : Char} (hc : isSpace c = false)
    (rest : List Symbol) : skipSpace (some c :: rest) = some c :: rest := by
  rw [skipSpace, hc, if_neg Bool.false_ne_true]

theorem exists_eq_cons_of_chars {number : WrittenNumber} {chars : List Char}
    (hnumber : number.WellFormed) (hchars : number.chars = chars) :
    ∃ c others, chars = c :: others ∧ isSpace c = false ∧ c ≠ ']' := by
  obtain ⟨c, others, hcons, hc⟩ := hnumber.exists_chars_eq_cons
  exact ⟨c, others, hchars.symm.trans hcons, isSpace_of_startsNumber hc,
    startsNumber_ne hc (by decide)⟩

/-- No printed document starts with a space or ends a list. -/
theorem exists_print_eq_cons (json : Json) :
    ∃ c chars, json.print.toList = c :: chars ∧ isSpace c = false ∧
      c ≠ ']' := by
  cases json with
  | null => exact ⟨_, _, rfl, by decide, by decide⟩
  | boolean value =>
    cases value <;> exact ⟨_, _, rfl, by decide, by decide⟩
  | integer value =>
    exact exists_eq_cons_of_chars (wellFormed_writtenInteger value)
      (chars_writtenInteger value)
  | float value =>
    rw [print, floatText]
    split
    · exact exists_eq_cons_of_chars (wellFormed_writtenFloat value)
        (chars_writtenFloat value)
    · exact ⟨_, _, rfl, by decide, by decide⟩
  | text value =>
    refine ⟨'"', value.toList.flatMap escaped ++ ['"'], ?_, by decide,
      by decide⟩
    rw [print, quoted, String.toList_ofList, List.cons_append]
  | array items =>
    refine ⟨'[', (printItems items).toList ++ [']'], ?_, by decide, by decide⟩
    rw [print, String.toList_append, String.toList_append]
    rfl
  | object members =>
    refine ⟨'\x7b', (printMembers members).toList ++ ['\x7d'], ?_, by decide,
      by decide⟩
    rw [print, String.toList_append, String.toList_append]
    rfl

theorem scanValue_cons {c : Char} (hspace : isSpace c = false)
    (hlist : c ≠ '[') (hobject : c ≠ '\x7b') (steps : Nat)
    (rest : List Symbol) :
    scanValue (steps + 1) (some c :: rest) = scanScalar (some c :: rest) := by
  rw [scanValue, skipSpace_cons hspace]
  split
  · next heq => exact absurd (Option.some.inj (List.cons.inj heq).1) hlist
  · next heq => exact absurd (Option.some.inj (List.cons.inj heq).1) hobject
  · rfl

/-- A number is read as one wherever it starts as one. -/
theorem scanScalar_chars {number : WrittenNumber}
    (hnumber : number.WellFormed) {rest : List Symbol}
    (hrest : Settled rest) :
    scanScalar (number.chars.map some ++ rest) =
      (.number number.value, some rest) := by
  have hscan := scanNumber_chars hnumber hrest
  obtain ⟨c, chars, hchars, hc⟩ := hnumber.exists_chars_eq_cons
  have hother (d : Char) (hd : startsNumber d = false) :
      (some c : Symbol) ≠ some d :=
    fun heq => startsNumber_ne hc hd (Option.some.inj heq)
  rw [hchars, List.map_cons, List.cons_append] at hscan ⊢
  rw [scanScalar.eq_def]
  split
  · next heq => exact absurd (List.cons.inj heq).1 (hother '"' (by decide))
  · next heq => exact absurd (List.cons.inj heq).1 (hother 'n' (by decide))
  · next heq => exact absurd (List.cons.inj heq).1 (hother 't' (by decide))
  · next heq => exact absurd (List.cons.inj heq).1 (hother 'f' (by decide))
  · rw [hscan]

theorem scanScalar_quoted (value : String) (rest : List Symbol) :
    scanScalar ((quoted value).toList.map some ++ rest) =
      (.text (value.toList.map .char), some rest) := by
  rw [quoted_symbols, scanScalar, scanText_flatMap]

/-! ### One step of the scanner -/

section Steps

variable {steps : Nat} {input others : List Symbol} {rest : Remaining}

theorem scanValue_list {c : Char} (hspace : isSpace c = false)
    (hbracket : c ≠ ']') {items : List Outline} {closed : Bool}
    (hitems : scanItems steps (some c :: others) = (items, closed, rest)) :
    scanValue (steps + 1) (some '[' :: some c :: others) =
      (.array items closed, rest) := by
  rw [scanValue, skipSpace_cons (by decide)]
  simp only
  rw [skipSpace_cons hspace]
  split
  · next heq => exact absurd (Option.some.inj (List.cons.inj heq).1) hbracket
  · rw [hitems]

theorem scanItems_last {item : Outline} {others : List Symbol}
    (hitem : scanValue steps input = (item, some (some ']' :: others))) :
    scanItems (steps + 1) input = ([item], true, some others) := by
  rw [scanItems, hitem]
  rfl

theorem scanItems_next {item : Outline} {items : List Outline} {closed : Bool}
    (hitem : scanValue steps input = (item, some (some ',' :: others)))
    (hitems : scanItems steps others = (items, closed, rest)) :
    scanItems (steps + 1) input = (item :: items, closed, rest) := by
  rw [scanItems, hitem]
  simp only
  rw [skipSpace_cons (by decide)]
  simp only
  rw [hitems]

theorem scanValue_members {members : List (Pieces × Outline)} {closed : Bool}
    (hmembers : scanMembers steps (some '"' :: others) =
      (members, closed, rest)) :
    scanValue (steps + 1) (some '\x7b' :: some '"' :: others) =
      (.object members closed, rest) := by
  rw [scanValue, skipSpace_cons (by decide)]
  simp only
  rw [skipSpace_cons (by decide)]
  split
  · next heq => exact absurd (List.cons.inj heq).1 (by decide)
  · rw [hmembers]

theorem scanMembers_last {name : String} {value : Outline}
    {later : List Symbol}
    (hvalue : scanValue steps others = (value, some (some '\x7d' :: later))) :
    scanMembers (steps + 2)
        ((quoted name).toList.map some ++ some ':' :: others) =
      ([(name.toList.map .char, value)], true, some later) := by
  rw [quoted_symbols, scanMembers, skipSpace_cons (by decide)]
  simp only
  rw [scanText_flatMap]
  simp only
  rw [scanNamed, skipSpace_cons (by decide)]
  simp only
  rw [hvalue]
  rfl

theorem scanMembers_next {name : String} {value : Outline}
    {later : List Symbol} {members : List (Pieces × Outline)} {closed : Bool}
    (hvalue : scanValue steps others = (value, some (some ',' :: later)))
    (hmembers : scanMembers (steps + 1) later = (members, closed, rest)) :
    scanMembers (steps + 2)
        ((quoted name).toList.map some ++ some ':' :: others) =
      ((name.toList.map .char, value) :: members, closed, rest) := by
  rw [quoted_symbols, scanMembers, skipSpace_cons (by decide)]
  simp only
  rw [scanText_flatMap]
  simp only
  rw [scanNamed, skipSpace_cons (by decide)]
  simp only
  rw [hvalue]
  simp only
  rw [skipSpace_cons (by decide)]
  simp only
  rw [hmembers]

end Steps

/-! ### Whole documents -/

theorem toList_printItems_cons (item : Json) {others : List Json}
    (hothers : others ≠ []) :
    (printItems (item :: others)).toList =
      item.print.toList ++ ',' :: (printItems others).toList := by
  rw [printItems, String.toList_append, String.toList_append,
    List.append_assoc]
  · rfl
  · exact hothers

theorem toList_printMember (name : String) (value : Json) :
    (printMembers [(name, value)]).toList =
      (quoted name).toList ++ ':' :: value.print.toList := by
  rw [printMembers, String.toList_append, String.toList_append,
    List.append_assoc]
  rfl

theorem toList_printMembers_cons (name : String) (value : Json)
    {others : List (String × Json)} (hothers : others ≠ []) :
    (printMembers ((name, value) :: others)).toList =
      (quoted name).toList ++ ':' ::
        (value.print.toList ++ ',' :: (printMembers others).toList) := by
  rw [printMembers]
  · simp
  · exact hothers

theorem exists_printItems_eq_cons (item : Json) (others : List Json) :
    ∃ c chars, (printItems (item :: others)).toList = c :: chars ∧
      isSpace c = false ∧ c ≠ ']' := by
  obtain ⟨c, chars, hchars, hc⟩ := exists_print_eq_cons item
  cases others with
  | nil => exact ⟨c, chars, hchars, hc⟩
  | cons next others =>
    refine ⟨c, chars ++ ',' :: (printItems (next :: others)).toList, ?_, hc⟩
    rw [toList_printItems_cons item (List.cons_ne_nil next others), hchars,
      List.cons_append]

theorem exists_printMembers_eq_cons (name : String) (value : Json)
    (others : List (String × Json)) :
    ∃ chars, (printMembers ((name, value) :: others)).toList =
      '"' :: chars := by
  obtain ⟨chars, hchars⟩ : ∃ chars, (quoted name).toList = '"' :: chars :=
    ⟨name.toList.flatMap escaped ++ ['"'], by simp [quoted]⟩
  cases others with
  | nil =>
    rw [toList_printMember, hchars, List.cons_append]
    exact ⟨_, rfl⟩
  | cons next others =>
    rw [toList_printMembers_cons name value (List.cons_ne_nil next others),
      hchars, List.cons_append]
    exact ⟨_, rfl⟩

/-- Three steps for every character are enough to read the printed document as
an outline, whatever follows it. -/
def ReadsAs (json : Json) (outline : Outline) : Prop :=
  ∀ (steps : Nat) (rest : List Symbol),
    3 * json.print.toList.length ≤ steps → Settled rest →
      scanValue steps (json.print.toList.map some ++ rest) =
        (outline, some rest)

/-- The first character of a printed document takes the first step. -/
theorem readsAs_of_print {json : Json} {outline : Outline} {c : Char}
    {chars : List Char} (hprint : json.print.toList = c :: chars)
    (hscan : ∀ (steps : Nat) (rest : List Symbol),
      3 * chars.length + 2 ≤ steps → Settled rest →
        scanValue (steps + 1) (some c :: (chars.map some ++ rest)) =
          (outline, some rest)) :
    json.ReadsAs outline := by
  intro steps rest hsteps hrest
  rw [hprint, List.length_cons] at hsteps
  obtain ⟨steps, rfl⟩ : ∃ left, steps = left + 1 := ⟨steps - 1, by omega⟩
  rw [hprint, List.map_cons, List.cons_append]
  exact hscan steps rest (by omega) hrest

theorem readsAs_number {json : Json} {number : WrittenNumber}
    (hnumber : number.WellFormed) (hprint : number.chars = json.print.toList) :
    json.ReadsAs (.number number.value) := by
  obtain ⟨c, chars, hchars, hc⟩ := hnumber.exists_chars_eq_cons
  refine readsAs_of_print (hprint.symm.trans hchars)
    fun steps rest _ hrest => ?_
  have hscalar := scanScalar_chars hnumber hrest
  rw [hchars, List.map_cons, List.cons_append] at hscalar
  rw [scanValue_cons (isSpace_of_startsNumber hc)
    (startsNumber_ne hc (by decide)) (startsNumber_ne hc (by decide)), hscalar]

theorem readsAs_float (value : Float) :
    (float value).ReadsAs (float value).retold := by
  rw [retold]
  split
  · next hfinite =>
    refine readsAs_number (wellFormed_writtenFloat value) ?_
    rw [print, floatText, if_pos hfinite, chars_writtenFloat]
  · next hinfinite =>
    have hprint : (float value).print.toList = 'n' :: ['u', 'l', 'l'] := by
      rw [print, floatText, if_neg hinfinite]
      rfl
    exact readsAs_of_print hprint fun _ _ _ _ => rfl

theorem readsAs_text (value : String) :
    (text value).ReadsAs (text value).retold := by
  have hprint : (text value).print.toList =
      '"' :: (value.toList.flatMap escaped ++ ['"']) := by
    rw [print, quoted, String.toList_ofList, List.cons_append]
  refine readsAs_of_print hprint fun steps rest _ _ => ?_
  have hscalar := scanScalar_quoted value rest
  rw [quoted_symbols] at hscalar
  rw [List.map_append, List.append_assoc,
    scanValue_cons (by decide) (by decide) (by decide)]
  exact hscalar

theorem scanItems_print {items : List Json}
    (hread : ∀ item ∈ items, item.ReadsAs item.retold) (hitems : items ≠ [])
    (steps : Nat) (hsteps : 3 * (printItems items).toList.length + 1 ≤ steps)
    (rest : List Symbol) :
    scanItems steps ((printItems items).toList.map some ++ some ']' :: rest) =
      (retoldItems items, true, some rest) := by
  induction items generalizing steps with
  | nil => exact absurd rfl hitems
  | cons item others ih =>
    obtain ⟨steps, rfl⟩ : ∃ left, steps = left + 1 := ⟨steps - 1, by omega⟩
    rw [List.forall_mem_cons] at hread
    rw [retoldItems]
    by_cases hothers : others = []
    · subst hothers
      rw [printItems] at hsteps ⊢
      exact scanItems_last
        (hread.1 steps _ (by omega) (settled_cons (by simp) rest))
    · rw [toList_printItems_cons item hothers] at hsteps ⊢
      rw [List.length_append, List.length_cons] at hsteps
      rw [List.map_append, List.append_assoc, List.map_cons, List.cons_append]
      exact scanItems_next
        (hread.1 steps _ (by omega) (settled_cons (by simp) _))
        (ih hread.2 hothers steps (by omega))

theorem scanMembers_print {members : List (String × Json)}
    (hread : ∀ member ∈ members, member.2.ReadsAs member.2.retold)
    (hmembers : members ≠ []) (steps : Nat)
    (hsteps : 3 * (printMembers members).toList.length + 1 ≤ steps)
    (rest : List Symbol) :
    scanMembers steps
        ((printMembers members).toList.map some ++ some '\x7d' :: rest) =
      (retoldMembers members, true, some rest) := by
  induction members generalizing steps with
  | nil => exact absurd rfl hmembers
  | cons member others ih =>
    obtain ⟨name, value⟩ := member
    obtain ⟨steps, rfl⟩ : ∃ left, steps = left + 2 := by
      obtain ⟨chars, hchars⟩ := exists_printMembers_eq_cons name value others
      rw [hchars, List.length_cons] at hsteps
      exact ⟨steps - 2, by omega⟩
    rw [List.forall_mem_cons] at hread
    have hvalue : value.ReadsAs value.retold := hread.1
    rw [retoldMembers]
    -- one step for the name and one for the colon are gone before the value
    by_cases hothers : others = []
    · subst hothers
      rw [toList_printMember] at hsteps ⊢
      rw [List.length_append, List.length_cons] at hsteps
      rw [List.map_append, List.append_assoc, List.map_cons, List.cons_append]
      exact scanMembers_last
        (hvalue steps _ (by omega) (settled_cons (by simp) rest))
    · rw [toList_printMembers_cons name value hothers] at hsteps ⊢
      rw [List.length_append, List.length_cons, List.length_append,
        List.length_cons] at hsteps
      rw [List.map_append, List.append_assoc, List.map_cons, List.cons_append,
        List.map_append, List.append_assoc, List.map_cons, List.cons_append]
      exact scanMembers_next
        (hvalue steps _ (by omega) (settled_cons (by simp) _))
        (ih hread.2 hothers (steps + 1) (by omega))

theorem readsAs_array {items : List Json}
    (hread : ∀ item ∈ items, item.ReadsAs item.retold) :
    (array items).ReadsAs (array items).retold := by
  have hprint : (array items).print.toList =
      '[' :: ((printItems items).toList ++ [']']) := by
    simp [print]
  refine readsAs_of_print hprint fun steps rest hsteps _ => ?_
  rw [List.length_append, List.length_singleton] at hsteps
  rw [List.map_append, List.append_assoc]
  cases items with
  | nil => rfl
  | cons item others =>
    have hitems := scanItems_print hread (List.cons_ne_nil item others) steps
      (by omega) rest
    obtain ⟨c, chars, hchars, hspace, hbracket⟩ :=
      exists_printItems_eq_cons item others
    rw [hchars] at hitems ⊢
    exact scanValue_list hspace hbracket hitems

theorem readsAs_object {members : List (String × Json)}
    (hread : ∀ member ∈ members, member.2.ReadsAs member.2.retold) :
    (object members).ReadsAs (object members).retold := by
  have hprint : (object members).print.toList =
      '\x7b' :: ((printMembers members).toList ++ ['\x7d']) := by
    simp [print]
  refine readsAs_of_print hprint fun steps rest hsteps _ => ?_
  rw [List.length_append, List.length_singleton] at hsteps
  rw [List.map_append, List.append_assoc]
  cases members with
  | nil => rfl
  | cons member others =>
    have hmembers := scanMembers_print hread (List.cons_ne_nil member others)
      steps (by omega) rest
    obtain ⟨chars, hchars⟩ :=
      exists_printMembers_eq_cons member.1 member.2 others
    rw [hchars] at hmembers ⊢
    exact scanValue_members hmembers

/-- Every printed document is read whole. -/
theorem readsAs_retold (json : Json) : json.ReadsAs json.retold := by
  match json with
  | .null => exact readsAs_of_print rfl fun _ _ _ _ => rfl
  | .boolean true => exact readsAs_of_print rfl fun _ _ _ _ => rfl
  | .boolean false => exact readsAs_of_print rfl fun _ _ _ _ => rfl
  | .integer value =>
    exact readsAs_number (wellFormed_writtenInteger value)
      (chars_writtenInteger value)
  | .float value => exact readsAs_float value
  | .text value => exact readsAs_text value
  | .array items => exact readsAs_array fun item _ => readsAs_retold item
  | .object members =>
    exact readsAs_object fun member _ => readsAs_retold member.2
termination_by json
decreasing_by
  · have hlt := List.sizeOf_lt_of_mem ‹item ∈ items›
    simp only [array.sizeOf_spec]
    omega
  · have hlt := List.sizeOf_lt_of_mem ‹member ∈ members›
    obtain ⟨name, value⟩ := member
    simp only [object.sizeOf_spec, Prod.mk.sizeOf_spec] at hlt ⊢
    omega

theorem scan_print (json : Json) :
    scan (json.print.toList.map some) = (json.retold, some []) := by
  have hsteps : 3 * json.print.toList.length ≤
      enoughSteps (json.print.toList.map some) := by
    rw [enoughSteps, List.length_map]
    omega
  have hscan := json.readsAs_retold _ [] hsteps settled_nil
  rw [List.append_nil] at hscan
  exact hscan

theorem wholeOutline?_print_eq_retold (json : Json) :
    wholeOutline? (json.print.toList.map some) = some json.retold := by
  rw [wholeOutline?, scan_print]
  rfl

/-! ### Exact documents -/

mutual

/-- What has integers that fit into 64 bits for numbers is read as it was. -/
theorem Exact.retold_eq {json : Json} (hexact : json.Exact) :
    json.retold = json.outlined := by
  match json, hexact with
  | .null, _ => rfl
  | .boolean _, _ => rfl
  | .integer _, hvalue => rw [retold, value_writtenInteger hvalue, outlined]
  | .text _, _ => rfl
  | .array _, hitems => rw [retold, hitems.retoldItems_eq, outlined]
  | .object _, hmembers => rw [retold, hmembers.retoldMembers_eq, outlined]

theorem ItemsExact.retoldItems_eq {items : List Json}
    (hexact : ItemsExact items) : retoldItems items = outlinedItems items := by
  match items, hexact with
  | [], _ => rfl
  | _ :: _, ⟨hitem, hothers⟩ =>
    rw [retoldItems, hitem.retold_eq, hothers.retoldItems_eq, outlinedItems]

theorem MembersExact.retoldMembers_eq {members : List (String × Json)}
    (hexact : MembersExact members) :
    retoldMembers members = outlinedMembers members := by
  match members, hexact with
  | [], _ => rfl
  | (_, _) :: _, ⟨hvalue, hothers⟩ =>
    rw [retoldMembers, hvalue.retold_eq, hothers.retoldMembers_eq,
      outlinedMembers]

end

theorem itemsExact_iff {items : List Json} :
    ItemsExact items ↔ ∀ item ∈ items, item.Exact := by
  induction items with
  | nil => simp [ItemsExact]
  | cons item others ih => rw [ItemsExact, ih, List.forall_mem_cons]

/-- A printed document is read back as a whole. -/
theorem wholeOutline?_print {json : Json} (hexact : json.Exact) :
    wholeOutline? (json.print.toList.map some) = some json.outlined := by
  rw [wholeOutline?_print_eq_retold, hexact.retold_eq]

theorem outline_print {json : Json} (hexact : json.Exact) :
    outline (json.print.toList.map some) = json.outlined := by
  rw [outline, scan_print, hexact.retold_eq]

/-! ### What a reader finds in the outline -/

/-- The names of a printed object are read as they were. -/
theorem decodedMembers_outlinedMembers (members : List (String × Json)) :
    Schema.decodedMembers (outlinedMembers members) =
      members.map fun member => (some member.1, member.2.outlined) := by
  induction members with
  | nil => rfl
  | cons member others ih =>
    obtain ⟨name, value⟩ := member
    rw [List.map_cons, ← ih, ← text?_map_char name]
    rfl

mutual

theorem isWhole_outlined (json : Json) : json.outlined.isWhole = true := by
  cases json with
  | array items => exact areWhole_outlinedItems items
  | object members => exact membersAreWhole_outlinedMembers members
  | _ => rfl

theorem areWhole_outlinedItems (items : List Json) :
    Outline.areWhole (outlinedItems items) = true := by
  cases items with
  | nil => rfl
  | cons item others =>
    rw [outlinedItems, Outline.areWhole, isWhole_outlined item,
      areWhole_outlinedItems others]
    rfl

theorem membersAreWhole_outlinedMembers (members : List (String × Json)) :
    Outline.membersAreWhole (outlinedMembers members) = true := by
  match members with
  | [] => rfl
  | (name, value) :: others =>
    rw [outlinedMembers, Outline.membersAreWhole, isWhole_outlined value,
      membersAreWhole_outlinedMembers others]
    rfl

end

/-- Nothing printed is refused for not being wanted. -/
theorem ignored?_outlined (json : Json) : json.outlined.ignored? = none := by
  rw [Outline.ignored?, isWhole_outlined, if_pos rfl]

end CivicRegistry.Json
