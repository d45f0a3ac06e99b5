import CivicRegistry.Intake.Schema
import CivicRegistry.Proofs.Entity.Resolution

/-!
# The first thing that is wrong

Readers go over a document in its order and stop at the first thing that is
wrong.  Most of them find nothing wrong with tokens of attributes, because they
read none.  In an object whose tokens stand under one key, a refusal for a token
is a refusal of the value under that key, where it stands for the first time and
nothing before it is wrong.
-/

namespace CivicRegistry

/-! ## Readers -/

section Readers

variable {Source α β ε : Type}

theorem bind_eq_ok_iff {result : Except ε α} {next : α → Except ε β}
    {value : β} :
    result >>= next = .ok value ↔
      ∃ found, result = .ok found ∧ next found = .ok value := by
  cases result <;> simp [bind, Except.bind]

theorem bind_eq_error_iff {result : Except ε α} {next : α → Except ε β}
    {error : ε} :
    result >>= next = .error error ↔
      result = .error error ∨
        ∃ value, result = .ok value ∧ next value = .error error := by
  cases result <;> simp [bind, Except.bind]

theorem map_eq_ok_iff {result : Except ε α} {f : α → β} {value : β} :
    result.map f = .ok value ↔
      ∃ found, result = .ok found ∧ f found = value := by
  cases result <;> simp [Except.map]

theorem map_eq_error_iff {result : Except ε α} {f : α → β} {error : ε} :
    result.map f = .error error ↔ result = .error error := by
  cases result <;> simp [Except.map]

/-- What a reader finds wrong has nothing to do with tokens of attributes. -/
def IsSilent (read : Reader Source α) : Prop :=
  ∀ source cause, read source = .error (.mismatch cause) → cause.detail = none

theorem Shape.detail_wrongKind (shape : Shape) :
    shape.wrongKind.detail = none := by
  cases shape <;> rfl

theorem detail_of_wrong {cause found : Mismatch} (hfound : found.detail = none)
    (hwrong : (wrong found : Except Refusal α) = .error (.mismatch cause)) :
    cause.detail = none := by
  cases hwrong
  exact hfound

namespace Shape

theorem isSilent_readText : IsSilent readText := by
  intro shape cause hread
  cases shape <;> cases hread <;> rfl

theorem isSilent_readBoolean : IsSilent readBoolean := by
  intro shape cause hread
  cases shape <;> cases hread <;> rfl

theorem isSilent_readFloat : IsSilent readFloat := by
  intro shape cause hread
  cases shape <;> cases hread <;> rfl

theorem isSilent_readInteger (low high : Int) :
    IsSilent (readInteger low high) := by
  intro shape cause hread
  cases shape with
  | integer value =>
    rw [readInteger] at hread
    split at hread
    · cases hread
    · exact detail_of_wrong rfl hread
  | _ => exact detail_of_wrong (detail_wrongKind _) hread

theorem isSilent_readForm (form : String → Option α) :
    IsSilent (readForm form) := by
  intro shape cause hread
  cases shape with
  | text value =>
    rw [readForm] at hread
    cases hform : form value with
    | none =>
      rw [hform] at hread
      exact detail_of_wrong rfl hread
    | some made =>
      rw [hform] at hread
      cases hread
  | _ => exact detail_of_wrong (detail_wrongKind _) hread

end Shape

/-- An outline without a shape is no document. -/
theorem Json.Outline.shape_ne_mismatch (outline : Json.Outline)
    (cause : Mismatch) : outline.shape ≠ .error (.mismatch cause) := by
  intro hshape
  cases outline with
  | number value => cases value <;> cases hshape
  | text pieces =>
    rw [shape] at hshape
    cases hpieces : pieces.text? <;> rw [hpieces] at hshape <;> cases hshape
  | _ => cases hshape

namespace Intake

variable {read : Reader Shape α} {readItem : Reader Json.Outline α}

theorem single_eq_mismatch_iff {outline : Json.Outline} {cause : Mismatch} :
    single read outline = .error (.mismatch cause) ↔
      ∃ shape, outline.shape = .ok shape ∧
        read shape = .error (.mismatch cause) := by
  rw [single, bind_eq_error_iff]
  exact or_iff_right (outline.shape_ne_mismatch cause)

/-- A value that is not wanted is of the wrong kind, if it is one at all. -/
theorem detail_of_unwanted {outline : Json.Outline} {cause : Mismatch}
    (hread : (do wrong (α := α) (← outline.shape).wrongKind) =
      .error (.mismatch cause)) : cause.detail = none := by
  obtain hshape | ⟨shape, -, hwrong⟩ := bind_eq_error_iff.mp hread
  · exact absurd hshape (outline.shape_ne_mismatch cause)
  · exact detail_of_wrong shape.detail_wrongKind hwrong

theorem isSilent_single (hread : IsSilent read) : IsSilent (single read) := by
  intro outline cause hrefused
  obtain ⟨shape, -, hshape⟩ := single_eq_mismatch_iff.mp hrefused
  exact hread shape cause hshape

theorem optional_eq_error_iff {outline : Json.Outline} {refusal : Refusal} :
    optional readItem outline = .error refusal ↔
      outline ≠ .null ∧ readItem outline = .error refusal := by
  cases outline with
  | null => exact iff_of_false nofun fun hnull => hnull.1 rfl
  | _ => exact map_eq_error_iff.trans (and_iff_right nofun).symm

theorem isSilent_optional (hread : IsSilent readItem) :
    IsSilent (optional readItem) := by
  intro outline cause hrefused
  exact hread outline cause (optional_eq_error_iff.mp hrefused).2

/-- The first item that cannot be read refuses the list. -/
theorem items_eq_mismatch_iff {outline : Json.Outline} {cause : Mismatch}
    (hcause : cause.detail ≠ none) :
    items readItem outline = .error (.mismatch cause) ↔
      ∃ before item after closed,
        outline = .array (before ++ item :: after) closed ∧
        (∀ earlier ∈ before, ∃ value, readItem earlier = .ok value) ∧
        readItem item = .error (.mismatch cause) := by
  cases outline with
  | array outlines closed =>
    have hend (values : List α) :
        (if closed = true then pure values else .error .syntaxError) ≠
          (.error (.mismatch cause) : Except Refusal (List α)) := by
      cases closed <;> nofun
    rw [items, bind_eq_error_iff, mapM_eq_error_iff]
    simp [hend]
  | _ =>
    refine iff_of_false (fun hread => hcause ?_) (by simp)
    exact detail_of_unwanted hread

theorem isSilent_items (hread : IsSilent readItem) :
    IsSilent (items readItem) := by
  intro outline cause hrefused
  by_contra hcause
  obtain ⟨before, item, after, closed, -, -, hitem⟩ :=
    (items_eq_mismatch_iff hcause).mp hrefused
  exact hcause (hread item cause hitem)

theorem optionalShape_eq_error_iff {document : Json} {refusal : Refusal} :
    optionalShape read document = .error refusal ↔
      document ≠ .null ∧ read document.shape = .error refusal := by
  cases document with
  | null => exact iff_of_false nofun fun hnull => hnull.1 rfl
  | _ => exact map_eq_error_iff.trans (and_iff_right nofun).symm

theorem isSilent_optionalShape (hread : IsSilent read) :
    IsSilent (optionalShape read) := by
  intro document cause hrefused
  exact hread document.shape cause (optionalShape_eq_error_iff.mp hrefused).2

variable {ofWord : String → Option α}

theorem detail_of_readWord {word : String} {cause : Mismatch}
    (hread : readWord ofWord word = .error (.mismatch cause)) :
    cause.detail = none := by
  rw [readWord] at hread
  cases hword : ofWord word with
  | none =>
    rw [hword] at hread
    exact detail_of_wrong rfl hread
  | some value =>
    rw [hword] at hread
    cases hread

theorem isSilent_wordOfOutline : IsSilent (wordOfOutline ofWord) := by
  intro outline cause hrefused
  cases outline with
  | text pieces =>
    rw [wordOfOutline] at hrefused
    cases hpieces : pieces.text? with
    | none =>
      rw [hpieces] at hrefused
      cases hrefused
    | some word =>
      rw [hpieces] at hrefused
      exact detail_of_readWord hrefused
  | object members closed =>
    cases members with
    | nil => cases hrefused
    | cons member others =>
      obtain ⟨pieces, value⟩ := member
      obtain hpieces | ⟨word, -, hrest⟩ := bind_eq_error_iff.mp hrefused
      · cases hname : pieces.text? <;> rw [hname] at hpieces <;> cases hpieces
      obtain hword | ⟨made, -, hrest⟩ := bind_eq_error_iff.mp hrest
      · exact detail_of_readWord hword
      obtain hshape | ⟨shape, -, hrest⟩ := bind_eq_error_iff.mp hrest
      · exact absurd hshape (value.shape_ne_mismatch cause)
      cases shape with
      | null =>
        dsimp only at hrest
        split at hrest <;> cases hrest
      | _ => exact detail_of_wrong (Shape.detail_wrongKind _) hrest
  | _ => cases hrefused

theorem isSilent_wordOfDocument : IsSilent (wordOfDocument ofWord) := by
  intro document cause hrefused
  unfold wordOfDocument at hrefused
  split at hrefused
  · exact detail_of_readWord hrefused
  · next word value =>
    obtain hword | ⟨made, -, hrest⟩ := bind_eq_error_iff.mp hrefused
    · exact detail_of_readWord hword
    split at hrest
    · cases hrest
    · cases hrest
    · exact detail_of_wrong (Shape.detail_wrongKind _) hrest
  · exact detail_of_wrong rfl hrefused
  · exact detail_of_wrong (Shape.detail_wrongKind _) hrefused

end Intake

end Readers

/-! ## Members of objects -/

namespace Schema

variable {Source Key : Type} {schema : Schema Source Key}
  {before after members : Members Source}

/-- The keys of the schema that stand in some members, the last one first. -/
def keysOf (schema : Schema Source Key) (members : Members Source) : List Key :=
  (members.filterMap fun member => member.1.bind schema.keyOf?).reverse

theorem keysOf_cons (member : Option String × Source)
    (members : Members Source) :
    schema.keysOf (member :: members) =
      schema.keysOf members ++ schema.keysOf [member] := by
  rw [keysOf, ← List.singleton_append, List.filterMap_append,
    List.reverse_append]
  rfl

theorem name_of_keyOf? {name : String} {key : Key}
    (hkey : schema.keyOf? name = some key) : schema.name key = name := by
  have hmatch := List.find?_some hkey
  exact eq_of_beq hmatch

/-- A key stands in the members exactly if its name does. -/
theorem mem_keysOf_iff {key : Key}
    (hkey : schema.keyOf? (schema.name key) = some key) :
    key ∈ schema.keysOf members ↔
      some (schema.name key) ∈ members.map Prod.fst := by
  rw [keysOf, List.mem_reverse, List.mem_filterMap, List.mem_map]
  apply exists_congr
  rintro ⟨name, source⟩
  apply and_congr_right
  intro _
  constructor
  · intro hfound
    obtain ⟨text, rfl, htext⟩ := Option.bind_eq_some_iff.mp hfound
    rw [name_of_keyOf? htext]
  · rintro rfl
    exact hkey

/-- A judgement of values under other keys that has nothing to do with tokens of
attributes. -/
def IsIndifferent (other : Source → Option Refusal) : Prop :=
  ∀ source cause, other source = some (.mismatch cause) → cause.detail = none

variable [DecidableEq Key] {other : Source → Option Refusal} {seen : List Key}

/-- Members are judged one after the other. -/
theorem refusal?_cons (member : Option String × Source) :
    schema.refusal? other seen (member :: members) =
      (schema.refusal? other seen [member]).or
        (schema.refusal? other (schema.keysOf [member] ++ seen) members) := by
  obtain ⟨_ | name, source⟩ := member
  · rfl
  · have hkeys : schema.keysOf [(some name, source)] =
        (schema.keyOf? name).toList := by
      cases hkey : schema.keyOf? name <;> simp [keysOf, hkey]
    rw [hkeys, refusal?, refusal?]
    cases schema.memberRefusal? other seen name source <;> rfl

theorem refusal?_append
    (hbefore : schema.refusal? other seen before = none) :
    schema.refusal? other seen (before ++ after) =
      schema.refusal? other (schema.keysOf before ++ seen) after := by
  induction before generalizing seen with
  | nil => rfl
  | cons member before ih =>
    rw [refusal?_cons, Option.or_eq_none_iff] at hbefore
    rw [List.cons_append, refusal?_cons, hbefore.1, Option.none_or,
      ih hbefore.2, keysOf_cons member before, List.append_assoc]

/-- Members are refused for the first of them that is wrong after those before
it. -/
theorem refusal?_eq_some_iff {refusal : Refusal} :
    schema.refusal? other seen members = some refusal ↔
      ∃ before member after, members = before ++ member :: after ∧
        schema.refusal? other seen before = none ∧
        schema.refusal? other (schema.keysOf before ++ seen) [member] =
          some refusal := by
  constructor
  · intro hrefused
    induction members generalizing seen with
    | nil => cases hrefused
    | cons member members ih =>
      rw [refusal?_cons] at hrefused
      cases hmember : schema.refusal? other seen [member] with
      | some found =>
        rw [hmember, Option.some_or] at hrefused
        exact ⟨[], member, members, rfl, rfl, hmember.trans hrefused⟩
      | none =>
        rw [hmember, Option.none_or] at hrefused
        obtain ⟨before, last, after, rfl, hbefore, hlast⟩ := ih hrefused
        refine ⟨member :: before, last, after, rfl, ?_, ?_⟩
        · rw [refusal?_cons, hmember, hbefore]
          rfl
        · rwa [keysOf_cons, List.append_assoc]
  · rintro ⟨before, member, after, rfl, hbefore, hmember⟩
    rw [refusal?_append hbefore, refusal?_cons, hmember, Option.some_or]

/-- A member that is wrong for a token has a key that is new, under which its
value is read. -/
theorem refusal?_singleton_iff (hother : IsIndifferent other)
    {member : Option String × Source} {cause : Mismatch}
    (hcause : cause.detail ≠ none) :
    schema.refusal? other seen [member] = some (.mismatch cause) ↔
      ∃ key, member.1.bind schema.keyOf? = some key ∧ key ∉ seen ∧
        schema.read key member.2 = .error (.mismatch cause) := by
  obtain ⟨_ | name, source⟩ := member
  · simp [refusal?]
  have hmember : schema.refusal? other seen [(some name, source)] =
      schema.memberRefusal? other seen name source := by
    rw [refusal?]
    cases schema.memberRefusal? other seen name source <;> rfl
  rw [hmember, memberRefusal?, Option.bind_some]
  cases hname : schema.keyOf? name with
  | none => simpa using fun hrefused => hcause (hother source cause hrefused)
  | some key =>
    have hrepeated : Mismatch.repeated ≠ cause := by
      rintro rfl
      exact hcause rfl
    by_cases hseen : key ∈ seen
    · simp [hseen, hrepeated]
    · cases hread : schema.read key source <;> simp [hseen, hread]

/-- Members none of which is a token are not refused for one. -/
theorem detail_of_refusal? (hread : ∀ key, IsSilent (schema.read key))
    (hother : IsIndifferent other) {cause : Mismatch}
    (hrefused : schema.refusal? other seen members = some (.mismatch cause)) :
    cause.detail = none := by
  by_contra hcause
  obtain ⟨before, member, after, -, -, hmember⟩ :=
    refusal?_eq_some_iff.mp hrefused
  obtain ⟨key, -, -, hfound⟩ :=
    (refusal?_singleton_iff hother hcause).mp hmember
  exact hcause (hread key member.2 cause hfound)

/-- Tokens of attributes stand under one key of the schema alone. -/
structure TokensUnder (schema : Schema Source Key) (key : Key) : Prop where
  keyOf?_name : schema.keyOf? (schema.name key) = some key
  silent : ∀ next, next ≠ key → IsSilent (schema.read next)

/-- Members are refused for a token exactly if it is under its key for the first
time, and nothing before it is wrong. -/
theorem refusal?_eq_token_iff {key : Key} (hkey : schema.TokensUnder key)
    (hother : IsIndifferent other) {cause : Mismatch}
    (hcause : cause.detail ≠ none) :
    schema.refusal? other [] members = some (.mismatch cause) ↔
      ∃ before source after,
        members = before ++ (some (schema.name key), source) :: after ∧
        schema.refusal? other [] before = none ∧
        some (schema.name key) ∉ before.map Prod.fst ∧
        schema.read key source = .error (.mismatch cause) := by
  simp only [refusal?_eq_some_iff, refusal?_singleton_iff hother hcause,
    List.append_nil, ← mem_keysOf_iff hkey.keyOf?_name]
  constructor
  · rintro ⟨before, ⟨name, source⟩, after, rfl, hbefore, found, hname, hnew,
      hread⟩
    obtain rfl : found = key := by
      by_contra hne
      exact hcause (hkey.silent found hne source cause hread)
    obtain ⟨text, rfl, htext⟩ := Option.bind_eq_some_iff.mp hname
    rw [← name_of_keyOf? htext]
    exact ⟨before, source, after, rfl, hbefore, hnew, hread⟩
  · rintro ⟨before, source, after, rfl, hbefore, hnew, hread⟩
    exact ⟨before, _, after, rfl, hbefore, key, hkey.keyOf?_name, hnew, hread⟩

end Schema

end CivicRegistry
