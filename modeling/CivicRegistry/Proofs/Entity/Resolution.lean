import CivicRegistry.Entity.Token
import CivicRegistry.Proofs.Mentions
import CivicRegistry.Proofs.Naming
import CivicRegistry.Proofs.Text.Blank

/-!
# What tokens name

A token names an attribute by its constant name in any case, written with its
underscores or with capital letters in their stead.  No token names two
attributes.  A list of tokens is resolved to the attributes that it names, in
the order of first mention, or refused for its first token that names none.
-/

namespace CivicRegistry

/-! ## Names with and without underscores -/

namespace Naming

/-- The text with an underscore before each capital letter that is not its first
character. -/
def underscored : List Char → List Char
  | [] => []
  | c :: rest => c :: rest.flatMap fun d => if d.isUpper then ['_', d] else [d]

/-- The text without its underscores. -/
def withoutUnderscores (chars : List Char) : List Char :=
  chars.filter (· ≠ '_')

theorem withoutUnderscores_append (left right : List Char) :
    withoutUnderscores (left ++ right) =
      withoutUnderscores left ++ withoutUnderscores right :=
  List.filter_append left right

theorem map_toUpper_underscored (chars : List Char) :
    (underscored chars).map Char.toUpper = constantChars chars := by
  cases chars with
  | nil => rfl
  | cons c rest =>
    rw [underscored, constantChars, List.map_cons, List.map_flatMap]
    congr 2
    funext d
    cases hd : d.isUpper with
    | true => simp [segmentStart, hd, toUpper_eq_self]
    | false => simp [segmentStart, hd]

theorem withoutUnderscores_segmentStart (c : Char) :
    withoutUnderscores (segmentStart c) = withoutUnderscores [c.toUpper] := by
  cases hc : c.isUpper with
  | true =>
    simp [withoutUnderscores, segmentStart, hc, toUpper_eq_self (Or.inl hc)]
  | false => simp [segmentStart, hc]

/-- Underscores before capital letters are all that is added. -/
theorem withoutUnderscores_constantChars (chars : List Char) :
    withoutUnderscores (constantChars chars) =
      withoutUnderscores (chars.map Char.toUpper) := by
  cases chars with
  | nil => rfl
  | cons c rest =>
    have hrest : withoutUnderscores (rest.flatMap segmentStart) =
        withoutUnderscores (rest.map Char.toUpper) := by
      rw [withoutUnderscores, List.filter_flatMap, withoutUnderscores,
        ← List.flatMap_singleton' (rest.map Char.toUpper), List.filter_flatMap,
        List.flatMap_map]
      exact List.flatMap_congr fun d _ => withoutUnderscores_segmentStart d
    rw [constantChars, List.map_cons, ← List.singleton_append,
      withoutUnderscores_append, hrest, ← withoutUnderscores_append]
    rfl

theorem map_toUpper_constantChars (chars : List Char) :
    (constantChars chars).map Char.toUpper = constantChars chars := by
  rw [← map_toUpper_underscored, List.map_map]
  exact List.map_congr_left fun c _ => Char.toUpper_toUpper_eq_toUpper c

theorem getLast?_constantChars (chars : List Char) :
    (constantChars chars).getLast? = chars.getLast?.map Char.toUpper := by
  have hsegment (c : Char) : (segmentStart c).getLast? = some c.toUpper := by
    cases hc : c.isUpper with
    | true => simp [segmentStart, hc, toUpper_eq_self (Or.inl hc)]
    | false => simp [segmentStart, hc]
  cases chars with
  | nil => rfl
  | cons c rest =>
    induction rest using List.reverseRecOn with
    | nil => rfl
    | append_singleton rest d =>
      rw [constantChars, List.flatMap_append, List.flatMap_singleton,
        ← List.cons_append, List.getLast?_append, hsegment, ← List.cons_append,
        List.getLast?_concat]
      rfl

theorem isBlank_toUpper {c : Char} (hc : Text.isBlank c = false) :
    Text.isBlank c.toUpper = false := by
  cases hlower : c.isLower with
  | true =>
    have hupper : c.toUpper.isUpper = true := by simp [Char.isAlpha, hlower]
    have hrange : 65 ≤ c.toUpper.toNat ∧ c.toUpper.toNat ≤ 90 := by
      simpa [Char.isUpper, UInt32.le_iff_toNat_le] using hupper
    exact Text.isBlank_of_visible (by omega) (by omega)
  | false => rwa [Char.toUpper_eq_of_not_isLower (by simp [hlower])]

/-- Trimming does not get at what is added, as it stands between characters. -/
theorem isTrimmed_constantChars {chars : List Char}
    (hchars : Text.IsTrimmed chars) : Text.IsTrimmed (constantChars chars) := by
  have hhead : (constantChars chars).head? = chars.head?.map Char.toUpper := by
    cases chars <;> rfl
  constructor
  · rw [hhead, Option.forall_mem_map]
    exact fun c hc => isBlank_toUpper (hchars.head c hc)
  · rw [getLast?_constantChars, Option.forall_mem_map]
    exact fun c hc => isBlank_toUpper (hchars.last c hc)

end Naming

/-! ## Single tokens -/

namespace Entity

variable {entity : Entity}

/-- Without the blanks around it and in upper case, the token is the constant
name of the attribute, as it is or after an underscore is put before each
capital letter that is not its first character. -/
def Names (token : String) (field : entity.Field) : Prop :=
  let text := Text.trimmed token.toList
  text.map Char.toUpper = (info field).constant.toList ∨
    (Naming.underscored text).map Char.toUpper = (info field).constant.toList

/-- The constant names of an entity differ in more than their underscores. -/
theorem nodup_withoutUnderscores (entity : Entity) :
    (entity.fields.map fun field =>
      Naming.withoutUnderscores (info field).constant.toList).Nodup := by
  cases entity <;> decide +kernel

theorem field_eq_of_withoutUnderscores {field other : entity.Field}
    (hsame : Naming.withoutUnderscores (info field).constant.toList =
      Naming.withoutUnderscores (info other).constant.toList) :
    field = other :=
  List.inj_on_of_nodup_map (nodup_withoutUnderscores entity)
    (Enumeration.mem_all field) (Enumeration.mem_all other) hsame

theorem Names.withoutUnderscores_eq {token : String} {field : entity.Field}
    (hnames : Names token field) :
    Naming.withoutUnderscores (info field).constant.toList =
      Naming.withoutUnderscores
        ((Text.trimmed token.toList).map Char.toUpper) := by
  obtain hplain | hcamel := hnames
  · rw [hplain]
  · rw [← hcamel, Naming.map_toUpper_underscored,
      Naming.withoutUnderscores_constantChars]

theorem Names.unique {token : String} {field other : entity.Field}
    (hfield : Names token field) (hother : Names token other) :
    field = other := by
  apply field_eq_of_withoutUnderscores
  rw [hfield.withoutUnderscores_eq, hother.withoutUnderscores_eq]

theorem names_constant (field : entity.Field) :
    Names (info field).constant field := by
  have hall : ∀ field ∈ entity.fields,
      (Text.trimmed (info field).constant.toList).map Char.toUpper =
        (info field).constant.toList := by
    cases entity <;> decide +kernel
  exact Or.inl (hall field (Enumeration.mem_all field))

/-- The wire name of an attribute names it as its constant name does. -/
theorem names_wireName (field : entity.Field) :
    Names (Naming.wireName (info field).constant) field := by
  have hall : ∀ field ∈ entity.fields,
      (Naming.underscored (Text.trimmed
        (Naming.wireChars (info field).constant.toList))).map Char.toUpper =
          (info field).constant.toList := by
    cases entity <;> decide +kernel
  apply Or.inr
  rw [Naming.wireName, String.toList_ofList]
  exact hall field (Enumeration.mem_all field)

theorem fieldNamed?_eq_some_iff {constant : String} {field : entity.Field} :
    entity.fieldNamed? constant = some field ↔
      (info field).constant = constant := by
  constructor
  · intro hfound
    simpa using List.find?_some hfound
  · intro hconstant
    have hsome : (entity.fieldNamed? constant).isSome := by
      rw [fieldNamed?, List.find?_isSome]
      exact ⟨field, Enumeration.mem_all field, by simp [hconstant]⟩
    obtain ⟨other, hother⟩ := Option.isSome_iff_exists.mp hsome
    have hsame : (info other).constant = constant := by
      simpa using List.find?_some hother
    have heq : other = field :=
      field_eq_of_withoutUnderscores (by rw [hsame, hconstant])
    rw [hother, heq]

theorem constantField?_eq_some_iff {token : String} {field : entity.Field} :
    entity.constantField? token = some field ↔
      (Text.trimmed token.toList).map Char.toUpper =
        (info field).constant.toList := by
  rw [constantField?, fieldNamed?_eq_some_iff, Naming.canonicalToken,
    Naming.upperCased, Text.toList_trim, ← String.toList_inj,
    String.toList_ofList, eq_comm]

/-- Of the name that is made of a trimmed token nothing is trimmed. -/
theorem constantField?_constantName_eq_some_iff {token : String}
    {field : entity.Field} :
    entity.constantField? (Naming.constantName (Text.trim token)) = some field ↔
      (Naming.underscored (Text.trimmed token.toList)).map Char.toUpper =
        (info field).constant.toList := by
  have htrimmed := Naming.isTrimmed_constantChars
    (Text.isTrimmed_trimmed token.toList)
  rw [constantField?_eq_some_iff, Naming.constantName, String.toList_ofList,
    Text.toList_trim, htrimmed.trimmed_eq, Naming.map_toUpper_constantChars,
    Naming.map_toUpper_underscored]

theorem field?_eq_some_iff {token : String} {field : entity.Field} :
    entity.field? token = some field ↔ Names token field := by
  rw [field?, Option.or_eq_some_iff, constantField?_constantName_eq_some_iff,
    constantField?_eq_some_iff]
  constructor
  · rintro (hplain | ⟨-, hcamel⟩)
    · exact Or.inl hplain
    · exact Or.inr hcamel
  · intro hnames
    cases hplain : entity.constantField? token with
    | none => exact hnames.imp_right fun hcamel => ⟨rfl, hcamel⟩
    | some other =>
      have hother := constantField?_eq_some_iff.mp hplain
      rw [hnames.unique (Or.inl hother)]
      exact Or.inl hother

theorem field?_eq_none_iff {token : String} :
    entity.field? token = none ↔
      ∀ field : entity.Field, ¬ Names token field := by
  simp only [Option.eq_none_iff_forall_ne_some, ne_eq, field?_eq_some_iff]

theorem readField_eq_ok_iff {token : String} {field : entity.Field} :
    entity.readField token = .ok field ↔ Names token field := by
  rw [← field?_eq_some_iff, readField]
  cases entity.field? token <;> simp

theorem readField_eq_error_iff {token : String} {error : UnknownField} :
    entity.readField token = .error error ↔
      (∀ field : entity.Field, ¬ Names token field) ∧ error = ⟨token⟩ := by
  rw [← field?_eq_none_iff, readField]
  cases entity.field? token <;> simp [eq_comm]

theorem readSortField_eq_ok_iff {token : String} {sort : entity.SortField} :
    entity.readSortField token = .ok sort ↔
      entity.readField token = .ok sort.val := by
  rw [readSortField, readField]
  cases entity.field? token with
  | none => simp
  | some field =>
    by_cases hsort : field ∈ entity.sortFields
    · simp [hsort, Subtype.ext_iff]
    · simp only [dif_neg hsort, reduceCtorEq, false_iff, Except.ok.injEq]
      rintro rfl
      exact hsort sort.property

end Entity

/-! ## Lists of tokens -/

section Reading

variable {α β ε : Type} {read : α → Except ε β} {inputs : List α}

theorem mapM_eq_ok_iff {outputs : List β} :
    inputs.mapM read = .ok outputs ↔
      List.Forall₂ (fun input output => read input = .ok output)
        inputs outputs := by
  induction inputs generalizing outputs with
  | nil => simp [pure, Except.pure, eq_comm]
  | cons input inputs ih =>
    rw [List.mapM_cons, List.forall₂_cons_left_iff]
    simp only [← ih]
    cases read input with
    | error error => simp [bind, Except.bind]
    | ok output =>
      cases inputs.mapM read <;>
        simp [bind, Except.bind, pure, Except.pure, eq_comm]

theorem exists_mem_of_forall₂ {related : α → β → Prop} {outputs : List β}
    (hrelated : List.Forall₂ related inputs outputs) {output : β}
    (houtput : output ∈ outputs) : ∃ input ∈ inputs, related input output := by
  induction hrelated with
  | nil => cases houtput
  | cons hfirst _ ih =>
    obtain rfl | hlater := List.mem_cons.mp houtput
    · exact ⟨_, List.mem_cons_self, hfirst⟩
    · obtain ⟨input, hinput, hfound⟩ := ih hlater
      exact ⟨input, List.mem_cons_of_mem _ hinput, hfound⟩

theorem exists_forall₂_iff {related : α → β → Prop} :
    (∃ outputs, List.Forall₂ related inputs outputs) ↔
      ∀ input ∈ inputs, ∃ output, related input output := by
  induction inputs with
  | nil => simp
  | cons input inputs ih =>
    simp only [List.forall₂_cons_left_iff, List.forall_mem_cons, ← ih]
    constructor
    · rintro ⟨_, output, outputs, hinput, hinputs, rfl⟩
      exact ⟨⟨output, hinput⟩, ⟨outputs, hinputs⟩⟩
    · rintro ⟨⟨output, hinput⟩, ⟨outputs, hinputs⟩⟩
      exact ⟨_, output, outputs, hinput, hinputs, rfl⟩

theorem exists_mapM_eq_ok_iff :
    (∃ outputs, inputs.mapM read = .ok outputs) ↔
      ∀ input ∈ inputs, ∃ output, read input = .ok output := by
  simp only [mapM_eq_ok_iff, exists_forall₂_iff]

/-- Reading fails with the error of the first input that cannot be read. -/
theorem mapM_eq_error_iff {error : ε} :
    inputs.mapM read = .error error ↔
      ∃ before input after, inputs = before ++ input :: after ∧
        (∀ earlier ∈ before, ∃ output, read earlier = .ok output) ∧
        read input = .error error := by
  induction inputs with
  | nil => simp [pure, Except.pure]
  | cons first inputs ih =>
    rw [List.mapM_cons]
    cases hfirst : read first with
    | error other =>
      change Except.error other = Except.error error ↔ _
      constructor
      · rintro ⟨⟩
        exact ⟨[], first, inputs, rfl, by simp, hfirst⟩
      · rintro ⟨_ | ⟨earlier, before⟩, input, after, hsplit, hbefore, hread⟩
        · cases hsplit
          rw [hfirst, Except.error.injEq] at hread
          rw [hread]
        · cases hsplit
          obtain ⟨output, houtput⟩ := hbefore first List.mem_cons_self
          rw [hfirst] at houtput
          cases houtput
    | ok output =>
      have hrest : ((do
          let outputs ← inputs.mapM read
          pure (output :: outputs)) : Except ε (List β)) = .error error ↔
            inputs.mapM read = .error error := by
        cases inputs.mapM read <;> simp [bind, Except.bind, pure, Except.pure]
      apply hrest.trans
      rw [ih]
      constructor
      · rintro ⟨before, input, after, rfl, hbefore, hread⟩
        refine ⟨first :: before, input, after, rfl, ?_, hread⟩
        rw [List.forall_mem_cons]
        exact ⟨⟨output, hfirst⟩, hbefore⟩
      · rintro ⟨_ | ⟨earlier, before⟩, input, after, hsplit, hbefore, hread⟩
        · cases hsplit
          rw [hfirst] at hread
          cases hread
        · cases hsplit
          rw [List.forall_mem_cons] at hbefore
          exact ⟨before, input, after, rfl, hbefore.2, hread⟩

end Reading

namespace Entity

variable {entity : Entity} {tokens : List String}

theorem resolve_eq_map (tokens : List String) :
    entity.resolve tokens =
      (tokens.mapM entity.readField).map List.eraseDups := by
  rw [resolve]
  cases tokens.mapM entity.readField <;> rfl

theorem resolve_eq_ok_iff {fields : List entity.Field} :
    entity.resolve tokens = .ok fields ↔
      ∃ mentions,
        List.Forall₂ (fun token field => entity.readField token = .ok field)
          tokens mentions ∧
        FirstMentions fields mentions := by
  have hread : entity.resolve tokens = .ok fields ↔
      ∃ mentions, tokens.mapM entity.readField = .ok mentions ∧
        mentions.eraseDups = fields := by
    rw [resolve_eq_map]
    cases tokens.mapM entity.readField <;> simp [Except.map]
  rw [hread]
  refine exists_congr fun mentions => and_congr mapM_eq_ok_iff ?_
  have hfirst := firstMentions_eraseDups mentions
  exact ⟨fun hsame => hsame ▸ hfirst, hfirst.eq⟩

theorem exists_resolve_eq_ok_iff :
    (∃ fields, entity.resolve tokens = .ok fields) ↔
      ∀ token ∈ tokens, ∃ field, entity.readField token = .ok field := by
  rw [← exists_mapM_eq_ok_iff, resolve_eq_map]
  cases tokens.mapM entity.readField <;> simp [Except.map]

theorem resolve_eq_error_iff {error : UnknownField} :
    entity.resolve tokens = .error error ↔
      ∃ before token after, tokens = before ++ token :: after ∧
        (∀ earlier ∈ before, ∃ field, entity.readField earlier = .ok field) ∧
        entity.readField token = .error error := by
  rw [← mapM_eq_error_iff, resolve_eq_map]
  cases tokens.mapM entity.readField <;> simp [Except.map]

/-- A token is read as the attribute that it names, which no token does of two
attributes, and is refused as it stands when it names none.  What is sorted by
is the attribute of the token if rows can be sorted by that one.  A list of
tokens is resolved if each of them is read, to the attributes that they name in
the order of first mention, and is otherwise refused for its first token that is
not read. -/
theorem tokens_resolve (entity : Entity) :
    (∀ token (field : entity.Field),
      entity.readField token = .ok field ↔ Names token field) ∧
    (∀ token (field other : entity.Field),
      Names token field → Names token other → field = other) ∧
    (∀ token error, entity.readField token = .error error ↔
      (∀ field : entity.Field, ¬ Names token field) ∧ error = ⟨token⟩) ∧
    (∀ token (sort : entity.SortField),
      entity.readSortField token = .ok sort ↔
        entity.readField token = .ok sort.val) ∧
    (∀ token, (∃ sort, entity.readSortField token = .ok sort) ↔
      ∃ field ∈ entity.sortFields, entity.readField token = .ok field) ∧
    (∀ tokens, (∃ fields, entity.resolve tokens = .ok fields) ↔
      ∀ token ∈ tokens, ∃ field, entity.readField token = .ok field) ∧
    (∀ tokens (fields : List entity.Field),
      entity.resolve tokens = .ok fields ↔
        ∃ mentions,
          List.Forall₂ (fun token field => entity.readField token = .ok field)
            tokens mentions ∧
          FirstMentions fields mentions) ∧
    (∀ tokens error, entity.resolve tokens = .error error ↔
      ∃ before token after, tokens = before ++ token :: after ∧
        (∀ earlier ∈ before, ∃ field, entity.readField earlier = .ok field) ∧
        entity.readField token = .error error) := by
  refine ⟨fun _ _ => readField_eq_ok_iff,
    fun _ _ _ hfield hother => hfield.unique hother,
    fun _ _ => readField_eq_error_iff, fun _ _ => readSortField_eq_ok_iff, ?_,
    fun _ => exists_resolve_eq_ok_iff, fun _ _ => resolve_eq_ok_iff,
    fun _ _ => resolve_eq_error_iff⟩
  intro token
  simp only [readSortField_eq_ok_iff, Subtype.exists, exists_prop]

theorem tokens_resolve_sample :
    @Names .users "\u3000wardNumber\n" .wardNumber ∧
      (∀ other : Entity.users.Field,
        Names "\u3000wardNumber\n" other → .wardNumber = other) ∧
      Entity.users.resolve ["EMAIL", "\u3000wardNumber\n", "email"] =
        .ok [.email, .wardNumber] ∧
      Entity.users.resolve ["email", "ward number", "E_MAIL"] =
        .error ⟨"ward number"⟩ := by
  obtain ⟨hread, hunique, hrefused, -, -, -, hresolved, hfailed⟩ :=
    tokens_resolve .users
  have hward : @Names .users "\u3000wardNumber\n" .wardNumber :=
    Or.inr (by decide)
  have hemail : Entity.users.readField "email" = .ok UserField.email :=
    (hread _ _).mpr (Or.inl (by decide))
  refine ⟨hward, fun other => hunique _ _ other hward, ?_, ?_⟩
  · have hmentions :=
      firstMentions_eraseDups [UserField.email, .wardNumber, .email]
    rw [hresolved]
    refine ⟨[.email, .wardNumber, .email], ?_, hmentions⟩
    exact .cons ((hread _ _).mpr (Or.inl (by decide)))
      (.cons ((hread _ _).mpr hward) (.cons hemail .nil))
  · rw [hfailed]
    refine ⟨["email"], "ward number", ["E_MAIL"], rfl, ?_, ?_⟩
    · simpa using ⟨_, hemail⟩
    · rw [hrefused]
      exact ⟨field?_eq_none_iff.mp (by decide), rfl⟩

end Entity

end CivicRegistry
