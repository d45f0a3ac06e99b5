import CivicRegistry.Criteria.Reading
import CivicRegistry.Proofs.Intake.FirstRefusal

/-!
# What a refused request is blamed for

A request is read in the order of its document, and the first thing that is
wrong refuses it.  Tokens of attributes stand under two keys alone: those under
`fields` are read as they are met, and the one under `sortBy` after everything
else.  A refusal speaks of a token exactly if the token is to blame for it.
-/

namespace CivicRegistry

/-! ## Keys of requests -/

variable {entity : Entity}

theorem FilterKey.isSilent_maybe {α : Type} {read : Reader Shape α}
    (hread : IsSilent read) : IsSilent (maybe read) :=
  Intake.isSilent_optional (Intake.isSilent_single hread)

theorem FilterKey.isSilent_words (α : Type) [Vocabulary α] :
    IsSilent (words α) :=
  Intake.isSilent_items Intake.isSilent_wordOfOutline

/-- Among the filters, tokens of attributes stand under `fields`. -/
theorem FilterKey.tokensUnder_fields (entity : Entity) :
    (FilterKey.schema entity).TokensUnder .fields where
  keyOf?_name := by cases entity <;> decide
  silent key hkey := by
    cases key with
    | fields => exact absurd rfl hkey
    | searchTerm => exact isSilent_maybe Shape.isSilent_readText
    | roles | officePosts | houseOwnerships | types => exact isSilent_words _
    | isApproved | isActive => exact isSilent_maybe Shape.isSilent_readBoolean
    | wardNumber | wardNumberFrom | wardNumberTo | minMembers | maxMembers
    | minWards | maxWards =>
      exact isSilent_maybe (Shape.isSilent_readInteger _ _)
    | provinceId | districtId | municipalityId =>
      exact isSilent_maybe (Shape.isSilent_readForm _)
    | createdFrom | createdTo =>
      exact isSilent_maybe (Shape.isSilent_readForm _)

theorem PagingKey.read_sortDirection {document : Json}
    (hnull : document ≠ .null) :
    PagingKey.read entity .sortDirection document =
      (Intake.wordOfDocument direction? document).map some := by
  cases document with
  | null => exact absurd rfl hnull
  | _ => rfl

/-- In the block for the page, a token of an attribute stands under `sortBy`. -/
theorem PagingKey.tokensUnder_sortBy (entity : Entity) :
    (PagingKey.schema entity).TokensUnder .sortBy where
  keyOf?_name := by cases entity <;> decide
  silent key hkey := by
    cases key with
    | sortBy => exact absurd rfl hkey
    | page | pageSize =>
      exact Intake.isSilent_optionalShape (Shape.isSilent_readInteger _ _)
    | sortDirection =>
      intro document cause hrefused
      obtain rfl | hnull := eq_or_ne document .null
      · cases hrefused
      · have hword := (read_sortDirection hnull).symm.trans hrefused
        exact Intake.isSilent_wordOfDocument document cause
          (map_eq_error_iff.mp hword)

theorem LocationKey.isSilent_read (key : LocationKey) :
    IsSilent (LocationKey.schema.read key) :=
  Intake.isSilent_optionalShape Shape.isSilent_readFloat

theorem SizeKey.isSilent_read (key : SizeKey) :
    IsSilent (SizeKey.schema.read key) := by
  cases key with
  | minArea | maxArea =>
    exact Intake.isSilent_optionalShape Shape.isSilent_readFloat
  | minPopulation | maxPopulation =>
    exact Intake.isSilent_optionalShape (Shape.isSilent_readInteger _ _)

/-! ## Tokens -/

/-- What is wrong with a token that cannot be read: it names no attribute, or
one that rows are not sorted by. -/
def tokenMismatch (entity : Entity) (token : String) : Mismatch :=
  match entity.field? token with
  | none => .unknownField ⟨token⟩
  | some _ => .notSortable token

theorem detail_tokenMismatch (entity : Entity) (token : String) :
    (tokenMismatch entity token).detail ≠ none := by
  rw [tokenMismatch]
  cases entity.field? token <;> exact Option.some_ne_none _

theorem tokenMismatch_eq_unknownField_iff {token : String} :
    (∃ error, tokenMismatch entity token = .unknownField error) ↔
      ∀ field : entity.Field, ¬Entity.Names token field := by
  rw [← Entity.field?_eq_none_iff, tokenMismatch]
  cases entity.field? token <;> simp

theorem Shape.readField_eq_mismatch_iff {shape : Shape} {cause : Mismatch}
    (hcause : cause.detail ≠ none) :
    readField entity shape = .error (.mismatch cause) ↔
      ∃ token, shape = .text token ∧
        (∀ field : entity.Field, ¬Entity.Names token field) ∧
        cause = tokenMismatch entity token := by
  simp only [← Entity.field?_eq_none_iff]
  cases shape with
  | text token =>
    rw [readField, Entity.readField]
    cases htoken : entity.field? token <;>
      simp [Except.mapError, tokenMismatch, htoken, eq_comm]
  | _ =>
    refine iff_of_false (fun hread => hcause ?_) (by simp)
    exact detail_of_wrong (detail_wrongKind _) hread

theorem Shape.readSortField_eq_mismatch_iff {shape : Shape} {cause : Mismatch}
    (hcause : cause.detail ≠ none) :
    readSortField entity shape = .error (.mismatch cause) ↔
      ∃ token, shape = .text token ∧
        (∀ field : entity.SortField, ¬Entity.Names token field.val) ∧
        cause = tokenMismatch entity token := by
  simp only [← Entity.field?_eq_some_iff]
  cases shape with
  | text token =>
    rw [readSortField, Entity.readSortField]
    cases htoken : entity.field? token with
    | none => simp [wrong, tokenMismatch, htoken, eq_comm]
    | some field =>
      by_cases hsort : field ∈ entity.sortFields
      · simp [hsort, htoken]
      · have hunsorted : ∀ sort ∈ entity.sortFields, field ≠ sort := by
          rintro sort hmem rfl
          exact hsort hmem
        simpa [hsort, wrong, tokenMismatch, htoken, eq_comm] using
          fun _ => hunsorted
  | _ =>
    refine iff_of_false (fun hread => hcause ?_) (by simp)
    exact detail_of_wrong (detail_wrongKind _) hread

/-- The texts that are read as tokens name attributes. -/
theorem Shape.single_readField_eq_ok_iff {item : Json.Outline}
    {field : entity.Field} :
    Intake.single (readField entity) item = .ok field ↔
      ∃ token, item.shape = .ok (.text token) ∧ Entity.Names token field := by
  rw [Intake.single]
  cases hshape : item.shape with
  | error refusal => simp [bind, Except.bind]
  | ok shape =>
    cases shape with
    | text token =>
      have hread : readField entity (.text token) = .ok field ↔
          Entity.Names token field := by
        rw [readField, ← Entity.readField_eq_ok_iff]
        cases entity.readField token <;> simp [Except.mapError]
      simpa [bind, Except.bind] using hread
    | _ =>
      refine iff_of_false (fun hread => ?_) (by simp)
      cases hread

theorem FilterKey.read_fields_eq_mismatch_iff {outline : Json.Outline}
    {cause : Mismatch} (hcause : cause.detail ≠ none) :
    FilterKey.read entity .fields outline = .error (.mismatch cause) ↔
      ∃ items item later ended token,
        outline = .array (items ++ item :: later) ended ∧
        (∀ earlier ∈ items, ∃ text, ∃ field : entity.Field,
          earlier.shape = .ok (.text text) ∧ Entity.Names text field) ∧
        item.shape = .ok (.text token) ∧
        (∀ field : entity.Field, ¬Entity.Names token field) ∧
        cause = tokenMismatch entity token := by
  rw [FilterKey.read, Intake.optional_eq_error_iff,
    Intake.items_eq_mismatch_iff hcause]
  simp only [Intake.single_eq_mismatch_iff,
    Shape.readField_eq_mismatch_iff hcause, Shape.single_readField_eq_ok_iff]
  constructor
  · rintro ⟨-, items, item, later, ended, rfl, hitems, _, hitem, token, rfl,
      hunknown, rfl⟩
    refine ⟨items, item, later, ended, token, rfl, ?_, hitem, hunknown, rfl⟩
    intro earlier hearlier
    obtain ⟨field, text, hnames⟩ := hitems earlier hearlier
    exact ⟨text, field, hnames⟩
  · rintro ⟨items, item, later, ended, token, rfl, hitems, hitem, hunknown,
      rfl⟩
    refine ⟨nofun, items, item, later, ended, rfl, ?_, _, hitem, token, rfl,
      hunknown, rfl⟩
    intro earlier hearlier
    obtain ⟨text, field, hnames⟩ := hitems earlier hearlier
    exact ⟨field, text, hnames⟩

theorem PagingKey.read_sortBy_eq_mismatch_iff {document : Json}
    {cause : Mismatch} (hcause : cause.detail ≠ none) :
    PagingKey.read entity .sortBy document = .error (.mismatch cause) ↔
      ∃ token, document = .text token ∧
        (∀ field : entity.SortField, ¬Entity.Names token field.val) ∧
        cause = tokenMismatch entity token := by
  have hshape (token : String) :
      document.shape = .text token ↔ document = .text token := by
    cases document <;> simp [Json.shape]
  rw [PagingKey.read, Intake.optionalShape_eq_error_iff,
    Shape.readSortField_eq_mismatch_iff hcause]
  simp only [hshape]
  refine and_iff_right_of_imp ?_
  rintro ⟨token, rfl, -⟩
  nofun

/-! ## Requests -/

namespace Criteria

section Blocks

variable {Key : Type} [DecidableEq Key] {schema : Schema Json Key}
  {members : Schema.Members Json}

/-- What is wrong with a block. -/
def blockRefusal? (schema : Schema Json Key) (members : Schema.Members Json) :
    Option Refusal :=
  schema.refusal? (fun _ => none) [] members

theorem readBlock_eq :
    readBlock schema members =
      match blockRefusal? schema members with
      | some refusal => .error refusal
      | none => .ok (schema.values members) := rfl

theorem isIndifferent_none : Schema.IsIndifferent fun _ : Json => none := by
  intro document cause hrefused
  cases hrefused

theorem detail_of_blockRefusal? (hread : ∀ key, IsSilent (schema.read key))
    {cause : Mismatch}
    (hrefused : blockRefusal? schema members = some (.mismatch cause)) :
    cause.detail = none :=
  Schema.detail_of_refusal? hread isIndifferent_none hrefused

end Blocks

/-- What is wrong with the blocks that are read before the one for the page. -/
def earlierRefusal? (entity : Entity) (members : Schema.Members Json) :
    Option Refusal :=
  match entity with
  | .users => none
  | .families => blockRefusal? LocationKey.schema members
  | .provinces | .districts => blockRefusal? SizeKey.schema members
  | .municipalities | .wards =>
    (blockRefusal? SizeKey.schema members).or
      (blockRefusal? LocationKey.schema members)

theorem detail_of_earlierRefusal? {members : Schema.Members Json}
    {cause : Mismatch}
    (hrefused : earlierRefusal? entity members = some (.mismatch cause)) :
    cause.detail = none := by
  cases entity with
  | users => cases hrefused
  | families => exact detail_of_blockRefusal? LocationKey.isSilent_read hrefused
  | provinces | districts =>
    exact detail_of_blockRefusal? SizeKey.isSilent_read hrefused
  | municipalities | wards =>
    obtain hsize | ⟨-, hlocation⟩ := Option.or_eq_some_iff.mp hrefused
    · exact detail_of_blockRefusal? SizeKey.isSilent_read hsize
    · exact detail_of_blockRefusal? LocationKey.isSilent_read hlocation

/-- The blocks are read one after the other, the one for the page at last. -/
theorem assemble_eq_error_iff {values : (FilterKey.schema entity).Values}
    {members : Schema.Members Json} {refusal : Refusal} :
    assemble entity values members = .error refusal ↔
      (earlierRefusal? entity members).or
        (blockRefusal? (PagingKey.schema entity) members) = some refusal := by
  cases hpaging : blockRefusal? (PagingKey.schema entity) members <;>
    cases hlocation : blockRefusal? LocationKey.schema members <;>
    cases hsize : blockRefusal? SizeKey.schema members <;>
    cases entity <;>
    simp [assemble, earlierRefusal?, readBlock_eq, hpaging, hlocation, hsize,
      bind, Except.bind, pure, Except.pure]

theorem isIndifferent_keptRefusal? : Schema.IsIndifferent keptRefusal? := by
  intro outline cause hrefused
  rw [keptRefusal?] at hrefused
  split at hrefused <;> cases hrefused

/-- Nothing is wrong with some members as far as the filters are concerned. -/
def FiltersRead (entity : Entity) (members : Schema.Members Json.Outline) :
    Prop :=
  (FilterKey.schema entity).refusal? keptRefusal? [] members = none

/-- A token is the first thing that is wrong with the document of a request: an
item of the first list under `fields` that names no attribute, or the first text
under `sortBy` that names none to sort by, in a document that is read to its
end. -/
inductive Blames (entity : Entity) (token : String) : Json.Outline → Prop
  | fields {before after : List (Json.Pieces × Json.Outline)}
      {name : Json.Pieces} {items later : List Json.Outline}
      {item : Json.Outline} {ended closed : Bool}
      (hbefore : FiltersRead entity (Schema.decodedMembers before))
      (hfirst : some "fields" ∉ (Schema.decodedMembers before).map Prod.fst)
      (hname : name.text? = some "fields")
      (hitems : ∀ earlier ∈ items, ∃ text, ∃ field : entity.Field,
        earlier.shape = .ok (.text text) ∧ Entity.Names text field)
      (hitem : item.shape = .ok (.text token))
      (hunknown : ∀ field : entity.Field, ¬Entity.Names token field) :
      Blames entity token (.object
        (before ++ (name, .array (items ++ item :: later) ended) :: after)
          closed)
  | sortBy {members : List (Json.Pieces × Json.Outline)}
      {before after : Schema.Members Json}
      (hfilters : FiltersRead entity (Schema.decodedMembers members))
      (hearlier : earlierRefusal? entity
        (kept entity (Schema.decodedMembers members)) = none)
      (hkept : kept entity (Schema.decodedMembers members) =
        before ++ (some "sortBy", .text token) :: after)
      (hbefore : blockRefusal? (PagingKey.schema entity) before = none)
      (hfirst : some "sortBy" ∉ before.map Prod.fst)
      (hunsorted : ∀ field : entity.SortField,
        ¬Entity.Names token field.val) :
      Blames entity token (.object members true)

/-- The filters are read first, then the object is read to its end, and then
the blocks are read. -/
theorem ofOutline_object_eq_mismatch_iff
    {members : List (Json.Pieces × Json.Outline)} {closed : Bool}
    {cause : Mismatch} :
    ofOutline entity (.object members closed) = .error (.mismatch cause) ↔
      (FilterKey.schema entity).refusal? keptRefusal? []
          (Schema.decodedMembers members) = some (.mismatch cause) ∨
        FiltersRead entity (Schema.decodedMembers members) ∧ closed = true ∧
          (earlierRefusal? entity
            (kept entity (Schema.decodedMembers members))).or
            (blockRefusal? (PagingKey.schema entity)
              (kept entity (Schema.decodedMembers members))) =
              some (.mismatch cause) := by
  rw [ofOutline, Schema.readObject, Schema.readMembers, FiltersRead,
    ← @assemble_eq_error_iff entity ((FilterKey.schema entity).values
      (Schema.decodedMembers members))]
  cases (FilterKey.schema entity).refusal? keptRefusal? []
      (Schema.decodedMembers members) <;>
    cases closed <;> simp [bind, Except.bind, pure, Except.pure]

theorem blames_of_filters {members : List (Json.Pieces × Json.Outline)}
    {cause : Mismatch} (hcause : cause.detail ≠ none) (closed : Bool)
    (hrefused : (FilterKey.schema entity).refusal? keptRefusal? []
      (Schema.decodedMembers members) = some (.mismatch cause)) :
    ∃ token, Blames entity token (.object members closed) ∧
      cause = tokenMismatch entity token := by
  obtain ⟨decoded, source, others, hsplit, hbefore, hfirst, hread⟩ :=
    (Schema.refusal?_eq_token_iff (FilterKey.tokensUnder_fields entity)
      isIndifferent_keptRefusal? hcause).mp hrefused
  obtain ⟨before, rest, rfl, rfl, hrest⟩ := List.map_eq_append_iff.mp hsplit
  obtain ⟨⟨name, value⟩, after, rfl, hmember, -⟩ :=
    List.map_eq_cons_iff.mp hrest
  obtain ⟨hname, rfl⟩ := Prod.mk.inj hmember
  obtain ⟨items, item, later, ended, token, rfl, hitems, hitem, hunknown,
    rfl⟩ := (FilterKey.read_fields_eq_mismatch_iff hcause).mp hread
  exact ⟨token, .fields hbefore hfirst hname hitems hitem hunknown, rfl⟩

theorem blames_of_paging {members : List (Json.Pieces × Json.Outline)}
    {cause : Mismatch} (hcause : cause.detail ≠ none)
    (hfilters : FiltersRead entity (Schema.decodedMembers members))
    (hearlier : earlierRefusal? entity
      (kept entity (Schema.decodedMembers members)) = none)
    (hrefused : blockRefusal? (PagingKey.schema entity)
      (kept entity (Schema.decodedMembers members)) = some (.mismatch cause)) :
    ∃ token, Blames entity token (.object members true) ∧
      cause = tokenMismatch entity token := by
  obtain ⟨before, document, after, hkept, hbefore, hfirst, hread⟩ :=
    (Schema.refusal?_eq_token_iff (PagingKey.tokensUnder_sortBy entity)
      isIndifferent_none hcause).mp hrefused
  obtain ⟨token, rfl, hunsorted, rfl⟩ :=
    (PagingKey.read_sortBy_eq_mismatch_iff hcause).mp hread
  exact ⟨token, .sortBy hfilters hearlier hkept hbefore hfirst hunsorted, rfl⟩

theorem Blames.refused {token : String} {outline : Json.Outline}
    (hblames : Blames entity token outline) :
    ofOutline entity outline =
      .error (.mismatch (tokenMismatch entity token)) := by
  have hcause := detail_tokenMismatch entity token
  cases hblames with
  | @fields before after name items later item ended closed hbefore hfirst
      hname hitems hitem hunknown =>
    refine ofOutline_object_eq_mismatch_iff.mpr (Or.inl ?_)
    refine (Schema.refusal?_eq_token_iff (FilterKey.tokensUnder_fields entity)
      isIndifferent_keptRefusal? hcause).mpr ?_
    refine ⟨Schema.decodedMembers before, _, Schema.decodedMembers after, ?_,
      hbefore, hfirst, (FilterKey.read_fields_eq_mismatch_iff hcause).mpr
        ⟨items, item, later, ended, token, rfl, hitems, hitem, hunknown, rfl⟩⟩
    rw [Schema.decodedMembers, List.map_append, List.map_cons]
    dsimp only
    rw [hname]
    rfl
  | @sortBy members before after hfilters hearlier hkept hbefore hfirst
      hunsorted =>
    refine ofOutline_object_eq_mismatch_iff.mpr (Or.inr ⟨hfilters, rfl, ?_⟩)
    rw [hearlier, Option.none_or]
    refine (Schema.refusal?_eq_token_iff (PagingKey.tokensUnder_sortBy entity)
      isIndifferent_none hcause).mpr ?_
    exact ⟨before, _, after, hkept, hbefore, hfirst,
      (PagingKey.read_sortBy_eq_mismatch_iff hcause).mpr
        ⟨token, rfl, hunsorted, rfl⟩⟩

/-- A request is refused with a message about a token exactly if the token is to
blame, and the message says what is wrong with it. -/
theorem ofOutline_eq_token_iff {outline : Json.Outline} {cause : Mismatch}
    (hcause : cause.detail ≠ none) :
    ofOutline entity outline = .error (.mismatch cause) ↔
      ∃ token, Blames entity token outline ∧
        cause = tokenMismatch entity token := by
  constructor
  · intro hrefused
    cases outline with
    | object members closed =>
      obtain hfilters | ⟨hfilters, rfl, hblocks⟩ :=
        ofOutline_object_eq_mismatch_iff.mp hrefused
      · exact blames_of_filters hcause closed hfilters
      obtain hearlier | ⟨hearlier, hpaging⟩ := Option.or_eq_some_iff.mp hblocks
      · exact absurd (detail_of_earlierRefusal? hearlier) hcause
      · exact blames_of_paging hcause hfilters hearlier hpaging
    | _ =>
      obtain hobject | ⟨values, -, hrest⟩ := bind_eq_error_iff.mp hrefused
      · exact absurd (Intake.detail_of_unwanted hobject) hcause
      · cases hrest
  · rintro ⟨token, hblames, rfl⟩
    exact hblames.refused

end Criteria

end CivicRegistry
