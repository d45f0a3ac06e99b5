import CivicRegistry.Proofs.Criteria.Blame
import CivicRegistry.Proofs.Http.Admission

/-!
# The codes of refused requests

The code of a refused request is told from its message: the mark of an unknown
attribute has to occur in it.  The message about an unknown attribute bears the
mark and the one about an attribute that rows are not sorted by does not, but a
message can also repeat a text of the request that bears it.
-/

namespace CivicRegistry

/-! ## Tokens without colons -/

theorem Text.mem_dropBlank {c : Char} (hc : isBlank c = false)
    {chars : List Char} (hmem : c ∈ chars) : c ∈ dropBlank chars := by
  rw [← List.takeWhile_append_dropWhile (p := isBlank) (l := chars),
    List.mem_append] at hmem
  obtain hblank | hkept := hmem
  · cases hc.symm.trans (List.mem_takeWhile_imp hblank)
  · exact hkept

/-- Only blank characters are trimmed. -/
theorem Text.mem_trimmed {c : Char} (hc : isBlank c = false)
    {chars : List Char} (hmem : c ∈ chars) : c ∈ trimmed chars := by
  rw [trimmed, List.mem_reverse]
  exact mem_dropBlank hc (List.mem_reverse.mpr (mem_dropBlank hc hmem))

variable {entity : Entity}

theorem Entity.colon_not_mem_constant (field : entity.Field) :
    ':' ∉ (info field).constant.toList := by
  have hall : ∀ field ∈ entity.fields,
      ':' ∉ (info field).constant.toList := by
    cases entity <;> decide +kernel
  exact hall field (Enumeration.mem_all field)

/-- A token that names an attribute has no colon in it. -/
theorem Entity.Names.colon_not_mem {token : String} {field : entity.Field}
    (hnames : Names token field) : ':' ∉ token.toList := by
  intro hcolon
  have htrimmed : ':' ∈ Text.trimmed token.toList :=
    Text.mem_trimmed (by decide) hcolon
  have hupper : ':' ∈ (Text.trimmed token.toList).map Char.toUpper :=
    List.mem_map.mpr ⟨':', htrimmed, by decide⟩
  have hconstant : ':' ∈
      Naming.withoutUnderscores (info field).constant.toList := by
    rw [hnames.withoutUnderscores_eq]
    exact List.mem_filter.mpr ⟨hupper, by decide⟩
  exact colon_not_mem_constant field (List.mem_of_mem_filter hconstant)

/-! ## Messages with the mark -/

namespace Mismatch

/-- The message about a mismatch repeats a text of the document that was read
for something else than an attribute. -/
inductive Repeats : Mismatch → String → Prop
  | wrongKind {text : String} : Repeats (.wrongKind (some text)) text
  | unknownWord {word : String} : Repeats (.unknownWord word) word

theorem Repeats.detail_eq_none {cause : Mismatch} {text : String}
    (hrepeats : cause.Repeats text) : cause.detail = none := by
  cases hrepeats <;> rfl

theorem mentionsUnknownField_iff {cause : Mismatch} :
    cause.mentionsUnknownField = true ↔
      unknownFieldMark.toList <:+: cause.wording.toList :=
  Text.occursIn_eq_true_iff

/-- Without a token the mark can only be in a text that is repeated. -/
theorem mentionsUnknownField_iff_of_silent {cause : Mismatch}
    (hcause : cause.detail = none) :
    cause.mentionsUnknownField = true ↔
      ∃ text, cause.Repeats text ∧
        unknownFieldMark.toList <:+: text.toList := by
  rw [mentionsUnknownField_iff]
  have hempty : ¬unknownFieldMark.toList <:+: "".toList := by decide
  cases cause with
  | wrongKind text =>
    cases text with
    | none => exact iff_of_false hempty nofun
    | some text =>
      exact ⟨fun hmark => ⟨text, .wrongKind, hmark⟩,
        fun ⟨_, .wrongKind, hmark⟩ => hmark⟩
  | unknownWord word =>
    exact ⟨fun hmark => ⟨word, .unknownWord, hmark⟩,
      fun ⟨_, .unknownWord, hmark⟩ => hmark⟩
  | unknownField | notSortable => cases hcause
  | illFormed | repeated | missing => exact iff_of_false hempty nofun

theorem mark_in_unknownField (token : String) :
    unknownFieldMark.toList <:+: (UnknownField.message ⟨token⟩).toList := by
  have hmark : "Unknown field: '".toList =
      unknownFieldMark.toList ++ " '".toList := rfl
  unfold UnknownField.message
  rw [String.toList_append, String.toList_append, hmark, List.append_assoc,
    List.append_assoc]
  exact (List.prefix_append _ _).isInfix

/-- The colon of the mark could only be in the token. -/
theorem mark_not_in_notSortable {token : String} (htoken : ':' ∉ token.toList) :
    ¬unknownFieldMark.toList <:+:
      (SortRefusal.notSortable token).message.toList := by
  intro hmark
  have hcolon : ':' ∈ unknownFieldMark.toList := by decide
  have hmem := hmark.subset hcolon
  rw [SortRefusal.message, String.toList_append, String.toList_append,
    List.mem_append, List.mem_append] at hmem
  obtain (hbefore | hinside) | hafter := hmem
  · exact absurd hbefore (by decide)
  · exact htoken hinside
  · exact absurd hafter (by decide)

theorem mentionsUnknownField_tokenMismatch {token : String} :
    (tokenMismatch entity token).mentionsUnknownField = true ↔
      ∀ field : entity.Field, ¬Entity.Names token field := by
  rw [mentionsUnknownField_iff, ← Entity.field?_eq_none_iff, tokenMismatch]
  cases htoken : entity.field? token with
  | none => exact iff_of_true (mark_in_unknownField token) rfl
  | some field =>
    refine iff_of_false (mark_not_in_notSortable ?_) (Option.some_ne_none field)
    exact (Entity.field?_eq_some_iff.mp htoken).colon_not_mem

end Mismatch

/-! ## Refused requests -/

namespace Criteria

variable {outline : Json.Outline} {cause : Mismatch}

/-- A token that is to blame settles what is found to be wrong. -/
theorem Blames.cause_eq {token : String} (hblames : Blames entity token outline)
    (hrefused : ofOutline entity outline = .error (.mismatch cause)) :
    cause = tokenMismatch entity token := by
  cases hrefused.symm.trans hblames.refused
  rfl

/-- The message of a refused request bears the mark for a token that names no
attribute, or for a text that it repeats. -/
theorem mentionsUnknownField_iff
    (hrefused : ofOutline entity outline = .error (.mismatch cause)) :
    cause.mentionsUnknownField = true ↔
      (∃ token, Blames entity token outline ∧
        ∀ field : entity.Field, ¬Entity.Names token field) ∨
      ∃ text, cause.Repeats text ∧
        Mismatch.unknownFieldMark.toList <:+: text.toList := by
  by_cases hcause : cause.detail = none
  · have hnobody : ¬∃ token, Blames entity token outline ∧
        ∀ field : entity.Field, ¬Entity.Names token field := by
      rintro ⟨token, hblames, -⟩
      rw [hblames.cause_eq hrefused] at hcause
      exact detail_tokenMismatch entity token hcause
    rw [Mismatch.mentionsUnknownField_iff_of_silent hcause,
      or_iff_right hnobody]
  · obtain ⟨token, hblames, rfl⟩ := (ofOutline_eq_token_iff hcause).mp hrefused
    have hsilent : ¬∃ text, (tokenMismatch entity token).Repeats text ∧
        Mismatch.unknownFieldMark.toList <:+: text.toList := by
      rintro ⟨text, hrepeats, -⟩
      exact hcause hrepeats.detail_eq_none
    rw [Mismatch.mentionsUnknownField_tokenMismatch, or_iff_left hsilent]
    constructor
    · exact fun hunknown => ⟨token, hblames, hunknown⟩
    · rintro ⟨other, hother, hunknown⟩
      rw [← tokenMismatch_eq_unknownField_iff] at hunknown ⊢
      rwa [hother.cause_eq hrefused]

end Criteria

/-! ## Codes -/

namespace Http

variable {gateway : Gateway} {request : Request}

theorem Fault.code_ofRefusal (cause : Mismatch) :
    (ofRefusal (.mismatch cause)).code =
      if cause.mentionsUnknownField then "UNKNOWN_FIELD"
      else "BAD_REQUEST" := by
  rw [ofRefusal]
  cases cause.mentionsUnknownField <;> rfl

theorem Request.read_eq_refused {α : Type} {read : Reader Json.Outline α}
    {refusal : Refusal}
    (hrefused : request.read read = .error (.refused refusal)) :
    read (Json.outline (Text.symbols request.body.toByteArray)) =
      .error refusal := by
  rw [Request.read] at hrefused
  split at hrefused
  · cases hrefused
  split at hrefused
  · cases hrefused
  cases hread : read (Json.outline (Text.symbols request.body.toByteArray)) with
  | ok value =>
    rw [hread] at hrefused
    cases hrefused
  | error found =>
    rw [hread] at hrefused
    cases hrefused
    rfl

/-- The response to a request for a search whose body is refused. -/
theorem responding_search_of_refused {refusal : Refusal}
    (hrefused : request.read (Criteria.ofOutline entity) =
      .error (.refused refusal)) :
    responding (gateway.search entity request) =
      .done (Fault.ofRefusal refusal).response := by
  rw [Gateway.search, hrefused]
  rfl

/-- A search whose body has something wrong in it is coded as one for an unknown
attribute exactly if a token that names none is to blame, or the message repeats
another text that bears the mark.  The message is about the token that is to
blame, if there is one. -/
theorem refused_body_coded (gateway : Gateway) (entity : Entity)
    (request : Request) (cause : Mismatch)
    (hrefused : request.read (Criteria.ofOutline entity) =
      .error (.refused (.mismatch cause))) :
    let outline := Json.outline (Text.symbols request.body.toByteArray)
    let fault := Fault.ofRefusal (.mismatch cause)
    responding (gateway.search entity request) = .done fault.response ∧
      (fault.code = "UNKNOWN_FIELD" ↔
        (∃ token, Criteria.Blames entity token outline ∧
          ∀ field : entity.Field, ¬Entity.Names token field) ∨
        ∃ text, cause.Repeats text ∧
          Mismatch.unknownFieldMark.toList <:+: text.toList) ∧
      (fault.code ≠ "UNKNOWN_FIELD" → fault.code = "BAD_REQUEST") ∧
      ∀ token, Criteria.Blames entity token outline →
        cause = tokenMismatch entity token := by
  intro outline fault
  have hread : Criteria.ofOutline entity outline = .error (.mismatch cause) :=
    Request.read_eq_refused hrefused
  refine ⟨responding_search_of_refused hrefused, ?_, ?_, ?_⟩
  · rw [← Criteria.mentionsUnknownField_iff hread, Fault.code_ofRefusal]
    cases cause.mentionsUnknownField <;> decide
  · rw [Fault.code_ofRefusal]
    cases cause.mentionsUnknownField <;> decide
  · exact fun token hblames => hblames.cause_eq hread

/-- A search for the users whose approval is a text. -/
def markedSearch : Request where
  method := "POST"
  target := "/api/users/search"
  headers := [("content-type", asciiBytes "application/json")]
  body := Token.utf8
    (Json.object [("isApproved", .text "Unknown field:")]).print.toList

theorem read_markedSearch :
    markedSearch.read (Criteria.ofOutline .users) =
      .error (.refused (.mismatch (.wrongKind (some "Unknown field:")))) := by
  have hdeclared : markedSearch.declaresJson = true := by decide +kernel
  have hshort : ¬bodyLimit < markedSearch.body.length := by decide +kernel
  have hexact : (Json.object [("isApproved", .text "Unknown field:")]).Exact :=
    ⟨trivial, trivial⟩
  rw [Request.read, hdeclared, if_neg hshort, markedSearch,
    Token.symbols_utf8, Json.outline_print hexact]
  rfl

/-- A truth value is asked for and a text is given, and no token stands in the
document, but the text is taken for a message about one. -/
theorem refused_body_coded_sample :
    markedSearch.read (Criteria.ofOutline .users) =
        .error (.refused (.mismatch (.wrongKind (some "Unknown field:")))) ∧
      (Fault.ofRefusal (.mismatch (.wrongKind (some "Unknown field:")))).code =
        "UNKNOWN_FIELD" ∧
      ∀ token, ¬Criteria.Blames .users token
        (Json.outline (Text.symbols markedSearch.body.toByteArray)) := by
  obtain ⟨-, hcode, -, hblamed⟩ :=
    refused_body_coded sampleGateway .users markedSearch _ read_markedSearch
  refine ⟨read_markedSearch, hcode.mpr (Or.inr ?_), ?_⟩
  · exact ⟨"Unknown field:", .wrongKind, List.infix_refl _⟩
  · intro token hblames
    apply detail_tokenMismatch .users token
    rw [← hblamed token hblames]
    rfl

end Http

end CivicRegistry
