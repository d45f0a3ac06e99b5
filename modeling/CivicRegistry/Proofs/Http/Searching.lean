import CivicRegistry.Proofs.Http.Admission
import CivicRegistry.Proofs.Projection

/-!
# What a search comes to

A search that breaks a rule is refused before its store is asked.  Any other
search asks the store of its entity one question, and what it comes to is told
by the reply alone: a page with each row projected on the attributes that were
asked for, or the fault of the store.  A client is told the kind of a fault and
nothing of what the store reported.
-/

namespace CivicRegistry

/-! ## Projections -/

variable {entity : Entity}

theorem Entity.nodup_fields (entity : Entity) : entity.fields.Nodup := by
  cases entity <;> decide

namespace Projection

/-- A projection shows a row by some attributes: those that are present stand
in it in their order, each under its wire name. -/
structure Shows (fields : List entity.Field) (row : Row entity)
    (projection : Projection) : Prop where
  keys : projection.keys =
    (fields.filter fun field => (row.get field).isSome).map
      fun field => (Entity.info field).wire
  value : ∀ field ∈ fields,
    projection.get? (Entity.info field).wire = row.get field

/-- The projection of a row on different attributes shows the row by them. -/
theorem shows_ofRow {fields : List entity.Field} (hnodup : fields.Nodup)
    (row : Row entity) : Shows fields row (ofRow row fields) := by
  have hexact := exact_ofRow row fields
  obtain ⟨shown, hshown, hentries⟩ := hexact.entries
  -- Attributes that are different are each mentioned once only.
  have hall : shown = present row fields :=
    hshown.eq (.refl (hnodup.filter _))
  exact ⟨by rw [keys_eq hentries, hall]; rfl, hexact.value⟩

end Projection

/-! ## The attributes that are answered -/

/-- The attributes that are answered for those that were asked for: these in
the order in which the entity declares them if there are any, and otherwise
the default ones. -/
inductive Answered : Option (Selection entity.Field) → List entity.Field → Prop
  | requested {selection : Selection entity.Field} {fields : List entity.Field}
      (hordered : fields.Sublist entity.fields)
      (hmem : ∀ field, field ∈ fields ↔ field ∈ selection)
      (hne : fields ≠ []) :
      Answered (some selection) fields
  | absent : Answered none entity.defaultFields
  | empty {selection : Selection entity.Field}
      (hempty : ∀ field, field ∉ selection) :
      Answered (some selection) entity.defaultFields

theorem Criteria.answered_selectedFields (criteria : entity.Criteria) :
    Answered (Criteria.fields criteria) (Criteria.selectedFields criteria) := by
  rw [selectedFields]
  cases Criteria.fields criteria with
  | none => exact .absent
  | some selection =>
    dsimp only
    split
    · next hempty =>
      refine .empty fun field hfield => ?_
      rw [Selection.isEmpty, List.isEmpty_iff] at hempty
      change field ∈ selection.members at hfield
      rw [hempty] at hfield
      exact List.not_mem_nil hfield
    · next hsome =>
      refine .requested ?_ (fun field => Iff.rfl) ?_
      · rw [← selection.members_eq]
        exact List.filter_sublist
      · rwa [Selection.isEmpty, List.isEmpty_iff] at hsome

theorem Answered.ne_nil {selection : Option (Selection entity.Field)}
    {fields : List entity.Field} (hanswered : Answered selection fields) :
    fields ≠ [] := by
  cases hanswered with
  | requested _ _ hne => exact hne
  | absent => cases entity <;> decide
  | empty => cases entity <;> decide

theorem Answered.nodup {selection : Option (Selection entity.Field)}
    {fields : List entity.Field} (hanswered : Answered selection fields) :
    fields.Nodup := by
  cases hanswered with
  | requested hordered => exact hordered.nodup entity.nodup_fields
  | absent => cases entity <;> decide
  | empty => cases entity <;> decide

/-! ## Pages -/

/-- An answered page is a page of a store with each row shown by some
attributes. -/
structure Page.Shows (fields : List entity.Field) (stored : Page (Row entity))
    (answer : Page Projection) : Prop where
  page : answer.page = stored.page
  pageSize : answer.pageSize = stored.pageSize
  totalElements : answer.totalElements = stored.totalElements
  totalPages : answer.totalPages = stored.totalPages
  first : answer.first = stored.first
  last : answer.last = stored.last
  content : List.Forall₂ (Projection.Shows fields) stored.content answer.content

theorem Page.shows_map {fields : List entity.Field} (hnodup : fields.Nodup)
    (page : Page (Row entity)) :
    Page.Shows fields page
      (page.map fun row => Projection.ofRow row fields) where
  page := rfl
  pageSize := rfl
  totalElements := rfl
  totalPages := rfl
  first := rfl
  last := rfl
  content := by
    rw [Page.map, List.forall₂_map_right_iff, List.forall₂_same]
    intro row _
    exact Projection.shows_ofRow hnodup row

/-! ## Faults of stores -/

namespace Store

/-- What went wrong, without what was reported. -/
inductive Fault.Kind where
  | missingSetting
  | invalidUrl
  | query
  | timedOut
  | database

def Fault.kind : Fault → Fault.Kind
  | .missingSetting _ => .missingSetting
  | .invalidUrl => .invalidUrl
  | .query _ => .query
  | .timedOut _ => .timedOut
  | .database _ => .database

/-- Faults of one kind are told alike. -/
theorem ofStore_eq_of_kind_eq {fault other : Fault}
    (hkind : fault.kind = other.kind) :
    Http.Fault.ofStore fault = Http.Fault.ofStore other := by
  cases fault <;> cases other <;> first | rfl | cases hkind

end Store

namespace Service

/-- The kind of fault that a reply counts as, if it is not a page. -/
def Reply.outage? {α : Type} : Reply Store.Fault α → Option Store.Fault.Kind
  | .answered _ => none
  | .failed fault => some fault.kind
  | .silent => some .timedOut

variable {settings : SearchSettings} {criteria : entity.Criteria}
  {surroundings : Surroundings} {past : Dialogue}

/-- The question of a search. -/
def findQuestion (settings : SearchSettings) (criteria : entity.Criteria) :
    Question :=
  .find entity (Criteria.specification criteria)
    (Criteria.pageRequest criteria settings.defaultSize)

/-- What a search comes to by the reply of its store. -/
inductive Found (fields : List entity.Field) (timeout : Calendar.Span) :
    Reply Store.Fault (Page (Row entity)) →
      Except SearchFault (Page Projection) → Prop
  | page {page : Page (Row entity)} {answer : Page Projection}
      (hshows : Page.Shows fields page answer) :
      Found fields timeout (.answered page) (.ok answer)
  | failed {fault : Store.Fault} :
      Found fields timeout (.failed fault) (.error (.store fault))
  | silent : Found fields timeout .silent (.error (.store (.timedOut timeout)))

theorem found_projected (criteria : entity.Criteria) (timeout : Calendar.Span)
    (reply : Reply Store.Fault (Page (Row entity))) :
    Found (Criteria.selectedFields criteria) timeout reply
      (projected criteria timeout reply) := by
  have hnodup := (Criteria.answered_selectedFields criteria).nodup
  cases reply with
  | answered page => exact .page (Page.shows_map hnodup page)
  | failed fault => exact .failed
  | silent => exact .silent

theorem carryOut_search_of_error {violations : Violations}
    (hinvalid : Criteria.validate criteria = .error violations) :
    surroundings.carryOut (search settings criteria) past =
      (some (.error (.invalid violations)), past) := by
  rw [search, hinvalid]
  rfl

theorem carryOut_search_of_ok (hvalid : Criteria.validate criteria = .ok ()) :
    surroundings.carryOut (search settings criteria) past =
      (some (projected criteria settings.timeout
          (surroundings.answer past (findQuestion settings criteria))),
        surroundings.after past (findQuestion settings criteria)) := by
  rw [search, hvalid]
  rfl

end Service

namespace Http

open Service

/-- The response to a search. -/
def searchResponse : Except SearchFault (Page Projection) → Response
  | .ok page => .success (page.json Projection.json)
  | .error fault => (Fault.ofSearch fault).response

/-- What a request for a search gets. -/
def answering (settings : SearchSettings) (criteria : entity.Criteria) :
    Procedure Response :=
  (search settings criteria).bind fun result => .done (searchResponse result)

theorem responding_search {gateway : Gateway} {request : Request}
    {criteria : entity.Criteria}
    (hread : request.read (Criteria.ofOutline entity) = .ok criteria) :
    responding (gateway.search entity request) =
      answering gateway.searching criteria := by
  have hrun : (gateway.search entity request).run =
      (search gateway.searching criteria).bind (continued Fault.ofSearch
        fun page => pure (page.json Projection.json)) := by
    rw [Gateway.search, hread]
    exact run_adapt_bind Fault.ofSearch
      (ExceptT.mk (search gateway.searching criteria)) _
  rw [responding_eq, hrun, answering, Procedure.bind_bind]
  congr 1
  funext result
  cases result <;> rfl

variable {settings : SearchSettings} {criteria : entity.Criteria}

/-- A search that its store fails is answered by the kind of the fault. -/
theorem searchResponse_of_outage {timeout : Calendar.Span}
    {reply other : Reply Store.Fault (Page (Row entity))}
    {kind : Store.Fault.Kind} (hreply : reply.outage? = some kind)
    (hother : other.outage? = some kind) :
    searchResponse (projected criteria timeout reply) =
      searchResponse (projected criteria timeout other) := by
  have hfailed (failed : Reply Store.Fault (Page (Row entity)))
      (hfailed : failed.outage? = some kind) :
      ∃ fault : Store.Fault, fault.kind = kind ∧
        searchResponse (projected criteria timeout failed) =
          (Fault.ofStore fault).response := by
    cases failed with
    | answered page => cases hfailed
    | failed fault => exact ⟨fault, Option.some.inj hfailed, rfl⟩
    | silent => exact ⟨.timedOut timeout, Option.some.inj hfailed, rfl⟩
  obtain ⟨fault, hfault, hresponse⟩ := hfailed reply hreply
  obtain ⟨last, hlast, hlastResponse⟩ := hfailed other hother
  rw [hresponse, hlastResponse,
    Store.ofStore_eq_of_kind_eq (hfault.trans hlast.symm)]

/-- A search that breaks a rule is refused for what it breaks, and nothing is
asked.  Any other asks its store one question and comes to what the reply tells:
the page with its rows shown by the attributes that were asked for, or the fault
of the store, of which a client learns the kind alone. -/
theorem refused_or_found (settings : SearchSettings)
    (criteria : entity.Criteria) (surroundings : Surroundings)
    (past : Dialogue) :
    (∀ violations, Criteria.validate criteria = .error violations →
      surroundings.carryOut (search settings criteria) past =
        (some (.error (.invalid violations)), past)) ∧
    (Criteria.validate criteria = .ok () →
      ∃ result, Found (Criteria.selectedFields criteria) settings.timeout
          (surroundings.answer past (findQuestion settings criteria)) result ∧
        surroundings.carryOut (search settings criteria) past =
          (some result,
            surroundings.after past (findQuestion settings criteria))) ∧
    (Answered (Criteria.fields criteria) (Criteria.selectedFields criteria) ∧
      Criteria.selectedFields criteria ≠ [] ∧
      (Criteria.selectedFields criteria).Nodup) ∧
    (∀ (gateway : Gateway) (request : Request), gateway.searching = settings →
      request.read (Criteria.ofOutline entity) = .ok criteria →
      responding (gateway.search entity request) =
        answering settings criteria) ∧
    ∀ (elsewhere : Surroundings) (before : Dialogue) (kind : Store.Fault.Kind),
      (surroundings.answer past
        (findQuestion settings criteria)).outage? = some kind →
      (elsewhere.answer before
        (findQuestion settings criteria)).outage? = some kind →
      (elsewhere.carryOut (answering settings criteria) before).1 =
        (surroundings.carryOut (answering settings criteria) past).1 := by
  have hanswered := Criteria.answered_selectedFields criteria
  refine ⟨fun violations => carryOut_search_of_error, fun hvalid => ?_,
    ⟨hanswered, hanswered.ne_nil, hanswered.nodup⟩, ?_, ?_⟩
  · exact ⟨_, found_projected criteria settings.timeout _,
      carryOut_search_of_ok hvalid⟩
  · intro gateway request hsettings hread
    rw [responding_search hread, hsettings]
  · intro elsewhere before kind hhere hthere
    rw [answering]
    cases hvalid : Criteria.validate criteria with
    | error violations =>
      rw [surroundings.carryOut_bind_of_some (carryOut_search_of_error hvalid),
        elsewhere.carryOut_bind_of_some (carryOut_search_of_error hvalid)]
      rfl
    | ok =>
      rw [surroundings.carryOut_bind_of_some (carryOut_search_of_ok hvalid),
        elsewhere.carryOut_bind_of_some (carryOut_search_of_ok hvalid)]
      exact congrArg some (searchResponse_of_outage hthere hhere)

/-- Surroundings whose stores fail. -/
def failing (fault : Store.Fault) : Surroundings where
  answer past
    | .find _ _ _ => .failed fault
    | question => Token.steady.answer past question

/-- A search of the users without a filter. -/
def sampleSearch : Request where
  method := "POST"
  target := "/api/users/search"
  headers := [("content-type", asciiBytes "application/json")]
  body := asciiBytes "\x7b\x7d"

def sampleCriteria : Entity.users.Criteria where
  searchTerm := none
  roles := .empty
  officePosts := .empty
  isApproved := none
  isActive := none
  wards := ⟨none, none, none⟩
  createdFrom := none
  createdTo := none
  fields := none
  paging := .empty

theorem read_sampleSearch :
    sampleSearch.read (Criteria.ofOutline .users) = .ok sampleCriteria := by
  have hdeclared : sampleSearch.declaresJson = true := by decide +kernel
  have hlength : ¬bodyLimit < sampleSearch.body.length := by decide +kernel
  have hsymbols : Text.symbols sampleSearch.body.toByteArray =
      [some '\x7b', some '\x7d'] := by
    decide +kernel
  have houtline : Json.outline [some '\x7b', some '\x7d'] =
      .object [] true := rfl
  rw [Request.read, hdeclared, if_neg hlength, hsymbols, houtline]
  rfl

/-- The question of the search is asked once, and stores that report different
texts are answered alike. -/
theorem refused_or_found_sample :
    (Token.steady.carryOut
        (search sampleGateway.searching sampleCriteria) []).2 =
        [⟨findQuestion sampleGateway.searching sampleCriteria, .silent⟩] ∧
      ((failing (.query "no such table")).carryOut
          (responding (sampleGateway.search .users sampleSearch)) []).1 =
        ((failing (.query "connection reset")).carryOut
          (responding (sampleGateway.search .users sampleSearch)) []).1 := by
  constructor
  · obtain ⟨result, -, hcarried⟩ := (refused_or_found sampleGateway.searching
      sampleCriteria Token.steady []).2.1 (by rfl)
    rw [hcarried]
    rfl
  · obtain ⟨-, -, -, hanswering, halike⟩ := refused_or_found
      sampleGateway.searching sampleCriteria
      (failing (.query "connection reset")) []
    rw [hanswering sampleGateway sampleSearch rfl read_sampleSearch]
    exact halike (failing (.query "no such table")) [] .query rfl rfl

end Http

end CivicRegistry
