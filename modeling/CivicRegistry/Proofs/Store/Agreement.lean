import CivicRegistry.Proofs.Criteria.Lowering
import CivicRegistry.Proofs.Store.Keeping
import CivicRegistry.Store.Relational
import CivicRegistry.Store.Table

/-!
# Two stores

A table in a database and a table in memory that hold the same rows answer a
request with the same page.  The database is asked by the texts of two
statements and is assumed to answer each of them as it reads, over the cells
that are sent with it.  So it has to take every cell: PostgreSQL refuses a text
with a null character and a moment before its calendar, which begins in 4714 BC.
Of an instant the cells have whole microseconds only, so what the database
answers is the request with its moments cut; and as a database has a place for
what is not a number, the request must not hold any.
-/

namespace CivicRegistry.Store

open Calendar (Instant)

variable {entity : Entity}

/-! ## Answers of a database -/

/-- What is read for every value is read for all of them. -/
theorem sequence_ok {α ε : Type} [Enumeration α] {β : α → Type}
    {results : (value : α) → Except ε (β value)}
    {values : (value : α) → β value}
    (hvalues : ∀ value, results value = .ok (values value)) :
    Enumeration.sequence results = .ok values := by
  obtain rfl : results = fun value => .ok (values value) := funext hvalues
  rw [Enumeration.sequence]
  split
  · next error herror =>
    obtain ⟨value, _, hvalue⟩ := List.exists_of_findSome?_eq_some herror
    cases hvalue
  · rfl

/-- A record stands for a tuple: a count is read as it is, and a tuple with an
identifier as a row that has it. -/
structure Represents (entity : Entity) (record : Record) (tuple : Sql.Tuple) :
    Prop where
  count : ∀ number : Int, tuple.column "count" = some (.integer number) →
    record.number "count" = .ok number
  row : ∀ id : Uuid, tuple.column "id" = some (.uuid id) →
    ∃ row : Row entity, record.row entity = .ok row ∧ row.id = id

/-- The database answers a command as its text reads, over the values of the
cells that are sent with it: one record for each tuple. -/
def Answers (database : Relational.Database Id) (scope : Sql.Scope)
    (entity : Entity) (command : Relational.Command) : Prop :=
  ∀ select ∈ Sql.readStatement? command.sql,
    ∀ received ∈ command.parameters.mapM Cell.value?,
      ∃ records, database command = .ok records ∧
        List.Forall₂ (Represents entity) records
          (select.answer { scope with parameters := received })

/-- The tables of a database hold the rows of a table, in an order of their
own. -/
def Holds (tables : String → List Sql.Tuple) (table : Table entity) : Prop :=
  ∃ rows, List.Forall₂ (Sql.Stored tables) (tables entity.name) rows ∧
    rows.Perm table.rows

/-- A database holds the rows of a table, each under an identifier of its own
and none with what is not a number, and answers the statements of a search as
they read. -/
structure Serves (database : Relational.Database Id) (scope : Sql.Scope)
    (table : Table entity) (spec : Specification entity.Field)
    (request : PageRequest entity.Field) : Prop where
  distinct : (table.rows.map Row.id).Nodup
  proper : ∀ row ∈ table.rows, row.IsProper
  holds : Holds scope.tables table
  agrees : ∀ circle ∈ spec.predicate.circles,
    Sql.AgreesOn scope.functions circle
  answers : ∀ statement, Sql.counting spec = .ok statement ∨
    Sql.listing spec (some request) = .ok statement →
      Answers database scope entity (.ofStatement statement)

/-- Records that stand for the tuples of some rows are read as rows with their
identifiers. -/
theorem mapM_row {records : List Record} {tuples : List Sql.Tuple}
    {rows : List (Row entity)}
    (hrecords : List.Forall₂ (Represents entity) records tuples)
    (hrows : List.Forall₂ (fun tuple row =>
      Sql.Tuple.column tuple "id" = some (.uuid (Row.id row))) tuples rows) :
    ∃ read : List (Row entity),
      records.mapM (fun record => record.row entity) = .ok read ∧
        read.map Row.id = rows.map Row.id := by
  induction hrecords generalizing rows with
  | nil =>
    cases hrows
    exact ⟨[], rfl, rfl⟩
  | @cons record tuple records tuples hrecord _ ih =>
    cases hrows with
    | @cons _ row _ rows hid hothers =>
      obtain ⟨first, hfirst, hsame⟩ := hrecord.row row.id hid
      obtain ⟨others, hread, hids⟩ := ih hothers
      refine ⟨first :: others, ?_, ?_⟩
      · rw [List.mapM_cons, hfirst, hread]
        rfl
      · rw [List.map_cons, List.map_cons, hsame, hids]

theorem map_answering {α β F : Type} (f : α → β) (content : List α)
    (request : PageRequest F) (total : Nat) :
    (Page.answering content request total).map f =
      Page.answering (content.map f) request total := rfl

/-! ## Searches in a database -/

section

variable {database : Relational.Database Id} {scope : Sql.Scope}
  {spec : Specification entity.Field} {request : PageRequest entity.Field}
  {clause : Sql.Clause Value} {rows : List (Row entity)}

theorem send_eq {command : Relational.Command} {records : List Record}
    (hrecords : database command = .ok records) :
    Relational.send database command = pure records := by
  have hanswer : (database command : Id _) = pure (.ok records) := hrecords
  rw [Relational.send, hanswer]
  rfl

/-- The scope of a clause as the database has it: what is kept of the values is
in the places of the values. -/
def received (scope : Sql.Scope) (clause : Sql.Clause Value) : Sql.Scope :=
  { scope with parameters := clause.values.map Value.kept }

/-- A statement is answered over what is kept of its values. -/
theorem exists_records {answer : Sql.Answer} {distinct : Bool}
    {select : Sql.Select}
    (hanswers : Answers database scope entity
      (.ofStatement ⟨entity, answer, distinct, clause⟩))
    (hflat : ∀ value ∈ clause.values, value.items? = none)
    (hread : Sql.readStatement? (Sql.Statement.query
      ⟨entity, answer, distinct, clause⟩) = some select) :
    ∃ records,
      database (.ofStatement ⟨entity, answer, distinct, clause⟩) = .ok records ∧
        List.Forall₂ (Represents entity) records
          (select.answer (received scope clause)) :=
  hanswers select hread _ (Cell.mapM_value?_ofValue hflat)

section

variable (hclause : Sql.ofPredicate spec.predicate = .ok clause)
  (hflat : ∀ value ∈ clause.values, value.items? = none)

include hclause hflat

/-- The database counts the tuples that the clause chooses with what is kept of
its values. -/
theorem count_eq
    (hidentified : Sql.Identified (scope.tables entity.name))
    (hanswers : ∀ statement, Sql.counting spec = .ok statement →
      Answers database scope entity (.ofStatement statement)) :
    Relational.count database spec =
      pure (((clause.map Value.kept).chosen entity
        (received scope clause)).length : Int) := by
  have hkept : Sql.ofPredicate spec.kept.predicate =
      .ok (clause.map Value.kept) := Sql.ofPredicate_kept hclause
  have hcounting := Sql.counting_eq hclause
  have hread := Sql.readStatement?_count
    (Sql.wellFormed_ofPredicate hkept) rfl
  rw [Sql.query_kept] at hread
  obtain ⟨records, hrecords, hrepresents⟩ :=
    exists_records (hanswers _ hcounting) hflat hread
  have hbound : Sql.Identified ((received scope clause).tables entity.name) :=
    hidentified
  rw [Sql.answer_count hkept hbound] at hrepresents
  cases hrepresents with
  | @cons record _ others _ hrecord =>
    rw [Relational.count, hcounting]
    show Relational.send database _ >>= _ = _
    rw [send_eq hrecords, pure_bind]
    show Relational.reading (record.number "count") = _
    rw [hrecord.count _ rfl]
    rfl

variable (hsearches : Sql.Searches (received scope clause) spec.kept.predicate
  (clause.map Value.kept) rows)

include hsearches

/-- The database lists a page of the rows that what is kept of the predicate
holds of. -/
theorem list_eq (hsize : request.size ≠ 0) {order : Sql.SortClause}
    (horder : Sql.SortClause.ofField request.sortField request.direction =
      .ok order)
    (hanswers : ∀ statement, Sql.listing spec (some request) = .ok statement →
      Answers database scope entity (.ofStatement statement)) :
    ∃ read : List (Row entity),
      Relational.list database spec request = pure read ∧
      read.map Row.id = ((((rows.filter spec.kept.predicate.holds).mergeSort
        fun left right => (Ranking.order request.sortField request.direction
          left right).isLE).drop request.offset).take
            request.size.toNat).map Row.id := by
  let window : Sql.Window := ⟨request.size.toNat, request.offset⟩
  let statement : Sql.Statement :=
    ⟨entity, .rows (some order) (some window), spec.distinct,
      clause.map Value.kept⟩
  have hlisting := Sql.listing_eq hclause hsize horder
  have hread : Sql.readStatement? statement.query =
      some (Sql.listingSelect statement order window) :=
    Sql.readStatement?_listing
      (Sql.wellFormed_ofPredicate hsearches.lowered)
      (Sql.SortClause.wellNamed_column horder) rfl
  rw [Sql.query_kept] at hread
  obtain ⟨records, hrecords, hrepresents⟩ :=
    exists_records (hanswers _ hlisting) hflat hread
  obtain ⟨read, hmapM, hids⟩ := mapM_row hrepresents
    (hsearches.forall₂_answer_listing horder)
  refine ⟨read, ?_, hids⟩
  rw [Relational.list, hlisting]
  show Relational.send database _ >>= _ = _
  rw [send_eq hrecords, pure_bind, hmapM]
  rfl

/-- A search in a database gives the page that a search in memory gives for what
is kept of the specification. -/
theorem find_eq {table : Table entity} (hperm : rows.Perm table.rows)
    (hsize : request.size ≠ 0)
    (hsort : Entity.isCollected request.sortField = false)
    (hanswers : ∀ statement, Sql.counting spec = .ok statement ∨
      Sql.listing spec (some request) = .ok statement →
        Answers database scope entity (.ofStatement statement)) :
    ∃ page : Page (Row entity),
      Relational.find database spec request = pure page ∧
        page.map Row.id = (table.find spec.kept request).map Row.id := by
  let selected := rows.filter spec.kept.predicate.holds
  obtain ⟨order, horder⟩ := Sql.SortClause.exists_ofField hsort
  have hidentified : Sql.Identified (scope.tables entity.name) :=
    hsearches.rows.identified
  have hcount := count_eq hclause hflat hidentified fun statement hstatement =>
    hanswers statement (.inl hstatement)
  rw [hsearches.forall₂_chosen.length_eq] at hcount
  obtain ⟨read, hlist, hids⟩ := list_eq hclause hflat hsearches hsize horder
    fun statement hstatement => hanswers statement (.inr hstatement)
  have hmatching :
      (table.rows.filter spec.kept.predicate.holds).Perm selected :=
    (hperm.filter spec.kept.predicate.holds).symm
  have hsorted : table.matching spec.kept request = selected.mergeSort
      fun left right => (Ranking.order request.sortField request.direction
        left right).isLE := by
    apply Ranking.sortRows_eq_mergeSort hmatching
    · intro left hleft right hright hid
      exact hsearches.rows.eq_of_id
        (hperm.mem_iff.mpr (List.mem_of_mem_filter hleft))
        (hperm.mem_iff.mpr (List.mem_of_mem_filter hright)) hid
    · intro row hrow
      exact hsearches.properRows row
        (hperm.mem_iff.mpr (List.mem_of_mem_filter hrow)) request.sortField
  have htotal :
      (table.matching spec.kept request).length = selected.length := by
    rw [hsorted, List.length_mergeSort]
  refine ⟨.answering read request selected.length, ?_, ?_⟩
  · rw [Relational.find, hcount, pure_bind, hlist, pure_bind, Int.toNat_natCast]
  · have hcontent : ((((table.matching spec.kept request).drop
        request.offset).take request.size.toNat).map Row.id) =
          read.map Row.id := by
      rw [hsorted, hids]
    rw [Table.find, htotal, map_answering, map_answering, hcontent]

end

/-- The page that is found has the number of rows that is counted. -/
theorem totalElements_of_find {total : Nat}
    (hcount : Relational.count database spec = pure (total : Int))
    {page : Page (Row entity)}
    (hfind : Relational.find database spec request = pure page) :
    page.totalElements = total := by
  rw [Relational.find, hcount, pure_bind] at hfind
  cases hlist : (Relational.list database spec request :
      Except Fault (List (Row entity))) with
  | error fault =>
    rw [hlist] at hfind
    cases hfind
  | ok read =>
    rw [hlist] at hfind
    cases hfind
    rfl

end

/-! ## A database that reads what it is sent -/

/-- A cell for an attribute of a kind. -/
def plainCell : Kind → Cell
  | .text => .text ""
  | .uuid => .uuid Uuid.nil
  | .instant => .instant ⟨0, 0⟩
  | .int32 => .int32 0
  | .int64 => .int64 0
  | .float => .float 0.0
  | .boolean => .boolean false
  | .roles => .texts []
  | .officePost => .text (Vocabulary.word OfficePost.itOfficer)
  | .houseOwnership => .text (Vocabulary.word HouseOwnership.owned)
  | .municipalityType => .text (Vocabulary.word MunicipalityType.municipality)

/-- A record of a count and of a row of which only the identifier is known. -/
def plainRecord (entity : Entity) (count : Int) (id : Uuid) : Record :=
  (entity.fields.map fun field =>
    ((Entity.info field).column, plainCell (Entity.info field).kind)) ++
      [("id", .uuid id), ("count", .int64 count)]

/-- The record for a tuple. -/
def recordOf (entity : Entity) (tuple : Sql.Tuple) : Record :=
  let count := match tuple.column "count" with
    | some (.integer number) => number
    | _ => 0
  let id := match tuple.column "id" with
    | some (.uuid id) => id
    | _ => Uuid.nil
  plainRecord entity count id

/-- A database that reads what it is sent. -/
def readingDatabase (entity : Entity) (scope : Sql.Scope) :
    Relational.Database Id := fun command =>
  match Sql.readStatement? command.sql, command.parameters.mapM Cell.value? with
  | some select, some received =>
    let answered := select.answer { scope with parameters := received }
    .ok (answered.map (recordOf entity))
  | _, _ => .error (.refused "syntax error")

theorem exists_row_plainRecord (entity : Entity) (count : Int) (id : Uuid) :
    ∃ row : Row entity, (plainRecord entity count id).row entity = .ok row ∧
      row.id = id := by
  have hheld : ∀ field : entity.Field, ∃ held,
      (plainRecord entity count id).held (Entity.info field) = .ok held := by
    intro field
    cases entity <;> cases field <;> exact ⟨_, rfl⟩
  choose row hrow using hheld
  refine ⟨row, sequence_ok hrow, ?_⟩
  cases entity <;> exact (Except.ok.inj (hrow .id)).symm

theorem represents_recordOf (entity : Entity) (tuple : Sql.Tuple) :
    Represents entity (recordOf entity tuple) tuple := by
  constructor
  · intro number hnumber
    rw [recordOf, hnumber]
    cases entity <;> rfl
  · intro id hid
    rw [recordOf, hid]
    exact exists_row_plainRecord entity _ id

theorem answers_readingDatabase (scope : Sql.Scope)
    (command : Relational.Command) :
    Answers (readingDatabase entity scope) scope entity command := by
  intro select hselect received hreceived
  have hanswer : readingDatabase entity scope command =
      .ok ((select.answer { scope with parameters := received }).map
        (recordOf entity)) := by
    rw [readingDatabase, hselect, hreceived]
  refine ⟨_, hanswer, ?_⟩
  rw [List.forall₂_map_left_iff]
  exact List.forall₂_same.mpr fun tuple _ => represents_recordOf entity tuple

/-! ## Requests -/

/-- A table in memory lists every row once. -/
theorem nodup_find {table : Table entity} {spec : Specification entity.Field}
    {request : PageRequest entity.Field}
    (hdistinct : (table.rows.map Row.id).Nodup) :
    ((table.find spec request).content.map Row.id).Nodup := by
  have hmatching : ((table.matching spec request).map Row.id).Nodup := by
    have hsorted : (table.matching spec request).Perm
        (table.rows.filter spec.predicate.holds) := Ranking.sorted_perm _
    rw [(hsorted.map Row.id).nodup_iff]
    exact hdistinct.sublist (List.filter_sublist.map Row.id)
  have hsublist : ((table.matching spec request).drop request.offset).take
      request.size.toNat |>.Sublist (table.matching spec request) :=
    (List.take_sublist _ _).trans (List.drop_sublist _ _)
  exact hmatching.sublist (hsublist.map Row.id)

/-- A request whose bounds on areas are numbers compares with nothing else. -/
theorem isProper_specification {criteria : entity.Criteria}
    (hareas : AreNumbers (Criteria.areas criteria)) :
    (Criteria.specification criteria).predicate.IsProper := by
  have hfloats : ∀ area, some area ∈ Criteria.areas criteria →
      (Value.float area).isProper = true := by
    intro area harea
    rw [Value.isProper, hareas area harea, Bool.not_false]
  have hplain : Value.HoldsOfPlain fun value => value.isProper = true :=
    ⟨fun _ => rfl, fun _ => rfl, fun _ => rfl, fun _ => rfl⟩
  have hcompares := Criteria.comparesWith_specification hplain criteria hfloats
    fun _ _ => rfl
  exact fun condition hcondition => (hcompares condition hcondition).operands

/-- A database and a table in memory that hold the same rows, each under an
identifier of its own, answer a request whose bounds on areas are numbers with
the same page, once its moments are cut to whole microseconds: the same
identifiers in the same order, each once, and the same numbers of rows and
pages.  Moments that are whole microseconds are cut nowhere. -/
theorem find_agrees (criteria : entity.Criteria) (defaultSize : Nat)
    (hareas : AreNumbers (Criteria.areas criteria)) {table : Table entity}
    {database : Relational.Database Id} {scope : Sql.Scope}
    (hserves : Serves database scope table (Criteria.specification criteria)
      (Criteria.pageRequest criteria defaultSize)) :
    ∃ page : Page (Row entity),
      Relational.find database (Criteria.specification criteria)
          (Criteria.pageRequest criteria defaultSize) = pure page ∧
        page.map Row.id =
          (table.find (Criteria.specification (Criteria.cut criteria))
            (Criteria.pageRequest criteria defaultSize)).map Row.id ∧
        ((∀ moment, some moment ∈ Criteria.moments criteria →
            moment.IsWhole) →
          page.map Row.id = (table.find (Criteria.specification criteria)
            (Criteria.pageRequest criteria defaultSize)).map Row.id) ∧
        (page.content.map Row.id).Nodup := by
  obtain ⟨spoken, hselective⟩ :=
    Criteria.selective_specification (Criteria.cut criteria)
  obtain ⟨_, hlowers⟩ := Criteria.selective_specification criteria
  obtain ⟨clause, hclause⟩ := hlowers.lowers
  obtain ⟨rows, hstored, hperm⟩ := hserves.holds
  have hkept := Criteria.specification_cut criteria
  have hproper : Predicate.IsProper
      (Criteria.specification (Criteria.cut criteria)).predicate := by
    apply isProper_specification
    rwa [Criteria.areas_cut]
  rw [hkept] at hselective hproper
  have hflat := Sql.flat_values hclause (Criteria.flat_specification criteria)
  have hsearches : Sql.Searches (received scope clause)
      (Criteria.specification criteria).kept.predicate
      (clause.map Value.kept) rows := {
    lowered := Sql.ofPredicate_kept hclause
    properRows := fun row hrow => hserves.proper row (hperm.mem_iff.mp hrow)
    rows := ⟨hstored, (hperm.map Row.id).nodup_iff.mpr hserves.distinct⟩
    proper := hproper
    supplies := by
      rw [Sql.Clause.values_map]
      exact List.prefix_rfl
    agrees := by
      rw [Specification.kept, Predicate.circles_kept]
      exact hserves.agrees
    populated := hselective.populated
    separate := hselective.separate }
  obtain ⟨page, hfind, hpage⟩ := find_eq hclause hflat hsearches hperm
    (PagingBlock.clampedSize_ne_zero _) (Entity.isCollected_sortField _)
    hserves.answers
  rw [← hkept] at hpage
  refine ⟨page, hfind, hpage, ?_, ?_⟩
  · intro hmoments
    rwa [Criteria.cut_eq_self hmoments] at hpage
  · have hcontent : page.content.map Row.id =
        (table.find _ _).content.map Row.id := congrArg Page.content hpage
    rw [hcontent]
    exact nodup_find hserves.distinct

/-- A search for users who may edit or view. -/
def sampleCriteria : Entity.Criteria .users where
  searchTerm := none
  roles := Selection.ofList [.editor, .viewer]
  officePosts := Selection.empty
  isApproved := none
  isActive := none
  wards := WardNumbers.empty
  createdFrom := some ⟨0, 0⟩
  createdTo := none
  fields := none
  paging := PagingBlock.empty

/-- One user who may do both. -/
def sampleTable : Table .users := ⟨[Sql.sampleUser]⟩

theorem find_agrees_sample :
    ∃ page : Page (Row .users),
      Relational.find (readingDatabase .users Sql.sampleScope)
        (Criteria.specification sampleCriteria)
        (Criteria.pageRequest sampleCriteria 20) = pure page ∧
      page.content.map Row.id = [⟨7#128⟩] ∧ page.totalElements = 1 := by
  have hareas : AreNumbers (Criteria.areas sampleCriteria) := by
    intro area harea
    cases harea
  have hserves : Serves (readingDatabase .users Sql.sampleScope) Sql.sampleScope
      sampleTable (Criteria.specification sampleCriteria)
      (Criteria.pageRequest sampleCriteria 20) := {
    distinct := List.nodup_singleton _
    proper := by
      intro row hrow field value hvalue
      obtain rfl := List.mem_singleton.mp hrow
      cases field <;> cases hvalue <;> rfl
    holds := ⟨[Sql.sampleUser], .cons Sql.stored_sampleUser .nil,
      List.Perm.refl _⟩
    agrees := by
      intro circle hcircle
      cases hcircle
    answers := fun statement _ => answers_readingDatabase _ _ }
  obtain ⟨page, hfind, -, hpage, -⟩ := find_agrees sampleCriteria 20 hareas
    hserves
  have hwhole : ∀ moment, some moment ∈ Criteria.moments sampleCriteria →
      moment.IsWhole := by
    intro moment hmoment
    have hepoch : moment = ⟨0, 0⟩ := by
      simpa [Criteria.moments, sampleCriteria] using hmoment
    subst hepoch
    exact ⟨by decide, by decide⟩
  have hcontent := congrArg Page.content (hpage hwhole)
  have hsame := congrArg Page.totalElements (hpage hwhole)
  exact ⟨page, hfind, hcontent.trans rfl, hsame.trans rfl⟩

/-! ## Where the stores differ -/

/-- A tuple with the attributes of a row under their columns. -/
def tupleOf (row : Row entity) : Sql.Tuple :=
  entity.fields.map fun field => ((Entity.info field).column, row.get field)

theorem column_tupleOf (row : Row entity) (field : entity.Field) :
    (tupleOf row).column (Entity.info field).column = row.get field := by
  cases entity <;> cases field <;> rfl

/-- The scope of a database that holds one row. -/
def scopeOf (row : Row entity) : Sql.Scope where
  tables name := if name = entity.name then [tupleOf row] else []
  parameters := []
  functions := fun _ _ => none
  sources := fun _ => []

section

variable {row : Row entity}

/-- Tuples that hold one row. -/
theorem forall₂_scopeOf
    (hstored : Sql.Stored (scopeOf row).tables (tupleOf row) row) :
    List.Forall₂ (Sql.Stored (scopeOf row).tables)
      ((scopeOf row).tables entity.name) [row] := by
  have htables : (scopeOf row).tables entity.name = [tupleOf row] := if_pos rfl
  rw [htables]
  exact .cons hstored .nil

theorem serves_scopeOf (hproper : row.IsProper)
    (hstored : Sql.Stored (scopeOf row).tables (tupleOf row) row)
    {spec : Specification entity.Field}
    (hcircles : spec.predicate.circles = [])
    (request : PageRequest entity.Field) :
    Serves (readingDatabase entity (scopeOf row)) (scopeOf row) ⟨[row]⟩ spec
      request where
  distinct := List.nodup_singleton _
  proper := List.forall_mem_singleton.mpr hproper
  holds := ⟨[row], forall₂_scopeOf hstored, List.Perm.refl _⟩
  agrees := by
    rw [hcircles]
    exact List.forall_mem_nil _
  answers statement _ := answers_readingDatabase _ _

/-- A comparison that is true of the row chooses its tuple. -/
theorem chosen_compare {column : String} {relation : Sql.Relation}
    {value : Value} (hcompared : Sql.compared relation
      ((tupleOf row).column column) (some value) = some true) :
    Sql.Clause.chosen (.compare (.own column) relation value) entity
      { scopeOf row with parameters := [value] } = [tupleOf row] := by
  have htables : (scopeOf row).tables entity.name = [tupleOf row] := if_pos rfl
  have hparameter : Sql.Meaning.parameter (0 + 1) (Sql.Scope.bind
      { scopeOf row with parameters := [value] } "t" (tupleOf row)) =
        some value := rfl
  rw [Sql.Clause.chosen, htables, List.filter_singleton,
    Sql.Clause.chooses_of_joins_nil rfl, Sql.Clause.meaning, Sql.truth_compare,
    Sql.Column.meaning, Sql.Meaning.column, Sql.Scope.bind_sources_self,
    hparameter, hcompared]
  rfl

/-- A database serves a search and does not find the page that a table in memory
with the same row finds. -/
def FoundApart (row : Row entity) (criteria : entity.Criteria) : Prop :=
  let database := readingDatabase entity (scopeOf row)
  let spec := Criteria.specification criteria
  let request := Criteria.pageRequest criteria 20
  Serves database (scopeOf row) ⟨[row]⟩ spec request ∧
    ¬∃ page, Relational.find database spec request = pure page ∧
      page.map Row.id = (Table.find spec request ⟨[row]⟩).map Row.id

/-- A comparison that is not true of a row, but true of it for what is kept of
its value, tells a database from a table in memory. -/
theorem foundApart_of_kept (hproper : row.IsProper)
    (hstored : Sql.Stored (scopeOf row).tables (tupleOf row) row)
    {criteria : entity.Criteria} {column : String} {relation : Sql.Relation}
    {value : Value}
    (hcircles : (Criteria.specification criteria).predicate.circles = [])
    (hclause : Sql.ofPredicate (Criteria.specification criteria).predicate =
      .ok (.compare (.own column) relation value))
    (hcompared : Sql.compared relation ((tupleOf row).column column)
      (some value.kept) = some true)
    (hmissed : (Criteria.specification criteria).predicate.holds row = false) :
    FoundApart row criteria := by
  have hserves := serves_scopeOf hproper hstored hcircles
    (Criteria.pageRequest criteria 20)
  refine ⟨hserves, ?_⟩
  rintro ⟨page, hfind, hpage⟩
  have hflat := Sql.flat_values hclause (Criteria.flat_specification criteria)
  have hidentified : Sql.Identified ((scopeOf row).tables entity.name) :=
    Sql.HoldsRows.identified
      ⟨forall₂_scopeOf hstored, List.nodup_singleton _⟩
  have hcount := count_eq hclause hflat hidentified fun statement hstatement =>
    hserves.answers statement (.inl hstatement)
  have hlength := congrArg List.length (chosen_compare hcompared)
  change (Sql.Clause.chosen _ entity
    (received (scopeOf row) (.compare (.own column) relation value))).length =
      1 at hlength
  rw [Sql.Clause.map, hlength] at hcount
  have hone : page.totalElements = 1 := totalElements_of_find hcount hfind
  have hnone : (Table.matching (Criteria.specification criteria)
      (Criteria.pageRequest criteria 20) ⟨[row]⟩).length = 0 := by
    rw [Table.matching, List.filter_singleton, hmissed]
    rfl
  have hsame := congrArg Page.totalElements hpage
  have htotal : page.totalElements = 0 := hsame.trans hnone
  rw [hone] at htotal
  exact one_ne_zero htotal

end

/-- A user of the start of 2024. -/
def newUser : Row .users
  | .createdAt => ⟨1704067200, 0⟩
  | .roles => []
  | field => Sql.sampleUser field

/-- A search for users since half a microsecond later. -/
def laterCriteria : Entity.Criteria .users where
  searchTerm := none
  roles := Selection.empty
  officePosts := Selection.empty
  isApproved := none
  isActive := none
  wards := WardNumbers.empty
  createdFrom := some ⟨1704067200, 500⟩
  createdTo := none
  fields := none
  paging := PagingBlock.empty

/-- A province of a known area. -/
def knownProvince : Row .provinces
  | .id => ⟨1#128⟩
  | .name => "P"
  | .nameNepali => none
  | .areaSqKm => some (Float.ofBits 0x4000000000000000)
  | .population => none
  | .headquarter => none
  | .headquarterNepali => none
  | .districtCount => (0 : Int)
  | .createdAt => ⟨0, 0⟩
  | .updatedAt => ⟨0, 0⟩

/-- A search for provinces up to an area that is not a number. -/
def boundlessCriteria : Entity.Criteria .provinces where
  searchTerm := none
  size := { SizeBlock.empty with
    maxArea := some (Float.ofBits 0x7FF8000000000000) }
  fields := none
  paging := PagingBlock.empty

/-- A moment is cut to the microsecond in which the user was created, and what
is not a number is above the area. -/
theorem find_disagrees :
    FoundApart newUser laterCriteria ∧
      FoundApart knownProvince boundlessCriteria := by
  constructor
  · have hproper : newUser.IsProper := by
      intro field value hvalue
      cases field <;> cases hvalue <;> rfl
    have hstored : Sql.Stored (scopeOf newUser).tables (tupleOf newUser)
        newUser := by
      constructor
      · intro field _
        exact column_tupleOf _ field
      · intro field name collection horigin
        cases field <;> cases horigin
      · intro field name collection valueColumn horigin hcollection hvalue
        cases field <;> cases horigin
        cases hcollection
        cases hvalue
        exact ⟨[], rfl, List.Perm.refl _⟩
    exact foundApart_of_kept hproper hstored rfl rfl (by decide) (by decide)
  · have hproper : knownProvince.IsProper := by
      intro field value hvalue
      cases field <;> cases hvalue <;> rfl
    have hstored : Sql.Stored (scopeOf knownProvince).tables
        (tupleOf knownProvince) knownProvince := by
      constructor
      · intro field _
        exact column_tupleOf _ field
      · intro field name collection horigin hcollection
        cases field <;> cases horigin
        cases hcollection
        rfl
      · intro field name collection valueColumn horigin
        cases field <;> cases horigin
    exact foundApart_of_kept hproper hstored rfl rfl (by decide) (by decide)

end CivicRegistry.Store
