import CivicRegistry.Proofs.Sql.Selection

/-!
# Counting and listing

Counting and listing are put as two statements, and each of them as one of two
texts, with the rows told apart by their identifiers or not.  All four go over
the same source with the same parameters: what is counted is the number of the
rows that are listed when no page is asked for, a row is never listed twice, and
it makes no difference whether the specification demands that.
-/

namespace CivicRegistry

/-- The collection whose elements an attribute lists. -/
def Entity.listed? {entity : Entity} (field : entity.Field) :
    Option Collection :=
  match (Entity.info field).origin with
  | .elementsOf name => entity.collection? name
  | _ => none

namespace Sql

variable {entity : Entity}

/-! ## What is joined -/

theorem joined?_eq_listed? {field : entity.Field} {column : Column}
    (hcolumn : Column.ofField field = .ok column) :
    column.joined? = Entity.listed? field := by
  obtain ⟨other, horigin, hfield⟩ := Column.exists_ofField field
  rw [hcolumn] at hfield
  cases hfield
  rw [Entity.listed?]
  unfold Column.ofOrigin? at horigin
  cases hcase : (Entity.info field).origin with
  | own =>
    rw [hcase] at horigin
    cases horigin
    rfl
  | sizeOf name =>
    rw [hcase] at horigin
    obtain ⟨collection, -, rfl⟩ := Option.map_eq_some_iff.mp horigin
    rfl
  | elementsOf name =>
    rw [hcase] at horigin
    obtain ⟨collection, hname, hrest⟩ := Option.bind_eq_some_iff.mp horigin
    obtain ⟨valueColumn, -, hresult⟩ := Option.bind_eq_some_iff.mp hrest
    cases hresult
    exact hname.symm

/-- A clause joins the collections of the lists that its predicate speaks of,
each once and in the order in which they are first mentioned. -/
theorem joins_eq {predicate : Predicate entity.Field} {clause : Clause Value}
    (hclause : ofPredicate predicate = .ok clause) :
    clause.joins = (predicate.fields.filterMap Entity.listed?).eraseDups := by
  have hmaps : predicate.fields.map Entity.listed? =
      clause.columns.map Column.joined? := by
    rw [← List.forall₂_eq_eq_eq, List.forall₂_map_left_iff,
      List.forall₂_map_right_iff]
    exact (columns_ofPredicate hclause).imp fun field column hcolumn =>
      (joined?_eq_listed? hcolumn).symm
  have hlisted := congrArg (List.filterMap id) hmaps
  rw [List.filterMap_map, List.filterMap_map, Function.id_comp,
    Function.id_comp] at hlisted
  rw [Clause.joins, hlisted]

/-! ## Listings without a page -/

section

variable {statement : Statement}

/-- What a listing without an order and a window selects. -/
def unpagedSelect (statement : Statement) : Select where
  distinct := false
  items := selectItems statement.entity
  table := statement.entity.name
  source := "t"
  joins := []
  condition := some (conditionMeaning statement)
  keys := []
  limit := none
  offset := 0

theorem toList_unpaged (hanswer : statement.answer = .rows none none) :
    statement.query.toList = "SELECT ".toList ++
      ((selectList statement.entity).toList ++ (" FROM ".toList ++
        ((quoted statement.entity.name).toList ++ (" t WHERE ".toList ++
          (conditionText statement).toList)))) := by
  have hquery : statement.query = " ".intercalate ["SELECT " ++
      selectList statement.entity ++ " FROM " ++
        quoted statement.entity.name ++ " t",
      "WHERE " ++ conditionText statement] := by
    unfold Statement.query
    rw [hanswer]
    rfl
  rw [hquery]
  simp only [String.intercalate_cons_cons, String.intercalate_singleton,
    String.toList_append, String.reduceToList, List.append_assoc,
    List.cons_append, List.nil_append]

/-- The text of a listing without a page reads as its pieces. -/
theorem reads_unpaged (hstatement : WellFormed statement)
    (hanswer : statement.answer = .rows none none) :
    Reads statement.query.toList (.keyword .select ::
      (selectPieces statement.entity ++ sectionPieces (sourceSections
        statement.entity.name [] (conditionPieces statement)))) := by
  have hopening : Reads "SELECT ".toList [.keyword .select] := rfl
  have hfrom : Reads " FROM ".toList [.keyword .fromWord] := rfl
  have hwhere : Reads " t WHERE ".toList [.word "t", .keyword .whereWord] := rfl
  have htable : isIdentifier statement.entity.name.toList = true := by
    cases statement.entity <;> rfl
  have hsource := (reads_quoted htable).append
    (hwhere.append (reads_conditionText hstatement) (apart_of_last rfl))
    (apart_of_head rfl)
  have hall := hopening.append ((reads_selectList statement.entity).append
    (hfrom.append hsource (apart_of_last rfl)) (apart_of_head rfl))
    (apart_of_last rfl)
  rw [toList_unpaged hanswer]
  simpa [sourceSections, sectionPieces] using hall

theorem readStatement?_unpaged (hstatement : WellFormed statement)
    (hanswer : statement.answer = .rows none none) :
    readStatement? statement.query = some (unpagedSelect statement) := by
  let sections := sourceSections statement.entity.name []
    (conditionPieces statement)
  have hreads := reads_unpaged hstatement hanswer
  have hselect : readSelect? (selectPieces statement.entity ++
      sectionPieces sections) =
        readSections? false (selectPieces statement.entity ++
          sectionPieces sections) := rfl
  rw [readStatement?, readPieces?_of_reads hreads]
  dsimp only
  rw [hselect, readSections?_sections (isSection_selectPieces statement.entity)
    (isSection_sourceSections isPlain_conditionPieces)
    (mapM_readItem?_selectPieces statement.entity)]
  exact foldlM_sourceSections readExpression?_conditionPieces

/-- The text of a counting statement ends with its source. -/
theorem source_suffix_of_count (hanswer : statement.answer = .count) :
    statement.source.toList <:+ statement.query.toList := by
  unfold Statement.query
  rw [hanswer]
  dsimp only
  split <;> rw [String.toList_append] <;> exact List.suffix_append _ _

/-- The text of a listing without a page has the source in it. -/
theorem source_infix_of_unpaged (hanswer : statement.answer = .rows none none) :
    statement.source.toList <:+: statement.query.toList := by
  obtain ⟨entity, answer, distinct, clause⟩ := statement
  rw [toList_unpaged hanswer, conditionText]
  split
  · refine ⟨"SELECT ".toList ++ (selectList entity).toList ++ " FROM ".toList ++
      (quoted entity.name).toList ++ " t WHERE ".toList ++
        "t.\"id\" IN (SELECT DISTINCT t.\"id\" FROM ".toList, [')'], ?_⟩
    simp only [String.toList_append, String.reduceToList, List.append_assoc,
      List.cons_append, List.nil_append]
  · next hby =>
    have hjoins : clause.joins = [] := joins_eq_nil (by simpa using hby)
    have hnothing : joinsSql [] = "" := rfl
    refine ⟨"SELECT ".toList ++ (selectList entity).toList ++ " FROM ".toList,
      [], ?_⟩
    simp only [Statement.source, hjoins, hnothing, String.toList_append,
      String.reduceToList, List.append_assoc, List.cons_append, List.nil_append,
      List.append_nil]

end

/-! ## What is counted and listed -/

/-- What a database answers to a prepared statement, if it can read it. -/
def Prepared.answer? (prepared : Prepared) (scope : Scope) :
    Option (List Tuple) :=
  (readStatement? prepared.query).map fun select =>
    select.answer { scope with parameters := prepared.params }

/-- The columns that a listing shows of a tuple. -/
def listedRow (entity : Entity) (scope : Scope) (tuple : Tuple) : Tuple :=
  (selectItems entity).flatMap (Item.columns (scope.bind "t" tuple))

theorem column_id_listedRow {scope : Scope} {tuple : Tuple} {id : Uuid}
    (hid : tuple.column "id" = some (.uuid id)) :
    (listedRow entity scope tuple).column "id" = some (.uuid id) := by
  show Tuple.column ((scope.bind "t" tuple).sources "t" ++ _) "id" = _
  rw [Scope.bind_sources_self]
  exact Tuple.column_append hid

section

variable {answer : Answer} {distinct : Bool}
  {predicate : Predicate entity.Field} {clause : Clause Value} {scope : Scope}

/-- The rows that are listed of chosen tuples keep their identifiers. -/
theorem identified_listed
    (hidentified : Identified (scope.tables entity.name)) :
    Identified ((clause.chosen entity scope).map (listedRow entity scope)) := by
  have hid : ∀ tuple ∈ clause.chosen entity scope,
      (listedRow entity scope tuple).column "id" = some (.uuid tuple.id) := by
    intro tuple htuple
    exact column_id_listedRow
      (hidentified.column_id (Clause.mem_chosen.mp htuple).1)
  constructor
  · intro row hrow
    obtain ⟨tuple, htuple, rfl⟩ := List.mem_map.mp hrow
    exact ⟨tuple.id, hid tuple htuple⟩
  · have hids : ((clause.chosen entity scope).map
        (listedRow entity scope)).map Tuple.id =
          (clause.chosen entity scope).map Tuple.id := by
      rw [List.map_map]
      apply List.map_congr_left
      intro tuple htuple
      rw [Function.comp_apply, Tuple.id, hid tuple htuple]
    rw [hids]
    exact hidentified.nodup_chosen

/-- A listing without a page answers the chosen tuples. -/
theorem answer_unpaged (hclause : ofPredicate predicate = .ok clause)
    (hidentified : Identified (scope.tables entity.name)) :
    (unpagedSelect ⟨entity, answer, distinct, clause⟩).answer scope =
      (clause.chosen entity scope).map (listedRow entity scope) := by
  let select := unpagedSelect ⟨entity, answer, distinct, clause⟩
  have hordered : select.ordered scope = select.matching scope :=
    -- without keys any two tuples are in order
    List.mergeSort_of_pairwise (List.pairwise_of_forall fun _ _ => rfl)
  have hmatching : select.matching scope =
      (clause.chosen entity scope).map (scope.bind "t") :=
    matching_listing hclause hidentified rfl rfl rfl rfl
  have hitems : select.items.mapM (Item.counted? (select.ordered scope)) =
      none := mapM_counted?_selectItems _
  have hanswer : select.answer scope = (select.ordered scope).map fun joined =>
      select.items.flatMap (Item.columns joined) := by
    rw [Select.answer, hitems]
    rfl
  rw [hanswer, hordered, hmatching, List.map_map]
  rfl

/-- The scope in which the parameters are the values of a clause. -/
def Scope.supplied (scope : Scope) (clause : Clause Value) : Scope :=
  { scope with parameters := clause.values }

theorem answer?_count (hclause : ofPredicate predicate = .ok clause)
    (hidentified : Identified (scope.tables entity.name)) :
    (Statement.prepared ⟨entity, .count, distinct, clause⟩).answer? scope =
      some [[("count", some (.integer
        (clause.chosen entity (scope.supplied clause)).length))]] := by
  let statement : Statement := ⟨entity, .count, distinct, clause⟩
  have hformed : WellFormed statement :=
    @wellFormed_ofPredicate _ ⟨predicate, distinct⟩ _ _ hclause
  have hread : readStatement? statement.prepared.query =
      some (sourceSelect statement false [countItem statement]) :=
    readStatement?_count hformed rfl
  have hbound : Identified ((scope.supplied clause).tables entity.name) :=
    hidentified
  rw [Prepared.answer?, hread, Option.map_some]
  exact congrArg some (answer_count hclause hbound)

theorem answer?_unpaged (hclause : ofPredicate predicate = .ok clause)
    (hidentified : Identified (scope.tables entity.name)) :
    (Statement.prepared ⟨entity, .rows none none, distinct, clause⟩).answer?
        scope =
      some ((clause.chosen entity (scope.supplied clause)).map
        (listedRow entity (scope.supplied clause))) := by
  let statement : Statement := ⟨entity, .rows none none, distinct, clause⟩
  have hformed : WellFormed statement :=
    @wellFormed_ofPredicate _ ⟨predicate, distinct⟩ _ _ hclause
  have hread : readStatement? statement.prepared.query =
      some (unpagedSelect statement) := readStatement?_unpaged hformed rfl
  have hbound : Identified ((scope.supplied clause).tables entity.name) :=
    hidentified
  rw [Prepared.answer?, hread, Option.map_some]
  exact congrArg some (answer_unpaged hclause hbound)

end

/-- The text of the source of a clause: the table of the entity, what is joined
to it and the condition. -/
def sourceText (entity : Entity) (clause : Clause Value) : String :=
  quoted entity.name ++ " t" ++ joinsSql clause.joins ++ " WHERE " ++
    clause.sql 0

/-- The two statements of a specification: they are made from one clause, and in
a scope one answers how many rows there are and the other answers the rows. -/
structure CountsAndLists (spec : Specification entity.Field)
    (clause : Clause Value) (scope : Scope) (rows : List Tuple)
    (counted listed : Statement) : Prop where
  counting : counting spec = .ok counted
  listing : listing spec none = .ok listed
  count : counted.prepared.answer? scope =
    some [[("count", some (.integer rows.length))]]
  rows : listed.prepared.answer? scope = some rows
  params : counted.prepared.params = clause.values ∧
    listed.prepared.params = clause.values
  source :
    (sourceText entity clause).toList <:+: counted.prepared.query.toList ∧
      (sourceText entity clause).toList <:+: listed.prepared.query.toList

/-- Counting and listing agree.  Over a table whose rows have identifiers of
their own, and whatever is joined to it, the number that is counted is that of
the rows that are listed without a page, of which no two are the same, whether
or not the specification demands that every row counts once.  What is joined are
the collections of the lists that the predicate speaks of. -/
theorem count_and_listing_agree {predicate : Predicate entity.Field}
    {clause : Clause Value} (hclause : ofPredicate predicate = .ok clause)
    {scope : Scope} (hidentified : Identified (scope.tables entity.name)) :
    (∃ rows : List Tuple, Identified rows ∧ ∀ distinct : Bool,
      ∃ counted listed, CountsAndLists ⟨predicate, distinct⟩ clause scope rows
        counted listed) ∧
    clause.joins = (predicate.fields.filterMap Entity.listed?).eraseDups ∧
    clause.joins.Nodup := by
  have hbound : Identified ((scope.supplied clause).tables entity.name) :=
    hidentified
  refine ⟨⟨(clause.chosen entity (scope.supplied clause)).map
      (listedRow entity (scope.supplied clause)),
    identified_listed hbound, ?_⟩, joins_eq hclause, nodup_eraseDups _⟩
  intro distinct
  let counted : Statement := ⟨entity, .count, distinct, clause⟩
  let listed : Statement := ⟨entity, .rows none none, distinct, clause⟩
  refine ⟨counted, listed, ?_⟩
  constructor
  · exact @counting_eq _ ⟨predicate, distinct⟩ _ hclause
  · rw [Sql.listing, checkTableName_name, hclause]
    rfl
  · rw [List.length_map]
    exact answer?_count hclause hidentified
  · exact answer?_unpaged hclause hidentified
  · exact ⟨rfl, rfl⟩
  · have hcount : counted.source.toList <:+ counted.query.toList :=
      source_suffix_of_count rfl
    have hlisting : listed.source.toList <:+: listed.query.toList :=
      source_infix_of_unpaged rfl
    exact ⟨hcount.isInfix, hlisting⟩

/-- A search for users who may edit or view. -/
def eitherRole : Predicate Entity.users.Field :=
  .leaf ⟨UserField.roles, .oneOf, .list [.text "EDITOR", .text "VIEWER"]⟩

def eitherRoleClause : Clause Value :=
  .oneOf (.element ⟨"roles", "user_roles", "user_id", some "role"⟩ "role")
    [.text "EDITOR", .text "VIEWER"]

theorem identified_sampleTables : Identified (sampleTables "users") := by
  constructor
  · intro tuple htuple
    obtain rfl := List.mem_singleton.mp htuple
    exact ⟨⟨7#128⟩, rfl⟩
  · exact List.nodup_singleton _

/-- A user who may do both is counted and listed once, whether or not that is
demanded. -/
theorem count_and_listing_agree_sample :
    ∃ row : Tuple, row.id = ⟨7#128⟩ ∧ ∀ distinct : Bool, ∃ counted listed,
      CountsAndLists ⟨eitherRole, distinct⟩ eitherRoleClause sampleScope [row]
        counted listed := by
  have hclause : ofPredicate eitherRole = .ok eitherRoleClause := rfl
  obtain ⟨⟨rows, -, hrows⟩, -⟩ := @count_and_listing_agree .users _ _ hclause
    sampleScope identified_sampleTables
  obtain ⟨_, _, hstatements⟩ := hrows true
  have hanswer := @answer?_unpaged .users true _ _ sampleScope hclause
    identified_sampleTables
  have hlisted := hstatements.rows
  cases hstatements.listing
  cases hanswer.symm.trans hlisted
  exact ⟨_, rfl, hrows⟩

end Sql

end CivicRegistry
