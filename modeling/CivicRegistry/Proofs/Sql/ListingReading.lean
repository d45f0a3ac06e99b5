import CivicRegistry.Proofs.Sql.StatementReading

/-!
# Reading listings

The select list of an entity takes all columns of the table and adds what the
collections make up.  The condition of a listing is the clause itself, or that
the identifier is among those for which the clause is true; after it come the
order and the window of the page.
-/

namespace CivicRegistry.Sql

open Piece (isSection isSign isDirection)

/-! ## Select lists -/

/-- The values of a collection that refer to the tuple of `t`, in order. -/
def elementsOf (collection : Collection) (valueColumn : String) : Select where
  distinct := false
  items := [.single valueColumn (.column "r" valueColumn)]
  table := collection.table
  source := "r"
  joins := []
  condition := some (.compare .equal (.column "r" collection.foreignKey)
    (.column "t" "id"))
  keys := [⟨.column "r" valueColumn, .ascending, true⟩]
  limit := none
  offset := 0

/-- The meaning of a derived column. -/
def derived? (entity : Entity) (a : Attribute) :
    Option (List Piece × Meaning) :=
  match a.origin with
  | .own => none
  | .sizeOf name => (entity.collection? name).map fun collection =>
    ([.group (.query (Column.sizeOf collection))],
      (Column.sizeOf collection).scalar)
  | .elementsOf name => do
    let collection ← entity.collection? name
    let valueColumn ← collection.valueColumn
    return ([.keyword .arrayWord,
      .group (.query (elementsOf collection valueColumn))],
      (elementsOf collection valueColumn).array)

/-- The pieces of the select list of an entity. -/
def selectPieces (entity : Entity) : List Piece :=
  [.word "t", .sign '.', .sign '*'] ++ (entity.fields.map Entity.info).flatMap
    fun a => (derived? entity a).elim [] fun (pieces, _) =>
      .sign ',' :: pieces ++ [.keyword .asWord, .name a.column]

/-- The items of the select list of an entity. -/
def selectItems (entity : Entity) : List Item :=
  .every "t" :: (entity.fields.map Entity.info).filterMap fun a =>
    (derived? entity a).map fun (_, value) => .single a.column value

theorem reads_selectList (entity : Entity) :
    Reads (selectList entity).toList (selectPieces entity) := by
  cases entity <;> rfl

theorem mapM_readItem?_selectPieces (entity : Entity) :
    ((selectPieces entity).splitOnP (isSign ',')).mapM readItem? =
      some (selectItems entity) := by
  cases entity <;> rfl

/-! ## Orders and windows -/

def directionKeyword : Direction → Keyword
  | .ascending => .ascending
  | .descending => .descending

/-- The identifier as a key; it is never null. -/
def identifierKey (direction : Direction) : SortKey :=
  ⟨.column "t" "id", direction, direction == .ascending⟩

/-- The keys of an order: the column, nulls last, and then the identifier. -/
def SortClause.keys (order : SortClause) : List SortKey :=
  ⟨order.column.meaning, order.direction, true⟩ ::
    if order.byIdentifier then [] else [identifierKey order.direction]

def columnKeyPieces (order : SortClause) : List Piece :=
  order.column.pieces ++ [.keyword (directionKeyword order.direction),
    .keyword .nulls, .keyword .last]

def identifierKeyPieces (direction : Direction) : List Piece :=
  [.word "t", .sign '.', .name "id", .keyword (directionKeyword direction)]

/-- The pieces of the keys of an order. -/
def SortClause.keyPieces (order : SortClause) : List Piece :=
  if order.byIdentifier then columnKeyPieces order
  else columnKeyPieces order ++
    .sign ',' :: identifierKeyPieces order.direction

def SortClause.orderSection (order : SortClause) : Piece × List Piece :=
  (.keyword .order, .keyword .byWord :: order.keyPieces)

theorem readKey?_columnKeyPieces (order : SortClause) :
    readKey? (columnKeyPieces order) =
      some ⟨order.column.meaning, order.direction, true⟩ := by
  obtain ⟨column, direction, byIdentifier⟩ := order
  cases column <;> cases direction <;> rfl

theorem readKey?_identifierKeyPieces (direction : Direction) :
    readKey? (identifierKeyPieces direction) =
      some (identifierKey direction) := by
  cases direction <;> rfl

theorem isSign_columnKeyPieces (order : SortClause) :
    ∀ piece ∈ columnKeyPieces order, piece.isSign ',' = false := by
  obtain ⟨column, direction, byIdentifier⟩ := order
  cases column <;> simp [columnKeyPieces, Column.pieces, isSign]

/-- The keys of an order are read as they are meant. -/
theorem SortClause.mapM_readKey? (order : SortClause) :
    (order.keyPieces.splitOnP (isSign ',')).mapM readKey? =
      some order.keys := by
  have hcolumn := isSign_columnKeyPieces order
  have hidentifier : ∀ piece ∈ identifierKeyPieces order.direction,
      piece.isSign ',' = false := by
    simp [identifierKeyPieces, isSign]
  rw [keyPieces, keys]
  split
  · rw [List.splitOnP_eq_singleton hcolumn]
    simp [readKey?_columnKeyPieces]
  · rw [List.splitOnP_append_cons_of_forall_mem hcolumn (.sign ',') rfl,
      List.splitOnP_eq_singleton hidentifier]
    simp [readKey?_columnKeyPieces, readKey?_identifierKeyPieces]

theorem SortClause.reads_sql {order : SortClause}
    (hcolumn : order.column.WellNamed) :
    Reads order.sql.toList (order.orderSection.1 :: order.orderSection.2) := by
  have hopening : Reads "ORDER BY ".toList
      [.keyword .order, .keyword .byWord] := rfl
  have hdirection : Reads (" " ++ order.direction.word ++ " NULLS LAST").toList
      [.keyword (directionKeyword order.direction), .keyword .nulls,
        .keyword .last] := by
    cases order.direction <;> rfl
  have hkey := hopening.append ((Column.reads hcolumn).append hdirection
    (apart_of_head (by cases order.direction <;> rfl))) (apart_of_last rfl)
  have hidentifier : Reads (", t.\"id\" " ++ order.direction.word).toList
      (.sign ',' :: identifierKeyPieces order.direction) := by
    cases order.direction <;> rfl
  rw [orderSection, keyPieces]
  cases hby : order.byIdentifier with
  | true =>
    have htext : order.sql.toList = "ORDER BY ".toList ++
        (order.column.sql.toList ++
          (" " ++ order.direction.word ++ " NULLS LAST").toList) := by
      unfold SortClause.sql
      rw [hby]
      simp only [if_true, String.toList_append, List.append_assoc,
        String.append_empty]
    rw [htext, if_pos rfl]
    exact hkey
  | false =>
    have htext : order.sql.toList = "ORDER BY ".toList ++
        (order.column.sql.toList ++
          (" " ++ order.direction.word ++ " NULLS LAST").toList) ++
        (", t.\"id\" " ++ order.direction.word).toList := by
      unfold SortClause.sql
      rw [hby]
      simp only [Bool.false_eq_true, if_false, String.toList_append,
        List.append_assoc]
    rw [htext, if_neg Bool.false_ne_true]
    exact hkey.append hidentifier
      (apart_of_head (by cases order.direction <;> rfl))

def Window.sections (window : Window) : List (Piece × List Piece) :=
  [(.keyword .limit, [.number (Nat.toDigits 10 window.count)]),
    (.keyword .offset, [.number (Nat.toDigits 10 window.offset)])]

theorem Window.reads_sql (window : Window) :
    Reads window.sql.toList (sectionPieces window.sections) := by
  have hlimit : Reads "LIMIT ".toList [.keyword .limit] := rfl
  have hoffset : Separates " OFFSET " [.keyword .offset] := ⟨rfl, rfl, rfl⟩
  have hall := hlimit.append (hoffset.between (reads_number window.count)
    (reads_number window.offset)) (apart_of_last rfl)
  have htext : window.sql.toList = "LIMIT ".toList ++
      (Nat.toDigits 10 window.count ++ (" OFFSET ".toList ++
        Nat.toDigits 10 window.offset)) := by
    simp [Window.sql]
  rw [htext]
  exact hall

theorem Window.foldlM_sections (window : Window) (select : Select) :
    window.sections.foldlM readSection? select =
      some { select with
        limit := some window.count
        offset := window.offset } := by
  simp [sections, readSection?, numeral]

/-! ## Listings -/

section

variable (statement : Statement)

/-- The identifiers of the tuples that the clause of a statement is true of. -/
def identifiers : Select :=
  sourceSelect statement true [.single "id" (.column "t" "id")]

def conditionText : String :=
  if statement.byIdentifier then
    "t.\"id\" IN (SELECT DISTINCT t.\"id\" FROM " ++ statement.source ++ ")"
  else statement.clause.sql 0

def conditionPieces : List Piece :=
  if statement.byIdentifier then
    [.word "t", .sign '.', .name "id", .keyword .inWord,
      .group (.query (identifiers statement))]
  else statement.clause.pieces 0

/-- The condition of a listing. -/
def conditionMeaning : Meaning :=
  if statement.byIdentifier then
    .isOneOf (.column "t" "id") (identifiers statement).firstColumn
  else statement.clause.meaning 0

/-- What a listing with an order and a window selects. -/
def listingSelect (order : SortClause) (window : Window) : Select where
  distinct := false
  items := selectItems statement.entity
  table := statement.entity.name
  source := "t"
  joins := []
  condition := some (conditionMeaning statement)
  keys := order.keys
  limit := some window.count
  offset := window.offset

end

section

variable {statement : Statement}

theorem reads_conditionText (hstatement : WellFormed statement) :
    Reads (conditionText statement).toList (conditionPieces statement) := by
  rw [conditionText, conditionPieces]
  split
  · let items : List Piece := [.word "t", .sign '.', .name "id"]
    let sections := sourceSections statement.entity.name
      statement.clause.joins (statement.clause.pieces 0)
    have hopening : Reads "SELECT DISTINCT t.\"id\" ".toList
        (.keyword .select :: .keyword .distinct :: items) := rfl
    have hitems : ∀ piece ∈ items, isSection piece = false := by
      simp [items, isSection]
    have hsource := reads_source hstatement.joins hstatement.columns
    have hselect : readSections? true (items ++ sectionPieces sections) =
        some (identifiers statement) := readSections?_source hitems rfl
    have hread : readContent? ((.keyword .select :: .keyword .distinct ::
        items) ++ sectionPieces sections) =
          (readSections? true (items ++ sectionPieces sections)).map .query :=
      rfl
    have hcontent : readContent? ((.keyword .select :: .keyword .distinct ::
        items) ++ sectionPieces sections) =
          some (.query (identifiers statement)) := by
      rw [hread, hselect]
      rfl
    have hgroup := (hopening.append hsource (apart_of_last rfl)).group hcontent
    have hin : Reads "t.\"id\" IN ".toList
        [.word "t", .sign '.', .name "id", .keyword .inWord] := rfl
    have htext : ("t.\"id\" IN (SELECT DISTINCT t.\"id\" FROM " ++
        statement.source ++ ")").toList = "t.\"id\" IN ".toList ++
          '(' :: ("SELECT DISTINCT t.\"id\" ".toList ++ ("FROM ".toList ++
            statement.source.toList) ++ [')']) := by
      simp only [String.toList_append, String.reduceToList, List.cons_append,
        List.nil_append]
    rw [htext]
    exact hin.append hgroup (apart_of_last rfl)
  · rw [Clause.toList_sql]
    exact Clause.reads_fragments 0 statement.clause hstatement.columns

theorem isPlain_conditionPieces :
    ∀ piece ∈ conditionPieces statement, piece.isPlain = true := by
  rw [conditionPieces]
  split
  · simp [Piece.isPlain]
  · exact Clause.isPlain_of_mem_pieces

theorem readExpression?_conditionPieces :
    readExpression? (conditionPieces statement) =
      some (conditionMeaning statement) := by
  rw [conditionPieces, conditionMeaning]
  split
  · rfl
  · exact Clause.readExpression?_pieces 0 statement.clause

/-- The sections of a listing. -/
def listingSections (statement : Statement) (order : SortClause)
    (window : Window) : List (Piece × List Piece) :=
  (.keyword .fromWord, [.name statement.entity.name, .word "t"]) ::
    (.keyword .whereWord, conditionPieces statement) :: order.orderSection ::
      window.sections

theorem isSection_listingSections (order : SortClause) (window : Window) :
    ∀ part ∈ listingSections statement order window, IsSection part := by
  have horder : IsSection order.orderSection := by
    obtain ⟨column, direction, byIdentifier⟩ := order
    apply And.intro rfl
    cases column <;> cases direction <;> cases byIdentifier <;>
      simp [SortClause.orderSection, SortClause.keyPieces, columnKeyPieces,
        identifierKeyPieces, Column.pieces, directionKeyword, isSection]
  intro part hpart
  simp only [listingSections, Window.sections, List.mem_cons,
    List.not_mem_nil, or_false] at hpart
  rcases hpart with rfl | rfl | rfl | rfl | rfl
  · exact ⟨rfl, by simp [isSection]⟩
  · exact ⟨rfl, fun piece hpiece =>
      isSection_of_isPlain (isPlain_conditionPieces piece hpiece)⟩
  · exact horder
  · exact ⟨rfl, by simp [isSection]⟩
  · exact ⟨rfl, by simp [isSection]⟩

/-- The sections of a listing make up its selection. -/
theorem foldlM_listingSections (order : SortClause) (window : Window) :
    (listingSections statement order window).foldlM readSection?
        ⟨false, selectItems statement.entity, "", "", [], none, [], none, 0⟩ =
      some (listingSelect statement order window) := by
  have hwhere (select : Select) : readSection? select
      (.keyword .whereWord, conditionPieces statement) =
        some
          { select with condition := some (conditionMeaning statement) } := by
    rw [readSection?, readExpression?_conditionPieces]
    rfl
  have horder (select : Select) : readSection? select order.orderSection =
      some { select with keys := order.keys } := by
    rw [SortClause.orderSection, readSection?, order.mapM_readKey?]
    rfl
  have hfrom (select : Select) : readSection? select
      (.keyword .fromWord, [.name statement.entity.name, .word "t"]) =
        some { select with table := statement.entity.name, source := "t" } :=
    rfl
  rw [listingSections, List.foldlM_cons, hfrom, Option.bind_eq_bind,
    Option.bind_some, List.foldlM_cons, hwhere, Option.bind_eq_bind,
    Option.bind_some, List.foldlM_cons, horder, Option.bind_eq_bind,
    Option.bind_some, window.foldlM_sections]
  rfl

theorem isSection_selectPieces (entity : Entity) :
    ∀ piece ∈ selectPieces entity, isSection piece = false := by
  have hall : (selectPieces entity).all (fun piece => !isSection piece) =
      true := by
    cases entity <;> rfl
  simpa using hall

theorem toList_listing {order : SortClause} {window : Window}
    (hanswer : statement.answer = .rows (some order) (some window)) :
    statement.query.toList = "SELECT ".toList ++
      ((selectList statement.entity).toList ++ (" FROM ".toList ++
        ((quoted statement.entity.name).toList ++ (" t WHERE ".toList ++
          ((conditionText statement).toList ++ (" ".toList ++
            (order.sql.toList ++ (" ".toList ++ window.sql.toList)))))))) := by
  have hquery : statement.query = " ".intercalate ["SELECT " ++
      selectList statement.entity ++ " FROM " ++
        quoted statement.entity.name ++ " t",
      "WHERE " ++ conditionText statement, order.sql, window.sql] := by
    unfold Statement.query
    rw [hanswer]
    rfl
  rw [hquery]
  simp only [String.intercalate_cons_cons, String.intercalate_singleton,
    String.toList_append, String.reduceToList, List.append_assoc,
    List.cons_append, List.nil_append]

/-- The text of a listing reads as its pieces. -/
theorem reads_listing (hstatement : WellFormed statement)
    {order : SortClause} {window : Window} (hcolumn : order.column.WellNamed)
    (hanswer : statement.answer = .rows (some order) (some window)) :
    Reads statement.query.toList (.keyword .select ::
      (selectPieces statement.entity ++
        sectionPieces (listingSections statement order window))) := by
  have hopening : Reads "SELECT ".toList [.keyword .select] := rfl
  have hfrom : Reads " FROM ".toList [.keyword .fromWord] := rfl
  have hwhere : Reads " t WHERE ".toList [.word "t", .keyword .whereWord] := rfl
  have hblank : Separates " " [] := ⟨rfl, rfl, rfl⟩
  have htable : isIdentifier statement.entity.name.toList = true := by
    cases statement.entity <;> rfl
  have hpage := hblank.between (reads_conditionText hstatement)
    (hblank.between (order.reads_sql hcolumn) (window.reads_sql))
  have hsource := (reads_quoted htable).append
    (hwhere.append hpage (apart_of_last rfl)) (apart_of_head rfl)
  have hall := hopening.append ((reads_selectList statement.entity).append
    (hfrom.append hsource (apart_of_last rfl)) (apart_of_head rfl))
    (apart_of_last rfl)
  rw [toList_listing hanswer]
  simpa [listingSections, sectionPieces] using hall

/-- The listing statement reads as its selection. -/
theorem readStatement?_listing (hstatement : WellFormed statement)
    {order : SortClause} {window : Window} (hcolumn : order.column.WellNamed)
    (hanswer : statement.answer = .rows (some order) (some window)) :
    readStatement? statement.query =
      some (listingSelect statement order window) := by
  let sections := listingSections statement order window
  have hreads := reads_listing hstatement hcolumn hanswer
  have hselect : readSelect? (selectPieces statement.entity ++
      sectionPieces sections) =
        readSections? false (selectPieces statement.entity ++
          sectionPieces sections) := rfl
  rw [readStatement?, readPieces?_of_reads hreads]
  dsimp only
  rw [hselect, readSections?_sections
    (isSection_selectPieces statement.entity)
    (isSection_listingSections order window)
    (mapM_readItem?_selectPieces statement.entity)]
  exact foldlM_listingSections order window

end

end CivicRegistry.Sql
