import CivicRegistry.Proofs.Sql.Stored

/-!
# Reading statements of a search

The counting statement reads as a selection that counts the tuples, or the
different identifiers, for which the clause is true, with the collections of
the clause joined.  The listing statement reads as a selection of the tuples for
which the clause is true, or whose identifiers are among those for which it is,
in the order and the window of the page.
-/

namespace CivicRegistry.Sql

open Piece (isSection isSign)

/-! ## Sections -/

/-- The pieces of some sections, each begun by its keyword. -/
def sectionPieces (sections : List (Piece × List Piece)) : List Piece :=
  sections.flatMap fun part => part.1 :: part.2

/-- The keyword of a section begins a section, and nothing else in it does. -/
def IsSection (part : Piece × List Piece) : Prop :=
  isSection part.1 = true ∧ ∀ piece ∈ part.2, isSection piece = false

theorem splitOnP_sections {items : List Piece}
    {sections : List (Piece × List Piece)}
    (hitems : ∀ piece ∈ items, isSection piece = false)
    (hsections : ∀ part ∈ sections, IsSection part) :
    (items ++ sectionPieces sections).splitOnP isSection =
        items :: sections.map Prod.snd ∧
      (items ++ sectionPieces sections).filter isSection =
        sections.map Prod.fst := by
  induction sections generalizing items with
  | nil =>
    have hempty : items ++ sectionPieces [] = items := List.append_nil items
    rw [hempty]
    exact ⟨List.splitOnP_eq_singleton hitems,
      List.filter_eq_nil_iff.mpr fun piece hpiece => by
        simp [hitems piece hpiece]⟩
  | cons part others ih =>
    rw [List.forall_mem_cons] at hsections
    obtain ⟨⟨hkeyword, hbody⟩, hothers⟩ := hsections
    obtain ⟨hsplit, hfilter⟩ := ih hbody hothers
    have hpieces : items ++ sectionPieces (part :: others) =
        items ++ part.1 :: (part.2 ++ sectionPieces others) := rfl
    have hnone : items.filter isSection = [] :=
      List.filter_eq_nil_iff.mpr fun piece hpiece => by
        simp [hitems piece hpiece]
    constructor
    · rw [hpieces, List.splitOnP_append_cons_of_forall_mem hitems _ hkeyword,
        hsplit]
      rfl
    · rw [hpieces, List.filter_append, hnone, List.filter_cons_of_pos hkeyword,
        hfilter]
      rfl

/-- Items and sections are read one after the other. -/
theorem readSections?_sections {items : List Piece} {distinct : Bool}
    {sections : List (Piece × List Piece)}
    (hitems : ∀ piece ∈ items, isSection piece = false)
    (hsections : ∀ part ∈ sections, IsSection part) {read : List Item}
    (hread : (items.splitOnP (isSign ',')).mapM readItem? = some read) :
    readSections? distinct (items ++ sectionPieces sections) =
      sections.foldlM readSection?
        ⟨distinct, read, "", "", [], none, [], none, 0⟩ := by
  obtain ⟨hsplit, hfilter⟩ := splitOnP_sections hitems hsections
  have hzip : (sections.map Prod.fst).zip (sections.map Prod.snd) =
      sections := by
    rw [← List.unzip_fst, ← List.unzip_snd, List.zip_unzip]
  rw [readSections?, hsplit, hfilter]
  simp only [hread, hzip]
  rfl

/-! ## Sources -/

variable {entity : Entity}

/-- The section of a joined collection. -/
def joinSection (collection : Collection) : Piece × List Piece :=
  (.keyword .left, [.keyword .join, .name collection.table,
    .name collection.name, .keyword .on, .name collection.name, .sign '.',
    .name collection.foreignKey, .sign '=', .word "t", .sign '.', .name "id"])

/-- The sections of a table, some collections joined to it and a condition. -/
def sourceSections (table : String) (joins : List Collection)
    (condition : List Piece) : List (Piece × List Piece) :=
  (.keyword .fromWord, [.name table, .word "t"]) ::
    (joins.map joinSection ++ [(.keyword .whereWord, condition)])

theorem foldlM_joinSection (joins : List Collection) (select : Select) :
    (joins.map joinSection).foldlM readSection? select =
      some { select with joins := select.joins ++ joins.map joinOf } := by
  induction joins generalizing select with
  | nil =>
    rw [List.map_nil, List.map_nil, List.append_nil]
    rfl
  | cons collection others ih =>
    have hfirst : readSection? select (joinSection collection) =
        some { select with joins := select.joins ++ [joinOf collection] } := rfl
    rw [List.map_cons, List.foldlM_cons, hfirst, Option.bind_eq_bind,
      Option.bind_some, ih, List.map_cons]
    simp

theorem foldlM_sourceSections {table : String} {joins : List Collection}
    {condition : List Piece} {meaning : Meaning} {distinct : Bool}
    {items : List Item}
    (hcondition : readExpression? condition = some meaning) :
    (sourceSections table joins condition).foldlM readSection?
        ⟨distinct, items, "", "", [], none, [], none, 0⟩ =
      some ⟨distinct, items, table, "t", joins.map joinOf, some meaning, [],
        none, 0⟩ := by
  have hfrom : readSection? ⟨distinct, items, "", "", [], none, [], none, 0⟩
      (.keyword .fromWord, [.name table, .word "t"]) =
        some ⟨distinct, items, table, "t", [], none, [], none, 0⟩ := rfl
  rw [sourceSections, List.foldlM_cons, hfrom, Option.bind_eq_bind,
    Option.bind_some, List.foldlM_append, foldlM_joinSection,
    Option.bind_eq_bind, Option.bind_some]
  simp [readSection?, hcondition]

/-! ## The texts of sources -/

/-- The names that the text of a join puts into quotes are identifiers. -/
def JoinNamed (collection : Collection) : Prop :=
  isIdentifier collection.table.toList = true ∧
    isIdentifier collection.name.toList = true ∧
      isIdentifier collection.foreignKey.toList = true

/-- The collections that the clause of a predicate needs are well named. -/
theorem joinNamed_of_mem_joins {predicate : Predicate entity.Field}
    {clause : Clause Value} (hclause : ofPredicate predicate = .ok clause) :
    ∀ collection ∈ clause.joins, JoinNamed collection := by
  intro collection hcollection
  obtain ⟨name, hname⟩ := exists_collection_of_mem_joins hclause hcollection
  obtain ⟨htable, halias, hkey, -⟩ := identifiers_of_collection? hname
  exact ⟨htable, halias, hkey⟩

/-- The text of one join. -/
def joinText (collection : Collection) : List Char :=
  " LEFT JOIN ".toList ++ ((quoted collection.table).toList ++ (" ".toList ++
    ((quoted collection.name).toList ++ (" ON ".toList ++
      ((quoted collection.name).toList ++ (".".toList ++
        ((quoted collection.foreignKey).toList ++ " = t.\"id\"".toList)))))))

theorem toList_joinsSql (joins : List Collection) :
    (joinsSql joins).toList = joins.flatMap joinText := by
  have htext : ∀ collection : Collection,
      (" LEFT JOIN " ++ quoted collection.table ++ " " ++
        quoted collection.name ++ " ON " ++ quoted collection.name ++ "." ++
          quoted collection.foreignKey ++ " = t.\"id\"").toList =
            joinText collection := by
    intro collection
    unfold joinText
    simp only [String.toList_append, List.append_assoc]
  unfold joinsSql
  rw [toList_join, List.flatMap_map]
  simp only [htext]

theorem reads_joinText {collection : Collection}
    (hcollection : JoinNamed collection) :
    Reads (joinText collection)
      ((joinSection collection).1 :: (joinSection collection).2) := by
  obtain ⟨htable, hname, hkey⟩ := hcollection
  have hopening : Reads " LEFT JOIN ".toList
      [.keyword .left, .keyword .join] := rfl
  have hblank : Separates " " [] := ⟨rfl, rfl, rfl⟩
  have hon : Separates " ON " [.keyword .on] := ⟨rfl, rfl, rfl⟩
  have hdot : Separates "." [.sign '.'] := ⟨rfl, rfl, rfl⟩
  have hclosing : Reads " = t.\"id\"".toList
      [.sign '=', .word "t", .sign '.', .name "id"] := rfl
  have hkeyed := (reads_quoted hkey).append hclosing (apart_of_head rfl)
  exact hopening.append (hblank.between (reads_quoted htable)
    (hon.between (reads_quoted hname) (hdot.between (reads_quoted hname)
      hkeyed))) (apart_of_last rfl)

theorem reads_joinsSql {joins : List Collection}
    (hjoins : ∀ collection ∈ joins, JoinNamed collection) :
    Reads (joinsSql joins).toList
      (sectionPieces (joins.map joinSection)) := by
  rw [toList_joinsSql]
  induction joins with
  | nil => rfl
  | cons collection others ih =>
    rw [List.forall_mem_cons] at hjoins
    have hapart : Apart (joinText collection) (others.flatMap joinText) :=
      apart_of_head (by cases others <;> rfl)
    rw [List.flatMap_cons, List.map_cons]
    exact (reads_joinText hjoins.1).append (ih hjoins.2) hapart

/-- The text of a source reads as its sections. -/
theorem reads_source {statement : Statement}
    (hjoins : ∀ collection ∈ statement.clause.joins, JoinNamed collection)
    (hcolumns : ∀ column ∈ statement.clause.columns, column.WellNamed) :
    Reads ("FROM ".toList ++ statement.source.toList)
      (sectionPieces (sourceSections statement.entity.name
        statement.clause.joins (statement.clause.pieces 0))) := by
  have hfrom : Reads "FROM ".toList [.keyword .fromWord] := rfl
  have htable : isIdentifier statement.entity.name.toList = true := by
    cases statement.entity <;> rfl
  have halias : Reads " t".toList [.word "t"] := rfl
  have hwhere : Reads " WHERE ".toList [.keyword .whereWord] := rfl
  have hcondition := hwhere.append
    (Clause.reads_fragments 0 statement.clause hcolumns) (apart_of_last rfl)
  have hjoined := (reads_joinsSql hjoins).append hcondition (apart_of_head rfl)
  have haliased := halias.append hjoined (apart_of_head (by
    rw [toList_joinsSql]
    cases statement.clause.joins <;> rfl))
  have hall := hfrom.append ((reads_quoted htable).append haliased
    (apart_of_head rfl)) (apart_of_last rfl)
  have htext : statement.source.toList =
      (quoted statement.entity.name).toList ++
        (" t".toList ++ ((joinsSql statement.clause.joins).toList ++
          (" WHERE ".toList ++ chars (statement.clause.fragments 0)))) := by
    rw [← Clause.toList_sql]
    simp only [Statement.source, String.toList_append, List.append_assoc]
  rw [htext]
  simpa [sourceSections, sectionPieces] using hall

theorem isSection_of_isPlain {piece : Piece} (hplain : piece.isPlain = true) :
    isSection piece = false := by
  cases piece with
  | keyword keyword => cases keyword <;> first | rfl | cases hplain
  | sign | word | name | number | parameter | group => rfl

theorem isSection_sourceSections {table : String} {joins : List Collection}
    {condition : List Piece}
    (hcondition : ∀ piece ∈ condition, piece.isPlain = true) :
    ∀ part ∈ sourceSections table joins condition, IsSection part := by
  intro part hpart
  rw [sourceSections, List.mem_cons, List.mem_append, List.mem_map,
    List.mem_singleton] at hpart
  rcases hpart with rfl | ⟨collection, _, rfl⟩ | rfl
  · exact ⟨rfl, by simp [isSection]⟩
  · exact ⟨rfl, by simp [joinSection, isSection]⟩
  · exact ⟨rfl, fun piece hpiece =>
      isSection_of_isPlain (hcondition piece hpiece)⟩

/-! ## Counting -/

/-- The selection of the source of a statement. -/
def sourceSelect (statement : Statement) (distinct : Bool) (items : List Item) :
    Select where
  distinct := distinct
  items := items
  table := statement.entity.name
  source := "t"
  joins := statement.clause.joins.map joinOf
  condition := some (statement.clause.meaning 0)
  keys := []
  limit := none
  offset := 0

section

variable {statement : Statement}

/-- A statement whose names are identifiers. -/
structure WellFormed (statement : Statement) : Prop where
  joins : ∀ collection ∈ statement.clause.joins, JoinNamed collection
  columns : ∀ column ∈ statement.clause.columns, column.WellNamed

/-- Items and the source of a statement are read as a selection. -/
theorem readSections?_source {items : List Piece} {distinct : Bool}
    {read : List Item} (hitems : ∀ piece ∈ items, isSection piece = false)
    (hread : (items.splitOnP (isSign ',')).mapM readItem? = some read) :
    readSections? distinct (items ++ sectionPieces (sourceSections
      statement.entity.name statement.clause.joins
        (statement.clause.pieces 0))) =
          some (sourceSelect statement distinct read) := by
  have hsections := @isSection_sourceSections statement.entity.name
    statement.clause.joins _
    (@Clause.isPlain_of_mem_pieces _ 0 statement.clause)
  rw [readSections?_sections hitems hsections hread, foldlM_sourceSections
    (Clause.readExpression?_pieces 0 statement.clause)]
  rfl

theorem readPieces?_of_reads {text : String} {pieces : List Piece}
    (hreads : Reads text.toList pieces) : readPieces? text = some pieces := by
  rw [readPieces?, hreads]

/-- A text that selects some items from the source of a statement. -/
theorem readStatement?_source (hstatement : WellFormed statement)
    {opening text : String} {items : List Piece} {read : List Item}
    (hopening : Reads opening.toList (.keyword .select :: items))
    (hlast : opening.toList.getLast?.all
      (fun char => !(isNameChar char || char == '$')) = true)
    (htext : text.toList =
      opening.toList ++ ("FROM ".toList ++ statement.source.toList))
    (hselect : ∀ rest, readSelect? (items ++ rest) =
      readSections? false (items ++ rest))
    (hitems : ∀ piece ∈ items, isSection piece = false)
    (hread : (items.splitOnP (isSign ',')).mapM readItem? = some read) :
    readStatement? text = some (sourceSelect statement false read) := by
  have hsource := reads_source hstatement.joins hstatement.columns
  have hreads := hopening.append hsource (apart_of_last hlast)
  rw [← htext] at hreads
  rw [readStatement?, readPieces?_of_reads hreads]
  show readSelect? (items ++ _) = _
  rw [hselect, readSections?_source hitems hread]

/-- What the counting statement counts. -/
def countItem (statement : Statement) : Item :=
  if statement.byIdentifier then .countDistinct "count" (.column "t" "id")
  else .countAll "count"

/-- The counting statement reads as counting what its clause is true of. -/
theorem readStatement?_count (hstatement : WellFormed statement)
    (hanswer : statement.answer = .count) :
    readStatement? statement.query =
      some (sourceSelect statement false [countItem statement]) := by
  rw [countItem]
  unfold Statement.query
  rw [hanswer]
  dsimp only
  split
  · let items : List Piece := [.keyword .countWord,
      .group (.distinct (.column "t" "id")), .keyword .asWord, .word "count"]
    have hopening : Reads "SELECT COUNT(DISTINCT t.\"id\") AS count ".toList
      (.keyword .select :: items) := rfl
    have hitems : ∀ piece ∈ items, isSection piece = false := by
      simp [items, isSection]
    apply readStatement?_source hstatement hopening rfl _ (fun _ => rfl) hitems
      rfl
    simp only [String.toList_append, String.reduceToList, List.cons_append,
      List.nil_append]
  · let items : List Piece := [.keyword .countWord, .group .star,
      .keyword .asWord, .word "count"]
    have hopening : Reads "SELECT COUNT(*) AS count ".toList
      (.keyword .select :: items) := rfl
    have hitems : ∀ piece ∈ items, isSection piece = false := by
      simp [items, isSection]
    apply readStatement?_source hstatement hopening rfl _ (fun _ => rfl) hitems
      rfl
    simp only [String.toList_append, String.reduceToList, List.cons_append,
      List.nil_append]

end

end CivicRegistry.Sql
