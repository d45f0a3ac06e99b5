import CivicRegistry.Paging
import CivicRegistry.Sql.Clause

/-!
# Statements

A specification is put as two statements: one lists a page of the rows that meet
it and one counts all of them.  Where a collection is joined, or the
specification demands it, the rows are listed and counted by their identifiers,
each once.
-/

namespace CivicRegistry.Sql

/-- The order of the rows: by a column, absent values last, and then by the
identifier in the same direction. -/
structure SortClause where
  column : Column
  direction : Direction
  byIdentifier : Bool
deriving DecidableEq

/-- The order by an attribute; a collection has no order. -/
def SortClause.ofField {entity : Entity} (field : entity.Field)
    (direction : Direction) :
    Except LoweringError SortClause := do
  match ← Column.ofField field with
  | .element _ _ =>
    .error (.column
      ("Cannot sort on collection field: " ++ (Entity.info field).wire))
  | column => return ⟨column, direction, (Entity.info field).path == "id"⟩

def SortClause.sql (clause : SortClause) : String :=
  let word := clause.direction.word
  "ORDER BY " ++ clause.column.sql ++ " " ++ word ++ " NULLS LAST" ++
    if clause.byIdentifier then "" else ", t.\"id\" " ++ word

/-- A part of the rows: at most `count` of them after the first `offset`. -/
structure Window where
  count : Nat
  offset : Nat
deriving DecidableEq

def Window.sql (window : Window) : String :=
  "LIMIT " ++ window.count.repr ++ " OFFSET " ++ window.offset.repr

/-- What a statement answers: the number of rows, or rows in an order. -/
inductive Answer where
  | count
  | rows (order : Option SortClause) (window : Option Window)
deriving DecidableEq

structure Statement where
  entity : Entity
  answer : Answer
  distinct : Bool
  clause : Clause Value

/-- The text of a statement and its parameters. -/
structure Prepared where
  query : String
  params : List Value

/-- The derived columns of an entity are put into the select list beside those
of its table. -/
def selectItem (entity : Entity) (a : Attribute) : Option String :=
  match a.origin with
  | .own => none
  | .sizeOf name => (entity.collection? name).map fun collection =>
    (Column.count collection).sql ++ " AS " ++ quoted a.column
  | .elementsOf name => do
    let collection ← entity.collection? name
    let value := "r." ++ quoted (← collection.valueColumn)
    return "ARRAY(SELECT " ++ value ++ " FROM " ++ quoted collection.table ++
      " r WHERE r." ++ quoted collection.foreignKey ++
      " = t.\"id\" ORDER BY " ++ value ++ ") AS " ++ quoted a.column

/-- The select list of an entity. -/
def selectList (entity : Entity) : String :=
  ", ".intercalate
    ("t.*" :: (entity.fields.map Entity.info).filterMap (selectItem entity))

/-- The joins of some collections to the table. -/
def joinsSql (joins : List Collection) : String :=
  String.join (joins.map fun collection =>
    " LEFT JOIN " ++ quoted collection.table ++ " " ++
      quoted collection.name ++ " ON " ++ quoted collection.name ++ "." ++
      quoted collection.foreignKey ++ " = t.\"id\"")

namespace Statement

/-- Whether the rows are told apart by their identifiers. -/
def byIdentifier (statement : Statement) : Bool :=
  statement.distinct || !statement.clause.joins.isEmpty

/-- The table, what is joined to it and the condition. -/
def source (statement : Statement) : String :=
  quoted statement.entity.name ++ " t" ++ joinsSql statement.clause.joins ++
    " WHERE " ++ statement.clause.sql 0

def query (statement : Statement) : String :=
  let table := quoted statement.entity.name
  match statement.answer with
  | .count =>
    if statement.byIdentifier then
      "SELECT COUNT(DISTINCT t.\"id\") AS count FROM " ++ statement.source
    else "SELECT COUNT(*) AS count FROM " ++ statement.source
  | .rows order window =>
    let condition :=
      if statement.byIdentifier then
        "t.\"id\" IN (SELECT DISTINCT t.\"id\" FROM " ++ statement.source ++ ")"
      else statement.clause.sql 0
    let parts :=
      ["SELECT " ++ selectList statement.entity ++ " FROM " ++ table ++ " t",
        "WHERE " ++ condition]
    " ".intercalate
      (parts ++ order.toList.map SortClause.sql ++ window.toList.map Window.sql)

def prepared (statement : Statement) : Prepared :=
  ⟨statement.query, statement.clause.values⟩

end Statement

variable {entity : Entity}

/-- The statement that counts the rows that meet a specification. -/
def counting (spec : Specification entity.Field) :
    Except LoweringError Statement := do
  checkTableName entity.name
  let clause ← ofPredicate spec.predicate
  return ⟨entity, .count, spec.distinct, clause⟩

/-- The statement that lists the rows that meet a specification, a page of them
if one is asked for. -/
def listing (spec : Specification entity.Field)
    (page : Option (PageRequest entity.Field)) :
    Except LoweringError Statement := do
  checkTableName entity.name
  match page with
  | none =>
    let clause ← ofPredicate spec.predicate
    return ⟨entity, .rows none none, spec.distinct, clause⟩
  | some page =>
    if page.size = 0 then throw (.limit "Page size must be positive")
    let clause ← ofPredicate spec.predicate
    let order ← SortClause.ofField page.sortField page.direction
    return ⟨entity, .rows (some order) (some ⟨page.size.toNat, page.offset⟩),
      spec.distinct, clause⟩

end CivicRegistry.Sql
