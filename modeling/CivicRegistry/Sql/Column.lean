import CivicRegistry.Entity.Basic

/-!
# Columns

A path addresses a column of the entity's own table, which statements call `t`,
the value column of a collection, or the size of a collection.  Only identifiers
get into a statement, so a quoted name cannot end its own quotes.
-/

namespace CivicRegistry.Sql

/-- Why a request cannot be put as a statement. -/
inductive LoweringError where
  | table (detail : String)
  | column (detail : String)
  | data (detail : String)
  | limit (detail : String)
deriving DecidableEq

def LoweringError.message : LoweringError → String
  | .table detail => "Invalid table name: " ++ detail
  | .column detail => "Invalid column name: " ++ detail
  | .data detail => "Invalid operator data: " ++ detail
  | .limit detail => "Invalid limit: " ++ detail

/-- A letter of ASCII or an underscore. -/
def isNameStart (c : Char) : Bool :=
  c.isAlpha || c == '_'

def isNameChar (c : Char) : Bool :=
  c.isAlphanum || c == '_'

/-- A letter or underscore followed by letters, digits and underscores. -/
def isIdentifier (name : List Char) : Bool :=
  match name with
  | [] => false
  | c :: rest => isNameStart c && rest.all isNameChar

/-- Refuses a column name that is no identifier. -/
def checkColumnName (name : String) : Except LoweringError Unit :=
  if isIdentifier name.toList then .ok ()
  else .error (.column ("Invalid column name format: " ++ name))

/-- Refuses a table name that is no identifier. -/
def checkTableName (name : String) : Except LoweringError Unit :=
  if isIdentifier name.toList then .ok ()
  else .error (.table ("Invalid table name format: " ++ name))

inductive Column where
  /-- A column of the entity's own table. -/
  | own (name : String)
  /-- The value column of a collection, joined under the name of the
  collection. -/
  | element (collection : Collection) (valueColumn : String)
  /-- The number of rows of a collection. -/
  | count (collection : Collection)
deriving DecidableEq

/-- A name in double quotes. -/
def quoted (name : String) : String :=
  "\"" ++ name ++ "\""

namespace Column

def sql : Column → String
  | .own name => "t." ++ quoted name
  | .element collection valueColumn =>
    quoted collection.name ++ "." ++ quoted valueColumn
  | .count collection =>
    "(SELECT COUNT(*) FROM " ++ quoted collection.table ++ " c WHERE c." ++
      quoted collection.foreignKey ++
      " = t.\"id\")"

/-- The collection whose elements the column needs joined to the table. -/
def joined? : Column → Option Collection
  | .element collection _ => some collection
  | _ => none

/-- The column of a path whose head is an identifier. -/
def ofSegments (entity : Entity) (path head : String) (size : Option String) :
    Except LoweringError Column :=
  match entity.collection? head, size with
  | some collection, some "size" => .ok (.count collection)
  | some collection, none =>
    match collection.valueColumn with
    | some valueColumn => .ok (.element collection valueColumn)
    | none =>
      .error (.column ("Collection '" ++ head ++ "' has no value column"))
  | none, none => .ok (.own head)
  | _, some _ => .error (.column ("Unsupported path: " ++ path))

/-- The column that a path addresses: one segment, or a collection and its
size. -/
def ofPath (entity : Entity) (path : String) : Except LoweringError Column :=
  match (path.toList.splitOn '.').map String.ofList with
  | [head] => do
    checkColumnName head
    ofSegments entity path head none
  | [head, last] => do
    checkColumnName head
    ofSegments entity path head (some last)
  | _ => .error (.column ("Path nested too deep: " ++ path))

/-- The column of an attribute. -/
def ofField {entity : Entity} (field : entity.Field) :
    Except LoweringError Column :=
  ofPath entity (Entity.info field).path

end Column

end CivicRegistry.Sql
