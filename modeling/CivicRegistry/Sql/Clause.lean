import CivicRegistry.Predicate.Basic
import CivicRegistry.Sql.Column
import CivicRegistry.Text.Lowercase

/-!
# Clauses

A clause is a predicate over columns in which every value stands at the place of
its placeholder.  The text of a clause is made from its shape alone: the values
are numbered from left to right and only their numbers are written, and the
parameters of the statement are the values in the same order.
-/

namespace CivicRegistry.Sql

/-- The relation that a column has to a value. -/
inductive Relation where
  | equal
  | atLeast
  | atMost
deriving DecidableEq

def Relation.sql : Relation → String
  | .equal => "="
  | .atLeast => ">="
  | .atMost => "<="

/-- A clause whose placeholders hold values of the type `α`. -/
inductive Clause (α : Type) where
  | always
  | all (parts : List (Clause α))
  | any (parts : List (Clause α))
  | compare (column : Column) (relation : Relation) (value : α)
  | like (column : Column) (pattern : α)
  | oneOf (column : Column) (values : List α)
  | near (latitude longitude : Column)
    (centerLatitude centerLongitude radius : α)
deriving Inhabited

/-- A piece of the text of a clause. -/
inductive Fragment where
  | text (sql : String)
  | placeholder (number : Nat)
deriving DecidableEq

def Fragment.sql : Fragment → String
  | .text sql => sql
  | .placeholder number => "$" ++ number.repr

/-- Fragments with a separator between every two of them. -/
def separated (separator : String) : List (List Fragment) → List Fragment
  | [] => []
  | [part] => part
  | part :: others =>
    part ++ Fragment.text separator :: separated separator others

/-- Placeholders with the numbers after `start`. -/
def placeholders (start count : Nat) : List (List Fragment) :=
  (List.range count).map fun i => [.placeholder (start + i + 1)]

/-- The distance between the point of two columns and a centre, at most a
radius; the centre's latitude is needed twice. -/
def nearFragments (latitude longitude : Column) (start : Nat) : List Fragment :=
  let (lat, lng) := (latitude.sql, longitude.sql)
  [.text ("(" ++ lat ++ " IS NOT NULL AND " ++ lng ++
      " IS NOT NULL AND 6371.0 * acos(LEAST(1.0, GREATEST(-1.0, cos(radians("),
    .placeholder (start + 1),
    .text (")) * cos(radians(" ++ lat ++ ")) * cos(radians(" ++ lng ++
      ") - radians("),
    .placeholder (start + 2), .text ")) + sin(radians(",
    .placeholder (start + 1),
    .text (")) * sin(radians(" ++ lat ++ "))))) <= "),
    .placeholder (start + 3), .text ")"]

namespace Clause

variable {α : Type}

mutual

/-- The values of a clause from left to right. -/
def values : Clause α → List α
  | .always => []
  | .all parts => partValues parts
  | .any parts => partValues parts
  | .compare _ _ value => [value]
  | .like _ pattern => [pattern]
  | .oneOf _ values => values
  | .near _ _ latitude longitude radius => [latitude, longitude, radius]

def partValues : List (Clause α) → List α
  | [] => []
  | part :: others => part.values ++ partValues others

end

mutual

/-- The columns of a clause from left to right. -/
def columns : Clause α → List Column
  | .always => []
  | .all parts => partColumns parts
  | .any parts => partColumns parts
  | .compare column _ _ => [column]
  | .like column _ => [column]
  | .oneOf column _ => [column]
  | .near latitude longitude _ _ _ => [latitude, longitude]

def partColumns : List (Clause α) → List Column
  | [] => []
  | part :: others => part.columns ++ partColumns others

end

/-- A group of parts in parentheses; an empty group constrains nothing. -/
def group (separator : String) (parts : List (List Fragment)) : List Fragment :=
  if parts.isEmpty then [.text "1=1"]
  else .text "(" :: separated separator parts ++ [.text ")"]

mutual

/-- The text of a clause in fragments, its placeholders numbered after
`start`. -/
def fragments (start : Nat) : Clause α → List Fragment
  | .always => [.text "1=1"]
  | .all parts => group " AND " (partFragments start parts)
  | .any parts => group " OR " (partFragments start parts)
  | .compare column relation _ =>
    [.text (column.sql ++ " " ++ relation.sql ++ " "), .placeholder (start + 1)]
  | .like column _ =>
    [.text ("LOWER(" ++ column.sql ++ ") LIKE "), .placeholder (start + 1)]
  | .oneOf column values =>
    if values.isEmpty then [.text "1=0"]
    else
      .text (column.sql ++ " IN (") ::
        separated ", " (placeholders start values.length) ++ [.text ")"]
  | .near latitude longitude _ _ _ => nearFragments latitude longitude start

def partFragments (start : Nat) : List (Clause α) → List (List Fragment)
  | [] => []
  | part :: others =>
    part.fragments start :: partFragments (start + part.values.length) others

end

/-- The text of a clause. -/
def sql (start : Nat) (clause : Clause α) : String :=
  String.join ((clause.fragments start).map Fragment.sql)

/-- The collections that a clause needs joined, each once and in the order of
first use. -/
def joins (clause : Clause α) : List Collection :=
  (clause.columns.filterMap Column.joined?).eraseDups

end Clause

/-- The characters that a pattern needs for one to be taken as it is. -/
def escapedForLike (c : Char) : List Char :=
  if c = '\\' ∨ c = '%' ∨ c = '_' then ['\\', c] else [c]

/-- The pattern of the texts in which a term occurs. -/
def substringPattern (term : List Char) : List Char :=
  '%' :: term.flatMap escapedForLike ++ ['%']

variable {entity : Entity}

/-- The clause of a condition on a column. -/
def ofCondition (column : Column) (condition : Condition entity.Field) :
    Except LoweringError (Clause Value) :=
  match condition.operator with
  | .equal => .ok (.compare column .equal condition.data)
  | .atLeast => .ok (.compare column .atLeast condition.data)
  | .atMost => .ok (.compare column .atMost condition.data)
  | .contains =>
    match condition.data with
    | .text term =>
      .ok (.like column
        (.text (String.ofList (substringPattern (Text.lowercase term.toList)))))
    | _ =>
      .error (.data
        ("Substring match on " ++ (Entity.info condition.field).path ++
          " requires text"))
  | .oneOf =>
    match condition.data with
    | .list values => .ok (.oneOf column values)
    | single => .ok (.compare column .equal single)

mutual

/-- The clause of a predicate. -/
def ofPredicate : Predicate entity.Field → Except LoweringError (Clause Value)
  | .always => .ok .always
  | .all parts => do return .all (← ofPredicates parts)
  | .any parts => do return .any (← ofPredicates parts)
  | .leaf condition =>
    do ofCondition (← Column.ofField condition.field) condition
  | .near proximity => do
    let latitude ← Column.ofField proximity.latitude
    let longitude ← Column.ofField proximity.longitude
    let circle := proximity.circle
    return .near latitude longitude (.float circle.center.latitude)
      (.float circle.center.longitude)
      (.float circle.radius)

def ofPredicates :
    List (Predicate entity.Field) → Except LoweringError (List (Clause Value))
  | [] => .ok []
  | part :: others => do
    let part ← ofPredicate part
    let others ← ofPredicates others
    return part :: others

end

end CivicRegistry.Sql
