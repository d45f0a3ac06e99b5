import CivicRegistry.Proofs.Value.Order
import CivicRegistry.Sql.Statement

/-!
# What statements mean

An expression means a value, or null, in a scope: the tables of the database,
the parameters of the statement, the functions that the database provides, and
a tuple for each source that is in view.  Conditions have three truth values,
the third of them null.  A selection goes over the tuples of its table, each
joined to its partners in other tables or to nulls where it has none, keeps
those of which its condition is true, and puts them in order.

The database is PostgreSQL with texts ordered by code point.  There what is not
a number is equal to itself and greater than every number, so that it has a
place in comparisons, in orders and among different values.  Values of different
kinds have no order, unless both are numbers.  `LOWER` is the lower case of the
register; whatever else is called is up to the database.
-/

namespace CivicRegistry.Sql

/-! ## Truth -/

/-- A truth value; nothing where it is unknown. -/
abbrev Truth := Option Bool

namespace Truth

/-- Whether all of some conditions are true: false once one is false. -/
def all (parts : List Truth) : Truth :=
  if some false ∈ parts then some false
  else if none ∈ parts then none
  else some true

/-- Whether any of some conditions is true: true once one is true. -/
def any (parts : List Truth) : Truth :=
  if some true ∈ parts then some true
  else if none ∈ parts then none
  else some false

theorem all_eq_true {parts : List Truth} :
    all parts = some true ↔ ∀ part ∈ parts, part = some true := by
  rw [all]
  constructor
  · intro htrue part hpart
    by_cases hfalse : some false ∈ parts
    · simp [hfalse] at htrue
    · by_cases hnone : none ∈ parts
      · simp [hfalse, hnone] at htrue
      · match part with
        | none => exact absurd hpart hnone
        | some false => exact absurd hpart hfalse
        | some true => rfl
  · intro htrue
    have hfalse : some false ∉ parts := fun hpart => by
      cases htrue _ hpart
    have hnone : none ∉ parts := fun hpart => by
      cases htrue _ hpart
    simp [hfalse, hnone]

theorem any_eq_true {parts : List Truth} :
    any parts = some true ↔ some true ∈ parts := by
  rw [any]
  by_cases htrue : some true ∈ parts
  · simp [htrue]
  · by_cases hnone : none ∈ parts <;> simp [htrue, hnone]

/-- A truth value as a value. -/
def value (truth : Truth) : Option Value :=
  truth.map .boolean

/-- The truth value of a value that is one. -/
def ofValue : Option Value → Truth
  | some (.boolean truth) => some truth
  | _ => none

@[simp]
theorem ofValue_value (truth : Truth) : ofValue truth.value = truth := by
  cases truth <;> rfl

end Truth

/-! ## Values -/

/-- The order of two values in a database: texts by code point, and what is not
a number is equal to itself and greater than every number. -/
def orderOf (left right : Value) : Option Ordering :=
  match left.isProper, right.isProper with
  | true, true => left.compare right
  | true, false => left.number?.map fun _ => .lt
  | false, true => right.number?.map fun _ => .gt
  | false, false => some .eq

/-- Numbers, and what is no number at all, are ordered as attribute values
are. -/
theorem orderOf_proper {left right : Value} (hleft : left.isProper = true)
    (hright : right.isProper = true) :
    orderOf left right = left.compare right := by
  rw [orderOf, hleft, hright]

/-- Whether two values are the same, what is not a number included. -/
def sameValue (left right : Value) : Bool :=
  left.same right || !(left.isProper || right.isProper)

/-! ## Expressions -/

/-- The values of some columns under their names. -/
abbrev Tuple := List (String × Option Value)

/-- The value of a column; null where there is none. -/
def Tuple.column (tuple : Tuple) (name : String) : Option Value :=
  (tuple.lookup name).join

/-- What an expression may refer to. -/
structure Scope where
  tables : String → List Tuple
  parameters : List Value
  functions : String → List (Option Value) → Option Value
  sources : String → Tuple

/-- The scope with a tuple under the name of a source. -/
def Scope.bind (scope : Scope) (source : String) (tuple : Tuple) : Scope :=
  { scope with
    sources := fun other =>
      if other = source then tuple else scope.sources other }

/-- The meaning of an expression. -/
abbrev Meaning := Scope → Option Value

/-- Whether a relation holds of values in an order. -/
def Relation.holds : Relation → Ordering → Bool
  | .equal, order => order == .eq
  | .atLeast, order => order.isGE
  | .atMost, order => order.isLE

/-- Whether a relation holds of two values; unknown of null and of values that
have no order. -/
def compared (relation : Relation) : Option Value → Option Value → Truth
  | some left, some right => (orderOf left right).map relation.holds
  | _, _ => none

/-- Whether a text is of the form of a pattern: a percent sign stands for any
characters, an underscore for any one, and a backslash takes the next character
as it is. -/
def matchesPattern : List Char → List Char → Bool
  | [], text => text.isEmpty
  | '%' :: pattern, text => (List.range (text.length + 1)).any fun count =>
    matchesPattern pattern (text.drop count)
  | '_' :: pattern, text =>
    match text with
    | [] => false
    | _ :: text => matchesPattern pattern text
  | '\\' :: literal :: pattern, text =>
    match text with
    | [] => false
    | c :: text => c == literal && matchesPattern pattern text
  | ['\\'], _ => false
  | literal :: pattern, text =>
    match text with
    | [] => false
    | c :: text => c == literal && matchesPattern pattern text

/-- Whether a text is like a pattern. -/
def like : Option Value → Option Value → Truth
  | some (.text text), some (.text pattern) =>
    some (matchesPattern pattern.toList text.toList)
  | _, _ => none

/-- What a function makes of its arguments. -/
def applied (scope : Scope) (name : String) (arguments : List (Option Value)) :
    Option Value :=
  if name = "LOWER" then
    match arguments with
    | [some (.text text)] =>
      some (.text (String.ofList (Text.lowercase text.toList)))
    | _ => none
  else scope.functions name arguments

namespace Meaning

def truth (meaning : Meaning) (scope : Scope) : Truth :=
  .ofValue (meaning scope)

def constant (value : Value) : Meaning := fun _ => some value

/-- The parameter with a number; they are counted from one. -/
def parameter : Nat → Meaning
  | 0, _ => none
  | place + 1, scope => scope.parameters[place]?

def column (source name : String) : Meaning :=
  fun scope => (scope.sources source).column name

def call (function : String) (arguments : List Meaning) : Meaning :=
  fun scope => applied scope function (arguments.map fun argument =>
    argument scope)

def compare (relation : Relation) (left right : Meaning) : Meaning :=
  fun scope => (compared relation (left scope) (right scope)).value

def isLike (left right : Meaning) : Meaning :=
  fun scope => (like (left scope) (right scope)).value

def isPresent (value : Meaning) : Meaning :=
  fun scope => some (.boolean (value scope).isSome)

/-- Whether a value is one of some others. -/
def isOneOf (value : Meaning) (choices : Scope → List (Option Value)) :
    Meaning :=
  fun scope => (Truth.any ((choices scope).map fun choice =>
    compared .equal (value scope) choice)).value

/-- All of some conditions; of one alone, the condition itself. -/
def conjunction : List Meaning → Meaning
  | [part] => part
  | parts => fun scope => (Truth.all (parts.map (·.truth scope))).value

/-- Any of some conditions; of one alone, the condition itself. -/
def disjunction : List Meaning → Meaning
  | [part] => part
  | parts => fun scope => (Truth.any (parts.map (·.truth scope))).value

theorem truth_conjunction {parts : List Meaning} {scope : Scope} :
    (conjunction parts).truth scope = some true ↔
      ∀ part ∈ parts, part.truth scope = some true := by
  match parts with
  | [part] => simp [conjunction]
  | [] | _ :: _ :: _ =>
    simp only [conjunction, truth, Truth.ofValue_value, Truth.all_eq_true]
    simp

theorem truth_disjunction {parts : List Meaning} {scope : Scope} :
    (disjunction parts).truth scope = some true ↔
      ∃ part ∈ parts, part.truth scope = some true := by
  match parts with
  | [part] => simp [disjunction]
  | [] | _ :: _ :: _ =>
    simp only [disjunction, truth, Truth.ofValue_value, Truth.any_eq_true]
    simp [eq_comm]

end Meaning

/-! ## Selections -/

/-- A table joined under a name, and the condition on its tuples. -/
structure Join where
  table : String
  source : String
  condition : Meaning

/-- What a selection answers for each tuple, or for all of them together. -/
inductive Item where
  /-- All columns of a source. -/
  | every (source : String)
  | single (name : String) (value : Meaning)
  /-- The number of tuples. -/
  | countAll (name : String)
  /-- The number of different values that are not null. -/
  | countDistinct (name : String) (value : Meaning)

structure SortKey where
  value : Meaning
  direction : Direction
  nullsLast : Bool

structure Select where
  distinct : Bool
  items : List Item
  table : String
  source : String
  joins : List Join
  condition : Option Meaning
  keys : List SortKey
  limit : Option Nat
  offset : Nat

/-- The scopes in which a table is joined: one for each partner, or one in
which its columns are null. -/
def Join.scopes (join : Join) (scope : Scope) : List Scope :=
  let partners := ((scope.tables join.table).map
    (scope.bind join.source)).filter fun joined =>
      join.condition.truth joined == some true
  if partners.isEmpty then [scope.bind join.source []] else partners

/-- The scopes in which some tables are joined one after the other. -/
def joinedScopes : List Join → Scope → List Scope
  | [], scope => [scope]
  | join :: joins, scope => (join.scopes scope).flatMap (joinedScopes joins)

namespace SortKey

/-- The order of two values under a key.  What is not a number is above the
numbers, and nulls are above or below everything. -/
def valueOrder (key : SortKey) : Option Value → Option Value → Ordering
  | some left, some right =>
    key.direction.apply ((orderOf left right).getD .eq)
  | some _, none => if key.nullsLast then .lt else .gt
  | none, some _ => if key.nullsLast then .gt else .lt
  | none, none => .eq

/-- The order of two scopes under some keys, the first key first. -/
def order : List SortKey → Scope → Scope → Ordering
  | [], _, _ => .eq
  | key :: keys, left, right =>
    (key.valueOrder (key.value left) (key.value right)).then
      (order keys left right)

end SortKey

/-- Whether two values are the same, or both null. -/
def sameOrNull : Option Value → Option Value → Bool
  | some left, some right => sameValue left right
  | none, none => true
  | _, _ => false

/-- Whether two tuples have the same values. -/
def sameTuple (left right : Tuple) : Bool :=
  left.length == right.length &&
    (left.zip right).all fun pair => sameOrNull pair.1.2 pair.2.2

namespace Item

/-- The columns of an item for one scope. -/
def columns (scope : Scope) : Item → Tuple
  | .every source => scope.sources source
  | .single name value => [(name, value scope)]
  | .countAll _ => []
  | .countDistinct _ _ => []

/-- The columns of an item for all scopes, where it counts them. -/
def counted? (scopes : List Scope) : Item → Option Tuple
  | .every _ => none
  | .single _ _ => none
  | .countAll name => some [(name, some (.integer scopes.length))]
  | .countDistinct name value =>
    let values := (scopes.filterMap value).eraseDupsBy sameValue
    some [(name, some (.integer values.length))]

end Item

namespace Select

/-- The scopes that the condition is true of, in no particular order. -/
def matching (select : Select) (scope : Scope) : List Scope :=
  ((scope.tables select.table).flatMap fun tuple =>
    joinedScopes select.joins (scope.bind select.source tuple)).filter
      fun joined => select.condition.all fun condition =>
        condition.truth joined == some true

/-- The scopes in order. -/
def ordered (select : Select) (scope : Scope) : List Scope :=
  (select.matching scope).mergeSort fun left right =>
    (SortKey.order select.keys left right).isLE

/-- What the selection answers. -/
def answer (select : Select) (scope : Scope) : List Tuple :=
  let scopes := select.ordered scope
  let tuples :=
    match select.items.mapM (Item.counted? scopes) with
    | some columns => [columns.flatten]
    | none => scopes.map fun joined =>
      select.items.flatMap (Item.columns joined)
  let tuples := if select.distinct then tuples.eraseDupsBy sameTuple else tuples
  let tuples := tuples.drop select.offset
  match select.limit with
  | some limit => tuples.take limit
  | none => tuples

/-- The values of the first column. -/
def firstColumn (select : Select) (scope : Scope) : List (Option Value) :=
  (select.answer scope).map fun tuple => tuple.head?.bind (·.2)

/-- The selection as a single value. -/
def scalar (select : Select) : Meaning :=
  fun scope => (select.firstColumn scope).head?.join

/-- The selection as a list of values. -/
def array (select : Select) : Meaning :=
  fun scope => some (.list ((select.firstColumn scope).filterMap id))

end Select

end CivicRegistry.Sql
