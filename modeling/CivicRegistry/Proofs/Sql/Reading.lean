import CivicRegistry.Proofs.Sql.Meaning

/-!
# Reading statements

The text of a statement is read from left to right.  Names, numbers and words
are runs of characters; what stands in parentheses is read into one piece as
soon as it is closed.  So no run of pieces has parentheses left in it, and the
operators bind by the order in which they are looked for: `OR` before `AND`,
comparisons after both, sums after those and products last.

Keywords are written in capitals, and names in double quotes.
-/

namespace CivicRegistry.Sql

inductive Keyword where
  | select
  | distinct
  | countWord
  | arrayWord
  | asWord
  | fromWord
  | left
  | join
  | on
  | whereWord
  | order
  | byWord
  | ascending
  | descending
  | nulls
  | last
  | limit
  | offset
  | andWord
  | orWord
  | isWord
  | notWord
  | null
  | like
  | inWord
deriving DecidableEq

/-- The keyword that is written with some characters. -/
def Keyword.ofChars? : List Char → Option Keyword
  | ['S', 'E', 'L', 'E', 'C', 'T'] => some .select
  | ['D', 'I', 'S', 'T', 'I', 'N', 'C', 'T'] => some .distinct
  | ['C', 'O', 'U', 'N', 'T'] => some .countWord
  | ['A', 'R', 'R', 'A', 'Y'] => some .arrayWord
  | ['A', 'S'] => some .asWord
  | ['F', 'R', 'O', 'M'] => some .fromWord
  | ['L', 'E', 'F', 'T'] => some .left
  | ['J', 'O', 'I', 'N'] => some .join
  | ['O', 'N'] => some .on
  | ['W', 'H', 'E', 'R', 'E'] => some .whereWord
  | ['O', 'R', 'D', 'E', 'R'] => some .order
  | ['B', 'Y'] => some .byWord
  | ['A', 'S', 'C'] => some .ascending
  | ['D', 'E', 'S', 'C'] => some .descending
  | ['N', 'U', 'L', 'L', 'S'] => some .nulls
  | ['L', 'A', 'S', 'T'] => some .last
  | ['L', 'I', 'M', 'I', 'T'] => some .limit
  | ['O', 'F', 'F', 'S', 'E', 'T'] => some .offset
  | ['A', 'N', 'D'] => some .andWord
  | ['O', 'R'] => some .orWord
  | ['I', 'S'] => some .isWord
  | ['N', 'O', 'T'] => some .notWord
  | ['N', 'U', 'L', 'L'] => some .null
  | ['L', 'I', 'K', 'E'] => some .like
  | ['I', 'N'] => some .inWord
  | _ => none

/-- What stands in parentheses. -/
inductive Content where
  | values (values : List Meaning)
  | star
  | distinct (value : Meaning)
  | query (select : Select)

/-- A piece of a statement. -/
inductive Piece where
  | keyword (keyword : Keyword)
  | word (text : String)
  | name (text : String)
  | number (digits : List Char)
  | parameter (number : Nat)
  | sign (char : Char)
  | group (content : Content)

namespace Piece

def isKeyword (keyword : Keyword) : Piece → Bool
  | .keyword other => other == keyword
  | _ => false

def isSign (char : Char) : Piece → Bool
  | .sign other => other == char
  | _ => false

/-- A plus or a minus. -/
def isAdditive (piece : Piece) : Bool :=
  piece.isSign '+' || piece.isSign '-'

/-- The marks by which tests are told from other expressions. -/
def isTest : Piece → Bool
  | .keyword .isWord => true
  | .keyword .like => true
  | .keyword .inWord => true
  | .sign char => char == '=' || char == '<' || char == '>'
  | _ => false

/-- The keywords that begin a section of a selection. -/
def isSection : Piece → Bool
  | .keyword .fromWord => true
  | .keyword .left => true
  | .keyword .whereWord => true
  | .keyword .order => true
  | .keyword .limit => true
  | .keyword .offset => true
  | _ => false

def isDirection : Piece → Bool
  | .keyword .ascending => true
  | .keyword .descending => true
  | _ => false

end Piece

/-! ## Expressions -/

open Piece (isKeyword isSign isAdditive isTest isSection isDirection)

/-- The number that some digits stand for. -/
def numeral (digits : List Char) : Nat :=
  Nat.ofDigitChars 10 digits 0

def readAtom? : List Piece → Option Meaning
  | [.parameter number] => some (.parameter number)
  | [.number digits] => some (.constant (.integer (numeral digits)))
  | [.number whole, .sign '.', .number decimals] =>
    some (.constant (.float (Float.ofScientific (numeral (whole ++ decimals))
      true decimals.length)))
  | [.word source, .sign '.', .name column] => some (.column source column)
  | [.name source, .sign '.', .name column] => some (.column source column)
  | [.group (.values [value])] => some value
  | [.group (.query select)] => some select.scalar
  | [.keyword .arrayWord, .group (.query select)] => some select.array
  | [.word function, .group (.values values)] => some (.call function values)
  | _ => none

def readProduct? (pieces : List Piece) : Option Meaning := do
  match ← (pieces.splitOnP (isSign '*')).mapM readAtom? with
  | [] => none
  | first :: others =>
    return others.foldl (fun left right => .call "*" [left, right]) first

/-- The terms of a sum with the signs between them. -/
def readTerms? (pieces : List Piece) :
    Option (Meaning × List (Piece × Meaning)) := do
  match ← (pieces.splitOnP isAdditive).mapM readProduct? with
  | [] => none
  | first :: others => return (first, (pieces.filter isAdditive).zip others)

/-- A sum whose first term is given. -/
def summed (first : Meaning) (terms : List (Piece × Meaning)) : Meaning :=
  terms.foldl (fun left (sign, right) =>
    .call (if sign.isSign '-' then "-" else "+") [left, right]) first

def readSum? : List Piece → Option Meaning
  | .sign '-' :: pieces => (readTerms? pieces).map fun (first, terms) =>
    summed (.call "-" [first]) terms
  | pieces => (readTerms? pieces).map fun (first, terms) => summed first terms

/-- A test of one or two sums, or a sum. -/
def readTest? (pieces : List Piece) : Option Meaning :=
  match pieces.filter isTest, pieces.splitOnP isTest with
  | [], [value] => readSum? value
  | [.sign '='], [left, right] =>
    return .compare .equal (← readSum? left) (← readSum? right)
  | [.sign '>', .sign '='], [left, [], right] =>
    return .compare .atLeast (← readSum? left) (← readSum? right)
  | [.sign '<', .sign '='], [left, [], right] =>
    return .compare .atMost (← readSum? left) (← readSum? right)
  | [.keyword .like], [left, right] =>
    return .isLike (← readSum? left) (← readSum? right)
  | [.keyword .isWord], [value, [.keyword .notWord, .keyword .null]] =>
    return .isPresent (← readSum? value)
  | [.keyword .inWord], [value, [.group (.values choices)]] =>
    return .isOneOf (← readSum? value) fun scope =>
      choices.map fun choice => choice scope
  | [.keyword .inWord], [value, [.group (.query select)]] =>
    return .isOneOf (← readSum? value) select.firstColumn
  | _, _ => none

def readConjunction? (pieces : List Piece) : Option Meaning :=
  ((pieces.splitOnP (isKeyword .andWord)).mapM readTest?).map .conjunction

def readExpression? (pieces : List Piece) : Option Meaning :=
  ((pieces.splitOnP (isKeyword .orWord)).mapM readConjunction?).map
    .disjunction

/-- Expressions with commas between them. -/
def readList? (pieces : List Piece) : Option (List Meaning) :=
  (pieces.splitOnP (isSign ',')).mapM readExpression?

/-! ## Selections -/

/-- The name that the value of an expression goes by. -/
def columnName : List Piece → String
  | [_, .sign '.', .name column] => column
  | _ => "?column?"

def readItem? (pieces : List Piece) : Option Item :=
  match pieces.splitOnP (isKeyword .asWord) with
  | [[.word source, .sign '.', .sign '*']] => some (.every source)
  | [[.keyword .countWord, .group .star]] => some (.countAll "count")
  | [[.keyword .countWord, .group .star], [.word name]] =>
    some (.countAll name)
  | [[.keyword .countWord, .group (.distinct value)], [.word name]] =>
    some (.countDistinct name value)
  | [value, [.name name]] => return .single name (← readExpression? value)
  | [value] => return .single (columnName value) (← readExpression? value)
  | _ => none

/-- A sort key; nulls come last of their own where the order is ascending. -/
def readKey? (pieces : List Piece) : Option SortKey :=
  match pieces.filter isDirection, pieces.splitOnP isDirection with
  | [], [value] => return ⟨← readExpression? value, .ascending, true⟩
  | [.keyword .ascending], [value, []] =>
    return ⟨← readExpression? value, .ascending, true⟩
  | [.keyword .descending], [value, []] =>
    return ⟨← readExpression? value, .descending, false⟩
  | [.keyword .ascending], [value, [.keyword .nulls, .keyword .last]] =>
    return ⟨← readExpression? value, .ascending, true⟩
  | [.keyword .descending], [value, [.keyword .nulls, .keyword .last]] =>
    return ⟨← readExpression? value, .descending, true⟩
  | _, _ => none

/-- Adds a section to a selection: its keyword and the pieces after it. -/
def readSection? (select : Select) : Piece × List Piece → Option Select
  | (.keyword .fromWord, [.name table, .word source]) =>
    some { select with table, source }
  | (.keyword .left, .keyword .join :: .name table :: .name source ::
      .keyword .on :: condition) =>
    return { select with
      joins := select.joins ++ [⟨table, source, ← readExpression? condition⟩] }
  | (.keyword .whereWord, condition) =>
    return { select with condition := some (← readExpression? condition) }
  | (.keyword .order, .keyword .byWord :: keys) =>
    return { select with keys := ← (keys.splitOnP (isSign ',')).mapM readKey? }
  | (.keyword .limit, [.number digits]) =>
    some { select with limit := some (numeral digits) }
  | (.keyword .offset, [.number digits]) =>
    some { select with offset := numeral digits }
  | _ => none

/-- The items of a selection and its sections. -/
def readSections? (distinct : Bool) (pieces : List Piece) : Option Select :=
  match pieces.splitOnP isSection with
  | [] => none
  | items :: sections => do
    let items ← (items.splitOnP (isSign ',')).mapM readItem?
    ((pieces.filter isSection).zip sections).foldlM readSection?
      ⟨distinct, items, "", "", [], none, [], none, 0⟩

/-- A selection without its first keyword. -/
def readSelect? : List Piece → Option Select
  | .keyword .distinct :: pieces => readSections? true pieces
  | pieces => readSections? false pieces

/-- What stands in parentheses, from its pieces. -/
def readContent? : List Piece → Option Content
  | [.sign '*'] => some .star
  | .keyword .distinct :: pieces => (readExpression? pieces).map .distinct
  | .keyword .select :: pieces => (readSelect? pieces).map .query
  | pieces => (readList? pieces).map .values

/-! ## Texts -/

/-- Whether a character goes on with the run of the one before it. -/
def continues (before char : Char) : Bool :=
  (isNameChar before || before == '$') && isNameChar char

/-- The runs of a text. -/
def runs (text : List Char) : List (List Char) :=
  text.splitBy continues

/-- The piece of a run. -/
def Piece.ofRun (run : List Char) : Piece :=
  match Keyword.ofChars? run, run with
  | some found, _ => .keyword found
  | none, '$' :: digits => .parameter (numeral digits)
  | none, char :: _ =>
    if run.all Char.isDigit then .number run
    else if isNameStart char then .word (String.ofList run)
    else .sign char
  | none, [] => .word ""

/-- A statement under way: the pieces since the last parenthesis that is open,
those before each of the open ones, and the name that has been begun. -/
structure Reader where
  pieces : List Piece
  outer : List (List Piece)
  name : Option (List Char)

namespace Reader

def start : Reader := ⟨[], [], none⟩

/-- The reader after a run. -/
def next? (reader : Reader) (run : List Char) : Option Reader :=
  match reader.name, run with
  | some name, ['"'] =>
    some ⟨reader.pieces ++ [.name (String.ofList name)], reader.outer, none⟩
  | some name, run => some { reader with name := some (name ++ run) }
  | none, ['"'] => some { reader with name := some [] }
  | none, ['('] => some ⟨[], reader.pieces :: reader.outer, none⟩
  | none, [')'] =>
    match reader.outer with
    | [] => none
    | before :: outer => (readContent? reader.pieces).map fun content =>
      ⟨before ++ [.group content], outer, none⟩
  | none, [' '] => some reader
  | none, run => some { reader with pieces := reader.pieces ++ [.ofRun run] }

/-- The reader after a text. -/
def read? (reader : Reader) (text : List Char) : Option Reader :=
  (runs text).foldlM next? reader

end Reader

/-- The pieces of a text in which everything that is opened is closed. -/
def readPieces? (text : String) : Option (List Piece) :=
  match Reader.start.read? text.toList with
  | some ⟨pieces, [], none⟩ => some pieces
  | _ => none

/-- The meaning of the text of a condition. -/
def readCondition? (text : String) : Option Meaning :=
  (readPieces? text).bind readExpression?

/-- The selection of the text of a statement. -/
def readStatement? (text : String) : Option Select :=
  match readPieces? text with
  | some (.keyword .select :: pieces) => readSelect? pieces
  | _ => none

end CivicRegistry.Sql
