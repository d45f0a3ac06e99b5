import CivicRegistry.Proofs.Sql.ClauseReading
import CivicRegistry.Proofs.Sql.Text
import Mathlib.Data.List.Forall2

/-!
# The texts of clauses

The text of a clause reads as its pieces: every column is one between its
quotes, every placeholder is a run of its own, and the separators of a group
keep its parts apart.  So the text of a clause is a condition that means what
the clause says.
-/

namespace CivicRegistry.Sql

/-! ## Columns -/

theorem Column.reads_count {collection : Collection}
    (hcolumn : (Column.count collection).WellNamed) :
    Reads (Column.count collection).sql.toList
      (Column.count collection).pieces := by
  obtain ⟨htable, hkey⟩ := hcolumn
  have hopening : Reads "SELECT COUNT(*) FROM ".toList
      [.keyword .select, .keyword .countWord, .group .star,
        .keyword .fromWord] := rfl
  have halias : Reads " c WHERE c.".toList
      [.word "c", .keyword .whereWord, .word "c", .sign '.'] := rfl
  have hclosing : Reads " = t.\"id\"".toList
      [.sign '=', .word "t", .sign '.', .name "id"] := rfl
  have hfrom := (reads_quoted htable).append
    (halias.append ((reads_quoted hkey).append hclosing (apart_of_head rfl))
      (apart_of_last rfl)) (apart_of_head rfl)
  have hquery : Reads _ [.group (.query (sizeOf collection))] :=
    (hopening.append hfrom (apart_of_last rfl)).group rfl
  have htext : (Column.count collection).sql.toList =
      '(' :: ("SELECT COUNT(*) FROM ".toList ++
        ((quoted collection.table).toList ++ (" c WHERE c.".toList ++
          ((quoted collection.foreignKey).toList ++
            " = t.\"id\"".toList))) ++ [')']) := by
    unfold Column.sql
    simp only [String.toList_append, String.reduceToList, List.append_assoc,
      List.cons_append, List.nil_append]
  rw [htext]
  exact hquery

/-- The text of a column reads as the column. -/
theorem Column.reads {column : Column} (hcolumn : column.WellNamed) :
    Reads column.sql.toList column.pieces := by
  cases column with
  | own name =>
    have hsource : Reads "t.".toList [.word "t", .sign '.'] := rfl
    have hquoted : Reads (quoted name).toList [.name name] :=
      reads_quoted hcolumn
    have hname := hsource.append hquoted (apart_of_last rfl)
    unfold Column.sql
    rw [String.toList_append]
    exact hname
  | element collection valueColumn =>
    obtain ⟨hcollection, hvalue⟩ := hcolumn
    have hdot : Reads ".".toList [.sign '.'] := rfl
    have hname := (reads_quoted hcollection).append
      (hdot.append (reads_quoted hvalue) (apart_of_last rfl))
      (apart_of_head rfl)
    unfold Column.sql
    rw [String.toList_append, String.toList_append, List.append_assoc]
    exact hname
  | count collection => exact reads_count hcolumn

/-! ## Fragments -/

/-- The characters of some fragments. -/
def chars (fragments : List Fragment) : List Char :=
  fragments.flatMap fun fragment => fragment.sql.toList

theorem chars_append (left right : List Fragment) :
    chars (left ++ right) = chars left ++ chars right :=
  List.flatMap_append

theorem chars_cons (first : Fragment) (rest : List Fragment) :
    chars (first :: rest) = first.sql.toList ++ chars rest :=
  List.flatMap_cons

theorem Fragment.toList_placeholder (number : Nat) :
    (Fragment.placeholder number).sql.toList =
      '$' :: Nat.toDigits 10 number := by
  simp [sql]

theorem separated_cons_cons (separator : String) (part second : List Fragment)
    (others : List (List Fragment)) :
    separated separator (part :: second :: others) =
      part ++ .text separator :: separated separator (second :: others) := rfl

/-- The separator reads as some marks, and no run goes over its ends. -/
structure Separates (separator : String) (marks : List Piece) : Prop where
  reads : Reads separator.toList marks
  head : separator.toList.head?.any (fun char => !isNameChar char) = true
  last : separator.toList.getLast?.all
    (fun char => !(isNameChar char || char == '$')) = true

namespace Separates

variable {separator : String} {marks : List Piece}

theorem apart (hseparates : Separates separator marks)
    (before after : List Char) : Apart before (separator.toList ++ after) := by
  have hhead := hseparates.head
  cases hchars : separator.toList with
  | nil =>
    rw [hchars] at hhead
    cases hhead
  | cons first rest =>
    rw [hchars] at hhead
    exact apart_of_head hhead

/-- Two texts with a separator between them. -/
theorem between (hseparates : Separates separator marks)
    {left right : List Char} {first second : List Piece}
    (hleft : Reads left first) (hright : Reads right second) :
    Reads (left ++ (separator.toList ++ right)) (first ++ (marks ++ second)) :=
  hleft.append
    (hseparates.reads.append hright (apart_of_last hseparates.last))
    (hseparates.apart left right)

/-- Texts with a separator between every two of them. -/
theorem reads_separated (hseparates : Separates separator marks)
    {parts : List (List Fragment)} {pieces : List (List Piece)}
    (hparts : List.Forall₂ (fun part piece => Reads (chars part) piece)
      parts pieces) :
    Reads (chars (separated separator parts)) (marks.intercalate pieces) := by
  induction hparts with
  | nil => exact reads_nil
  | @cons part piece others others' hpart hothers ih =>
    cases hothers with
    | nil => simpa [separated] using hpart
    | @cons second second' others others' hsecond hothers =>
      rw [separated_cons_cons, chars_append, chars_cons,
        List.intercalate_cons_cons, List.append_assoc]
      exact hseparates.between hpart ih

end Separates

theorem separates_and : Separates " AND " [.keyword .andWord] :=
  ⟨rfl, rfl, rfl⟩

theorem separates_or : Separates " OR " [.keyword .orWord] :=
  ⟨rfl, rfl, rfl⟩

theorem separates_comma : Separates ", " [.sign ','] :=
  ⟨rfl, rfl, rfl⟩

theorem reads_placeholders (start count : Nat) :
    List.Forall₂ (fun part pieces => Reads (chars part) pieces)
      (placeholders start count)
      ((List.range count).map fun i => [.parameter (start + i + 1)]) := by
  rw [placeholders, List.forall₂_map_left_iff, List.forall₂_map_right_iff,
    List.forall₂_same]
  intro i _
  have hchars : chars [.placeholder (start + i + 1)] =
      '$' :: Nat.toDigits 10 (start + i + 1) := by
    simp [chars, Fragment.toList_placeholder]
  rw [hchars]
  exact reads_placeholder _

/-! ## Distances -/

/-- The text is that of some values in parentheses. -/
def Denotes (text : List Char) (values : List Meaning) : Prop :=
  ∃ pieces, Reads text pieces ∧ readContent? pieces = some (.values values)

/-- The text of a function and its arguments. -/
def called (function : String) (text : List Char) : List Char :=
  function.toList ++ '(' :: (text ++ [')'])

theorem Denotes.call {text : List Char} {values : List Meaning}
    (htext : Denotes text values) (function : String)
    (hfunction : Reads function.toList [.word function]) :
    Reads (called function text) [.word function, .group (.values values)] := by
  obtain ⟨pieces, hreads, hcontent⟩ := htext
  exact hfunction.call hreads hcontent

theorem Column.denotes {column : Column} (hcolumn : column.WellNamed) :
    Denotes column.sql.toList [column.meaning] := by
  refine ⟨column.pieces, reads hcolumn, ?_⟩
  cases column <;> rfl

theorem denotes_placeholder (number : Nat) :
    Denotes ('$' :: Nat.toDigits 10 number) [.parameter number] :=
  ⟨[.parameter number], reads_placeholder number, rfl⟩

/-- The text of a distance from the texts of a point and a centre. -/
def distanceText (latitude longitude centerLatitude centerLongitude :
    List Char) : List Char :=
  let radians := called "radians"
  let meridian := radians longitude ++ (" - ".toList ++ radians centerLongitude)
  let cosines := called "cos" (radians centerLatitude) ++ (" * ".toList ++
    (called "cos" (radians latitude) ++ (" * ".toList ++
      called "cos" meridian)))
  let sines := called "sin" (radians centerLatitude) ++ (" * ".toList ++
    called "sin" (radians latitude))
  let cosine := cosines ++ (" + ".toList ++ sines)
  let bounded := called "LEAST"
    ("1.0, ".toList ++ called "GREATEST" ("-1.0, ".toList ++ cosine))
  "6371.0 * ".toList ++ called "acos" bounded

/-- The text of a distance reads as a product, and that is the distance. -/
theorem reads_distance {latitude longitude centerLatitude centerLongitude :
      List Char}
    {latitude' longitude' centerLatitude' centerLongitude' : Meaning}
    (hlatitude : Denotes latitude [latitude'])
    (hlongitude : Denotes longitude [longitude'])
    (hcenterLatitude : Denotes centerLatitude [centerLatitude'])
    (hcenterLongitude : Denotes centerLongitude [centerLongitude']) :
    ∃ bounded, Reads (distanceText latitude longitude centerLatitude
        centerLongitude)
      [.number "6371".toList, .sign '.', .number ['0'], .sign '*',
        .word "acos", .group (.values [bounded])] ∧
      distance latitude' longitude' centerLatitude' centerLongitude' =
        .call "*" [.constant (.float 6371.0), .call "acos" [bounded]] := by
  have htimes : Separates " * " [.sign '*'] := ⟨rfl, rfl, rfl⟩
  have hplus : Separates " + " [.sign '+'] := ⟨rfl, rfl, rfl⟩
  have hminus : Separates " - " [.sign '-'] := ⟨rfl, rfl, rfl⟩
  have hradians {text : List Char} {value : Meaning}
      (htext : Denotes text [value]) :
      Denotes (called "radians" text) [.call "radians" [value]] :=
    ⟨_, htext.call "radians" rfl, rfl⟩
  have hmeridian : Denotes _ [.call "-" [.call "radians" [longitude'],
      .call "radians" [centerLongitude']]] :=
    ⟨_, hminus.between (hlongitude.call "radians" rfl)
      (hcenterLongitude.call "radians" rfl), rfl⟩
  have hcosines := htimes.between
    ((hradians hcenterLatitude).call "cos" rfl)
    (htimes.between ((hradians hlatitude).call "cos" rfl)
      (hmeridian.call "cos" rfl))
  have hsines := htimes.between
    ((hradians hcenterLatitude).call "sin" rfl)
    ((hradians hlatitude).call "sin" rfl)
  have hlowest : Reads "-1.0, ".toList [.sign '-', .number ['1'], .sign '.',
    .number ['0'], .sign ','] := rfl
  have hone : Reads "1.0, ".toList [.number ['1'], .sign '.',
    .number ['0'], .sign ','] := rfl
  have hgreatest : Denotes _ _ := ⟨_, hlowest.append
    (hplus.between hcosines hsines) (apart_of_last rfl), rfl⟩
  have hleast : Denotes _ _ := ⟨_, hone.append
    (hgreatest.call "GREATEST" rfl) (apart_of_last rfl), rfl⟩
  have hbounded : Denotes _ [.call "LEAST" _] :=
    ⟨_, hleast.call "LEAST" rfl, rfl⟩
  have hradius : Reads "6371.0 * ".toList [.number "6371".toList, .sign '.',
    .number ['0'], .sign '*'] := rfl
  exact ⟨_, hradius.append (hbounded.call "acos" rfl) (apart_of_last rfl), rfl⟩

set_option maxRecDepth 2000 in
theorem chars_nearFragments (latitude longitude : Column) (start : Nat) :
    chars (nearFragments latitude longitude start) =
      '(' :: (latitude.sql.toList ++ (" IS NOT NULL AND ".toList ++
        (longitude.sql.toList ++ (" IS NOT NULL AND ".toList ++
          (distanceText latitude.sql.toList longitude.sql.toList
            ('$' :: Nat.toDigits 10 (start + 1))
            ('$' :: Nat.toDigits 10 (start + 2)) ++
          (" <= ".toList ++ '$' :: Nat.toDigits 10 (start + 3)))))) ++
        [')']) := by
  have htext (sql : String) : (Fragment.text sql).sql.toList = sql.toList := rfl
  unfold nearFragments distanceText called
  simp only [chars, List.flatMap_cons, List.flatMap_nil,
    Fragment.toList_placeholder, htext, String.toList_append,
    String.reduceToList, List.append_assoc, List.cons_append, List.nil_append,
    List.append_nil]

/-- The text of a test of the distance reads as one piece. -/
theorem reads_near {latitude longitude : Column} (start : Nat)
    (hlatitude : latitude.WellNamed) (hlongitude : longitude.WellNamed) :
    Reads (chars (nearFragments latitude longitude start))
      [.group (.values
        [nearMeaning latitude.meaning longitude.meaning start])] := by
  obtain ⟨bounded, hdistance, hbounded⟩ := reads_distance
    (Column.denotes hlatitude) (Column.denotes hlongitude)
    (denotes_placeholder (start + 1)) (denotes_placeholder (start + 2))
  have hpresent : Separates " IS NOT NULL AND " [.keyword .isWord,
    .keyword .notWord, .keyword .null, .keyword .andWord] := ⟨rfl, rfl, rfl⟩
  have hatMost : Separates " <= " [.sign '<', .sign '='] := ⟨rfl, rfl, rfl⟩
  have htest := hpresent.between (Column.reads hlatitude)
    (hpresent.between (Column.reads hlongitude)
      (hatMost.between hdistance (reads_placeholder (start + 3))))
  rw [chars_nearFragments]
  apply htest.group
  rw [nearMeaning, hbounded]
  cases latitude <;> cases longitude <;> rfl

/-! ## The texts of clauses -/

namespace Clause

variable {α : Type}

theorem toList_sql (start : Nat) (clause : Clause α) :
    (clause.sql start).toList = chars (clause.fragments start) := by
  rw [sql, toList_join, List.flatMap_map]
  rfl

theorem chars_group (separator : String) {parts : List (List Fragment)}
    (hparts : parts ≠ []) :
    chars (group separator parts) =
      '(' :: (chars (separated separator parts) ++ [')']) := by
  have hempty : parts.isEmpty = false := by simpa using hparts
  rw [group, hempty]
  simp [chars, Fragment.sql]

theorem partFragments_ne_nil (start : Nat) {parts : List (Clause α)}
    (hparts : parts ≠ []) : partFragments start parts ≠ [] := by
  cases parts with
  | nil => exact absurd rfl hparts
  | cons part others =>
    rw [partFragments]
    exact List.cons_ne_nil _ _

mutual

/-- The text of a clause reads as its pieces. -/
theorem reads_fragments (start : Nat) (clause : Clause α)
    (hcolumns : ∀ column ∈ clause.columns, column.WellNamed) :
    Reads (chars (clause.fragments start)) (clause.pieces start) := by
  match clause with
  | .always => rfl
  | .all [] => rfl
  | .any [] => rfl
  | .all (part :: others) =>
    have hne : part :: others ≠ [] := List.cons_ne_nil part others
    have hparts := reads_partFragments start (part :: others) hcolumns
    rw [fragments, chars_group _ (partFragments_ne_nil start hne)]
    exact (separates_and.reads_separated hparts).group
      (readContent?_parts start rfl hne (readExpression?_all start hne))
  | .any (part :: others) =>
    have hne : part :: others ≠ [] := List.cons_ne_nil part others
    have hparts := reads_partFragments start (part :: others) hcolumns
    rw [fragments, chars_group _ (partFragments_ne_nil start hne)]
    exact (separates_or.reads_separated hparts).group
      (readContent?_parts start rfl hne (readExpression?_any start hne))
  | .compare column relation value =>
    have hcolumn : column.WellNamed := hcolumns column (by simp [columns])
    have hrelation : Separates (" " ++ relation.sql ++ " ")
        (relationPieces relation) := by
      cases relation <;> exact ⟨rfl, rfl, rfl⟩
    have htext : chars (fragments start (.compare column relation value)) =
        column.sql.toList ++ ((" " ++ relation.sql ++ " ").toList ++
          '$' :: Nat.toDigits 10 (start + 1)) := by
      simp [fragments, chars, Fragment.sql, String.append_assoc]
    rw [htext, pieces, List.append_assoc]
    exact hrelation.between (Column.reads hcolumn) (reads_placeholder _)
  | .like column pattern =>
    have hcolumn : column.WellNamed := hcolumns column (by simp [columns])
    have hlike : Separates " LIKE " [.keyword .like] := ⟨rfl, rfl, rfl⟩
    have htext : chars (fragments start (.like column pattern)) =
        called "LOWER" column.sql.toList ++ (" LIKE ".toList ++
          '$' :: Nat.toDigits 10 (start + 1)) := by
      simp [fragments, chars, Fragment.sql, called]
    rw [htext]
    exact hlike.between ((Column.denotes hcolumn).call "LOWER" rfl)
      (reads_placeholder _)
  | .oneOf column [] => rfl
  | .oneOf column (value :: values) =>
    have hcolumn : column.WellNamed := hcolumns column (by simp [columns])
    have hin : Separates " IN " [.keyword .inWord] := ⟨rfl, rfl, rfl⟩
    have hcount : (value :: values).length ≠ 0 := Nat.succ_ne_zero _
    have hvalues := (separates_comma.reads_separated (reads_placeholders start
      (value :: values).length)).group (readContent?_parameters hcount)
    have htext : chars (fragments start (.oneOf column (value :: values))) =
        column.sql.toList ++ (" IN ".toList ++ '(' :: (chars (separated ", "
          (placeholders start (value :: values).length)) ++ [')'])) := by
      simp [fragments, chars, Fragment.sql]
    rw [htext]
    exact hin.between (Column.reads hcolumn) hvalues
  | .near latitude longitude _ _ _ =>
    exact reads_near start (hcolumns latitude (by simp [columns]))
      (hcolumns longitude (by simp [columns]))

theorem reads_partFragments (start : Nat) (parts : List (Clause α))
    (hcolumns : ∀ column ∈ partColumns parts, column.WellNamed) :
    List.Forall₂ (fun part pieces => Reads (chars part) pieces)
      (partFragments start parts) (partPieces start parts) := by
  match parts with
  | [] =>
    rw [partFragments, partPieces]
    exact .nil
  | part :: others =>
    have hpart := reads_fragments start part fun column hcolumn =>
      hcolumns column (by simp [partColumns, hcolumn])
    have hothers := reads_partFragments (start + part.values.length) others
      fun column hcolumn => hcolumns column (by simp [partColumns, hcolumn])
    rw [partFragments, partPieces]
    exact .cons hpart hothers

end

/-- The text of a clause is a condition that means what the clause says. -/
theorem readCondition?_sql (start : Nat) {clause : Clause α}
    (hcolumns : ∀ column ∈ clause.columns, column.WellNamed) :
    readCondition? (clause.sql start) = some (clause.meaning start) := by
  have hreads : Reads (clause.sql start).toList (clause.pieces start) := by
    rw [toList_sql]
    exact reads_fragments start clause hcolumns
  rw [readCondition?, readPieces?, hreads]
  exact readExpression?_pieces start clause

end Clause

/-! ## The columns of attributes -/

variable {entity : Entity}

theorem identifiers_of_collection? {name : String} {collection : Collection}
    (hcollection : entity.collection? name = some collection) :
    isIdentifier collection.table.toList = true ∧
      isIdentifier collection.name.toList = true ∧
        isIdentifier collection.foreignKey.toList = true ∧
          ∀ valueColumn ∈ collection.valueColumn,
            isIdentifier valueColumn.toList = true := by
  have hmem : collection ∈ entity.collections :=
    List.mem_of_find?_eq_some hcollection
  have hall : ∀ collection ∈ entity.collections,
      (isIdentifier collection.table.toList &&
        (isIdentifier collection.name.toList &&
          (isIdentifier collection.foreignKey.toList &&
            collection.valueColumn.all fun name =>
              isIdentifier name.toList))) = true := by
    cases entity <;> decide
  have hnames := hall collection hmem
  simp only [Bool.and_eq_true, Option.all_eq_true] at hnames
  exact hnames

theorem Column.wellNamed_of_collection? {name : String}
    {collection : Collection}
    (hcollection : entity.collection? name = some collection) :
    (Column.count collection).WellNamed ∧
      ∀ valueColumn ∈ collection.valueColumn,
        (Column.element collection valueColumn).WellNamed := by
  obtain ⟨htable, hname, hkey, hvalue⟩ :=
    identifiers_of_collection? hcollection
  constructor
  · exact ⟨htable, hkey⟩
  · intro valueColumn hcolumn
    exact ⟨hname, hvalue valueColumn hcolumn⟩

/-- Where two steps succeed, both of them do. -/
theorem exists_ok_of_bind {α β : Type} {first : Except LoweringError α}
    {next : α → Except LoweringError β} {result : β}
    (hbind : (first >>= next) = .ok result) :
    ∃ value, first = .ok value ∧ next value = .ok result := by
  cases first with
  | error fault => cases hbind
  | ok value => exact ⟨value, rfl, hbind⟩

theorem checkColumnName_ok {name : String} {result : Unit}
    (hcheck : checkColumnName name = .ok result) :
    isIdentifier name.toList = true := by
  rw [checkColumnName] at hcheck
  split at hcheck
  · assumption
  · cases hcheck

theorem Column.wellNamed_ofSegments {path head : String}
    {size : Option String} {column : Column}
    (hhead : isIdentifier head.toList = true)
    (hcolumn : ofSegments entity path head size = .ok column) :
    column.WellNamed := by
  rw [ofSegments.eq_def] at hcolumn
  split at hcolumn
  · cases hcolumn
    exact (wellNamed_of_collection? ‹_›).1
  · split at hcolumn
    · cases hcolumn
      exact (wellNamed_of_collection? ‹_›).2 _ ‹_›
    · cases hcolumn
  · cases hcolumn
    exact hhead
  · cases hcolumn

/-- Only identifiers get into the text of a column. -/
theorem Column.wellNamed_ofPath {path : String} {column : Column}
    (hcolumn : ofPath entity path = .ok column) : column.WellNamed := by
  rw [ofPath.eq_def] at hcolumn
  split at hcolumn
  · obtain ⟨_, hcheck, hrest⟩ := exists_ok_of_bind hcolumn
    exact wellNamed_ofSegments (checkColumnName_ok hcheck) hrest
  · obtain ⟨_, hcheck, hrest⟩ := exists_ok_of_bind hcolumn
    exact wellNamed_ofSegments (checkColumnName_ok hcheck) hrest
  · cases hcolumn

end CivicRegistry.Sql
