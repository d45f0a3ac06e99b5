import CivicRegistry.Proofs.Sql.Reading

/-!
# Reading clauses

The meaning of a clause is what it says of the parameters after the number at
which its placeholders start.  The pieces of its text are read as that meaning,
alone and among the parts of a group.
-/

namespace CivicRegistry.Sql

/-! ## Columns -/

namespace Column

/-- The names that the text of a column puts into quotes are identifiers. -/
def WellNamed : Column → Prop
  | .own name => isIdentifier name.toList = true
  | .element collection valueColumn =>
    isIdentifier collection.name.toList = true ∧
      isIdentifier valueColumn.toList = true
  | .count collection =>
    isIdentifier collection.table.toList = true ∧
      isIdentifier collection.foreignKey.toList = true

/-- The number of tuples of a collection that refer to the tuple of `t`. -/
def sizeOf (collection : Collection) : Select where
  distinct := false
  items := [.countAll "count"]
  table := collection.table
  source := "c"
  joins := []
  condition := some (.compare .equal (.column "c" collection.foreignKey)
    (.column "t" "id"))
  keys := []
  limit := none
  offset := 0

def meaning : Column → Meaning
  | .own name => .column "t" name
  | .element collection valueColumn => .column collection.name valueColumn
  | .count collection => (sizeOf collection).scalar

def pieces : Column → List Piece
  | .own name => [.word "t", .sign '.', .name name]
  | .element collection valueColumn =>
    [.name collection.name, .sign '.', .name valueColumn]
  | .count collection => [.group (.query (sizeOf collection))]

end Column

/-! ## What clauses say -/

/-- A condition that is true, as it is written. -/
def truism : Meaning :=
  .compare .equal (.constant (.integer 1)) (.constant (.integer 1))

/-- A condition that is false, as it is written. -/
def falsity : Meaning :=
  .compare .equal (.constant (.integer 1)) (.constant (.integer 0))

/-- The parameters with the numbers after `start`. -/
def parameters (start count : Nat) : List Meaning :=
  (List.range count).map fun i => .parameter (start + i + 1)

/-- The distance of a point from a centre, by the law of cosines. -/
def distance (latitude longitude centerLatitude centerLongitude : Meaning) :
    Meaning :=
  let radians (degrees : Meaning) := Meaning.call "radians" [degrees]
  let meridian := Meaning.call "-" [radians longitude, radians centerLongitude]
  let cosines := Meaning.call "*" [.call "*" [
    .call "cos" [radians centerLatitude], .call "cos" [radians latitude]],
    .call "cos" [meridian]]
  let sines := Meaning.call "*" [
    .call "sin" [radians centerLatitude], .call "sin" [radians latitude]]
  let lowest := Meaning.call "-" [.constant (.float 1.0)]
  let bounded := Meaning.call "LEAST" [.constant (.float 1.0),
    .call "GREATEST" [lowest, .call "+" [cosines, sines]]]
  .call "*" [.constant (.float 6371.0), .call "acos" [bounded]]

/-- The point of two columns is at most the last parameter away from the
centre of the first two. -/
def nearMeaning (latitude longitude : Meaning) (start : Nat) : Meaning :=
  .conjunction [.isPresent latitude, .isPresent longitude,
    .compare .atMost (distance latitude longitude (.parameter (start + 1))
      (.parameter (start + 2))) (.parameter (start + 3))]

namespace Clause

variable {α : Type}

mutual

/-- The meaning of a clause whose values are the parameters after `start`. -/
def meaning (start : Nat) : Clause α → Meaning
  | .always => truism
  | .all parts =>
    if parts.isEmpty then truism
    else .conjunction (partMeanings start parts)
  | .any parts =>
    if parts.isEmpty then truism
    else .disjunction (partMeanings start parts)
  | .compare column relation _ =>
    .compare relation column.meaning (.parameter (start + 1))
  | .like column _ =>
    .isLike (.call "LOWER" [column.meaning]) (.parameter (start + 1))
  | .oneOf column values =>
    if values.isEmpty then falsity
    else .isOneOf column.meaning fun scope =>
      (parameters start values.length).map fun choice => choice scope
  | .near latitude longitude _ _ _ =>
    nearMeaning latitude.meaning longitude.meaning start

def partMeanings (start : Nat) : List (Clause α) → List Meaning
  | [] => []
  | part :: others =>
    part.meaning start :: partMeanings (start + part.values.length) others

end

/-- The signs of a relation. -/
def relationPieces : Relation → List Piece
  | .equal => [.sign '=']
  | .atLeast => [.sign '>', .sign '=']
  | .atMost => [.sign '<', .sign '=']

/-- The pieces of a clause: groups are one piece each. -/
def pieces (start : Nat) : Clause α → List Piece
  | .always => [.number ['1'], .sign '=', .number ['1']]
  | .all parts =>
    if parts.isEmpty then [.number ['1'], .sign '=', .number ['1']]
    else [.group (.values [.conjunction (partMeanings start parts)])]
  | .any parts =>
    if parts.isEmpty then [.number ['1'], .sign '=', .number ['1']]
    else [.group (.values [.disjunction (partMeanings start parts)])]
  | .compare column relation _ =>
    column.pieces ++ relationPieces relation ++ [.parameter (start + 1)]
  | .like column _ =>
    [.word "LOWER", .group (.values [column.meaning]), .keyword .like,
      .parameter (start + 1)]
  | .oneOf column values =>
    if values.isEmpty then [.number ['1'], .sign '=', .number ['0']]
    else column.pieces ++
      [.keyword .inWord, .group (.values (parameters start values.length))]
  | .near latitude longitude _ _ _ => [.group (.values
    [nearMeaning latitude.meaning longitude.meaning start])]

def partPieces (start : Nat) : List (Clause α) → List (List Piece)
  | [] => []
  | part :: others =>
    part.pieces start :: partPieces (start + part.values.length) others

/-- The pieces of a clause are read as its meaning. -/
theorem readTest?_pieces (start : Nat) (clause : Clause α) :
    readTest? (clause.pieces start) = some (clause.meaning start) := by
  cases clause with
  | always => rfl
  | all parts => cases parts <;> rfl
  | any parts => cases parts <;> rfl
  | compare column relation value =>
    cases column <;> cases relation <;> rfl
  | like column pattern => rfl
  | oneOf column values => cases values <;> cases column <;> rfl
  | near latitude longitude centerLatitude centerLongitude radius => rfl

end Clause

/-! ## Lists with separators -/

section

variable {α : Type} {mark : α}

theorem forall_mem_intercalate {P : α → Prop} (hmark : P mark)
    {parts : List (List α)} (hparts : ∀ part ∈ parts, ∀ x ∈ part, P x) :
    ∀ x ∈ [mark].intercalate parts, P x := by
  induction parts with
  | nil => simp
  | cons part others ih =>
    rw [List.forall_mem_cons] at hparts
    obtain ⟨hpart, hothers⟩ := hparts
    cases others with
    | nil => simpa using hpart
    | cons second others =>
      intro x hx
      rw [List.intercalate_cons_cons, List.mem_append, List.mem_append,
        List.mem_singleton] at hx
      rcases hx with (hx | rfl) | hx
      · exact hpart x hx
      · exact hmark
      · exact ih hothers x hx

/-- Lists put together with a mark between them are found again. -/
theorem splitOnP_intercalate {p : α → Bool} (hmark : p mark = true)
    {parts : List (List α)} (hne : parts ≠ [])
    (hparts : ∀ part ∈ parts, ∀ x ∈ part, p x = false) :
    ([mark].intercalate parts).splitOnP p = parts := by
  induction parts with
  | nil => exact absurd rfl hne
  | cons part others ih =>
    rw [List.forall_mem_cons] at hparts
    obtain ⟨hpart, hothers⟩ := hparts
    cases others with
    | nil => simpa using List.splitOnP_eq_singleton hpart
    | cons second others =>
      rw [List.intercalate_cons_cons, List.append_assoc, List.singleton_append,
        List.splitOnP_append_cons_of_forall_mem hpart mark hmark,
        ih (List.cons_ne_nil second others) hothers]

end

/-! ## Reading clauses -/

/-- The pieces of conditions: no comma and no star, and no keyword but those of
tests. -/
def Piece.isPlain : Piece → Bool
  | .keyword .like => true
  | .keyword .inWord => true
  | .keyword _ => false
  | .sign char => char != ',' && char != '*'
  | _ => true

namespace Clause

variable {α : Type}

theorem pieces_ne_nil (start : Nat) (clause : Clause α) :
    clause.pieces start ≠ [] := by
  cases clause with
  | all parts => cases parts <;> exact List.cons_ne_nil _ _
  | any parts => cases parts <;> exact List.cons_ne_nil _ _
  | compare column relation value => simp [pieces]
  | oneOf column values => cases values <;> simp [pieces]
  | always | like | near => exact List.cons_ne_nil _ _

theorem isPlain_of_mem_pieces {start : Nat} {clause : Clause α} :
    ∀ piece ∈ clause.pieces start, piece.isPlain = true := by
  have hcolumn : ∀ column : Column, ∀ piece ∈ column.pieces,
      piece.isPlain = true := by
    intro column
    cases column <;> simp [Column.pieces, Piece.isPlain]
  have hrelation : ∀ relation, ∀ piece ∈ relationPieces relation,
      piece.isPlain = true := by
    intro relation
    cases relation <;> simp [relationPieces, Piece.isPlain]
  cases clause with
  | all parts => cases parts <;> simp [pieces, Piece.isPlain]
  | any parts => cases parts <;> simp [pieces, Piece.isPlain]
  | compare column relation value =>
    intro piece hpiece
    simp only [pieces, List.mem_append, List.mem_singleton] at hpiece
    rcases hpiece with (hpiece | hpiece) | rfl
    · exact hcolumn column piece hpiece
    · exact hrelation relation piece hpiece
    · rfl
  | oneOf column values =>
    cases values with
    | nil => simp [pieces, Piece.isPlain]
    | cons value values =>
      intro piece hpiece
      simp only [pieces, List.isEmpty_cons, Bool.false_eq_true, if_false,
        List.mem_append, List.mem_cons, List.not_mem_nil, or_false] at hpiece
      rcases hpiece with hpiece | rfl | rfl
      · exact hcolumn column piece hpiece
      · rfl
      · rfl
  | always | like | near => simp [pieces, Piece.isPlain]

end Clause

/-! ## Reading conditions -/

namespace Piece

variable {piece : Piece}

theorem isSign_comma_of_isPlain (hplain : piece.isPlain = true) :
    piece.isSign ',' = false := by
  cases piece with
  | sign char =>
    have hchar := hplain
    simp only [isPlain, Bool.and_eq_true, bne_iff_ne] at hchar
    simpa [isSign] using hchar.1
  | keyword | word | name | number | parameter | group => rfl

theorem isKeyword_of_isPlain {keyword : Keyword}
    (hkeyword : isPlain (.keyword keyword) = false)
    (hplain : piece.isPlain = true) : piece.isKeyword keyword = false := by
  cases piece with
  | keyword other =>
    have hne : other ≠ keyword := by
      rintro rfl
      rw [hplain] at hkeyword
      cases hkeyword
    simpa [isKeyword] using hne
  | sign | word | name | number | parameter | group => rfl

end Piece

/-- Pieces without a comma are one expression in a list. -/
theorem readList?_of_readExpression? {pieces : List Piece} {meaning : Meaning}
    (hplain : ∀ piece ∈ pieces, piece.isSign ',' = false)
    (hread : readExpression? pieces = some meaning) :
    readList? pieces = some [meaning] := by
  rw [readList?, List.splitOnP_eq_singleton hplain]
  simp [hread]

/-- What does not begin with a keyword or a star is a list of expressions. -/
theorem readContent?_cons {first : Piece} {rest : List Piece}
    (hplain : first.isPlain = true) :
    readContent? (first :: rest) =
      (readList? (first :: rest)).map .values := by
  cases first with
  | keyword keyword => cases keyword <;> first | rfl | cases hplain
  | sign char =>
    have hstar : char ≠ '*' := by
      rintro rfl
      cases hplain
    rw [readContent?.eq_def]
    split <;> simp_all
  | word | name | number | parameter | group => rfl

namespace Clause

variable {α : Type} (start : Nat)

theorem readConjunction?_pieces (clause : Clause α) :
    readConjunction? (clause.pieces start) = some (clause.meaning start) := by
  have hand : ∀ piece ∈ clause.pieces start,
      piece.isKeyword .andWord = false := fun piece hpiece =>
    Piece.isKeyword_of_isPlain rfl (isPlain_of_mem_pieces piece hpiece)
  rw [readConjunction?, List.splitOnP_eq_singleton hand]
  simp [readTest?_pieces, Meaning.conjunction]

/-- The pieces of a clause are read as its meaning also where expressions are
read. -/
theorem readExpression?_pieces (clause : Clause α) :
    readExpression? (clause.pieces start) = some (clause.meaning start) := by
  have hor : ∀ piece ∈ clause.pieces start,
      piece.isKeyword .orWord = false := fun piece hpiece =>
    Piece.isKeyword_of_isPlain rfl (isPlain_of_mem_pieces piece hpiece)
  rw [readExpression?, List.splitOnP_eq_singleton hor]
  simp [readConjunction?_pieces, Meaning.disjunction]

theorem mapM_readTest?_partPieces (parts : List (Clause α)) :
    (partPieces start parts).mapM readTest? =
      some (partMeanings start parts) := by
  induction parts generalizing start with
  | nil => rfl
  | cons part others ih =>
    simp [partPieces, partMeanings, readTest?_pieces, ih]

theorem mapM_readConjunction?_partPieces (parts : List (Clause α)) :
    (partPieces start parts).mapM readConjunction? =
      some (partMeanings start parts) := by
  induction parts generalizing start with
  | nil => rfl
  | cons part others ih =>
    simp [partPieces, partMeanings, readConjunction?_pieces, ih]

theorem isPlain_of_mem_partPieces (parts : List (Clause α)) :
    ∀ pieces ∈ partPieces start parts, ∀ piece ∈ pieces,
      piece.isPlain = true := by
  induction parts generalizing start with
  | nil => simp [partPieces]
  | cons part others ih =>
    rw [partPieces, List.forall_mem_cons]
    exact ⟨isPlain_of_mem_pieces, ih _⟩

variable {parts : List (Clause α)}

theorem partPieces_ne_nil (hparts : parts ≠ []) :
    partPieces start parts ≠ [] := by
  cases parts with
  | nil => exact absurd rfl hparts
  | cons part others => exact List.cons_ne_nil _ _

/-- No part has a piece in it that is not plain. -/
theorem splitOnP_partPieces {p : Piece → Bool} {mark : Piece}
    (hmark : p mark = true) (hparts : parts ≠ [])
    (hp : ∀ piece : Piece, piece.isPlain = true → p piece = false) :
    ([mark].intercalate (partPieces start parts)).splitOnP p =
      partPieces start parts := by
  apply splitOnP_intercalate hmark (partPieces_ne_nil start hparts)
  intro pieces hpieces piece hpiece
  exact hp piece (isPlain_of_mem_partPieces start parts pieces hpieces
    piece hpiece)

/-- Parts with `AND` between them are read as all of them. -/
theorem readExpression?_all (hparts : parts ≠ []) :
    readExpression? ([.keyword .andWord].intercalate
      (partPieces start parts)) =
        some (.conjunction (partMeanings start parts)) := by
  have hor : ∀ piece ∈ [.keyword .andWord].intercalate
      (partPieces start parts), piece.isKeyword .orWord = false := by
    apply forall_mem_intercalate
    · rfl
    · intro pieces hpieces piece hpiece
      exact Piece.isKeyword_of_isPlain rfl
        (isPlain_of_mem_partPieces start parts pieces hpieces piece hpiece)
  have hand := @splitOnP_partPieces α start parts (Piece.isKeyword .andWord)
    (.keyword .andWord) rfl hparts fun _ => Piece.isKeyword_of_isPlain rfl
  rw [readExpression?, List.splitOnP_eq_singleton hor]
  simp [readConjunction?, hand, mapM_readTest?_partPieces,
    Meaning.disjunction]

/-- Parts with `OR` between them are read as any of them. -/
theorem readExpression?_any (hparts : parts ≠ []) :
    readExpression? ([.keyword .orWord].intercalate
      (partPieces start parts)) =
        some (.disjunction (partMeanings start parts)) := by
  have hor := @splitOnP_partPieces α start parts (Piece.isKeyword .orWord)
    (.keyword .orWord) rfl hparts fun _ => Piece.isKeyword_of_isPlain rfl
  rw [readExpression?, hor, mapM_readConjunction?_partPieces]
  rfl

/-- Parts with a mark between them are the one value that they are read as. -/
theorem readContent?_parts {mark : Piece} {meaning : Meaning}
    (hmark : mark.isSign ',' = false) (hparts : parts ≠ [])
    (hread : readExpression? ([mark].intercalate (partPieces start parts)) =
      some meaning) :
    readContent? ([mark].intercalate (partPieces start parts)) =
      some (.values [meaning]) := by
  have hcomma : ∀ piece ∈ [mark].intercalate (partPieces start parts),
      piece.isSign ',' = false := by
    apply forall_mem_intercalate
    · exact hmark
    · intro pieces hpieces piece hpiece
      exact Piece.isSign_comma_of_isPlain
        (isPlain_of_mem_partPieces start parts pieces hpieces piece hpiece)
  have hlist := readList?_of_readExpression? hcomma hread
  obtain ⟨first, rest, hfirst, hplain⟩ : ∃ first rest,
      [mark].intercalate (partPieces start parts) = first :: rest ∧
        first.isPlain = true := by
    cases parts with
    | nil => exact absurd rfl hparts
    | cons part others =>
      cases hpieces : part.pieces start with
      | nil => exact absurd hpieces (pieces_ne_nil start part)
      | cons first rest =>
        have hplain : first.isPlain = true := by
          apply @isPlain_of_mem_pieces α start part
          rw [hpieces]
          exact List.mem_cons_self
        cases others with
        | nil => exact ⟨first, rest, by simp [partPieces, hpieces], hplain⟩
        | cons second others =>
          exact ⟨first, _, by
            rw [partPieces, partPieces, List.intercalate_cons_cons, hpieces]
            rfl, hplain⟩
  rw [hfirst] at hlist ⊢
  rw [readContent?_cons hplain, hlist]
  rfl

end Clause

/-! ## Placeholders -/

/-- Placeholders with commas between them are the parameters. -/
theorem readContent?_parameters {start count : Nat} (hcount : count ≠ 0) :
    readContent? ([.sign ','].intercalate ((List.range count).map fun i =>
      [.parameter (start + i + 1)])) =
        some (.values (parameters start count)) := by
  let placeholder (i : Nat) : List Piece := [.parameter (start + i + 1)]
  have hlist : readList? ([.sign ','].intercalate
      ((List.range count).map placeholder)) =
        some (parameters start count) := by
    have hsplit : ([.sign ','].intercalate ((List.range count).map
        placeholder)).splitOnP (Piece.isSign ',') =
          (List.range count).map placeholder := by
      apply splitOnP_intercalate rfl
      · simpa using hcount
      · simp [placeholder, Piece.isSign]
    have hread : ∀ numbers : List Nat,
        (numbers.map placeholder).mapM readExpression? =
          some (numbers.map fun i => .parameter (start + i + 1)) := by
      intro numbers
      induction numbers with
      | nil => rfl
      | cons i others ih =>
        have hi : readExpression? (placeholder i) =
            some (.parameter (start + i + 1)) := rfl
        simp [hi, ih]
    rw [readList?, hsplit, hread]
    rfl
  obtain ⟨rest, hrest⟩ : ∃ rest, [.sign ','].intercalate
      ((List.range count).map placeholder) =
        .parameter (start + 1) :: rest := by
    cases count with
    | zero => exact absurd rfl hcount
    | succ count =>
      rw [List.range_succ_eq_map, List.map_cons]
      cases (List.range count).map Nat.succ with
      | nil => exact ⟨[], rfl⟩
      | cons second others => exact ⟨_, rfl⟩
  show readContent? ([.sign ','].intercalate
    ((List.range count).map placeholder)) = _
  rw [hrest] at hlist ⊢
  rw [readContent?_cons rfl, hlist]
  rfl

end CivicRegistry.Sql
