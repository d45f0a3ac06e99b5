import CivicRegistry.Proofs.Ranking
import CivicRegistry.Proofs.Sql.Selection

/-!
# What the statements of a search answer

Over tables that hold some rows, each once, the counting statement answers how
many of them the predicate holds of, and the listing statement answers their
tuples in the order of the rows.  A row that is joined to several tuples is
selected several times, and it is counted and listed once all the same.
-/

namespace CivicRegistry.Sql

variable {entity : Entity}

/-! ## Searches -/

/-- What is in one of two related lists is related to something in the other. -/
theorem exists_of_mem_left {α β : Type} {related : α → β → Prop}
    {left : List α} {right : List β}
    (hrelated : List.Forall₂ related left right) {x : α} (hx : x ∈ left) :
    ∃ y ∈ right, related x y := by
  induction hrelated with
  | nil => cases hx
  | @cons first other left right hfirst _ ih =>
    rcases List.mem_cons.mp hx with rfl | hrest
    · exact ⟨other, List.mem_cons_self, hfirst⟩
    · obtain ⟨y, hy, hxy⟩ := ih hrest
      exact ⟨y, List.mem_cons_of_mem other hy, hxy⟩

/-- The tables hold some rows, each under an identifier of its own. -/
structure HoldsRows (tables : String → List Tuple) (rows : List (Row entity)) :
    Prop where
  stored : List.Forall₂ (Stored tables) (tables entity.name) rows
  distinct : (rows.map Row.id).Nodup

/-- A scope in which the clause of a predicate is looked for in some rows, where
neither the rows nor the predicate hold what is not a number. -/
structure Searches (scope : Scope) (predicate : Predicate entity.Field)
    (clause : Clause Value) (rows : List (Row entity)) : Prop where
  lowered : ofPredicate predicate = .ok clause
  properRows : ∀ row ∈ rows, row.IsProper
  rows : HoldsRows scope.tables rows
  proper : predicate.IsProper
  supplies : scope.Supplies 0 clause.values
  agrees : ∀ circle ∈ predicate.circles, AgreesOn scope.functions circle
  populated : predicate.Populated
  separate : predicate.Separate

/-- A tuple that is bound is still one of the row. -/
theorem Stored.bind {scope : Scope} {tuple : Tuple} {row : Row entity}
    (hstored : Stored scope.tables tuple row) :
    Stored (scope.bind "t" tuple).tables ((scope.bind "t" tuple).sources "t")
      row := by
  rwa [Scope.bind_tables, Scope.bind_sources_self]

theorem Stored.tuple_id {tables : String → List Tuple} {tuple : Tuple}
    {row : Row entity} (hstored : Stored tables tuple row) :
    tuple.id = row.id := by
  rw [Tuple.id, hstored.column_id]

namespace HoldsRows

variable {tables : String → List Tuple} {rows : List (Row entity)}

/-- Different rows have different identifiers. -/
theorem eq_of_id (hrows : HoldsRows tables rows) {left right : Row entity}
    (hleft : left ∈ rows) (hright : right ∈ rows) (hid : left.id = right.id) :
    left = right :=
  List.inj_on_of_nodup_map hrows.distinct hleft hright hid

/-- The tuples of the rows have identifiers of their own. -/
theorem identified (hrows : HoldsRows tables rows) :
    Identified (tables entity.name) := by
  obtain ⟨hstored, hdistinct⟩ := hrows
  have hids : (tables entity.name).map Tuple.id = rows.map Row.id := by
    rw [← List.forall₂_eq_eq_eq, List.forall₂_map_left_iff,
      List.forall₂_map_right_iff]
    exact hstored.imp fun _ _ htuple => htuple.tuple_id
  constructor
  · intro tuple htuple
    obtain ⟨row, -, hrow⟩ := exists_of_mem_left hstored htuple
    exact ⟨row.id, hrow.column_id⟩
  · rwa [hids]

end HoldsRows

namespace Searches

variable {scope : Scope} {predicate : Predicate entity.Field}
  {clause : Clause Value} {rows : List (Row entity)}

/-- The tuples are those of the rows, and the rows are proper. -/
theorem forall₂_stored (hsearches : Searches scope predicate clause rows) :
    List.Forall₂ (fun tuple row => row.IsProper ∧ Stored scope.tables tuple row)
      (scope.tables entity.name) rows := by
  have hboth := (List.forall₂_and_left _ _).mpr
    ⟨hsearches.properRows, hsearches.rows.stored.flip⟩
  exact hboth.flip

/-- The clause chooses the tuples of the rows that the predicate holds of. -/
theorem chooses_eq_holds (hsearches : Searches scope predicate clause rows)
    {tuple : Tuple} {row : Row entity} (hrow : row.IsProper)
    (hstored : Stored scope.tables tuple row) :
    clause.chooses scope tuple = predicate.holds row := by
  have hselects : clause.Selects 0 (scope.bind "t" tuple) ↔
      clause.chooses scope tuple = true := by
    rw [Clause.chooses_iff, Clause.Selects, Clause.readCondition?_sql 0
      (wellNamed_ofPredicate hsearches.lowered)]
    simp
  rw [Bool.eq_iff_iff, ← hselects]
  constructor
  · exact holds_of_selects hsearches.lowered hstored.bind hsearches.supplies
      hsearches.agrees (hrow.on _) hsearches.proper hsearches.populated
  · exact selects_of_holds hsearches.lowered hstored.bind hsearches.supplies
      hsearches.agrees (hrow.on _) hsearches.proper hsearches.separate

/-- The chosen tuples are those of the rows that the predicate holds of. -/
theorem forall₂_chosen (hsearches : Searches scope predicate clause rows) :
    List.Forall₂ (fun tuple row => row.IsProper ∧ Stored scope.tables tuple row)
      (clause.chosen entity scope) (rows.filter predicate.holds) := by
  apply List.rel_filter _ hsearches.forall₂_stored
  rintro tuple row ⟨hrow, hstored⟩
  exact Bool.eq_iff_iff.mp (hsearches.chooses_eq_holds hrow hstored)

/-- The counting statement answers how many rows the predicate holds of. -/
theorem answer_count {answer : Answer} {distinct : Bool}
    (hsearches : Searches scope predicate clause rows) :
    (sourceSelect ⟨entity, answer, distinct, clause⟩ false
      [countItem ⟨entity, answer, distinct, clause⟩]).answer scope =
        [[("count",
          some (.integer (rows.filter predicate.holds).length))]] := by
  rw [Sql.answer_count hsearches.lowered hsearches.rows.identified,
    hsearches.forall₂_chosen.length_eq]

end Searches

/-! ## Orders -/

section

variable {field : entity.Field} {direction : Direction} {order : SortClause}

/-- Only an attribute that is no list gives an order. -/
theorem SortClause.exists_column
    (horder : ofField field direction = .ok order) :
    ∃ column, Column.ofField field = .ok column ∧
      Entity.isCollected field = false ∧
        order = ⟨column, direction, (Entity.info field).path == "id"⟩ := by
  obtain ⟨column, hcolumn, hrest⟩ := exists_ok_of_bind horder
  have hcollected := joined?_isSome hcolumn
  cases column with
  | element => cases hrest
  | own | count =>
    cases hrest
    exact ⟨_, hcolumn, hcollected.symm, rfl⟩

/-- An attribute that is no list gives an order. -/
theorem SortClause.exists_ofField (hfield : Entity.isCollected field = false) :
    ∃ order, ofField field direction = .ok order := by
  obtain ⟨column, _, hcolumn⟩ := Column.exists_ofField field
  have hcollected := joined?_isSome hcolumn
  rw [hfield] at hcollected
  rw [ofField, hcolumn]
  cases column with
  | element => cases hcollected
  | own | count => exact ⟨_, rfl⟩

theorem SortClause.wellNamed_column
    (horder : ofField field direction = .ok order) :
    order.column.WellNamed := by
  obtain ⟨column, hcolumn, _, rfl⟩ := exists_column horder
  exact Column.wellNamed_ofPath hcolumn

theorem eq_idField_of_path (hpath : (Entity.info field).path = "id") :
    field = entity.idField := by
  have hall : ∀ field ∈ entity.fields, (Entity.info field).path = "id" →
      field = entity.idField := by
    cases entity <;> decide
  exact hall field (Enumeration.mem_all field) hpath

/-- The keys of a listing order the tuples of rows as the rows are ordered. -/
theorem order_keys (horder : SortClause.ofField field direction = .ok order)
    {left right : Scope} {first second : Row entity}
    (hfirst : first.IsProper) (hsecond : second.IsProper)
    (hleft : Stored left.tables (left.sources "t") first)
    (hright : Stored right.tables (right.sources "t") second) :
    SortKey.order order.keys left right =
      Ranking.order field direction first second := by
  obtain ⟨column, hcolumn, hcollected, rfl⟩ := SortClause.exists_column horder
  have hvalue : ∀ {scope : Scope} {row : Row entity},
      Stored scope.tables (scope.sources "t") row →
        column.meaning scope = row.get field := by
    intro scope row hstored
    rw [Column.meaning_ofField hcolumn, hstored.view_eq_get hcollected]
  have hkey : SortKey.valueOrder ⟨column.meaning, direction, true⟩
      (column.meaning left) (column.meaning right) =
        Ranking.valueOrder direction (first.get field) (second.get field) := by
    rw [hvalue hleft, hvalue hright]
    cases hone : first.get field with
    | none => cases second.get field <;> rfl
    | some one =>
      cases hother : second.get field with
      | none => rfl
      | some other =>
        rw [SortKey.valueOrder, orderOf_proper (hfirst field one hone)
          (hsecond field other hother)]
        rfl
  have hid : SortKey.valueOrder (identifierKey direction)
      (Meaning.column "t" "id" left) (Meaning.column "t" "id" right) =
        direction.apply (first.id.compare second.id) := by
    rw [Meaning.column, Meaning.column, hleft.column_id, hright.column_id]
    rfl
  rw [SortClause.keys, Ranking.order]
  cases hpath : (Entity.info field).path == "id" with
  | false =>
    show (SortKey.valueOrder _ _ _).then
      ((SortKey.valueOrder (identifierKey direction) _ _).then .eq) = _
    rw [hkey, Ordering.then_eq, ← hid]
    rfl
  | true =>
    obtain rfl := eq_idField_of_path (eq_of_beq hpath)
    show (SortKey.valueOrder _ _ _).then .eq = _
    rw [hkey, Row.get_idField, Row.get_idField]
    show (direction.apply (first.id.compare second.id)).then .eq =
      (direction.apply (first.id.compare second.id)).then
        (direction.apply (first.id.compare second.id))
    cases direction.apply (first.id.compare second.id) <;> rfl

end

/-- Related lists stay related when both are sorted alike. -/
theorem forall₂_mergeSort {α β : Type} {related : α → β → Prop}
    {le : α → α → Bool} {le' : β → β → Bool} {left : List α} {right : List β}
    (hrelated : List.Forall₂ related left right)
    (hle : ∀ {x y x' y'}, related x x' → related y y' → le x y = le' x' y') :
    List.Forall₂ related (left.mergeSort le) (right.mergeSort le') := by
  let pairs := left.zip right
  let leLeft (first second : α × β) : Bool := le first.1 second.1
  have hpairs : ∀ pair ∈ pairs, related pair.1 pair.2 := fun pair hpair =>
    List.forall₂_zip hrelated hpair
  have hleft : (pairs.mergeSort leLeft).map Prod.fst =
      (pairs.map Prod.fst).mergeSort le :=
    List.map_mergeSort fun _ _ _ _ => rfl
  have hright : (pairs.mergeSort leLeft).map Prod.snd =
      (pairs.map Prod.snd).mergeSort le' :=
    List.map_mergeSort fun first hfirst second hsecond =>
      hle (hpairs first hfirst) (hpairs second hsecond)
  rw [List.map_fst_zip hrelated.length_eq.le] at hleft
  rw [List.map_snd_zip hrelated.length_eq.ge] at hright
  rw [← hleft, ← hright, List.forall₂_map_left_iff, List.forall₂_map_right_iff,
    List.forall₂_same]
  intro pair hpair
  exact hpairs pair (List.mem_mergeSort.mp hpair)

namespace Searches

variable {predicate : Predicate entity.Field} {clause : Clause Value}
  {scope : Scope} {rows : List (Row entity)} {answer : Answer} {distinct : Bool}
  {field : entity.Field} {direction : Direction} {order : SortClause}
  {window : Window}

/-- A listing goes over the tuples in the order of the rows. -/
theorem forall₂_ordered (hsearches : Searches scope predicate clause rows)
    (horder : SortClause.ofField field direction = .ok order) :
    List.Forall₂ (fun joined row => ∃ tuple, (row.IsProper ∧
        Stored scope.tables tuple row) ∧ joined = scope.bind "t" tuple)
      ((listingSelect ⟨entity, answer, distinct, clause⟩ order window).ordered
        scope)
      ((rows.filter predicate.holds).mergeSort fun left right =>
        (Ranking.order field direction left right).isLE) := by
  rw [Select.ordered, matching_listing hsearches.lowered
    hsearches.rows.identified rfl rfl rfl rfl]
  have hchosen : List.Forall₂ (fun joined row => ∃ tuple, (row.IsProper ∧
        Stored scope.tables tuple row) ∧ joined = scope.bind "t" tuple)
      ((clause.chosen entity scope).map (scope.bind "t"))
      (rows.filter predicate.holds) := by
    rw [List.forall₂_map_left_iff]
    exact hsearches.forall₂_chosen.imp fun tuple row hstored =>
      ⟨tuple, hstored, rfl⟩
  apply forall₂_mergeSort hchosen
  rintro _ _ first second ⟨left, ⟨hfirst, hleft⟩, rfl⟩
    ⟨right, ⟨hsecond, hright⟩, rfl⟩
  exact congrArg Ordering.isLE
    (order_keys horder hfirst hsecond hleft.bind hright.bind)

/-- The listing statement answers the tuples of a page of the rows. -/
theorem forall₂_answer_listing
    (hsearches : Searches scope predicate clause rows)
    (horder : SortClause.ofField field direction = .ok order) :
    List.Forall₂
      (fun tuple row => tuple.column "id" = some (.uuid (Row.id row)))
      ((listingSelect ⟨entity, answer, distinct, clause⟩ order window).answer
        scope)
      ((((rows.filter predicate.holds).mergeSort fun left right =>
        (Ranking.order field direction left right).isLE).drop
          window.offset).take window.count) := by
  let select := listingSelect ⟨entity, answer, distinct, clause⟩ order window
  have hitems : select.items.mapM (Item.counted? (select.ordered scope)) =
      none := mapM_counted?_selectItems _
  have hanswer : select.answer scope =
      (((select.ordered scope).map fun joined =>
        select.items.flatMap (Item.columns joined)).drop window.offset).take
          window.count := by
    rw [Select.answer, hitems]
    rfl
  rw [hanswer]
  apply List.forall₂_take
  apply List.forall₂_drop
  rw [List.forall₂_map_left_iff]
  apply (hsearches.forall₂_ordered horder).imp
  rintro _ row ⟨tuple, ⟨_, hstored⟩, rfl⟩
  show Tuple.column ((scope.bind "t" tuple).sources "t" ++ _) "id" = _
  rw [Scope.bind_sources_self]
  exact Tuple.column_append hstored.column_id

end Searches

end CivicRegistry.Sql
