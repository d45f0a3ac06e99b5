import CivicRegistry.Proofs.Sql.Lowering

/-!
# Stored rows

The tables of a database hold a row as a tuple of the table of its entity and
tuples of other tables that refer to it.  What a scope shows of the attributes,
with the collections of a clause joined to the tuple, is a view of the row, and
every view is shown by one of the scopes.
-/

namespace CivicRegistry.Sql

variable {entity : Entity}

/-- The tuples of a collection that refer to an identifier. -/
def partners (tables : String → List Tuple) (collection : Collection)
    (id : Uuid) : List Tuple :=
  (tables collection.table).filter fun tuple =>
    compared .equal (tuple.column collection.foreignKey) (some (.uuid id)) ==
      some true

/-- The tables hold a row as a tuple: the attributes of its own are the columns
of the tuple, and those that come from a collection agree with the tuples that
refer to it. -/
structure Stored (tables : String → List Tuple) (tuple : Tuple)
    (row : Row entity) : Prop where
  own : ∀ field : entity.Field, (Entity.info field).origin = .own →
    tuple.column (Entity.info field).column = row.get field
  size : ∀ (field : entity.Field) (name : String) (collection : Collection),
    (Entity.info field).origin = .sizeOf name →
    entity.collection? name = some collection →
    row.get field =
      some (.integer (partners tables collection row.id).length)
  elements : ∀ (field : entity.Field) (name : String) (collection : Collection)
      (valueColumn : String), (Entity.info field).origin = .elementsOf name →
    entity.collection? name = some collection →
    collection.valueColumn = some valueColumn →
    ∃ items, row.get field = some (.list items) ∧
      ((partners tables collection row.id).map
        (·.column valueColumn)).Perm (items.map some)

/-- A collection joined to the tuple of `t`. -/
def joinOf (collection : Collection) : Join where
  table := collection.table
  source := collection.name
  condition := .compare .equal (.column collection.name collection.foreignKey)
    (.column "t" "id")

/-! ## Scopes -/

namespace Scope

variable {scope : Scope} {source : String} {tuple : Tuple}

@[simp]
theorem bind_tables : (scope.bind source tuple).tables = scope.tables := rfl

@[simp]
theorem bind_parameters :
    (scope.bind source tuple).parameters = scope.parameters := rfl

@[simp]
theorem bind_functions :
    (scope.bind source tuple).functions = scope.functions := rfl

@[simp]
theorem bind_sources_self : (scope.bind source tuple).sources source = tuple :=
  if_pos rfl

theorem bind_sources_of_ne {other : String} (hne : other ≠ source) :
    (scope.bind source tuple).sources other = scope.sources other :=
  if_neg hne

end Scope

/-! ## Collections -/

theorem collection_name_ne {name : String} {collection : Collection}
    (hcollection : entity.collection? name = some collection) :
    collection.name ≠ "t" ∧ collection.name = name := by
  have hmem : collection ∈ entity.collections :=
    List.mem_of_find?_eq_some hcollection
  have hname := List.find?_some hcollection
  have hall : ∀ collection ∈ entity.collections, collection.name ≠ "t" := by
    cases entity <;> decide
  exact ⟨hall collection hmem, by simpa using hname⟩

theorem Stored.column_id {tables : String → List Tuple} {tuple : Tuple}
    {row : Row entity} (hstored : Stored tables tuple row) :
    tuple.column "id" = some (.uuid row.id) := by
  have horigin : (Entity.info entity.idField).origin = .own := by
    cases entity <;> rfl
  have hcolumn : (Entity.info entity.idField).column = "id" := by
    cases entity <;> rfl
  rw [← hcolumn, hstored.own _ horigin, Row.get_idField]

section

variable {scope : Scope} {collection : Collection} {id : Uuid}

/-- The tuples that a condition on the foreign key keeps. -/
theorem filter_referring (hid : (scope.sources "t").column "id" =
      some (.uuid id)) {source : String} (hsource : source ≠ "t") :
    ((scope.tables collection.table).map (scope.bind source)).filter
        (fun joined => (Meaning.compare .equal
          (.column source collection.foreignKey) (.column "t" "id")).truth
            joined == some true) =
      (partners scope.tables collection id).map (scope.bind source) := by
  rw [partners, List.filter_map]
  congr 1
  apply List.filter_congr
  intro tuple _
  have hkey : Meaning.column source collection.foreignKey
      (scope.bind source tuple) = tuple.column collection.foreignKey := by
    rw [Meaning.column, Scope.bind_sources_self]
  have hself : Meaning.column "t" "id" (scope.bind source tuple) =
      some (.uuid id) := by
    rw [Meaning.column, Scope.bind_sources_of_ne hsource.symm, hid]
  rw [Function.comp_apply, truth_compare, hkey, hself]

/-- A joined collection gives one scope for each tuple that refers to the row,
or one in which its columns are null. -/
theorem scopes_joinOf (hid : (scope.sources "t").column "id" =
      some (.uuid id)) (hname : collection.name ≠ "t") :
    (joinOf collection).scopes scope =
      if (partners scope.tables collection id).isEmpty
      then [scope.bind collection.name []]
      else (partners scope.tables collection id).map
        (scope.bind collection.name) := by
  rw [Join.scopes, joinOf, filter_referring hid hname, List.isEmpty_map]

/-- The size of a collection is the number of tuples that refer to the row. -/
theorem scalar_sizeOf (hid : (scope.sources "t").column "id" =
      some (.uuid id)) :
    (Column.sizeOf collection).scalar scope =
      some (.integer (partners scope.tables collection id).length) := by
  have hmatching : (Column.sizeOf collection).matching scope =
      (partners scope.tables collection id).map (scope.bind "c") := by
    rw [← filter_referring hid (by decide)]
    show ((scope.tables collection.table).flatMap fun tuple =>
      [scope.bind "c" tuple]).filter _ = _
    rw [← List.map_eq_flatMap]
    rfl
  have hlength : ((Column.sizeOf collection).ordered scope).length =
      (partners scope.tables collection id).length := by
    rw [Select.ordered, List.length_mergeSort, hmatching, List.length_map]
  rw [← hlength]
  rfl

end

/-! ## Views of stored rows -/

section

variable {scope : Scope} {row : Row entity}

/-- The collection of an attribute and the column of its values. -/
theorem exists_element {field : entity.Field}
    (hfield : Entity.isCollected field = true) :
    ∃ name collection valueColumn,
      (Entity.info field).origin = .elementsOf name ∧
        entity.collection? name = some collection ∧
          collection.valueColumn = some valueColumn ∧
            Column.ofOrigin? field =
              some (.element collection valueColumn) := by
  obtain ⟨column, hcolumn, _⟩ := Column.exists_ofField field
  rw [Entity.isCollected] at hfield
  unfold Column.ofOrigin? at hcolumn ⊢
  cases horigin : (Entity.info field).origin with
  | own | sizeOf =>
    rw [horigin] at hfield
    cases hfield
  | elementsOf name =>
    rw [horigin] at hcolumn
    obtain ⟨collection, hcollection, hrest⟩ :=
      Option.bind_eq_some_iff.mp hcolumn
    obtain ⟨valueColumn, hvalue, _⟩ := Option.bind_eq_some_iff.mp hrest
    exact ⟨name, collection, valueColumn, rfl, hcollection, hvalue, by
      simp [hcollection, hvalue]⟩

/-- What is no list is shown as it is. -/
theorem Stored.view_eq_get
    (hstored : Stored scope.tables (scope.sources "t") row)
    {field : entity.Field} (hfield : Entity.isCollected field = false) :
    scope.view field = row.get field := by
  obtain ⟨column, hcolumn, _⟩ := Column.exists_ofField field
  rw [Scope.view, hcolumn, Option.bind_some]
  rw [Entity.isCollected] at hfield
  unfold Column.ofOrigin? at hcolumn
  cases horigin : (Entity.info field).origin with
  | own =>
    rw [horigin] at hcolumn
    cases hcolumn
    exact hstored.own field horigin
  | sizeOf name =>
    rw [horigin] at hcolumn
    obtain ⟨collection, hcollection, hcount⟩ :=
      Option.map_eq_some_iff.mp hcolumn
    rw [← hcount, hstored.size field name collection horigin hcollection]
    exact scalar_sizeOf hstored.column_id
  | elementsOf name =>
    rw [horigin] at hfield
    cases hfield

/-- A list is shown as the value of the joined tuple. -/
theorem view_eq_column {field : entity.Field} {collection : Collection}
    {valueColumn : String} (hcolumn : Column.ofOrigin? field =
      some (.element collection valueColumn)) :
    scope.view field =
      (scope.sources collection.name).column valueColumn := by
  rw [Scope.view, hcolumn, Option.bind_some]
  rfl

/-- The tuples that a joined collection takes for a row: those that refer to
it, or one without any columns. -/
def candidates (tables : String → List Tuple) (collection : Collection)
    (id : Uuid) : List Tuple :=
  if (partners tables collection id).isEmpty then [[]]
  else partners tables collection id

theorem joinedScopes_joinOf {collection : Collection}
    (hstored : Stored scope.tables (scope.sources "t") row)
    (hname : collection.name ≠ "t") :
    joinedScopes [joinOf collection] scope =
      (candidates scope.tables collection row.id).map
        (scope.bind collection.name) := by
  show ((joinOf collection).scopes scope).flatMap (fun joined => [joined]) = _
  rw [← List.map_eq_flatMap, List.map_id',
    scopes_joinOf hstored.column_id hname, candidates]
  split <;> rfl

/-- The values of the tuples that a joined collection takes are those that can
be shown of the list. -/
theorem Stored.mem_shownValues_iff
    (hstored : Stored scope.tables (scope.sources "t") row)
    {field : entity.Field} {name : String} {collection : Collection}
    {valueColumn : String}
    (horigin : (Entity.info field).origin = .elementsOf name)
    (hcollection : entity.collection? name = some collection)
    (hvalue : collection.valueColumn = some valueColumn)
    {shown : Option Value} :
    shown ∈ shownValues (row.get field) ↔
      ∃ tuple ∈ candidates scope.tables collection row.id,
        tuple.column valueColumn = shown := by
  obtain ⟨items, hitems, hperm⟩ :=
    hstored.elements field name collection valueColumn horigin hcollection
      hvalue
  have hempty : (partners scope.tables collection row.id).isEmpty =
      items.isEmpty := by
    have hlength := hperm.length_eq
    rw [List.length_map, List.length_map] at hlength
    rw [Bool.eq_iff_iff, List.isEmpty_iff_length_eq_zero, hlength,
      List.isEmpty_iff_length_eq_zero]
  rw [hitems, candidates, hempty]
  cases items with
  | nil =>
    have hnull : Tuple.column [] valueColumn = none := rfl
    simp [shownValues, hnull, eq_comm]
  | cons first others =>
    rw [shownValues, List.isEmpty_cons, if_neg Bool.false_ne_true,
      ← hperm.mem_iff, List.mem_map]

theorem joined?_isSome {field : entity.Field} {column : Column}
    (hcolumn : Column.ofField field = .ok column) :
    column.joined?.isSome = Entity.isCollected field := by
  obtain ⟨other, horigin, hfield⟩ := Column.exists_ofField field
  rw [hcolumn] at hfield
  cases hfield
  rw [Entity.isCollected]
  unfold Column.ofOrigin? at horigin
  cases hcase : (Entity.info field).origin with
  | own =>
    rw [hcase] at horigin
    cases horigin
    rfl
  | sizeOf name =>
    rw [hcase] at horigin
    obtain ⟨collection, _, rfl⟩ := Option.map_eq_some_iff.mp horigin
    rfl
  | elementsOf name =>
    rw [hcase] at horigin
    obtain ⟨collection, _, hrest⟩ := Option.bind_eq_some_iff.mp horigin
    obtain ⟨valueColumn, _, hresult⟩ := Option.bind_eq_some_iff.mp hrest
    cases hresult
    rfl

/-- An entity has one list at most. -/
theorem collected_unique {left right : entity.Field}
    (hleft : Entity.isCollected left = true)
    (hright : Entity.isCollected right = true) : left = right := by
  have hall : ∀ left ∈ entity.fields, ∀ right ∈ entity.fields,
      Entity.isCollected left = true → Entity.isCollected right = true →
        left = right := by
    cases entity <;> decide
  exact hall left (Enumeration.mem_all left) right (Enumeration.mem_all right)
    hleft hright

theorem isCollected_of_ne {field listed : entity.Field}
    (hlisted : Entity.isCollected listed = true) (hne : field ≠ listed) :
    Entity.isCollected field = false := by
  rw [← Bool.not_eq_true]
  intro hfield
  exact hne (collected_unique hfield hlisted)

theorem eraseDups_of_forall_eq {α : Type} [BEq α] [LawfulBEq α] {x : α}
    {xs : List α} (hne : xs ≠ []) (hall : ∀ y ∈ xs, y = x) :
    xs.eraseDups = [x] := by
  cases xs with
  | nil => exact absurd rfl hne
  | cons first rest =>
    rw [List.forall_mem_cons] at hall
    obtain ⟨rfl, hrest⟩ := hall
    have hnone : rest.filter (fun y => !y == first) = [] := by
      rw [List.filter_eq_nil_iff]
      intro y hy
      simp [hrest y hy]
    rw [List.eraseDups_cons, hnone]
    rfl

/-- The clause of a predicate that speaks of a list needs its collection
joined, and no other. -/
theorem joins_eq_singleton {predicate : Predicate entity.Field}
    {clause : Clause Value} (hclause : ofPredicate predicate = .ok clause)
    {field : entity.Field} (hfield : field ∈ predicate.fields)
    (hcollected : Entity.isCollected field = true)
    {collection : Collection} {valueColumn : String}
    (horigin : Column.ofOrigin? field =
      some (.element collection valueColumn)) :
    clause.joins = [collection] := by
  obtain ⟨column, hother, hcolumn⟩ := Column.exists_ofField field
  obtain rfl : column = .element collection valueColumn :=
    Option.some_inj.mp (hother.symm.trans horigin)
  apply eraseDups_of_forall_eq
  · have hmem : collection ∈ clause.columns.filterMap Column.joined? :=
      List.mem_filterMap.mpr ⟨_,
        (mem_columns_iff hclause).mpr ⟨field, hfield, hcolumn⟩, rfl⟩
    exact List.ne_nil_of_mem hmem
  · intro other hother
    obtain ⟨column, hmem, hjoined⟩ := List.mem_filterMap.mp hother
    obtain ⟨second, _, hsecond⟩ := (mem_columns_iff hclause).mp hmem
    have hsame : second = field := by
      apply collected_unique _ hcollected
      rw [← joined?_isSome hsecond, hjoined]
      rfl
    rw [hsame, hcolumn] at hsecond
    cases hsecond
    cases hjoined
    rfl

theorem joins_eq_nil_of_fields {predicate : Predicate entity.Field}
    {clause : Clause Value} (hclause : ofPredicate predicate = .ok clause)
    (hnone : ∀ field ∈ predicate.fields, Entity.isCollected field = false) :
    clause.joins = [] := by
  have hempty : clause.columns.filterMap Column.joined? = [] := by
    rw [List.filterMap_eq_nil_iff]
    intro column hcolumn
    obtain ⟨field, hfield, hof⟩ := (mem_columns_iff hclause).mp hcolumn
    rw [← Option.isNone_iff_eq_none, ← Option.not_isSome,
      joined?_isSome hof, hnone field hfield]
    rfl
  rw [Clause.joins, hempty]
  rfl

/-- The clause of a predicate needs the collection of its list joined, if it
speaks of one. -/
theorem joins_ofPredicate {predicate : Predicate entity.Field}
    {clause : Clause Value} (hclause : ofPredicate predicate = .ok clause) :
    (clause.joins = [] ∧
      ∀ field ∈ predicate.fields, Entity.isCollected field = false) ∨
    ∃ field : entity.Field, Entity.isCollected field = true ∧
      ∀ collection valueColumn,
        Column.ofOrigin? field = some (.element collection valueColumn) →
          clause.joins = [collection] := by
  by_cases hlists : ∃ field ∈ predicate.fields,
      Entity.isCollected field = true
  · obtain ⟨field, hfield, hcollected⟩ := hlists
    exact .inr ⟨field, hcollected, fun _ _ horigin =>
      joins_eq_singleton hclause hfield hcollected horigin⟩
  · have hnone : ∀ field ∈ predicate.fields,
        Entity.isCollected field = false := by
      intro field hfield
      rw [← Bool.not_eq_true]
      intro hcollected
      exact hlists ⟨field, hfield, hcollected⟩
    exact .inl ⟨joins_eq_nil_of_fields hclause hnone, hnone⟩

/-- The collections that the clause of a predicate needs are of the entity. -/
theorem exists_collection_of_mem_joins {predicate : Predicate entity.Field}
    {clause : Clause Value} (hclause : ofPredicate predicate = .ok clause)
    {collection : Collection} (hcollection : collection ∈ clause.joins) :
    ∃ name, entity.collection? name = some collection := by
  rcases joins_ofPredicate hclause with ⟨hjoins, _⟩ | ⟨field, hfield, hjoins⟩
  · rw [hjoins] at hcollection
    cases hcollection
  · obtain ⟨name, other, valueColumn, _, hother, _, hcolumn⟩ :=
      exists_element hfield
    rw [hjoins other valueColumn hcolumn, List.mem_singleton] at hcollection
    exact ⟨name, by rw [hcollection, hother]⟩

/-- What a joined tuple shows of a row: the value of the tuple for the list,
and the values of the row for everything else. -/
theorem Stored.view_bind
    (hstored : Stored scope.tables (scope.sources "t") row)
    {collection : Collection} {valueColumn : String}
    (hname : collection.name ≠ "t") {listed : entity.Field}
    (hlisted : Entity.isCollected listed = true)
    (hcolumn : Column.ofOrigin? listed =
      some (.element collection valueColumn)) (tuple : Tuple) :
    (scope.bind collection.name tuple).view = fun field =>
      if field = listed then tuple.column valueColumn else row.get field := by
  funext field
  split
  · next hfield =>
    rw [hfield, view_eq_column hcolumn, Scope.bind_sources_self]
  · next hfield =>
    apply Stored.view_eq_get _ (isCollected_of_ne hlisted hfield)
    rw [Scope.bind_tables, Scope.bind_sources_of_ne hname.symm]
    exact hstored

/-- The views of a row are what the tuples joined for its list show. -/
theorem Stored.shows_iff
    (hstored : Stored scope.tables (scope.sources "t") row)
    {collection : Collection} {name valueColumn : String}
    {listed : entity.Field} (hlisted : Entity.isCollected listed = true)
    (horigin : (Entity.info listed).origin = .elementsOf name)
    (hcollection : entity.collection? name = some collection)
    (hvalue : collection.valueColumn = some valueColumn)
    (hcolumn : Column.ofOrigin? listed =
      some (.element collection valueColumn))
    {view : View entity} :
    row.Shows view ↔ ∃ tuple ∈ candidates scope.tables collection row.id,
      (scope.bind collection.name tuple).view = view := by
  have hname := (collection_name_ne hcollection).1
  have hmem : ∀ shown, shown ∈ shownValues (row.get listed) ↔
      ∃ tuple ∈ candidates scope.tables collection row.id,
        tuple.column valueColumn = shown := fun _ =>
    hstored.mem_shownValues_iff horigin hcollection hvalue
  constructor
  · intro hshows
    obtain ⟨tuple, htuple, hshown⟩ := (hmem _).mp (hshows listed)
    apply Exists.intro tuple
    apply And.intro htuple
    rw [hstored.view_bind hname hlisted hcolumn]
    funext field
    split
    · next hfield => rw [hfield, hshown]
    · next hfield =>
      exact (hshows.eq_get (isCollected_of_ne hlisted hfield)).symm
  · rintro ⟨tuple, htuple, rfl⟩ field
    rw [hstored.view_bind hname hlisted hcolumn]
    dsimp only
    split
    · next hfield =>
      rw [hfield]
      exact (hmem _).mpr ⟨tuple, htuple, rfl⟩
    · next hfield =>
      rw [Row.shownValues_get (isCollected_of_ne hlisted hfield)]
      exact List.mem_singleton_self _

/-- A predicate that speaks of no list holds of every view of a row or of
none. -/
theorem Stored.shown_view_iff
    (hstored : Stored scope.tables (scope.sources "t") row)
    {predicate : Predicate entity.Field}
    (hnone : ∀ field ∈ predicate.fields, Entity.isCollected field = false) :
    predicate.shown scope.view = true ↔
      ∃ view, row.Shows view ∧ predicate.shown view = true := by
  have hsame : ∀ view, row.Shows view →
      predicate.shown scope.view = predicate.shown view := by
    intro view hview
    apply Predicate.shown_congr
    intro field hfield
    rw [hstored.view_eq_get (hnone field hfield),
      hview.eq_get (hnone field hfield)]
  constructor
  · intro hshown
    obtain ⟨view, hview⟩ := Predicate.exists_view row
    exact ⟨view, hview, (hsame view hview).symm.trans hshown⟩
  · rintro ⟨view, hview, hshown⟩
    exact (hsame view hview).trans hshown

/-- A predicate holds of what one of the joined scopes shows exactly if it
holds of a view of the row. -/
theorem exists_joined_iff {predicate : Predicate entity.Field}
    {clause : Clause Value} (hclause : ofPredicate predicate = .ok clause)
    (hstored : Stored scope.tables (scope.sources "t") row) :
    (∃ joined ∈ joinedScopes (clause.joins.map joinOf) scope,
      predicate.shown joined.view = true) ↔
        ∃ view, row.Shows view ∧ predicate.shown view = true := by
  rcases joins_ofPredicate hclause with ⟨hjoins, hnone⟩ |
    ⟨listed, hlisted, hjoins⟩
  · have hself : joinedScopes (clause.joins.map joinOf) scope = [scope] := by
      rw [hjoins]
      rfl
    simp only [hself, List.mem_singleton, exists_eq_left]
    exact hstored.shown_view_iff hnone
  · obtain ⟨name, collection, valueColumn, horigin, hcollection, hvalue,
        hcolumn⟩ := exists_element hlisted
    have hname := (collection_name_ne hcollection).1
    rw [hjoins collection valueColumn hcolumn, List.map_singleton,
      joinedScopes_joinOf hstored hname]
    simp only [hstored.shows_iff hlisted horigin hcollection hvalue hcolumn,
      List.mem_map, exists_exists_and_eq_and]

/-- What a joined scope shows of a row is proper where what the row holds is. -/
theorem isProperOn_of_joined {predicate : Predicate entity.Field}
    {clause : Clause Value} (hclause : ofPredicate predicate = .ok clause)
    (hstored : Stored scope.tables (scope.sources "t") row)
    (hproper : View.IsProperOn row.get predicate.fields) {joined : Scope}
    (hjoined : joined ∈ joinedScopes (clause.joins.map joinOf) scope) :
    joined.view.IsProperOn predicate.fields := by
  rcases joins_ofPredicate hclause with ⟨hjoins, hnone⟩ |
    ⟨listed, hlisted, hjoins⟩
  · have hself : joined = scope := by
      rw [hjoins] at hjoined
      exact List.mem_singleton.mp hjoined
    intro field hfield value hvalue
    rw [hself, hstored.view_eq_get (hnone field hfield)] at hvalue
    exact hproper field hfield value hvalue
  · obtain ⟨name, collection, valueColumn, horigin, hcollection, hvalue,
        hcolumn⟩ := exists_element hlisted
    have hname := (collection_name_ne hcollection).1
    rw [hjoins collection valueColumn hcolumn, List.map_singleton,
      joinedScopes_joinOf hstored hname] at hjoined
    obtain ⟨tuple, htuple, rfl⟩ := List.mem_map.mp hjoined
    have hshows : row.Shows (scope.bind collection.name tuple).view :=
      (hstored.shows_iff hlisted horigin hcollection hvalue hcolumn).mpr
        ⟨tuple, htuple, rfl⟩
    exact hshows.isProperOn hproper

end

end CivicRegistry.Sql
