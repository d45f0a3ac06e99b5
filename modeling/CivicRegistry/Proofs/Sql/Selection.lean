import CivicRegistry.Proofs.Mentions
import CivicRegistry.Proofs.Sql.Agreement
import CivicRegistry.Proofs.Sql.ListingReading
import CivicRegistry.Proofs.Value.Order
import Mathlib.Data.List.Nodup

/-!
# What a clause chooses

A clause chooses the tuples of a table for which it is true in one of the scopes
in which its collections are joined to them.  A tuple that is joined to several
others can be selected several times.  Where every tuple has an identifier of
its own, the chosen tuples are counted once each, and the condition of a listing
is true of them and of no others.
-/

namespace CivicRegistry.Sql

variable {entity : Entity}

/-! ## Different values -/

/-- Erasing duplicates commutes with a map that keeps different values apart. -/
theorem eraseDupsBy_map {α β : Type} [BEq α] {same : β → β → Bool} {f : α → β}
    (hsame : ∀ left right, same (f left) (f right) = (left == right))
    (values : List α) :
    (values.map f).eraseDupsBy same = values.eraseDups.map f := by
  match values with
  | [] => rfl
  | first :: rest =>
    have hfilter : (rest.map f).filter (fun value =>
        same value (f first) = false) =
          (rest.filter fun value => !value == first).map f := by
      rw [List.filter_map]
      congr 1
      apply List.filter_congr
      intro value _
      simp [hsame]
    rw [List.map_cons, List.eraseDupsBy_cons, List.eraseDups_cons, hfilter,
      eraseDupsBy_map hsame, List.map_cons]
termination_by values.length
decreasing_by
  exact Nat.lt_succ_of_le (List.length_filter_le _ _)

theorem nodup_eraseDups {α : Type} [BEq α] [LawfulBEq α] (values : List α) :
    values.eraseDups.Nodup :=
  (firstMentions_eraseDups values).nodup

/-- Values, each once, are as many as different values with the same members. -/
theorem length_eraseDups {α : Type} [BEq α] [LawfulBEq α]
    {values different : List α} (hdifferent : different.Nodup)
    (hmem : ∀ value, value ∈ values ↔ value ∈ different) :
    values.eraseDups.length = different.length := by
  have hperm : values.eraseDups.Perm different := by
    rw [List.perm_ext_iff_of_nodup (nodup_eraseDups values) hdifferent]
    intro value
    rw [List.mem_eraseDups, hmem]
  exact hperm.length_eq

theorem sameValue_uuid (left right : Uuid) :
    sameValue (.uuid left) (.uuid right) = (left == right) := by
  rw [sameValue, Value.same]
  exact Bool.or_false _

/-- Tuples of one identifier are the same where the identifiers are. -/
theorem sameTuple_id (left right : Uuid) :
    sameTuple [("id", some (.uuid left))] [("id", some (.uuid right))] =
      (left == right) := by
  show (true && (sameValue (.uuid left) (.uuid right) && true)) = _
  rw [Bool.and_true, Bool.true_and, sameValue_uuid]

theorem equals_uuid_iff {left right : Uuid} :
    Value.equals (.uuid left) (.uuid right) = true ↔ left = right := by
  show (some (left.compare right) == some Ordering.eq) = true ↔ _
  rw [beq_iff_eq, Option.some_inj]
  constructor
  · exact Uuid.eq_of_compare
  · rintro rfl
    exact Std.ReflCmp.compare_self

/-! ## Identifiers -/

/-- A column of a tuple is also one of a longer tuple. -/
theorem Tuple.column_append {tuple rest : Tuple} {name : String} {value : Value}
    (hcolumn : tuple.column name = some value) :
    Tuple.column (tuple ++ rest) name = some value := by
  rw [Tuple.column, Option.join_eq_some_iff] at hcolumn ⊢
  rw [List.lookup_append, hcolumn]
  rfl

/-- The identifier of a tuple, if there is one. -/
def Tuple.id (tuple : Tuple) : Uuid :=
  match tuple.column "id" with
  | some (.uuid id) => id
  | _ => Uuid.nil

/-- Every tuple has an identifier, and no two have the same. -/
structure Identified (tuples : List Tuple) : Prop where
  exists_id : ∀ tuple ∈ tuples, ∃ id : Uuid, tuple.column "id" = some (.uuid id)
  distinct : (tuples.map Tuple.id).Nodup

namespace Identified

variable {tuples : List Tuple}

theorem column_id (hidentified : Identified tuples) {tuple : Tuple}
    (htuple : tuple ∈ tuples) :
    tuple.column "id" = some (.uuid tuple.id) := by
  obtain ⟨id, hid⟩ := hidentified.exists_id tuple htuple
  rw [Tuple.id, hid]

theorem eq_of_id (hidentified : Identified tuples) {left right : Tuple}
    (hleft : left ∈ tuples) (hright : right ∈ tuples)
    (hid : left.id = right.id) : left = right :=
  List.inj_on_of_nodup_map hidentified.distinct hleft hright hid

end Identified

/-! ## Joined scopes -/

theorem Scope.bind_bind (scope : Scope) (source : String)
    (first second : Tuple) :
    (scope.bind source first).bind source second =
      scope.bind source second := by
  have hsources : ((scope.bind source first).bind source second).sources =
      (scope.bind source second).sources := by
    funext other
    by_cases hother : other = source <;> simp [bind, hother]
  exact congrArg (fun sources => { scope with sources }) hsources

/-- Joins leave the sources alone that they do not bind. -/
theorem joinedScopes_sources {joins : List Join} {source : String}
    (hsource : ∀ join ∈ joins, source ≠ join.source) {scope joined : Scope}
    (hjoined : joined ∈ joinedScopes joins scope) :
    joined.sources source = scope.sources source := by
  induction joins generalizing scope with
  | nil => rw [List.mem_singleton.mp hjoined]
  | cons join joins ih =>
    rw [List.forall_mem_cons] at hsource
    obtain ⟨middle, hmiddle, hrest⟩ := List.mem_flatMap.mp hjoined
    obtain ⟨tuple, rfl⟩ := exists_bind_of_mem_scopes hmiddle
    rw [ih hsource.2 hrest, Scope.bind_sources_of_ne hsource.1]

/-- What a clause joins does not take the place of the tuple of `t`. -/
theorem sources_joined {predicate : Predicate entity.Field}
    {clause : Clause Value} (hclause : ofPredicate predicate = .ok clause)
    {scope joined : Scope} {tuple : Tuple}
    (hjoined : joined ∈
      joinedScopes (clause.joins.map joinOf) (scope.bind "t" tuple)) :
    joined.sources "t" = tuple := by
  have hnames : ∀ join ∈ clause.joins.map joinOf, "t" ≠ join.source := by
    intro join hjoin
    obtain ⟨collection, hcollection, rfl⟩ := List.mem_map.mp hjoin
    obtain ⟨name, hname⟩ := exists_collection_of_mem_joins hclause hcollection
    exact (collection_name_ne hname).1.symm
  rw [joinedScopes_sources hnames hjoined, Scope.bind_sources_self]

/-! ## Chosen tuples -/

namespace Clause

/-- The clause is true of a tuple in one of the scopes in which its collections
are joined. -/
def chooses (clause : Clause Value) (scope : Scope) (tuple : Tuple) : Bool :=
  (joinedScopes (clause.joins.map joinOf) (scope.bind "t" tuple)).any
    fun joined => (clause.meaning 0).truth joined == some true

/-- The tuples of an entity that a clause chooses. -/
def chosen (clause : Clause Value) (entity : Entity) (scope : Scope) :
    List Tuple :=
  (scope.tables entity.name).filter (clause.chooses scope)

variable {clause : Clause Value} {scope : Scope} {tuple : Tuple}

theorem chooses_iff :
    clause.chooses scope tuple = true ↔
      ∃ joined ∈ joinedScopes (clause.joins.map joinOf) (scope.bind "t" tuple),
        (clause.meaning 0).truth joined = some true := by
  simp [chooses]

/-- What a clause chooses does not depend on the tuple of `t` in view. -/
theorem chooses_bind (other : Tuple) :
    clause.chooses (scope.bind "t" other) tuple =
      clause.chooses scope tuple := by
  rw [chooses, chooses, Scope.bind_bind]

theorem chosen_bind (other : Tuple) :
    clause.chosen entity (scope.bind "t" other) =
      clause.chosen entity scope := by
  apply List.filter_congr
  intro tuple _
  exact chooses_bind other

theorem chooses_of_joins_nil (hjoins : clause.joins = []) :
    clause.chooses scope tuple =
      ((clause.meaning 0).truth (scope.bind "t" tuple) == some true) := by
  rw [chooses, hjoins]
  exact Bool.or_false _

theorem mem_chosen :
    tuple ∈ clause.chosen entity scope ↔
      tuple ∈ scope.tables entity.name ∧ clause.chooses scope tuple = true :=
  List.mem_filter

end Clause

/-- The identifiers of chosen tuples are different. -/
theorem Identified.nodup_chosen {scope : Scope} {clause : Clause Value}
    (hidentified : Identified (scope.tables entity.name)) :
    ((clause.chosen entity scope).map Tuple.id).Nodup :=
  hidentified.distinct.sublist (List.filter_sublist.map Tuple.id)

/-! ## Selections from a source -/

/-- Without joins every tuple is looked at once. -/
theorem matching_of_joins_nil {select : Select} {scope : Scope}
    (hjoins : select.joins = []) :
    select.matching scope = ((scope.tables select.table).map
      (scope.bind select.source)).filter fun joined =>
        select.condition.all fun condition =>
          condition.truth joined == some true := by
  rw [Select.matching, hjoins, List.map_eq_flatMap]
  rfl

theorem ordered_perm (select : Select) (scope : Scope) :
    (select.ordered scope).Perm (select.matching scope) :=
  List.mergeSort_perm _ _

/-- A select list counts nothing. -/
theorem mapM_counted?_selectItems (scopes : List Scope) :
    (selectItems entity).mapM (Item.counted? scopes) = none := by
  rw [selectItems, List.mapM_cons]
  rfl

section

variable {answer : Answer} {distinct : Bool}
  {predicate : Predicate entity.Field} {clause : Clause Value} {scope : Scope}
  {unique : Bool} {items : List Item}

theorem mem_matching_source {joined : Scope} :
    joined ∈ (sourceSelect ⟨entity, answer, distinct, clause⟩ unique
        items).matching scope ↔
      ∃ tuple ∈ scope.tables entity.name,
        joined ∈ joinedScopes (clause.joins.map joinOf) (scope.bind "t" tuple) ∧
          (clause.meaning 0).truth joined = some true := by
  rw [Select.matching, List.mem_filter, List.mem_flatMap]
  simp only [sourceSelect, Option.all_some, beq_iff_eq]
  constructor
  · rintro ⟨⟨tuple, htuple, hjoined⟩, htruth⟩
    exact ⟨tuple, htuple, hjoined, htruth⟩
  · rintro ⟨tuple, htuple, hjoined, htruth⟩
    exact ⟨⟨tuple, htuple, hjoined⟩, htruth⟩

variable (hclause : ofPredicate predicate = .ok clause)
  (hidentified : Identified (scope.tables entity.name))

include hclause

/-- A chosen tuple is selected, and what is selected is a chosen tuple with what
is joined to it. -/
theorem exists_selected_iff {tuple : Tuple} :
    (∃ joined ∈ (sourceSelect ⟨entity, answer, distinct, clause⟩ unique
        items).matching scope, joined.sources "t" = tuple) ↔
      tuple ∈ clause.chosen entity scope := by
  simp only [mem_matching_source, Clause.mem_chosen, Clause.chooses_iff]
  constructor
  · rintro ⟨joined, ⟨other, hother, hjoined, htruth⟩, rfl⟩
    rw [sources_joined hclause hjoined]
    exact ⟨hother, joined, hjoined, htruth⟩
  · rintro ⟨htuple, joined, hjoined, htruth⟩
    exact ⟨joined, ⟨tuple, htuple, hjoined, htruth⟩,
      sources_joined hclause hjoined⟩

include hidentified

/-- The identifiers of what is selected are those of the chosen tuples. -/
theorem exists_ids :
    ∃ ids : List Uuid,
      ((sourceSelect ⟨entity, answer, distinct, clause⟩ unique
          items).ordered scope).map (Meaning.column "t" "id") =
        ids.map (fun id => some (.uuid id)) ∧
      ∀ id, id ∈ ids ↔ id ∈ (clause.chosen entity scope).map Tuple.id := by
  let select := sourceSelect ⟨entity, answer, distinct, clause⟩ unique items
  have hchosen (tuple : Tuple) :
      (∃ joined ∈ select.ordered scope, joined.sources "t" = tuple) ↔
        tuple ∈ clause.chosen entity scope := by
    simp only [(ordered_perm select scope).mem_iff]
    exact exists_selected_iff hclause
  refine ⟨(select.ordered scope).map fun joined => (joined.sources "t").id,
    ?_, ?_⟩
  · rw [List.map_map]
    apply List.map_congr_left
    intro joined hjoined
    have hmem := (hchosen _).mp ⟨joined, hjoined, rfl⟩
    exact hidentified.column_id (Clause.mem_chosen.mp hmem).1
  · intro id
    rw [List.mem_map, List.mem_map]
    simp only [← hchosen]
    constructor
    · rintro ⟨joined, hjoined, rfl⟩
      exact ⟨_, ⟨joined, hjoined, rfl⟩, rfl⟩
    · rintro ⟨_, ⟨joined, hjoined, rfl⟩, rfl⟩
      exact ⟨joined, hjoined, rfl⟩

end

/-! ## Counting and listing -/

section

variable {answer : Answer} {distinct : Bool} {clause : Clause Value}

/-- Where rows are not told apart by their identifiers, nothing is joined. -/
theorem joins_eq_nil (hby : Statement.byIdentifier
    ⟨entity, answer, distinct, clause⟩ = false) : clause.joins = [] := by
  simp only [Statement.byIdentifier, Bool.or_eq_false_iff, Bool.not_eq_false',
    List.isEmpty_iff] at hby
  exact hby.2

variable {predicate : Predicate entity.Field} {scope : Scope}
  (hclause : ofPredicate predicate = .ok clause)
  (hidentified : Identified (scope.tables entity.name))

include hclause hidentified

/-- The counting statement answers how many tuples the clause chooses. -/
theorem answer_count :
    (sourceSelect ⟨entity, answer, distinct, clause⟩ false
      [countItem ⟨entity, answer, distinct, clause⟩]).answer scope =
        [[("count", some (.integer (clause.chosen entity scope).length))]] := by
  rw [countItem]
  split
  · next hby =>
    let select := sourceSelect ⟨entity, answer, distinct, clause⟩ false
      [.countDistinct "count" (.column "t" "id")]
    obtain ⟨ids, hmap, hids⟩ :
        ∃ ids : List Uuid,
          (select.ordered scope).map (Meaning.column "t" "id") =
            ids.map (fun id => some (.uuid id)) ∧
            ∀ id, id ∈ ids ↔ id ∈ (clause.chosen entity scope).map Tuple.id :=
      exists_ids hclause hidentified
    have hvalues : (select.ordered scope).filterMap (Meaning.column "t" "id") =
        ids.map .uuid := by
      rw [← Function.id_comp (Meaning.column "t" "id"), ← List.filterMap_map,
        hmap, List.filterMap_map, ← List.filterMap_eq_map]
      rfl
    have hlength : (((select.ordered scope).filterMap
        (Meaning.column "t" "id")).eraseDupsBy sameValue).length =
          (clause.chosen entity scope).length := by
      calc
        _ = (ids.eraseDups.map Value.uuid).length := by
          rw [hvalues, eraseDupsBy_map sameValue_uuid]
        _ = ids.eraseDups.length := List.length_map _
        _ = ((clause.chosen entity scope).map Tuple.id).length :=
          length_eraseDups hidentified.nodup_chosen hids
        _ = (clause.chosen entity scope).length := List.length_map _
    rw [← hlength]
    rfl
  · next hby =>
    have hjoins : clause.joins = [] := joins_eq_nil (by simpa using hby)
    let select := sourceSelect ⟨entity, answer, distinct, clause⟩ false
      [.countAll "count"]
    have hselect : select.joins = [] := by
      show clause.joins.map joinOf = []
      rw [hjoins, List.map_nil]
    have hlength : (select.ordered scope).length =
        (clause.chosen entity scope).length := by
      rw [(ordered_perm select scope).length_eq, matching_of_joins_nil hselect,
        List.filter_map, List.length_map, Clause.chosen]
      congr 1
      apply List.filter_congr
      intro tuple _
      exact (Clause.chooses_of_joins_nil hjoins).symm
    rw [← hlength]
    rfl

/-- The identifiers that a listing takes its tuples from, each once. -/
theorem firstColumn_identifiers :
    ∃ ids : List Uuid,
      (identifiers ⟨entity, answer, distinct, clause⟩).firstColumn scope =
        (ids.map .uuid).map some ∧
      ∀ id, id ∈ ids ↔ id ∈ (clause.chosen entity scope).map Tuple.id := by
  let select := identifiers ⟨entity, answer, distinct, clause⟩
  obtain ⟨ids, hmap, hids⟩ :
      ∃ ids : List Uuid, (select.ordered scope).map (Meaning.column "t" "id") =
        ids.map (fun id => some (.uuid id)) ∧
          ∀ id, id ∈ ids ↔ id ∈ (clause.chosen entity scope).map Tuple.id :=
    exists_ids hclause hidentified
  have htuples : (select.ordered scope).map (fun joined =>
      [("id", Meaning.column "t" "id" joined)]) =
        ids.map fun id => [("id", some (.uuid id))] := by
    have hpair := congrArg (List.map fun value => [("id", value)]) hmap
    rwa [List.map_map, List.map_map] at hpair
  have hanswer : select.answer scope =
      ids.eraseDups.map fun id => [("id", some (.uuid id))] := by
    rw [← eraseDupsBy_map sameTuple_id, ← htuples]
    rfl
  exists ids.eraseDups
  constructor
  · rw [Select.firstColumn, hanswer, List.map_map, List.map_map]
    rfl
  · intro id
    rw [List.mem_eraseDups, hids]

/-- The condition of a listing is true of the chosen tuples. -/
theorem truth_conditionMeaning {tuple : Tuple}
    (htuple : tuple ∈ scope.tables entity.name) :
    ((conditionMeaning ⟨entity, answer, distinct, clause⟩).truth
        (scope.bind "t" tuple) == some true) = clause.chooses scope tuple := by
  rw [conditionMeaning]
  split
  · obtain ⟨ids, hchoices, hids⟩ := @firstColumn_identifiers entity answer
      distinct clause predicate (scope.bind "t" tuple) hclause hidentified
    have hid : Meaning.column "t" "id" (scope.bind "t" tuple) =
        some (.uuid tuple.id) := by
      rw [Meaning.column, Scope.bind_sources_self, hidentified.column_id htuple]
    have hfound : ∀ value ∈ Meaning.column "t" "id" (scope.bind "t" tuple),
        value.isProper = true := by
      intro value hvalue
      rw [hid] at hvalue
      cases hvalue
      rfl
    have hproper : ∀ choice ∈ ids.map Value.uuid, choice.isProper = true := by
      intro choice hchoice
      obtain ⟨id, _, rfl⟩ := List.mem_map.mp hchoice
      rfl
    rw [Bool.eq_iff_iff, beq_iff_eq, truth_isOneOf hchoices hfound hproper, hid]
    simp only [Option.any_some, List.any_map, List.any_eq_true,
      Function.comp_apply, equals_uuid_iff, hids, Clause.chosen_bind,
      List.mem_map, Clause.mem_chosen]
    constructor
    · rintro ⟨_, ⟨other, ⟨hother, hchooses⟩, hsame⟩, rfl⟩
      rwa [hidentified.eq_of_id hother htuple hsame] at hchooses
    · intro hchooses
      exact ⟨tuple.id, ⟨tuple, ⟨htuple, hchooses⟩, rfl⟩, rfl⟩
  · next hby =>
    exact (Clause.chooses_of_joins_nil (joins_eq_nil (by simpa using hby))).symm

/-- A selection by the condition of a listing goes over the chosen tuples. -/
theorem matching_listing {select : Select} (htable : select.table = entity.name)
    (hsource : select.source = "t") (hjoins : select.joins = [])
    (hcondition : select.condition =
      some (conditionMeaning ⟨entity, answer, distinct, clause⟩)) :
    select.matching scope =
      (clause.chosen entity scope).map (scope.bind "t") := by
  rw [matching_of_joins_nil hjoins, htable, hsource, hcondition,
    List.filter_map, Clause.chosen]
  congr 1
  apply List.filter_congr
  intro tuple htuple
  exact truth_conditionMeaning hclause hidentified htuple

end

/-! ## Statements of a specification -/

section

variable {spec : Specification entity.Field}
  {request : PageRequest entity.Field} {clause : Clause Value}

theorem wellFormed_ofPredicate {answer : Answer}
    (hclause : ofPredicate spec.predicate = .ok clause) :
    WellFormed ⟨entity, answer, spec.distinct, clause⟩ where
  joins := joinNamed_of_mem_joins hclause
  columns := wellNamed_ofPredicate hclause

theorem checkTableName_name (entity : Entity) :
    checkTableName entity.name = .ok () := by
  cases entity <;> rfl

theorem counting_eq (hclause : ofPredicate spec.predicate = .ok clause) :
    counting spec = .ok ⟨entity, .count, spec.distinct, clause⟩ := by
  rw [counting, checkTableName_name, hclause]
  rfl

theorem listing_eq (hclause : ofPredicate spec.predicate = .ok clause)
    (hsize : request.size ≠ 0) {order : SortClause}
    (horder : SortClause.ofField request.sortField request.direction =
      .ok order) :
    listing spec (some request) = .ok ⟨entity,
      .rows (some order) (some ⟨request.size.toNat, request.offset⟩),
        spec.distinct, clause⟩ := by
  rw [listing, checkTableName_name, hclause, horder]
  dsimp only
  rw [if_neg hsize]
  rfl

end

end CivicRegistry.Sql
