import CivicRegistry.Proofs.Ranking.Lawfulness
import CivicRegistry.Proofs.Store.Pages

/-!
# The arrangement of rows

Rows that are sorted by an attribute stand in the order of their values, those
without a value behind all others in either direction, and where the values do
not decide in the order of their identifiers.  Rows with identifiers of their
own have one arrangement of this kind, so neither sorting nor the pages of a
table depend on the order in which the rows were put in.
-/

namespace CivicRegistry

namespace Ranking

/-! ## Which row may stand first -/

/-- Two values do not decide which one comes first: they are equal, they have no
order, or there are none. -/
def Tied : Option Value → Option Value → Prop
  | some left, some right => ∀ order ∈ left.compare right, order = .eq
  | some _, none => False
  | none, some _ => False
  | none, none => True

variable {entity : Entity}

/-- A row may stand before another when rows are sorted by an attribute. -/
structure Precedes (field : entity.Field) (direction : Direction)
    (left right : Row entity) : Prop where
  /-- A row with a value does not stand behind one without. -/
  present : (right.get field).isSome = true → (left.get field).isSome = true
  /-- Values that have an order stand in it. -/
  ordered : ∀ x ∈ left.get field, ∀ y ∈ right.get field,
    ∀ order ∈ x.compare y, (direction.apply order).isLE = true
  /-- Where the values do not decide, the identifiers do. -/
  tied : Tied (left.get field) (right.get field) →
    (direction.apply (left.id.compare right.id)).isLE = true

theorem valueOrder_cases (direction : Direction) (left right : Option Value)
    {rest : Prop} :
    (valueOrder direction left right = .lt ∨
        valueOrder direction left right = .eq ∧ rest) ↔
      (right.isSome = true → left.isSome = true) ∧
        (∀ x ∈ left, ∀ y ∈ right, ∀ order ∈ x.compare y,
          (direction.apply order).isLE = true) ∧
        (Tied left right → rest) := by
  cases left with
  | none => cases right <;> simp [valueOrder, Tied]
  | some x =>
    cases right with
    | none => simp [valueOrder, Tied]
    | some y =>
      cases horder : x.compare y with
      | none =>
        cases direction <;> simp [valueOrder, Tied, Direction.apply, horder]
      | some order =>
        cases direction <;> cases order <;>
          simp [valueOrder, Tied, Direction.apply, horder]

/-- Rows are compared by what may stand first. -/
theorem isLE_order_iff {field : entity.Field} {direction : Direction}
    {left right : Row entity} :
    (order field direction left right).isLE = true ↔
      Precedes field direction left right := by
  rw [order, Ordering.isLE_then_iff_or, valueOrder_cases]
  exact ⟨fun hfirst => ⟨hfirst.1, hfirst.2.1, hfirst.2.2⟩,
    fun hprecedes => ⟨hprecedes.present, hprecedes.ordered, hprecedes.tied⟩⟩

/-! ## The one arrangement -/

section

variable {field : entity.Field} {direction : Direction}
  {rows : List (Row entity)}

/-- Every row of what has been sorted may stand before those behind it. -/
theorem pairwise_sortRows (hproper : ∀ row ∈ rows,
      ∀ value ∈ row.get field, value.isProper = true) :
    (sortRows field direction rows).Pairwise (Precedes field direction) :=
  (transitive_of_proper hproper).arranged_sortRows.imp isLE_order_iff.mp

/-- Sorting finds the only arrangement of rows with identifiers of their own. -/
theorem eq_sortRows {arrangement : List (Row entity)}
    (hproper : ∀ row ∈ rows, ∀ value ∈ row.get field, value.isProper = true)
    (hids : (rows.map Row.id).Nodup) (hperm : arrangement.Perm rows)
    (harranged : arrangement.Pairwise (Precedes field direction)) :
    arrangement = sortRows field direction rows := by
  have hsorted : (sortRows field direction rows).Perm rows := sorted_perm rows
  have hordered : Arranged field direction arrangement :=
    harranged.imp isLE_order_iff.mpr
  exact hordered.eq (transitive_of_proper hproper).arranged_sortRows
    ((hsorted.map Row.id).nodup_iff.mpr hids) (hperm.trans hsorted.symm)

theorem sortRows_eq_of_perm {others : List (Row entity)}
    (hproper : ∀ row ∈ rows, ∀ value ∈ row.get field, value.isProper = true)
    (hids : (rows.map Row.id).Nodup) (hperm : others.Perm rows) :
    sortRows field direction others = sortRows field direction rows := by
  apply eq_sortRows hproper hids ((sorted_perm others).trans hperm)
  exact pairwise_sortRows fun row hrow => hproper row (hperm.mem_iff.mp hrow)

end

end Ranking

namespace Store.Table

variable {entity : Entity}

/-- A page does not depend on the order in which rows were put in. -/
theorem find_eq_of_perm {table other : Table entity}
    (request : PageRequest entity.Field)
    (hproper : ∀ row ∈ table.rows, ∀ value ∈ row.get request.sortField,
      value.isProper = true)
    (hids : (table.rows.map Row.id).Nodup)
    (hperm : other.rows.Perm table.rows) (spec : Specification entity.Field) :
    other.find spec request = table.find spec request := by
  have hmatching : other.matching spec request = table.matching spec request :=
    Ranking.sortRows_eq_of_perm
      (fun row hrow => hproper row (List.mem_of_mem_filter hrow))
      (hids.sublist (List.filter_sublist.map Row.id)) (hperm.filter _)
  rw [find, find, hmatching]

end Store.Table

namespace Ranking

variable {entity : Entity}

/-- Sorting keeps the rows and puts each before those that it may stand before.
Where every row has an identifier of its own there is no other arrangement of
them, so the order of the rows before makes no difference, neither to sorting
nor to the pages of a table. -/
theorem sortRows_canonical (field : entity.Field) (direction : Direction)
    {rows : List (Row entity)}
    (hproper : ∀ row ∈ rows, ∀ value ∈ row.get field, value.isProper = true) :
    (sortRows field direction rows).Perm rows ∧
    (sortRows field direction rows).Pairwise (Precedes field direction) ∧
    ((rows.map Row.id).Nodup → ∀ others : List (Row entity),
      others.Perm rows →
        (others.Pairwise (Precedes field direction) →
          others = sortRows field direction rows) ∧
        sortRows field direction others = sortRows field direction rows ∧
        ∀ (spec : Specification entity.Field) (page size : UInt32),
          (Store.Table.mk others).find spec ⟨page, size, field, direction⟩ =
            (Store.Table.mk rows).find spec
              ⟨page, size, field, direction⟩) := by
  refine ⟨sorted_perm rows, pairwise_sortRows hproper, ?_⟩
  intro hids others hperm
  refine ⟨eq_sortRows hproper hids hperm,
    sortRows_eq_of_perm hproper hids hperm, fun spec page size => ?_⟩
  exact Store.Table.find_eq_of_perm
    ⟨page, size, field, direction⟩ hproper hids hperm spec

/-- Provinces by their populations: two with the same one and two with none. -/
def sampleCounted (number : BitVec 128) (population : Option Int) :
    Row .provinces
  | .population => population
  | field => Store.Table.sampleProvince number "P" field

def sampleCensus : List (Row .provinces) :=
  [sampleCounted 1 none, sampleCounted 2 (some 5), sampleCounted 3 (some 7),
    sampleCounted 4 (some 5), sampleCounted 5 none]

theorem sortRows_canonical_sample :
    (∀ row ∈ sampleCensus, ∀ value ∈ row.get ProvinceField.population,
      value.isProper = true) ∧
    (sampleCensus.map Row.id).Nodup ∧
    (sortRows ProvinceField.population .descending sampleCensus.reverse).map
        Row.id = [⟨3⟩, ⟨4⟩, ⟨2⟩, ⟨5⟩, ⟨1⟩] ∧
    (sortRows ProvinceField.population .descending sampleCensus).Pairwise
      (Precedes ProvinceField.population .descending) := by
  have hproper : ∀ row ∈ sampleCensus,
      ∀ value ∈ row.get ProvinceField.population, value.isProper = true := by
    decide
  have hids : (sampleCensus.map Row.id).Nodup := by decide
  obtain ⟨-, harranged, hunique⟩ :=
    @sortRows_canonical .provinces .population .descending _ hproper
  obtain ⟨-, hreversed, -⟩ := hunique hids _ sampleCensus.reverse_perm
  refine ⟨hproper, hids, ?_, harranged⟩
  rw [hreversed]
  rfl

end Ranking

end CivicRegistry
