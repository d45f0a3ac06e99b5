import CivicRegistry.Proofs.Ranking
import CivicRegistry.Proofs.Value.Comparison
import Mathlib.Data.List.Nodup

/-!
# Rows that can be put in order

Two rows compared the other way round give the opposite answer.  Going on from
row to row is safe as long as the values have an order.  A float that is not a
number has none and leaves the choice to the identifiers, so it can stand
between two rows whose values ask for one order while their identifiers ask for
the other.  This is the only way in which comparing fails to be transitive, and
rows among which it does not happen have their one arrangement.
-/

namespace CivicRegistry

variable {entity : Entity}

theorem Value.compare_of_isNaN {number : Float} (hnan : number.isNaN = true)
    (other : Value) : (Value.float number).compare other = none := by
  cases other <;> first
    | exact Binary64.compare_eq_none (.inl hnan)
    | rfl

namespace Ranking

variable {field : entity.Field} {direction : Direction}

/-- The order of rows by their identifiers alone. -/
def idOrder (direction : Direction) (left right : Row entity) : Ordering :=
  direction.apply (left.id.compare right.id)

instance : Std.TransCmp (@idOrder entity direction) := by
  have huuids : Std.TransCmp fun left right : Uuid =>
      direction.apply (left.compare right) := inferInstance
  exact @transCmp_map Uuid _ huuids _ Row.id

theorem apply_swap (direction : Direction) (order : Ordering) :
    direction.apply order.swap = (direction.apply order).swap := by
  cases direction <;> cases order <;> rfl

theorem valueOrder_swap (direction : Direction) (left right : Option Value) :
    valueOrder direction right left =
      (valueOrder direction left right).swap := by
  cases left <;> cases right
  case some.some left right =>
    rw [valueOrder, valueOrder, Value.compare_swap left right, ← apply_swap]
    cases left.compare right <;> rfl
  all_goals rfl

/-- Comparing two rows the other way round gives the opposite answer. -/
theorem order_swap (field : entity.Field) (direction : Direction)
    (left right : Row entity) :
    order field direction right left =
      (order field direction left right).swap := by
  have hid : idOrder direction right left =
      (idOrder direction left right).swap := Std.OrientedCmp.eq_swap
  rw [order, order, Ordering.swap_then,
    valueOrder_swap direction (left.get field)]
  exact congrArg _ hid

/-! ## Crossed rows -/

/-- A row holds a float that is not a number. -/
def HoldsNaN (field : entity.Field) (row : Row entity) : Prop :=
  ∃ number : Float, row.get field = some (.float number) ∧
    number.isNaN = true

/-- The values of two rows have an order and want the first row first. -/
def ValuesBefore (field : entity.Field) (direction : Direction)
    (left right : Row entity) : Prop :=
  ∃ x ∈ left.get field, ∃ y ∈ right.get field, ∃ order ∈ x.compare y,
    direction.apply order = .lt

/-- Three rows are crossed when the values want the first before the last, but
the one between leaves it to the identifiers, and these want the last before it
and it before the first. -/
structure Crossed (field : entity.Field) (direction : Direction)
    (low odd high : Row entity) : Prop where
  values : ValuesBefore field direction low high
  unordered : HoldsNaN field odd
  highFirst : (idOrder direction high odd).isLE = true
  lowLast : (idOrder direction odd low).isLE = true

/-- Every row of a list may stand before those behind it. -/
def Arranged (field : entity.Field) (direction : Direction)
    (rows : List (Row entity)) : Prop :=
  rows.Pairwise fun left right => (order field direction left right).isLE = true

/-- Comparing the rows of a list is transitive. -/
def Transitive (field : entity.Field) (direction : Direction)
    (rows : List (Row entity)) : Prop :=
  ∀ first ∈ rows, ∀ second ∈ rows, ∀ third ∈ rows,
    (order field direction first second).isLE = true →
    (order field direction second third).isLE = true →
      (order field direction first third).isLE = true

instance (field : entity.Field) (direction : Direction)
    (rows : List (Row entity)) : Decidable (Transitive field direction rows) :=
  inferInstanceAs (Decidable (∀ first ∈ rows, ∀ second ∈ rows, ∀ third ∈ rows,
    (order field direction first second).isLE = true →
    (order field direction second third).isLE = true →
      (order field direction first third).isLE = true))

section

variable {left right odd other low high first second third : Row entity}

theorem isProper_of_not_holdsNaN (hnumber : ¬HoldsNaN field left) :
    ∀ value ∈ left.get field, value.isProper = true := by
  intro value hvalue
  cases value with
  | float number =>
    cases hnan : number.isNaN with
    | false => rw [Value.isProper, hnan, Bool.not_false]
    | true => exact absurd ⟨number, hvalue, hnan⟩ hnumber
  | _ => rfl

theorem HoldsNaN.isSome (hodd : HoldsNaN field odd) :
    (odd.get field).isSome = true := by
  obtain ⟨number, hget, -⟩ := hodd
  rw [hget]
  rfl

/-- What is not a number leaves the order to the identifiers, as long as the
other row has a value. -/
theorem HoldsNaN.order_eq (hodd : HoldsNaN field odd)
    (hother : (other.get field).isSome = true) :
    order field direction odd other = idOrder direction odd other := by
  obtain ⟨number, hget, hnan⟩ := hodd
  obtain ⟨value, hvalue⟩ := Option.isSome_iff_exists.mp hother
  rw [order, hget, hvalue, valueOrder, Value.compare_of_isNaN hnan]
  cases direction <;> rfl

theorem HoldsNaN.order_eq' (hodd : HoldsNaN field odd)
    (hother : (other.get field).isSome = true) :
    order field direction other odd = idOrder direction other odd := by
  rw [order_swap field direction odd, hodd.order_eq hother]
  exact Std.OrientedCmp.eq_swap.symm

/-- No row stands behind one without a value, unless it has none either. -/
theorem isSome_of_isLE (hle : (order field direction left right).isLE = true)
    (hright : (right.get field).isSome = true) :
    (left.get field).isSome = true := by
  obtain ⟨value, hvalue⟩ := Option.isSome_iff_exists.mp hright
  rw [order, hvalue] at hle
  cases hleft : left.get field with
  | none =>
    rw [hleft] at hle
    cases hle
  | some _ => rfl

theorem isSome_of_not_isLE
    (hnot : ¬(order field direction left right).isLE = true)
    (hleft : (left.get field).isSome = true) :
    (right.get field).isSome = true := by
  obtain ⟨value, hvalue⟩ := Option.isSome_iff_exists.mp hleft
  rw [order, hvalue] at hnot
  cases hright : right.get field with
  | none =>
    rw [hright] at hnot
    exact absurd rfl hnot
  | some _ => rfl

/-- Where the values do not want the first row first, the identifiers decide. -/
theorem order_eq_idOrder (hle : (order field direction left right).isLE = true)
    (hvalues : ¬ValuesBefore field direction left right)
    (hright : (right.get field).isSome = true) :
    order field direction left right = idOrder direction left right := by
  obtain ⟨x, hx⟩ := Option.isSome_iff_exists.mp (isSome_of_isLE hle hright)
  obtain ⟨y, hy⟩ := Option.isSome_iff_exists.mp hright
  have hvalue : valueOrder direction (some x) (some y) = .eq := by
    rw [order, hx, hy] at hle
    rw [valueOrder]
    cases hcompare : x.compare y with
    | none => cases direction <;> rfl
    | some order =>
      have hnot : direction.apply order ≠ .lt :=
        fun hlt => hvalues ⟨x, hx, y, hy, order, hcompare, hlt⟩
      rw [valueOrder, hcompare, Option.getD_some] at hle
      rw [Option.getD_some]
      cases horder : direction.apply order with
      | lt => exact absurd horder hnot
      | eq => rfl
      | gt =>
        rw [horder] at hle
        cases hle
  rw [order, hx, hy, hvalue]
  rfl

theorem ValuesBefore.order_eq
    (hvalues : ValuesBefore field direction left right) :
    order field direction left right = .lt := by
  obtain ⟨x, hx, y, hy, order, horder, hlt⟩ := hvalues
  rw [Option.mem_def] at hx hy horder
  rw [Ranking.order, hx, hy, valueOrder, horder, Option.getD_some, hlt]
  rfl

theorem ValuesBefore.isSome
    (hvalues : ValuesBefore field direction left right) :
    (left.get field).isSome = true ∧ (right.get field).isSome = true := by
  obtain ⟨x, hx, y, hy, -⟩ := hvalues
  exact ⟨Option.isSome_iff_exists.mpr ⟨x, hx⟩,
    Option.isSome_iff_exists.mpr ⟨y, hy⟩⟩

/-- Crossed rows go round in a circle. -/
theorem Crossed.not_transitive {rows : List (Row entity)}
    (hcrossed : Crossed field direction low odd high) (hlow : low ∈ rows)
    (hodd : odd ∈ rows) (hhigh : high ∈ rows) :
    ¬Transitive field direction rows := by
  intro htransitive
  obtain ⟨hlowSome, hhighSome⟩ := hcrossed.values.isSome
  have hfirst : (order field direction high odd).isLE = true := by
    rw [hcrossed.unordered.order_eq' hhighSome]
    exact hcrossed.highFirst
  have hlast : (order field direction odd low).isLE = true := by
    rw [hcrossed.unordered.order_eq hlowSome]
    exact hcrossed.lowLast
  have hround := htransitive high hhigh odd hodd low hlow hfirst hlast
  rw [order_swap field direction low, hcrossed.values.order_eq] at hround
  cases hround

/-- Rows that go round in a circle are crossed at a value that is not a number,
or they are all equal. -/
theorem crossed_of_circle (hodd : HoldsNaN field odd)
    (hlow : (low.get field).isSome = true)
    (hhigh : (high.get field).isSome = true)
    (hlast : (order field direction odd low).isLE = true)
    (hbetween : (order field direction low high).isLE = true)
    (hfirst : (order field direction high odd).isLE = true) :
    Crossed field direction low odd high ∨
      order field direction odd low = .eq ∧
        order field direction low high = .eq ∧
          order field direction high odd = .eq := by
  rw [hodd.order_eq hlow] at hlast ⊢
  rw [hodd.order_eq' hhigh] at hfirst ⊢
  by_cases hvalues : ValuesBefore field direction low high
  · exact .inl ⟨hvalues, hodd, hfirst, hlast⟩
  · have hids := order_eq_idOrder hbetween hvalues hhigh
    rw [hids] at hbetween ⊢
    have hantisymm {x y : Row entity}
        (hle : (idOrder direction x y).isLE = true)
        (hge : (idOrder direction y x).isLE = true) :
        idOrder direction x y = .eq := Std.OrientedCmp.isLE_antisymm hle hge
    exact .inr ⟨hantisymm hlast (Std.TransCmp.isLE_trans hbetween hfirst),
      hantisymm hbetween (Std.TransCmp.isLE_trans hfirst hlast),
      hantisymm hfirst (Std.TransCmp.isLE_trans hlast hbetween)⟩

/-- Where going on from row to row fails, one of the three rows is crossed by
the other two. -/
theorem crossed_of_not_isLE
    (hfirst : (order field direction first second).isLE = true)
    (hsecond : (order field direction second third).isLE = true)
    (hnot : ¬(order field direction first third).isLE = true) :
    Crossed field direction second first third ∨
      Crossed field direction third second first ∨
        Crossed field direction first third second := by
  have hlt : order field direction third first = .lt := by
    rw [order_swap field direction first]
    cases horder : order field direction first third with
    | gt => rfl
    | lt | eq =>
      rw [horder] at hnot
      exact absurd rfl hnot
  have hback : (order field direction third first).isLE = true := by
    rw [hlt]
    rfl
  have hstrict : order field direction third first ≠ .eq := by
    rw [hlt]
    exact Ordering.noConfusion
  by_cases hodd : HoldsNaN field first ∨ HoldsNaN field second ∨
      HoldsNaN field third
  · have hfirstSome : (first.get field).isSome = true := by
      rcases hodd with hodd | hodd | hodd
      · exact hodd.isSome
      · exact isSome_of_isLE hfirst hodd.isSome
      · exact isSome_of_isLE hfirst (isSome_of_isLE hsecond hodd.isSome)
    have hthirdSome := isSome_of_not_isLE hnot hfirstSome
    have hsecondSome := isSome_of_isLE hsecond hthirdSome
    rcases hodd with hodd | hodd | hodd
    · exact .inl ((crossed_of_circle hodd hsecondSome hthirdSome hfirst hsecond
        hback).resolve_right fun hequal => hstrict hequal.2.2)
    · exact .inr (.inl ((crossed_of_circle hodd hthirdSome hfirstSome hsecond
        hback hfirst).resolve_right fun hequal => hstrict hequal.2.1))
    · exact .inr (.inr ((crossed_of_circle hodd hfirstSome hsecondSome hback
        hfirst hsecond).resolve_right fun hequal => hstrict hequal.1))
  · -- without such a value the rows have places
    rw [not_or, not_or] at hodd
    have hproperFirst := isProper_of_not_holdsNaN hodd.1
    have hproperSecond := isProper_of_not_holdsNaN hodd.2.1
    have hproperThird := isProper_of_not_holdsNaN hodd.2.2
    rw [order_eq_place hproperFirst hproperSecond] at hfirst
    rw [order_eq_place hproperSecond hproperThird] at hsecond
    rw [order_eq_place hproperFirst hproperThird] at hnot
    exact absurd (Std.TransCmp.isLE_trans hfirst hsecond) hnot

end

theorem transitive_iff {rows : List (Row entity)} :
    Transitive field direction rows ↔
      ∀ low ∈ rows, ∀ odd ∈ rows, ∀ high ∈ rows,
        ¬Crossed field direction low odd high := by
  constructor
  · intro htransitive low hlow odd hodd high hhigh hcrossed
    exact hcrossed.not_transitive hlow hodd hhigh htransitive
  · intro hcrossed first hfirst second hsecond third hthird hle hle'
    by_contra hnot
    rcases crossed_of_not_isLE hle hle' hnot with h | h | h
    · exact hcrossed _ hsecond _ hfirst _ hthird h
    · exact hcrossed _ hthird _ hsecond _ hfirst h
    · exact hcrossed _ hfirst _ hthird _ hsecond h

/-- Proper values leave no row between others unordered. -/
theorem transitive_of_proper {rows : List (Row entity)}
    (hproper : ∀ row ∈ rows, ∀ value ∈ row.get field, value.isProper = true) :
    Transitive field direction rows := by
  rw [transitive_iff]
  intro low _ odd hodd high _ hcrossed
  obtain ⟨number, hget, hnan⟩ := hcrossed.unordered
  have hnumber := hproper odd hodd _ hget
  rw [Value.isProper, hnan] at hnumber
  cases hnumber

/-! ## Arrangements -/

section

variable {α : Type} {less : α → α → Bool}

theorem insertFromEnd_map {β : Type} (f : β → α) (x : β) (run : List β) :
    insertFromEnd less (f x) (run.map f) =
      (insertFromEnd (fun left right => less (f left) (f right)) x run).map
        f := by
  induction run with
  | nil => rfl
  | cons last others ih =>
    rw [List.map_cons, insertFromEnd, insertFromEnd, ih]
    split <;> rfl

theorem sorted_map {β : Type} (f : β → α) (elements : List β) :
    sorted less (elements.map f) =
      (sorted (fun left right => less (f left) (f right)) elements).map f := by
  have hfold (rest run : List β) :
      (rest.map f).foldl (fun run x => insertFromEnd less x run) (run.map f) =
        (rest.foldl (fun run x => insertFromEnd
          (fun left right => less (f left) (f right)) x run) run).map f := by
    induction rest generalizing run with
    | nil => rfl
    | cons first others ih =>
      rw [List.map_cons, List.foldl_cons, List.foldl_cons, insertFromEnd_map,
        ih]
  rw [sorted, sorted, List.map_reverse, ← hfold, List.map_nil]

end

section

variable {rows arrangement : List (Row entity)}

/-- Rows that are compared transitively are put in order by sorting. -/
theorem Transitive.arranged_sortRows
    (htransitive : Transitive field direction rows) :
    Arranged field direction (sortRows field direction rows) := by
  have hordered : Std.TransCmp fun left right : { row // row ∈ rows } =>
      order field direction left.val right.val :=
    { eq_swap := fun {left right} => order_swap field direction right left
      isLE_trans := fun {first second third} =>
        htransitive first.val first.property second.val second.property
          third.val third.property }
  have hrows : sortRows field direction rows =
      (sorted (fun left right : { row // row ∈ rows } =>
        order field direction left.val right.val == .lt) rows.attach).map
          Subtype.val := by
    let less (left right : Row entity) : Bool :=
      order field direction left right == .lt
    have hmap :=
      @sorted_map _ less { row // row ∈ rows } Subtype.val rows.attach
    rw [← hmap, List.attach_map_subtype_val, sortRows]
  rw [Arranged, hrows, List.pairwise_map]
  exact sorted_pairwise rows.attach

theorem order_self (row : Row entity) :
    order field direction row row = .eq := by
  have hswap := order_swap field direction row row
  cases horder : order field direction row row with
  | eq => rfl
  | lt | gt =>
    rw [horder] at hswap
    cases hswap

theorem id_eq_of_isLE {left right : Row entity}
    (hle : (order field direction left right).isLE = true)
    (hge : (order field direction right left).isLE = true) :
    left.id = right.id := by
  have horder : order field direction left right = .eq := by
    rw [order_swap field direction left] at hge
    cases horder : order field direction left right with
    | eq => rfl
    | lt | gt =>
      rw [horder] at hle hge
      contradiction
  rw [order, Ordering.then_eq_eq] at horder
  apply Uuid.eq_of_compare
  cases direction with
  | ascending => exact horder.2
  | descending => exact Ordering.swap_eq_eq.mp horder.2

/-- There is at most one arrangement of rows with identifiers of their own. -/
theorem Arranged.eq {others : List (Row entity)}
    (harranged : Arranged field direction arrangement)
    (hothers : Arranged field direction others)
    (hids : (others.map Row.id).Nodup) (hperm : arrangement.Perm others) :
    arrangement = others := by
  apply List.Perm.eq_of_pairwise _ harranged hothers hperm
  intro left right hleft hright hle hge
  exact List.inj_on_of_nodup_map hids (hperm.mem_iff.mp hleft) hright
    (id_eq_of_isLE hle hge)

/-- In an arrangement of rows with identifiers of their own the places are the
order. -/
theorem Arranged.isLE_getElem_iff
    (harranged : Arranged field direction arrangement)
    (hids : (arrangement.map Row.id).Nodup) {i j : Nat}
    (hi : i < arrangement.length) (hj : j < arrangement.length) :
    (order field direction arrangement[i] arrangement[j]).isLE = true ↔
      i ≤ j := by
  rw [Arranged, List.pairwise_iff_getElem] at harranged
  constructor
  · intro hle
    by_contra hlt
    have hge := harranged j i hj hi (Nat.lt_of_not_le hlt)
    have hsame : i = j := by
      have hi' : i < (arrangement.map Row.id).length := by simpa using hi
      have hj' : j < (arrangement.map Row.id).length := by simpa using hj
      have hid : (arrangement.map Row.id)[i] = (arrangement.map Row.id)[j] := by
        rw [List.getElem_map, List.getElem_map]
        exact id_eq_of_isLE hle hge
      exact hids.getElem_inj_iff.mp hid
    exact hlt (Nat.le_of_eq hsame)
  · intro hle
    rcases Nat.lt_or_eq_of_le hle with hlt | rfl
    · exact harranged i j hi hj hlt
    · rw [order_self]
      rfl

/-- Only rows that are compared transitively have an arrangement. -/
theorem Arranged.transitive
    (harranged : Arranged field direction arrangement)
    (hids : (arrangement.map Row.id).Nodup) :
    Transitive field direction arrangement := by
  intro first hfirst second hsecond third hthird hle hle'
  obtain ⟨i, hi, rfl⟩ := List.getElem_of_mem hfirst
  obtain ⟨j, hj, rfl⟩ := List.getElem_of_mem hsecond
  obtain ⟨k, hk, rfl⟩ := List.getElem_of_mem hthird
  rw [harranged.isLE_getElem_iff hids] at hle hle' ⊢
  exact Nat.le_trans hle hle'

theorem Transitive.of_perm (htransitive : Transitive field direction rows)
    (hperm : arrangement.Perm rows) :
    Transitive field direction arrangement := by
  intro first hfirst second hsecond third hthird
  exact htransitive first (hperm.mem_iff.mp hfirst) second
    (hperm.mem_iff.mp hsecond) third (hperm.mem_iff.mp hthird)

end

/-- Two rows compared the other way round give the opposite answer.  Rows are
compared transitively unless three of them are crossed, and then sorting puts
each before those that it may stand before.  Rows with identifiers of their own
that are not compared transitively have no such arrangement at all; the others
have one, which sorting finds however the rows stood before. -/
theorem compared_lawfully (field : entity.Field) (direction : Direction) :
    (∀ left right : Row entity, order field direction right left =
      (order field direction left right).swap) ∧
    ∀ rows : List (Row entity),
      (Transitive field direction rows ↔
        ∀ low ∈ rows, ∀ odd ∈ rows, ∀ high ∈ rows,
          ¬Crossed field direction low odd high) ∧
      (Transitive field direction rows →
        Arranged field direction (sortRows field direction rows)) ∧
      ((rows.map Row.id).Nodup → ∀ others : List (Row entity),
        others.Perm rows →
          (Arranged field direction others ↔
            Transitive field direction rows ∧
              others = sortRows field direction rows) ∧
          (Transitive field direction rows →
            sortRows field direction others =
              sortRows field direction rows)) := by
  refine ⟨order_swap field direction, fun rows => ⟨transitive_iff,
    Transitive.arranged_sortRows, fun hids others hperm => ?_⟩⟩
  have hsorted : (sortRows field direction rows).Perm rows := sorted_perm rows
  have hsortedIds : ((sortRows field direction rows).map Row.id).Nodup :=
    (hsorted.map Row.id).nodup_iff.mpr hids
  constructor
  · constructor
    · intro harranged
      have hothers : (others.map Row.id).Nodup :=
        (hperm.map Row.id).nodup_iff.mpr hids
      have htransitive := (harranged.transitive hothers).of_perm hperm.symm
      exact ⟨htransitive, harranged.eq htransitive.arranged_sortRows hsortedIds
        (hperm.trans hsorted.symm)⟩
    · rintro ⟨htransitive, rfl⟩
      exact htransitive.arranged_sortRows
  · intro htransitive
    exact (htransitive.of_perm hperm).arranged_sortRows.eq
      htransitive.arranged_sortRows hsortedIds
      (((sorted_perm others).trans hperm).trans hsorted.symm)

/-- A province by its area. -/
def sampleMeasured (number : BitVec 128) (area : Float) : Row .provinces
  | .id => ⟨number⟩
  | .name => "P"
  | .nameNepali => none
  | .areaSqKm => some area
  | .population => none
  | .headquarter => none
  | .headquarterNepali => none
  | .districtCount => (0 : Int)
  | .createdAt => ⟨0, 0⟩
  | .updatedAt => ⟨0, 0⟩

/-- Areas of two, of what is not a number and of one. -/
def sampleAreas : List (Row .provinces) :=
  [sampleMeasured 1 (Float.ofBits 0x4000000000000000),
    sampleMeasured 2 (Float.ofBits 0x7FF8000000000000),
    sampleMeasured 3 (Float.ofBits 0x3FF0000000000000)]

theorem compared_lawfully_sample :
    (sampleAreas.map Row.id).Nodup ∧
    ¬Transitive ProvinceField.areaSqKm .ascending sampleAreas ∧
    (∀ arrangement : List (Row .provinces), arrangement.Perm sampleAreas →
      ¬Arranged ProvinceField.areaSqKm .ascending arrangement) ∧
    (sortRows ProvinceField.areaSqKm .ascending sampleAreas).map Row.id =
      [⟨1⟩, ⟨2⟩, ⟨3⟩] ∧
    Arranged ProvinceField.areaSqKm .ascending
      (sortRows ProvinceField.areaSqKm .ascending sampleAreas.tail) := by
  have hids : (sampleAreas.map Row.id).Nodup := by decide
  obtain ⟨-, hrows⟩ :=
    @compared_lawfully .provinces ProvinceField.areaSqKm .ascending
  obtain ⟨htransitive, -, hunique⟩ := hrows sampleAreas
  have hcrossed : @Crossed .provinces ProvinceField.areaSqKm .ascending
      (sampleMeasured 3 (Float.ofBits 0x3FF0000000000000))
      (sampleMeasured 2 (Float.ofBits 0x7FF8000000000000))
      (sampleMeasured 1 (Float.ofBits 0x4000000000000000)) :=
    ⟨⟨_, rfl, _, rfl, .lt, by decide, rfl⟩, ⟨_, rfl, by decide⟩, by decide,
      by decide⟩
  have hnot : ¬Transitive ProvinceField.areaSqKm .ascending sampleAreas := by
    rw [htransitive]
    intro hnone
    exact hnone _ (by simp [sampleAreas]) _ (by simp [sampleAreas]) _
      (by simp [sampleAreas]) hcrossed
  refine ⟨hids, hnot, fun arrangement hperm harranged => ?_, by decide, ?_⟩
  · exact hnot (((hunique hids arrangement hperm).1.mp harranged).1)
  · exact (hrows sampleAreas.tail).2.1 (by decide)

end Ranking

end CivicRegistry
