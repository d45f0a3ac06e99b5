import CivicRegistry.Proofs.Value.Order

/-!
# Sorted rows

Rows whose values are proper are totally ordered by an attribute and their
identifiers, so sorting them gives the one arrangement that is in order, however
it is found.
-/

namespace CivicRegistry

/-! ## Orders -/

section

variable {α : Type} {order : α → α → Ordering}

theorem transCmp_map [Std.TransCmp order] {β : Type} (f : β → α) :
    Std.TransCmp fun left right => order (f left) (f right) where
  eq_swap := Std.OrientedCmp.eq_swap
  isLE_trans := Std.TransCmp.isLE_trans

instance [Std.TransCmp order] (direction : Direction) :
    Std.TransCmp fun left right => direction.apply (order left right) := by
  cases direction with
  | ascending => exact inferInstanceAs (Std.TransCmp order)
  | descending =>
    have hswap : (fun left right => Direction.descending.apply
        (order left right)) = fun left right => order right left := by
      funext left right
      exact Std.OrientedCmp.eq_swap.symm
    rw [hswap]
    exact Std.TransCmp.opposite

namespace Ranking

/-- The order of values that may be absent, absent ones last. -/
def absentLast (order : α → α → Ordering) : Option α → Option α → Ordering
  | some left, some right => order left right
  | some _, none => .lt
  | none, some _ => .gt
  | none, none => .eq

instance [Std.TransCmp order] : Std.TransCmp (absentLast order) where
  eq_swap {left right} := by
    cases left <;> cases right
    case some.some left right =>
      exact @Std.OrientedCmp.eq_swap α order _ left right
    all_goals rfl
  isLE_trans {left middle right} := by
    cases left <;> cases middle <;> cases right
    case some.some.some left middle right =>
      exact @Std.TransCmp.isLE_trans α order _ left middle right
    all_goals simp [absentLast]

end Ranking

end

/-! ## Sorting -/

namespace Ranking

section

variable {α : Type} {less : α → α → Bool}

theorem insertFromEnd_perm (x : α) (run : List α) :
    (insertFromEnd less x run).Perm (x :: run) := by
  induction run with
  | nil => exact List.Perm.refl [x]
  | cons last others ih =>
    rw [insertFromEnd]
    split
    · exact (ih.cons last).trans (List.Perm.swap x last others)
    · exact List.Perm.refl _

theorem foldl_insertFromEnd_perm (elements run : List α) :
    (elements.foldl (fun run x => insertFromEnd less x run) run).Perm
      (elements ++ run) := by
  induction elements generalizing run with
  | nil => exact List.Perm.refl run
  | cons first others ih =>
    have hfirst : (others ++ insertFromEnd less first run).Perm
        (others ++ first :: run) :=
      (insertFromEnd_perm first run).append_left others
    exact (ih (insertFromEnd less first run)).trans
      (hfirst.trans List.perm_middle)

/-- Sorting only changes the order. -/
theorem sorted_perm (elements : List α) :
    (sorted less elements).Perm elements := by
  have hfold : (elements.foldl (fun run x => insertFromEnd less x run) []).Perm
      (elements ++ []) := foldl_insertFromEnd_perm elements []
  rw [List.append_nil] at hfold
  exact (List.reverse_perm _).trans hfold

theorem insertFromEnd_congr {other : α → α → Bool} {x : α} {run : List α}
    (hsame : ∀ last ∈ run, less x last = other x last) :
    insertFromEnd less x run = insertFromEnd other x run := by
  induction run with
  | nil => rfl
  | cons last others ih =>
    rw [List.forall_mem_cons] at hsame
    rw [insertFromEnd, insertFromEnd, hsame.1, ih hsame.2]

/-- Sorting depends only on how the elements compare with each other. -/
theorem sorted_congr {other : α → α → Bool} {elements : List α}
    (hsame : ∀ left ∈ elements, ∀ right ∈ elements,
      less left right = other left right) :
    sorted less elements = sorted other elements := by
  have hfold : ∀ rest run : List α, rest ⊆ elements → run ⊆ elements →
      rest.foldl (fun run x => insertFromEnd less x run) run =
        rest.foldl (fun run x => insertFromEnd other x run) run := by
    intro rest
    induction rest with
    | nil =>
      intro run _ _
      rfl
    | cons first others ih =>
      intro run hrest hrun
      rw [List.cons_subset] at hrest
      have hfirst : insertFromEnd less first run =
          insertFromEnd other first run :=
        insertFromEnd_congr fun last hlast =>
          hsame first hrest.1 last (hrun hlast)
      have hinserted : insertFromEnd other first run ⊆ elements := by
        intro x hx
        rw [(insertFromEnd_perm first run).mem_iff, List.mem_cons] at hx
        rcases hx with rfl | hx
        · exact hrest.1
        · exact hrun hx
      rw [List.foldl_cons, List.foldl_cons, hfirst]
      exact ih _ hrest.2 hinserted
  rw [sorted, sorted, hfold elements [] (List.Subset.refl elements)
    (List.nil_subset elements)]

end

section

variable {α : Type} {order : α → α → Ordering} [Std.TransCmp order]

/-- A run stays in order when an element is inserted into it. -/
theorem insertFromEnd_pairwise {x : α} {run : List α}
    (hrun : run.Pairwise fun last before => (order before last).isLE = true) :
    (insertFromEnd (fun left right => order left right == .lt) x run).Pairwise
      fun last before => (order before last).isLE = true := by
  induction run with
  | nil => exact List.pairwise_singleton _ _
  | cons last others ih =>
    rw [List.pairwise_cons] at hrun
    obtain ⟨hlast, hothers⟩ := hrun
    rw [insertFromEnd]
    split
    · next hless =>
      apply List.Pairwise.cons _ (ih hothers)
      intro before hbefore
      rw [(insertFromEnd_perm x others).mem_iff, List.mem_cons] at hbefore
      rcases hbefore with rfl | hbefore
      · rw [eq_of_beq hless]
        rfl
      · exact hlast before hbefore
    · next hless =>
      have hle : (order last x).isLE = true := by
        rw [← Std.OrientedCmp.isGE_iff_isLE]
        cases horder : order x last with
        | lt => exact absurd (beq_iff_eq.mpr horder) hless
        | eq | gt => rfl
      apply List.Pairwise.cons _ (List.Pairwise.cons hlast hothers)
      intro before hbefore
      rw [List.mem_cons] at hbefore
      rcases hbefore with rfl | hbefore
      · exact hle
      · exact Std.TransCmp.isLE_trans (hlast before hbefore) hle

/-- What has been sorted is in order. -/
theorem sorted_pairwise (elements : List α) :
    (sorted (fun left right => order left right == .lt) elements).Pairwise
      fun left right => (order left right).isLE = true := by
  have hfold : ∀ run : List α,
      (run.Pairwise fun last before => (order before last).isLE = true) →
      (elements.foldl (fun run x =>
        insertFromEnd (fun left right => order left right == .lt) x run)
          run).Pairwise fun last before => (order before last).isLE = true := by
    induction elements with
    | nil =>
      intro run hrun
      exact hrun
    | cons first others ih =>
      intro run hrun
      exact ih _ (insertFromEnd_pairwise hrun)
  rw [sorted, List.pairwise_reverse]
  exact hfold [] List.Pairwise.nil

/-- Where only the same element has the same place, every way of sorting gives
the same arrangement. -/
theorem sorted_eq_mergeSort {elements others : List α}
    (hperm : elements.Perm others)
    (hsame : ∀ left ∈ elements, ∀ right ∈ elements,
      order left right = .eq → left = right) :
    sorted (fun left right => order left right == .lt) elements =
      others.mergeSort fun left right => (order left right).isLE := by
  have htrans : ∀ left middle right : α, (order left middle).isLE = true →
      (order middle right).isLE = true → (order left right).isLE = true :=
    fun _ _ _ => Std.TransCmp.isLE_trans
  have htotal : ∀ left right : α,
      ((order left right).isLE || (order right left).isLE) = true := by
    intro left right
    have hswap : order left right = (order right left).swap :=
      Std.OrientedCmp.eq_swap
    rw [hswap]
    cases order right left <;> rfl
  have hmerged : (others.mergeSort fun left right =>
      (order left right).isLE).Perm elements :=
    (List.mergeSort_perm others _).trans hperm.symm
  have hsorted : (sorted (fun left right => order left right == .lt)
      elements).Perm elements := sorted_perm elements
  apply List.Perm.eq_of_pairwise _ (sorted_pairwise elements)
    (List.pairwise_mergeSort htrans htotal others) (hsorted.trans hmerged.symm)
  intro left right hleft hright hle hge
  apply hsame left (hsorted.mem_iff.mp hleft) right (hmerged.mem_iff.mp hright)
  exact Std.OrientedCmp.isLE_antisymm hle hge

end

end Ranking

/-! ## Rows -/

namespace Attribute

/-- What a row holds for an attribute, if anything. -/
def held? (a : Attribute) : a.Carrier → Option a.kind.Carrier :=
  match a with
  | ⟨_, _, _, true, _⟩ => fun held => held
  | ⟨_, _, _, false, _⟩ => fun held => some held

theorem value?_eq_map (a : Attribute) (held : a.Carrier) :
    a.value? held = (a.held? held).map a.kind.toValue := by
  obtain ⟨constant, column, kind, required, origin⟩ := a
  cases required <;> rfl

end Attribute

namespace Ranking

variable {entity : Entity}

/-- The order of two rows by the places of what they hold for an attribute and
then by their identifiers. -/
def place (field : entity.Field) (direction : Direction) :
    Row entity → Row entity → Ordering :=
  compareLex
    (fun left right => absentLast (fun left right =>
        direction.apply ((Entity.info field).kind.order left right))
      ((Entity.info field).held? (left field))
      ((Entity.info field).held? (right field)))
    (fun left right => direction.apply (left.id.compare right.id))

instance (field : entity.Field) (direction : Direction) :
    Std.TransCmp (place field direction) := by
  have hvalues : Std.TransCmp fun left right : Row entity =>
      absentLast (fun left right =>
          direction.apply ((Entity.info field).kind.order left right))
        ((Entity.info field).held? (left field))
        ((Entity.info field).held? (right field)) :=
    transCmp_map fun row : Row entity => (Entity.info field).held? (row field)
  have huuids : Std.TransCmp fun left right : Uuid =>
      direction.apply (left.compare right) := inferInstance
  have hids : Std.TransCmp fun left right : Row entity =>
      direction.apply (left.id.compare right.id) :=
    @transCmp_map Uuid _ huuids _ Row.id
  exact inferInstanceAs (Std.TransCmp (compareLex _ _))

/-- Rows are ordered by their places where their values are proper. -/
theorem order_eq_place {field : entity.Field} {direction : Direction}
    {left right : Row entity}
    (hleft : ∀ value ∈ left.get field, value.isProper = true)
    (hright : ∀ value ∈ right.get field, value.isProper = true) :
    order field direction left right = place field direction left right := by
  rw [Row.get, Attribute.value?_eq_map] at hleft hright
  rw [order, place, compareLex, Row.get, Row.get, Attribute.value?_eq_map,
    Attribute.value?_eq_map]
  congr 1
  cases hheldLeft : (Entity.info field).held? (left field) with
  | none => cases (Entity.info field).held? (right field) <;> rfl
  | some heldLeft =>
    cases hheldRight : (Entity.info field).held? (right field) with
    | none => rfl
    | some heldRight =>
      rw [hheldLeft] at hleft
      rw [hheldRight] at hright
      have hcompare := (Entity.info field).kind.compare_toValue
        (hleft _ rfl) (hright _ rfl)
      rw [Option.map_some, Option.map_some, valueOrder, hcompare]
      rfl

theorem id_eq_of_place {field : entity.Field} {direction : Direction}
    {left right : Row entity}
    (hplace : place field direction left right = .eq) : left.id = right.id := by
  rw [place, compareLex, Ordering.then_eq_eq] at hplace
  apply Uuid.eq_of_compare
  have hid := hplace.2
  cases direction with
  | ascending => exact hid
  | descending => exact Ordering.swap_eq_eq.mp hid

/-- Rows with different identifiers and proper values have one arrangement that
is in order. -/
theorem sortRows_eq_mergeSort {field : entity.Field} {direction : Direction}
    {rows others : List (Row entity)} (hperm : rows.Perm others)
    (hids : ∀ left ∈ rows, ∀ right ∈ rows, left.id = right.id → left = right)
    (hproper : ∀ row ∈ rows, ∀ value ∈ row.get field, value.isProper = true) :
    sortRows field direction rows = others.mergeSort fun left right =>
      (order field direction left right).isLE := by
  have hsame : ∀ left ∈ rows, ∀ right ∈ rows,
      order field direction left right = place field direction left right :=
    fun left hleft right hright =>
      order_eq_place (hproper left hleft) (hproper right hright)
  have hmerged : (others.mergeSort fun left right =>
        (order field direction left right).isLE).map id =
      (others.map id).mergeSort fun left right =>
        (place field direction left right).isLE := by
    apply List.map_mergeSort
    intro left hleft right hright
    rw [hsame left (hperm.mem_iff.mpr hleft) right (hperm.mem_iff.mpr hright)]
    rfl
  rw [List.map_id, List.map_id] at hmerged
  calc
    sortRows field direction rows =
        sorted (fun left right => place field direction left right == .lt)
          rows := by
      apply sorted_congr
      intro left hleft right hright
      rw [hsame left hleft right hright]
    _ = others.mergeSort fun left right =>
        (place field direction left right).isLE := by
      apply sorted_eq_mergeSort hperm
      intro left hleft right hright hplace
      exact hids left hleft right hright (id_eq_of_place hplace)
    _ = others.mergeSort fun left right =>
        (order field direction left right).isLE := hmerged.symm

end Ranking

end CivicRegistry
