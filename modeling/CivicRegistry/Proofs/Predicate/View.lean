import CivicRegistry.Predicate.Match
import CivicRegistry.Proofs.Value.Order

/-!
# Views of a row

A view shows one value, or none, for each attribute of a row: of a list one of
its elements, and nothing where it is empty.  A row has as many views as there
are ways to choose those elements.

A predicate may hold of a row and of none of its views, since in a view two
conditions on the same list speak of the same element, and it may hold of views
only, since an alternative without parts holds of these.  Where neither can
happen it holds of a row exactly if it holds of a view.
-/

namespace CivicRegistry

/-- A value, or nothing, for each attribute of an entity. -/
abbrev View (entity : Entity) : Type :=
  entity.Field → Option Value

variable {entity : Entity}

/-- What can be shown of a value of an attribute. -/
def shownValues : Option Value → List (Option Value)
  | some (.list []) => [none]
  | some (.list (first :: others)) => (first :: others).map some
  | value => [value]

/-- The view shows the row. -/
def Row.Shows (row : Row entity) (view : View entity) : Prop :=
  ∀ field, view field ∈ shownValues (row.get field)

/-- None of the values shown for some attributes is a float that is not a
number. -/
def View.IsProperOn (view : View entity) (fields : List entity.Field) : Prop :=
  ∀ field ∈ fields, ∀ value ∈ view field, value.isProper = true

/-- None of the values of the row is a float that is not a number. -/
def Row.IsProper (row : Row entity) : Prop :=
  ∀ field, ∀ value ∈ row.get field, value.isProper = true

theorem Row.IsProper.on {row : Row entity} (hproper : row.IsProper)
    (fields : List entity.Field) : View.IsProperOn row.get fields := by
  intro field _
  exact hproper field

/-- The items of a list. -/
def Value.items? : Value → Option (List Value)
  | .list items => some items
  | _ => none

/-- What the condition compares its field with. -/
def Condition.operands {F : Type} (condition : Condition F) : List Value :=
  match condition.operator, condition.data.items? with
  | .oneOf, some items => items
  | _, _ => [condition.data]

/-- Whether the values of an attribute are lists. -/
def Entity.isCollected (field : entity.Field) : Bool :=
  match (Entity.info field).origin with
  | .elementsOf _ => true
  | _ => false

namespace Predicate

mutual

/-- Whether a predicate holds of a view; an alternative without parts does. -/
def shown (view : View entity) : Predicate entity.Field → Bool
  | .always => true
  | .all parts => allShown view parts
  | .any parts => parts.isEmpty || anyShown view parts
  | .leaf condition =>
    (view condition.field).any (·.satisfies condition.operator condition.data)
  | .near proximity =>
    match (view proximity.latitude).bind Value.number?,
        (view proximity.longitude).bind Value.number? with
    | some latitude, some longitude =>
      proximity.circle.center.distance ⟨latitude, longitude⟩ ≤
        proximity.circle.radius
    | _, _ => false

def allShown (view : View entity) : List (Predicate entity.Field) → Bool
  | [] => true
  | part :: others => part.shown view && allShown view others

def anyShown (view : View entity) : List (Predicate entity.Field) → Bool
  | [] => false
  | part :: others => part.shown view || anyShown view others

end

mutual

/-- The attributes that a predicate speaks of, from left to right. -/
def fields : Predicate entity.Field → List entity.Field
  | .always => []
  | .all parts => partFields parts
  | .any parts => partFields parts
  | .leaf condition => [condition.field]
  | .near proximity => [proximity.latitude, proximity.longitude]

def partFields : List (Predicate entity.Field) → List entity.Field
  | [] => []
  | part :: others => part.fields ++ partFields others

end

mutual

/-- The circles of a predicate. -/
def circles : Predicate entity.Field → List Circle
  | .always => []
  | .all parts => partCircles parts
  | .any parts => partCircles parts
  | .leaf _ => []
  | .near proximity => [proximity.circle]

def partCircles : List (Predicate entity.Field) → List Circle
  | [] => []
  | part :: others => part.circles ++ partCircles others

end

variable {F : Type}

mutual

/-- The conditions of a predicate from left to right. -/
def conditions : Predicate F → List (Condition F)
  | .always => []
  | .all parts => partConditions parts
  | .any parts => partConditions parts
  | .leaf condition => [condition]
  | .near _ => []

def partConditions : List (Predicate F) → List (Condition F)
  | [] => []
  | part :: others => part.conditions ++ partConditions others

end

/-- No condition compares with a float that is not a number. -/
def IsProper (predicate : Predicate F) : Prop :=
  ∀ condition ∈ predicate.conditions, ∀ value ∈ condition.operands,
    value.isProper = true

mutual

/-- No alternative of the predicate is without parts. -/
def Populated : Predicate entity.Field → Prop
  | .always => True
  | .all parts => AllPopulated parts
  | .any parts => parts ≠ [] ∧ AllPopulated parts
  | .leaf _ => True
  | .near _ => True

def AllPopulated : List (Predicate entity.Field) → Prop
  | [] => True
  | part :: others => part.Populated ∧ AllPopulated others

end

/-- Two predicates speak of no list in common. -/
def Apart (left right : Predicate entity.Field) : Prop :=
  ∀ field ∈ left.fields, field ∈ right.fields →
    Entity.isCollected field = false

mutual

/-- No two conditions that have to hold together speak of the same list. -/
def Separate : Predicate entity.Field → Prop
  | .always => True
  | .all parts => parts.Pairwise Apart ∧ AllSeparate parts
  | .any parts => AllSeparate parts
  | .leaf _ => True
  | .near _ => True

def AllSeparate : List (Predicate entity.Field) → Prop
  | [] => True
  | part :: others => part.Separate ∧ AllSeparate others

end

end Predicate

/-! ## What rows show -/

theorem kind_eq_roles_iff (field : entity.Field) :
    (Entity.info field).kind = .roles ↔ Entity.isCollected field = true := by
  have hall : ∀ field ∈ entity.fields,
      ((Entity.info field).kind = .roles ↔
        Entity.isCollected field = true) := by
    cases entity <;> decide
  exact hall field (Enumeration.mem_all field)

namespace Attribute

theorem shownValues_value? {a : Attribute} (hkind : a.kind ≠ .roles)
    (held : a.Carrier) : shownValues (a.value? held) = [a.value? held] := by
  obtain ⟨constant, column, kind, optional, origin⟩ := a
  cases optional with
  | false => cases kind <;> first | rfl | exact absurd rfl hkind
  | true =>
    cases held with
    | none => rfl
    | some held => cases kind <;> first | rfl | exact absurd rfl hkind

theorem value?_of_roles {a : Attribute} (hkind : a.kind = .roles)
    (held : a.Carrier) :
    a.value? held = none ∨
      ∃ words : List String,
        a.value? held = some (.list (words.map .text)) := by
  obtain ⟨constant, column, kind, optional, origin⟩ := a
  subst hkind
  have hwords (roles : List Role) : ∃ words : List String,
      Kind.roles.toValue roles = .list (words.map .text) :=
    ⟨roles.map Vocabulary.word, by rw [Kind.toValue, List.map_map]; rfl⟩
  cases optional with
  | false =>
    obtain ⟨words, heq⟩ := hwords held
    exact .inr ⟨words, congrArg some heq⟩
  | true =>
    cases held with
    | none => exact .inl rfl
    | some held =>
      obtain ⟨words, heq⟩ := hwords held
      exact .inr ⟨words, congrArg some heq⟩

end Attribute

namespace Row

variable {row : Row entity} {view : View entity}

/-- Of what is no list only the value itself can be shown. -/
theorem shownValues_get {field : entity.Field}
    (hfield : Entity.isCollected field = false) :
    shownValues (row.get field) = [row.get field] := by
  have hkind : (Entity.info field).kind ≠ .roles := by
    rw [ne_eq, kind_eq_roles_iff, hfield]
    exact Bool.false_ne_true
  exact Attribute.shownValues_value? hkind (row field)

theorem Shows.eq_get (hshows : row.Shows view) {field : entity.Field}
    (hfield : Entity.isCollected field = false) :
    view field = row.get field := by
  have hmem := hshows field
  rw [shownValues_get hfield, List.mem_singleton] at hmem
  exact hmem

/-- The elements of lists are texts, so what a view shows is proper where what
the row holds is. -/
theorem Shows.isProperOn (hshows : row.Shows view) {fields : List entity.Field}
    (hproper : View.IsProperOn row.get fields) : view.IsProperOn fields := by
  intro field hspoken value hvalue
  cases hfield : Entity.isCollected field with
  | false =>
    rw [hshows.eq_get hfield] at hvalue
    exact hproper field hspoken value hvalue
  | true =>
    have hmem := hshows field
    rcases Attribute.value?_of_roles ((kind_eq_roles_iff field).mpr hfield)
      (row field) with hnone | ⟨words, hwords⟩
    · rw [get, hnone] at hmem
      rw [List.mem_singleton.mp hmem] at hvalue
      cases hvalue
    · rw [get, hwords] at hmem
      cases words with
      | nil =>
        rw [List.mem_singleton.mp hmem] at hvalue
        cases hvalue
      | cons first others =>
        obtain ⟨item, hitem, hview⟩ := List.mem_map.mp hmem
        rw [← List.map_cons] at hitem
        obtain ⟨word, _, rfl⟩ := List.mem_map.mp hitem
        rw [← hview] at hvalue
        cases hvalue
        rfl

/-- The elements of lists are no numbers. -/
theorem Shows.number?_eq (hshows : row.Shows view) (field : entity.Field) :
    (view field).bind Value.number? = (row.get field).bind Value.number? := by
  cases hfield : Entity.isCollected field with
  | false => rw [hshows.eq_get hfield]
  | true =>
    have hmem := hshows field
    rcases Attribute.value?_of_roles ((kind_eq_roles_iff field).mpr hfield)
      (row field) with hnone | ⟨words, hwords⟩
    · rw [get, hnone] at hmem ⊢
      rw [List.mem_singleton.mp hmem]
    · rw [get, hwords] at hmem ⊢
      cases words with
      | nil => rw [List.mem_singleton.mp hmem]; rfl
      | cons first others =>
        obtain ⟨item, hitem, hview⟩ := List.mem_map.mp hmem
        rw [← List.map_cons] at hitem
        obtain ⟨word, _, rfl⟩ := List.mem_map.mp hitem
        rw [← hview]
        rfl

end Row

/-- A value that satisfies a condition is shown where one of its elements
does. -/
theorem exists_shown_iff {value : Option Value} {operator : Operator}
    {data : Value} :
    (∃ shown ∈ shownValues value,
      shown.any (·.satisfies operator data) = true) ↔
        value.any (·.anySatisfies operator data) = true := by
  match value with
  | none => simp [shownValues]
  | some (.list []) => simp [shownValues, Value.anySatisfies]
  | some (.list (first :: others)) =>
    constructor
    · rintro ⟨shown, hshown, hsatisfies⟩
      obtain ⟨item, hitem, rfl⟩ := List.mem_map.mp hshown
      exact List.any_eq_true.mpr ⟨item, hitem, hsatisfies⟩
    · intro hany
      obtain ⟨item, hitem, hsatisfies⟩ := List.any_eq_true.mp hany
      exact ⟨some item, List.mem_map_of_mem hitem, hsatisfies⟩
  | some (.text _) | some (.integer _) | some (.float _) | some (.boolean _)
  | some (.uuid _) | some (.date _) | some (.instant _) =>
    simp [shownValues, Value.anySatisfies]

/-- Every row has a view. -/
theorem exists_shown (value : Option Value) :
    ∃ shown, shown ∈ shownValues value := by
  match value with
  | none => exact ⟨none, List.mem_singleton.mpr rfl⟩
  | some (.list []) => exact ⟨none, List.mem_singleton.mpr rfl⟩
  | some (.list (first :: others)) => exact ⟨some first, List.mem_cons_self⟩
  | some (.text _) | some (.integer _) | some (.float _) | some (.boolean _)
  | some (.uuid _) | some (.date _) | some (.instant _) =>
    exact ⟨_, List.mem_singleton.mpr rfl⟩

namespace Predicate

/-! ## Predicates of views -/

mutual

/-- A predicate depends on what is shown of the attributes it speaks of. -/
theorem shown_congr {left right : View entity}
    (predicate : Predicate entity.Field)
    (hsame : ∀ field ∈ predicate.fields, left field = right field) :
    predicate.shown left = predicate.shown right := by
  match predicate with
  | .always => rfl
  | .all parts =>
    rw [shown, shown]
    exact (partShown_congr parts hsame).1
  | .any parts =>
    rw [shown, shown, (partShown_congr parts hsame).2]
  | .leaf condition =>
    rw [shown, shown, hsame condition.field (by simp [fields])]
  | .near proximity =>
    rw [shown, shown, hsame proximity.latitude (by simp [fields]),
      hsame proximity.longitude (by simp [fields])]

theorem partShown_congr {left right : View entity}
    (parts : List (Predicate entity.Field))
    (hsame : ∀ field ∈ partFields parts, left field = right field) :
    allShown left parts = allShown right parts ∧
      anyShown left parts = anyShown right parts := by
  match parts with
  | [] => exact ⟨rfl, rfl⟩
  | part :: others =>
    rw [partFields] at hsame
    have hpart := shown_congr part fun field hfield =>
      hsame field (List.mem_append_left _ hfield)
    have hothers := partShown_congr others fun field hfield =>
      hsame field (List.mem_append_right _ hfield)
    rw [allShown, allShown, anyShown, anyShown, hpart, hothers.1, hothers.2]
    exact ⟨rfl, rfl⟩

end

/-! ## Rows and their views -/

variable {row : Row entity}

theorem near_holds_iff {view : View entity} (hshows : row.Shows view)
    (proximity : Proximity entity.Field) :
    shown view (.near proximity) = proximity.holds row := by
  rw [shown, hshows.number?_eq, hshows.number?_eq, Proximity.holds,
    Proximity.point?]
  cases row.get proximity.latitude with
  | none => rfl
  | some latitude =>
    cases hlatitude : latitude.number? with
    | none => simp [hlatitude]
    | some x =>
      cases row.get proximity.longitude with
      | none => simp [hlatitude]
      | some longitude =>
        cases hlongitude : longitude.number? <;> simp [hlatitude, hlongitude]

mutual

/-- What holds of a view holds of the row, if no alternative is without
parts. -/
theorem holds_of_shown {view : View entity} (hshows : row.Shows view)
    (predicate : Predicate entity.Field) (hpopulated : predicate.Populated)
    (hshown : predicate.shown view = true) : predicate.holds row = true := by
  match predicate with
  | .always => rfl
  | .all parts =>
    rw [Populated] at hpopulated
    rw [shown] at hshown
    rw [holds]
    exact (partHolds_of_shown hshows parts hpopulated).1 hshown
  | .any parts =>
    rw [Populated] at hpopulated
    obtain ⟨hne, hpopulated⟩ := hpopulated
    have hempty : parts.isEmpty = false := by simpa using hne
    rw [shown, hempty, Bool.false_or] at hshown
    rw [holds]
    exact (partHolds_of_shown hshows parts hpopulated).2 hshown
  | .leaf condition =>
    rw [shown] at hshown
    rw [holds, Condition.holds, ← exists_shown_iff]
    exact ⟨view condition.field, hshows condition.field, hshown⟩
  | .near proximity =>
    rw [holds, ← near_holds_iff hshows]
    exact hshown

theorem partHolds_of_shown {view : View entity} (hshows : row.Shows view)
    (parts : List (Predicate entity.Field))
    (hpopulated : AllPopulated parts) :
    (allShown view parts = true → allHold row parts = true) ∧
      (anyShown view parts = true → anyHolds row parts = true) := by
  match parts with
  | [] => exact ⟨id, id⟩
  | part :: others =>
    rw [AllPopulated] at hpopulated
    obtain ⟨hpart, hothers⟩ := hpopulated
    have hfirst := holds_of_shown hshows part hpart
    obtain ⟨hall, hany⟩ := partHolds_of_shown hshows others hothers
    rw [allShown, allHold, anyShown, anyHolds, Bool.and_eq_true,
      Bool.and_eq_true, Bool.or_eq_true, Bool.or_eq_true]
    exact ⟨And.imp hfirst hall, Or.imp hfirst hany⟩

end

/-- A view that shows some attributes as one view does and all others as
another. -/
def overlaid (fields : List entity.Field) (left right : View entity) :
    View entity :=
  fun field => if fields.contains field then left field else right field

theorem shows_overlaid {left right : View entity}
    (hleft : row.Shows left) (hright : row.Shows right)
    (fields : List entity.Field) :
    row.Shows (overlaid fields left right) := by
  intro field
  rw [overlaid]
  split
  · exact hleft field
  · exact hright field

theorem exists_view (row : Row entity) : ∃ view, row.Shows view := by
  have hall : ∀ field, ∃ shown, shown ∈ shownValues (row.get field) :=
    fun field => exists_shown (row.get field)
  exact Classical.skolem.mp hall

theorem mem_partFields {parts : List (Predicate entity.Field)}
    {field : entity.Field} :
    field ∈ partFields parts ↔ ∃ part ∈ parts, field ∈ part.fields := by
  induction parts with
  | nil => simp [partFields]
  | cons part others ih => simp [partFields, ih]

/-- Of a predicate and of others that speak of no list in common with it, both
views can be had at once. -/
theorem exists_view_of_apart {part : Predicate entity.Field}
    {others : List (Predicate entity.Field)}
    (hapart : ∀ other ∈ others, part.Apart other) {left right : View entity}
    (hleft : row.Shows left) (hright : row.Shows right)
    (hpart : part.shown left = true)
    (hothers : allShown right others = true) :
    ∃ view, row.Shows view ∧ allShown view (part :: others) = true := by
  refine ⟨overlaid part.fields left right, shows_overlaid hleft hright _, ?_⟩
  have hsame : ∀ field ∈ part.fields,
      overlaid part.fields left right field = left field :=
    fun field hfield => if_pos (List.contains_iff_mem.mpr hfield)
  have hrest : ∀ field ∈ partFields others,
      overlaid part.fields left right field = right field := by
    intro field hfield
    rw [overlaid]
    split
    · next hmem =>
      -- Both views show the value itself of what is no list.
      obtain ⟨other, hother, hfield⟩ := mem_partFields.mp hfield
      have hcollected := hapart other hother field
        (List.contains_iff_mem.mp hmem) hfield
      rw [hleft.eq_get hcollected, hright.eq_get hcollected]
    · rfl
  rw [allShown, shown_congr part hsame, (partShown_congr others hrest).1,
    hpart, hothers]
  rfl

mutual

/-- What holds of a row holds of one of its views, if no two conditions that
have to hold together speak of the same list. -/
theorem exists_view_of_holds (predicate : Predicate entity.Field)
    (hseparate : predicate.Separate) (hholds : predicate.holds row = true) :
    ∃ view, row.Shows view ∧ predicate.shown view = true := by
  match predicate with
  | .always =>
    obtain ⟨view, hview⟩ := exists_view row
    exact ⟨view, hview, rfl⟩
  | .all parts =>
    rw [Separate] at hseparate
    rw [holds] at hholds
    obtain ⟨hapart, hseparate⟩ := hseparate
    simp only [shown]
    exact exists_view_of_allHold parts hapart hseparate hholds
  | .any parts =>
    rw [Separate] at hseparate
    rw [holds] at hholds
    obtain ⟨view, hview, hshown⟩ :=
      exists_view_of_anyHolds parts hseparate hholds
    refine ⟨view, hview, ?_⟩
    rw [shown, hshown, Bool.or_true]
  | .leaf condition =>
    rw [holds, Condition.holds, ← exists_shown_iff] at hholds
    obtain ⟨value, hvalue, hsatisfies⟩ := hholds
    obtain ⟨view, hview⟩ := exists_view row
    refine ⟨fun field => if field = condition.field then value else view field,
      ?_, ?_⟩
    · intro field
      dsimp only
      split
      · next hfield => rwa [hfield]
      · exact hview field
    · rw [shown, if_pos rfl]
      exact hsatisfies
  | .near proximity =>
    obtain ⟨view, hview⟩ := exists_view row
    exact ⟨view, hview, by rwa [near_holds_iff hview]⟩

theorem exists_view_of_allHold (parts : List (Predicate entity.Field))
    (hapart : parts.Pairwise Apart) (hseparate : AllSeparate parts)
    (hholds : allHold row parts = true) :
    ∃ view, row.Shows view ∧ allShown view parts = true := by
  match parts with
  | [] =>
    obtain ⟨view, hview⟩ := exists_view row
    exact ⟨view, hview, rfl⟩
  | part :: others =>
    rw [AllSeparate] at hseparate
    rw [allHold, Bool.and_eq_true] at hholds
    rw [List.pairwise_cons] at hapart
    obtain ⟨left, hleft, hpart⟩ :=
      exists_view_of_holds part hseparate.1 hholds.1
    obtain ⟨right, hright, hothers⟩ :=
      exists_view_of_allHold others hapart.2 hseparate.2 hholds.2
    exact exists_view_of_apart hapart.1 hleft hright hpart hothers

theorem exists_view_of_anyHolds (parts : List (Predicate entity.Field))
    (hseparate : AllSeparate parts) (hholds : anyHolds row parts = true) :
    ∃ view, row.Shows view ∧ anyShown view parts = true := by
  match parts with
  | [] => cases hholds
  | part :: others =>
    rw [AllSeparate] at hseparate
    rw [anyHolds, Bool.or_eq_true] at hholds
    rcases hholds with hpart | hothers
    · obtain ⟨view, hview, hshown⟩ :=
        exists_view_of_holds part hseparate.1 hpart
      refine ⟨view, hview, ?_⟩
      rw [anyShown, hshown, Bool.true_or]
    · obtain ⟨view, hview, hshown⟩ :=
        exists_view_of_anyHolds others hseparate.2 hothers
      refine ⟨view, hview, ?_⟩
      rw [anyShown, hshown, Bool.or_true]

end

end Predicate

end CivicRegistry
