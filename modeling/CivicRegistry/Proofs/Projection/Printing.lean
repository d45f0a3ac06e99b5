import CivicRegistry.Proofs.Json.Printing
import CivicRegistry.Proofs.Projection

/-!
# What printed projections tell

A projection is printed as one object with a member for each of its entries, in
their order and under their wire names.  An absent attribute has no member, but
a member can still be null: documents have no number for a float that is not
finite.  Nothing else is told as null, so a printed projection is free of nulls
just when no attribute asked for holds such a float.
-/

namespace CivicRegistry

variable {entity : Entity}

/-- The value is a float that documents have no number for. -/
def Value.Numberless (value : Value) : Prop :=
  ∃ number, value = .float number ∧ number.isFinite = false

theorem Value.retold_json_eq_null_iff {value : Value} :
    value.json.retold = .null ↔ value.Numberless := by
  cases value with
  | float number =>
    rw [json, Json.retold]
    cases hfinite : number.isFinite <;> simp [Numberless, hfinite]
  | _ => simp [Numberless, json, Json.retold]

namespace Projection

/-- The member of a printed object tells the entry: it has the name of the
entry, its value is read from what is printed of the value, and it is null for
want of a number only. -/
structure Tells (entry : String × Value)
    (member : Json.Pieces × Json.Outline) : Prop where
  name : member.1 = entry.1.toList.map .char
  value : member.2 = entry.2.json.retold
  null : member.2 = .null ↔ entry.2.Numberless

theorem forall₂_tells (projection : Projection) :
    List.Forall₂ Tells projection (Json.retoldMembers
      (projection.map fun (name, value) => (name, value.json))) := by
  induction projection with
  | nil => exact .nil
  | cons entry projection ih =>
    exact .cons ⟨rfl, rfl, Value.retold_json_eq_null_iff⟩ ih

/-- A projection is printed as one object. -/
theorem wholeOutline?_print_json (projection : Projection) :
    Json.wholeOutline? (projection.json.print.toList.map some) =
      some (.object (Json.retoldMembers
        (projection.map fun (name, value) => (name, value.json))) true) := by
  rw [Json.wholeOutline?_print_eq_retold, json, Json.retold]

/-- Nulls among the members come from values without a number. -/
theorem forall_ne_null_iff {projection : Projection}
    {members : List (Json.Pieces × Json.Outline)}
    (htells : List.Forall₂ Tells projection members) :
    (∀ member ∈ members, member.2 ≠ .null) ↔
      ∀ entry ∈ projection, ¬entry.2.Numberless := by
  induction htells with
  | nil => simp
  | cons hmember _ ih =>
    rw [List.forall_mem_cons, List.forall_mem_cons, ih, ne_eq, hmember.null]

theorem forall_value_iff {row : Row entity} {shown : List entity.Field}
    {projection : Projection} {property : Value → Prop}
    (hentries : List.Forall₂ (IsEntryOf row) shown projection) :
    (∀ entry ∈ projection, property entry.2) ↔
      ∀ field ∈ shown, ∀ value, row.get field = some value →
        property value := by
  induction hentries with
  | nil => simp
  | @cons field entry _ _ hentry _ ih =>
    have hvalue : property entry.2 ↔
        ∀ value, row.get field = some value → property value := by
      simp [hentry.2]
    rw [List.forall_mem_cons, List.forall_mem_cons, ih, hvalue]

/-- The values of a projection are those that the row has for the attributes
asked for. -/
theorem forall_value_ofRow_iff {row : Row entity} {fields : List entity.Field}
    (property : Value → Prop) :
    (∀ entry ∈ ofRow row fields, property entry.2) ↔
      ∀ field ∈ fields, ∀ value, row.get field = some value →
        property value := by
  obtain ⟨shown, hshown, hentries⟩ := (exact_ofRow row fields).entries
  rw [forall_value_iff hentries]
  refine forall_congr' fun field => ?_
  rw [hshown.mem, present, List.mem_filter]
  constructor
  · intro hproperty hfield value hvalue
    exact hproperty ⟨hfield, by rw [hvalue]; rfl⟩ value hvalue
  · intro hproperty hfield
    exact hproperty hfield.1

/-- The printed projection of a row is one object with a member for each entry,
in their order.  No member is null, unless an attribute that is asked for holds
a float that is not finite, and then one is. -/
theorem printed_members (row : Row entity) (fields : List entity.Field) :
    ∃ members,
      Json.wholeOutline? ((ofRow row fields).json.print.toList.map some) =
        some (.object members true) ∧
      List.Forall₂ Tells (ofRow row fields) members ∧
      ((∀ member ∈ members, member.2 ≠ .null) ↔
        ∀ field ∈ fields, ∀ number : Float,
          row.get field = some (.float number) → number.isFinite = true) := by
  have htells := forall₂_tells (ofRow row fields)
  refine ⟨_, wholeOutline?_print_json _, htells, ?_⟩
  rw [forall_ne_null_iff htells,
    forall_value_ofRow_iff fun value => ¬value.Numberless]
  refine forall_congr' fun field => forall_congr' fun _ => ?_
  constructor
  · intro hnumbers number hvalue
    by_contra hinfinite
    exact hnumbers _ hvalue ⟨number, rfl, Bool.not_eq_true _ ▸ hinfinite⟩
  · rintro hfinite _ hvalue ⟨number, rfl, hinfinite⟩
    simp [hfinite number hvalue] at hinfinite

/-- An area that is no number. -/
example : (Projection.json [("name", .text "Koshi"),
    ("areaSqKm", .float (Float.ofBits 0x7FF8000000000000))]).print =
      "\x7b\"name\":\"Koshi\",\"areaSqKm\":null\x7d" := by
  decide

end Projection

end CivicRegistry
