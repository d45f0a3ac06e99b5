import CivicRegistry.Entity.Vocabulary

/-!
# Selections

A selection is a set of values of an enumeration, kept as its members in the
order of the enumeration, each once.  Two selections with the same members are
therefore equal.
-/

namespace CivicRegistry

/-- A set of values of an enumeration. -/
structure Selection (α : Type) [Enumeration α] [DecidableEq α] where
  members : List α
  members_eq :
    (Enumeration.all.filter fun value => decide (value ∈ members)) = members

namespace Selection

variable {α : Type} [Enumeration α] [DecidableEq α]

/-- The set of the values of a list. -/
def ofList (values : List α) : Selection α where
  members := Enumeration.all.filter fun value => decide (value ∈ values)
  members_eq := by
    apply List.filter_congr
    intro value hvalue
    simp [hvalue]

instance : Membership α (Selection α) where
  mem selection value := value ∈ selection.members

@[simp]
theorem mem_ofList {value : α} {values : List α} :
    value ∈ ofList values ↔ value ∈ values := by
  show value ∈ Enumeration.all.filter (fun value => decide (value ∈ values)) ↔ _
  simp [Enumeration.mem_all]

/-- The set without members. -/
def empty : Selection α := ofList []

instance : Inhabited (Selection α) := ⟨empty⟩

def isEmpty (selection : Selection α) : Bool := selection.members.isEmpty

/-- A selection is determined by what belongs to it. -/
theorem ext {left right : Selection α}
    (h : ∀ value, value ∈ left ↔ value ∈ right) : left = right := by
  have key : left.members = right.members := by
    rw [← left.members_eq, ← right.members_eq]
    apply List.filter_congr
    intro value _
    exact decide_eq_decide.2 (h value)
  cases left
  cases right
  simp_all

end Selection

end CivicRegistry
