import CivicRegistry.Proofs.Predicate.Combination

/-!
# Grouped specifications

Combining predicates is associative, and what constrains nothing is neutral for
it.  Specifications therefore combine to one and the same specification however
they are grouped: the groups leave no trace in it.  It holds of the rows that
each part holds of, and is distinct if one of its parts is.
-/

namespace CivicRegistry

/-! ## Laws of combination -/

namespace Predicate

variable {F : Type}

theorem always_and (predicate : Predicate F) :
    always.and predicate = predicate := rfl

theorem and_always (predicate : Predicate F) :
    predicate.and always = predicate := by
  cases predicate <;> rfl

/-- Predicates that constrain something are joined into one conjunction. -/
theorem and_of_ne_always {left right : Predicate F} (hleft : left ≠ always)
    (hright : right ≠ always) :
    left.and right = all (left.conjuncts ++ right.conjuncts) := by
  cases left <;> cases right <;> first | contradiction | rfl

theorem and_assoc (left middle right : Predicate F) :
    (left.and middle).and right = left.and (middle.and right) := by
  by_cases hleft : left = always
  · rw [hleft, always_and, always_and]
  by_cases hmiddle : middle = always
  · rw [hmiddle, and_always, always_and]
  by_cases hright : right = always
  · rw [hright, and_always, and_always]
  -- what is left are the conjuncts of the three in a row
  have hall (parts : List (Predicate F)) : all parts ≠ always := nofun
  rw [and_of_ne_always hleft hmiddle, and_of_ne_always hmiddle hright,
    and_of_ne_always (hall _) hright, and_of_ne_always hleft (hall _)]
  simp only [conjuncts, List.append_assoc]

end Predicate

namespace Specification

variable {F : Type}

theorem unconstrained_and (spec : Specification F) :
    unconstrained.and spec = spec := rfl

theorem and_unconstrained (spec : Specification F) :
    spec.and unconstrained = spec := by
  rw [and, unconstrained, Predicate.and_always, Bool.or_false]

theorem and_assoc (left middle right : Specification F) :
    (left.and middle).and right = left.and (middle.and right) := by
  simp only [and, Predicate.and_assoc, Bool.or_assoc]

instance : Std.Associative
    (and : Specification F → Specification F → Specification F) :=
  ⟨and_assoc⟩

theorem allOf_cons (spec : Specification F) (parts : List (Specification F)) :
    allOf (spec :: parts) = spec.and (allOf parts) := by
  have hfold : parts.foldl and (spec.and unconstrained) =
      spec.and (parts.foldl and unconstrained) := List.foldl_assoc
  rw [and_unconstrained] at hfold
  exact hfold

theorem allOf_append (parts others : List (Specification F)) :
    allOf (parts ++ others) = (allOf parts).and (allOf others) := by
  induction parts with
  | nil => rfl
  | cons part parts ih =>
    rw [List.cons_append, allOf_cons, allOf_cons, ih, and_assoc]

theorem distinct_allOf (parts : List (Specification F)) :
    (allOf parts).distinct = parts.any (·.distinct) := by
  induction parts with
  | nil => rfl
  | cons part parts ih => rw [allOf_cons, and, ih, List.any_cons]

end Specification

/-! ## Groups -/

/-- Specifications that are combined in groups: two at a time or any number at
once, each of them again a group or a single one. -/
inductive Grouping (F : Type) where
  | single (spec : Specification F)
  | both (left right : Grouping F)
  | group (parts : List (Grouping F))

namespace Grouping

variable {F : Type}

mutual

/-- The specification that comes of combining group by group. -/
def combined : Grouping F → Specification F
  | single spec => spec
  | both left right => left.combined.and right.combined
  | group parts => .allOf (combinedParts parts)

def combinedParts : List (Grouping F) → List (Specification F)
  | [] => []
  | part :: others => part.combined :: combinedParts others

end

mutual

/-- The specifications in the groups, from left to right. -/
def members : Grouping F → List (Specification F)
  | single spec => [spec]
  | both left right => left.members ++ right.members
  | group parts => partMembers parts

def partMembers : List (Grouping F) → List (Specification F)
  | [] => []
  | part :: others => part.members ++ partMembers others

end

mutual

/-- Groups leave no trace. -/
theorem combined_eq_allOf : (grouping : Grouping F) →
    grouping.combined = .allOf grouping.members
  | single spec => rfl
  | both left right => by
    rw [combined, members, Specification.allOf_append, left.combined_eq_allOf,
      right.combined_eq_allOf]
  | group parts => by
    rw [combined, members, allOf_combinedParts parts]

theorem allOf_combinedParts : (parts : List (Grouping F)) →
    Specification.allOf (combinedParts parts) = .allOf (partMembers parts)
  | [] => rfl
  | part :: others => by
    rw [combinedParts, partMembers, Specification.allOf_cons,
      Specification.allOf_append, part.combined_eq_allOf,
      allOf_combinedParts others]

end

end Grouping

/-! ## What combinations mean -/

namespace Specification

variable {entity : Entity}

theorem holds_of_perm {parts others : List (Specification entity.Field)}
    (hperm : parts.Perm others) (row : Row entity) :
    (allOf parts).predicate.holds row = true ↔
      ∀ other ∈ others, other.predicate.holds row = true := by
  rw [holds_allOf, List.all_eq_true]
  simp only [hperm.mem_iff]

theorem distinct_of_perm {F : Type} {parts others : List (Specification F)}
    (hperm : parts.Perm others) :
    (allOf parts).distinct = true ↔
      ∃ other ∈ others, other.distinct = true := by
  rw [distinct_allOf, List.any_eq_true]
  simp only [hperm.mem_iff]

/-- Combining is associative with a neutral element, for predicates as for
specifications, so that groups leave no trace.  What is combined holds of a row
as its parts do, all of them or one of them; and all of some specifications,
grouped in any way and in any order, hold where each of them holds and are
distinct where one of them is. -/
theorem combinations_mean (F : Type) (entity : Entity) (row : Row entity) :
    (∀ left middle right : Predicate F,
      (left.and middle).and right = left.and (middle.and right) ∧
        Predicate.always.and right = right ∧ right.and .always = right) ∧
    (∀ left middle right : Specification F,
      (left.and middle).and right = left.and (middle.and right) ∧
        unconstrained.and right = right ∧ right.and unconstrained = right) ∧
    (∀ grouping : Grouping F, grouping.combined = allOf grouping.members) ∧
    (∀ left right : Predicate entity.Field,
      (left.and right).holds row = (left.holds row && right.holds row)) ∧
    (∀ parts : List (Predicate entity.Field),
      (Predicate.anyOf parts).holds row = true ↔
        parts = [] ∨ ∃ part ∈ parts, part.holds row = true) ∧
    ∀ (grouping : Grouping entity.Field)
        (parts : List (Specification entity.Field)),
      grouping.members.Perm parts →
        (grouping.combined.predicate.holds row = true ↔
          ∀ part ∈ parts, part.predicate.holds row = true) ∧
        (grouping.combined.distinct = true ↔
          ∃ part ∈ parts, part.distinct = true) := by
  refine ⟨fun left middle right => ?_, fun left middle right => ?_,
    Grouping.combined_eq_allOf, Predicate.holds_and row, fun parts => ?_,
    fun grouping parts hperm => ?_⟩
  · exact ⟨Predicate.and_assoc left middle right, Predicate.always_and right,
      Predicate.and_always right⟩
  · exact ⟨and_assoc left middle right, unconstrained_and right,
      and_unconstrained right⟩
  · rw [Predicate.holds_anyOf, Bool.or_eq_true, List.isEmpty_iff,
      List.any_eq_true]
  · rw [grouping.combined_eq_allOf]
    exact ⟨holds_of_perm hperm row, distinct_of_perm hperm⟩

/-- The fourth ward of a municipality, with nothing more known of it. -/
def sampleWard : Row .wards
  | .id => ⟨9#128⟩
  | .municipalityId => ⟨7#128⟩
  | .wardNumber => (4 : Int)
  | .areaSqKm => none
  | .population => none
  | .latitude => none
  | .longitude => none
  | .officeAddress => none
  | .contactNumber => none
  | .createdAt => ⟨0, 0⟩
  | .updatedAt => ⟨0, 0⟩

/-- Wards with numbers from the given one on. -/
def sampleFrom (number : Int) : Specification WardField :=
  .ofPredicate (.leaf ⟨.wardNumber, .atLeast, .integer number⟩)

/-- Wards of the municipality with numbers up to the given one, each once. -/
def sampleUpTo (number : Int) : Specification WardField :=
  .markDistinct (.ofPredicate (.all
    [.leaf ⟨.municipalityId, .equal, .uuid ⟨7#128⟩⟩,
      .leaf ⟨.wardNumber, .atMost, .integer number⟩]))

/-- Some specifications, in groups of which one has nothing in it. -/
def sampleGrouping : Grouping WardField :=
  .both (.single (sampleUpTo 9))
    (.group [.group [],
      .both (.single (sampleFrom 2)) (.single (sampleFrom 3))])

theorem combinations_mean_sample :
    sampleGrouping.members.Perm [sampleFrom 3, sampleFrom 2, sampleUpTo 9] ∧
    sampleGrouping.combined.predicate.holds sampleWard = true ∧
    sampleGrouping.combined.distinct = true := by
  have hperm : sampleGrouping.members.Perm
      [sampleFrom 3, sampleFrom 2, sampleUpTo 9] :=
    List.reverse_perm [sampleFrom 3, sampleFrom 2, sampleUpTo 9]
  obtain ⟨-, -, -, -, -, hparts⟩ :=
    combinations_mean WardField .wards sampleWard
  obtain ⟨hholds, hdistinct⟩ := hparts sampleGrouping _ hperm
  refine ⟨hperm, hholds.mpr ?_, hdistinct.mpr ⟨sampleUpTo 9, by simp, rfl⟩⟩
  simp only [List.forall_mem_cons]
  exact ⟨by decide, by decide, by decide, List.forall_mem_nil _⟩

end Specification

end CivicRegistry
