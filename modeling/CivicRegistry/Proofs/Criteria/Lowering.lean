import CivicRegistry.Criteria.Reading
import CivicRegistry.Proofs.Predicate.Combination
import CivicRegistry.Proofs.Sql.Lowering

/-!
# The specifications of requests as clauses

Whatever a request asks for, its specification can be put as a clause.  The
predicate has no alternative without parts and looks at the roles of a user in
one place only, so the clause selects the rows that the predicate matches.
-/

namespace CivicRegistry

open Sql (ofPredicate ofPredicates)

variable {entity : Entity}

namespace Predicate

/-! ## Parts -/

theorem allPopulated_iff {parts : List (Predicate entity.Field)} :
    AllPopulated parts ↔ ∀ part ∈ parts, part.Populated := by
  induction parts with
  | nil => simp [AllPopulated]
  | cons part others ih => simp [AllPopulated, ih]

theorem allSeparate_iff {parts : List (Predicate entity.Field)} :
    AllSeparate parts ↔ ∀ part ∈ parts, part.Separate := by
  induction parts with
  | nil => simp [AllSeparate]
  | cons part others ih => simp [AllSeparate, ih]

theorem partFields_eq_flatMap (parts : List (Predicate entity.Field)) :
    partFields parts = parts.flatMap fields := by
  induction parts with
  | nil => rfl
  | cons part others ih => rw [partFields, ih, List.flatMap_cons]

/-- The predicate can be put as a clause. -/
def Lowers (predicate : Predicate entity.Field) : Prop :=
  ∃ clause, ofPredicate predicate = .ok clause

/-- Parts can be put as clauses exactly if each of them can. -/
theorem exists_ofPredicates_iff {parts : List (Predicate entity.Field)} :
    (∃ clauses, ofPredicates parts = .ok clauses) ↔
      ∀ part ∈ parts, part.Lowers := by
  induction parts with
  | nil => simp [ofPredicates]
  | cons part others ih =>
    rw [List.forall_mem_cons, ← ih]
    constructor
    · rintro ⟨clauses, hclauses⟩
      obtain ⟨clause, others, hclause, hothers, -⟩ :=
        Sql.exists_of_ofPredicates_cons hclauses
      exact ⟨⟨clause, hclause⟩, others, hothers⟩
    · rintro ⟨⟨clause, hclause⟩, others, hothers⟩
      rw [ofPredicates, hclause, hothers]
      exact ⟨_, rfl⟩

/-- A group can be put as a clause exactly if its parts can. -/
theorem exists_group_iff {parts : List (Predicate entity.Field)}
    {group : List (Sql.Clause Value) → Sql.Clause Value} :
    (∃ clause, (do return group (← ofPredicates parts) :
        Except Sql.LoweringError (Sql.Clause Value)) = .ok clause) ↔
      ∀ part ∈ parts, part.Lowers := by
  rw [← exists_ofPredicates_iff]
  constructor
  · rintro ⟨clause, hclause⟩
    obtain ⟨clauses, hclauses, _⟩ := Sql.exists_ok_of_bind hclause
    exact ⟨clauses, hclauses⟩
  · rintro ⟨clauses, hclauses⟩
    rw [hclauses]
    exact ⟨_, rfl⟩

theorem lowers_any_iff {parts : List (Predicate entity.Field)} :
    (any parts).Lowers ↔ ∀ part ∈ parts, part.Lowers := by
  rw [Lowers, ofPredicate, exists_group_iff]

/-! ## Conjuncts -/

variable {predicate left right : Predicate entity.Field}

theorem lowers_iff_conjuncts :
    predicate.Lowers ↔ ∀ part ∈ predicate.conjuncts, part.Lowers := by
  cases predicate with
  | always => simp [conjuncts, Lowers, ofPredicate]
  | all parts => rw [Lowers, ofPredicate, exists_group_iff, conjuncts]
  | any | leaf | near => simp [conjuncts]

theorem populated_iff_conjuncts :
    predicate.Populated ↔ ∀ part ∈ predicate.conjuncts, part.Populated := by
  cases predicate with
  | always => simp [conjuncts, Populated]
  | all parts => rw [Populated, allPopulated_iff, conjuncts]
  | any | leaf | near => simp [conjuncts]

theorem separate_iff_conjuncts :
    predicate.Separate ↔ predicate.conjuncts.Pairwise Apart ∧
      ∀ part ∈ predicate.conjuncts, part.Separate := by
  cases predicate with
  | always => simp [conjuncts, Separate]
  | all parts => rw [Separate, allSeparate_iff, conjuncts]
  | any | leaf | near => simp [conjuncts]

theorem fields_eq_conjuncts :
    predicate.fields = predicate.conjuncts.flatMap fields := by
  cases predicate with
  | always => rfl
  | all parts => rw [fields, partFields_eq_flatMap, conjuncts]
  | any | leaf | near => simp [conjuncts]

/-! ## Selective predicates -/

/-- A predicate that can be put as a clause, selects what it matches and speaks
of some attributes only. -/
structure Selective (predicate : Predicate entity.Field)
    (spoken : List entity.Field) : Prop where
  lowers : predicate.Lowers
  populated : predicate.Populated
  separate : predicate.Separate
  fields : predicate.fields ⊆ spoken

/-- No list is among both of some attributes. -/
def ShareNoList (left right : List entity.Field) : Prop :=
  ∀ field ∈ left, field ∈ right → Entity.isCollected field = false

instance (left right : List entity.Field) :
    Decidable (ShareNoList left right) :=
  inferInstanceAs (Decidable (∀ field ∈ left, field ∈ right →
    Entity.isCollected field = false))

namespace Selective

variable {spoken others : List entity.Field}

theorem always : Selective (.always : Predicate entity.Field) [] where
  lowers := ⟨.always, rfl⟩
  populated := trivial
  separate := trivial
  fields := List.Subset.refl []

theorem mono (hselective : Selective predicate spoken)
    (hsubset : spoken ⊆ others) : Selective predicate others where
  lowers := hselective.lowers
  populated := hselective.populated
  separate := hselective.separate
  fields := List.Subset.trans hselective.fields hsubset

/-- Both of two selective predicates are one if they share no list. -/
theorem and (hleft : Selective left spoken) (hright : Selective right others)
    (hshare : ShareNoList spoken others) :
    Selective (left.and right) (spoken ++ others) where
  lowers := by
    rw [lowers_iff_conjuncts, conjuncts_and, List.forall_mem_append]
    exact ⟨lowers_iff_conjuncts.mp hleft.lowers,
      lowers_iff_conjuncts.mp hright.lowers⟩
  populated := by
    rw [populated_iff_conjuncts, conjuncts_and, List.forall_mem_append]
    exact ⟨populated_iff_conjuncts.mp hleft.populated,
      populated_iff_conjuncts.mp hright.populated⟩
  separate := by
    obtain ⟨hpairsLeft, hpartsLeft⟩ := separate_iff_conjuncts.mp hleft.separate
    obtain ⟨hpairsRight, hpartsRight⟩ :=
      separate_iff_conjuncts.mp hright.separate
    rw [separate_iff_conjuncts, conjuncts_and, List.forall_mem_append,
      List.pairwise_append]
    have happart : ∀ part ∈ left.conjuncts, ∀ other ∈ right.conjuncts,
        Apart part other := by
      intro part hpart other hother field hfield hshared
      have hfieldsLeft := hleft.fields
      have hfieldsRight := hright.fields
      rw [fields_eq_conjuncts] at hfieldsLeft hfieldsRight
      exact hshare field
        (hfieldsLeft (List.mem_flatMap_of_mem hpart hfield))
        (hfieldsRight (List.mem_flatMap_of_mem hother hshared))
    exact ⟨⟨hpairsLeft, hpairsRight, happart⟩, hpartsLeft, hpartsRight⟩
  fields := by
    have hfieldsLeft := hleft.fields
    have hfieldsRight := hright.fields
    rw [fields_eq_conjuncts] at hfieldsLeft hfieldsRight ⊢
    rw [conjuncts_and, List.flatMap_append]
    rw [List.append_subset]
    exact ⟨List.subset_append_of_subset_left others hfieldsLeft,
      List.subset_append_of_subset_right spoken hfieldsRight⟩

/-- A condition is selective; only a text can be looked for in a text. -/
theorem leaf {field : entity.Field} {operator : Operator} {data : Value}
    (hdata : operator = .contains → ∃ term, data = .text term) :
    Selective (Specification.condition field operator data) [field] where
  lowers := by
    obtain ⟨column, _, hcolumn⟩ := Sql.Column.exists_ofField field
    rw [Lowers, Specification.condition, ofPredicate, hcolumn]
    cases operator with
    | equal | atLeast | atMost => exact ⟨_, rfl⟩
    | contains =>
      obtain ⟨term, rfl⟩ := hdata rfl
      exact ⟨_, rfl⟩
    | oneOf => cases data <;> exact ⟨_, rfl⟩
  populated := trivial
  separate := trivial
  fields := List.Subset.refl [field]

theorem near {proximity : Proximity entity.Field} :
    Selective (.near proximity) [proximity.latitude, proximity.longitude] where
  lowers := by
    obtain ⟨latitude, _, hlatitude⟩ :=
      Sql.Column.exists_ofField proximity.latitude
    obtain ⟨longitude, _, hlongitude⟩ :=
      Sql.Column.exists_ofField proximity.longitude
    rw [Lowers, ofPredicate, hlatitude, hlongitude]
    exact ⟨_, rfl⟩
  populated := trivial
  separate := trivial
  fields := List.Subset.refl _

/-- At least one of selective predicates is selective. -/
theorem anyOf {parts : List (Predicate entity.Field)}
    (hparts : ∀ part ∈ parts, Selective part spoken) :
    Selective (anyOf parts) spoken := by
  rw [anyOf.eq_def]
  split
  · exact always.mono (List.nil_subset spoken)
  · next hempty =>
    split
    · next part => exact hparts part (List.mem_singleton_self part)
    · have hne : parts ≠ [] := by
        rintro rfl
        exact hempty rfl
      constructor
      · exact lowers_any_iff.mpr fun part hpart => (hparts part hpart).lowers
      · exact ⟨hne, allPopulated_iff.mpr fun part hpart =>
          (hparts part hpart).populated⟩
      · exact allSeparate_iff.mpr fun part hpart =>
          (hparts part hpart).separate
      · rw [Predicate.fields, partFields_eq_flatMap]
        intro field hfield
        obtain ⟨part, hpart, hspoken⟩ := List.mem_flatMap.mp hfield
        exact (hparts part hpart).fields hspoken

end Selective

end Predicate

/-! ## The filters of requests -/

namespace Specification

open Predicate (Selective ShareNoList)

theorem selective_equalTo {field : entity.Field} {value : Option Value} :
    Selective (equalTo field value).predicate [field] := by
  cases value with
  | none => exact Selective.always.mono (List.nil_subset [field])
  | some value => exact Selective.leaf fun hoperator => by cases hoperator

theorem selective_memberOf {field : entity.Field} {values : List Value} :
    Selective (memberOf field values).predicate [field] := by
  rw [memberOf]
  split
  · exact Selective.always.mono (List.nil_subset [field])
  · exact Selective.leaf fun hoperator => by cases hoperator

theorem selective_elementOf {field : entity.Field} {values : List Value} :
    Selective (elementOf field values).predicate [field] := by
  rw [elementOf]
  split
  · exact Selective.always.mono (List.nil_subset [field])
  · exact selective_memberOf

theorem selective_within {latitude longitude : entity.Field}
    {circle : Option Circle} :
    Selective (within latitude longitude circle).predicate
      [latitude, longitude] := by
  cases circle with
  | none => exact Selective.always.mono (List.nil_subset _)
  | some circle => exact Selective.near

theorem selective_searching {term : Option String}
    {fields : List entity.Field} :
    Selective (searching term fields).predicate fields := by
  rw [searching]
  split
  · next term _ =>
    apply Selective.anyOf
    intro part hpart
    obtain ⟨field, hfield, rfl⟩ := List.mem_map.mp hpart
    have hleaf : Selective (condition field .contains (.text term)) [field] :=
      Selective.leaf fun _ => ⟨term, rfl⟩
    apply hleaf.mono
    rwa [List.cons_subset, and_iff_left (List.nil_subset fields)]
  · exact Selective.always.mono (List.nil_subset fields)

/-- Bounds on one attribute that is no list. -/
theorem selective_between {field : entity.Field} {low high : Option Value}
    (hfield : Entity.isCollected field = false) :
    Selective (between field low high).predicate [field] := by
  have hbound : ∀ {bound : Option Value} {operator : Operator},
      operator ≠ .contains → Selective (bound.elim .always
        (condition field operator)) [field] := by
    intro bound operator hoperator
    cases bound with
    | none => exact Selective.always.mono (List.nil_subset [field])
    | some value => exact Selective.leaf fun hsame => absurd hsame hoperator
  have hshare : ShareNoList [field] [field] := by
    intro other hother _
    rwa [List.mem_singleton.mp hother]
  apply ((hbound (by decide)).and (hbound (by decide)) hshare).mono
  simp

/-- All of some selective specifications of which no two share a list. -/
theorem selective_allOf {parts : List (Specification entity.Field)}
    {spoken : List (List entity.Field)}
    (hparts : List.Forall₂ (fun part spoken =>
      Selective part.predicate spoken) parts spoken)
    (hshare : spoken.Pairwise ShareNoList) :
    Selective (allOf parts).predicate spoken.flatten := by
  have hfold : ∀ (first : Specification entity.Field)
      (before : List entity.Field),
      Selective first.predicate before →
      (∀ others ∈ spoken, ShareNoList before others) →
      Selective (parts.foldl Specification.and first).predicate
        (before ++ spoken.flatten) := by
    induction hparts with
    | nil =>
      intro first before hfirst _
      simpa using hfirst
    | @cons part others parts spoken hpart _ ih =>
      intro first before hfirst hbefore
      rw [List.pairwise_cons] at hshare
      rw [List.forall_mem_cons] at hbefore
      have hboth := hfirst.and hpart hbefore.1
      have hrest := ih hshare.2 (first.and part) (before ++ others) hboth
      rw [List.flatten_cons, ← List.append_assoc, List.foldl_cons]
      apply hrest
      intro later hlater field hfield hshared
      rcases List.mem_append.mp hfield with hfield | hfield
      · exact hbefore.2 later hlater field hfield hshared
      · exact hshare.1 later hlater field hfield hshared
  have hall := hfold unconstrained [] Selective.always
    fun _ _ _ hfield => by cases hfield
  rwa [List.nil_append] at hall

end Specification

/-! ## Requests -/

namespace Criteria

open Predicate (Selective)
open Specification

/-- The specification of every request is selective. -/
theorem selective_specification (criteria : entity.Criteria) :
    ∃ spoken, Selective (specification criteria).predicate spoken := by
  cases entity with
  | users =>
    exact ⟨_, selective_allOf (.cons selective_searching
      (.cons selective_elementOf (.cons selective_memberOf
        (.cons selective_equalTo (.cons selective_equalTo
          (.cons selective_equalTo (.cons (selective_between rfl)
            (.cons (selective_between rfl) .nil)))))))) (by decide)⟩
  | families =>
    exact ⟨_, selective_allOf (.cons selective_searching
      (.cons selective_equalTo (.cons (selective_between rfl)
        (.cons (selective_between rfl) (.cons selective_memberOf
          (.cons (selective_between rfl) (.cons selective_within .nil)))))))
            (by decide)⟩
  | provinces =>
    exact ⟨_, selective_allOf (.cons selective_searching
      (.cons (selective_between rfl) (.cons (selective_between rfl) .nil)))
        (by decide)⟩
  | districts =>
    exact ⟨_, selective_allOf (.cons selective_searching
      (.cons selective_equalTo (.cons (selective_between rfl)
        (.cons (selective_between rfl) .nil)))) (by decide)⟩
  | municipalities =>
    exact ⟨_, selective_allOf (.cons selective_searching
      (.cons selective_equalTo (.cons selective_memberOf
        (.cons (selective_between rfl) (.cons (selective_between rfl)
          (.cons (selective_between rfl) (.cons selective_within .nil)))))))
            (by decide)⟩
  | wards =>
    exact ⟨_, selective_allOf (.cons selective_searching
      (.cons selective_equalTo (.cons selective_equalTo
        (.cons (selective_between rfl) (.cons (selective_between rfl)
          (.cons (selective_between rfl) (.cons selective_within .nil)))))))
            (by decide)⟩

end Criteria

end CivicRegistry
