import CivicRegistry.Proofs.Mentions
import CivicRegistry.Proofs.Sql.Lowering
import CivicRegistry.Proofs.Sql.Placeholders

/-!
# The numbers of placeholders

The placeholders of a clause have the numbers after the one at which it starts,
as many as there are parameters, and are first mentioned in their order.  The
text has the texts of the conditions of the predicate in it from left to right,
each with the placeholders of its own parameters.  Starting at a higher number
raises the placeholders in the text and changes nothing else.
-/

namespace CivicRegistry

/-! ## Conditions and their parameters -/

namespace Predicate

variable {F : Type}

mutual

/-- The conditions in the tree of a predicate, from left to right. -/
def leaves : Predicate F → List (Predicate F)
  | .always => []
  | .all parts => partLeaves parts
  | .any parts => partLeaves parts
  | .leaf condition => [.leaf condition]
  | .near proximity => [.near proximity]

def partLeaves : List (Predicate F) → List (Predicate F)
  | [] => []
  | part :: others => part.leaves ++ partLeaves others

end

/-- The pattern for a term: in lower case, with a backslash before each
character that has a meaning in patterns, between two percent signs. -/
def termPattern (term : String) : String :=
  let escaped := (Text.lowercase term.toList).flatMap fun c =>
    if c ∈ ['\\', '%', '_'] then ['\\', c] else [c]
  String.ofList ('%' :: escaped ++ ['%'])

/-- The values that are sent for a condition, in their order. -/
def parameters : Predicate F → List Value
  | .leaf ⟨_, .contains, .text term⟩ => [.text (termPattern term)]
  | .leaf ⟨_, .oneOf, .list values⟩ => values
  | .leaf condition => [condition.data]
  | .near proximity =>
    let circle := proximity.circle
    [.float circle.center.latitude, .float circle.center.longitude,
      .float circle.radius]
  | .always | .all _ | .any _ => []

end Predicate

namespace Sql

variable {entity : Entity}

/-- A clause as it is sent: its text, its parameters and the collections that
it needs joined. -/
structure Rendering where
  text : String
  parameters : List Value
  joins : List Collection

/-- The clause of a predicate with its placeholders numbered after `start`. -/
def render (start : Nat) (predicate : Predicate entity.Field) :
    Except LoweringError Rendering := do
  let clause ← ofPredicate predicate
  return ⟨clause.sql start, clause.values, clause.joins⟩

/-- The text has the texts of some conditions in it, one after the other and
without placeholders between them.  Each has its placeholders for its own
parameters, numbered after those of the conditions before it. -/
inductive Strung : Nat → List (Predicate entity.Field) → List Char → Prop where
  | done {start : Nat} {rest : List Char} (hrest : '$' ∉ rest) :
    Strung start [] rest
  | next {start : Nat} {leaf : Predicate entity.Field}
    {leaves : List (Predicate entity.Field)} {before after : List Char}
    {rendering : Rendering} (hbefore : '$' ∉ before)
    (hrender : render start leaf = .ok rendering)
    (hparameters : rendering.parameters = leaf.parameters)
    (hmentions : FirstMentions
      (List.range' (start + 1) leaf.parameters.length)
      (mentioned rendering.text.toList))
    (hafter : Strung (start + leaf.parameters.length) leaves after) :
    Strung start (leaf :: leaves)
      (before ++ rendering.text.toList ++ after)

/-! ## Fragments -/

/-- The numbers of the placeholders among some fragments. -/
def numbers (fragments : List Fragment) : List Nat :=
  fragments.filterMap Fragment.number?

theorem numbers_append (left right : List Fragment) :
    numbers (left ++ right) = numbers left ++ numbers right :=
  List.filterMap_append

theorem numbers_text (sql : String) (fragments : List Fragment) :
    numbers (.text sql :: fragments) = numbers fragments :=
  List.filterMap_cons_none rfl

theorem numbers_separated (separator : String)
    (parts : List (List Fragment)) :
    numbers (separated separator parts) = parts.flatMap numbers := by
  induction parts with
  | nil => rfl
  | cons part others ih =>
    rw [List.flatMap_cons]
    cases others with
    | nil => simp [separated]
    | cons second others =>
      rw [separated_cons_cons, numbers_append, numbers_text, ih]

theorem numbers_placeholders (start count : Nat) :
    (placeholders start count).flatMap numbers =
      List.range' (start + 1) count := by
  rw [placeholders, List.flatMap_map, List.range'_eq_map_range,
    List.map_eq_flatMap]
  refine List.flatMap_congr fun i _ => ?_
  rw [Nat.add_right_comm]
  rfl

/-- The fragments with the numbers of all placeholders raised. -/
def raisedAll (distance : Nat) (fragments : List Fragment) : List Fragment :=
  fragments.map (Fragment.raised distance)

theorem raisedAll_separated (distance : Nat) (separator : String)
    (parts : List (List Fragment)) :
    raisedAll distance (separated separator parts) =
      separated separator (parts.map (raisedAll distance)) := by
  induction parts with
  | nil => rfl
  | cons part others ih =>
    cases others with
    | nil => rfl
    | cons second others =>
      rw [separated_cons_cons, raisedAll, List.map_append, List.map_cons,
        ← raisedAll, ← raisedAll, ih]
      rfl

theorem raisedAll_placeholders (distance start count : Nat) :
    (placeholders start count).map (raisedAll distance) =
      placeholders (start + distance) count := by
  rw [placeholders, placeholders, List.map_map]
  refine List.map_congr_left fun i _ => ?_
  show [Fragment.placeholder (start + i + 1 + distance)] = _
  rw [Nat.add_right_comm _ 1, Nat.add_right_comm start]

namespace Clause

variable {α : Type}

theorem numbers_group (separator : String) (parts : List (List Fragment)) :
    numbers (group separator parts) = parts.flatMap numbers := by
  cases parts with
  | nil => rfl
  | cons part others =>
    rw [← numbers_separated separator, group, if_neg (by simp),
      List.cons_append, numbers_text, numbers_append]
    exact List.append_nil _

theorem raisedAll_group (distance : Nat) (separator : String)
    (parts : List (List Fragment)) :
    raisedAll distance (group separator parts) =
      group separator (parts.map (raisedAll distance)) := by
  cases parts with
  | nil => rfl
  | cons part others =>
    rw [group, group, if_neg (by simp), if_neg (by simp),
      ← raisedAll_separated]
    simp [raisedAll, Fragment.raised]

mutual

/-- Starting at a higher number raises the numbers of all placeholders. -/
theorem fragments_add (start distance : Nat) (clause : Clause α) :
    clause.fragments (start + distance) =
      raisedAll distance (clause.fragments start) := by
  cases clause with
  | always => simp [fragments, raisedAll, Fragment.raised]
  | all parts | any parts =>
    rw [fragments, fragments, raisedAll_group, partFragments_add]
  | compare | like =>
    simp [fragments, raisedAll, Fragment.raised, Nat.add_right_comm]
  | oneOf column values =>
    rw [fragments, fragments, ← raisedAll_placeholders,
      ← raisedAll_separated]
    split
    · rfl
    · simp [raisedAll, Fragment.raised]
  | near =>
    simp [fragments, nearFragments, raisedAll, Fragment.raised,
      Nat.add_right_comm]

theorem partFragments_add (start distance : Nat) (parts : List (Clause α)) :
    partFragments (start + distance) parts =
      (partFragments start parts).map (raisedAll distance) := by
  cases parts with
  | nil => rw [partFragments, partFragments, List.map_nil]
  | cons part others =>
    rw [partFragments, partFragments, List.map_cons, fragments_add,
      Nat.add_right_comm, partFragments_add]

end

/-- Numbers that follow those of what is before are mentioned after them. -/
theorem firstMentions_append {start count more : Nat} {left right : List Nat}
    (hleft : FirstMentions (List.range' (start + 1) count) left)
    (hright : FirstMentions (List.range' (start + count + 1) more) right) :
    FirstMentions (List.range' (start + 1) (count + more)) (left ++ right) := by
  have hrange : List.range' (start + 1) (count + more) =
      List.range' (start + 1) count ++
        List.range' (start + count + 1) more := by
    rw [← List.range'_append_1, Nat.add_right_comm]
  rw [hrange]
  apply hleft.append hright
  intro number hlater hearlier
  rw [← hright.mem, List.mem_range'_1] at hlater
  rw [← hleft.mem, List.mem_range'_1] at hearlier
  omega

mutual

/-- The placeholders of a clause have the numbers after its start, one for each
value, and are first mentioned in their order. -/
theorem firstMentions_numbers (start : Nat) (clause : Clause α) :
    FirstMentions (List.range' (start + 1) clause.values.length)
      (numbers (clause.fragments start)) := by
  cases clause with
  | always => exact .nil
  | all parts | any parts =>
    rw [fragments, numbers_group, values]
    exact firstMentions_partNumbers start parts
  | compare | like => exact .singleton (start + 1)
  | oneOf column values =>
    have hnumbers : numbers (fragments start (.oneOf column values)) =
        List.range' (start + 1) values.length := by
      rw [fragments]
      split
      · next hempty => simp_all [numbers, Fragment.number?]
      · rw [List.cons_append, numbers_text, numbers_append, numbers_separated,
          numbers_placeholders]
        exact List.append_nil _
    rw [hnumbers]
    exact .refl List.nodup_range'
  | near =>
    -- the first number is mentioned again before the third
    have htwo : FirstMentions [start + 1, start + 2] [start + 1, start + 2] :=
      .refl (by simp)
    have hagain := htwo.concat_of_mem (List.mem_cons_self)
    have hall : FirstMentions (List.range' (start + 1) (2 + 1))
        ([start + 1, start + 2] ++ [start + 1] ++ [start + 3]) :=
      firstMentions_append hagain (.singleton (start + 3))
    exact hall

theorem firstMentions_partNumbers (start : Nat) (parts : List (Clause α)) :
    FirstMentions (List.range' (start + 1) (partValues parts).length)
      ((partFragments start parts).flatMap numbers) := by
  cases parts with
  | nil => exact .nil
  | cons part others =>
    rw [partFragments, partValues, List.flatMap_cons, List.length_append]
    exact firstMentions_append (firstMentions_numbers start part)
      (firstMentions_partNumbers _ others)

end

end Clause

/-! ## Texts -/

section

variable {predicate : Predicate entity.Field} {clause : Clause Value}

theorem legible_ofPredicate (hclause : ofPredicate predicate = .ok clause)
    (start : Nat) : Legible (clause.fragments start) :=
  clause.legible_fragments start (wellNamed_ofPredicate hclause)

theorem firstMentions_sql (hclause : ofPredicate predicate = .ok clause)
    (start : Nat) :
    FirstMentions (List.range' (start + 1) clause.values.length)
      (mentioned (clause.sql start).toList) := by
  rw [Clause.toList_sql, (legible_ofPredicate hclause start).mentioned_chars]
  exact clause.firstMentions_numbers start

theorem sql_add (hclause : ofPredicate predicate = .ok clause)
    (start distance : Nat) :
    (clause.sql (start + distance)).toList =
      raised distance (clause.sql start).toList := by
  rw [Clause.toList_sql, Clause.toList_sql,
    (legible_ofPredicate hclause start).raised_chars, clause.fragments_add]
  rfl

end

/-! ## Values -/

theorem termPattern_eq (term : String) :
    String.ofList (substringPattern (Text.lowercase term.toList)) =
      Predicate.termPattern term := by
  have hescaped : escapedForLike =
      fun c => if c ∈ ['\\', '%', '_'] then ['\\', c] else [c] := by
    funext c
    simp [escapedForLike]
  rw [substringPattern, hescaped, Predicate.termPattern]

theorem values_ofCondition {column : Column}
    {condition : Condition entity.Field} {clause : Clause Value}
    (hclause : ofCondition column condition = .ok clause) :
    clause.values = (Predicate.leaf condition).parameters := by
  obtain ⟨field, operator, data⟩ := condition
  cases operator with
  | equal | atLeast | atMost =>
    cases hclause
    rfl
  | contains =>
    cases data <;> cases hclause
    rw [termPattern_eq, Clause.values]
    rfl
  | oneOf => cases data <;> cases hclause <;> rfl

mutual

/-- The values of a clause are the parameters of the conditions in their
order. -/
theorem values_ofPredicate {predicate : Predicate entity.Field}
    {clause : Clause Value} (hclause : ofPredicate predicate = .ok clause) :
    clause.values = predicate.leaves.flatMap Predicate.parameters := by
  cases predicate with
  | always =>
    cases hclause
    rfl
  | all parts =>
    obtain ⟨clauses, hclauses, rfl⟩ := exists_of_ofPredicate_all hclause
    exact values_ofPredicates hclauses
  | any parts =>
    obtain ⟨clauses, hclauses, rfl⟩ := exists_of_ofPredicate_any hclause
    exact values_ofPredicates hclauses
  | leaf condition =>
    obtain ⟨column, -, hcondition⟩ := exists_of_ofPredicate_leaf hclause
    rw [values_ofCondition hcondition, Predicate.leaves, List.flatMap_cons,
      List.flatMap_nil, List.append_nil]
  | near proximity =>
    obtain ⟨latitude, longitude, -, -, rfl⟩ :=
      exists_of_ofPredicate_near hclause
    rfl

theorem values_ofPredicates {parts : List (Predicate entity.Field)}
    {clauses : List (Clause Value)}
    (hclauses : ofPredicates parts = .ok clauses) :
    Clause.partValues clauses =
      (Predicate.partLeaves parts).flatMap Predicate.parameters := by
  cases parts with
  | nil =>
    cases hclauses
    rfl
  | cons part others =>
    obtain ⟨first, rest, hfirst, hrest, rfl⟩ :=
      exists_of_ofPredicates_cons hclauses
    rw [Clause.partValues, Predicate.partLeaves, List.flatMap_append,
      values_ofPredicate hfirst, values_ofPredicates hrest]

end

/-! ## Conditions in the text -/

theorem render_eq_ok_iff {predicate : Predicate entity.Field} {start : Nat}
    {rendering : Rendering} :
    render start predicate = .ok rendering ↔
      ∃ clause, ofPredicate predicate = .ok clause ∧
        rendering = ⟨clause.sql start, clause.values, clause.joins⟩ := by
  rw [render]
  cases ofPredicate predicate with
  | error => simp [bind, Except.bind]
  | ok clause => simp [bind, Except.bind, pure, Except.pure, eq_comm]

namespace Strung

variable {start : Nat} {leaves others : List (Predicate entity.Field)}
variable {text rest : List Char}

theorem before {glue : List Char} (hglue : '$' ∉ glue)
    (htext : Strung start leaves text) :
    Strung start leaves (glue ++ text) := by
  cases htext with
  | done hrest => exact .done (by simp [hglue, hrest])
  | next hbefore hrender hparameters hmentions hafter =>
    rw [← List.append_assoc, ← List.append_assoc]
    exact .next (by simp [hglue, hbefore]) hrender hparameters hmentions hafter

theorem append (htext : Strung start leaves text)
    (hrest : Strung
      (start + (leaves.flatMap Predicate.parameters).length) others rest) :
    Strung start (leaves ++ others) (text ++ rest) := by
  induction htext with
  | done hglue => exact hrest.before hglue
  | next hbefore hrender hparameters hmentions hafter ih =>
    rw [List.flatMap_cons, List.length_append, ← Nat.add_assoc] at hrest
    rw [List.append_assoc]
    exact .next hbefore hrender hparameters hmentions (ih hrest)

theorem after {glue : List Char} (hglue : '$' ∉ glue)
    (htext : Strung start leaves text) :
    Strung start leaves (text ++ glue) := by
  have happended := htext.append (.done hglue)
  rwa [List.append_nil] at happended

/-- A condition alone is its own text. -/
theorem leaf {leaf : Predicate entity.Field} {clause : Clause Value}
    (hclause : ofPredicate leaf = .ok clause)
    (hvalues : clause.values = leaf.parameters) (start : Nat) :
    Strung start [leaf] (chars (clause.fragments start)) := by
  have hmentions := firstMentions_sql hclause start
  rw [hvalues] at hmentions
  have hrender : render start leaf =
      .ok ⟨clause.sql start, clause.values, clause.joins⟩ :=
    render_eq_ok_iff.mpr ⟨clause, hclause, rfl⟩
  have hstrung := Strung.next List.not_mem_nil hrender hvalues hmentions
    (.done List.not_mem_nil)
  rw [List.nil_append, List.append_nil] at hstrung
  rwa [← Clause.toList_sql]

/-- What a group puts around its parts has no placeholders. -/
theorem group {parts : List (Predicate entity.Field)}
    {clauses : List (Clause Value)} {separator : String}
    (hclauses : ofPredicates parts = .ok clauses)
    (hparts : Strung start (Predicate.partLeaves parts)
      (chars (separated separator (Clause.partFragments start clauses)))) :
    Strung start (Predicate.partLeaves parts)
      (chars (Clause.group separator
        (Clause.partFragments start clauses))) := by
  cases parts with
  | nil =>
    cases hclauses
    rw [Clause.partFragments]
    exact .done (by simp [Clause.group, chars, Fragment.sql])
  | cons part others =>
    obtain ⟨first, rest, -, -, rfl⟩ := exists_of_ofPredicates_cons hclauses
    have hne := Clause.partFragments_ne_nil start (List.cons_ne_nil first rest)
    have hopening : '$' ∉ ['('] := by decide
    have hclosing : '$' ∉ [')'] := by decide
    rw [Clause.chars_group separator hne]
    exact (hparts.after hclosing).before hopening

end Strung

mutual

/-- The text of a clause has the texts of the conditions in it. -/
theorem strung_ofPredicate {predicate : Predicate entity.Field}
    {clause : Clause Value} (hclause : ofPredicate predicate = .ok clause)
    (start : Nat) :
    Strung start predicate.leaves (chars (clause.fragments start)) := by
  have hvalues := values_ofPredicate hclause
  cases predicate with
  | always =>
    cases hclause
    rw [Clause.fragments]
    exact .done (by simp [chars, Fragment.sql])
  | all parts =>
    obtain ⟨clauses, hclauses, rfl⟩ := exists_of_ofPredicate_all hclause
    rw [Clause.fragments]
    exact .group hclauses (strung_ofPredicates hclauses (by simp) start)
  | any parts =>
    obtain ⟨clauses, hclauses, rfl⟩ := exists_of_ofPredicate_any hclause
    rw [Clause.fragments]
    exact .group hclauses (strung_ofPredicates hclauses (by simp) start)
  | leaf condition =>
    exact .leaf hclause (hvalues.trans (List.append_nil _)) start
  | near proximity =>
    exact .leaf hclause (hvalues.trans (List.append_nil _)) start

theorem strung_ofPredicates {parts : List (Predicate entity.Field)}
    {clauses : List (Clause Value)} {separator : String}
    (hclauses : ofPredicates parts = .ok clauses)
    (hseparator : '$' ∉ separator.toList) (start : Nat) :
    Strung start (Predicate.partLeaves parts)
      (chars (separated separator (Clause.partFragments start clauses))) := by
  cases parts with
  | nil =>
    cases hclauses
    rw [Clause.partFragments]
    exact .done List.not_mem_nil
  | cons part others =>
    obtain ⟨first, rest, hfirst, hrest, rfl⟩ :=
      exists_of_ofPredicates_cons hclauses
    have hpart := strung_ofPredicate hfirst start
    have hothers := strung_ofPredicates hrest hseparator
      (start + first.values.length)
    rw [Clause.partFragments, Predicate.partLeaves]
    rw [values_ofPredicate hfirst] at hothers ⊢
    cases others with
    | nil =>
      cases hrest
      simpa [Clause.partFragments, separated, Predicate.partLeaves] using hpart
    | cons second others =>
      obtain ⟨next, rest, -, -, rfl⟩ := exists_of_ofPredicates_cons hrest
      rw [Clause.partFragments] at hothers ⊢
      rw [separated_cons_cons, chars_append, chars_cons]
      exact hpart.append (hothers.before hseparator)

end

/-- The placeholders of a clause that starts at a number have the numbers after
it, one for each parameter, and are first mentioned in their order.  The
parameters are those of the conditions from left to right, and in the text each
condition has the placeholders of its own parameters.  A clause that starts at a
higher number has the same parameters and joins, and the same text with the
placeholders raised. -/
theorem placeholders_aligned {predicate : Predicate entity.Field} {start : Nat}
    {rendering : Rendering} (hrender : render start predicate = .ok rendering) :
    FirstMentions (List.range' (start + 1) rendering.parameters.length)
        (mentioned rendering.text.toList) ∧
      rendering.parameters =
        predicate.leaves.flatMap Predicate.parameters ∧
      Strung start predicate.leaves rendering.text.toList ∧
      ∀ distance, render (start + distance) predicate =
        .ok { rendering with
          text := String.ofList (raised distance rendering.text.toList) } := by
  obtain ⟨clause, hclause, rfl⟩ := render_eq_ok_iff.mp hrender
  refine ⟨firstMentions_sql hclause start, values_ofPredicate hclause, ?_, ?_⟩
  · rw [Clause.toList_sql]
    exact strung_ofPredicate hclause start
  · intro distance
    rw [render_eq_ok_iff]
    refine ⟨clause, hclause, ?_⟩
    rw [← sql_add hclause, String.ofList_toList]

/-- Families with a percent sign in the name of their head, or in a circle and
with one of two rights to their house. -/
def circledFamilies : Predicate (Entity.Field .families) :=
  .any [.leaf ⟨.headOfFamily, .contains, .text "5%A"⟩,
    .all [.near ⟨.latitude, .longitude, ⟨⟨27.5, 85.25⟩, 2.0⟩⟩,
      .leaf ⟨.houseOwnership, .oneOf, .list [.text "OWNED", .text "RENTED"]⟩]]

/-- Six parameters after the first eight, the second of which is mentioned
twice. -/
theorem placeholders_aligned_sample :
    ∃ rendering, render 8 circledFamilies = .ok rendering ∧
      rendering.parameters = [.text "%5\\%a%", .float 27.5, .float 85.25,
        .float 2.0, .text "OWNED", .text "RENTED"] ∧
      FirstMentions [9, 10, 11, 12, 13, 14]
        (mentioned rendering.text.toList) ∧
      Strung 8 circledFamilies.leaves rendering.text.toList := by
  have hrender : ∃ rendering, render 8 circledFamilies = .ok rendering :=
    ⟨_, rfl⟩
  obtain ⟨rendering, hrender⟩ := hrender
  obtain ⟨hmentions, hparameters, hstrung, -⟩ := placeholders_aligned hrender
  have hsent : rendering.parameters = [.text "%5\\%a%", .float 27.5,
      .float 85.25, .float 2.0, .text "OWNED", .text "RENTED"] :=
    hparameters.trans rfl
  rw [hsent] at hmentions
  exact ⟨rendering, hrender, hsent, hmentions, hstrung⟩

end Sql

end CivicRegistry
