import CivicRegistry.Proofs.Criteria.Accumulation
import Mathlib.Data.List.Sort

/-!
# Sequences of checks

Checks are made one after the other, in any number and order.  What they report
is settled by the first broken rule that is charged to each field.  Hence checks
that are charged to different fields do not touch one another, and a check that
is made once more adds nothing.
-/

namespace CivicRegistry

/-! ## What is recorded -/

namespace Violations

theorem Sorted.mem_entries_iff {violations : Violations}
    (hsorted : violations.Sorted) {field message : String} :
    (field, message) ∈ violations.entries ↔
      violations.message? field = some message := by
  rw [message?, List.lookup_eq_some_iff]
  constructor
  · intro hmem
    obtain ⟨before, after, hentries⟩ := List.append_of_mem hmem
    refine ⟨before, after, hentries, ?_⟩
    intro entry hentry
    rw [sorted_iff, hentries, List.pairwise_append] at hsorted
    have hplace := hsorted.2.2 entry hentry _ List.mem_cons_self
    rw [bne_iff_ne]
    rintro rfl
    have hself : Ord.compare entry.1 entry.1 = .eq := Std.ReflCmp.compare_self
    cases hself.symm.trans hplace
  · rintro ⟨before, after, hentries, -⟩
    simp [hentries]

/-- Violations are told by the message of each field. -/
theorem Sorted.ext {left right : Violations} (hleft : left.Sorted)
    (hright : right.Sorted)
    (hmessage : ∀ field, left.message? field = right.message? field) :
    left = right := by
  let before (entry other : String × String) : Prop :=
    Ord.compare entry.1 other.1 = .lt
  have hirreflexive : Std.Irrefl before :=
    ⟨fun entry hentry => by
      cases hentry.symm.trans (Std.ReflCmp.compare_self (a := entry.1))⟩
  have hantisymmetric : Std.Antisymm before :=
    ⟨fun entry other hentry hother => by
      cases hother.symm.trans (Std.OrientedCmp.gt_of_lt hentry)⟩
  have hentries : left.entries = right.entries := by
    apply (sorted_iff.mp hleft).eq_of_mem_iff (r := before)
      (sorted_iff.mp hright)
    rintro ⟨field, message⟩
    rw [hleft.mem_entries_iff, hright.mem_entries_iff, hmessage]
  cases left
  cases right
  exact congrArg mk hentries

theorem firstMessage_append (rules others : List Rule) (field : String) :
    firstMessage (rules ++ others) field =
      (firstMessage rules field).or (firstMessage others field) := by
  induction rules with
  | nil => rfl
  | cons rule rules ih =>
    rw [List.cons_append, firstMessage_cons, ih, ← Option.or_assoc,
      ← firstMessage_cons]

/-- What is recorded of some rules depends on the first message of each field
alone. -/
theorem recordAll_congr {rules others : List Rule}
    (hmessage : ∀ field, firstMessage rules field = firstMessage others field) :
    empty.recordAll rules = empty.recordAll others := by
  refine (sorted_empty.recordAll rules).ext (sorted_empty.recordAll others) ?_
  intro field
  rw [message?_recordAll sorted_empty, message?_recordAll sorted_empty,
    hmessage]

/-- A rule has a message for no field but the one that it is charged to. -/
theorem firstMessage_eq_none_of_ne {rule : Rule} {field : String}
    (hfield : rule.field ≠ field) : firstMessage [rule] field = none := by
  simp [firstMessage, hfield]

theorem firstMessage_swap {one other : Rule} (hfields : one.field ≠ other.field)
    (field : String) :
    firstMessage [one, other] field = firstMessage [other, one] field := by
  rw [firstMessage_cons one, firstMessage_cons other [one]]
  by_cases hfield : one.field = field
  · subst hfield
    rw [firstMessage_eq_none_of_ne hfields.symm, Option.or_none, Option.none_or]
  · rw [firstMessage_eq_none_of_ne hfield, Option.or_none, Option.none_or]

/-- Rules of different fields can be exchanged. -/
theorem recordAll_swap (before after : List Rule) {one other : Rule}
    (hfields : one.field ≠ other.field) :
    empty.recordAll (before ++ one :: other :: after) =
      empty.recordAll (before ++ other :: one :: after) := by
  apply recordAll_congr
  intro field
  have hsplit (first second : Rule) :
      before ++ first :: second :: after =
        before ++ ([first, second] ++ after) := rfl
  rw [hsplit, hsplit, firstMessage_append, firstMessage_append,
    firstMessage_append, firstMessage_append, firstMessage_swap hfields]

/-- A rule adds nothing where it stands before. -/
theorem recordAll_repeat (before between after : List Rule) (rule : Rule) :
    empty.recordAll (before ++ rule :: between ++ rule :: after) =
      empty.recordAll (before ++ rule :: between ++ after) := by
  apply recordAll_congr
  intro field
  rw [firstMessage_append _ (rule :: after), firstMessage_append _ after,
    firstMessage_cons rule after, firstMessage_append before,
    firstMessage_cons rule between]
  cases firstMessage before field <;> cases firstMessage [rule] field <;> simp

end Violations

/-! ## Checks -/

/-- A value that is given is below the lower or above the higher of two
bounds. -/
def Rule.outside {α : Type} [LT α] [DecidableLT α] [Written α] (field : String)
    (value : Option α) (low high : α) : Rule where
  field := field
  message := field ++ " must be between " ++ Written.written low ++ " and " ++
    Written.written high
  Broken := ∃ given ∈ value, given < low ∨ high < given

/-- A check with the values that it looks at. -/
inductive Check : Type 1 where
  | add (field message : String)
  | range {α : Type} [LT α] [DecidableLT α] (fromName : String)
      (low : Option α) (toName : String) (high : Option α)
  | exclusive (name : String) (isSet : Bool) (otherName : String)
      (otherSet : Bool)
  | atLeast {α : Type} [LT α] [DecidableLT α] [Written α] (field : String)
      (value : Option α) (low : α)
  | between {α : Type} [LT α] [DecidableLT α] [Written α] (field : String)
      (value : Option α) (low high : α)
  | maxChars (field : String) (value : Option String) (most : Nat)

namespace Check

/-- Makes a check after others. -/
def make : Check → Violations → Violations
  | add field message, violations => violations.add field message
  | range fromName low toName high, violations =>
    violations.range fromName low toName high
  | exclusive name isSet otherName otherSet, violations =>
    violations.exclusive name isSet otherName otherSet
  | atLeast field value low, violations => violations.atLeast field value low
  | between field value low high, violations =>
    violations.between field value low high
  | maxChars field value most, violations =>
    violations.maxChars field value most

/-- What some checks report when they are made one after the other. -/
def report (checks : List Check) : Except Violations Unit :=
  (checks.foldl (fun violations check => check.make violations)
    Violations.empty).result

/-- The rule that a check looks after. -/
def rule : Check → Rule
  | add field message =>
    { field := field, message := message, Broken := True }
  | range fromName low toName high => .order fromName low toName high
  | exclusive name isSet otherName otherSet =>
    .exclusive name isSet otherName otherSet
  | atLeast field value low => .floor field value low
  | between field value low high => .outside field value low high
  | maxChars field value most => .length field value most

theorem make_eq_record (check : Check) (violations : Violations) :
    check.make violations = violations.record check.rule := by
  cases check with
  | add field message =>
    have hbroken : (add field message).rule.Broken := trivial
    exact (Violations.record_of_broken hbroken).symm
  | range => exact Violations.range_eq_record
  | exclusive => exact Violations.exclusive_eq_record
  | atLeast => exact Violations.atLeast_eq_record
  | between field value low high =>
    cases value with
    | none =>
      exact (Violations.record_of_not_broken
        (by simp [rule, Rule.outside])).symm
    | some given =>
      exact Violations.addIf_eq_record (.outside field (some given) low high)
        (by simp [Rule.outside])
  | maxChars => exact Violations.maxChars_eq_record

theorem report_eq (checks : List Check) :
    report checks = (Violations.empty.recordAll (checks.map rule)).result := by
  rw [report, Violations.recordAll, List.foldl_map]
  simp only [make_eq_record]

end Check

namespace Violations

theorem result_eq_ok_iff {violations : Violations} :
    violations.result = .ok () ↔ violations.isEmpty = true := by
  rw [result]
  cases violations.isEmpty <;> simp

theorem eq_of_result_eq_error {violations found : Violations}
    (hresult : violations.result = .error found) : found = violations := by
  rw [result] at hresult
  split at hresult
  · cases hresult
  · exact (Except.error.inj hresult).symm

end Violations

namespace Check

open Violations (Reports)

/-- Checks pass if none of their rules is broken.  Otherwise the fields of the
broken rules are reported, each with the message of the first of them.  Two
neighbours that are charged to different fields can be exchanged, and a check
that is made once more later changes nothing. -/
theorem reported_independently (checks : List Check) :
    (report checks = .ok () ↔ ∀ check ∈ checks, ¬check.rule.Broken) ∧
    (∀ violations, report checks = .error violations →
      Reports (checks.map rule) violations) ∧
    (∀ before one other after, checks = before ++ one :: other :: after →
      one.rule.field ≠ other.rule.field →
        report (before ++ other :: one :: after) = report checks) ∧
    ∀ before check between after,
      checks = before ++ check :: between ++ after →
        report (before ++ check :: between ++ check :: after) =
          report checks := by
  have hreports := Violations.reports_recordAll (checks.map rule)
  refine ⟨?_, ?_, ?_, ?_⟩
  · rw [report_eq, Violations.result_eq_ok_iff, hreports.isEmpty_iff,
      List.forall_mem_map]
  · intro violations hreport
    rw [report_eq] at hreport
    rwa [Violations.eq_of_result_eq_error hreport]
  · rintro before one other after rfl hfields
    rw [report_eq, report_eq]
    simp only [List.map_append, List.map_cons]
    rw [Violations.recordAll_swap _ _ hfields.symm]
  · rintro before check between after rfl
    rw [report_eq, report_eq]
    simp only [List.map_append, List.map_cons]
    rw [Violations.recordAll_repeat]

/-- Four checks of numbers, three of which find something: two of them for the
same field. -/
def sampleChecks : List Check :=
  [.range "minWards" (some 3) "maxWards" (some (1 : Int)),
    .between "pageSize" (some 500) (1 : Int) 100,
    .atLeast "minWards" (some 0) (1 : Int),
    .exclusive "wardNumber" true "wardNumberFrom/wardNumberTo" false]

theorem reported_independently_sample :
    (∃ violations, report sampleChecks = .error violations ∧
      Reports (sampleChecks.map rule) violations ∧
      violations.entries =
        [("minWards", "minWards must be less than or equal to maxWards"),
          ("pageSize", "pageSize must be between 1 and 100")]) ∧
      report ([] ++ sampleChecks[1] :: sampleChecks[0] ::
        sampleChecks.drop 2) = report sampleChecks ∧
      report ([] ++ sampleChecks[0] :: sampleChecks.tail ++
        [sampleChecks[0]]) = report sampleChecks := by
  obtain ⟨-, hreports, hswap, hrepeat⟩ := reported_independently sampleChecks
  refine ⟨⟨_, rfl, hreports _ rfl, rfl⟩, ?_, ?_⟩
  · exact hswap [] _ _ _ rfl (by decide)
  · exact hrepeat [] _ sampleChecks.tail [] (by rfl)

end Check

end CivicRegistry
