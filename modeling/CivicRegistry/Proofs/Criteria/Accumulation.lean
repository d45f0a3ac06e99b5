import CivicRegistry.Criteria.Violations
import Mathlib.Data.List.Basic

/-!
# What checks record

A check of a request charges one field with one message if its rule is broken.
Checks that follow one another keep, for every field, the message of the first
broken rule that is charged to it, and nothing about the other fields.
-/

namespace CivicRegistry

/-- What may be wrong with a request: the field that is charged, the message it
is charged with, and when that is done. -/
structure Rule where
  field : String
  message : String
  Broken : Prop
  [decidable : Decidable Broken]

attribute [instance] Rule.decidable

namespace Rule

variable {α : Type}

/-- A value that is given is below a bound. -/
def floor [LT α] [DecidableLT α] [Written α] (field : String)
    (value : Option α) (low : α) : Rule where
  field := field
  message := field ++ " must be at least " ++ Written.written low
  Broken := ∃ given ∈ value, given < low

/-- A value that is given does not lie between two bounds, both included. -/
def span [LE α] [DecidableLE α] [Written α] (field : String)
    (value : Option α) (low high : α) : Rule where
  field := field
  message := field ++ " must be between " ++ Written.written low ++ " and " ++
    Written.written high
  Broken := ∃ given ∈ value, ¬(low ≤ given ∧ given ≤ high)

/-- Of two bounds that are given the lower one is above the higher one; the
lower one is charged. -/
def order [LT α] [DecidableLT α] (fromName : String) (low : Option α)
    (toName : String) (high : Option α) : Rule where
  field := fromName
  message := fromName ++ " must be less than or equal to " ++ toName
  Broken := ∃ least ∈ low, ∃ most ∈ high, most < least

/-- Two ways of asking for the same thing are both used. -/
def exclusive (name : String) (isSet : Bool) (otherName : String)
    (otherSet : Bool) : Rule where
  field := name
  message := name ++ " cannot be combined with " ++ otherName
  Broken := isSet ∧ otherSet

/-- A text that is given has too many characters. -/
def length (field : String) (value : Option String) (most : Nat) : Rule where
  field := field
  message := field ++ " must be at most " ++ most.repr ++ " characters"
  Broken := ∃ given ∈ value, most < given.length

end Rule

namespace Violations

/-- The fields with a message. -/
def fields (violations : Violations) : List String :=
  violations.entries.map Prod.fst

/-- The fields stand in their order, each of them once. -/
def Sorted (violations : Violations) : Prop :=
  violations.fields.Pairwise fun left right => Ord.compare left right = .lt

/-- Records the message of a rule that is broken. -/
def record (violations : Violations) (rule : Rule) : Violations :=
  violations.addIf rule.Broken rule.field rule.message

/-- Records the messages of broken rules one after the other. -/
def recordAll (violations : Violations) (rules : List Rule) : Violations :=
  rules.foldl record violations

/-! ## Entries -/

theorem mem_insertNew {field message : String} {entry : String × String}
    {entries : List (String × String)}
    (hentry : entry ∈ insertNew field message entries) :
    entry = (field, message) ∨ entry ∈ entries := by
  induction entries with
  | nil => exact .inl (List.mem_singleton.mp hentry)
  | cons head others ih =>
    rw [insertNew] at hentry
    split at hentry
    · exact List.mem_cons.mp hentry
    · exact .inr hentry
    · rcases List.mem_cons.mp hentry with rfl | hothers
      · exact .inr List.mem_cons_self
      · exact (ih hothers).imp_right (List.mem_cons_of_mem _)

/-- A field gets no second message. -/
theorem insertNew_insertNew (field first second : String)
    (entries : List (String × String)) :
    insertNew field second (insertNew field first entries) =
      insertNew field first entries := by
  induction entries with
  | nil => simp [insertNew]
  | cons head others ih =>
    cases hplace : Ord.compare field head.1 with
    | lt => simp [insertNew, hplace]
    | eq => simp [insertNew, hplace]
    | gt => simp [insertNew, hplace, ih]

theorem pairwise_insertNew {field message : String}
    {entries : List (String × String)}
    (hsorted : entries.Pairwise fun left right =>
      Ord.compare left.1 right.1 = .lt) :
    (insertNew field message entries).Pairwise fun left right =>
      Ord.compare left.1 right.1 = .lt := by
  induction entries with
  | nil => exact List.pairwise_singleton _ _
  | cons head others ih =>
    obtain ⟨hhead, hothers⟩ := List.pairwise_cons.mp hsorted
    cases hplace : Ord.compare field head.1 with
    | lt =>
      rw [insertNew, hplace]
      refine List.pairwise_cons.mpr ⟨?_, hsorted⟩
      intro entry hentry
      rcases List.mem_cons.mp hentry with rfl | hlater
      · exact hplace
      · exact Std.TransCmp.lt_trans hplace (hhead entry hlater)
    | eq =>
      rw [insertNew, hplace]
      exact hsorted
    | gt =>
      rw [insertNew, hplace]
      refine List.pairwise_cons.mpr ⟨?_, ih hothers⟩
      intro entry hentry
      rcases mem_insertNew hentry with rfl | hlater
      · exact Std.OrientedCmp.gt_iff_lt.mp hplace
      · exact hhead entry hlater

theorem lookup_eq_none {field : String} {entries : List (String × String)}
    (hlater : ∀ entry ∈ entries, Ord.compare field entry.1 = .lt) :
    entries.lookup field = none := by
  rw [List.lookup_eq_none_iff]
  intro entry hentry
  rw [bne_iff_ne]
  rintro rfl
  have hself : Ord.compare entry.1 entry.1 = .eq := Std.ReflCmp.compare_self
  cases hself.symm.trans (hlater entry hentry)

/-- Where the fields are in their order, an entry is put in only if its field
has no message yet, and the messages of other fields stay as they are. -/
theorem lookup_insertNew {field message name : String}
    {entries : List (String × String)}
    (hsorted : entries.Pairwise fun left right =>
      Ord.compare left.1 right.1 = .lt) :
    (insertNew field message entries).lookup name =
      (entries.lookup name).or
        (if field = name then some message else none) := by
  induction entries with
  | nil =>
    by_cases hname : field = name
    · simp [insertNew, hname]
    · simp [insertNew, hname, List.lookup_cons, beq_false_of_ne (Ne.symm hname)]
  | cons head others ih =>
    obtain ⟨hhead, hothers⟩ := List.pairwise_cons.mp hsorted
    cases hplace : Ord.compare field head.1 with
    | lt =>
      rw [insertNew, hplace]
      by_cases hname : field = name
      · subst hname
        -- Every field that follows comes later, so this one has no message yet.
        have hnone : (head :: others).lookup field = none := by
          apply lookup_eq_none
          intro entry hentry
          rcases List.mem_cons.mp hentry with rfl | hlater
          · exact hplace
          · exact Std.TransCmp.lt_trans hplace (hhead entry hlater)
        rw [hnone, if_pos rfl, List.lookup_cons_self]
        rfl
      · rw [if_neg hname, Option.or_none, List.lookup_cons,
          beq_false_of_ne (Ne.symm hname)]
    | eq =>
      rw [insertNew, hplace]
      have hfield : field = head.1 :=
        Std.LawfulEqCmp.compare_eq_iff_eq.mp hplace
      by_cases hname : field = name
      · rw [← hname, hfield, List.lookup_cons_self]
        rfl
      · rw [if_neg hname, Option.or_none]
    | gt =>
      rw [insertNew, hplace, List.lookup_cons, List.lookup_cons, ih hothers]
      cases name == head.1 <;> rfl

/-! ## Messages -/

theorem sorted_iff {violations : Violations} :
    violations.Sorted ↔ violations.entries.Pairwise fun left right =>
      Ord.compare left.1 right.1 = .lt :=
  List.pairwise_map

theorem sorted_empty : empty.Sorted :=
  List.Pairwise.nil

theorem Sorted.add {violations : Violations} (hsorted : violations.Sorted)
    (field message : String) : (violations.add field message).Sorted :=
  sorted_iff.mpr (pairwise_insertNew (sorted_iff.mp hsorted))

/-- The first message of a field stays, and other fields are not touched. -/
theorem message?_add {violations : Violations} (hsorted : violations.Sorted)
    (field message name : String) :
    (violations.add field message).message? name =
      (violations.message? name).or
        (if field = name then some message else none) :=
  lookup_insertNew (sorted_iff.mp hsorted)

theorem add_add (violations : Violations) (field first second : String) :
    (violations.add field first).add field second =
      violations.add field first :=
  congrArg mk (insertNew_insertNew field first second violations.entries)

theorem mem_fields_iff {violations : Violations} {field : String} :
    field ∈ violations.fields ↔ (violations.message? field).isSome = true := by
  rw [message?, List.lookup_isSome_iff, fields, List.mem_map]
  simp only [beq_iff_eq, eq_comm (a := field)]

theorem isEmpty_iff {violations : Violations} :
    violations.isEmpty = true ↔ ∀ field, field ∉ violations.fields := by
  rw [isEmpty, List.isEmpty_iff, ← List.eq_nil_iff_forall_not_mem, fields,
    List.map_eq_nil_iff]

/-! ## Rules -/

theorem record_of_broken {violations : Violations} {rule : Rule}
    (hbroken : rule.Broken) :
    violations.record rule = violations.add rule.field rule.message := by
  rw [record, decide_eq_true hbroken]
  rfl

theorem record_of_not_broken {violations : Violations} {rule : Rule}
    (hbroken : ¬rule.Broken) : violations.record rule = violations := by
  rw [record, decide_eq_false hbroken]
  rfl

theorem addIf_eq_record {violations : Violations} {isWrong : Bool}
    (rule : Rule) (hwrong : isWrong = true ↔ rule.Broken) :
    violations.addIf isWrong rule.field rule.message =
      violations.record rule := by
  rw [record, Bool.eq_iff_iff.mpr (hwrong.trans decide_eq_true_iff.symm)]

/-- Once a field is charged, a further rule for it changes nothing. -/
theorem record_of_charged {violations : Violations} (rule : Rule)
    (message : String) :
    (violations.add rule.field message).record rule =
      violations.add rule.field message := by
  by_cases hbroken : rule.Broken
  · rw [record_of_broken hbroken, add_add]
  · exact record_of_not_broken hbroken

theorem recordAll_append (violations : Violations) (rules others : List Rule) :
    violations.recordAll (rules ++ others) =
      (violations.recordAll rules).recordAll others :=
  List.foldl_append

theorem Sorted.record {violations : Violations} (hsorted : violations.Sorted)
    (rule : Rule) : (violations.record rule).Sorted := by
  by_cases hbroken : rule.Broken
  · rw [record_of_broken hbroken]
    exact hsorted.add rule.field rule.message
  · rw [record_of_not_broken hbroken]
    exact hsorted

theorem Sorted.recordAll {violations : Violations} (hsorted : violations.Sorted)
    (rules : List Rule) : (violations.recordAll rules).Sorted := by
  induction rules generalizing violations with
  | nil => exact hsorted
  | cons rule others ih => exact ih (hsorted.record rule)

/-- The message of the first broken rule that is charged to a field. -/
def firstMessage (rules : List Rule) (field : String) : Option String :=
  (rules.find? fun rule => decide (rule.Broken ∧ rule.field = field)).map
    Rule.message

theorem message?_record {violations : Violations} (hsorted : violations.Sorted)
    (rule : Rule) (field : String) :
    (violations.record rule).message? field =
      (violations.message? field).or (firstMessage [rule] field) := by
  by_cases hbroken : rule.Broken
  · rw [record_of_broken hbroken, message?_add hsorted]
    by_cases hfield : rule.field = field
    · simp [firstMessage, hbroken, hfield]
    · simp [firstMessage, hbroken, hfield]
  · rw [record_of_not_broken hbroken]
    simp [firstMessage, hbroken]

theorem firstMessage_cons (rule : Rule) (others : List Rule) (field : String) :
    firstMessage (rule :: others) field =
      (firstMessage [rule] field).or (firstMessage others field) := by
  by_cases hcharged : rule.Broken ∧ rule.field = field
  · simp [firstMessage, hcharged]
  · simp [firstMessage, hcharged]

/-- After a sequence of rules a field has the message it had before, or else
that of the first broken rule that is charged to it. -/
theorem message?_recordAll {violations : Violations}
    (hsorted : violations.Sorted) (rules : List Rule) (field : String) :
    (violations.recordAll rules).message? field =
      (violations.message? field).or (firstMessage rules field) := by
  induction rules generalizing violations with
  | nil => exact (Option.or_none).symm
  | cons rule others ih =>
    calc
      _ = ((violations.record rule).message? field).or
          (firstMessage others field) := ih (hsorted.record rule)
      _ = ((violations.message? field).or (firstMessage [rule] field)).or
          (firstMessage others field) := by rw [message?_record hsorted]
      _ = _ := by rw [Option.or_assoc, ← firstMessage_cons]

theorem firstMessage_isSome_iff {rules : List Rule} {field : String} :
    (firstMessage rules field).isSome = true ↔
      ∃ rule ∈ rules, rule.Broken ∧ rule.field = field := by
  rw [firstMessage, Option.isSome_map, List.find?_isSome]
  simp only [decide_eq_true_iff]

theorem firstMessage_eq {before after : List Rule} {rule : Rule}
    (hbroken : rule.Broken)
    (hfirst : ∀ earlier ∈ before, earlier.Broken → earlier.field ≠ rule.field) :
    firstMessage (before ++ rule :: after) rule.field = some rule.message := by
  have hfound : (before ++ rule :: after).find? (fun candidate =>
      decide (candidate.Broken ∧ candidate.field = rule.field)) =
        some rule := by
    rw [List.find?_eq_some_iff_append]
    refine ⟨decide_eq_true ⟨hbroken, rfl⟩, before, after, rfl, ?_⟩
    intro earlier hearlier
    rw [Bool.not_eq_true', decide_eq_false_iff_not, not_and]
    exact hfirst earlier hearlier
  rw [firstMessage, hfound]
  rfl

/-! ## Reports -/

/-- What is wrong with a request is reported completely and without anything
else: the charged fields, and for each the message of its first broken rule. -/
structure Reports (rules : List Rule) (violations : Violations) : Prop where
  sorted : violations.Sorted
  fields : ∀ field, field ∈ violations.fields ↔
    ∃ rule ∈ rules, rule.Broken ∧ rule.field = field
  messages : ∀ before rule after, rules = before ++ rule :: after →
    rule.Broken →
    (∀ earlier ∈ before, earlier.Broken → earlier.field ≠ rule.field) →
    violations.message? rule.field = some rule.message

theorem reports_recordAll (rules : List Rule) :
    Reports rules (empty.recordAll rules) := by
  have hmessage : ∀ field, (empty.recordAll rules).message? field =
      firstMessage rules field := message?_recordAll sorted_empty rules
  constructor
  · exact sorted_empty.recordAll rules
  · intro field
    rw [mem_fields_iff, hmessage, firstMessage_isSome_iff]
  · intro before rule after hrules hbroken hfirst
    rw [hmessage, hrules, firstMessage_eq hbroken hfirst]

/-- Nothing is reported exactly if no rule is broken. -/
theorem Reports.isEmpty_iff {rules : List Rule} {violations : Violations}
    (hreports : Reports rules violations) :
    violations.isEmpty = true ↔ ∀ rule ∈ rules, ¬rule.Broken := by
  rw [Violations.isEmpty_iff]
  constructor
  · intro hnone rule hrule hbroken
    exact hnone rule.field ((hreports.fields _).mpr ⟨rule, hrule, hbroken, rfl⟩)
  · intro hkept field hfield
    obtain ⟨rule, hrule, hbroken, -⟩ := (hreports.fields field).mp hfield
    exact hkept rule hrule hbroken

/-! ## Checks -/

section

variable {α : Type} {violations : Violations} {field fromName toName : String}

theorem atLeast_eq_record [LT α] [DecidableLT α] [Written α] {value : Option α}
    {low : α} :
    violations.atLeast field value low =
      violations.record (.floor field value low) := by
  cases value with
  | none => exact (record_of_not_broken (by simp [Rule.floor])).symm
  | some given =>
    exact addIf_eq_record (.floor field (some given) low) (by simp [Rule.floor])

/-- A value is out of bounds if it is below the lower or above the higher one,
provided that it can be compared with them. -/
theorem between_eq_record [LT α] [LE α] [DecidableLT α] [DecidableLE α]
    [Written α] {value : Option α} {low high : α}
    (hcompared : ∀ given ∈ value, given < low ∨ high < given ↔
      ¬(low ≤ given ∧ given ≤ high)) :
    violations.between field value low high =
      violations.record (.span field value low high) := by
  cases value with
  | none => exact (record_of_not_broken (by simp [Rule.span])).symm
  | some given =>
    have hbroken := hcompared given rfl
    exact addIf_eq_record (.span field (some given) low high)
      (by simp [Rule.span, hbroken])

theorem range_eq_record [LT α] [DecidableLT α] {low high : Option α} :
    violations.range fromName low toName high =
      violations.record (.order fromName low toName high) := by
  cases low with
  | none => exact (record_of_not_broken (by simp [Rule.order])).symm
  | some least =>
    cases high with
    | none => exact (record_of_not_broken (by simp [Rule.order])).symm
    | some most =>
      exact addIf_eq_record (.order fromName (some least) toName (some most))
        (by simp [Rule.order])

theorem exclusive_eq_record {name otherName : String} {isSet otherSet : Bool} :
    violations.exclusive name isSet otherName otherSet =
      violations.record (.exclusive name isSet otherName otherSet) :=
  addIf_eq_record (.exclusive name isSet otherName otherSet)
    (by simp [Rule.exclusive])

theorem maxChars_eq_record {value : Option String} {most : Nat} :
    violations.maxChars field value most =
      violations.record (.length field value most) := by
  cases value with
  | none => exact (record_of_not_broken (by simp [Rule.length])).symm
  | some given =>
    exact addIf_eq_record (.length field (some given) most)
      (by simp [Rule.length])

end

end Violations

end CivicRegistry
