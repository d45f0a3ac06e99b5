import CivicRegistry.Service.Procedure

/-!
# Surroundings

Surroundings answer the questions of procedures by everything that was asked
and answered before.  Time may pass between two questions, a ledger or a store
may have changed, fail or stay silent: any rule that goes by the past is among
them.  Carrying out a procedure in some surroundings gives what it comes to and
the dialogue that led there, which only ever gets longer.
-/

namespace CivicRegistry.Service

/-- A question and its answer. -/
structure Turn where
  question : Question
  answer : question.Answer

/-- What has been asked and answered so far, the first question first. -/
abbrev Dialogue := List Turn

structure Surroundings where
  answer : Dialogue → (question : Question) → question.Answer

namespace Surroundings

variable {α β : Type} (surroundings : Surroundings)

/-- The dialogue after one more question. -/
def after (past : Dialogue) (question : Question) : Dialogue :=
  past ++ [⟨question, surroundings.answer past question⟩]

/-- The answer to a question, and the dialogue after it. -/
def respond (question : Question) : StateM Dialogue question.Answer :=
  fun past => (surroundings.answer past question,
    surroundings.after past question)

/-- Carries out a procedure. -/
def carryOut (procedure : Procedure α) : StateM Dialogue (Option α) :=
  procedure.run surroundings.respond

@[simp]
theorem carryOut_done (value : α) (past : Dialogue) :
    surroundings.carryOut (.done value) past = (some value, past) := rfl

@[simp]
theorem carryOut_broken (past : Dialogue) :
    surroundings.carryOut (.broken : Procedure α) past = (none, past) := rfl

theorem carryOut_ask (question : Question)
    (next : question.Answer → Procedure α) (past : Dialogue) :
    surroundings.carryOut (.ask question next) past =
      surroundings.carryOut (next (surroundings.answer past question))
        (surroundings.after past question) := rfl

theorem carryOut_bind_of_some {procedure : Procedure α} {past later : Dialogue}
    {value : α}
    (hcarried : surroundings.carryOut procedure past = (some value, later))
    (next : α → Procedure β) :
    surroundings.carryOut (procedure.bind next) past =
      surroundings.carryOut (next value) later := by
  induction procedure generalizing past with
  | done first =>
    cases hcarried
    rfl
  | broken => cases hcarried
  | ask question rest ih => exact ih _ hcarried

theorem carryOut_bind_of_none {procedure : Procedure α} {past later : Dialogue}
    (hcarried : surroundings.carryOut procedure past = (none, later))
    (next : α → Procedure β) :
    surroundings.carryOut (procedure.bind next) past = (none, later) := by
  induction procedure generalizing past with
  | done first => cases hcarried
  | broken =>
    cases hcarried
    rfl
  | ask question rest ih => exact ih _ hcarried

theorem exists_of_carryOut_bind {procedure : Procedure α}
    {next : α → Procedure β} {past : Dialogue} {result : β}
    (hcarried : (surroundings.carryOut (procedure.bind next) past).1 =
      some result) :
    ∃ value later, surroundings.carryOut procedure past = (some value, later) ∧
      (surroundings.carryOut (next value) later).1 = some result := by
  induction procedure generalizing past with
  | done value => exact ⟨value, past, rfl, hcarried⟩
  | broken => cases hcarried
  | ask question rest ih => exact ih _ hcarried

/-- A dialogue is only ever continued. -/
theorem exists_asked (procedure : Procedure α) (past : Dialogue) :
    ∃ asked, (surroundings.carryOut procedure past).2 = past ++ asked := by
  induction procedure generalizing past with
  | done value => exact ⟨[], by simp⟩
  | broken => exact ⟨[], by simp⟩
  | ask question next ih =>
    obtain ⟨asked, hasked⟩ := ih _ (surroundings.after past question)
    refine ⟨⟨question, surroundings.answer past question⟩ :: asked, ?_⟩
    rw [carryOut_ask, hasked, after, ← List.append_cons]

/-- Surroundings that answer alike all the questions that are asked lead to
the same dialogue and outcome. -/
theorem carryOut_congr {surroundings other : Surroundings}
    {alike : Question → Prop}
    (hanswer : ∀ past question, alike question →
      other.answer past question = surroundings.answer past question)
    {procedure : Procedure α} {past asked : Dialogue} {outcome : Option α}
    (hcarried : surroundings.carryOut procedure past =
      (outcome, past ++ asked))
    (hasked : ∀ turn ∈ asked, alike turn.question) :
    other.carryOut procedure past = (outcome, past ++ asked) := by
  induction procedure generalizing past asked with
  | done value => exact hcarried
  | broken => exact hcarried
  | ask question next ih =>
    rw [carryOut_ask] at hcarried ⊢
    obtain ⟨rest, hrest⟩ := surroundings.exists_asked
      (next (surroundings.answer past question))
      (surroundings.after past question)
    have hsplit : asked =
        ⟨question, surroundings.answer past question⟩ :: rest := by
      rw [hcarried, after, ← List.append_cons] at hrest
      exact List.append_cancel_left hrest
    have hquestion : alike question :=
      hasked ⟨question, surroundings.answer past question⟩ (by simp [hsplit])
    rw [hsplit, List.append_cons] at hcarried ⊢
    rw [after, hanswer past question hquestion]
    exact ih _ hcarried fun turn hturn => hasked turn (by simp [hsplit, hturn])

end Surroundings

end CivicRegistry.Service
