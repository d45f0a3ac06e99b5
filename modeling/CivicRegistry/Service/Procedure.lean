import CivicRegistry.Service.Question

/-!
# Procedures

A procedure is what the service does for one call: it asks questions one after
the other, goes on according to the answers and comes to a result, or breaks off
without one.  A procedure is data: it is carried out by whoever answers its
questions, and what it asks can be read off it.
-/

namespace CivicRegistry.Service

inductive Procedure (α : Type) where
  | done (value : α)
  | ask (question : Question) (next : question.Answer → Procedure α)
  /-- Breaks off; what has been asked for stays done. -/
  | broken

namespace Procedure

variable {α β : Type}

def bind : Procedure α → (α → Procedure β) → Procedure β
  | .done value, f => f value
  | .ask question next, f => .ask question fun answer => (next answer).bind f
  | .broken, _ => .broken

instance : Monad Procedure where
  pure := .done
  bind := Procedure.bind

/-- Asks a question for its answer. -/
def question (question : Question) : Procedure question.Answer :=
  .ask question .done

/-- Carries a procedure out with somebody who answers its questions. -/
def run {m : Type → Type} [Monad m]
    (answer : (question : Question) → m question.Answer) :
    Procedure α → m (Option α)
  | .done value => pure (some value)
  | .ask question next => do
    let given ← answer question
    run answer (next given)
  | .broken => pure none

@[simp]
theorem pure_eq (value : α) : (pure value : Procedure α) = .done value := rfl

@[simp]
theorem bind_eq (procedure : Procedure α) (f : α → Procedure β) :
    procedure >>= f = procedure.bind f :=
  rfl

@[simp]
theorem bind_done (procedure : Procedure α) :
    procedure.bind .done = procedure := by
  induction procedure with
  | done value => rfl
  | ask question next ih => simp [bind, ih]
  | broken => rfl

theorem bind_bind {γ : Type} (procedure : Procedure α) (f : α → Procedure β)
    (g : β → Procedure γ) :
    (procedure.bind f).bind g =
      procedure.bind fun value => (f value).bind g := by
  induction procedure with
  | done value => rfl
  | ask question next ih => simp [bind, ih]
  | broken => rfl

instance : LawfulMonad Procedure :=
  .mk' Procedure bind_done (fun _ _ => rfl) bind_bind

end Procedure

end CivicRegistry.Service
