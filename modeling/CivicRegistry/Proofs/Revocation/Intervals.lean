import CivicRegistry.Proofs.Revocation.Standing

/-!
# Procedures carried out with intervals

Between any two questions of a procedure time may pass, and looking a key up,
revoking one and claiming one may each begin to fail, fall silent or work
again.  Which intervals there can be is left open: any of them, or only those
in which nothing changes but the time.  Whatever happens in between, a
procedure that spares a key leaves it free if it was free and barred if it was
barred.
-/

namespace CivicRegistry.Service

open Calendar (Moment Span)

/-- What happens between two questions: some time passes, and afterwards the
parts of the host are in these conditions. -/
structure Interval where
  pause : Span
  lookups : Condition Token.LedgerFault
  revocations : Condition Token.LedgerFault
  claims : Condition Token.LedgerFault
  stores : Condition Store.Fault

/-- The host after an interval. -/
def Host.across (interval : Interval) (host : Host) : Host where
  now := host.now.after interval.pause
  identifiers := host.identifiers
  ledger := host.ledger
  tables := host.tables
  lookups := interval.lookups
  revocations := interval.revocations
  claims := interval.claims
  stores := interval.stores

/-- How a host carries out a procedure with an interval before each question,
one of those that are allowed.  There is no outcome where the procedure breaks
off. -/
inductive Carried {α : Type} (allowed : Host → Interval → Prop) :
    Host → Procedure α → Option α → Host → Prop where
  | done (host : Host) (value : α) :
      Carried allowed host (.done value) (some value) host
  | broken (host : Host) : Carried allowed host .broken none host
  | ask {host ending : Host} {question : Question}
      {next : question.Answer → Procedure α} {outcome : Option α}
      (interval : Interval) (hallowed : allowed host interval)
      (hrest : Carried allowed ((host.across interval).answer question).2
        (next ((host.across interval).answer question).1) outcome ending) :
      Carried allowed host (.ask question next) outcome ending

/-- Anything may happen between two questions. -/
abbrev Endures {α : Type} : Host → Procedure α → Option α → Host → Prop :=
  Carried fun _ _ => True

namespace Host

variable {host middle ending : Host} {key : String} {deadline : Moment}

/-- From one host to the other a free key has stayed free and a barred one
barred. -/
structure Keeps (key : String) (deadline : Moment) (host ending : Host) :
    Prop where
  free : host.Free key → ending.Free key
  bars : host.Bars key deadline → ending.Bars key deadline

theorem keeps_self : Keeps key deadline host host := ⟨id, id⟩

theorem Keeps.trans (hfirst : Keeps key deadline host middle)
    (hsecond : Keeps key deadline middle ending) :
    Keeps key deadline host ending :=
  ⟨hsecond.free ∘ hfirst.free, hsecond.bars ∘ hfirst.bars⟩

theorem keeps_later (pause : Span) :
    Keeps key deadline host (host.later pause) :=
  ⟨(Free.later · pause), (Bars.later · pause)⟩

theorem keeps_answer {question : Question}
    (hspares : question.written? ≠ some key) :
    Keeps key deadline host (host.answer question).2 :=
  ⟨(Free.answer · hspares), (Bars.answer · hspares)⟩

/-- What is out of order during an interval changes nothing about a key. -/
theorem keeps_across (interval : Interval) :
    Keeps key deadline host (host.across interval) := by
  have hlater : Keeps key deadline host (host.later interval.pause) :=
    keeps_later interval.pause
  exact ⟨hlater.free, hlater.bars⟩

/-- A question that writes no key leaves the ledger as it is. -/
theorem ledger_answer {question : Question}
    (hspares : question.written? = none) :
    (host.answer question).2.ledger = host.ledger := by
  cases question with
  | revoke key span => cases hspares
  | claim key span => cases hspares
  | _ => rfl

end Host

namespace Carried

variable {α β : Type} {allowed : Host → Interval → Prop}
  {host middle ending : Host} {outcome : Option α}

theorem of_done {value : α}
    (hcarried : Carried allowed host (.done value) outcome ending) :
    outcome = some value ∧ ending = host := by
  cases hcarried
  exact ⟨rfl, rfl⟩

theorem exists_interval {question : Question}
    {next : question.Answer → Procedure α}
    (hcarried : Carried allowed host (.ask question next) outcome ending) :
    ∃ interval, allowed host interval ∧
      Carried allowed ((host.across interval).answer question).2
        (next ((host.across interval).answer question).1) outcome ending := by
  cases hcarried with
  | ask interval hallowed hrest => exact ⟨interval, hallowed, hrest⟩

/-- A procedure after another one starts where that one comes to a value. -/
theorem bind {procedure : Procedure β} {next : β → Procedure α} {value : β}
    (hfirst : Carried allowed host procedure (some value) middle)
    (hnext : Carried allowed middle (next value) outcome ending) :
    Carried allowed host (procedure.bind next) outcome ending := by
  generalize houtcome : some value = first at hfirst
  induction hfirst with
  | done host other =>
    cases houtcome
    exact hnext
  | broken => cases houtcome
  | ask interval hallowed _ ih =>
    exact .ask interval hallowed (ih hnext houtcome)

theorem of_bind {procedure : Procedure β} {next : β → Procedure α}
    (hcarried : Carried allowed host (procedure.bind next) outcome ending) :
    (outcome = none ∧ Carried allowed host procedure none ending) ∨
      ∃ value middle, Carried allowed host procedure (some value) middle ∧
        Carried allowed middle (next value) outcome ending := by
  induction procedure generalizing host with
  | done value => exact .inr ⟨value, _, .done _ value, hcarried⟩
  | broken =>
    cases hcarried
    exact .inl ⟨rfl, .broken _⟩
  | ask question rest ih =>
    obtain ⟨interval, hallowed, hrest⟩ := exists_interval hcarried
    rcases ih _ hrest with ⟨hnone, hbroken⟩ | ⟨value, middle, hfirst, hnext⟩
    · exact .inl ⟨hnone, .ask interval hallowed hbroken⟩
    · exact .inr ⟨value, middle, .ask interval hallowed hfirst, hnext⟩

theorem now_le {procedure : Procedure α}
    (hcarried : Carried allowed host procedure outcome ending) :
    host.now ≤ ending.now := by
  induction hcarried with
  | done | broken => exact Int.le_refl _
  | @ask host _ _ _ _ interval _ _ ih =>
    rw [Host.now_answer] at ih
    exact Int.le_trans (Token.Ledger.le_after host.now interval.pause) ih

theorem keeps {procedure : Procedure α} {key : String} {deadline : Moment}
    (hspares : procedure.Spares key)
    (hcarried : Carried allowed host procedure outcome ending) :
    Host.Keeps key deadline host ending := by
  induction hcarried with
  | done | broken => exact Host.keeps_self
  | @ask host _ _ _ _ interval _ _ ih =>
    have hasked : Host.Keeps key deadline host
        ((host.across interval).answer _).2 :=
      (Host.keeps_across interval).trans (Host.keeps_answer hspares.1)
    exact hasked.trans (ih (hspares.2 _))

/-- A procedure that spares every key leaves the ledger as it is. -/
theorem ledger_eq {procedure : Procedure α}
    (hspares : ∀ key, procedure.Spares key)
    (hcarried : Carried allowed host procedure outcome ending) :
    ending.ledger = host.ledger := by
  induction hcarried with
  | done | broken => rfl
  | @ask host _ question next _ interval _ _ ih =>
    have hnone : question.written? = none := by
      rw [Option.eq_none_iff_forall_ne_some]
      exact fun key => (hspares key).1
    rw [ih fun key => (hspares key).2 _, Host.ledger_answer hnone]
    rfl

end Carried

namespace Endures

variable {α : Type} {host ending : Host} {outcome : Option α}

theorem ask {question : Question} {next : question.Answer → Procedure α}
    (interval : Interval)
    (hrest : Endures ((host.across interval).answer question).2
      (next ((host.across interval).answer question).1) outcome ending) :
    Endures host (.ask question next) outcome ending :=
  Carried.ask interval trivial hrest

theorem of_ask {question : Question} {next : question.Answer → Procedure α}
    (hendures : Endures host (.ask question next) outcome ending) :
    ∃ interval, Endures ((host.across interval).answer question).2
      (next ((host.across interval).answer question).1) outcome ending := by
  obtain ⟨interval, -, hrest⟩ := hendures.exists_interval
  exact ⟨interval, hrest⟩

theorem of_moment {next : Moment → Procedure α}
    (hendures : Endures host (.ask .moment next) outcome ending) :
    ∃ interval, Endures (host.across interval)
      (next (host.now.after interval.pause)) outcome ending :=
  of_ask hendures

end Endures

end CivicRegistry.Service
