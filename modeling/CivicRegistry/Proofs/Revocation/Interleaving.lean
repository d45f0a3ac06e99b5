import CivicRegistry.Proofs.Revocation.Carrying

/-!
# Calls that run side by side

Any number of calls are under way on one host, each as far as it has come.  A
call is taken one step further, a new one is started, or time passes, in any
order.  A step answers one question; only the reading of the clock and a claim
that follows it on the spot happen in the same instant.
-/

namespace CivicRegistry.Service

open Calendar (Moment Span)

/-- The moment that an answer tells. -/
@[simp]
def Question.told? : (question : Question) → question.Answer → Option Moment
  | .moment, now => some now
  | .identifier, _ => none
  | .isRevoked _, _ => none
  | .revoke _ _, _ => none
  | .claim _ _, _ => none
  | .find _ _ _, _ => none
  | .health, _ => none

namespace Procedure

variable {α β : Type}

/-- One step: what is left of the procedure, what was asked, and the host
afterwards. -/
def step : Procedure α → Host → Procedure α × List Question × Host
  | .done value, host => (.done value, [], host)
  | .broken, host => (.broken, [], host)
  | .ask .moment next, host =>
    match next host.now with
    | .ask (.claim key span) rest =>
      (rest (host.answer (.claim key span)).1, [.moment, .claim key span],
        (host.answer (.claim key span)).2)
    | rest => (rest, [.moment], host)
  | .ask question next, host =>
    (next (host.answer question).1, [question], (host.answer question).2)

/-- A procedure that has come to its end. -/
def Ended : Procedure α → Prop
  | .ask _ _ => False
  | _ => True

/-- A host answers some questions of a procedure one after the other. -/
inductive Answered : Host → Procedure α → List Question → Host →
    Procedure α → Prop where
  | none (host : Host) (procedure : Procedure α) :
      Answered host procedure [] host procedure
  | ask {host ending : Host} {question : Question}
      {next : question.Answer → Procedure α} {asked : List Question}
      {rest : Procedure α}
      (hrest : Answered (host.answer question).2
        (next (host.answer question).1) asked ending rest) :
      Answered host (.ask question next) (question :: asked) ending rest

theorem answered_one (host : Host) (question : Question)
    (next : question.Answer → Procedure α) :
    Answered host (.ask question next) [question] (host.answer question).2
      (next (host.answer question).1) :=
  .ask (.none _ _)

theorem answered_step (procedure : Procedure α) (host : Host) :
    Answered host procedure (procedure.step host).2.1
      (procedure.step host).2.2 (procedure.step host).1 := by
  cases procedure with
  | done | broken => exact .none _ _
  | ask question next =>
    cases question with
    | moment =>
      rw [step]
      split
      · next key span rest hnext =>
        refine .ask ?_
        change Answered host (next host.now) _ _ _
        rw [hnext]
        exact answered_one host _ _
      · exact answered_one host .moment next
    | _ => exact answered_one host _ next

namespace Answered

variable {host ending : Host} {procedure rest : Procedure α}
  {asked : List Question}

theorem now_eq (hanswered : Answered host procedure asked ending rest) :
    ending.now = host.now := by
  induction hanswered with
  | none => rfl
  | ask _ ih => rw [ih, Host.now_answer]

theorem ledgerWell (hanswered : Answered host procedure asked ending rest)
    (hwell : host.LedgerWell) : ending.LedgerWell := by
  induction hanswered with
  | none => exact hwell
  | ask _ ih => exact ih (hwell.answer _)

/-- Questions of a procedure that spares a key do not show in it. -/
theorem spares {key : String} (deadline : Moment)
    (hanswered : Answered host procedure asked ending rest)
    (hspares : procedure.Spares key) :
    rest.Spares key ∧ (∀ question ∈ asked, question.written? ≠ some key) ∧
      Host.Keeps key deadline host ending := by
  induction hanswered with
  | none => exact ⟨hspares, by simp, Host.keeps_self⟩
  | ask _ ih =>
    obtain ⟨hrest, hasked, hkeeps⟩ := ih (hspares.2 _)
    refine ⟨hrest, ?_, (Host.keeps_answer hspares.1).trans hkeeps⟩
    simpa using ⟨hspares.1, hasked⟩

end Answered

/-- Every value the procedure comes to is as it should be, and it breaks off
only where that is excused, by a moment that it was told if not beforehand. -/
def Leads (holds : α → Prop) (excuse : Moment → Prop) :
    Prop → Procedure α → Prop
  | _, .done value => holds value
  | excused, .broken => excused
  | excused, .ask question next => ∀ answer,
      (next answer).Leads holds excuse
        (excused ∨ ∃ now ∈ question.told? answer, excuse now)

section Leads

variable {holds : α → Prop} {excuse : Moment → Prop}

theorem Leads.mono {excused more : Prop} {procedure : Procedure α}
    (hleads : procedure.Leads holds excuse excused)
    (hmore : excused → more) : procedure.Leads holds excuse more := by
  induction procedure generalizing excused more with
  | done value => exact hleads
  | broken => exact hmore hleads
  | ask question next ih =>
    intro answer
    exact ih answer (hleads answer) (Or.imp_left hmore)

theorem Leads.bind {first : β → Prop} {excused : Prop}
    {procedure : Procedure β} {next : β → Procedure α}
    (hleads : procedure.Leads first excuse excused)
    (hnext : ∀ value, first value → ∀ more : Prop, (excused → more) →
      (next value).Leads holds excuse more) :
    (procedure.bind next).Leads holds excuse excused := by
  induction procedure generalizing excused with
  | done value => exact hnext value hleads excused id
  | broken => exact hleads
  | ask question rest ih =>
    intro answer
    refine ih answer (hleads answer) fun value hvalue more hmore => ?_
    exact hnext value hvalue more (hmore ∘ .inl)

theorem Answered.leads {host ending : Host} {procedure rest : Procedure α}
    {asked : List Question} {excused : Prop}
    (hanswered : Answered host procedure asked ending rest)
    (hleads : procedure.Leads holds excuse excused)
    (hnow : excuse host.now → excused) :
    rest.Leads holds excuse excused := by
  induction hanswered with
  | none => exact hleads
  | @ask host _ question _ _ _ _ ih =>
    refine ih ((hleads _).mono ?_) ?_
    · rintro (hexcused | ⟨now, htold, hexcuse⟩)
      · exact hexcused
      · cases question <;> simp only [Question.told?, Option.mem_def] at htold
        case moment =>
          obtain rfl := Option.some.inj htold
          exact hnow hexcuse
        all_goals cases htold
    · rwa [Host.now_answer]

/-- A procedure breaks off only where that is excused, by a moment at which it
was under way if not beforehand. -/
theorem Leads.excused_of_none {allowed : Host → Interval → Prop}
    {host ending : Host} {procedure : Procedure α} {outcome : Option α}
    {excused : Prop} (hleads : procedure.Leads holds excuse excused)
    (hcarried : Carried allowed host procedure outcome ending)
    (hnone : outcome = none) :
    excused ∨ ∃ moment, host.now ≤ moment ∧ moment ≤ ending.now ∧
      excuse moment := by
  induction hcarried generalizing excused with
  | done => cases hnone
  | broken => exact .inl hleads
  | @ask host _ question _ _ interval _ hrest ih =>
    have hnow := hrest.now_le
    have hlater := Token.Ledger.le_after host.now interval.pause
    rw [Host.now_answer] at hnow
    rcases ih (hleads _) hnone with
      (hexcused | ⟨now, htold, hexcuse⟩) | ⟨moment, hbegun, hover, hexcuse⟩
    · exact .inl hexcused
    · cases question <;> simp only [Question.told?, Option.mem_def] at htold
      case moment =>
        obtain rfl := Option.some.inj htold
        exact .inr ⟨_, hlater, hnow, hexcuse⟩
      all_goals cases htold
    · rw [Host.now_answer] at hbegun
      exact .inr ⟨moment, Int.le_trans hlater hbegun, hover, hexcuse⟩

end Leads

/-- The procedure asks at most so many questions. -/
def Within : Nat → Procedure α → Prop
  | _, .done _ => True
  | _, .broken => True
  | 0, .ask _ _ => False
  | count + 1, .ask _ next => ∀ answer, (next answer).Within count

theorem Within.mono {count more : Nat} {procedure : Procedure α}
    (hwithin : procedure.Within count) (hmore : count ≤ more) :
    procedure.Within more := by
  induction procedure generalizing count more with
  | done | broken => cases more <;> trivial
  | ask question next ih =>
    cases count with
    | zero => exact hwithin.elim
    | succ count =>
      cases more with
      | zero => omega
      | succ more =>
        intro answer
        exact ih answer (hwithin answer) (by omega)

theorem Within.bind {first second : Nat} {procedure : Procedure β}
    {next : β → Procedure α} (hfirst : procedure.Within first)
    (hnext : ∀ value, (next value).Within second) :
    (procedure.bind next).Within (first + second) := by
  induction procedure generalizing first with
  | done value => exact (hnext value).mono (by omega)
  | broken => cases first + second <;> trivial
  | ask question rest ih =>
    cases first with
    | zero => exact hfirst.elim
    | succ first =>
      rw [Nat.add_right_comm]
      intro answer
      exact ih answer (hfirst answer)

theorem Within.step {count : Nat} {procedure : Procedure α}
    (hwithin : procedure.Within (count + 1)) (host : Host) :
    (procedure.step host).1.Within count := by
  cases procedure with
  | done | broken => cases count <;> trivial
  | ask question next =>
    cases question with
    | moment =>
      have hnext := hwithin host.now
      rw [Procedure.step]
      split
      · next key span rest hrest =>
        rw [hrest] at hnext
        cases count with
        | zero => exact hnext.elim
        | succ count => exact (hnext _).mono (Nat.le_succ count)
      · exact hnext
    | _ => exact hwithin _

theorem Within.ended {procedure : Procedure α}
    (hwithin : procedure.Within 0) : procedure.Ended := by
  cases procedure with
  | ask question next => exact hwithin.elim
  | done | broken => trivial

end Procedure

end CivicRegistry.Service

namespace CivicRegistry.Token

open Calendar (Moment Span)
open Service (Procedure Question Host)

/-- A call under way, with what is left of it. -/
structure Running where
  call : Call
  rest : Procedure call.Answer

/-- A host, the calls that were started on it in their order, and everything
they have asked so far, each question with the place of its call. -/
structure System where
  host : Host
  calls : List Running
  asked : List (Nat × Question)

inductive Move where
  | wait (pause : Span)
  | start (call : Call)
  /-- Takes the call at a place one step further. -/
  | advance (place : Nat)

/-- Whether a move takes the call at the place one step further. -/
def Move.advances (place : Nat) : Move → Bool
  | .advance other => other == place
  | _ => false

namespace System

variable (issuer : Issuer)

def starting (start : Moment) : System :=
  ⟨.starting start, [], []⟩

def move (system : System) : Move → System
  | .wait pause => { system with host := system.host.later pause }
  | .start call =>
    { system with calls := system.calls ++ [⟨call, call.procedure issuer⟩] }
  | .advance place =>
    match system.calls[place]? with
    | none => system
    | some running =>
      let (rest, asked, host) := running.rest.step system.host
      ⟨host, system.calls.set place ⟨running.call, rest⟩,
        system.asked ++ asked.map fun question => (place, question)⟩

def run (system : System) (moves : List Move) : System :=
  moves.foldl (move issuer) system

/-- The system after a step of the call at a place: what was asked, the host
afterwards and the call as it is left. -/
def stepped (system : System) (place : Nat) (asked : List Question)
    (after : Host) (left : Running) : System :=
  ⟨after, system.calls.set place left,
    system.asked ++ asked.map fun question => (place, question)⟩

/-- The first question that asked for a key to be written. -/
def firstWrite? (system : System) (key : String) : Option (Nat × Question) :=
  system.asked.find? fun entry => entry.2.written? = some key

variable {issuer}

theorem run_cons (system : System) (move : Move) (moves : List Move) :
    system.run issuer (move :: moves) =
      (system.move issuer move).run issuer moves := rfl

theorem move_advance {system : System} {place : Nat} {running : Running}
    (hrunning : system.calls[place]? = some running) :
    system.move issuer (.advance place) =
      system.stepped place (running.rest.step system.host).2.1
        (running.rest.step system.host).2.2
        ⟨running.call, (running.rest.step system.host).1⟩ := by
  rw [move, hrunning]
  rfl

theorem firstWrite?_stepped (system : System) (place : Nat)
    (asked : List Question) (after : Host) (left : Running) (key : String) :
    (system.stepped place asked after left).firstWrite? key =
      (system.firstWrite? key).or
        ((asked.find? fun question => question.written? = some key).map
          fun question => (place, question)) := by
  simp only [firstWrite?, stepped, List.find?_append, List.find?_map]
  rfl

theorem getElem?_stepped {system : System} {place : Nat} {running : Running}
    (hrunning : system.calls[place]? = some running) (asked : List Question)
    (after : Host) (left : Running) (other : Nat) :
    (system.stepped place asked after left).calls[other]? =
      if other = place then some left else system.calls[other]? := by
  have hbound := (List.getElem?_eq_some_iff.mp hrunning).1
  rw [stepped, List.getElem?_set]
  by_cases hother : other = place
  · simp [hother, hbound]
  · simp [hother, Ne.symm hother]

theorem move_advance_none {system : System} {place : Nat}
    (hnone : system.calls[place]? = none) :
    system.move issuer (.advance place) = system := by
  rw [move, hnone]

/-- What one move does to a call: a step if it is the call's turn, and nothing
otherwise. -/
theorem getElem?_move {system : System} {place : Nat} {running : Running}
    (hrunning : system.calls[place]? = some running) (move : Move) :
    (system.move issuer move).calls[place]? =
      some (if move.advances place then
        ⟨running.call, (running.rest.step system.host).1⟩ else running) := by
  have hbound := (List.getElem?_eq_some_iff.mp hrunning).1
  cases move with
  | wait pause => exact hrunning
  | start call =>
    rw [System.move, List.getElem?_append_left hbound]
    exact hrunning
  | advance other =>
    by_cases hother : other = place
    · subst hother
      rw [move_advance hrunning, getElem?_stepped hrunning]
      simp [Move.advances]
    · have hturn : Move.advances place (.advance other) = false := by
        simpa [Move.advances] using hother
      rw [hturn]
      cases hcall : system.calls[other]? with
      | none =>
        rw [move_advance_none hcall]
        exact hrunning
      | some call =>
        rw [move_advance hcall, getElem?_stepped hcall,
          if_neg (Ne.symm hother)]
        exact hrunning

/-- A call that asks at most so many questions comes to its end once it has
been taken as many steps further, whatever else is done. -/
theorem ended_run (issuer : Issuer) {system : System} {place count : Nat}
    {running : Running} {moves : List Move}
    (hrunning : system.calls[place]? = some running)
    (hwithin : running.rest.Within count)
    (hturns : count ≤ moves.countP (Move.advances place)) :
    ∃ left, (system.run issuer moves).calls[place]? = some left ∧
      left.call = running.call ∧ left.rest.Ended := by
  induction moves generalizing system running count with
  | nil =>
    obtain rfl : count = 0 := Nat.le_zero.mp hturns
    exact ⟨running, hrunning, rfl, hwithin.ended⟩
  | cons move moves ih =>
    have hmoved := @getElem?_move issuer _ _ _ hrunning move
    rw [List.countP_cons] at hturns
    by_cases hturn : move.advances place = true
    · rw [if_pos hturn] at hmoved hturns
      have hcount : running.rest.Within (count - 1 + 1) :=
        hwithin.mono (by omega)
      have hnext := hcount.step system.host
      have hended := @ih _ (count - 1)
        ⟨running.call, (running.rest.step system.host).1⟩ hmoved hnext
      exact hended (by omega)
    · rw [if_neg hturn] at hmoved hturns
      exact ih hmoved hwithin hturns

theorem run_append (system : System) (first second : List Move) :
    system.run issuer (first ++ second) =
      (system.run issuer first).run issuer second :=
  List.foldl_append

end System

end CivicRegistry.Token
