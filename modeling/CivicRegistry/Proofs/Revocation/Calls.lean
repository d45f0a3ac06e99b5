import CivicRegistry.Proofs.Revocation.Ledger
import CivicRegistry.Service.Host
import CivicRegistry.Token.Issuer

/-!
# Calls of an issuer and the keys they write

An issuer is called to issue, check, revoke and exchange tokens.  Each call is
a procedure, written out here question by question.  Only the calls that
revoke or exchange a token write to the ledger, and only under the key of that
token; every other call leaves what is live of the key as it is.
-/

namespace CivicRegistry.Token

open Calendar (Moment Span Instant)
open Service (Procedure Question Reply Host)

/-- A call on an issuer. -/
inductive Call where
  | issue (subject : Subject) (purpose : Purpose) (lifetime : Lifetime)
  | issuePair (subject : Subject)
  | verify (token : String) (expected : Purpose)
  | validate (token : String)
  | revoke (token : String)
  | refresh (token : String)

namespace Call

/-- What a call answers when it returns. -/
@[reducible]
def Answer : Call → Type
  | .issue _ _ _ => String
  | .issuePair _ => Pair
  | .verify _ _ => Except Fault Claims
  | .validate _ => Bool
  | .revoke _ => Except Fault Unit
  | .refresh _ => Except Fault Pair

/-- What an issuer does for a call. -/
def procedure (issuer : Issuer) : (call : Call) → Procedure call.Answer
  | .issue subject purpose lifetime => issuer.issue subject purpose lifetime
  | .issuePair subject => issuer.issuePair subject
  | .verify token expected => (issuer.verify token expected).run
  | .validate token => issuer.validate token
  | .revoke token => (issuer.revoke token).run
  | .refresh token => (issuer.refresh token).run

/-- The token whose key a call may write. -/
def written? : Call → Option String
  | .revoke token => some token
  | .refresh token => some token
  | _ => none

end Call

/-! ## Procedures question by question -/

section Attempts

variable {α β : Type}

theorem run_claims_bind (claims : Claims) (next : Claims → Attempt β) :
    (ExceptT.mk (Procedure.done (.ok claims)) >>= next).run =
      (next claims).run := rfl

theorem run_now_bind (next : Moment → Attempt β) :
    (askAlways .moment >>= next).run =
      .ask .moment fun now => (next now).run := rfl

theorem run_throw_bind (fault : Fault) (next : α → Attempt β) :
    ((throw fault : Attempt α) >>= next).run = .done (.error fault) := rfl

theorem run_ledger_bind (question : Question)
    (toReply : question.Answer → Reply LedgerFault α)
    (next : α → Attempt β) :
    (askLedger question toReply >>= next).run = .ask question fun answer =>
      match (toReply answer).result .timedOut with
      | .ok value => (next value).run
      | .error fault => .done (.error (.ledger fault)) := by
  apply congrArg (Procedure.ask question)
  funext answer
  dsimp only
  cases toReply answer <;> rfl

end Attempts

namespace Issuer

variable {issuer : Issuer} {token : String} {claims : Claims}

theorem run_verify_bind {β : Type} (expected : Purpose)
    (hclaims : issuer.claimsOf token = .ok claims)
    (next : Claims → Attempt β) :
    (issuer.verify token expected >>= next).run = .ask .moment fun now =>
      if claims.expiresAt ≤ now.second then .done (.error .expired)
      else if claims.purpose ≠ expected then
        .done (.error (.wrongPurpose expected claims.purpose))
      else .ask (.isRevoked (ledgerKey token)) fun reply =>
        match reply.result .timedOut with
        | .error fault => .done (.error (.ledger fault))
        | .ok true => .done (.error .revoked)
        | .ok false => (next claims).run := by
  simp only [verify, hclaims, isRevoked, bind_assoc, run_claims_bind]
  rw [run_now_bind]
  congr 1
  funext now
  by_cases hexpired : claims.expiresAt ≤ now.second
  · simp only [if_pos hexpired, bind_assoc, run_throw_bind]
  · by_cases hpurpose : claims.purpose = expected
    · simp only [if_neg hexpired, hpurpose, ne_eq, not_true, if_false,
        bind_assoc]
      rw [run_ledger_bind]
      congr 1
      funext reply
      cases reply with
      | answered revoked => cases revoked <;> rfl
      | failed fault => rfl
      | silent => rfl
    · simp only [if_neg hexpired, ne_eq, hpurpose, not_false_eq_true, if_true,
        bind_assoc, run_throw_bind]

theorem run_verify (expected : Purpose)
    (hclaims : issuer.claimsOf token = .ok claims) :
    (issuer.verify token expected).run = .ask .moment fun now =>
      if claims.expiresAt ≤ now.second then .done (.error .expired)
      else if claims.purpose ≠ expected then
        .done (.error (.wrongPurpose expected claims.purpose))
      else .ask (.isRevoked (ledgerKey token)) fun reply =>
        match reply.result .timedOut with
        | .error fault => .done (.error (.ledger fault))
        | .ok true => .done (.error .revoked)
        | .ok false => .done (.ok claims) := by
  have hbind := run_verify_bind expected hclaims fun given => pure given
  rw [bind_pure] at hbind
  exact hbind

theorem run_revoke (hclaims : issuer.claimsOf token = .ok claims) :
    (issuer.revoke token).run = .ask .moment fun now =>
      match remaining? claims now with
      | none => .done (.ok ())
      | some span => .ask (.revoke (ledgerKey token) span) fun reply =>
          .done ((reply.result .timedOut).mapError .ledger) := by
  simp only [revoke, hclaims]
  rw [run_now_bind]
  congr 1

/-- The exchange after the token has been found good: the claim and, once it is
granted, the new pair. -/
def exchange (issuer : Issuer) (token : String) (claims : Claims) :
    Procedure (Except Fault Pair) :=
  .ask .moment fun now =>
    match remaining? claims now with
    | none => .done (.error .expired)
    | some span => .ask (.claim (ledgerKey token) span) fun reply =>
        match reply.result .timedOut with
        | .error fault => .done (.error (.ledger fault))
        | .ok false => .done (.error .revoked)
        | .ok true => (issuer.issuePair claims.subject).bind fun pair =>
            .done (.ok pair)

theorem run_claim_bind (issuer : Issuer) (token : String) (claims : Claims) :
    ExceptT.run (askAlways .moment >>= fun now =>
        match remaining? claims now with
        | none => throw .expired
        | some span => do
          if ← askLedger (.claim (ledgerKey token) span) id then
            issuer.issuePair claims.subject
          else throw .revoked) =
      exchange issuer token claims := by
  rw [run_now_bind, exchange]
  congr 1
  funext now
  cases remaining? claims now with
  | none => rfl
  | some span =>
    dsimp only
    rw [run_ledger_bind]
    congr 1
    funext reply
    cases reply with
    | answered granted => cases granted <;> rfl
    | failed fault => rfl
    | silent => rfl

theorem run_refresh (hclaims : issuer.claimsOf token = .ok claims) :
    (issuer.refresh token).run = .ask .moment fun now =>
      if claims.expiresAt ≤ now.second then .done (.error .expired)
      else if claims.purpose ≠ .refresh then
        .done (.error (.wrongPurpose .refresh claims.purpose))
      else .ask (.isRevoked (ledgerKey token)) fun reply =>
        match reply.result .timedOut with
        | .error fault => .done (.error (.ledger fault))
        | .ok true => .done (.error .revoked)
        | .ok false => exchange issuer token claims := by
  rw [refresh, run_verify_bind .refresh hclaims]
  congr 1
  funext now
  congr 3
  funext reply
  cases reply with
  | failed fault => rfl
  | silent => rfl
  | answered revoked =>
    cases revoked with
    | true => rfl
    | false => exact run_claim_bind issuer token claims

end Issuer

/-! ## Keys that are written -/

end CivicRegistry.Token

namespace CivicRegistry.Service

open Calendar (Moment Span)

/-- The key that a question asks to be written. -/
@[simp]
def Question.written? : Question → Option String
  | .revoke key _ => some key
  | .claim key _ => some key
  | _ => none

namespace Procedure

variable {α β : Type}

/-- Whatever it is answered, the procedure never writes the key. -/
def Spares (key : String) : Procedure α → Prop
  | .done _ => True
  | .broken => True
  | .ask question next =>
      question.written? ≠ some key ∧ ∀ answer, (next answer).Spares key

theorem spares_ask {key : String} {question : Question}
    {next : question.Answer → Procedure α}
    (hquestion : question.written? ≠ some key)
    (hnext : ∀ answer, (next answer).Spares key) :
    (ask question next).Spares key :=
  ⟨hquestion, hnext⟩

theorem Spares.bind {key : String} {procedure : Procedure α}
    {next : α → Procedure β} (hfirst : procedure.Spares key)
    (hnext : ∀ value, (next value).Spares key) :
    (procedure.bind next).Spares key := by
  induction procedure with
  | done value => exact hnext value
  | broken => trivial
  | ask question rest ih =>
    exact ⟨hfirst.1, fun answer => ih answer (hfirst.2 answer)⟩

end Procedure

namespace Host

/-- The ledger of the host answers every question. -/
structure LedgerWell (host : Host) : Prop where
  lookups : host.lookups = .well
  revocations : host.revocations = .well
  claims : host.claims = .well

/-- The host after a while in which nothing is asked. -/
def later (pause : Span) (host : Host) : Host :=
  { host with now := host.now.after pause }

/-- What is live of a key on the host's clock. -/
def live? (host : Host) (key : String) : Option Moment :=
  host.ledger.live? host.now key

@[simp]
theorem carryOut_done {α : Type} (value : α) (host : Host) :
    carryOut (.done value) host = (some value, host) := rfl

theorem carryOut_ask {α : Type} (question : Question)
    (next : question.Answer → Procedure α) (host : Host) :
    carryOut (.ask question next) host =
      carryOut (next (host.answer question).1) (host.answer question).2 := rfl

theorem carryOut_moment {α : Type} (next : Moment → Procedure α)
    (host : Host) :
    carryOut (.ask .moment next) host = carryOut (next host.now) host := rfl

theorem ledgerWell_starting (now : Moment) : (starting now).LedgerWell :=
  ⟨rfl, rfl, rfl⟩

theorem LedgerWell.later {host : Host} (hwell : host.LedgerWell)
    (pause : Span) : (host.later pause).LedgerWell :=
  ⟨hwell.lookups, hwell.revocations, hwell.claims⟩

@[simp]
theorem now_later (host : Host) (pause : Span) :
    (host.later pause).now = host.now.after pause := rfl

/-- The clock of the host stands still while a question is answered. -/
@[simp]
theorem now_answer (host : Host) (question : Question) :
    (host.answer question).2.now = host.now := by
  cases question <;> try rfl
  all_goals
    simp only [answer, onLedger]
    split <;> rfl

theorem LedgerWell.answer {host : Host} (hwell : host.LedgerWell)
    (question : Question) : (host.answer question).2.LedgerWell := by
  obtain ⟨hlookups, hrevocations, hclaims⟩ := hwell
  cases question <;> constructor <;>
    simp [Host.answer, onLedger, hlookups, hrevocations, hclaims]

theorem live?_later (host : Host) (pause : Span) (key : String) :
    (host.later pause).live? key =
      (host.live? key).filter fun expiry => host.now.after pause < expiry :=
  Token.Ledger.live?_later (Token.Ledger.le_after host.now pause) key
    host.ledger

/-- A question that does not write a key changes nothing about it. -/
theorem live?_answer {host : Host} {question : Question} {key : String}
    (hspares : question.written? ≠ some key) :
    (host.answer question).2.live? key = host.live? key := by
  rw [live?, now_answer]
  cases question with
  | revoke other span =>
    have hne : ¬(key = other ∧ span.nanos ≠ 0) := by
      rintro ⟨rfl, -⟩
      exact hspares rfl
    simp only [answer, onLedger]
    split
    · simp [Token.Ledger.live?_revoke, hne, live?]
    all_goals rfl
  | claim other span =>
    have hne : ¬(key = other ∧
        (host.ledger.claim host.now other span).1 = true) := by
      rintro ⟨rfl, -⟩
      exact hspares rfl
    simp only [answer, onLedger]
    split
    · simp [Token.Ledger.live?_claim, hne, live?]
    all_goals rfl
  | _ => rfl

end Host

end CivicRegistry.Service

namespace CivicRegistry.Token

open Service (Procedure)

namespace Issuer

variable (issuer : Issuer) (token key : String)

theorem issue_spares (subject : Subject) (purpose : Purpose)
    (lifetime : Lifetime) :
    (issuer.issue subject purpose lifetime).Spares key := by
  apply Procedure.spares_ask (by simp)
  intro now
  apply Procedure.spares_ask (by simp)
  intro id
  dsimp only [Procedure.bind]
  split <;> trivial

theorem issuePair_spares (subject : Subject) :
    (issuer.issuePair subject).Spares key :=
  (issuer.issue_spares key ..).bind fun _ =>
    (issuer.issue_spares key ..).bind fun _ => trivial

theorem verify_spares (expected : Purpose) :
    (issuer.verify token expected).run.Spares key := by
  cases hclaims : issuer.claimsOf token with
  | error fault =>
    rw [verify, hclaims]
    trivial
  | ok claims =>
    rw [run_verify expected hclaims]
    apply Procedure.spares_ask (by simp)
    intro now
    split
    · trivial
    · split
      · trivial
      · apply Procedure.spares_ask (by simp)
        intro reply
        split <;> trivial

theorem validate_spares : (issuer.validate token).Spares key := by
  rw [validate]
  split
  · trivial
  · apply Procedure.spares_ask (by simp)
    intro now
    dsimp only [Procedure.bind]
    split
    · trivial
    · apply Procedure.spares_ask (by simp)
      intro reply
      dsimp only [Procedure.bind]
      split <;> trivial

variable {token key}

theorem revoke_spares (hkey : ledgerKey token ≠ key) :
    (issuer.revoke token).run.Spares key := by
  cases hclaims : issuer.claimsOf token with
  | error fault =>
    rw [revoke, hclaims]
    trivial
  | ok claims =>
    rw [run_revoke hclaims]
    apply Procedure.spares_ask (by simp)
    intro now
    split
    · trivial
    · exact Procedure.spares_ask (by simpa using hkey) fun _ => trivial

theorem refresh_spares (hkey : ledgerKey token ≠ key) :
    (issuer.refresh token).run.Spares key := by
  cases hclaims : issuer.claimsOf token with
  | error fault =>
    rw [refresh, verify, hclaims]
    trivial
  | ok claims =>
    rw [run_refresh hclaims]
    apply Procedure.spares_ask (by simp)
    intro now
    split
    · trivial
    split
    · trivial
    apply Procedure.spares_ask (by simp)
    intro reply
    split
    · trivial
    · trivial
    · apply Procedure.spares_ask (by simp)
      intro now
      split
      · trivial
      · apply Procedure.spares_ask (by simpa using hkey)
        intro reply
        split
        · trivial
        · trivial
        · exact (issuer.issuePair_spares key _).bind fun _ => trivial

end Issuer

/-- A call writes no key but that of the token it revokes or exchanges. -/
theorem Call.procedure_spares (issuer : Issuer) (call : Call) {key : String}
    (hkey : ∀ token, call.written? = some token → ledgerKey token ≠ key) :
    (call.procedure issuer).Spares key := by
  cases call with
  | issue subject purpose lifetime => exact issuer.issue_spares ..
  | issuePair subject => exact issuer.issuePair_spares ..
  | verify token expected => exact issuer.verify_spares ..
  | validate token => exact issuer.validate_spares ..
  | revoke token => exact issuer.revoke_spares (hkey token rfl)
  | refresh token => exact issuer.refresh_spares (hkey token rfl)

/-- A call about another token leaves the key of the token alone, where no
token it writes shares that key. -/
theorem Call.spares_of_distinct (issuer : Issuer) {call : Call}
    {token : String} (htoken : call.written? ≠ some token)
    (hdistinct : ∀ other, call.written? = some other →
      ledgerKey other = ledgerKey token → other = token) :
    (call.procedure issuer).Spares (ledgerKey token) := by
  apply call.procedure_spares issuer
  intro other hother hkey
  rw [hdistinct other hother hkey] at hother
  exact htoken hother

end CivicRegistry.Token
