import CivicRegistry.Proofs.Revocation.Calls
import CivicRegistry.Proofs.Service.Surroundings

/-!
# Verdicts about tokens

A token is accepted for a purpose if nothing is held against it.  What can be
held against it is listed here, each objection by itself: the text is no token
of the issuer, it has expired, it is for another purpose, the ledger gives no
answer or says that it is revoked.  Of the objections that apply the first in
this order is the fault that is answered, and the ledger is asked only where
none of the first three applies.
-/

namespace CivicRegistry.Token

open Calendar (Moment)
open Service (Procedure Question Reply Dialogue Surroundings)

/-- What is held against a token that is shown for a purpose at a moment, where
the ledger replies about it as given. -/
inductive Objection (issuer : Issuer) (token : String) (expected : Purpose)
    (now : Moment) (reply : Reply LedgerFault Bool) : Fault → Prop where
  | malformed {cause : Malformation}
      (hclaims : issuer.claimsOf token = .error (.malformed cause)) :
      Objection issuer token expected now reply (.malformed cause)
  | expired {claims : Claims} (hclaims : issuer.claimsOf token = .ok claims)
      (hexpired : claims.expiresAt ≤ now.second) :
      Objection issuer token expected now reply .expired
  | wrongPurpose {claims : Claims}
      (hclaims : issuer.claimsOf token = .ok claims)
      (hpurpose : claims.purpose ≠ expected) :
      Objection issuer token expected now reply
        (.wrongPurpose expected claims.purpose)
  | failing {fault : LedgerFault} (hreply : reply = .failed fault) :
      Objection issuer token expected now reply (.ledger fault)
  | silent (hreply : reply = .silent) :
      Objection issuer token expected now reply (.ledger .timedOut)
  | revoked (hreply : reply = .answered true) :
      Objection issuer token expected now reply .revoked

/-- The order in which objections are looked for. -/
def Fault.precedence : Fault → Nat
  | .malformed _ => 0
  | .expired => 1
  | .wrongPurpose _ _ => 2
  | .ledger _ => 3
  | _ => 4

/-- Nothing is held against a token with these claims. -/
structure Accepted (issuer : Issuer) (token : String) (expected : Purpose)
    (now : Moment) (reply : Reply LedgerFault Bool) (claims : Claims) :
    Prop where
  claims_eq : issuer.claimsOf token = .ok claims
  ahead : now.second < claims.expiresAt
  purpose_eq : claims.purpose = expected
  absent : reply = .answered false

/-- The first of the objections to a token. -/
structure FirstObjection (issuer : Issuer) (token : String)
    (expected : Purpose) (now : Moment) (reply : Reply LedgerFault Bool)
    (fault : Fault) : Prop where
  applies : Objection issuer token expected now reply fault
  first : ∀ other, Objection issuer token expected now reply other →
    fault.precedence ≤ other.precedence

section Objections

variable {issuer : Issuer} {token : String} {expected : Purpose}
  {now : Moment} {reply : Reply LedgerFault Bool} {claims : Claims}
  {fault other : Fault}

/-- There is one objection of each kind at most. -/
theorem Objection.eq_of_precedence
    (hfault : Objection issuer token expected now reply fault)
    (hother : Objection issuer token expected now reply other)
    (hprecedence : fault.precedence = other.precedence) : fault = other := by
  cases hfault <;> cases hother <;> simp_all [Fault.precedence]

theorem FirstObjection.eq
    (hfault : FirstObjection issuer token expected now reply fault)
    (hother : FirstObjection issuer token expected now reply other) :
    fault = other := by
  have hle := hfault.first other hother.applies
  have hge := hother.first fault hfault.applies
  exact hfault.applies.eq_of_precedence hother.applies (by omega)

theorem Accepted.eq {given : Claims}
    (haccepted : Accepted issuer token expected now reply claims)
    (hother : Accepted issuer token expected now reply given) :
    claims = given := by
  have hclaims := haccepted.claims_eq
  rw [hother.claims_eq] at hclaims
  exact (Except.ok.inj hclaims).symm

/-- A text that the issuer cannot read is malformed, whatever the cause. -/
theorem claimsOf_eq_error {fault : Fault}
    (hclaims : issuer.claimsOf token = .error fault) :
    ∃ cause, fault = .malformed cause := by
  rw [Issuer.claimsOf] at hclaims
  cases hdecoded : decode issuer.secret token with
  | error cause =>
    rw [hdecoded] at hclaims
    exact ⟨cause, (Except.error.inj hclaims).symm⟩
  | ok claims =>
    rw [hdecoded] at hclaims
    cases hclaims

theorem firstObjection_malformed {cause : Malformation}
    (hclaims : issuer.claimsOf token = .error (.malformed cause)) :
    FirstObjection issuer token expected now reply (.malformed cause) :=
  ⟨.malformed hclaims, fun _ _ => Nat.zero_le _⟩

theorem firstObjection_expired (hclaims : issuer.claimsOf token = .ok claims)
    (hexpired : claims.expiresAt ≤ now.second) :
    FirstObjection issuer token expected now reply .expired where
  applies := .expired hclaims hexpired
  first other hother := by
    cases hother <;> simp_all [Fault.precedence]

theorem firstObjection_wrongPurpose
    (hclaims : issuer.claimsOf token = .ok claims)
    (hahead : now.second < claims.expiresAt)
    (hpurpose : claims.purpose ≠ expected) :
    FirstObjection issuer token expected now reply
      (.wrongPurpose expected claims.purpose) where
  applies := .wrongPurpose hclaims hpurpose
  first other hother := by
    cases hother <;> simp_all [Fault.precedence]
    omega

/-- Only the ledger objects to a token of the issuer that has not expired and
is for the purpose. -/
theorem Objection.of_clear (hclaims : issuer.claimsOf token = .ok claims)
    (hahead : now.second < claims.expiresAt)
    (hpurpose : claims.purpose = expected)
    (hobjection : Objection issuer token expected now reply fault) :
    (∃ cause, fault = .ledger cause ∧ reply = .failed cause) ∨
      (fault = .ledger .timedOut ∧ reply = .silent) ∨
      (fault = .revoked ∧ reply = .answered true) := by
  cases hobjection with
  | malformed hmalformed =>
    rw [hclaims] at hmalformed
    cases hmalformed
  | expired hother hexpired =>
    rw [hclaims] at hother
    cases hother
    omega
  | wrongPurpose hother hne =>
    rw [hclaims] at hother
    cases hother
    exact absurd hpurpose hne
  | failing hreply => exact .inl ⟨_, rfl, hreply⟩
  | silent hreply => exact .inr (.inl ⟨rfl, hreply⟩)
  | revoked hreply => exact .inr (.inr ⟨rfl, hreply⟩)

theorem firstObjection_of_clear (hclaims : issuer.claimsOf token = .ok claims)
    (hahead : now.second < claims.expiresAt)
    (hpurpose : claims.purpose = expected)
    (happlies : Objection issuer token expected now reply fault) :
    FirstObjection issuer token expected now reply fault where
  applies := happlies
  first other hother := by
    have hfault := happlies.of_clear hclaims hahead hpurpose
    have hothers := hother.of_clear hclaims hahead hpurpose
    rcases hfault with ⟨cause, rfl, rfl⟩ | ⟨rfl, rfl⟩ | ⟨rfl, rfl⟩ <;>
      simp at hothers <;> simp [hothers, Fault.precedence]

theorem Accepted.not_objection
    (haccepted : Accepted issuer token expected now reply claims) :
    ¬Objection issuer token expected now reply fault := by
  obtain ⟨hclaims, hahead, hpurpose, habsent⟩ := haccepted
  intro hobjection
  have hledger := hobjection.of_clear hclaims hahead hpurpose
  simp [habsent] at hledger

end Objections

/-- The decision about a token: its claims if it is accepted, and otherwise the
first objection. -/
inductive Verdict (issuer : Issuer) (token : String) (expected : Purpose)
    (now : Moment) (reply : Reply LedgerFault Bool) :
    Except Fault Claims → Prop where
  | accepted {claims : Claims}
      (haccepted : Accepted issuer token expected now reply claims) :
      Verdict issuer token expected now reply (.ok claims)
  | refused {fault : Fault}
      (hfirst : FirstObjection issuer token expected now reply fault) :
      Verdict issuer token expected now reply (.error fault)

namespace Verdict

variable {issuer : Issuer} {token : String} {expected : Purpose}
  {now : Moment} {reply : Reply LedgerFault Bool}
  {result : Except Fault Claims}

theorem eq_ok_iff (hverdict : Verdict issuer token expected now reply result)
    (claims : Claims) :
    result = .ok claims ↔
      Accepted issuer token expected now reply claims := by
  cases hverdict with
  | accepted haccepted =>
    constructor
    · rintro ⟨⟩
      exact haccepted
    · intro hother
      rw [haccepted.eq hother]
  | refused hfirst =>
    constructor
    · rintro ⟨⟩
    · intro haccepted
      exact absurd hfirst.applies haccepted.not_objection

theorem eq_error_iff
    (hverdict : Verdict issuer token expected now reply result)
    (fault : Fault) :
    result = .error fault ↔
      FirstObjection issuer token expected now reply fault := by
  cases hverdict with
  | accepted haccepted =>
    constructor
    · rintro ⟨⟩
    · intro hfirst
      exact absurd hfirst.applies haccepted.not_objection
  | refused hfirst =>
    constructor
    · rintro ⟨⟩
      exact hfirst
    · intro hother
      rw [hfirst.eq hother]

end Verdict

/-! ## Verdicts in surroundings -/

end CivicRegistry.Token

namespace CivicRegistry.Service.Surroundings

open Calendar (Moment)
open Token (LedgerFault ledgerKey)

variable (surroundings : Surroundings) (past : Dialogue)

/-- The moment that the surroundings tell. -/
abbrev moment : Moment :=
  surroundings.answer past .moment

/-- What the ledger replies about a token once the moment is told. -/
abbrev standing (token : String) : Reply LedgerFault Bool :=
  surroundings.answer (surroundings.after past .moment)
    (.isRevoked (ledgerKey token))

/-- The turn that tells the moment. -/
abbrev momentTurn : Turn := ⟨.moment, surroundings.moment past⟩

/-- The turn in which the ledger is asked about a token. -/
abbrev standingTurn (token : String) : Turn :=
  ⟨.isRevoked (ledgerKey token), surroundings.standing past token⟩

end CivicRegistry.Service.Surroundings

namespace CivicRegistry.Token

open Calendar (Moment)
open Service (Procedure Question Reply Dialogue Surroundings Turn)

section Checking

variable (issuer : Issuer) (token : String) (expected : Purpose)
  (surroundings : Surroundings) (past : Dialogue)

/-- Nothing but the ledger objects to the token, so the ledger is asked. -/
def LeftToLedger : Prop :=
  ∀ fault, Objection issuer token expected (surroundings.moment past)
    (surroundings.standing past token) fault → 3 ≤ fault.precedence

variable {issuer token expected surroundings past}

theorem not_leftToLedger {fault : Fault}
    (hobjection : Objection issuer token expected (surroundings.moment past)
      (surroundings.standing past token) fault)
    (hprecedence : fault.precedence < 3) :
    ¬LeftToLedger issuer token expected surroundings past := fun hleft =>
  absurd (hleft fault hobjection) (by omega)

theorem leftToLedger_of_clear {claims : Claims}
    (hclaims : issuer.claimsOf token = .ok claims)
    (hahead : (surroundings.moment past).second < claims.expiresAt)
    (hpurpose : claims.purpose = expected) :
    LeftToLedger issuer token expected surroundings past := by
  intro fault hobjection
  rcases hobjection.of_clear hclaims hahead hpurpose with
    ⟨cause, rfl, -⟩ | ⟨rfl, -⟩ | ⟨rfl, -⟩ <;> simp [Fault.precedence]

/-- What the ledger's reply makes of a token that is otherwise good. -/
def Claims.decided (claims : Claims) (reply : Reply LedgerFault Bool) :
    Except Fault Claims :=
  match reply.result .timedOut with
  | .error fault => .error (.ledger fault)
  | .ok true => .error .revoked
  | .ok false => .ok claims

theorem verdict_decided {claims : Claims}
    (hclaims : issuer.claimsOf token = .ok claims) {now : Moment}
    (hahead : now.second < claims.expiresAt)
    (hpurpose : claims.purpose = expected) (reply : Reply LedgerFault Bool) :
    Verdict issuer token expected now reply (claims.decided reply) := by
  cases reply with
  | answered revoked =>
    cases revoked with
    | true =>
      exact .refused (firstObjection_of_clear hclaims hahead hpurpose
        (.revoked rfl))
    | false => exact .accepted ⟨hclaims, hahead, hpurpose, rfl⟩
  | failed fault =>
    exact .refused (firstObjection_of_clear hclaims hahead hpurpose
      (.failing rfl))
  | silent =>
    exact .refused (firstObjection_of_clear hclaims hahead hpurpose
      (.silent rfl))

theorem carryOut_verify_of_expired {claims : Claims}
    (hclaims : issuer.claimsOf token = .ok claims)
    (hexpired : claims.expiresAt ≤ (surroundings.moment past).second) :
    surroundings.carryOut (issuer.verify token expected).run past =
      (some (.error .expired), past ++ [surroundings.momentTurn past]) := by
  rw [Issuer.run_verify expected hclaims, Surroundings.carryOut_ask,
    if_pos hexpired]
  rfl

theorem carryOut_verify_of_wrongPurpose {claims : Claims}
    (hclaims : issuer.claimsOf token = .ok claims)
    (hahead : (surroundings.moment past).second < claims.expiresAt)
    (hpurpose : claims.purpose ≠ expected) :
    surroundings.carryOut (issuer.verify token expected).run past =
      (some (.error (.wrongPurpose expected claims.purpose)),
        past ++ [surroundings.momentTurn past]) := by
  rw [Issuer.run_verify expected hclaims, Surroundings.carryOut_ask,
    if_neg (Int.not_le.mpr hahead), if_pos hpurpose]
  rfl

theorem carryOut_verify_of_clear {claims : Claims}
    (hclaims : issuer.claimsOf token = .ok claims)
    (hahead : (surroundings.moment past).second < claims.expiresAt)
    (hpurpose : claims.purpose = expected) :
    surroundings.carryOut (issuer.verify token expected).run past =
      (some (claims.decided (surroundings.standing past token)),
        past ++ [surroundings.momentTurn past,
          surroundings.standingTurn past token]) := by
  rw [Issuer.run_verify expected hclaims, Surroundings.carryOut_ask,
    if_neg (Int.not_le.mpr hahead), if_neg (not_not_intro hpurpose),
    Surroundings.carryOut_ask, Claims.decided, List.append_cons]
  split
  all_goals
    next hresult =>
      rw [hresult]
      rfl

variable (issuer token expected surroundings past)

/-- Checking a token comes to the verdict about it.  Besides the moment only
the ledger is asked, and only where the verdict is left to it. -/
theorem exists_verdict :
    ∃ result asked,
      surroundings.carryOut (issuer.verify token expected).run past =
          (some result, past ++ asked) ∧
        Verdict issuer token expected (surroundings.moment past)
          (surroundings.standing past token) result ∧
        asked <+: [surroundings.momentTurn past,
          surroundings.standingTurn past token] ∧
        (surroundings.standingTurn past token ∈ asked ↔
          LeftToLedger issuer token expected surroundings past) := by
  cases hclaims : issuer.claimsOf token with
  | error fault =>
    obtain ⟨cause, rfl⟩ := claimsOf_eq_error hclaims
    refine ⟨.error (.malformed cause), [], ?_,
      .refused (firstObjection_malformed hclaims), List.nil_prefix, ?_⟩
    · rw [Issuer.verify, hclaims, List.append_nil]
      rfl
    · simpa using not_leftToLedger (.malformed hclaims) (Nat.succ_pos 2)
  | ok claims =>
    by_cases hexpired : claims.expiresAt ≤ (surroundings.moment past).second
    · refine ⟨.error .expired, [_], carryOut_verify_of_expired hclaims hexpired,
        .refused (firstObjection_expired hclaims hexpired), by simp, ?_⟩
      simpa using not_leftToLedger (.expired hclaims hexpired) (by decide)
    have hahead := Int.not_le.mp hexpired
    by_cases hpurpose : claims.purpose = expected
    · exact ⟨_, _, carryOut_verify_of_clear hclaims hahead hpurpose,
        verdict_decided hclaims hahead hpurpose _, List.prefix_refl _,
        by simpa using leftToLedger_of_clear hclaims hahead hpurpose⟩
    · refine ⟨_, [_], carryOut_verify_of_wrongPurpose hclaims hahead hpurpose,
        .refused (firstObjection_wrongPurpose hclaims hahead hpurpose),
        by simp, ?_⟩
      simpa using not_leftToLedger (.wrongPurpose hclaims hpurpose)
        (Nat.lt_succ_self 2)

end Checking

/-- Validating a token is checking it for its own purpose and forgetting
everything but whether it passed. -/
theorem validate_eq_verify {issuer : Issuer} {token : String} {claims : Claims}
    (hclaims : issuer.claimsOf token = .ok claims) :
    issuer.validate token =
      (issuer.verify token claims.purpose).run.bind fun result =>
        .done result.isOk := by
  rw [Issuer.run_verify claims.purpose hclaims, Issuer.validate, hclaims]
  refine congrArg (Procedure.ask .moment) (funext fun now => ?_)
  dsimp only [Procedure.bind]
  by_cases hexpired : claims.expiresAt ≤ now.second
  · rw [if_pos hexpired, if_pos hexpired]
    rfl
  · rw [if_neg hexpired, if_neg hexpired, if_neg (not_not_intro rfl)]
    refine congrArg (Procedure.ask _) (funext fun reply => ?_)
    cases reply with
    | answered revoked => cases revoked <;> rfl
    | failed fault => rfl
    | silent => rfl

theorem userOf_eq_ok_iff {issuer : Issuer} {token : String} {user : Uuid} :
    issuer.userOf token = .ok user ↔
      ∃ claims, issuer.claimsOf token = .ok claims ∧
        claims.subject.userId = user := by
  rw [Issuer.userOf]
  cases hclaims : issuer.claimsOf token with
  | error fault => simp [Except.map]
  | ok claims => simp [Except.map]

theorem Verdict.isOk_iff {issuer : Issuer} {token : String} {claims : Claims}
    {now : Moment} {reply : Reply LedgerFault Bool}
    {result : Except Fault Claims}
    (hclaims : issuer.claimsOf token = .ok claims)
    (hverdict : Verdict issuer token claims.purpose now reply result) :
    result.isOk = true ↔ result = .ok claims := by
  cases hverdict with
  | accepted haccepted =>
    have hgiven := haccepted.claims_eq
    rw [hclaims] at hgiven
    cases hgiven
    exact iff_of_true rfl rfl
  | refused hfirst => exact iff_of_false Bool.false_ne_true nofun

/-- The user of a token is known unless the verdict is that it is malformed. -/
theorem Verdict.exists_user_iff {issuer : Issuer} {token : String}
    {expected : Purpose} {now : Moment} {reply : Reply LedgerFault Bool}
    {result : Except Fault Claims}
    (hverdict : Verdict issuer token expected now reply result) :
    (∃ user, issuer.userOf token = .ok user) ↔
      ∀ cause, result ≠ .error (.malformed cause) := by
  simp only [userOf_eq_ok_iff, ne_eq, hverdict.eq_error_iff]
  cases hclaims : issuer.claimsOf token with
  | error fault =>
    obtain ⟨cause, rfl⟩ := claimsOf_eq_error hclaims
    refine iff_of_false (by simp) fun hnever => ?_
    exact hnever cause (firstObjection_malformed hclaims)
  | ok claims =>
    refine iff_of_true ⟨_, claims, rfl, rfl⟩ fun cause hfirst => ?_
    cases hfirst.applies with
    | malformed hmalformed =>
      rw [hclaims] at hmalformed
      cases hmalformed

/-- Checking a token accepts it exactly if nothing is held against it, and
answers the first objection otherwise; the ledger is asked only where the
verdict is left to it.  Validating a token decides as checking it for its own
purpose does, at the same moment and with the same reply of the ledger, and the
user of a token is known unless it is malformed. -/
theorem checking_and_validating_alike (issuer : Issuer) (token : String)
    (expected : Purpose) (surroundings : Surroundings) (past : Dialogue) :
    (∃ result asked,
      surroundings.carryOut (issuer.verify token expected).run past =
          (some result, past ++ asked) ∧
        (∀ claims, result = .ok claims ↔
          Accepted issuer token expected (surroundings.moment past)
            (surroundings.standing past token) claims) ∧
        (∀ fault, result = .error fault ↔
          FirstObjection issuer token expected (surroundings.moment past)
            (surroundings.standing past token) fault) ∧
        asked <+: [surroundings.momentTurn past,
          surroundings.standingTurn past token] ∧
        (surroundings.standingTurn past token ∈ asked ↔
          LeftToLedger issuer token expected surroundings past)) ∧
    (∃ good, (surroundings.carryOut (issuer.validate token) past).1 =
        some good ∧
      (good = true ↔ ∃ claims, issuer.claimsOf token = .ok claims ∧
        (surroundings.carryOut
          (issuer.verify token claims.purpose).run past).1 =
            some (.ok claims))) ∧
    (∀ user, issuer.userOf token = .ok user ↔
      ∃ claims, issuer.claimsOf token = .ok claims ∧
        claims.subject.userId = user) ∧
    ((∃ user, issuer.userOf token = .ok user) ↔
      ∀ cause, (surroundings.carryOut (issuer.verify token expected).run
        past).1 ≠ some (.error (.malformed cause))) := by
  obtain ⟨result, asked, hcarried, hverdict, hasked, hledger⟩ :=
    exists_verdict issuer token expected surroundings past
  refine ⟨⟨result, asked, hcarried, hverdict.eq_ok_iff, hverdict.eq_error_iff,
    hasked, hledger⟩, ?_, fun user => userOf_eq_ok_iff, ?_⟩
  · cases hclaims : issuer.claimsOf token with
    | error fault =>
      refine ⟨false, ?_, by simp⟩
      rw [Issuer.validate, hclaims]
      rfl
    | ok claims =>
      obtain ⟨own, questions, hown, hjudged, -⟩ :=
        exists_verdict issuer token claims.purpose surroundings past
      refine ⟨own.isOk, ?_, ?_⟩
      · rw [validate_eq_verify hclaims,
          surroundings.carryOut_bind_of_some hown]
        rfl
      · simp [hjudged.isOk_iff hclaims, hown]
  · simpa [hcarried] using hverdict.exists_user_iff

end CivicRegistry.Token
