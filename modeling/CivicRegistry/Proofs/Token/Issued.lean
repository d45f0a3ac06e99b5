import CivicRegistry.Proofs.Token.Reading
import CivicRegistry.Proofs.Token.Verdict

/-!
# Tokens that were issued

A token that is issued opens to the claims it was issued for: its subject and
purpose, the identifier that was given out, the whole second in which it was
issued and the one in which its lifetime ends.  A refresh token that was issued
for a subject is exchanged for tokens of the same subject alone, and so is every
refresh token that comes of it.
-/

namespace CivicRegistry.Calendar

/-- The moment has a date in the calendar; a clock shows no others. -/
def Moment.IsDated (moment : Moment) : Prop :=
  Timestamp.inCalendar (moment.second / Instant.secondsPerDay) = true

instance (moment : Moment) : Decidable moment.IsDated :=
  inferInstanceAs (Decidable (_ = true))

end CivicRegistry.Calendar

namespace CivicRegistry.Token

open Calendar (Moment Instant)
open Service (Procedure Dialogue Surroundings)

theorem inCalendar_iff {day : Int} :
    Calendar.Timestamp.inCalendar day = true ↔
      -96465292 ≤ day ∧ day ≤ 95026236 := by
  have hfirst : (Calendar.Date.mk Calendar.Date.firstYear 1 1).dayNumber =
      -96465292 := by decide
  have hlast : (Calendar.Date.mk Calendar.Date.lastYear 12 31).dayNumber =
      95026236 := by decide
  rw [Calendar.Timestamp.inCalendar, hfirst, hlast, Bool.and_eq_true,
    decide_eq_true_iff, decide_eq_true_iff]

/-- The calendar lies within the seconds that 64 bits can count. -/
theorem isInt64_of_isDated {moment : Moment} (hdated : moment.IsDated) :
    IsInt64 moment.second := by
  obtain ⟨hfirst, hlast⟩ := inCalendar_iff.mp hdated
  have hpow : Int.pow 2 63 = 9223372036854775808 := rfl
  rw [Instant.secondsPerDay] at hfirst hlast
  rw [IsInt64, hpow]
  omega

/-- The moment at which a lifetime ends that starts at a moment. -/
def Lifetime.ending (lifetime : Lifetime) (start : Moment) : Moment :=
  ⟨start.nanos + lifetime.nanos⟩

theorem Lifetime.expiry?_eq (lifetime : Lifetime) (start : Moment) :
    lifetime.expiry? start =
      if (lifetime.ending start).IsDated then
        some (lifetime.ending start).second
      else none := rfl

end CivicRegistry.Token

namespace CivicRegistry.Service.Surroundings

open Token (Subject Purpose Lifetime Claims)

/-- The claims of a token that is issued in the surroundings. -/
def issued (surroundings : Surroundings) (past : Dialogue)
    (subject : Subject) (purpose : Purpose) (lifetime : Lifetime) : Claims where
  subject := subject
  purpose := purpose
  tokenId := surroundings.answer (surroundings.after past .moment) .identifier
  issuedAt := (surroundings.moment past).second
  expiresAt := (lifetime.ending (surroundings.moment past)).second

/-- The dialogue after a token is issued, whether or not there is one. -/
def afterToken (surroundings : Surroundings) (past : Dialogue) : Dialogue :=
  surroundings.after (surroundings.after past .moment) .identifier

/-- The clock never leaves the calendar. -/
def KeepsCalendar (surroundings : Surroundings) : Prop :=
  ∀ past, (surroundings.moment past).IsDated

end CivicRegistry.Service.Surroundings

namespace CivicRegistry.Token

open Calendar (Moment Instant)
open Service (Procedure Dialogue Surroundings)

section Issuing

variable {issuer : Issuer} {subject : Subject} {purpose : Purpose}
  {lifetime : Lifetime} {surroundings : Surroundings} {past : Dialogue}

theorem issue_eq (issuer : Issuer) (subject : Subject) (purpose : Purpose)
    (lifetime : Lifetime) :
    issuer.issue subject purpose lifetime =
      .ask .moment fun now => .ask .identifier fun id =>
        if (lifetime.ending now).IsDated then
          .done (sign issuer.secret ⟨subject, purpose, id, now.second,
            (lifetime.ending now).second⟩)
        else .broken := by
  refine congrArg (Procedure.ask .moment) (funext fun now => ?_)
  refine congrArg (Procedure.ask .identifier) (funext fun id => ?_)
  rw [lifetime.expiry?_eq]
  by_cases hending : (lifetime.ending now).IsDated
  · rw [if_pos hending, if_pos hending]
    rfl
  · rw [if_neg hending, if_neg hending]
    rfl

theorem carryOut_issue_eq (issuer : Issuer) (subject : Subject)
    (purpose : Purpose) (lifetime : Lifetime) (surroundings : Surroundings)
    (past : Dialogue) :
    surroundings.carryOut (issuer.issue subject purpose lifetime) past =
      (if (lifetime.ending (surroundings.moment past)).IsDated then
        some (sign issuer.secret
          (surroundings.issued past subject purpose lifetime))
      else none, surroundings.afterToken past) := by
  rw [issue_eq, Surroundings.carryOut_ask, Surroundings.carryOut_ask]
  split <;> rfl

theorem carryOut_issue (issuer : Issuer) (subject : Subject)
    (purpose : Purpose) (lifetime : Lifetime) (surroundings : Surroundings)
    (past : Dialogue) :
    (surroundings.carryOut (issuer.issue subject purpose lifetime) past).1 =
      if (lifetime.ending (surroundings.moment past)).IsDated then
        some (sign issuer.secret
          (surroundings.issued past subject purpose lifetime))
      else none := by
  rw [carryOut_issue_eq]

theorem issued_timed (hnow : (surroundings.moment past).IsDated)
    (hending : (lifetime.ending (surroundings.moment past)).IsDated) :
    (surroundings.issued past subject purpose lifetime).Timed :=
  ⟨isInt64_of_isDated hnow, isInt64_of_isDated hending⟩

end Issuing

/-- The text is the token of some claims under a secret.  It opens to them
unless they expired before 1970. -/
structure Bears (secret : Secret) (text : String) (claims : Claims) : Prop where
  signed : text = sign secret claims
  opens : decode secret text =
    if claims.expiresAt < 0 then .error (.missingClaim "exp") else .ok claims

theorem Claims.Timed.bears {claims : Claims} (htimed : claims.Timed)
    (secret : Secret) : Bears secret (sign secret claims) claims :=
  ⟨rfl, htimed.decode_eq secret⟩

theorem Bears.eq {secret : Secret} {text : String} {claims opened : Claims}
    (hbears : Bears secret text claims)
    (hopened : decode secret text = .ok opened) : opened = claims := by
  rw [hbears.opens] at hopened
  split at hopened
  · cases hopened
  · exact (Except.ok.inj hopened).symm

theorem bears_of_issue {issuer : Issuer} {subject : Subject}
    {purpose : Purpose} {lifetime : Lifetime} {surroundings : Surroundings}
    {past : Dialogue} {text : String}
    (hnow : (surroundings.moment past).IsDated)
    (hissued : (surroundings.carryOut
      (issuer.issue subject purpose lifetime) past).1 = some text) :
    Bears issuer.secret text
      (surroundings.issued past subject purpose lifetime) := by
  rw [carryOut_issue] at hissued
  split at hissued
  · next hending =>
    rw [← Option.some.inj hissued]
    exact (issued_timed hnow hending).bears issuer.secret
  · cases hissued

/-- Both tokens of a pair are for the subject, each for its own purpose. -/
def Pair.IsFor (secret : Secret) (subject : Subject) (pair : Pair) : Prop :=
  ∃ access refresh : Claims,
    Bears secret pair.access access ∧ Bears secret pair.refresh refresh ∧
      access.subject = subject ∧ access.purpose = .access ∧
      refresh.subject = subject ∧ refresh.purpose = .refresh

theorem isFor_of_issuePair {issuer : Issuer} {subject : Subject}
    {surroundings : Surroundings} {past : Dialogue} {pair : Pair}
    (hclock : surroundings.KeepsCalendar)
    (hissued : (surroundings.carryOut (issuer.issuePair subject) past).1 =
      some pair) :
    pair.IsFor issuer.secret subject := by
  obtain ⟨access, afterwards, haccess, hrest⟩ :=
    surroundings.exists_of_carryOut_bind hissued
  obtain ⟨refresh, later, hrefresh, hpair⟩ :=
    surroundings.exists_of_carryOut_bind hrest
  obtain rfl := Option.some.inj hpair
  refine ⟨_, _, bears_of_issue (hclock past) (by rw [haccess]),
    bears_of_issue (hclock afterwards) (by rw [hrefresh]), rfl, rfl, rfl, rfl⟩

/-- A pair is issued only for the subject of the token that is given for it. -/
theorem exists_issuePair_of_refresh {issuer : Issuer} {token : String}
    {surroundings : Surroundings} {past : Dialogue} {pair : Pair}
    (hrefreshed : (surroundings.carryOut (issuer.refresh token).run past).1 =
      some (.ok pair)) :
    ∃ claims before, issuer.claimsOf token = .ok claims ∧
      (surroundings.carryOut (issuer.issuePair claims.subject) before).1 =
        some pair := by
  cases hclaims : issuer.claimsOf token with
  | error fault =>
    rw [Issuer.refresh, Issuer.verify, hclaims] at hrefreshed
    cases hrefreshed
  | ok claims =>
    refine ⟨claims, ?_⟩
    rw [Issuer.run_refresh hclaims, Surroundings.carryOut_ask] at hrefreshed
    split at hrefreshed
    · cases hrefreshed
    split at hrefreshed
    · cases hrefreshed
    rw [Surroundings.carryOut_ask] at hrefreshed
    split at hrefreshed
    · cases hrefreshed
    · cases hrefreshed
    rw [Issuer.exchange, Surroundings.carryOut_ask] at hrefreshed
    split at hrefreshed
    · cases hrefreshed
    rw [Surroundings.carryOut_ask] at hrefreshed
    split at hrefreshed
    · cases hrefreshed
    · cases hrefreshed
    obtain ⟨issued, later, hissued, hdone⟩ :=
      surroundings.exists_of_carryOut_bind hrefreshed
    obtain rfl := Except.ok.inj (Option.some.inj hdone)
    exact ⟨_, rfl, by rw [hissued]⟩

/-! ## Chains of exchanges -/

/-- A refresh token is exchanged for a pair by an issuer with the secret. -/
def Rotates (secret : Secret) (token : String) (pair : Pair) : Prop :=
  ∃ (issuer : Issuer) (surroundings : Surroundings) (past : Dialogue),
    issuer.secret = secret ∧ surroundings.KeepsCalendar ∧
      (surroundings.carryOut (issuer.refresh token).run past).1 =
        some (.ok pair)

/-- The pairs that come of a refresh token one after the other, each for the
refresh token of the one before. -/
inductive Rotations (secret : Secret) : String → List Pair → Prop where
  | ended (token : String) : Rotations secret token []
  | rotated {token : String} {pair : Pair} {later : List Pair}
      (hrotates : Rotates secret token pair)
      (hlater : Rotations secret pair.refresh later) :
      Rotations secret token (pair :: later)

theorem claimsOf_eq_ok_iff {issuer : Issuer} {token : String}
    {claims : Claims} :
    issuer.claimsOf token = .ok claims ↔
      decode issuer.secret token = .ok claims := by
  rw [Issuer.claimsOf]
  cases decode issuer.secret token with
  | error cause =>
    constructor <;> intro hequal <;> cases hequal
  | ok opened =>
    exact ⟨fun hequal => congrArg Except.ok (Except.ok.inj hequal),
      fun hequal => congrArg Except.ok (Except.ok.inj hequal)⟩

/-- An exchange keeps the subject of the token that is given. -/
theorem Rotates.isFor {secret : Secret} {token : String} {pair : Pair}
    {claims : Claims} (hrotates : Rotates secret token pair)
    (hbears : Bears secret token claims) :
    pair.IsFor secret claims.subject := by
  obtain ⟨issuer, surroundings, past, rfl, hclock, hrefreshed⟩ := hrotates
  obtain ⟨opened, before, hopened, hissued⟩ :=
    exists_issuePair_of_refresh hrefreshed
  rw [hbears.eq (claimsOf_eq_ok_iff.mp hopened)] at hissued
  exact isFor_of_issuePair hclock hissued

/-- However often tokens are exchanged, every pair is for the subject of the
first one. -/
theorem Rotations.isFor {secret : Secret} {token : String} {pairs : List Pair}
    {claims : Claims} (hrotations : Rotations secret token pairs)
    (hbears : Bears secret token claims) :
    ∀ pair ∈ pairs, pair.IsFor secret claims.subject := by
  induction hrotations generalizing claims with
  | ended token => exact fun _ hmem => absurd hmem List.not_mem_nil
  | rotated hrotates hlater ih =>
    have hpair := hrotates.isFor hbears
    -- the refresh token of the pair takes the place of the first token
    obtain ⟨-, refresh, -, hrefresh, -, -, hsubject, -⟩ := id hpair
    rw [List.forall_mem_cons]
    exact ⟨hpair, hsubject ▸ ih hrefresh⟩

/-! ## What an issued token is good for -/

/-- A text gives an issuer its claims.  Until they expire it is accepted for
their purpose as long as it is not revoked, and for the other purpose never. -/
structure Opens (reader : Issuer) (text : String) (claims : Claims) :
    Prop where
  claims_eq : reader.claimsOf text = .ok claims
  accepted : ∀ (surroundings : Surroundings) (past : Dialogue),
    (surroundings.moment past).second < claims.expiresAt →
      surroundings.standing past text = .answered false →
        (surroundings.carryOut (reader.verify text claims.purpose).run past).1 =
          some (.ok claims)
  refused : ∀ (surroundings : Surroundings) (past : Dialogue)
      (expected : Purpose),
    (surroundings.moment past).second < claims.expiresAt →
      expected ≠ claims.purpose →
        (surroundings.carryOut (reader.verify text expected).run past).1 =
          some (.error (.wrongPurpose expected claims.purpose))

theorem Bears.opens_of_nonneg {reader : Issuer} {text : String}
    {claims : Claims} (hbears : Bears reader.secret text claims)
    (hexpiry : 0 ≤ claims.expiresAt) : Opens reader text claims := by
  have hclaims : reader.claimsOf text = .ok claims := by
    rw [claimsOf_eq_ok_iff, hbears.opens, if_neg (Int.not_lt.mpr hexpiry)]
  refine ⟨hclaims, fun surroundings past hahead habsent => ?_,
    fun surroundings past expected hahead hpurpose => ?_⟩
  · rw [carryOut_verify_of_clear hclaims hahead rfl, habsent]
    rfl
  · rw [carryOut_verify_of_wrongPurpose hclaims hahead hpurpose.symm]

/-- A token is issued unless its lifetime leaves the calendar.  It opens, for
everybody with the secret, to the claims it was issued for, unless these expire
before 1970; and every pair of every chain of exchanges that starts with it is
for the same subject. -/
theorem issued_tokens_open (issuer reader : Issuer) (subject : Subject)
    (purpose : Purpose) (lifetime : Lifetime) (surroundings : Surroundings)
    (past : Dialogue) (hsecret : reader.secret = issuer.secret)
    (hnow : (surroundings.moment past).IsDated) :
    ((∃ text, (surroundings.carryOut (issuer.issue subject purpose lifetime)
        past).1 = some text) ↔
      (lifetime.ending (surroundings.moment past)).IsDated) ∧
    ∀ text, (surroundings.carryOut (issuer.issue subject purpose lifetime)
        past).1 = some text →
      0 ≤ (lifetime.ending (surroundings.moment past)).second →
        Opens reader text
            (surroundings.issued past subject purpose lifetime) ∧
          ∀ pairs, Rotations issuer.secret text pairs →
            ∀ pair ∈ pairs, pair.IsFor issuer.secret subject := by
  refine ⟨?_, fun text hissued hexpiry => ?_⟩
  · rw [carryOut_issue]
    split
    · next hending => exact iff_of_true ⟨_, rfl⟩ hending
    · next hending => exact iff_of_false (by simp) hending
  · have hbears := bears_of_issue hnow hissued
    have hread : Bears reader.secret text
        (surroundings.issued past subject purpose lifetime) := by
      rw [hsecret]
      exact hbears
    exact ⟨hread.opens_of_nonneg hexpiry,
      fun pairs hrotations => hrotations.isFor hbears⟩

/-- Surroundings in which the clock stands still, identifiers count the
questions and nothing is revoked. -/
def steady : Surroundings where
  answer past
    | .moment => ⟨1700000000500000000⟩
    | .identifier => ⟨BitVec.ofNat 128 past.length⟩
    | .isRevoked _ => .answered false
    | .revoke _ _ => .answered ()
    | .claim _ _ => .answered true
    | .find _ _ _ => .silent
    | .health => .ok ()

/-- A user whose address needs escapes. -/
def sampleSubject : Subject :=
  ⟨⟨7#128⟩, "\"a\\b\u0001\"@é😀", [.viewer, .admin]⟩

/-- The claims of a refresh token for the user. -/
def steadyClaims (past : Dialogue) : Claims :=
  steady.issued past sampleSubject .refresh sampleIssuer.refreshLifetime

/-- The pair for the user. -/
def steadyPair (past : Dialogue) : Pair where
  access := sign sampleIssuer.secret
    (steady.issued past sampleSubject .access sampleIssuer.accessLifetime)
  refresh := sign sampleIssuer.secret
    (steadyClaims (steady.after (steady.after past .moment) .identifier))
  expiresIn := 60

theorem rotates_steady {token : String} {issued : Dialogue}
    (hclaims : sampleIssuer.claimsOf token = .ok (steadyClaims issued))
    (past : Dialogue) :
    ∃ before, Rotates sampleIssuer.secret token (steadyPair before) := by
  have hdated : (steady.moment []).IsDated := by decide
  let checked := steady.after (steady.after past .moment)
    (.isRevoked (ledgerKey token))
  refine ⟨steady.after (steady.after checked .moment)
      (.claim (ledgerKey token) (.ofSeconds 3600)),
    sampleIssuer, steady, past, rfl, fun _ => hdated, ?_⟩
  rw [Issuer.run_refresh hclaims]
  rfl

theorem steadyClaims_opens (issued : Dialogue) :
    Opens sampleIssuer (sign sampleIssuer.secret (steadyClaims issued))
      (steadyClaims issued) := by
  have hdated : (steady.moment issued).IsDated :=
    show (steady.moment []).IsDated by decide
  have hending : (sampleIssuer.refreshLifetime.ending
      (steady.moment issued)).IsDated :=
    show (sampleIssuer.refreshLifetime.ending (steady.moment [])).IsDated by
      decide
  have hexpiry : 0 ≤ (steadyClaims issued).expiresAt :=
    show 0 ≤ (steadyClaims []).expiresAt by decide
  have htimed : (steadyClaims issued).Timed := issued_timed hdated hending
  exact (htimed.bears sampleIssuer.secret).opens_of_nonneg hexpiry

theorem issued_tokens_open_sample :
    ∃ text first second,
      (steady.carryOut (sampleIssuer.issue sampleSubject .refresh
          sampleIssuer.refreshLifetime) []).1 = some text ∧
        Opens sampleIssuer text (steadyClaims []) ∧
        Rotations sampleIssuer.secret text [first, second] ∧
        first.IsFor sampleIssuer.secret sampleSubject ∧
        second.IsFor sampleIssuer.secret sampleSubject := by
  obtain ⟨hissued, hopens⟩ := issued_tokens_open sampleIssuer sampleIssuer
    sampleSubject .refresh sampleIssuer.refreshLifetime steady [] rfl
    (by decide)
  obtain ⟨text, htext⟩ := hissued.mpr (by decide)
  obtain ⟨hopened, hpairs⟩ := hopens text htext (by decide)
  obtain ⟨before, hfirst⟩ := rotates_steady hopened.claims_eq []
  have hagain := (steadyClaims_opens
    (steady.after (steady.after before .moment) .identifier)).claims_eq
  obtain ⟨between, hsecond⟩ := rotates_steady hagain before
  have hrotations : Rotations sampleIssuer.secret text
      [steadyPair before, steadyPair between] :=
    .rotated hfirst (.rotated hsecond (.ended _))
  exact ⟨text, _, _, htext, hopened, hrotations,
    hpairs _ hrotations _ (by simp), hpairs _ hrotations _ (by simp)⟩

end CivicRegistry.Token
