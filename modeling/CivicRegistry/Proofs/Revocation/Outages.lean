import CivicRegistry.Proofs.Revocation.Intervals

/-!
# Calls carried out while the ledger comes and goes

A revocation that is carried out with intervals comes to one of three things:
it writes the key of its token until the token expires or longer, it has
nothing to write, or it is not answered and the ledger is as it was.  A barred
key stays barred whatever is called afterwards, and until the token expires a
check or an exchange of it comes to a fault.
-/

namespace CivicRegistry.Token

open Calendar (Moment Span)
open Service (Procedure Question Host Interval Endures)

variable {issuer : Issuer} {token : String} {claims : Claims}
  {host ending : Host}

/-! ## A check and a revocation -/

theorem exists_of_verify {expected : Purpose}
    {outcome : Option (Except Fault Claims)}
    (hendures : Endures host (issuer.verify token expected).run outcome
      ending) :
    ∃ result, outcome = some result := by
  cases hclaims : issuer.claimsOf token with
  | error fault =>
    rw [Issuer.verify, hclaims] at hendures
    exact ⟨_, hendures.of_done.1⟩
  | ok claims =>
    rw [Issuer.run_verify expected hclaims] at hendures
    obtain ⟨first, hread⟩ := hendures.of_moment
    split at hread
    · exact ⟨_, hread.of_done.1⟩
    split at hread
    · exact ⟨_, hread.of_done.1⟩
    obtain ⟨second, hlooked⟩ := hread.of_ask
    split at hlooked <;> exact ⟨_, hlooked.of_done.1⟩

/-- What a revocation makes of the ledger, by its result. -/
inductive Revocation (issuer : Issuer) (token : String) (host ending : Host) :
    Except Fault Unit → Prop where
  | needless
      (hspent : ∀ claims, issuer.claimsOf token = .ok claims →
        claims.deadline ≤ ending.now)
      (huntouched : ending.ledger = host.ledger) :
      Revocation issuer token host ending (.ok ())
  | written {claims : Claims} (hclaims : issuer.claimsOf token = .ok claims)
      (span : Span) (hlong : claims.deadline ≤ ending.now.after span)
      (hwritten : ending.ledger =
        host.ledger.revoke ending.now (ledgerKey token) span) :
      Revocation issuer token host ending (.ok ())
  | unanswered {claims : Claims} (hclaims : issuer.claimsOf token = .ok claims)
      (cause : LedgerFault) (huntouched : ending.ledger = host.ledger) :
      Revocation issuer token host ending (.error (.ledger cause))

/-- A revocation always comes to an end, in one of these ways. -/
theorem exists_revocation {outcome : Option (Except Fault Unit)}
    (hendures : Endures host (issuer.revoke token).run outcome ending) :
    ∃ result, outcome = some result ∧
      Revocation issuer token host ending result := by
  cases hclaims : issuer.claimsOf token with
  | error fault =>
    rw [Issuer.revoke, hclaims] at hendures
    obtain ⟨rfl, rfl⟩ := hendures.of_done
    have hspent : ∀ claims, issuer.claimsOf token = .ok claims →
        claims.deadline ≤ ending.now := by
      intro claims hread
      rw [hclaims] at hread
      cases hread
    exact ⟨.ok (), rfl, .needless hspent rfl⟩
  | ok claims =>
    rw [Issuer.run_revoke hclaims] at hendures
    obtain ⟨first, hread⟩ := hendures.of_moment
    cases hspan : Issuer.remaining? claims (host.now.after first.pause) with
    | none =>
      simp only [hspan] at hread
      obtain ⟨rfl, rfl⟩ := hread.of_done
      refine ⟨.ok (), rfl, .needless ?_ rfl⟩
      intro other hother
      obtain rfl := Except.ok.inj (hclaims.symm.trans hother)
      exact remaining?_eq_none_iff.mp hspan
    | some span =>
      simp only [hspan] at hread
      obtain ⟨second, hwritten⟩ := hread.of_ask
      obtain ⟨rfl, rfl⟩ := hwritten.of_done
      -- the write is answered in the condition that holds by then
      obtain ⟨pause, lookups, revocations, granting, stores⟩ := second
      cases revocations with
      | well =>
        have hlong := deadline_le_after_remaining hspan
          (Ledger.le_after (host.now.after first.pause) pause)
        exact ⟨.ok (), rfl, .written hclaims span hlong rfl⟩
      | failing fault =>
        exact ⟨.error (.ledger fault), rfl, .unanswered hclaims fault rfl⟩
      | silent =>
        exact ⟨.error (.ledger .timedOut), rfl,
          .unanswered hclaims .timedOut rfl⟩

theorem revocation_of_some {result : Except Fault Unit}
    (hendures : Endures host (issuer.revoke token).run (some result) ending) :
    Revocation issuer token host ending result := by
  obtain ⟨given, hgiven, hrevocation⟩ := exists_revocation hendures
  rwa [Option.some.inj hgiven]

theorem Revocation.bars
    (hrevocation : Revocation issuer token host ending (.ok ()))
    (hclaims : issuer.claimsOf token = .ok claims) :
    ending.Bars (ledgerKey token) claims.deadline := by
  cases hrevocation with
  | needless hspent => exact Host.bars_of_le (hspent claims hclaims)
  | written hread span hlong hwritten =>
    obtain rfl := Except.ok.inj (hread.symm.trans hclaims)
    intro hahead
    have hspan : span.nanos ≠ 0 := by
      rw [Moment.le_iff, Moment.nanos_after] at hlong
      rw [Moment.lt_iff] at hahead
      omega
    refine ⟨ending.now.after span, ?_, hlong⟩
    rw [Host.live?, hwritten, Ledger.live?_revoke, if_pos ⟨rfl, hspan⟩]

/-- A revocation writes under its own key alone. -/
theorem Revocation.unwritten {result : Except Fault Unit} {key : String}
    (hrevocation : Revocation issuer token host ending result)
    (hnow : host.now ≤ ending.now) (hkey : key ≠ ledgerKey token) :
    Host.Unwritten key host ending := by
  cases hrevocation with
  | needless _ huntouched => exact Host.unwritten_of_ledger_eq hnow huntouched
  | written _ span _ hwritten =>
    rw [Host.Unwritten, Host.live?, Host.live?, ← Ledger.live?_later hnow,
      hwritten, Ledger.live?_revoke, if_neg fun heq => hkey heq.1]
  | unanswered _ _ huntouched =>
    exact Host.unwritten_of_ledger_eq hnow huntouched

/-- Unless it succeeds, a revocation leaves the ledger as it was. -/
theorem Revocation.of_error {fault : Fault}
    (hrevocation : Revocation issuer token host ending (.error fault)) :
    ending.ledger = host.ledger ∧ ∃ cause, fault = .ledger cause := by
  cases hrevocation with
  | unanswered _ cause huntouched => exact ⟨huntouched, cause, rfl⟩

/-! ## Runs in which no time passes -/

/-- An interval without time, after which only the revocations may be out of
order. -/
def briefly (revocations : Service.Condition LedgerFault) : Interval :=
  ⟨⟨0⟩, .well, revocations, .well, .well⟩

@[simp]
theorem now_across_briefly
    (revocations : Service.Condition LedgerFault) :
    (host.across (briefly revocations)).now = host.now := by
  simp [Host.across, briefly, Moment.after]

/-- A revocation of a token that has not expired is answered as the condition
of the revocations has it. -/
theorem endures_revoke (hclaims : issuer.claimsOf token = .ok claims)
    (hahead : host.now < claims.deadline)
    (revocations : Service.Condition LedgerFault) :
    ∃ ending, ending.now = host.now ∧
      Endures host (issuer.revoke token).run
        (some (((revocations.reply ()).result .timedOut).mapError .ledger))
        ending := by
  obtain ⟨span, hspan⟩ : ∃ span,
      Issuer.remaining? claims host.now = some span := by
    rw [← Option.ne_none_iff_exists', ne_eq, remaining?_eq_none_iff]
    rw [Moment.lt_iff] at hahead
    rw [Moment.le_iff]
    omega
  let writing := (host.across (briefly .well)).across (briefly revocations)
  have hmoment : ((host.across (briefly .well)).answer .moment).1 =
      host.now := now_across_briefly .well
  have hreply : (writing.answer (.revoke (ledgerKey token) span)).1 =
      revocations.reply () := by
    cases revocations <;> rfl
  refine ⟨(writing.answer (.revoke (ledgerKey token) span)).2, ?_, ?_⟩
  · rw [Host.now_answer, now_across_briefly, now_across_briefly]
  · rw [Issuer.run_revoke hclaims, ← hreply]
    apply Endures.ask (briefly .well)
    rw [hmoment, hspan]
    exact .ask (briefly revocations) (.done _ _)

/-- A token whose key is free is accepted before it expires. -/
theorem endures_verify (hclaims : issuer.claimsOf token = .ok claims)
    (hahead : host.now < claims.deadline)
    (hfree : host.Free (ledgerKey token)) :
    ∃ ending, ending.now = host.now ∧
      Endures host (issuer.verify token claims.purpose).run
        (some (.ok claims)) ending := by
  let looking :=
    ((host.across (briefly .well)).answer .moment).2.across (briefly .well)
  have hmoment : ((host.across (briefly .well)).answer .moment).1 =
      host.now := now_across_briefly .well
  have hreply : (looking.answer (.isRevoked (ledgerKey token))).1 =
      .answered false := by
    have hlooking : looking.Free (ledgerKey token) :=
      (hfree.later ⟨0⟩).later ⟨0⟩
    have habsent := Ledger.isRevoked_eq_isSome_live? looking.now
      (ledgerKey token) looking.ledger
    rw [Host.Free, Host.live?] at hlooking
    rw [hlooking] at habsent
    exact congrArg Service.Reply.answered habsent
  refine ⟨looking, ?_, ?_⟩
  · rw [now_across_briefly, Host.now_answer, now_across_briefly]
  · rw [lt_deadline_iff] at hahead
    rw [Issuer.run_verify claims.purpose hclaims]
    apply Endures.ask (briefly .well)
    rw [hmoment, if_neg (Int.not_le.mpr hahead), if_neg (not_not_intro rfl)]
    apply Endures.ask (briefly .well)
    rw [hreply]
    exact .done _ _

/-! ## Whatever is called afterwards -/

/-- Whatever begins with a check of a token whose key is barred comes to a
fault and writes nothing, if it is over before the token expires. -/
theorem refused_of_bars {β : Type} {expected : Purpose}
    {next : Claims → Attempt β} {outcome : Option (Except Fault β)}
    (hclaims : issuer.claimsOf token = .ok claims)
    (hbars : host.Bars (ledgerKey token) claims.deadline)
    (hendures : Endures host (issuer.verify token expected >>= next).run
      outcome ending)
    (hahead : ending.now < claims.deadline) :
    (∃ fault, outcome = some (.error fault)) ∧
      ending.ledger = host.ledger := by
  rw [Issuer.run_verify_bind expected hclaims next] at hendures
  obtain ⟨first, hread⟩ := hendures.of_moment
  split at hread
  · obtain ⟨rfl, rfl⟩ := hread.of_done
    exact ⟨⟨_, rfl⟩, rfl⟩
  split at hread
  · obtain ⟨rfl, rfl⟩ := hread.of_done
    exact ⟨⟨_, rfl⟩, rfl⟩
  obtain ⟨second, hlooked⟩ := hread.of_ask
  -- the key is looked up before the deadline, when it is still barred
  let looking := (host.across first).across second
  have hlooking : looking.Bars (ledgerKey token) claims.deadline :=
    ((Host.keeps_across first).trans (Host.keeps_across second)).bars hbars
  obtain ⟨expiry, hlive, -⟩ := hlooking (by
    have hnow : looking.now ≤ ending.now := hlooked.now_le
    rw [Moment.lt_iff, Moment.le_iff] at *
    omega)
  have hrevoked : looking.ledger.isRevoked looking.now (ledgerKey token) =
      true := by
    rw [Host.live?] at hlive
    rw [Ledger.isRevoked_eq_isSome_live?, hlive]
    rfl
  have hreply : (looking.answer (.isRevoked (ledgerKey token))).1 =
      second.lookups.reply true := congrArg second.lookups.reply hrevoked
  rw [hreply] at hlooked
  cases hlookups : second.lookups <;>
    · rw [hlookups] at hlooked
      obtain ⟨rfl, rfl⟩ := hlooked.of_done
      exact ⟨⟨_, rfl⟩, rfl⟩

theorem verify_refused {expected : Purpose}
    {outcome : Option (Except Fault Claims)}
    (hclaims : issuer.claimsOf token = .ok claims)
    (hbars : host.Bars (ledgerKey token) claims.deadline)
    (hendures : Endures host (issuer.verify token expected).run outcome ending)
    (hahead : ending.now < claims.deadline) :
    ∃ fault, outcome = some (.error fault) := by
  rw [← bind_pure (issuer.verify token expected)] at hendures
  exact (refused_of_bars hclaims hbars hendures hahead).1

/-- Calls of an issuer one after the other, each carried out while the ledger
comes and goes. -/
inductive Aftermath (issuer : Issuer) : Host → List Call → Host → Prop where
  | start (host : Host) : Aftermath issuer host [] host
  | wait {host ending : Host} {calls : List Call} (interval : Interval)
      (hrest : Aftermath issuer (host.across interval) calls ending) :
      Aftermath issuer host calls ending
  | call {host middle ending : Host} {calls : List Call} {call : Call}
      {outcome : Option call.Answer}
      (hendures : Endures host (call.procedure issuer) outcome middle)
      (hrest : Aftermath issuer middle calls ending) :
      Aftermath issuer host (call :: calls) ending

/-- A call leaves a barred key barred. -/
theorem bars_of_call {call : Call} {outcome : Option call.Answer}
    (hclaims : issuer.claimsOf token = .ok claims)
    (hbars : host.Bars (ledgerKey token) claims.deadline)
    (hendures : Endures host (call.procedure issuer) outcome ending)
    (hdistinct : ∀ other, call.written? = some other →
      ledgerKey other = ledgerKey token → other = token) :
    ending.Bars (ledgerKey token) claims.deadline := by
  by_cases htoken : call.written? = some token
  · cases call with
    | revoke other =>
      obtain rfl : other = token := Option.some.inj htoken
      obtain ⟨result, rfl, hrevocation⟩ := exists_revocation hendures
      cases result with
      | ok done => exact hrevocation.bars hclaims
      | error fault =>
        have hunwritten : Host.Unwritten (ledgerKey other) host ending :=
          Host.unwritten_of_ledger_eq hendures.now_le hrevocation.of_error.1
        exact hunwritten.bars hendures.now_le hbars
    | refresh other =>
      obtain rfl : other = token := Option.some.inj htoken
      rcases le_or_lt claims.deadline ending.now with hpassed | hahead
      · exact Host.bars_of_le hpassed
      · have hrefused := refused_of_bars hclaims hbars hendures hahead
        have hunwritten : Host.Unwritten (ledgerKey other) host ending :=
          Host.unwritten_of_ledger_eq hendures.now_le hrefused.2
        exact hunwritten.bars hendures.now_le hbars
    | _ => cases htoken
  · have hspares := call.spares_of_distinct issuer htoken hdistinct
    exact (hendures.keeps hspares).bars hbars

theorem Aftermath.bars {calls : List Call}
    (haftermath : Aftermath issuer host calls ending)
    (hclaims : issuer.claimsOf token = .ok claims)
    (hbars : host.Bars (ledgerKey token) claims.deadline)
    (hdistinct : ∀ call ∈ calls, ∀ other, call.written? = some other →
      ledgerKey other = ledgerKey token → other = token) :
    ending.Bars (ledgerKey token) claims.deadline := by
  induction haftermath with
  | start => exact hbars
  | wait interval _ ih =>
    exact ih ((Host.keeps_across interval).bars hbars) hdistinct
  | call hendures _ ih =>
    apply ih (bars_of_call hclaims hbars hendures
      (hdistinct _ List.mem_cons_self))
    exact fun call hcall => hdistinct call (List.mem_cons_of_mem _ hcall)

/-- The token has been given up: its key is barred until it expires, and until
then every check and every exchange of it comes to a fault, whatever is called
in between and however the ledger fares. -/
structure GivenUp (issuer : Issuer) (token : String) (host : Host) : Prop where
  barred : ∀ claims, issuer.claimsOf token = .ok claims →
    host.Bars (ledgerKey token) claims.deadline
  refused : ∀ {calls : List Call} {last ending : Host},
    Aftermath issuer host calls last →
    (∀ call ∈ calls, ∀ other, call.written? = some other →
      ledgerKey other = ledgerKey token → other = token) →
    (∀ claims, issuer.claimsOf token = .ok claims →
      ending.now < claims.deadline) →
    (∀ expected outcome,
      Endures last (issuer.verify token expected).run outcome ending →
        ∃ fault, outcome = some (.error fault)) ∧
    ∀ outcome, Endures last (issuer.refresh token).run outcome ending →
      ∃ fault, outcome = some (.error fault)

theorem GivenUp.of_bars
    (hbarred : ∀ claims, issuer.claimsOf token = .ok claims →
      host.Bars (ledgerKey token) claims.deadline) :
    GivenUp issuer token host where
  barred := hbarred
  refused {calls last ending} haftermath hdistinct hahead := by
    cases hclaims : issuer.claimsOf token with
    | error fault =>
      constructor
      · intro expected outcome hendures
        rw [Issuer.verify, hclaims] at hendures
        exact ⟨fault, hendures.of_done.1⟩
      · intro outcome hendures
        rw [Issuer.refresh, Issuer.verify, hclaims] at hendures
        exact ⟨fault, hendures.of_done.1⟩
    | ok claims =>
      have hbars := haftermath.bars hclaims (hbarred claims hclaims) hdistinct
      have hbefore := hahead claims hclaims
      constructor
      · intro expected outcome hendures
        exact verify_refused hclaims hbars hendures hbefore
      · intro outcome hendures
        exact (refused_of_bars hclaims hbars hendures hbefore).1

end CivicRegistry.Token
