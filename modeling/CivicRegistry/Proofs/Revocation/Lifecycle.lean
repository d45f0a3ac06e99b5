import CivicRegistry.Proofs.Revocation.Stage
import CivicRegistry.Proofs.Token.Reading

/-!
# The life of a token over whole runs

A run is a sequence of calls on one issuer, with any amount of time between
them and between the questions of each.  Over a run the key of a token is
barred once a revocation of the token has come through or an exchange has
claimed it, and free until then.  An exchange that has claimed the token returns
a pair, unless a lifetime of the issuer leaves the calendar; then it breaks off,
and the token is used up for nothing.  So the token is accepted exactly while it
is neither expired nor revoked nor claimed.
-/

namespace CivicRegistry.Token

open Calendar (Moment Span)
open Service (Procedure Question Host Carries)

/-- A call that was carried out: what it answered, if it did not break off, and
the moment at which it was over. -/
structure Event where
  call : Call
  outcome : Option call.Answer
  moment : Moment

/-- The runs of an issuer from one host to another, with what happened. -/
inductive Run (issuer : Issuer) : Host → List Event → Host → Prop where
  | start (host : Host) : Run issuer host [] host
  | wait {host ending : Host} {events : List Event} (pause : Span)
      (hrest : Run issuer (host.later pause) events ending) :
      Run issuer host events ending
  | call {host middle ending : Host} {events : List Event} {call : Call}
      {outcome : Option call.Answer}
      (hcarries : Carries host (call.procedure issuer) outcome middle)
      (hrest : Run issuer middle events ending) :
      Run issuer host (⟨call, outcome, middle.now⟩ :: events) ending

namespace Event

/-- The token was revoked at a moment before it expired. -/
def Revokes (token : String) (claims : Claims) (event : Event) : Prop :=
  ∃ moment, event = ⟨.revoke token, some (.ok ()), moment⟩ ∧
    moment.second < claims.expiresAt

/-- An exchange of the token returned a pair. -/
def Returns (token : String) (event : Event) : Prop :=
  ∃ pair moment, event = ⟨.refresh token, some (.ok pair), moment⟩

/-- An exchange of the token broke off: the token was claimed, but no pair was
issued. -/
def BreaksOff (token : String) (event : Event) : Prop :=
  ∃ moment, event = ⟨.refresh token, none, moment⟩

/-- The event used the token up. -/
def Spends (token : String) (claims : Claims) (event : Event) : Prop :=
  event.Revokes token claims ∨ event.Returns token ∨ event.BreaksOff token

theorem Spends.written? {token : String} {claims : Claims} {event : Event}
    (hspends : event.Spends token claims) :
    event.call.written? = some token := by
  rcases hspends with ⟨moment, rfl, -⟩ | ⟨pair, moment, rfl⟩ | ⟨moment, rfl⟩ <;>
    rfl

/-- An exchange that came to no fault has used the token up. -/
theorem spends_of_refresh {token : String} {claims : Claims} {moment : Moment}
    {outcome : Option (Except Fault Pair)}
    (hgranted : ∀ fault, outcome ≠ some (.error fault)) :
    Spends token claims ⟨.refresh token, outcome, moment⟩ := by
  match outcome with
  | none => exact .inr (.inr ⟨moment, rfl⟩)
  | some (.ok pair) => exact .inr (.inl ⟨pair, moment, rfl⟩)
  | some (.error fault) => exact absurd rfl (hgranted fault)

end Event

/-- How the key of a token stands after some events. -/
structure Standing (token : String) (claims : Claims) (host : Host)
    (events : List Event) : Prop where
  well : host.LedgerWell
  spent : (∃ event ∈ events, event.Spends token claims) →
    host.Bars (ledgerKey token) claims.deadline
  unspent : (¬∃ event ∈ events, event.Spends token claims) →
    host.Free (ledgerKey token) ∨ claims.deadline ≤ host.now

namespace Standing

variable {issuer : Issuer} {token : String} {claims : Claims}
  {host middle ending : Host} {events more : List Event}

theorem starting (token : String) (claims : Claims) (start : Moment) :
    Standing token claims (.starting start) [] where
  well := Host.ledgerWell_starting start
  spent := by simp
  unspent := fun _ => .inl rfl

/-- A step that keeps the key as it was, during which no event uses the token
up. -/
theorem of_keeps (hstanding : Standing token claims host events)
    (hwell : ending.LedgerWell) (hnow : host.now ≤ ending.now)
    (hkeeps : Host.Keeps (ledgerKey token) claims.deadline host ending)
    (hmore : ∀ event ∈ more, ¬event.Spends token claims) :
    Standing token claims ending (events ++ more) where
  well := hwell
  spent := by
    rintro ⟨event, hevent, hspends⟩
    rcases List.mem_append.mp hevent with hevent | hevent
    · exact hkeeps.bars (hstanding.spent ⟨event, hevent, hspends⟩)
    · exact absurd hspends (hmore event hevent)
  unspent := by
    intro hunspent
    have hbefore : ¬∃ event ∈ events, event.Spends token claims := by
      rintro ⟨event, hevent, hspends⟩
      exact hunspent ⟨event, List.mem_append_left more hevent, hspends⟩
    rcases hstanding.unspent hbefore with hfree | hpassed
    · exact .inl (hkeeps.free hfree)
    · exact .inr (Int.le_trans hpassed hnow)

/-- A step that ends with the key barred: unless it used the token up, the
token has expired by then. -/
theorem of_bars {event : Event} (hwell : ending.LedgerWell)
    (hbars : ending.Bars (ledgerKey token) claims.deadline)
    (hspends : ending.now < claims.deadline → event.Spends token claims) :
    Standing token claims ending (events ++ [event]) where
  well := hwell
  spent := fun _ => hbars
  unspent := by
    intro hunspent
    rcases le_or_lt claims.deadline ending.now with hpassed | hahead
    · exact .inr hpassed
    · exact absurd ⟨event, by simp, hspends hahead⟩ hunspent

theorem wait (hstanding : Standing token claims host events) (pause : Span) :
    Standing token claims (host.later pause) events := by
  have hnone : ∀ event ∈ ([] : List Event), ¬event.Spends token claims := by
    simp
  have hlater := hstanding.of_keeps (hstanding.well.later pause)
    (Ledger.le_after host.now pause) (Host.keeps_later pause) hnone
  rwa [List.append_nil] at hlater

theorem call (hstanding : Standing token claims host events)
    (hclaims : issuer.claimsOf token = .ok claims) {call : Call}
    {outcome : Option call.Answer}
    (hcarries : Carries host (call.procedure issuer) outcome ending)
    (hdistinct : ∀ other, call.written? = some other →
      ledgerKey other = ledgerKey token → other = token) :
    Standing token claims ending
      (events ++ [⟨call, outcome, ending.now⟩]) := by
  have hwell := hcarries.ledgerWell hstanding.well
  by_cases htoken : call.written? = some token
  · cases call with
    | revoke other =>
      obtain rfl : other = token := Option.some.inj htoken
      obtain ⟨rfl, hbars⟩ := bars_of_revoke hclaims hstanding.well hcarries
      exact of_bars hwell hbars fun hahead =>
        .inl ⟨ending.now, rfl, lt_deadline_iff.mp hahead⟩
    | refresh other =>
      obtain rfl : other = token := Option.some.inj htoken
      rcases exchanged_of_refresh hclaims hstanding.well hcarries with
        ⟨⟨fault, rfl⟩, hkeeps⟩ | ⟨hgranted, hbars⟩
      · apply hstanding.of_keeps hwell hcarries.now_le hkeeps
        simp [Event.Spends, Event.Revokes, Event.Returns, Event.BreaksOff]
      · exact of_bars hwell hbars fun _ => Event.spends_of_refresh hgranted
    | _ => cases htoken
  · have hspares := call.spares_of_distinct issuer htoken hdistinct
    apply hstanding.of_keeps hwell hcarries.now_le (hcarries.keeps hspares)
    rintro event hevent hspends
    obtain rfl := List.mem_singleton.mp hevent
    exact htoken hspends.written?

theorem run (hstanding : Standing token claims host events)
    (hclaims : issuer.claimsOf token = .ok claims)
    (hrun : Run issuer host more ending)
    (hdistinct : ∀ event ∈ more, ∀ other, event.call.written? = some other →
      ledgerKey other = ledgerKey token → other = token) :
    Standing token claims ending (events ++ more) := by
  induction hrun generalizing events with
  | start host =>
    rw [List.append_nil]
    exact hstanding
  | wait pause _ ih => exact ih (hstanding.wait pause) hdistinct
  | call hcarries _ ih =>
    have hcalled := hstanding.call hclaims hcarries
      (hdistinct _ List.mem_cons_self)
    rw [List.append_cons]
    apply ih hcalled
    exact fun event hevent => hdistinct event (List.mem_cons_of_mem _ hevent)

end Standing

theorem Run.now_le {issuer : Issuer} {host ending : Host}
    {events : List Event} (hrun : Run issuer host events ending) :
    host.now ≤ ending.now := by
  induction hrun with
  | start => exact Int.le_refl _
  | @wait host _ _ pause _ ih =>
    exact Int.le_trans (Ledger.le_after host.now pause) ih
  | call hcarries _ ih => exact Int.le_trans hcarries.now_le ih

/-- An exchange breaks off only where a lifetime leaves the calendar. -/
theorem Run.leavesCalendar {issuer : Issuer} {token : String} {claims : Claims}
    {host ending : Host} {events : List Event}
    (hclaims : issuer.claimsOf token = .ok claims)
    (hrun : Run issuer host events ending) :
    ∀ event ∈ events, event.BreaksOff token →
      ∃ moment, host.now ≤ moment ∧ moment ≤ event.moment ∧
        issuer.LeavesCalendar moment := by
  induction hrun with
  | start => simp
  | @wait host _ _ pause _ ih =>
    intro event hevent hbroken
    obtain ⟨moment, hbegun, hover, hleaves⟩ := ih event hevent hbroken
    have hlater := Ledger.le_after host.now pause
    exact ⟨moment, Int.le_trans hlater hbegun, hover, hleaves⟩
  | @call host middle ending events call outcome hcarries _ ih =>
    rw [List.forall_mem_cons]
    constructor
    · rintro ⟨moment, hevent⟩
      cases hevent
      have hleads := issuer.refresh_leads hclaims False
      rcases hleads.excused_of_none hcarries rfl with hexcused | hleaves
      · exact hexcused.elim
      · exact hleaves
    · intro event hevent hbroken
      obtain ⟨moment, hbegun, hover, hleaves⟩ := ih event hevent hbroken
      exact ⟨moment, Int.le_trans hcarries.now_le hbegun, hover, hleaves⟩

/-- The token is accepted for the purpose it was issued for. -/
def Accepts (issuer : Issuer) (token : String) (claims : Claims)
    (host : Host) : Prop :=
  (Host.carryOut (issuer.verify token claims.purpose).run host).1 =
    some (.ok claims)

theorem accepts_iff {issuer : Issuer} {token : String} {claims : Claims}
    {host : Host} (hclaims : issuer.claimsOf token = .ok claims)
    (hwell : host.LedgerWell) :
    Accepts issuer token claims host ↔
      host.now < claims.deadline ∧ host.Free (ledgerKey token) := by
  rw [Accepts, Issuer.run_verify claims.purpose hclaims,
    Host.carryOut_moment, lt_deadline_iff, Host.Free]
  by_cases hexpired : claims.expiresAt ≤ host.now.second
  · rw [if_pos hexpired, Host.carryOut_done]
    simp [Int.not_lt.mpr hexpired]
  · rw [if_neg hexpired, if_neg (not_not_intro rfl), Host.carryOut_ask,
      hwell.reply_isRevoked]
    have hahead : host.now.second < claims.expiresAt := by omega
    cases hlive : host.live? (ledgerKey token) with
    | none => simp [hahead, Service.Reply.result]
    | some expiry => simp [Service.Reply.result]

variable {issuer : Issuer} {token : String} {claims : Claims}

theorem Standing.accepts_iff {host : Host} {events : List Event}
    (hstanding : Standing token claims host events)
    (hclaims : issuer.claimsOf token = .ok claims) :
    Accepts issuer token claims host ↔
      host.now.second < claims.expiresAt ∧
        ∀ event ∈ events, ¬event.Spends token claims := by
  rw [Token.accepts_iff hclaims hstanding.well, ← lt_deadline_iff]
  apply and_congr_right
  intro hahead
  constructor
  · intro hfree event hevent hspends
    obtain ⟨expiry, hlive, -⟩ :=
      hstanding.spent ⟨event, hevent, hspends⟩ hahead
    rw [Host.Free, hlive] at hfree
    cases hfree
  · intro hunspent
    have hnone : ¬∃ event ∈ events, event.Spends token claims := by
      rintro ⟨event, hevent, hspends⟩
      exact hunspent event hevent hspends
    rcases hstanding.unspent hnone with hfree | hpassed
    · exact hfree
    · rw [Moment.le_iff] at hpassed
      rw [Moment.lt_iff] at hahead
      omega

/-- Over every run, a token is accepted for its purpose exactly while it is not
expired, has not been revoked before it expired, and no exchange of it has
returned a pair or broken off.  An exchange breaks off only where a lifetime
leaves the calendar.  Once the token is rejected it stays rejected, and calls
about other tokens never take it away. -/
theorem accepted_until_spent {start : Moment} {host ending : Host}
    {before after : List Event} (hclaims : issuer.claimsOf token = .ok claims)
    (hbefore : Run issuer (.starting start) before host)
    (hafter : Run issuer host after ending)
    (hdistinct : ∀ event ∈ before ++ after, ∀ other,
      event.call.written? = some other →
        ledgerKey other = ledgerKey token → other = token) :
    (Accepts issuer token claims ending ↔
      ending.now.second < claims.expiresAt ∧
        (∀ event ∈ before ++ after, ¬event.Revokes token claims) ∧
        (∀ event ∈ before ++ after, ¬event.Returns token) ∧
        ∀ event ∈ before ++ after, ¬event.BreaksOff token) ∧
    (∀ event ∈ before ++ after, event.BreaksOff token →
      ∃ moment, start ≤ moment ∧ moment ≤ event.moment ∧
        issuer.LeavesCalendar moment) ∧
    (Accepts issuer token claims ending → Accepts issuer token claims host) ∧
    ((∀ event ∈ after, event.call.written? ≠ some token) →
      ending.now.second < claims.expiresAt →
        Accepts issuer token claims host →
          Accepts issuer token claims ending) := by
  have hmiddle : Standing token claims host before :=
    (Standing.starting token claims start).run hclaims hbefore
      fun event hevent => hdistinct event (List.mem_append_left after hevent)
  have hstanding : Standing token claims ending (before ++ after) :=
    hmiddle.run hclaims hafter
      fun event hevent => hdistinct event (List.mem_append_right before hevent)
  have hnow : host.now.second ≤ ending.now.second :=
    Int.ediv_le_ediv (by decide) hafter.now_le
  and_intros
  · rw [hstanding.accepts_iff hclaims]
    simp only [Event.Spends, not_or, forall_and]
  · intro event hevent hbroken
    rcases List.mem_append.mp hevent with hevent | hevent
    · exact hbefore.leavesCalendar hclaims event hevent hbroken
    · obtain ⟨moment, hbegun, hover, hleaves⟩ :=
        hafter.leavesCalendar hclaims event hevent hbroken
      exact ⟨moment, Int.le_trans hbefore.now_le hbegun, hover, hleaves⟩
  · rw [hstanding.accepts_iff hclaims, hmiddle.accepts_iff hclaims]
    rintro ⟨hahead, hunspent⟩
    have hearlier : host.now.second < claims.expiresAt := by omega
    exact ⟨hearlier, fun event hevent =>
      hunspent event (List.mem_append_left after hevent)⟩
  · rw [hstanding.accepts_iff hclaims, hmiddle.accepts_iff hclaims]
    rintro hother hahead ⟨-, hunspent⟩
    apply And.intro hahead
    intro event hevent
    rcases List.mem_append.mp hevent with hevent | hevent
    · exact hunspent event hevent
    · exact fun hspends => hother event hevent hspends.written?

/-- The host on which the sample token was revoked after a second and a half. -/
def sampleRevoked : Host :=
  (((Host.starting ⟨0⟩).later ⟨1500000000⟩).answer
    (.revoke (ledgerKey sampleToken) (.ofSeconds 99))).2

theorem sampleRevoked_run :
    Run sampleIssuer (.starting ⟨0⟩)
      [⟨.revoke sampleToken, some (.ok ()), ⟨1500000000⟩⟩] sampleRevoked := by
  have hcarries : Carries ((Host.starting ⟨0⟩).later ⟨1500000000⟩)
      ((Call.revoke sampleToken).procedure sampleIssuer) (some (.ok ()))
      sampleRevoked := by
    rw [Call.procedure, Issuer.run_revoke claimsOf_sampleToken]
    exact .ask ⟨0⟩ (.ask ⟨0⟩ (.done _ _))
  exact .wait ⟨1500000000⟩ (.call hcarries (.start _))

/-- A token that is accepted at the start is rejected once it was revoked. -/
theorem accepted_until_spent_sample :
    Accepts sampleIssuer sampleToken sampleClaims (.starting ⟨0⟩) ∧
      ¬Accepts sampleIssuer sampleToken sampleClaims sampleRevoked := by
  constructor
  · have haccepted := accepted_until_spent claimsOf_sampleToken (.start _)
      (.start (Host.starting ⟨0⟩)) (by simp)
    exact haccepted.1.mpr ⟨by decide, by simp, by simp, by simp⟩
  · have haccepted := accepted_until_spent claimsOf_sampleToken (.start _)
      sampleRevoked_run (by simp [Call.written?])
    intro hafter
    have hunrevoked := (haccepted.1.mp hafter).2.1
    exact hunrevoked _ (by simp) ⟨⟨1500000000⟩, rfl, by decide⟩

/-! ## Where no pair is returned -/

theorem claimsOf_endlessIssuer :
    endlessIssuer.claimsOf sampleToken = .ok sampleClaims :=
  claimsOf_sampleToken

/-- An exchange of the sample token that breaks off at once. -/
theorem carries_endlessIssuer :
    ∃ ending, ending.now = ⟨0⟩ ∧ Carries (.starting ⟨0⟩)
      ((Call.refresh sampleToken).procedure endlessIssuer) none ending := by
  rw [Call.procedure, Issuer.run_refresh claimsOf_endlessIssuer]
  exact ⟨_, rfl, .ask ⟨0⟩ (.ask ⟨0⟩ (.ask ⟨0⟩ (.ask ⟨0⟩ (.ask ⟨0⟩ (.ask ⟨0⟩
    (.broken _))))))⟩

/-- A token is rejected after an exchange that broke off, although it has not
expired, was not revoked and no exchange of it has returned a pair. -/
theorem rejected_without_pair :
    ∃ (events : List Event) (ending : Host),
      Run endlessIssuer (.starting ⟨0⟩) events ending ∧
        ending.now.second < sampleClaims.expiresAt ∧
        (∀ event ∈ events, ¬event.Revokes sampleToken sampleClaims) ∧
        (∀ event ∈ events, ¬event.Returns sampleToken) ∧
        ¬Accepts endlessIssuer sampleToken sampleClaims ending := by
  obtain ⟨ending, hnow, hcarries⟩ := carries_endlessIssuer
  have hwell : (Host.starting ⟨0⟩).LedgerWell := Host.ledgerWell_starting ⟨0⟩
  have hahead : ending.now < sampleClaims.deadline := by
    rw [hnow]
    decide
  refine ⟨[⟨.refresh sampleToken, none, ending.now⟩], ending,
    .call hcarries (.start ending), lt_deadline_iff.mp hahead, ?_, ?_, ?_⟩
  · simp [Event.Revokes]
  · simp [Event.Returns]
  · rcases exchanged_of_refresh claimsOf_endlessIssuer hwell hcarries with
      ⟨⟨fault, hfault⟩, -⟩ | ⟨-, hbars⟩
    · cases hfault
    · obtain ⟨expiry, hlive, -⟩ := hbars hahead
      rw [accepts_iff claimsOf_endlessIssuer (hcarries.ledgerWell hwell),
        Host.Free, hlive]
      simp

end CivicRegistry.Token
