import CivicRegistry.Proofs.Revocation.Interleaving
import CivicRegistry.Proofs.Token.Reading

/-!
# How long entries last

What is left of a token is counted in whole seconds from the second of the
clock, and an entry lasts for so long from the moment at which it is written.
Where both happen in one instant, the entry is over in the second in which the
token expires: not before the token, and less than a second after it.  Calls may
run side by side in any way otherwise.
-/

namespace CivicRegistry.Token

open Calendar (Moment Span Instant)
open Service (Procedure Question Reply Host)

/-! ## Entries that are written -/

namespace Ledger

variable {now expiry : Moment} {key : String} {span : Span} {ledger : Ledger}
  {entry : String × Moment}

theorem mem_entries_sweep (hentry : entry ∈ (ledger.sweep now).entries) :
    entry ∈ ledger.entries :=
  (List.mem_filter.mp hentry).1

theorem mem_entries_insert
    (hentry : entry ∈ (ledger.insert key expiry).entries) :
    entry = (key, expiry) ∨ entry ∈ ledger.entries := by
  rcases List.mem_cons.mp hentry with hnew | hother
  · exact .inl hnew
  · exact .inr ((List.mem_filter.mp hother).1)

theorem mem_entries_revoke
    (hentry : entry ∈ (ledger.revoke now key span).entries) :
    entry = (key, now.after span) ∨ entry ∈ ledger.entries := by
  rw [revoke] at hentry
  split at hentry
  · exact .inr hentry
  · exact (mem_entries_insert hentry).imp_right mem_entries_sweep

theorem mem_entries_revoke_self (hspan : span.nanos ≠ 0) :
    (key, now.after span) ∈ (ledger.revoke now key span).entries := by
  rw [revoke, if_neg hspan]
  exact List.mem_cons_self

theorem mem_entries_claim
    (hentry : entry ∈ (ledger.claim now key span).2.entries) :
    entry = (key, now.after span) ∨ entry ∈ ledger.entries := by
  rw [claim] at hentry
  split at hentry
  · exact .inr hentry
  dsimp only at hentry
  split at hentry
  · exact .inr (mem_entries_sweep hentry)
  · exact (mem_entries_insert hentry).imp_right mem_entries_sweep

end Ledger

end CivicRegistry.Token

namespace CivicRegistry.Service

open Calendar (Moment Span)

/-- The question asks for a key to be kept for a span. -/
inductive Question.AsksToKeep (key : String) (span : Span) : Question → Prop
  where
  | revoke : AsksToKeep key span (.revoke key span)
  | claim : AsksToKeep key span (.claim key span)

theorem Question.AsksToKeep.unique {question : Question} {key other : String}
    {span long : Span} (hasks : question.AsksToKeep key span)
    (hother : question.AsksToKeep other long) : key = other ∧ span = long := by
  cases hasks <;> cases hother <;> exact ⟨rfl, rfl⟩

theorem Question.AsksToKeep.written? {question : Question} {key : String}
    {span : Span} (hasks : question.AsksToKeep key span) :
    question.written? = some key := by
  cases hasks <;> rfl

/-- Whatever is asked, the entries afterwards are those of before and the one
that was asked for. -/
theorem Host.mem_entries_answer {host : Host} {question : Question}
    {entry : String × Moment}
    (hentry : entry ∈ (host.answer question).2.ledger.entries) :
    entry ∈ host.ledger.entries ∨ ∃ key span, question.AsksToKeep key span ∧
      entry = (key, host.now.after span) := by
  cases question with
  | revoke key span =>
    simp only [answer, onLedger] at hentry
    split at hentry
    · exact (Token.Ledger.mem_entries_revoke hentry).symm.imp_right
        fun hnew => ⟨key, span, .revoke, hnew⟩
    all_goals exact .inl hentry
  | claim key span =>
    simp only [answer, onLedger] at hentry
    split at hentry
    · exact (Token.Ledger.mem_entries_claim hentry).symm.imp_right
        fun hnew => ⟨key, span, .claim, hnew⟩
    all_goals exact .inl hentry
  | _ => exact .inl hentry

/-- Keeping a key for long enough bars it, if it was free or barred before. -/
theorem Host.LedgerWell.bars_of_asksToKeep {host : Host} {question : Question}
    {key : String} {span : Span} {deadline : Moment} (hwell : host.LedgerWell)
    (hasks : question.AsksToKeep key span)
    (hlong : deadline ≤ host.now.after span)
    (hbefore : host.Free key ∨ host.Bars key deadline) :
    (host.answer question).2.Bars key deadline := by
  cases hasks with
  | revoke => exact hwell.bars_revoke hlong
  | claim => exact hwell.bars_claim hlong hbefore

namespace Procedure

variable {α : Type}

/-- A key is asked to be written only right after the clock was read, and in a
way that fits the moment which the clock told. -/
def Prompt (fits : Moment → Question → Prop) :
    Option Moment → Procedure α → Prop
  | _, .done _ => True
  | _, .broken => True
  | told, .ask question next =>
    (∀ key, question.written? = some key → ∃ now ∈ told, fits now question) ∧
      ∀ answer, (next answer).Prompt fits (question.told? answer)

/-- A procedure that writes no key is prompt. -/
theorem prompt_of_spares {fits : Moment → Question → Prop}
    {procedure : Procedure α} (hspares : ∀ key, procedure.Spares key)
    (told : Option Moment) : procedure.Prompt fits told := by
  induction procedure generalizing told with
  | done | broken => trivial
  | ask question next ih =>
    refine ⟨fun key hwritten => absurd hwritten (hspares key).1, ?_⟩
    exact fun answer => ih answer (fun key => (hspares key).2 answer) _

end Procedure

end CivicRegistry.Service

namespace CivicRegistry.Token

open Calendar (Moment Span Instant)
open Service (Procedure Question Reply Host)

/-! ## Calls that write in time -/

/-- What is left of a token ends in the second in which the token expires. -/
theorem after_remaining_lt {claims : Claims} {now : Moment} {span : Span}
    (hspan : Issuer.remaining? claims now = some span) :
    now.after span < claims.deadline.after (.ofSeconds 1) := by
  rw [Issuer.remaining?] at hspan
  split at hspan
  · obtain rfl := Option.some.inj hspan
    rw [Moment.lt_iff]
    simp only [Claims.deadline, Moment.nanos_after, Span.ofSeconds,
      Moment.second, Instant.nanosPerSecond] at *
    omega
  · cases hspan

/-- The question asks for the key of the token of a call to be kept for what is
left of the token at the moment. -/
def Call.Fits (issuer : Issuer) (call : Call) (now : Moment)
    (question : Question) : Prop :=
  ∃ token claims span, call.written? = some token ∧
    issuer.claimsOf token = .ok claims ∧
    Issuer.remaining? claims now = some span ∧
    question.AsksToKeep (ledgerKey token) span

namespace Issuer

variable (issuer : Issuer) {token : String}

theorem revoke_prompt (told : Option Moment) :
    (issuer.revoke token).run.Prompt ((Call.revoke token).Fits issuer)
      told := by
  cases hclaims : issuer.claimsOf token with
  | error fault =>
    rw [revoke, hclaims]
    trivial
  | ok claims =>
    rw [run_revoke hclaims]
    refine ⟨by rintro key ⟨⟩, fun now => ?_⟩
    dsimp only
    cases hspan : remaining? claims now with
    | none => trivial
    | some span =>
      refine ⟨fun key _ => ⟨now, rfl, ?_⟩, fun reply => trivial⟩
      exact ⟨token, claims, span, rfl, hclaims, hspan, .revoke⟩

theorem exchange_prompt {claims : Claims}
    (hclaims : issuer.claimsOf token = .ok claims) (told : Option Moment) :
    (issuer.exchange token claims).Prompt ((Call.refresh token).Fits issuer)
      told := by
  refine ⟨by rintro key ⟨⟩, fun now => ?_⟩
  dsimp only
  cases hspan : remaining? claims now with
  | none => trivial
  | some span =>
    refine ⟨fun key _ => ⟨now, rfl, ?_⟩, fun reply => ?_⟩
    · exact ⟨token, claims, span, rfl, hclaims, hspan, .claim⟩
    dsimp only
    split
    · trivial
    · trivial
    · apply Procedure.prompt_of_spares
      intro key
      exact (issuer.issuePair_spares _ _).bind fun pair => trivial

theorem refresh_prompt (told : Option Moment) :
    (issuer.refresh token).run.Prompt ((Call.refresh token).Fits issuer)
      told := by
  cases hclaims : issuer.claimsOf token with
  | error fault =>
    rw [refresh, verify, hclaims]
    trivial
  | ok claims =>
    rw [run_refresh hclaims]
    refine ⟨by rintro key ⟨⟩, fun now => ?_⟩
    dsimp only
    split
    · trivial
    split
    · trivial
    refine ⟨by rintro key ⟨⟩, fun reply => ?_⟩
    dsimp only
    split
    · trivial
    · trivial
    · exact issuer.exchange_prompt hclaims _

/-- Nothing is done about a token that has expired or is none. -/
theorem carryOut_revoke_of_expired {host : Host}
    (hexpired : ∀ claims, issuer.claimsOf token = .ok claims →
      claims.expiresAt ≤ host.now.second) :
    Host.carryOut (issuer.revoke token).run host = (some (.ok ()), host) := by
  cases hclaims : issuer.claimsOf token with
  | error fault =>
    rw [revoke, hclaims]
    rfl
  | ok claims =>
    have hspan : remaining? claims host.now = none := by
      rw [remaining?_eq_none_iff, deadline_le_iff]
      exact hexpired claims hclaims
    rw [run_revoke hclaims, Host.carryOut_moment, hspan]
    rfl

end Issuer

theorem Call.procedure_prompt (issuer : Issuer) (call : Call)
    (told : Option Moment) :
    (call.procedure issuer).Prompt (call.Fits issuer) told := by
  cases call with
  | revoke token => exact issuer.revoke_prompt told
  | refresh token => exact issuer.refresh_prompt told
  | _ =>
    apply Procedure.prompt_of_spares
    exact fun key => Call.procedure_spares issuer _ nofun

/-! ## Sessions -/

/-- A call under way: what is left of it, and the moment that it was told, if
the clock is what it asked for last. -/
structure Progress where
  call : Call
  told : Option Moment
  rest : Procedure call.Answer

/-- A host, the calls that were started on it, and what they have asked. -/
structure Session where
  host : Host
  calls : List Progress
  asked : List Question

namespace Session

/-- The sessions that an issuer can come to.  Time passes, calls are started and
questions are answered in any order, but a key is written only in the instant
that its call was told. -/
inductive Reached (issuer : Issuer) (start : Moment) : Session → Prop where
  | start : Reached issuer start ⟨.starting start, [], []⟩
  | wait {session : Session} (pause : Span)
      (hbefore : Reached issuer start session) :
      Reached issuer start
        ⟨session.host.later pause, session.calls, session.asked⟩
  | call {session : Session} (call : Call)
      (hbefore : Reached issuer start session) :
      Reached issuer start
        ⟨session.host, session.calls ++ [⟨call, none, call.procedure issuer⟩],
          session.asked⟩
  | ask {host : Host} {before after : List Progress} {asked : List Question}
      {call : Call} {told : Option Moment} {question : Question}
      {next : question.Answer → Procedure call.Answer}
      (hbefore : Reached issuer start
        ⟨host, before ++ ⟨call, told, .ask question next⟩ :: after, asked⟩)
      (hinstant : ∀ key, question.written? = some key → told = some host.now) :
      Reached issuer start
        ⟨(host.answer question).2,
          before ++ ⟨call, question.told? (host.answer question).1,
            next (host.answer question).1⟩ :: after,
          asked ++ [question]⟩

variable {issuer : Issuer} {start : Moment} {session : Session}

theorem Reached.ledgerWell (hreached : Reached issuer start session) :
    session.host.LedgerWell := by
  induction hreached with
  | start => exact Host.ledgerWell_starting start
  | wait pause _ ih => exact ih.later pause
  | call call _ ih => exact ih
  | ask _ _ ih => exact ih.answer _

/-- Every call is prompt in what is left of it. -/
theorem Reached.prompt (hreached : Reached issuer start session) :
    ∀ progress ∈ session.calls,
      progress.rest.Prompt (progress.call.Fits issuer) progress.told := by
  induction hreached with
  | start => exact nofun
  | wait pause _ ih => exact ih
  | call call _ ih =>
    intro progress hprogress
    rcases List.mem_append.mp hprogress with hold | hnew
    · exact ih progress hold
    · obtain rfl := List.mem_singleton.mp hnew
      exact call.procedure_prompt issuer none
  | @ask host before after asked call told question next _ _ ih =>
    intro progress hprogress
    have hasking : ∀ progress ∈ before ++ ⟨call, told, .ask question next⟩ ::
        after, progress.rest.Prompt (progress.call.Fits issuer) progress.told :=
      ih
    rw [List.forall_mem_append, List.forall_mem_cons] at hasking
    obtain ⟨hothers, ⟨-, hnext⟩, hlater⟩ := hasking
    rcases List.mem_append.mp hprogress with hother | hprogress
    · exact hothers progress hother
    rcases List.mem_cons.mp hprogress with rfl | hother
    · exact hnext _
    · exact hlater progress hother

/-- The entry is one for a token of a call: it is kept until a moment of the
second in which the token expires. -/
def KeptFor (issuer : Issuer) (calls : List Progress)
    (entry : String × Moment) : Prop :=
  ∃ token claims, (∃ progress ∈ calls, progress.call.written? = some token) ∧
    issuer.claimsOf token = .ok claims ∧ entry.1 = ledgerKey token ∧
    claims.deadline ≤ entry.2 ∧ entry.2 < claims.deadline.after (.ofSeconds 1)

/-- A question that writes a key is answered in the instant for which its span
was computed. -/
theorem Reached.fits {host : Host} {before after : List Progress}
    {asked : List Question} {call : Call} {told : Option Moment}
    {question : Question} {next : question.Answer → Procedure call.Answer}
    (hreached : Reached issuer start
      ⟨host, before ++ ⟨call, told, .ask question next⟩ :: after, asked⟩)
    (hinstant : ∀ key, question.written? = some key → told = some host.now)
    {key : String} (hwritten : question.written? = some key) :
    call.Fits issuer host.now question := by
  have hprompt := hreached.prompt ⟨call, told, .ask question next⟩
    (List.mem_append_right before List.mem_cons_self)
  obtain ⟨now, htold, hfits⟩ := hprompt.1 key hwritten
  rw [hinstant key hwritten] at htold
  obtain rfl := Option.some.inj htold
  exact hfits

theorem KeptFor.mono {calls more : List Progress} {entry : String × Moment}
    (hkept : KeptFor issuer calls entry)
    (hmore : ∀ progress ∈ calls, ∃ other ∈ more, other.call = progress.call) :
    KeptFor issuer more entry := by
  obtain ⟨token, claims, ⟨progress, hprogress, htoken⟩, hclaims⟩ := hkept
  obtain ⟨other, hother, hcall⟩ := hmore progress hprogress
  exact ⟨token, claims, ⟨other, hother, hcall ▸ htoken⟩, hclaims⟩

/-- A step of one call leaves all calls there. -/
theorem calls_answered {before after : List Progress} {call : Call}
    {told again : Option Moment} {rest left : Procedure call.Answer} :
    ∀ progress ∈ before ++ ⟨call, told, rest⟩ :: after,
      ∃ other ∈ before ++ ⟨call, again, left⟩ :: after,
        other.call = progress.call := by
  simp only [List.forall_mem_append, List.forall_mem_cons]
  refine ⟨?_, ?_, ?_⟩
  · exact fun progress hbefore =>
      ⟨progress, List.mem_append_left _ hbefore, rfl⟩
  · exact ⟨⟨call, again, left⟩, by simp, rfl⟩
  · exact fun progress hafter => ⟨progress, by simp [hafter], rfl⟩

theorem Reached.entries (hreached : Reached issuer start session) :
    ∀ entry ∈ session.host.ledger.entries,
      KeptFor issuer session.calls entry := by
  induction hreached with
  | start => exact nofun
  | wait pause _ ih => exact ih
  | call call _ ih =>
    intro entry hentry
    apply (ih entry hentry).mono
    exact fun progress hprogress =>
      ⟨progress, List.mem_append_left _ hprogress, rfl⟩
  | @ask host before after asked call told question next hbefore hinstant ih =>
    intro entry hentry
    obtain hold | ⟨key, span, hasks, rfl⟩ := Host.mem_entries_answer hentry
    · exact (ih entry hold).mono calls_answered
    obtain ⟨token, claims, left, htoken, hclaims, hleft, hkeeps⟩ :=
      hbefore.fits hinstant hasks.written?
    obtain ⟨rfl, rfl⟩ := hasks.unique hkeeps
    have hcall : ∃ progress ∈ before ++ ⟨call, question.told?
        (host.answer question).1, next (host.answer question).1⟩ :: after,
          progress.call.written? = some token :=
      ⟨_, List.mem_append_right before List.mem_cons_self, htoken⟩
    refine ⟨token, claims, hcall, hclaims, rfl, ?_, after_remaining_lt hleft⟩
    exact deadline_le_after_remaining hleft (Int.le_refl _)

/-- How the key of a token stands: free until somebody asks for it to be
written, and barred from then on. -/
structure Stands (token : String) (claims : Claims) (session : Session) :
    Prop where
  free : (∀ question ∈ session.asked,
    question.written? ≠ some (ledgerKey token)) →
      session.host.Free (ledgerKey token)
  bars : (∃ question ∈ session.asked,
    question.written? = some (ledgerKey token)) →
      session.host.Bars (ledgerKey token) claims.deadline

/-- No other token that a call is about has the key of the token. -/
def Distinct (token : String) (calls : List Progress) : Prop :=
  ∀ progress ∈ calls, ∀ other, progress.call.written? = some other →
    ledgerKey other = ledgerKey token → other = token

theorem Distinct.of_more {token : String} {calls more : List Progress}
    (hdistinct : Distinct token more)
    (hmore : ∀ progress ∈ calls, ∃ other ∈ more, other.call = progress.call) :
    Distinct token calls := by
  intro progress hprogress
  obtain ⟨other, hother, hcall⟩ := hmore progress hprogress
  rw [← hcall]
  exact hdistinct other hother

theorem Reached.stands {token : String} {claims : Claims}
    (hclaims : issuer.claimsOf token = .ok claims)
    (hreached : Reached issuer start session)
    (hdistinct : Distinct token session.calls) :
    Stands token claims session := by
  induction hreached with
  | start => exact ⟨fun _ => rfl, nofun⟩
  | wait pause _ ih =>
    have hstands := ih hdistinct
    exact ⟨fun hnone => (hstands.free hnone).later pause,
      fun hsome => (hstands.bars hsome).later pause⟩
  | call call _ ih =>
    have hstands := ih (hdistinct.of_more fun progress hprogress =>
      ⟨progress, List.mem_append_left _ hprogress, rfl⟩)
    exact ⟨hstands.free, hstands.bars⟩
  | @ask host before after asked call told question next hbefore hinstant ih =>
    have hstands := ih (hdistinct.of_more calls_answered)
    by_cases hwritten : question.written? = some (ledgerKey token)
    · -- The question is about this token, so what is left of it is asked for.
      obtain ⟨other, found, span, hother, hfound, hleft, hkeeps⟩ :=
        hbefore.fits hinstant hwritten
      have hkey : ledgerKey other = ledgerKey token :=
        Option.some.inj (hkeeps.written?.symm.trans hwritten)
      obtain rfl : other = token :=
        hdistinct _ (List.mem_append_right before List.mem_cons_self) other
          hother hkey
      obtain rfl : found = claims :=
        Except.ok.inj (hfound.symm.trans hclaims)
      have hstood : host.Free (ledgerKey other) ∨
          host.Bars (ledgerKey other) found.deadline := by
        by_cases hsome : ∃ question ∈ asked,
            question.written? = some (ledgerKey other)
        · exact .inr (hstands.bars hsome)
        · exact .inl (hstands.free (by simpa using hsome))
      refine ⟨fun hnone => ?_, fun _ => ?_⟩
      · exact absurd hwritten (hnone question (by simp))
      · exact hbefore.ledgerWell.bars_of_asksToKeep hkeeps
          (deadline_le_after_remaining hleft (Int.le_refl _)) hstood
    · refine ⟨fun hnone => ?_, fun hsome => ?_⟩
      · refine (hstands.free ?_).answer hwritten
        exact fun question hquestion =>
          hnone question (List.mem_append_left _ hquestion)
      · refine (hstands.bars ?_).answer hwritten
        obtain ⟨writing, hwriting, hkey⟩ := hsome
        rcases List.mem_append.mp hwriting with hold | hnew
        · exact ⟨writing, hold, hkey⟩
        · obtain rfl := List.mem_singleton.mp hnew
          exact absurd hkey hwritten

/-- Every entry is kept until a moment of the second in which the token that it
was written for expires.  Once the key of a token was asked to be written, it
counts as revoked for as long as the token is unexpired.  Revoking a token that
has expired or is none changes nothing. -/
theorem entries_last_as_tokens (hreached : Reached issuer start session) :
    (∀ entry ∈ session.host.ledger.entries,
      KeptFor issuer session.calls entry) ∧
    (∀ token claims, issuer.claimsOf token = .ok claims →
      Distinct token session.calls →
      (∃ question ∈ session.asked,
        question.written? = some (ledgerKey token)) →
      session.host.now.second < claims.expiresAt →
        session.host.ledger.isRevoked session.host.now (ledgerKey token) =
          true) ∧
    ∀ token host, (∀ claims, issuer.claimsOf token = .ok claims →
      claims.expiresAt ≤ host.now.second) →
        Host.carryOut (issuer.revoke token).run host =
          (some (.ok ()), host) := by
  refine ⟨hreached.entries, ?_, ?_⟩
  · intro token claims hclaims hdistinct hwritten hahead
    have hstands := hreached.stands hclaims hdistinct
    obtain ⟨expiry, hlive, -⟩ :=
      hstands.bars hwritten (lt_deadline_iff.mpr hahead)
    rw [Ledger.isRevoked_eq_isSome_live?]
    exact Option.isSome_of_mem hlive
  · exact fun token host hexpired => issuer.carryOut_revoke_of_expired hexpired

/-- A revocation that is begun and over in one instant. -/
theorem Reached.revoke {token : String} {claims : Claims} {span : Span}
    (hreached : Reached issuer start session)
    (hclaims : issuer.claimsOf token = .ok claims)
    (hspan : Issuer.remaining? claims session.host.now = some span) :
    Reached issuer start
      ⟨(session.host.answer (.revoke (ledgerKey token) span)).2,
        session.calls ++ [⟨.revoke token, none, .done (.ok ())⟩],
        session.asked ++ [.moment] ++ [.revoke (ledgerKey token) span]⟩ := by
  have hstarted := hreached.call (.revoke token)
  rw [Call.procedure, Issuer.run_revoke hclaims] at hstarted
  have hread := hstarted.ask nofun
  simp only [Host.answer, hspan] at hread
  have hwritten := hread.ask fun key hkey => rfl
  rw [hreached.ledgerWell.reply_revoke] at hwritten
  exact hwritten

/-- The sample token was revoked after a second and a half, and again three
quarters of a second later. -/
def sample : Session :=
  let revoke (span : Span) (host : Host) : Host :=
    (host.answer (.revoke (ledgerKey sampleToken) span)).2
  let revoked : Progress := ⟨.revoke sampleToken, none, .done (.ok ())⟩
  let once := revoke (.ofSeconds 99) ((Host.starting ⟨0⟩).later ⟨1500000000⟩)
  ⟨revoke (.ofSeconds 98) (once.later ⟨750000000⟩), [revoked, revoked],
    [.moment, .revoke (ledgerKey sampleToken) (.ofSeconds 99), .moment,
      .revoke (ledgerKey sampleToken) (.ofSeconds 98)]⟩

theorem reached_sample : Reached sampleIssuer ⟨0⟩ sample := by
  have hstart : Reached sampleIssuer ⟨0⟩ _ := .start
  have hwaited := hstart.wait ⟨1500000000⟩
  have honce := (hwaited.revoke claimsOf_sampleToken rfl).wait ⟨750000000⟩
  have hspan : Issuer.remaining? sampleClaims ⟨2250000000⟩ =
      some (.ofSeconds 98) := rfl
  refine honce.revoke claimsOf_sampleToken (Eq.trans ?_ hspan)
  rw [Host.now_later, Host.now_answer]
  rfl

theorem now_sample : sample.host.now = ⟨2250000000⟩ := by
  simp only [sample, Host.now_answer, Host.now_later]
  rfl

theorem mem_entries_sample :
    (ledgerKey sampleToken, ⟨100250000000⟩) ∈ sample.host.ledger.entries :=
  @Ledger.mem_entries_revoke_self ⟨2250000000⟩ _ _ _ (by decide)

/-- The entry of the second revocation ends a quarter of a second after the
token. -/
theorem entries_last_as_tokens_sample :
    (ledgerKey sampleToken, ⟨100250000000⟩) ∈ sample.host.ledger.entries ∧
      KeptFor sampleIssuer sample.calls
        (ledgerKey sampleToken, ⟨100250000000⟩) ∧
      sample.host.ledger.isRevoked sample.host.now (ledgerKey sampleToken) =
        true ∧
      Host.carryOut (sampleIssuer.revoke sampleToken).run
          (sample.host.later (.ofSeconds 98)) =
        (some (.ok ()), sample.host.later (.ofSeconds 98)) := by
  obtain ⟨hentries, hrevoked, hunchanged⟩ :=
    entries_last_as_tokens reached_sample
  refine ⟨mem_entries_sample, hentries _ mem_entries_sample, ?_, ?_⟩
  · apply hrevoked sampleToken sampleClaims claimsOf_sampleToken
    · simp [Distinct, sample, Call.written?]
    · exact ⟨.revoke (ledgerKey sampleToken) (.ofSeconds 98), by simp [sample],
        rfl⟩
    · rw [now_sample]
      decide
  · apply hunchanged
    intro claims hclaims
    obtain rfl := Except.ok.inj (claimsOf_sampleToken.symm.trans hclaims)
    rw [Host.now_later, now_sample]
    decide

end Session

end CivicRegistry.Token
