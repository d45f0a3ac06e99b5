import CivicRegistry.Proofs.Revocation.Calls

/-!
# Where the key of a token stands

A token is unexpired until the first moment of the second in which it expires.
Its key is free while the ledger holds nothing live of it, and barred when an
entry holds until that moment or longer.  A revocation and a granted claim bar
the key: the span they write is counted in whole seconds from the second of the
clock, so it never ends before the token does.  A barred key stays barred
whatever is asked and however much time passes.
-/

namespace CivicRegistry.Token

open Calendar (Moment Span Instant)
open Service (Procedure Question Reply Host)

/-- The first moment at which the claims have expired. -/
def Claims.deadline (claims : Claims) : Moment :=
  ⟨claims.expiresAt * Instant.nanosPerSecond⟩

theorem lt_deadline_iff {claims : Claims} {now : Moment} :
    now < claims.deadline ↔ now.second < claims.expiresAt := by
  simp only [Moment.lt_iff, Claims.deadline, Moment.second,
    Instant.nanosPerSecond]
  omega

theorem deadline_le_iff {claims : Claims} {now : Moment} :
    claims.deadline ≤ now ↔ claims.expiresAt ≤ now.second := by
  simp only [Moment.le_iff, Claims.deadline, Moment.second,
    Instant.nanosPerSecond]
  omega

theorem le_or_lt (left right : Moment) : left ≤ right ∨ right < left := by
  rw [Moment.le_iff, Moment.lt_iff]
  omega

theorem remaining?_eq_none_iff {claims : Claims} {now : Moment} :
    Issuer.remaining? claims now = none ↔ claims.deadline ≤ now := by
  rw [deadline_le_iff, Issuer.remaining?]
  split <;> simp <;> omega

/-- What is left of a token reaches to its deadline at least. -/
theorem deadline_le_after_remaining {claims : Claims} {now later : Moment}
    {span : Span} (hspan : Issuer.remaining? claims now = some span)
    (hlater : now ≤ later) : claims.deadline ≤ later.after span := by
  rw [Issuer.remaining?] at hspan
  split at hspan
  · obtain rfl := Option.some.inj hspan
    rw [Moment.le_iff] at *
    simp only [Claims.deadline, Moment.nanos_after, Span.ofSeconds,
      Moment.second, Instant.nanosPerSecond] at *
    omega
  · cases hspan

theorem remaining?_nanos_ne_zero {claims : Claims} {now : Moment} {span : Span}
    (hspan : Issuer.remaining? claims now = some span) : span.nanos ≠ 0 := by
  rw [Issuer.remaining?] at hspan
  split at hspan
  · obtain rfl := Option.some.inj hspan
    simp only [Span.ofSeconds]
    omega
  · cases hspan

end CivicRegistry.Token

namespace CivicRegistry.Service.Host

open Calendar (Moment Span)

variable {host middle ending : Host} {key : String} {deadline : Moment}

/-- Nothing is live of the key. -/
def Free (key : String) (host : Host) : Prop :=
  host.live? key = none

/-- Up to the deadline, the key is kept until the deadline or longer. -/
def Bars (key : String) (deadline : Moment) (host : Host) : Prop :=
  host.now < deadline →
    ∃ expiry, host.live? key = some expiry ∧ deadline ≤ expiry

/-- From one host to the other nothing was written under the key: what is live
of it later was live before. -/
def Unwritten (key : String) (host ending : Host) : Prop :=
  ending.live? key = (host.live? key).filter fun expiry => ending.now < expiry

theorem unwritten_of_ledger_eq (hnow : host.now ≤ ending.now)
    (hledger : ending.ledger = host.ledger) : Unwritten key host ending := by
  rw [Unwritten, live?, live?, hledger]
  exact Token.Ledger.live?_later hnow key host.ledger

/-- A barred key under which nothing is written stays barred. -/
theorem Unwritten.bars (hunwritten : Unwritten key host ending)
    (hnow : host.now ≤ ending.now) (hbars : host.Bars key deadline) :
    ending.Bars key deadline := by
  intro hahead
  have hbefore : host.now < deadline := by
    rw [Moment.lt_iff, Moment.le_iff] at *
    omega
  obtain ⟨expiry, hlive, hexpiry⟩ := hbars hbefore
  have hstill : ending.now < expiry := by
    rw [Moment.lt_iff, Moment.le_iff] at *
    omega
  refine ⟨expiry, ?_, hexpiry⟩
  rw [hunwritten, hlive]
  simp [hstill]

theorem Unwritten.trans (hfirst : Unwritten key host middle)
    (hsecond : Unwritten key middle ending) (hnow : middle.now ≤ ending.now) :
    Unwritten key host ending := by
  rw [Unwritten] at *
  rw [hsecond, hfirst, Option.filter_filter]
  congr 1
  funext expiry
  have hahead : ending.now < expiry → middle.now < expiry := by
    simp only [Moment.lt_iff, Moment.le_iff] at *
    omega
  by_cases hexpiry : ending.now < expiry <;> simp [hexpiry, hahead]

theorem Free.later (hfree : host.Free key) (pause : Span) :
    (host.later pause).Free key := by
  rw [Free, live?_later, hfree]
  rfl

theorem Free.answer (hfree : host.Free key) {question : Question}
    (hspares : question.written? ≠ some key) :
    (host.answer question).2.Free key := by
  rw [Free, live?_answer hspares, hfree]

theorem bars_of_le (hpassed : deadline ≤ host.now) :
    host.Bars key deadline := by
  intro hahead
  rw [Moment.le_iff] at hpassed
  rw [Moment.lt_iff] at hahead
  omega

theorem Bars.later (hbars : host.Bars key deadline) (pause : Span) :
    (host.later pause).Bars key deadline :=
  Unwritten.bars (live?_later host pause key)
    (Token.Ledger.le_after host.now pause) hbars

theorem Bars.answer (hbars : host.Bars key deadline) {question : Question}
    (hspares : question.written? ≠ some key) :
    (host.answer question).2.Bars key deadline := by
  intro hahead
  rw [now_answer] at hahead
  rw [live?_answer hspares]
  exact hbars hahead

/-- Revoking a key for long enough bars it, whatever stood there before. -/
theorem LedgerWell.bars_revoke (hwell : host.LedgerWell) {span : Span}
    (hlong : deadline ≤ host.now.after span) :
    (host.answer (.revoke key span)).2.Bars key deadline := by
  intro hahead
  rw [now_answer] at hahead
  have hspan : span.nanos ≠ 0 := by
    rw [Moment.le_iff, Moment.nanos_after] at hlong
    rw [Moment.lt_iff] at hahead
    omega
  refine ⟨host.now.after span, ?_, hlong⟩
  simp [live?, Host.answer, onLedger, hwell.revocations,
    Token.Ledger.live?_revoke, hspan]

theorem LedgerWell.reply_revoke (hwell : host.LedgerWell) (span : Span) :
    (host.answer (.revoke key span)).1 = .answered () := by
  simp [Host.answer, onLedger, hwell.revocations]

theorem LedgerWell.reply_isRevoked (hwell : host.LedgerWell) :
    (host.answer (.isRevoked key)).1 =
      .answered (host.live? key).isSome := by
  simp [Host.answer, hwell.lookups, Condition.reply, live?,
    Token.Ledger.isRevoked_eq_isSome_live?]

/-- A claim is answered by whether nothing was live of the key. -/
theorem LedgerWell.reply_claim (hwell : host.LedgerWell) {span : Span}
    (hspan : span.nanos ≠ 0) :
    (host.answer (.claim key span)).1 =
      .answered (host.live? key).isNone := by
  simp [Host.answer, onLedger, hwell.claims, Token.Ledger.claim_granted,
    hspan, Token.Ledger.isRevoked_eq_isSome_live?, live?]

theorem LedgerWell.live?_claim (hwell : host.LedgerWell) {span : Span}
    (hspan : span.nanos ≠ 0) :
    (host.answer (.claim key span)).2.live? key =
      some ((host.live? key).getD (host.now.after span)) := by
  have hgranted := Token.Ledger.claim_granted host.now key span host.ledger
  rw [Token.Ledger.isRevoked_eq_isSome_live?] at hgranted
  simp only [live?, Host.answer, onLedger, hwell.claims,
    Token.Ledger.live?_claim, hgranted]
  cases host.ledger.live? host.now key <;> simp [hspan]

/-- A claim for long enough leaves the key barred, granted or not. -/
theorem LedgerWell.bars_claim (hwell : host.LedgerWell) {span : Span}
    (hlong : deadline ≤ host.now.after span)
    (hbars : host.Free key ∨ host.Bars key deadline) :
    (host.answer (.claim key span)).2.Bars key deadline := by
  intro hahead
  rw [now_answer] at hahead
  have hspan : span.nanos ≠ 0 := by
    rw [Moment.le_iff, Moment.nanos_after] at hlong
    rw [Moment.lt_iff] at hahead
    omega
  rw [hwell.live?_claim hspan]
  rcases hbars with hfree | hbars
  · rw [Free] at hfree
    exact ⟨host.now.after span, by simp [hfree], hlong⟩
  · obtain ⟨expiry, hlive, hexpiry⟩ := hbars hahead
    exact ⟨expiry, by simp [hlive], hexpiry⟩

end CivicRegistry.Service.Host
