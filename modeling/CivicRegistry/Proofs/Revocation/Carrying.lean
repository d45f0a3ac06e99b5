import CivicRegistry.Proofs.Revocation.Intervals

/-!
# Calls carried out while the clock runs

A host carries out a procedure question by question, and any amount of time may
pass before each.  A procedure that spares a key leaves it free if it was free
and barred if it was barred.  A revocation always leaves the key of its token
barred; an exchange leaves it barred unless it comes to a fault, and then it
leaves it as it was.
-/

namespace CivicRegistry.Service

open Calendar (Moment Span)

/-- Only time passes during the interval: the parts of the host stay in the
conditions they are in. -/
def Interval.OnlyPasses (host : Host) (interval : Interval) : Prop :=
  host.across interval = host.later interval.pause

/-- How a host carries out a procedure while its clock runs: between two
questions any time may pass and nothing else happens. -/
abbrev Carries {α : Type} : Host → Procedure α → Option α → Host → Prop :=
  Carried Interval.OnlyPasses

namespace Carries

variable {α β : Type} {host ending : Host} {outcome : Option α}

theorem ask {question : Question} {next : question.Answer → Procedure α}
    (pause : Span)
    (hrest : Carries ((host.later pause).answer question).2
      (next ((host.later pause).answer question).1) outcome ending) :
    Carries host (.ask question next) outcome ending :=
  Carried.ask ⟨pause, host.lookups, host.revocations, host.claims,
    host.stores⟩ rfl hrest

theorem of_ask {question : Question} {next : question.Answer → Procedure α}
    (hcarries : Carries host (.ask question next) outcome ending) :
    ∃ pause, Carries ((host.later pause).answer question).2
      (next ((host.later pause).answer question).1) outcome ending := by
  obtain ⟨interval, hpasses, hrest⟩ := hcarries.exists_interval
  rw [hpasses] at hrest
  exact ⟨interval.pause, hrest⟩

theorem of_moment {next : Moment → Procedure α}
    (hcarries : Carries host (.ask .moment next) outcome ending) :
    ∃ pause, Carries (host.later pause) (next (host.now.after pause)) outcome
      ending :=
  of_ask hcarries

/-- What a procedure followed by a last step comes to is what that step makes
of its value. -/
theorem of_bind_done {procedure : Procedure β} {finish : β → α}
    (hcarries : Carries host (procedure.bind fun value => .done (finish value))
      outcome ending) :
    outcome = none ∨ ∃ value, outcome = some (finish value) := by
  rcases hcarries.of_bind with ⟨hnone, -⟩ | ⟨value, middle, -, hdone⟩
  · exact .inl hnone
  · exact .inr ⟨value, hdone.of_done.1⟩

theorem ledgerWell {procedure : Procedure α} (hwell : host.LedgerWell)
    (hcarries : Carries host procedure outcome ending) : ending.LedgerWell := by
  induction hcarries with
  | done | broken => exact hwell
  | @ask host _ question _ _ interval hpasses _ ih =>
    apply ih
    rw [hpasses]
    exact (hwell.later interval.pause).answer question

end Carries

end CivicRegistry.Service

namespace CivicRegistry.Token

open Calendar (Moment Span)
open Service (Procedure Question Host Carries)

/-! ## Revocation and exchange carried out -/

section Outcomes

variable {issuer : Issuer} {token : String} {claims : Claims}
  {host ending : Host}

/-- A revocation always succeeds, and then the key is barred. -/
theorem bars_of_revoke {outcome : Option (Except Fault Unit)}
    (hclaims : issuer.claimsOf token = .ok claims) (hwell : host.LedgerWell)
    (hcarries : Carries host (issuer.revoke token).run outcome ending) :
    outcome = some (.ok ()) ∧
      ending.Bars (ledgerKey token) claims.deadline := by
  rw [Issuer.run_revoke hclaims] at hcarries
  obtain ⟨wait, hread⟩ := Carries.of_moment hcarries
  have hwell := hwell.later wait
  cases hspan : Issuer.remaining? claims (host.now.after wait) with
  | none =>
    simp only [hspan] at hread
    obtain ⟨rfl, rfl⟩ := hread.of_done
    exact ⟨rfl, Host.bars_of_le (remaining?_eq_none_iff.mp hspan)⟩
  | some span =>
    simp only [hspan] at hread
    obtain ⟨pause, hwritten⟩ := hread.of_ask
    have hwell := hwell.later pause
    rw [hwell.reply_revoke] at hwritten
    obtain ⟨rfl, rfl⟩ := hwritten.of_done
    have hlong := deadline_le_after_remaining hspan
      (Ledger.le_after (host.now.after wait) pause)
    exact ⟨rfl, hwell.bars_revoke hlong⟩

/-- What an exchange leaves of the key of the token: as it was if the exchange
comes to a fault, and barred if it does not. -/
def Exchanged (key : String) (deadline : Moment) (host ending : Host)
    (outcome : Option (Except Fault Pair)) : Prop :=
  ((∃ fault, outcome = some (.error fault)) ∧
      Host.Keeps key deadline host ending) ∨
    ((∀ fault, outcome ≠ some (.error fault)) ∧ ending.Bars key deadline)

theorem exchanged_of_exchange {outcome : Option (Except Fault Pair)}
    (hwell : host.LedgerWell)
    (hcarries : Carries host (Issuer.exchange issuer token claims) outcome
      ending) :
    Exchanged (ledgerKey token) claims.deadline host ending outcome := by
  obtain ⟨wait, hread⟩ := Carries.of_moment hcarries
  have hwell := hwell.later wait
  have hwaited : Host.Keeps (ledgerKey token) claims.deadline host
      (host.later wait) := Host.keeps_later wait
  cases hspan : Issuer.remaining? claims (host.now.after wait) with
  | none =>
    simp only [hspan] at hread
    obtain ⟨rfl, rfl⟩ := hread.of_done
    exact .inl ⟨⟨_, rfl⟩, hwaited⟩
  | some span =>
    simp only [hspan] at hread
    obtain ⟨pause, hwritten⟩ := hread.of_ask
    have hwell := hwell.later pause
    have hpaused := hwaited.trans (Host.keeps_later pause)
    have hlong := deadline_le_after_remaining hspan
      (Ledger.le_after (host.now.after wait) pause)
    have hne := remaining?_nanos_ne_zero hspan
    rw [hwell.reply_claim hne] at hwritten
    cases hlive : ((host.later wait).later pause).live? (ledgerKey token) with
    | none =>
      simp only [hlive] at hwritten
      have hbars := hwell.bars_claim hlong (.inl hlive)
      refine .inr ⟨?_, ?_⟩
      · rcases Carries.of_bind_done hwritten with rfl | ⟨pair, rfl⟩ <;> simp
      · refine (hwritten.keeps ?_).bars hbars
        exact (issuer.issuePair_spares _ _).bind fun _ => trivial
    | some expiry =>
      simp only [hlive] at hwritten
      obtain ⟨rfl, rfl⟩ := hwritten.of_done
      refine .inl ⟨⟨_, rfl⟩, fun hfree => ?_, fun hbars => ?_⟩
      · have hnone := hpaused.free hfree
        rw [Host.Free, hlive] at hnone
        cases hnone
      · exact hwell.bars_claim hlong (.inr (hpaused.bars hbars))

theorem exchanged_of_refresh {outcome : Option (Except Fault Pair)}
    (hclaims : issuer.claimsOf token = .ok claims) (hwell : host.LedgerWell)
    (hcarries : Carries host (issuer.refresh token).run outcome ending) :
    Exchanged (ledgerKey token) claims.deadline host ending outcome := by
  rw [Issuer.run_refresh hclaims] at hcarries
  obtain ⟨wait, hread⟩ := Carries.of_moment hcarries
  have hwell := hwell.later wait
  have hwaited : Host.Keeps (ledgerKey token) claims.deadline host
      (host.later wait) := Host.keeps_later wait
  by_cases hexpired : claims.expiresAt ≤ (host.now.after wait).second
  · rw [if_pos hexpired] at hread
    obtain ⟨rfl, rfl⟩ := hread.of_done
    exact .inl ⟨⟨_, rfl⟩, hwaited⟩
  rw [if_neg hexpired] at hread
  by_cases hpurpose : claims.purpose ≠ .refresh
  · rw [if_pos hpurpose] at hread
    obtain ⟨rfl, rfl⟩ := hread.of_done
    exact .inl ⟨⟨_, rfl⟩, hwaited⟩
  rw [if_neg hpurpose] at hread
  obtain ⟨pause, hlooked⟩ := hread.of_ask
  have hwell := hwell.later pause
  have hpaused := hwaited.trans (Host.keeps_later pause)
  rw [hwell.reply_isRevoked] at hlooked
  cases hlive : ((host.later wait).later pause).live? (ledgerKey token) with
  | some expiry =>
    simp only [hlive] at hlooked
    obtain ⟨rfl, rfl⟩ := hlooked.of_done
    exact .inl ⟨⟨_, rfl⟩, hpaused⟩
  | none =>
    simp only [hlive] at hlooked
    rcases exchanged_of_exchange hwell hlooked with ⟨hfault, hkeeps⟩ | hbars
    · exact .inl ⟨hfault, hpaused.trans hkeeps⟩
    · exact .inr hbars

end Outcomes

end CivicRegistry.Token
