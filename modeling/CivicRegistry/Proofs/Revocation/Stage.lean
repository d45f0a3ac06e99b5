import CivicRegistry.Proofs.Revocation.Interleaving

/-!
# How far a call has come with a token

What may be left of a call that revokes or exchanges a token is listed stage by
stage, and a step leads from one stage to the next.  Every other call spares
the key of the token.  A step either lets the key alone or asks for it to be
written, and then the key is barred: a claim finds it free and wins, or finds
it barred and is refused.
-/

namespace CivicRegistry.Token

open Calendar (Moment Span)
open Service (Procedure Question Reply Host)

/-- Some lifetime that starts at the moment leaves the calendar. -/
def Issuer.LeavesCalendar (issuer : Issuer) (now : Moment) : Prop :=
  issuer.accessLifetime.expiry? now = none ∨
    issuer.refreshLifetime.expiry? now = none

namespace Issuer

variable (issuer : Issuer)

theorem issue_leads (subject : Subject) (purpose : Purpose)
    (lifetime : Lifetime) {excuse : Moment → Prop} {excused : Prop}
    (hexcuse : ∀ now, lifetime.expiry? now = none → excuse now) :
    (issuer.issue subject purpose lifetime).Leads (fun _ => True) excuse
      excused := by
  intro now identifier
  dsimp only [Procedure.bind]
  cases hexpiry : lifetime.expiry? now with
  | some second => trivial
  | none => exact .inl (.inr ⟨now, rfl, hexcuse now hexpiry⟩)

/-- The issue of a pair breaks off only where a lifetime leaves the
calendar. -/
theorem issuePair_leads (subject : Subject) (excused : Prop) :
    (issuer.issuePair subject).Leads (fun _ => True) issuer.LeavesCalendar
      excused := by
  have haccess : ∀ now, issuer.accessLifetime.expiry? now = none →
      issuer.LeavesCalendar now := fun _ => .inl
  have hrefresh : ∀ now, issuer.refreshLifetime.expiry? now = none →
      issuer.LeavesCalendar now := fun _ => .inr
  apply (issuer.issue_leads subject .access _ haccess).bind
  intro access _ more _
  exact (issuer.issue_leads subject .refresh _ hrefresh).bind
    fun _ _ _ _ => trivial

/-- An exchange breaks off only where a lifetime leaves the calendar. -/
theorem refresh_leads {token : String} {claims : Claims}
    (hclaims : issuer.claimsOf token = .ok claims) (excused : Prop) :
    (issuer.refresh token).run.Leads (fun _ => True) issuer.LeavesCalendar
      excused := by
  rw [run_refresh hclaims]
  intro now
  dsimp only
  split
  · trivial
  split
  · trivial
  intro reply
  dsimp only
  split
  · trivial
  · trivial
  intro now
  dsimp only
  split
  · trivial
  intro reply
  dsimp only
  split
  · trivial
  · trivial
  · exact (issuer.issuePair_leads claims.subject _).bind
      fun _ _ _ _ => trivial

theorem issue_within (subject : Subject) (purpose : Purpose)
    (lifetime : Lifetime) :
    (issuer.issue subject purpose lifetime).Within 2 := by
  intro now identifier
  dsimp only [Procedure.bind]
  split <;> trivial

theorem issuePair_within (subject : Subject) :
    (issuer.issuePair subject).Within (2 + (2 + 0)) := by
  apply (issuer.issue_within subject .access _).bind
  intro access
  exact (issuer.issue_within subject .refresh _).bind fun refresh => trivial

theorem refresh_within {token : String} {claims : Claims}
    (hclaims : issuer.claimsOf token = .ok claims) :
    (issuer.refresh token).run.Within 8 := by
  rw [run_refresh hclaims]
  intro now
  dsimp only
  split
  · trivial
  split
  · trivial
  intro reply
  dsimp only
  split
  · trivial
  · trivial
  intro now
  dsimp only
  split
  · trivial
  intro reply
  dsimp only
  split
  · trivial
  · trivial
  · have hpair := issuer.issuePair_within claims.subject
    exact @Procedure.Within.bind _ _ 4 0 _ _ hpair fun pair => trivial

end Issuer

section Stages

variable (issuer : Issuer) (token : String) (claims : Claims)

/-- What may be left of a revocation of the token. -/
inductive RevokeStage (now : Moment) : Procedure (Except Fault Unit) → Prop
  where
  | start : RevokeStage now (issuer.revoke token).run
  | writing (span : Span) (hlong : claims.deadline ≤ now.after span) :
      RevokeStage now (.ask (.revoke (ledgerKey token) span) fun reply =>
        .done ((reply.result .timedOut).mapError .ledger))
  | ended : RevokeStage now (.done (.ok ()))

/-- What may be left of an exchange of the token that has not won. -/
inductive RefreshStage : Procedure (Except Fault Pair) → Prop where
  | start : RefreshStage (issuer.refresh token).run
  | looking : RefreshStage
      (.ask (.isRevoked (ledgerKey token)) fun reply =>
        match reply.result .timedOut with
        | .error fault => .done (.error (.ledger fault))
        | .ok true => .done (.error .revoked)
        | .ok false => issuer.exchange token claims)
  | claiming : RefreshStage (issuer.exchange token claims)
  | revoked : RefreshStage (.done (.error .revoked))
  | expired : RefreshStage (.done (.error .expired))

/-- What may be left of an exchange of the token that has won. -/
structure Winning (start now : Moment)
    (rest : Procedure (Except Fault Pair)) : Prop where
  spares : rest.Spares (ledgerKey token)
  leads : rest.Leads (fun result => ∃ pair, result = .ok pair)
    issuer.LeavesCalendar
    (∃ moment, start ≤ moment ∧ moment ≤ now ∧ issuer.LeavesCalendar moment)

/-- How far a call has come, depending on whether it has won the token. -/
inductive Staged (start now : Moment) (won : Prop) : Running → Prop where
  | other {call : Call} {rest : Procedure call.Answer}
      (hother : call.written? ≠ some token)
      (hspares : rest.Spares (ledgerKey token)) :
      Staged start now won ⟨call, rest⟩
  | revoking {rest : Procedure (Except Fault Unit)}
      (hstage : RevokeStage issuer token claims now rest) :
      Staged start now won ⟨.revoke token, rest⟩
  | refreshing {rest : Procedure (Except Fault Pair)} (hlost : ¬won)
      (hstage : RefreshStage issuer token claims rest) :
      Staged start now won ⟨.refresh token, rest⟩
  | winning {rest : Procedure (Except Fault Pair)} (hwon : won)
      (hrest : Winning issuer token start now rest) :
      Staged start now won ⟨.refresh token, rest⟩

end Stages

section Steps

variable {issuer : Issuer} {token : String} {claims : Claims}
  {start now later : Moment} {won : Prop} {running : Running} {host : Host}

theorem Staged.mono (hstaged : Staged issuer token claims start now won running)
    (hlater : now ≤ later) :
    Staged issuer token claims start later won running := by
  cases hstaged with
  | other hother hspares => exact .other hother hspares
  | revoking hstage =>
    cases hstage with
    | start => exact .revoking .start
    | ended => exact .revoking .ended
    | writing span hlong =>
      have hlonger : claims.deadline ≤ later.after span := by
        rw [Moment.le_iff, Moment.nanos_after] at *
        omega
      exact .revoking (.writing span hlonger)
  | refreshing hlost hstage => exact .refreshing hlost hstage
  | winning hwon hrest =>
    apply Staged.winning hwon
    apply Winning.mk hrest.spares
    apply hrest.leads.mono
    rintro ⟨moment, hstart, hmoment, hleaves⟩
    exact ⟨moment, hstart, Int.le_trans hmoment hlater, hleaves⟩

theorem Staged.congr {won' : Prop}
    (hstaged : Staged issuer token claims start now won running)
    (hwon : won' ↔ won) :
    Staged issuer token claims start now won' running := by
  rwa [propext hwon]

/-- A call that has just been started has not won anything. -/
theorem staged_start (call : Call) (hlost : ¬won)
    (hdistinct : ∀ other, call.written? = some other →
      ledgerKey other = ledgerKey token → other = token) :
    Staged issuer token claims start now won
      ⟨call, call.procedure issuer⟩ := by
  by_cases htoken : call.written? = some token
  · cases call with
    | revoke other =>
      obtain rfl : other = token := Option.some.inj htoken
      exact .revoking .start
    | refresh other =>
      obtain rfl : other = token := Option.some.inj htoken
      exact .refreshing hlost .start
    | _ => cases htoken
  · exact .other htoken (call.spares_of_distinct issuer htoken hdistinct)

/-- A step of a call as far as the key of the token is concerned: `asked` was
asked, `after` is the host and `left` the call afterwards.  Either the key was
let alone; or it was asked to be written and is barred now, and the call wins
if that was a claim and the first such question. -/
inductive Stepped (issuer : Issuer) (token : String) (claims : Claims)
    (start : Moment) (won : Prop) (host : Host) (asked : List Question)
    (after : Host) (left : Running) : Prop where
  | spared (hasked : ∀ question ∈ asked,
        question.written? ≠ some (ledgerKey token))
      (hkeeps : Host.Keeps (ledgerKey token) claims.deadline host after)
      (hleft : Staged issuer token claims start after.now won left)
  | revoked (span : Span)
      (hasked : asked = [.revoke (ledgerKey token) span])
      (hbars : after.Bars (ledgerKey token) claims.deadline)
      (hleft : ∀ any, Staged issuer token claims start after.now any left)
  | claimed (span : Span)
      (hasked : asked = [.moment, .claim (ledgerKey token) span])
      (hbars : host.Free (ledgerKey token) ∨
        host.Bars (ledgerKey token) claims.deadline →
          after.Bars (ledgerKey token) claims.deadline)
      (hwinning : host.Free (ledgerKey token) → ∃ rest,
        left = ⟨.refresh token, rest⟩ ∧
          Winning issuer token start after.now rest)
      (hrefused : host.Bars (ledgerKey token) claims.deadline →
        Staged issuer token claims start after.now won left)

theorem RevokeStage.step {rest : Procedure (Except Fault Unit)}
    (hclaims : issuer.claimsOf token = .ok claims) (hwell : host.LedgerWell)
    (hstage : RevokeStage issuer token claims host.now rest) :
    Stepped issuer token claims start won host (rest.step host).2.1
      (rest.step host).2.2 ⟨.revoke token, (rest.step host).1⟩ := by
  cases hstage with
  | start =>
    rw [Issuer.run_revoke hclaims]
    cases hspan : Issuer.remaining? claims host.now with
    | none =>
      simp only [Procedure.step, hspan]
      exact .spared (by simp) Host.keeps_self (.revoking .ended)
    | some span =>
      have hlong := deadline_le_after_remaining hspan (Int.le_refl _)
      simp only [Procedure.step, hspan]
      exact .spared (by simp) Host.keeps_self (.revoking (.writing span hlong))
  | writing span hlong =>
    simp only [Procedure.step]
    rw [hwell.reply_revoke]
    exact .revoked span rfl (hwell.bars_revoke hlong)
      fun any => .revoking .ended
  | ended =>
    exact .spared (by simp [Procedure.step]) Host.keeps_self (.revoking .ended)

theorem step_exchange (hwell : host.LedgerWell) (hlost : ¬won) :
    Stepped issuer token claims start won host
      ((issuer.exchange token claims).step host).2.1
      ((issuer.exchange token claims).step host).2.2
      ⟨.refresh token, ((issuer.exchange token claims).step host).1⟩ := by
  cases hspan : Issuer.remaining? claims host.now with
  | none =>
    simp only [Issuer.exchange, Procedure.step, hspan]
    exact .spared (by simp) Host.keeps_self (.refreshing hlost .expired)
  | some span =>
    have hne := remaining?_nanos_ne_zero hspan
    have hlong := deadline_le_after_remaining hspan (Int.le_refl _)
    simp only [Issuer.exchange, Procedure.step, hspan]
    rw [hwell.reply_claim hne]
    apply Stepped.claimed span rfl (hwell.bars_claim hlong)
    · intro hfree
      rw [Host.Free] at hfree
      apply Exists.intro _
      apply And.intro rfl
      simp only [hfree]
      exact {
        spares := (issuer.issuePair_spares _ _).bind fun _ => trivial
        leads := (issuer.issuePair_leads claims.subject _).bind
          fun pair _ _ _ => ⟨pair, rfl⟩ }
    · intro hbars
      have hahead : host.now < claims.deadline := by
        rcases le_or_lt claims.deadline host.now with hpassed | hahead
        · rw [remaining?_eq_none_iff.mpr hpassed] at hspan
          cases hspan
        · exact hahead
      obtain ⟨expiry, hlive, -⟩ := hbars hahead
      simp only [hlive]
      exact .refreshing hlost .revoked

theorem RefreshStage.step {rest : Procedure (Except Fault Pair)}
    (hclaims : issuer.claimsOf token = .ok claims)
    (hpurpose : claims.purpose = .refresh) (hwell : host.LedgerWell)
    (hlost : ¬won)
    (hstage : RefreshStage issuer token claims rest) :
    Stepped issuer token claims start won host (rest.step host).2.1
      (rest.step host).2.2 ⟨.refresh token, (rest.step host).1⟩ := by
  cases hstage with
  | start =>
    rw [Issuer.run_refresh hclaims]
    by_cases hexpired : claims.expiresAt ≤ host.now.second
    · simp only [Procedure.step, if_pos hexpired]
      exact .spared (by simp) Host.keeps_self (.refreshing hlost .expired)
    · have hright : ¬claims.purpose ≠ .refresh := not_not_intro hpurpose
      simp only [Procedure.step, if_neg hexpired, if_neg hright]
      exact .spared (by simp) Host.keeps_self (.refreshing hlost .looking)
  | looking =>
    simp only [Procedure.step]
    rw [hwell.reply_isRevoked]
    cases hlive : host.live? (ledgerKey token) with
    | none =>
      exact .spared (by simp) Host.keeps_self (.refreshing hlost .claiming)
    | some expiry =>
      exact .spared (by simp) Host.keeps_self (.refreshing hlost .revoked)
  | claiming => exact step_exchange hwell hlost
  | revoked =>
    exact .spared (by simp [Procedure.step]) Host.keeps_self
      (.refreshing hlost .revoked)
  | expired =>
    exact .spared (by simp [Procedure.step]) Host.keeps_self
      (.refreshing hlost .expired)

/-- What a step of any call does to the key of the token. -/
theorem Staged.step (hclaims : issuer.claimsOf token = .ok claims)
    (hpurpose : claims.purpose = .refresh) (hwell : host.LedgerWell)
    (hsince : start ≤ host.now)
    (hstaged : Staged issuer token claims start host.now won running) :
    Stepped issuer token claims start won host (running.rest.step host).2.1
      (running.rest.step host).2.2
      ⟨running.call, (running.rest.step host).1⟩ := by
  cases hstaged with
  | @other call rest hother hspares =>
    have hanswered := rest.answered_step host
    obtain ⟨hleft, hasked, hkeeps⟩ :=
      hanswered.spares claims.deadline hspares
    exact .spared hasked hkeeps (.other hother hleft)
  | revoking hstage => exact hstage.step hclaims hwell
  | refreshing hlost hstage =>
    exact hstage.step hclaims hpurpose hwell hlost
  | @winning rest hwon hrest =>
    have hanswered := rest.answered_step host
    obtain ⟨hleft, hasked, hkeeps⟩ :=
      hanswered.spares claims.deadline hrest.spares
    have hleads := hanswered.leads hrest.leads fun hleaves =>
      ⟨host.now, hsince, Int.le_refl _, hleaves⟩
    rw [← hanswered.now_eq] at hleads
    exact .spared hasked hkeeps (.winning hwon ⟨hleft, hleads⟩)

/-- An exchange that has come to its end without winning was refused. -/
theorem RefreshStage.ended {rest : Procedure (Except Fault Pair)}
    (hclaims : issuer.claimsOf token = .ok claims)
    (hstage : RefreshStage issuer token claims rest) (hended : rest.Ended) :
    rest = .done (.error .revoked) ∨ rest = .done (.error .expired) := by
  cases hstage with
  | start =>
    rw [Issuer.run_refresh hclaims] at hended
    exact hended.elim
  | looking | claiming => exact hended.elim
  | revoked => exact .inl rfl
  | expired => exact .inr rfl

/-- An exchange that has won comes to a pair, or breaks off because a lifetime
leaves the calendar. -/
theorem Winning.ended {rest : Procedure (Except Fault Pair)}
    (hwinning : Winning issuer token start now rest) (hended : rest.Ended) :
    (∃ pair, rest = .done (.ok pair)) ∨ rest = .broken ∧
      ∃ moment, start ≤ moment ∧ moment ≤ now ∧
        issuer.LeavesCalendar moment := by
  have hleads := hwinning.leads
  cases rest with
  | done result =>
    obtain ⟨pair, rfl⟩ := hleads
    exact .inl ⟨pair, rfl⟩
  | broken => exact .inr ⟨rfl, hleads⟩
  | ask question next => exact hended.elim

theorem Staged.of_refresh {rest : Procedure (Except Fault Pair)}
    (hstaged : Staged issuer token claims start now won
      ⟨.refresh token, rest⟩) :
    ¬won ∧ RefreshStage issuer token claims rest ∨
      won ∧ Winning issuer token start now rest := by
  cases hstaged with
  | other hother => exact absurd rfl hother
  | refreshing hlost hstage => exact .inl ⟨hlost, hstage⟩
  | winning hwon hrest => exact .inr ⟨hwon, hrest⟩

end Steps

end CivicRegistry.Token
