import CivicRegistry.Proofs.Revocation.Stage
import CivicRegistry.Proofs.Token.Reading

/-!
# A token is exchanged at most once

However many calls revoke and exchange tokens side by side, the first question
that asks for the key of a token to be written decides about it.  If it is a
claim, the exchange that asked it wins, and nobody else: up to the deadline of
the token its key stays barred, and from then on every other exchange finds
the token expired.
-/

namespace CivicRegistry.Token

open Calendar (Moment Span)
open Service (Procedure Question Host)

namespace System

/-- The call at the place was the first to ask for the key, and by a claim. -/
def Won (system : System) (key : String) (place : Nat) : Prop :=
  ∃ span, system.firstWrite? key = some (place, .claim key span)

variable {system : System} {key : String} {span : Span} {first : Nat}

theorem not_won_of_unwritten (hfirst : system.firstWrite? key = none)
    (place : Nat) : ¬system.Won key place := by
  rintro ⟨period, hwon⟩
  rw [hfirst] at hwon
  cases hwon

theorem not_won_of_revoke
    (hfirst : system.firstWrite? key = some (first, .revoke key span))
    (place : Nat) : ¬system.Won key place := by
  rintro ⟨period, hwon⟩
  rw [hfirst] at hwon
  cases hwon

theorem won_iff_of_claim
    (hfirst : system.firstWrite? key = some (first, .claim key span))
    (place : Nat) : system.Won key place ↔ place = first := by
  constructor
  · rintro ⟨period, hwon⟩
    rw [hfirst] at hwon
    cases hwon
    rfl
  · rintro rfl
    exact ⟨span, hfirst⟩

end System

/-- How a token, its key and the calls about it stand at any time. -/
structure Rotating (issuer : Issuer) (token : String) (claims : Claims)
    (start : Moment) (system : System) : Prop where
  well : system.host.LedgerWell
  since : start ≤ system.host.now
  placed : ∀ entry ∈ system.asked, entry.1 < system.calls.length
  unwritten : system.firstWrite? (ledgerKey token) = none →
    system.host.Free (ledgerKey token)
  written : system.firstWrite? (ledgerKey token) ≠ none →
    system.host.Bars (ledgerKey token) claims.deadline
  winner : ∀ place, system.Won (ledgerKey token) place →
    ∃ rest, system.calls[place]? = some ⟨.refresh token, rest⟩
  staged : ∀ (place : Nat) (running : Running),
    system.calls[place]? = some running →
      Staged issuer token claims start system.host.now
        (system.Won (ledgerKey token) place) running

namespace Rotating

variable {issuer : Issuer} {token : String} {claims : Claims}
  {start : Moment} {system : System}

theorem starting (issuer : Issuer) (token : String) (claims : Claims)
    (start : Moment) : Rotating issuer token claims start (.starting start)
    where
  well := Host.ledgerWell_starting start
  since := Int.le_refl _
  placed := by simp [System.starting]
  unwritten := fun _ => rfl
  written := fun hwritten => absurd rfl hwritten
  winner := fun place hwon =>
    absurd hwon (System.not_won_of_unwritten rfl place)
  staged := by simp [System.starting]

theorem wait (hrotating : Rotating issuer token claims start system)
    (pause : Span) :
    Rotating issuer token claims start
      (system.move issuer (.wait pause)) := by
  have hlater := Ledger.le_after system.host.now pause
  exact {
    well := hrotating.well.later pause
    since := Int.le_trans hrotating.since hlater
    placed := hrotating.placed
    unwritten := fun hnone => (hrotating.unwritten hnone).later pause
    written := fun hsome => (hrotating.written hsome).later pause
    winner := hrotating.winner
    staged := fun place running hrunning =>
      (hrotating.staged place running hrunning).mono hlater }

/-- A place where no call has been started has not won. -/
theorem not_won (hrotating : Rotating issuer token claims start system)
    {place : Nat} (hplace : system.calls.length ≤ place) :
    ¬system.Won (ledgerKey token) place := by
  rintro ⟨span, hfirst⟩
  have hentry := hrotating.placed _ (List.mem_of_find?_eq_some hfirst)
  exact absurd hentry (Nat.not_lt.mpr hplace)

theorem begin (hrotating : Rotating issuer token claims start system)
    (call : Call)
    (hdistinct : ∀ other, call.written? = some other →
      ledgerKey other = ledgerKey token → other = token) :
    Rotating issuer token claims start
      (system.move issuer (.start call)) := by
  have hold : ∀ place, place < system.calls.length →
      (system.calls ++ [⟨call, call.procedure issuer⟩])[place]? =
        system.calls[place]? := by
    intro place hplace
    exact List.getElem?_append_left hplace
  exact {
    well := hrotating.well
    since := hrotating.since
    placed := by
      intro entry hentry
      have hplace := hrotating.placed entry hentry
      simp only [System.move, List.length_append, List.length_singleton]
      omega
    unwritten := hrotating.unwritten
    written := hrotating.written
    winner := by
      intro place hwon
      obtain ⟨rest, hrest⟩ := hrotating.winner place hwon
      have hplace := (List.getElem?_eq_some_iff.mp hrest).1
      exact ⟨rest, (hold place hplace).trans hrest⟩
    staged := by
      intro place running hrunning
      rcases Nat.lt_trichotomy place system.calls.length with hlt | heq | hgt
      · apply hrotating.staged place running
        rw [← hold place hlt]
        exact hrunning
      · subst heq
        simp only [System.move, List.getElem?_concat_length,
          Option.some.injEq] at hrunning
        subst hrunning
        exact staged_start call (hrotating.not_won (Nat.le_refl _)) hdistinct
      · simp only [System.move] at hrunning
        have hbound := (List.getElem?_eq_some_iff.mp hrunning).1
        simp only [List.length_append, List.length_singleton] at hbound
        omega }

section Advance

variable {place : Nat} {running left : Running} {asked : List Question}
  {after : Host}

/-- What has to be shown of a step of one call, the others being left alone. -/
theorem of_left (hrotating : Rotating issuer token claims start system)
    (hrunning : system.calls[place]? = some running)
    (hwell : after.LedgerWell) (hnow : after.now = system.host.now)
    (hunwritten : (system.stepped place asked after left).firstWrite?
      (ledgerKey token) = none → after.Free (ledgerKey token))
    (hwritten : (system.stepped place asked after left).firstWrite?
      (ledgerKey token) ≠ none →
        after.Bars (ledgerKey token) claims.deadline)
    (hothers : ∀ other, other ≠ place →
      ((system.stepped place asked after left).Won (ledgerKey token) other ↔
        system.Won (ledgerKey token) other))
    (hwinner : (system.stepped place asked after left).Won (ledgerKey token)
      place → ∃ rest, left = ⟨.refresh token, rest⟩)
    (hleft : Staged issuer token claims start after.now
      ((system.stepped place asked after left).Won (ledgerKey token) place)
      left) :
    Rotating issuer token claims start
      (system.stepped place asked after left) where
  well := hwell
  since := by
    rw [System.stepped, hnow]
    exact hrotating.since
  placed := by
    have hplace := (List.getElem?_eq_some_iff.mp hrunning).1
    intro entry hentry
    simp only [System.stepped, List.length_set]
    rcases List.mem_append.mp hentry with hentry | hentry
    · exact hrotating.placed entry hentry
    · obtain ⟨question, -, rfl⟩ := List.mem_map.mp hentry
      exact hplace
  unwritten := hunwritten
  written := hwritten
  winner := by
    intro other hwon
    rw [System.getElem?_stepped hrunning]
    by_cases hother : other = place
    · subst hother
      obtain ⟨rest, rfl⟩ := hwinner hwon
      exact ⟨rest, if_pos rfl⟩
    · rw [if_neg hother]
      exact hrotating.winner other ((hothers other hother).mp hwon)
  staged := by
    intro other call hcall
    rw [System.getElem?_stepped hrunning] at hcall
    by_cases hother : other = place
    · subst hother
      rw [if_pos rfl] at hcall
      obtain rfl := Option.some.inj hcall
      exact hleft
    · rw [if_neg hother] at hcall
      have hstaged := hrotating.staged other call hcall
      rw [← hnow] at hstaged
      exact hstaged.congr (hothers other hother)

/-- A step while nobody has asked for the key: the first claim wins. -/
theorem stepped_of_unwritten
    (hrotating : Rotating issuer token claims start system)
    (hrunning : system.calls[place]? = some running)
    (hwell : after.LedgerWell) (hnow : after.now = system.host.now)
    (hfirst : system.firstWrite? (ledgerKey token) = none)
    (hstepped : Stepped issuer token claims start
      (system.Won (ledgerKey token) place) system.host asked after left) :
    Rotating issuer token claims start
      (system.stepped place asked after left) := by
  have hfree := hrotating.unwritten hfirst
  have hnobody := System.not_won_of_unwritten hfirst
  have hafter := system.firstWrite?_stepped place asked after left
    (ledgerKey token)
  rw [hfirst, Option.none_or] at hafter
  cases hstepped with
  | spared hasked hkeeps hleft =>
    have hnone : (system.stepped place asked after left).firstWrite?
        (ledgerKey token) = none := by
      rw [hafter, Option.map_eq_none_iff, List.find?_eq_none]
      intro question hquestion
      simpa only [decide_eq_true_eq] using hasked question hquestion
    have hstill := System.not_won_of_unwritten hnone
    apply hrotating.of_left hrunning hwell hnow
    · exact fun _ => hkeeps.free hfree
    · exact fun hsome => absurd hnone hsome
    · exact fun other _ => iff_of_false (hstill other) (hnobody other)
    · exact fun hwon => absurd hwon (hstill place)
    · exact hleft.congr (iff_of_false (hstill place) (hnobody place))
  | revoked span hasked hbars hleft =>
    have hfind : (asked.find? fun question =>
        question.written? = some (ledgerKey token)) =
          some (.revoke (ledgerKey token) span) := by
      simp [hasked]
    rw [hfind, Option.map_some] at hafter
    have hrevoked := System.not_won_of_revoke hafter
    apply hrotating.of_left hrunning hwell hnow
    · simp [hafter]
    · exact fun _ => hbars
    · exact fun other _ => iff_of_false (hrevoked other) (hnobody other)
    · exact fun hwon => absurd hwon (hrevoked place)
    · exact hleft _
  | claimed span hasked hbars hwinning hrefused =>
    have hfind : (asked.find? fun question =>
        question.written? = some (ledgerKey token)) =
          some (.claim (ledgerKey token) span) := by
      simp [hasked]
    rw [hfind, Option.map_some] at hafter
    obtain ⟨rest, rfl, hrest⟩ := hwinning hfree
    apply hrotating.of_left hrunning hwell hnow
    · simp [hafter]
    · exact fun _ => hbars (.inl hfree)
    · intro other hother
      have hloses := mt (System.won_iff_of_claim hafter other).mp hother
      exact iff_of_false hloses (hnobody other)
    · exact fun _ => ⟨rest, rfl⟩
    · exact .winning ⟨span, hafter⟩ hrest

/-- A step after somebody has asked for the key: a claim is refused. -/
theorem stepped_of_written
    (hrotating : Rotating issuer token claims start system)
    (hrunning : system.calls[place]? = some running)
    (hwell : after.LedgerWell) (hnow : after.now = system.host.now)
    (hcall : left.call = running.call)
    (hfirst : system.firstWrite? (ledgerKey token) ≠ none)
    (hstepped : Stepped issuer token claims start
      (system.Won (ledgerKey token) place) system.host asked after left) :
    Rotating issuer token claims start
      (system.stepped place asked after left) := by
  have hbars := hrotating.written hfirst
  obtain ⟨entry, hentry⟩ := Option.ne_none_iff_exists'.mp hfirst
  have hafter : (system.stepped place asked after left).firstWrite?
      (ledgerKey token) = system.firstWrite? (ledgerKey token) := by
    rw [System.firstWrite?_stepped, hentry]
    rfl
  have hwon : ∀ other, (system.stepped place asked after left).Won
      (ledgerKey token) other ↔ system.Won (ledgerKey token) other := by
    intro other
    rw [System.Won, System.Won, hafter]
  have hstaged : after.Bars (ledgerKey token) claims.deadline ∧
      Staged issuer token claims start after.now
        (system.Won (ledgerKey token) place) left := by
    cases hstepped with
    | spared _ hkeeps hleft => exact ⟨hkeeps.bars hbars, hleft⟩
    | revoked _ _ hafter hleft => exact ⟨hafter, hleft _⟩
    | claimed _ _ hafter _ hrefused =>
      exact ⟨hafter (.inr hbars), hrefused hbars⟩
  apply hrotating.of_left hrunning hwell hnow
  · intro hnone
    rw [hafter] at hnone
    exact absurd hnone hfirst
  · exact fun _ => hstaged.1
  · exact fun other _ => hwon other
  · intro hplace
    obtain ⟨rest, hrest⟩ := hrotating.winner place ((hwon place).mp hplace)
    rw [hrunning] at hrest
    obtain rfl := Option.some.inj hrest
    obtain ⟨call, rest⟩ := left
    cases hcall
    exact ⟨rest, rfl⟩
  · exact hstaged.2.congr (hwon place)

theorem advance (hrotating : Rotating issuer token claims start system)
    (hclaims : issuer.claimsOf token = .ok claims)
    (hpurpose : claims.purpose = .refresh) (place : Nat) :
    Rotating issuer token claims start
      (system.move issuer (.advance place)) := by
  cases hrunning : system.calls[place]? with
  | none =>
    rw [System.move_advance_none hrunning]
    exact hrotating
  | some running =>
    rw [System.move_advance hrunning]
    have hanswered := running.rest.answered_step system.host
    have hwell := hanswered.ledgerWell hrotating.well
    have hstepped := (hrotating.staged place running hrunning).step hclaims
      hpurpose hrotating.well hrotating.since
    by_cases hfirst : system.firstWrite? (ledgerKey token) = none
    · exact hrotating.stepped_of_unwritten hrunning hwell hanswered.now_eq
        hfirst hstepped
    · exact hrotating.stepped_of_written hrunning hwell hanswered.now_eq rfl
        hfirst hstepped

end Advance

theorem run (hrotating : Rotating issuer token claims start system)
    (hclaims : issuer.claimsOf token = .ok claims)
    (hpurpose : claims.purpose = .refresh) (moves : List Move)
    (hdistinct : ∀ call, .start call ∈ moves → ∀ other,
      call.written? = some other →
        ledgerKey other = ledgerKey token → other = token) :
    Rotating issuer token claims start (system.run issuer moves) := by
  induction moves generalizing system with
  | nil => exact hrotating
  | cons move moves ih =>
    rw [System.run_cons]
    have hmoves : ∀ call, .start call ∈ moves → ∀ other,
        call.written? = some other →
          ledgerKey other = ledgerKey token → other = token :=
      fun call hcall => hdistinct call (List.mem_cons_of_mem move hcall)
    apply ih _ hmoves
    cases move with
    | wait pause => exact hrotating.wait pause
    | start call =>
      exact hrotating.begin call (hdistinct call List.mem_cons_self)
    | advance place => exact hrotating.advance hclaims hpurpose place

/-- Only the winning exchange comes to a pair. -/
theorem won_of_pair (hrotating : Rotating issuer token claims start system)
    (hclaims : issuer.claimsOf token = .ok claims) {place : Nat} {pair : Pair}
    (hplace : system.calls[place]? =
      some ⟨.refresh token, .done (.ok pair)⟩) :
    system.Won (ledgerKey token) place := by
  rcases (hrotating.staged place _ hplace).of_refresh with
    ⟨-, hstage⟩ | ⟨hwon, -⟩
  · rcases hstage.ended hclaims trivial with hpair | hpair <;> cases hpair
  · exact hwon

theorem winner_ended (hrotating : Rotating issuer token claims start system)
    {place : Nat} (hwon : system.Won (ledgerKey token) place) :
    ∃ rest, system.calls[place]? = some ⟨.refresh token, rest⟩ ∧
      (rest.Ended → (∃ pair, rest = .done (.ok pair)) ∨ rest = .broken ∧
        ∃ moment, start ≤ moment ∧ moment ≤ system.host.now ∧
          issuer.LeavesCalendar moment) := by
  obtain ⟨rest, hrest⟩ := hrotating.winner place hwon
  rcases (hrotating.staged place _ hrest).of_refresh with
    ⟨hlost, -⟩ | ⟨-, hwinning⟩
  · exact absurd hwon hlost
  · exact ⟨rest, hrest, hwinning.ended⟩

theorem loser_ended (hrotating : Rotating issuer token claims start system)
    (hclaims : issuer.claimsOf token = .ok claims) {place : Nat}
    {rest : Procedure (Except Fault Pair)}
    (hlost : ¬system.Won (ledgerKey token) place)
    (hrest : system.calls[place]? = some ⟨.refresh token, rest⟩)
    (hended : rest.Ended) :
    rest = .done (.error .revoked) ∨ rest = .done (.error .expired) := by
  rcases (hrotating.staged place _ hrest).of_refresh with
    ⟨-, hstage⟩ | ⟨hwon, -⟩
  · exact hstage.ended hclaims hended
  · exact absurd hwon hlost

end Rotating

/-- However calls are interleaved and however much time passes between their
steps, at most one exchange of a refresh token returns a pair.  Where the first
question to write the key of the token is a claim, the exchange that asked it
comes to a pair, or it breaks off because a lifetime left the calendar while it
was under way.  Every other exchange of the token that comes to its end finds it
revoked or expired, and each comes to its end after at most eight steps. -/
theorem refresh_rotates_once {issuer : Issuer} {token : String}
    {claims : Claims} (hclaims : issuer.claimsOf token = .ok claims)
    (hpurpose : claims.purpose = .refresh) (start : Moment)
    (moves : List Move)
    (hdistinct : ∀ call, .start call ∈ moves → ∀ other,
      call.written? = some other →
        ledgerKey other = ledgerKey token → other = token) :
    let system := (System.starting start).run issuer moves
    (∀ (place other : Nat) (pair another : Pair),
      system.calls[place]? = some ⟨.refresh token, .done (.ok pair)⟩ →
      system.calls[other]? = some ⟨.refresh token, .done (.ok another)⟩ →
        place = other) ∧
    (∀ place : Nat, system.Won (ledgerKey token) place →
      ∃ rest, system.calls[place]? = some ⟨.refresh token, rest⟩ ∧
        (rest.Ended → (∃ pair, rest = .done (.ok pair)) ∨ rest = .broken ∧
          ∃ moment, start ≤ moment ∧ moment ≤ system.host.now ∧
            issuer.LeavesCalendar moment)) ∧
    (∀ (place : Nat) (rest : Procedure (Except Fault Pair)),
      ¬system.Won (ledgerKey token) place →
      system.calls[place]? = some ⟨.refresh token, rest⟩ → rest.Ended →
        rest = .done (.error .revoked) ∨ rest = .done (.error .expired)) ∧
    ∀ before after, moves = before ++ .start (.refresh token) :: after →
      let place := ((System.starting start).run issuer before).calls.length
      8 ≤ after.countP (Move.advances place) →
        ∃ rest, system.calls[place]? = some ⟨.refresh token, rest⟩ ∧
          rest.Ended := by
  intro system
  have hrotating : Rotating issuer token claims start system :=
    (Rotating.starting issuer token claims start).run hclaims hpurpose moves
      hdistinct
  and_intros
  · intro place other pair another hplace hother
    obtain ⟨span, hfirst⟩ := hrotating.won_of_pair hclaims hplace
    have hsecond := hrotating.won_of_pair hclaims hother
    exact ((System.won_iff_of_claim hfirst other).mp hsecond).symm
  · intro place hwon
    exact hrotating.winner_ended hwon
  · intro place rest hlost hrest hended
    exact hrotating.loser_ended hclaims hlost hrest hended
  · rintro before after rfl place hturns
    have hplace : (((System.starting start).run issuer before).move issuer
        (.start (.refresh token))).calls[place]? =
          some ⟨.refresh token, (issuer.refresh token).run⟩ :=
      List.getElem?_concat_length ..
    obtain ⟨⟨call, rest⟩, hleft, rfl, hended⟩ := System.ended_run issuer
      hplace (issuer.refresh_within hclaims) hturns
    have hrun : system.calls[place]? = some ⟨.refresh token, rest⟩ := by
      rw [← hleft]
      simp only [system, System.run_append, System.run_cons]
    exact ⟨rest, hrun, hended⟩

/-- Two exchanges of the sample token that both find it good before the first
of them claims it. -/
def sampleMoves : List Move :=
  [.start (.refresh sampleToken), .start (.refresh sampleToken), .advance 0,
    .advance 1, .advance 0, .advance 1, .wait ⟨1500000000⟩, .advance 0]

theorem won_sampleMoves :
    ((System.starting ⟨0⟩).run sampleIssuer sampleMoves).Won
      (ledgerKey sampleToken) 0 := by
  have hasked : ((System.starting ⟨0⟩).run sampleIssuer sampleMoves).asked =
      [(0, .moment), (1, .moment), (0, .isRevoked (ledgerKey sampleToken)),
        (1, .isRevoked (ledgerKey sampleToken)), (0, .moment),
        (0, .claim (ledgerKey sampleToken) (.ofSeconds 99))] := by
    rw [sampleMoves, System.run_cons, System.run_cons, System.move,
      System.move, Call.procedure, Issuer.run_refresh claimsOf_sampleToken,
      Issuer.exchange]
    generalize ledgerKey sampleToken = key
    rfl
  exists .ofSeconds 99
  rw [System.firstWrite?, hasked]
  simp

/-- The first of the two exchanges has won, and the second can only be
refused. -/
theorem refresh_rotates_once_sample :
    (∃ rest, ((System.starting ⟨0⟩).run sampleIssuer sampleMoves).calls[0]? =
        some ⟨.refresh sampleToken, rest⟩ ∧
      (rest.Ended → (∃ pair, rest = .done (.ok pair)) ∨ rest = .broken ∧
        ∃ moment : Moment, ⟨0⟩ ≤ moment ∧
          moment ≤ ((System.starting ⟨0⟩).run sampleIssuer
            sampleMoves).host.now ∧
          sampleIssuer.LeavesCalendar moment)) ∧
    ∀ rest, ((System.starting ⟨0⟩).run sampleIssuer sampleMoves).calls[1]? =
        some ⟨.refresh sampleToken, rest⟩ → rest.Ended →
      rest = .done (.error .revoked) ∨ rest = .done (.error .expired) := by
  have hdistinct : ∀ call, .start call ∈ sampleMoves → ∀ other,
      call.written? = some other →
        ledgerKey other = ledgerKey sampleToken → other = sampleToken := by
    simp [sampleMoves, Call.written?]
  have hlost : ¬((System.starting ⟨0⟩).run sampleIssuer sampleMoves).Won
      (ledgerKey sampleToken) 1 := by
    obtain ⟨span, hwon⟩ := won_sampleMoves
    exact mt (System.won_iff_of_claim hwon 1).mp (by decide)
  have hrotates := refresh_rotates_once claimsOf_sampleToken rfl ⟨0⟩
    sampleMoves hdistinct
  exact ⟨hrotates.2.1 0 won_sampleMoves,
    fun rest => hrotates.2.2.1 1 rest hlost⟩

/-! ## Where nobody gets a pair -/

/-- One exchange of the sample token, taken to its end. -/
def loneMoves : List Move :=
  .start (.refresh sampleToken) :: List.replicate 5 (.advance 0)

/-- The system after the exchange was taken to its end by an issuer whose
access tokens would outlast the calendar. -/
def endlessSystem : System :=
  (System.starting ⟨0⟩).run endlessIssuer loneMoves

theorem endlessSystem_eq :
    endlessSystem.calls = [⟨.refresh sampleToken, .broken⟩] ∧
      endlessSystem.asked =
        [(0, .moment), (0, .isRevoked (ledgerKey sampleToken)), (0, .moment),
          (0, .claim (ledgerKey sampleToken) (.ofSeconds 100)), (0, .moment),
          (0, .identifier)] ∧
      endlessSystem.host.now = ⟨0⟩ := by
  have hclaims : endlessIssuer.claimsOf sampleToken = .ok sampleClaims :=
    claimsOf_sampleToken
  rw [endlessSystem, loneMoves, System.run_cons, System.move, Call.procedure,
    Issuer.run_refresh hclaims, Issuer.exchange]
  generalize ledgerKey sampleToken = key
  exact ⟨rfl, rfl, rfl⟩

/-- The only exchange of a token that has not expired claims it first and
breaks off, so that nobody gets a pair. -/
theorem winner_without_pair :
    endlessSystem.Won (ledgerKey sampleToken) 0 ∧
      endlessSystem.host.now < sampleClaims.deadline ∧
      endlessSystem.calls[0]? = some ⟨.refresh sampleToken, .broken⟩ ∧
      ∀ (place : Nat) (pair : Pair), endlessSystem.calls[place]? ≠
        some ⟨.refresh sampleToken, .done (.ok pair)⟩ := by
  obtain ⟨hcalls, hasked, hnow⟩ := endlessSystem_eq
  refine ⟨⟨.ofSeconds 100, ?_⟩, ?_, ?_, ?_⟩
  · rw [System.firstWrite?, hasked]
    simp
  · rw [hnow]
    decide
  · rw [hcalls]
    rfl
  · intro place pair hplace
    rw [hcalls] at hplace
    cases place <;> cases hplace

end CivicRegistry.Token
