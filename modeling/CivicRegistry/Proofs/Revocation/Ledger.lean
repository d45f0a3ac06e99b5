import CivicRegistry.Token.Ledger

/-!
# The ledger as a table of live keys

What the ledger answers at a moment depends only on its live entries, those
whose moment lies ahead.  Sweeping does not show in them, a write shows under
its own key alone, and time passing only takes entries away.
-/

namespace CivicRegistry.Token.Ledger

open Calendar (Moment Span)

/-- The moment until which a key is kept, as long as it lies ahead. -/
def live? (now : Moment) (key : String) (ledger : Ledger) : Option Moment :=
  (ledger.until? key).filter fun expiry => now < expiry

theorem isRevoked_eq_isSome_live? (now : Moment) (key : String)
    (ledger : Ledger) :
    ledger.isRevoked now key = (ledger.live? now key).isSome := by
  rw [isRevoked, live?]
  cases ledger.until? key with
  | none => rfl
  | some expiry => by_cases hahead : now < expiry <;> simp [hahead]

@[simp]
theorem live?_empty (now : Moment) (key : String) :
    empty.live? now key = none := rfl

/-- A key that is live later is live already, until the same moment. -/
theorem live?_later {now later : Moment} (hlater : now ≤ later)
    (key : String) (ledger : Ledger) :
    ledger.live? later key =
      (ledger.live? now key).filter fun expiry => later < expiry := by
  rw [live?, live?, Option.filter_filter]
  congr 1
  funext expiry
  have hahead : later < expiry → now < expiry := by
    simp only [Moment.lt_iff, Moment.le_iff] at *
    omega
  by_cases hexpiry : later < expiry <;> simp [hexpiry, hahead]

/-- Sweeping leaves under each key what is live of it. -/
@[simp]
theorem until?_sweep (now : Moment) (key : String) (ledger : Ledger) :
    (ledger.sweep now).until? key = ledger.live? now key := by
  obtain ⟨entries, distinct⟩ := ledger
  simp only [live?, sweep, filter, until?]
  induction entries with
  | nil => rfl
  | cons entry others ih =>
    obtain ⟨name, expiry⟩ := entry
    rw [List.map_cons, List.nodup_cons] at distinct
    have hothers := ih distinct.2
    by_cases hkey : key = name
    · subst hkey
      have habsent : others.lookup key = none := by
        rw [List.lookup_eq_none_iff]
        intro entry hentry
        have hne : entry.1 ≠ key := fun heq =>
          distinct.1 (List.mem_map.2 ⟨entry, hentry, heq⟩)
        simpa using hne.symm
      rw [habsent] at hothers
      by_cases hahead : now < expiry <;>
        simp [Option.filter, hahead, hothers]
    · have hne : (key == name) = false := by simpa using hkey
      by_cases hahead : now < expiry <;>
        simp [List.lookup_cons, hne, hahead, hothers]

@[simp]
theorem live?_sweep (now : Moment) (key : String) (ledger : Ledger) :
    (ledger.sweep now).live? now key = ledger.live? now key := by
  rw [live?, until?_sweep, live?, Option.filter_filter]
  simp

theorem until?_insert (key other : String) (expiry : Moment)
    (ledger : Ledger) :
    (ledger.insert key expiry).until? other =
      if other = key then some expiry else ledger.until? other := by
  by_cases hkey : other = key
  · simp [insert, until?, hkey]
  · have hne : (other == key) = false := by simpa using hkey
    simp only [insert, filter, until?, List.lookup_cons, hne, if_neg hkey]
    induction ledger.entries with
    | nil => rfl
    | cons entry others ih =>
      obtain ⟨name, moment⟩ := entry
      by_cases hname : name = key
      · simp [List.lookup_cons, hname, hne, ih]
      · by_cases hother : other = name
        · simp [hname, hother]
        · simp [List.lookup_cons, hname, ih]

theorem live?_insert {now expiry : Moment} (hahead : now < expiry)
    (key other : String) (ledger : Ledger) :
    (ledger.insert key expiry).live? now other =
      if other = key then some expiry else ledger.live? now other := by
  rw [live?, until?_insert]
  by_cases hkey : other = key <;> simp [hkey, hahead, live?]

theorem le_after (now : Moment) (span : Span) : now ≤ now.after span := by
  rw [Moment.le_iff, Moment.nanos_after]
  omega

theorem lt_after {now : Moment} {span : Span} (hspan : span.nanos ≠ 0) :
    now < now.after span := by
  rw [Moment.lt_iff, Moment.nanos_after]
  omega

/-- Revoking a key shows under that key alone. -/
theorem live?_revoke (now : Moment) (key other : String) (span : Span)
    (ledger : Ledger) :
    (ledger.revoke now key span).live? now other =
      if other = key ∧ span.nanos ≠ 0 then some (now.after span)
      else ledger.live? now other := by
  by_cases hspan : span.nanos = 0
  · simp [revoke, hspan]
  · simp [revoke, hspan, live?_insert (lt_after hspan)]

/-- A claim is granted where the key is not revoked and the span not empty. -/
theorem claim_granted (now : Moment) (key : String) (span : Span)
    (ledger : Ledger) :
    (ledger.claim now key span).1 =
      (decide (span.nanos ≠ 0) && !ledger.isRevoked now key) := by
  by_cases hspan : span.nanos = 0
  · simp [claim, hspan]
  · rw [isRevoked_eq_isSome_live?]
    cases hlive : ledger.live? now key <;> simp [claim, hspan, hlive]

/-- A claim shows under its key, and only if it is granted. -/
theorem live?_claim (now : Moment) (key other : String) (span : Span)
    (ledger : Ledger) :
    (ledger.claim now key span).2.live? now other =
      if other = key ∧ (ledger.claim now key span).1 = true then
        some (now.after span)
      else ledger.live? now other := by
  by_cases hspan : span.nanos = 0
  · simp [claim, hspan]
  · cases hlive : ledger.live? now key with
    | none => simp [claim, hspan, hlive, live?_insert (lt_after hspan)]
    | some expiry => simp [claim, hspan, hlive]

end CivicRegistry.Token.Ledger
