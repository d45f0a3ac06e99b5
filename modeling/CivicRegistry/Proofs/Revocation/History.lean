import CivicRegistry.Proofs.Revocation.Ledger
import Mathlib.Data.List.Dedup

/-!
# The ledger and the history of its writes

A history keeps every write that took effect and never takes anything out; the
last write to a key decides until when the key is revoked.  A ledger sweeps
what has expired at every write, and still it answers every sequence of
operations as the history does, because what is live of a key is the same in
both.  Right after a write the ledger holds the live keys and nothing else.
-/

namespace CivicRegistry.Token

open Calendar (Moment Span)

/-- What is asked of a ledger. -/
inductive Operation where
  | revoke (key : String) (span : Span)
  | claim (key : String) (span : Span)
  | isRevoked (key : String)
  | count
deriving DecidableEq

/-- The operation puts something in, or would if its key were free. -/
def Operation.Writes : Operation → Prop
  | .revoke _ span => span.nanos ≠ 0
  | .claim _ span => span.nanos ≠ 0
  | .isRevoked _ => False
  | .count => False

instance : DecidablePred Operation.Writes
  | .revoke _ span => inferInstanceAs (Decidable (span.nanos ≠ 0))
  | .claim _ span => inferInstanceAs (Decidable (span.nanos ≠ 0))
  | .isRevoked _ => inferInstanceAs (Decidable False)
  | .count => inferInstanceAs (Decidable False)

/-- What comes of an operation. -/
inductive Finding where
  | done
  | truth (value : Bool)
  | number (value : Nat)
deriving DecidableEq

/-- Operations one after the other, each with its moment. -/
abbrev Schedule := List (Moment × Operation)

/-- The findings of a schedule and the state after it. -/
def Schedule.perform {State : Type}
    (step : Moment → Operation → State → Finding × State) :
    Schedule → State → List Finding × State
  | [], state => ([], state)
  | (now, operation) :: others, state =>
    let (finding, middle) := step now operation state
    let (findings, ending) := perform step others middle
    (finding :: findings, ending)

def Ledger.perform (now : Moment) : Operation → Ledger → Finding × Ledger
  | .revoke key span, ledger => (.done, ledger.revoke now key span)
  | .claim key span, ledger =>
    let (granted, after) := ledger.claim now key span
    (.truth granted, after)
  | .isRevoked key, ledger => (.truth (ledger.isRevoked now key), ledger)
  | .count, ledger => (.number (ledger.count now), ledger)

/-- All writes that took effect, the last one first. -/
structure History where
  writes : List (String × Moment)
deriving DecidableEq

namespace History

def empty : History := ⟨[]⟩

/-- The moment at which the last write to a key expires. -/
def until? (key : String) (history : History) : Option Moment :=
  history.writes.lookup key

/-- The last write to the key expires later than now. -/
def isRevoked (now : Moment) (key : String) (history : History) : Bool :=
  (history.until? key).any fun expiry => now < expiry

/-- The keys that are revoked at a moment, each of them once. -/
def liveKeys (now : Moment) (history : History) : List String :=
  (history.writes.map (·.1)).dedup.filter fun key => history.isRevoked now key

def write (key : String) (expiry : Moment) (history : History) : History :=
  ⟨(key, expiry) :: history.writes⟩

/-- Revoking writes even over a later moment; an empty span writes nothing. -/
def revoke (now : Moment) (key : String) (span : Span) (history : History) :
    History :=
  if span.nanos = 0 then history else history.write key (now.after span)

/-- A claim writes if its span is not empty and the key is not revoked. -/
def claim (now : Moment) (key : String) (span : Span) (history : History) :
    Bool × History :=
  if span.nanos ≠ 0 ∧ history.isRevoked now key = false then
    (true, history.write key (now.after span))
  else (false, history)

def perform (now : Moment) : Operation → History → Finding × History
  | .revoke key span, history => (.done, history.revoke now key span)
  | .claim key span, history =>
    let (granted, after) := history.claim now key span
    (.truth granted, after)
  | .isRevoked key, history => (.truth (history.isRevoked now key), history)
  | .count, history => (.number (history.liveKeys now).length, history)

theorem until?_write (key other : String) (expiry : Moment)
    (history : History) :
    (history.write key expiry).until? other =
      if other = key then some expiry else history.until? other := by
  by_cases hkey : other = key
  · simp [write, until?, hkey]
  · have hne : (other == key) = false := by simpa using hkey
    simp [write, until?, List.lookup_cons, hne, hkey]

theorem isRevoked_iff {now : Moment} {key : String} {history : History} :
    history.isRevoked now key = true ↔
      ∃ expiry, history.until? key = some expiry ∧ now < expiry := by
  simp [isRevoked, Option.any_eq_true]

theorem mem_liveKeys_iff {now : Moment} {key : String} {history : History} :
    key ∈ history.liveKeys now ↔ history.isRevoked now key = true := by
  rw [liveKeys, List.mem_filter, and_iff_right_iff_imp, List.mem_dedup]
  intro hrevoked
  obtain ⟨expiry, hwritten, -⟩ := isRevoked_iff.1 hrevoked
  obtain ⟨later, earlier, hwrites, -⟩ := List.lookup_eq_some_iff.1 hwritten
  simp [hwrites]

end History

namespace Ledger

/-- A key is kept until the moment of its entry, and there is one at most. -/
theorem until?_eq_some_iff {key : String} {expiry : Moment}
    {ledger : Ledger} :
    ledger.until? key = some expiry ↔ (key, expiry) ∈ ledger.entries := by
  obtain ⟨entries, distinct⟩ := ledger
  dsimp only [until?]
  induction entries with
  | nil => simp
  | cons entry others ih =>
    obtain ⟨name, moment⟩ := entry
    rw [List.map_cons, List.nodup_cons] at distinct
    by_cases hkey : key = name
    · subst hkey
      have habsent : (key, expiry) ∉ others := fun hmem =>
        distinct.1 (List.mem_map.2 ⟨(key, expiry), hmem, rfl⟩)
      simp [habsent, eq_comm]
    · have hne : (key == name) = false := by simpa using hkey
      simp [List.lookup_cons, hne, hkey, ih distinct.2]

/-- Every entry of the ledger is live. -/
def Swept (now : Moment) (ledger : Ledger) : Prop :=
  ∀ entry ∈ ledger.entries, now < entry.2

theorem swept_sweep (now : Moment) (ledger : Ledger) :
    (ledger.sweep now).Swept now := by
  intro entry hentry
  simpa using (List.mem_filter.1 hentry).2

theorem Swept.insert {now expiry : Moment} {ledger : Ledger}
    (hswept : ledger.Swept now) (hahead : now < expiry) (key : String) :
    (ledger.insert key expiry).Swept now := by
  intro entry hentry
  rcases List.mem_cons.1 hentry with rfl | hentry
  · exact hahead
  · exact hswept entry (List.mem_filter.1 hentry).1

/-- Every write leaves the ledger swept, also a claim that is not granted. -/
theorem Swept.perform {now : Moment} {operation : Operation}
    (hwrites : operation.Writes) (ledger : Ledger) :
    (ledger.perform now operation).2.Swept now := by
  cases operation with
  | revoke key span =>
    simp only [Ledger.perform, revoke, if_neg hwrites]
    exact (swept_sweep now ledger).insert (lt_after hwrites) key
  | claim key span =>
    simp only [Ledger.perform, claim, if_neg hwrites]
    split
    · exact swept_sweep now ledger
    · exact (swept_sweep now ledger).insert (lt_after hwrites) key
  | isRevoked key => exact hwrites.elim
  | count => exact hwrites.elim

theorem Swept.live?_eq {now : Moment} {ledger : Ledger}
    (hswept : ledger.Swept now) (key : String) :
    ledger.live? now key = ledger.until? key := by
  rw [live?]
  cases huntil : ledger.until? key with
  | none => rfl
  | some expiry =>
    have hahead : now < expiry := hswept _ (until?_eq_some_iff.1 huntil)
    simp [hahead]

/-- What is live in the ledger is what the history says is live. -/
def Follows (now : Moment) (history : History) (ledger : Ledger) : Prop :=
  ∀ key, ledger.live? now key =
    (history.until? key).filter fun expiry => now < expiry

namespace Follows

variable {now : Moment} {history : History} {ledger : Ledger}

theorem empty (now : Moment) : Ledger.empty.Follows now .empty :=
  fun _ => rfl

theorem later {later : Moment} (hfollows : ledger.Follows now history)
    (hlater : now ≤ later) : ledger.Follows later history := by
  intro key
  rw [live?_later hlater, hfollows key, Option.filter_filter]
  congr 1
  funext expiry
  have hahead : later < expiry → now < expiry := by
    simp only [Moment.lt_iff, Moment.le_iff] at *
    omega
  by_cases hexpiry : later < expiry <;> simp [hexpiry, hahead]

theorem isRevoked_eq (hfollows : ledger.Follows now history) (key : String) :
    ledger.isRevoked now key = history.isRevoked now key := by
  rw [isRevoked_eq_isSome_live?, hfollows key, Option.isSome_filter]
  rfl

theorem count_eq (hfollows : ledger.Follows now history) :
    ledger.count now = (history.liveKeys now).length := by
  have hkeys : ((ledger.sweep now).entries.map (·.1)).Perm
      (history.liveKeys now) := by
    apply (List.perm_ext_iff_of_nodup (ledger.sweep now).distinct
      ((List.nodup_dedup _).filter _)).2
    intro key
    rw [← History.liveKeys, History.mem_liveKeys_iff,
      ← hfollows.isRevoked_eq, isRevoked_eq_isSome_live?,
      ← until?_sweep, Option.isSome_iff_exists]
    simp only [until?_eq_some_iff, List.mem_map, Prod.exists,
      exists_and_right, exists_eq_right]
  simpa [count] using hkeys.length_eq

theorem write {key : String} {span : Span} (hspan : span.nanos ≠ 0)
    {after : Ledger} (hfollows : ledger.Follows now history)
    (hafter : ∀ other, after.live? now other =
      if other = key then some (now.after span) else ledger.live? now other) :
    after.Follows now (history.write key (now.after span)) := by
  intro other
  have hahead : now < now.after span := lt_after hspan
  rw [hafter, History.until?_write]
  by_cases hkey : other = key
  · simp [hkey, Option.filter_some, hahead]
  · simp [hkey, hfollows other]

/-- A step finds the same in the ledger as in the history, and the ledger
follows the history after it. -/
theorem perform (hfollows : ledger.Follows now history)
    (operation : Operation) :
    (ledger.perform now operation).1 = (history.perform now operation).1 ∧
      (ledger.perform now operation).2.Follows now
        (history.perform now operation).2 := by
  cases operation with
  | revoke key span =>
    refine ⟨rfl, ?_⟩
    simp only [Ledger.perform, History.perform, History.revoke]
    split
    · next hspan => rwa [revoke, if_pos hspan]
    · next hspan =>
      exact hfollows.write hspan fun other => by
        simp [live?_revoke, hspan]
  | claim key span =>
    have hgranted := claim_granted now key span ledger
    rw [hfollows.isRevoked_eq] at hgranted
    simp only [Ledger.perform, History.perform, History.claim]
    split
    · next hfree =>
      have hclaimed : (ledger.claim now key span).1 = true := by
        simp [hgranted, hfree.1, hfree.2]
      refine ⟨by rw [hclaimed], hfollows.write hfree.1 fun other => ?_⟩
      simp [live?_claim, hclaimed]
    · next hbarred =>
      have hclaimed : (ledger.claim now key span).1 = false := by
        rw [hgranted]
        simpa using hbarred
      refine ⟨by rw [hclaimed], fun other => ?_⟩
      simp [live?_claim, hclaimed, hfollows other]
  | isRevoked key =>
    refine ⟨?_, hfollows⟩
    rw [Ledger.perform, hfollows.isRevoked_eq]
    rfl
  | count =>
    refine ⟨?_, hfollows⟩
    rw [Ledger.perform, hfollows.count_eq]
    rfl

/-- After a write the ledger holds what is live in the history, and nothing
else. -/
theorem mem_entries_iff (hfollows : ledger.Follows now history)
    (hswept : ledger.Swept now) (key : String) (expiry : Moment) :
    (key, expiry) ∈ ledger.entries ↔
      history.until? key = some expiry ∧ now < expiry := by
  rw [← until?_eq_some_iff, ← hswept.live?_eq, hfollows key]
  simp

end Follows

end Ledger

/-! ## Schedules -/

namespace Schedule

/-- The moments of a schedule never go back. -/
def Ordered (schedule : Schedule) : Prop :=
  schedule.Pairwise fun earlier later => earlier.1 ≤ later.1

instance (schedule : Schedule) : Decidable schedule.Ordered :=
  inferInstanceAs (Decidable (List.Pairwise _ _))

theorem perform_append {State : Type}
    (step : Moment → Operation → State → Finding × State)
    (earlier later : Schedule) (state : State) :
    (earlier ++ later).perform step state =
      ((earlier.perform step state).1 ++
          (later.perform step (earlier.perform step state).2).1,
        (later.perform step (earlier.perform step state).2).2) := by
  induction earlier generalizing state with
  | nil => rfl
  | cons entry others ih =>
    obtain ⟨now, operation⟩ := entry
    simp only [List.cons_append, perform, ih]

theorem Ordered.exists_start {schedule : Schedule}
    (hordered : schedule.Ordered) :
    ∃ start, ∀ entry ∈ schedule, start ≤ entry.1 := by
  cases schedule with
  | nil => exact ⟨default, by simp⟩
  | cons entry others =>
    refine ⟨entry.1, fun other hother => ?_⟩
    rcases List.mem_cons.1 hother with rfl | hother
    · exact Int.le_refl _
    · exact List.rel_of_pairwise_cons hordered hother

/-- The ledger finds over an ordered schedule what the history finds, and it
follows the history at every moment that the schedule has reached. -/
theorem follows {start : Moment} {history : History} {ledger : Ledger}
    {schedule : Schedule} (hordered : schedule.Ordered)
    (hstart : ∀ entry ∈ schedule, start ≤ entry.1)
    (hfollows : ledger.Follows start history) :
    (schedule.perform Ledger.perform ledger).1 =
        (schedule.perform History.perform history).1 ∧
      ∀ ending, start ≤ ending → (∀ entry ∈ schedule, entry.1 ≤ ending) →
        (schedule.perform Ledger.perform ledger).2.Follows ending
          (schedule.perform History.perform history).2 := by
  induction schedule generalizing start history ledger with
  | nil => exact ⟨rfl, fun ending hlater _ => hfollows.later hlater⟩
  | cons entry others ih =>
    obtain ⟨now, operation⟩ := entry
    obtain ⟨hfirst, hothers⟩ := List.pairwise_cons.1 hordered
    have hnow : start ≤ now := hstart _ List.mem_cons_self
    obtain ⟨hfinding, hafter⟩ := (hfollows.later hnow).perform operation
    obtain ⟨hfindings, hending⟩ := ih hothers hfirst hafter
    simp only [perform]
    refine ⟨by rw [hfinding, hfindings], fun ending _ hall => ?_⟩
    exact hending ending (hall _ List.mem_cons_self) fun entry hentry =>
      hall entry (List.mem_cons_of_mem _ hentry)

theorem mem_entries_of_write {before : Schedule} {now : Moment}
    {operation : Operation}
    (hordered : (before ++ [(now, operation)]).Ordered)
    (hwrites : operation.Writes) (key : String) (expiry : Moment) :
    (key, expiry) ∈ ((before ++ [(now, operation)]).perform
        Ledger.perform .empty).2.entries ↔
      ((before ++ [(now, operation)]).perform
        History.perform .empty).2.until? key = some expiry ∧
        now < expiry := by
  obtain ⟨start, hstart⟩ := hordered.exists_start
  obtain ⟨hearlier, -, hlast⟩ := List.pairwise_append.1 hordered
  have hbefore : ∀ entry ∈ before, entry.1 ≤ now := fun entry hentry =>
    hlast entry hentry (now, operation) List.mem_cons_self
  have hfollows := (follows hearlier
    (fun entry hentry => hstart entry (List.mem_append_left _ hentry))
    (Ledger.Follows.empty start)).2 now (hstart (now, operation) (by simp))
    hbefore
  rw [perform_append, perform_append]
  exact (hfollows.perform operation).2.mem_entries_iff
    (Ledger.Swept.perform hwrites _) key expiry

/-- Over every schedule whose moments never go back, a ledger that sweeps what
has expired finds what the history of all writes says.  Right after a write it
holds the live keys, each until the moment of its last write, and nothing
else. -/
theorem findings_as_history {schedule : Schedule}
    (hordered : schedule.Ordered) :
    (schedule.perform Ledger.perform .empty).1 =
        (schedule.perform History.perform .empty).1 ∧
      ∀ (before : Schedule) (now : Moment) (operation : Operation),
        before ++ [(now, operation)] <+: schedule → operation.Writes →
          ∀ key expiry,
            (key, expiry) ∈ ((before ++ [(now, operation)]).perform
                Ledger.perform .empty).2.entries ↔
              ((before ++ [(now, operation)]).perform
                History.perform .empty).2.until? key = some expiry ∧
                now < expiry := by
  obtain ⟨start, hstart⟩ := hordered.exists_start
  refine ⟨(follows hordered hstart (Ledger.Follows.empty start)).1, ?_⟩
  intro before now operation hprefix hwrites key expiry
  exact mem_entries_of_write (hordered.sublist hprefix.sublist) hwrites key
    expiry

/-- A key is revoked, revoked again until an earlier moment, and claimed at
that very moment; another key has expired by then and is swept. -/
def sample : Schedule :=
  [(⟨0⟩, .revoke "a" ⟨9⟩), (⟨1⟩, .revoke "b" ⟨2⟩), (⟨2⟩, .revoke "a" ⟨3⟩),
    (⟨4⟩, .claim "a" ⟨9⟩), (⟨5⟩, .claim "a" ⟨9⟩), (⟨5⟩, .count),
    (⟨14⟩, .isRevoked "a")]

theorem findings_as_history_sample :
    (sample.perform Ledger.perform .empty).1 =
        [.done, .done, .done, .truth false, .truth true, .number 1,
          .truth false] ∧
      ("b", ⟨3⟩) ∉ (perform Ledger.perform (sample.take 4)
        .empty).2.entries := by
  have hordered : sample.Ordered := by decide
  have hfound := findings_as_history hordered
  constructor
  · rw [hfound.1]
    decide
  · have hprefix : sample.take 4 <+: sample := List.take_prefix 4 sample
    intro hmem
    have hkept := (hfound.2 (sample.take 3) ⟨4⟩ (.claim "a" ⟨9⟩) hprefix
      (by decide) "b" ⟨3⟩).1 hmem
    exact absurd hkept.2 (by decide)

end Schedule

end CivicRegistry.Token
