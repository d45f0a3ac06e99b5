import CivicRegistry.Calendar.Moment

/-!
# The ledger of revoked tokens

The ledger keeps keys until a moment each.  A key counts as long as its moment
lies ahead; whenever something is put in, the entries whose moment has come are
swept out, so that they do not pile up.
-/

namespace CivicRegistry.Token

open Calendar (Moment Span)

/-- Keys with the moments until which they are kept, every key once. -/
structure Ledger where
  entries : List (String × Moment)
  distinct : (entries.map (·.1)).Nodup

namespace Ledger

def empty : Ledger := ⟨[], .nil⟩

instance : Inhabited Ledger := ⟨empty⟩

/-- The entries that meet a condition. -/
def filter (keep : String × Moment → Bool) (ledger : Ledger) : Ledger :=
  ⟨ledger.entries.filter keep,
    ledger.distinct.sublist (List.filter_sublist.map _)⟩

/-- The moment until which a key is kept. -/
def until? (key : String) (ledger : Ledger) : Option Moment :=
  ledger.entries.lookup key

/-- The entries whose moment lies ahead. -/
def sweep (now : Moment) (ledger : Ledger) : Ledger :=
  ledger.filter fun entry => now < entry.2

/-- Puts a key in the place of an entry for it. -/
def insert (key : String) (expiry : Moment) (ledger : Ledger) : Ledger :=
  let others := ledger.filter fun entry => entry.1 != key
  ⟨(key, expiry) :: others.entries, by
    refine List.nodup_cons.2 ⟨?_, others.distinct⟩
    simp [others, filter]⟩

/-- Whether a key is revoked at a moment. -/
def isRevoked (now : Moment) (key : String) (ledger : Ledger) : Bool :=
  (ledger.until? key).any fun expiry => now < expiry

/-- The number of keys that are revoked at a moment. -/
def count (now : Moment) (ledger : Ledger) : Nat :=
  (ledger.sweep now).entries.length

/-- Revokes a key for a span, whether or not it is revoked already; an empty
span changes nothing. -/
def revoke (now : Moment) (key : String) (span : Span) (ledger : Ledger) :
    Ledger :=
  if span.nanos = 0 then ledger
  else (ledger.sweep now).insert key (now.after span)

/-- Revokes a key for a span unless it is revoked, and tells whether it was not;
an empty span revokes nothing. -/
def claim (now : Moment) (key : String) (span : Span) (ledger : Ledger) :
    Bool × Ledger :=
  if span.nanos = 0 then (false, ledger)
  else
    let swept := ledger.sweep now
    if (swept.until? key).isSome then (false, swept)
    else (true, swept.insert key (now.after span))

end Ledger

end CivicRegistry.Token
