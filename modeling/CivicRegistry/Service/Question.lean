import CivicRegistry.Entity.Row
import CivicRegistry.Paging
import CivicRegistry.Predicate.Basic
import CivicRegistry.Store.Fault
import CivicRegistry.Token.Fault

/-!
# What the service asks

Whatever the service does not know of itself it asks its surroundings: the time,
a new identifier, the ledger of revoked tokens and the stores.  A ledger or a
store may answer, fail or stay silent for longer than the service waits.
-/

namespace CivicRegistry.Service

open Calendar (Moment Span)

/-- What comes of asking something that may fail or stay silent. -/
inductive Reply (ε α : Type) where
  | answered (value : α)
  | failed (error : ε)
  | silent

/-- The result of a reply; silence counts as the given error. -/
def Reply.result {ε α : Type} (silence : ε) : Reply ε α → Except ε α
  | .answered value => .ok value
  | .failed error => .error error
  | .silent => .error silence

inductive Question where
  | moment
  | identifier
  /-- Whether a key is revoked. -/
  | isRevoked (key : String)
  /-- To keep a key revoked for a span. -/
  | revoke (key : String) (span : Span)
  /-- To revoke a key for a span unless it is revoked; whether it was not. -/
  | claim (key : String) (span : Span)
  | find (entity : Entity) (spec : Specification entity.Field)
    (request : PageRequest entity.Field)
  /-- Whether all stores are well; the answer is waited for. -/
  | health

/-- What a question is answered with. -/
@[reducible]
def Question.Answer : Question → Type
  | .moment => Moment
  | .identifier => Uuid
  | .isRevoked _ => Reply Token.LedgerFault Bool
  | .revoke _ _ => Reply Token.LedgerFault Unit
  | .claim _ _ => Reply Token.LedgerFault Bool
  | .find entity _ _ => Reply Store.Fault (Page (Row entity))
  | .health => Except Store.Fault Unit

end CivicRegistry.Service
