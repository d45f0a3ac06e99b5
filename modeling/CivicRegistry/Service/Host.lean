import CivicRegistry.Service.Procedure
import CivicRegistry.Store.Table
import CivicRegistry.Token.Ledger

/-!
# Hosts

A host answers the questions of procedures from memory: it has a clock that
stands still between questions, counts out identifiers, and keeps a ledger and a
table for each entity.  The ledger and the stores can be out of order.
-/

namespace CivicRegistry.Service

open Calendar (Moment)

/-- Whether something works, fails or does not answer. -/
inductive Condition (ε : Type) where
  | well
  | failing (error : ε)
  | silent

/-- The reply of something that works under a condition. -/
def Condition.reply {ε α : Type} (condition : Condition ε) (value : α) :
    Reply ε α :=
  match condition with
  | .well => .answered value
  | .failing error => .failed error
  | .silent => .silent

structure Host where
  now : Moment
  /-- The number of identifiers that have been given out. -/
  identifiers : Nat
  ledger : Token.Ledger
  tables : (entity : Entity) → Store.Table entity
  lookups : Condition Token.LedgerFault
  revocations : Condition Token.LedgerFault
  claims : Condition Token.LedgerFault
  stores : Condition Store.Fault

namespace Host

/-- A host at a moment with an empty ledger and empty tables, all of it in
order. -/
def starting (now : Moment) : Host where
  now := now
  identifiers := 0
  ledger := .empty
  tables _ := .empty
  lookups := .well
  revocations := .well
  claims := .well
  stores := .well

/-- Something done to the ledger under a condition; nothing is done unless it is
in order. -/
def onLedger {α : Type} (condition : Condition Token.LedgerFault)
    (change : Token.Ledger → α × Token.Ledger)
    (host : Host) : Reply Token.LedgerFault α × Host :=
  let (value, ledger) := change host.ledger
  match condition with
  | .well => (.answered value, { host with ledger })
  | .failing error => (.failed error, host)
  | .silent => (.silent, host)

/-- The stores can be reached unless they are failing. -/
def health (host : Host) : Except Store.Fault Unit :=
  match host.stores with
  | .failing fault => .error fault
  | _ => .ok ()

/-- The answer to a question, and the host after it. -/
def answer : (question : Question) → StateM Host question.Answer
  | .moment => fun host => (host.now, host)
  | .identifier => fun host =>
    (⟨BitVec.ofNat 128 (host.identifiers + 1)⟩,
      { host with identifiers := host.identifiers + 1 })
  | .isRevoked key =>
    fun host => (host.lookups.reply (host.ledger.isRevoked host.now key), host)
  | .revoke key span => fun host =>
    host.onLedger host.revocations fun ledger =>
      ((), ledger.revoke host.now key span)
  | .claim key span =>
    fun host => host.onLedger host.claims fun ledger =>
      ledger.claim host.now key span
  | .find entity spec request =>
    fun host =>
      (host.stores.reply ((host.tables entity).find spec request), host)
  | .health => fun host => (host.health, host)

/-- Carries out a procedure. -/
def carryOut {α : Type} (procedure : Procedure α) : StateM Host (Option α) :=
  procedure.run answer

end Host

end CivicRegistry.Service
