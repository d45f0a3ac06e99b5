import CivicRegistry.Criteria.Basic
import CivicRegistry.Service.Procedure

/-!
# Searching

A search checks the request, asks the store of its entity for one page and
projects the rows of the page on the attributes that are asked for.
-/

namespace CivicRegistry.Service

/-- How searches are carried out: the size of a page where none is given, and
how long a store may take. -/
structure SearchSettings where
  defaultSize : Nat
  timeout : Calendar.Span

/-- Why a search gives no page. -/
inductive SearchFault where
  | invalid (violations : Violations)
  | store (fault : Store.Fault)
deriving DecidableEq

def SearchFault.message : SearchFault → String
  | .invalid violations => violations.text
  | .store fault => fault.message

variable {entity : Entity}

/-- The page of projections that comes of what a store replies. -/
def projected (criteria : entity.Criteria) (timeout : Calendar.Span)
    (reply : Reply Store.Fault (Page (Row entity))) :
    Except SearchFault (Page Projection) :=
  match reply.result (.timedOut timeout) with
  | .ok page =>
    .ok (page.map fun row =>
      Projection.ofRow row (Criteria.selectedFields criteria))
  | .error fault => .error (.store fault)

/-- Searches an entity. -/
def search (settings : SearchSettings) (criteria : entity.Criteria) :
    Procedure (Except SearchFault (Page Projection)) :=
  match Criteria.validate criteria with
  | .error violations => return .error (.invalid violations)
  | .ok () => do
    let request := Criteria.pageRequest criteria settings.defaultSize
    let reply ←
      Procedure.question
        (.find entity (Criteria.specification criteria) request)
    return projected criteria settings.timeout reply

end CivicRegistry.Service
