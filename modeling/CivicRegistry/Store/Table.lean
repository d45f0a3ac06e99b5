import CivicRegistry.Paging
import CivicRegistry.Predicate.Match
import CivicRegistry.Ranking

/-!
# Tables in memory

A table holds rows in the order in which they were put in.  It is searched by
going over its rows: those that meet the specification are sorted and a page is
cut out of them.  Every row is visited once, so the demand for distinct rows is
met of itself.
-/

namespace CivicRegistry.Store

structure Table (entity : Entity) where
  rows : List (Row entity)

namespace Table

variable {entity : Entity}

def empty : Table entity := ⟨[]⟩

def size (table : Table entity) : Nat := table.rows.length

def insert (row : Row entity) (table : Table entity) : Table entity :=
  ⟨table.rows ++ [row]⟩

/-- The rows that meet a specification, sorted as a page request asks. -/
def matching (spec : Specification entity.Field)
    (request : PageRequest entity.Field) (table : Table entity) :
    List (Row entity) :=
  Ranking.sortRows request.sortField request.direction
    (table.rows.filter spec.predicate.holds)

/-- The page of the rows that meet a specification. -/
def find (spec : Specification entity.Field)
    (request : PageRequest entity.Field) (table : Table entity) :
    Page (Row entity) :=
  let rows := table.matching spec request
  Page.answering ((rows.drop request.offset).take request.size.toNat) request
    rows.length

end Table

end CivicRegistry.Store
