import CivicRegistry.Json.Value

/-!
# Pages

A page request names a page by its number and size and says how the rows are
sorted.  A page carries its rows together with the number of all rows and what
follows from it.
-/

namespace CivicRegistry

inductive Direction where
  | ascending
  | descending
deriving DecidableEq, Inhabited

namespace Direction

/-- The order seen in a direction. -/
def apply : Direction → Ordering → Ordering
  | .ascending, order => order
  | .descending, order => order.swap

def word : Direction → String
  | .ascending => "ASC"
  | .descending => "DESC"

end Direction

/-- The page with the given number, counted from zero, of rows sorted by a
field. -/
structure PageRequest (F : Type) where
  page : UInt32
  size : UInt32
  sortField : F
  direction : Direction

/-- The number of rows before the page. -/
def PageRequest.offset {F : Type} (request : PageRequest F) : Nat :=
  request.page.toNat * request.size.toNat

structure Page (α : Type) where
  content : List α
  page : UInt32
  pageSize : UInt32
  totalElements : Nat
  totalPages : Nat
  first : Bool
  last : Bool

namespace Page

/-- The number of pages of the given size that hold a number of rows; an empty
page counts as one of one row. -/
def pageCount (size : UInt32) (total : Nat) : Nat :=
  let rowsPerPage := max size.toNat 1
  (total + rowsPerPage - 1) / rowsPerPage

/-- The page that answers a request, given its rows and the number of all
rows. -/
def answering {α F : Type} (content : List α) (request : PageRequest F)
    (total : Nat) : Page α where
  content := content
  page := request.page
  pageSize := request.size
  totalElements := total
  totalPages := pageCount request.size total
  first := request.page.toNat == 0
  last := pageCount request.size total ≤ request.page.toNat + 1

def map {α β : Type} (f : α → β) (page : Page α) : Page β :=
  { page with content := page.content.map f }

/-- The members that describe a page apart from its rows. -/
def metadata {α : Type} (page : Page α) : List (String × Json) :=
  [("page", .integer page.page.toNat),
    ("pageSize", .integer page.pageSize.toNat),
    ("totalElements", .integer page.totalElements),
    ("totalPages", .integer page.totalPages), ("first", .boolean page.first),
    ("last", .boolean page.last)]

def json {α : Type} (encode : α → Json) (page : Page α) : Json :=
  .object (("content", .array (page.content.map encode)) :: page.metadata)

end Page

end CivicRegistry
