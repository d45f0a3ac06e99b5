import CivicRegistry.Criteria.Violations
import CivicRegistry.Entity.Basic
import CivicRegistry.Geography
import CivicRegistry.Paging

/-!
# Blocks that requests share

Every search request has a block for the page and its order.  Requests for
located entities have a block for a circle, and requests for the levels of
administration one for bounds on area and population.
-/

namespace CivicRegistry

/-- The page that is asked for and its order. -/
structure PagingBlock (entity : Entity) where
  page : Option Int
  pageSize : Option Int
  sortBy : Option entity.SortField
  direction : Option Direction

namespace PagingBlock

variable {entity : Entity}

def empty : PagingBlock entity := ⟨none, none, none, none⟩

/-- The most rows that a page has. -/
def largestSize : Nat := 100

/-- The rows of a page when no number is configured. -/
def standardSize : Nat := 20

def check (block : PagingBlock entity) (violations : Violations) : Violations :=
  (violations.atLeast "page" block.page 0).between "pageSize" block.pageSize 1
    largestSize

/-- A size moved into the range of sizes. -/
def clampedSize (size : Int) : UInt32 :=
  UInt32.ofNat (max 1 (min size largestSize)).toNat

/-- A page number moved into the range of page numbers. -/
def clampedPage (page : Int) : UInt32 :=
  UInt32.ofNat (max 0 (min page (Int.pow 2 32 - 1))).toNat

/-- The page request of a block; what is not given is the first page, the
default size and the default order. -/
def request (block : PagingBlock entity) (defaultSize : Nat) :
    PageRequest entity.Field where
  page := clampedPage (block.page.getD 0)
  size := clampedSize (block.pageSize.getD defaultSize)
  sortField := (block.sortBy.getD entity.defaultSort).val
  direction := block.direction.getD .ascending

end PagingBlock

/-- A circle that is asked for, as far as it is given. -/
structure LocationBlock where
  latitude : Option Float
  longitude : Option Float
  radius : Option Float

namespace LocationBlock

def empty : LocationBlock := ⟨none, none, none⟩

/-- The largest radius in kilometres. -/
def largestRadius : Float := 500.0

/-- Both coordinates have to be given or none. -/
def checkPoint (block : LocationBlock) (violations : Violations) : Violations :=
  match block.latitude, block.longitude with
  | some _, none =>
    violations.add "longitude" "longitude is required when latitude is given"
  | none, some _ =>
    violations.add "latitude" "latitude is required when longitude is given"
  | _, _ => violations

/-- A radius goes with a point and is positive and not too large. -/
def checkRadius (block : LocationBlock) (violations : Violations) :
    Violations :=
  let hasPoint := block.latitude.isSome || block.longitude.isSome
  match block.radius with
  | none =>
    violations.addIf hasPoint "radiusKm"
      "radiusKm is required for a geographic search"
  | some radius =>
    if !hasPoint then
      violations.add "radiusKm" "radiusKm requires latitude and longitude"
    else
      violations.addIf (radius ≤ 0.0 || largestRadius < radius) "radiusKm"
        ("radiusKm must be greater than 0 and at most " ++
          Written.written largestRadius)

def check (block : LocationBlock) (violations : Violations) : Violations :=
  let violations := violations.between "latitude" block.latitude (-90.0) 90.0
  let violations :=
    violations.between "longitude" block.longitude (-180.0) 180.0
  block.checkRadius (block.checkPoint violations)

/-- The circle, once its point and radius are given. -/
def circle? (block : LocationBlock) : Option Circle := do
  return ⟨⟨← block.latitude, ← block.longitude⟩, ← block.radius⟩

/-- The document of the block; what is not given is null. -/
def json (block : LocationBlock) : Json :=
  .object [("latitude", Json.ofOption .float block.latitude),
    ("longitude", Json.ofOption .float block.longitude),
    ("radiusKm", Json.ofOption .float block.radius)]

end LocationBlock

/-- Bounds on area and population, both included. -/
structure SizeBlock where
  minArea : Option Float
  maxArea : Option Float
  minPopulation : Option Int
  maxPopulation : Option Int

namespace SizeBlock

def empty : SizeBlock := ⟨none, none, none, none⟩

def check (block : SizeBlock) (violations : Violations) : Violations :=
  let violations := violations.atLeast "minArea" block.minArea 0.0
  let violations := violations.atLeast "maxArea" block.maxArea 0.0
  let violations :=
    violations.range "minArea" block.minArea "maxArea" block.maxArea
  let violations := violations.atLeast "minPopulation" block.minPopulation 0
  let violations := violations.atLeast "maxPopulation" block.maxPopulation 0
  violations.range "minPopulation" block.minPopulation "maxPopulation"
    block.maxPopulation

end SizeBlock

end CivicRegistry
