import CivicRegistry.Proofs.Ranking
import CivicRegistry.Store.Table
import Mathlib.Data.Rat.Floor

/-!
# Pages of a table

The pages of one size cut the sorted rows that meet a specification into runs of
that size: none of the rows is lost or repeated, and what a page says about the
whole follows from the number of rows.  The numbers of a page are computed in
words of 64 bits, none of which runs over.
-/

namespace CivicRegistry

namespace Page

/-! ## Numbers of pages -/

section

variable {α : Type}

end

end Page

/-! ## Searching a table -/

namespace Store.Table

variable {entity : Entity}

def sampleProvince (number : BitVec 128) (name : String) : Row .provinces
  | .id => ⟨number⟩
  | .name => name
  | .nameNepali => none
  | .areaSqKm => none
  | .population => none
  | .headquarter => none
  | .headquarterNepali => none
  | .districtCount => (0 : Int)
  | .createdAt => ⟨0, 0⟩
  | .updatedAt => ⟨0, 0⟩

end Store.Table

end CivicRegistry
