import CivicRegistry.Proofs.Criteria.Validation

/-!
# The page that is asked for

The check of a paging block knows no largest page, but the page request that is
made of the block does: numbers of pages are 32 bits wide.  Whatever else passes
the check is asked for as it is given, and the answer repeats it.
-/

namespace CivicRegistry

open Violations

namespace PagingBlock

variable {entity : Entity}

/-- The largest number of a page. -/
def largestPage : Int := 4294967295

/-- The number of the page that a block is about: the first one if none is
given. -/
def number (block : PagingBlock entity) : Int := block.page.getD 0

/-- The size of the pages that a block is about: the default one, moved into the
range of sizes, if none is given. -/
def size (block : PagingBlock entity) (defaultSize : Nat) : Int :=
  block.pageSize.getD (max 1 (min defaultSize largestSize))

/-! ## Moving into range -/

theorem toNat_clampedPage_eq (page : Int) :
    ((clampedPage page).toNat : Int) = max 0 (min page largestPage) := by
  have hwords : Int.pow 2 32 = 4294967296 := rfl
  have hlargest : largestPage = 4294967295 := rfl
  have hbound : (max 0 (min page (Int.pow 2 32 - 1))).toNat < 2 ^ 32 := by
    omega
  rw [clampedPage, UInt32.toNat_ofNat', Nat.mod_eq_of_lt hbound]
  omega

theorem toNat_clampedSize_eq (size : Int) :
    ((clampedSize size).toNat : Int) = max 1 (min size largestSize) := by
  have hlargest : largestSize = 100 := rfl
  have hbound : (max 1 (min size largestSize)).toNat < 2 ^ 32 := by omega
  rw [clampedSize, UInt32.toNat_ofNat', Nat.mod_eq_of_lt hbound]
  omega

/-- The pages that stay where they are. -/
theorem toNat_clampedPage_eq_self_iff {page : Int} :
    ((clampedPage page).toNat : Int) = page ↔
      0 ≤ page ∧ page ≤ largestPage := by
  have hlargest : largestPage = 4294967295 := rfl
  rw [toNat_clampedPage_eq]
  omega

/-- The sizes that stay what they are. -/
theorem toNat_clampedSize_eq_self_iff {size : Int} :
    ((clampedSize size).toNat : Int) = size ↔
      1 ≤ size ∧ size ≤ largestSize := by
  have hlargest : largestSize = 100 := rfl
  rw [toNat_clampedSize_eq]
  omega

/-! ## What the check charges -/

variable {block : PagingBlock entity}

theorem reports_check (block : PagingBlock entity) :
    Reports block.rules (block.check .empty) := by
  rw [check_eq]
  exact reports_recordAll block.rules

theorem page_mem_fields_iff :
    "page" ∈ (block.check .empty).fields ↔ ∃ page ∈ block.page, page < 0 := by
  rw [(reports_check block).fields]
  simp [rules, Rule.floor, Rule.span]

theorem pageSize_mem_fields_iff :
    "pageSize" ∈ (block.check .empty).fields ↔
      ∃ size ∈ block.pageSize, ¬(1 ≤ size ∧ size ≤ largestSize) := by
  rw [(reports_check block).fields]
  simp [rules, Rule.floor, Rule.span]

/-- The blocks that pass: a page is not negative and a size is in range. -/
theorem check_isEmpty_iff :
    (block.check .empty).isEmpty = true ↔
      (∀ page ∈ block.page, 0 ≤ page) ∧
        ∀ size ∈ block.pageSize, 1 ≤ size ∧ size ≤ largestSize := by
  rw [(reports_check block).isEmpty_iff]
  simp [rules, Rule.floor, Rule.span]

theorem number_nonneg (haccepted : (block.check .empty).isEmpty = true) :
    0 ≤ block.number := by
  rw [number]
  cases hpage : block.page with
  | none => exact Int.le_refl 0
  | some page => exact (check_isEmpty_iff.mp haccepted).1 page hpage

theorem size_inRange (haccepted : (block.check .empty).isEmpty = true)
    (defaultSize : Nat) :
    1 ≤ block.size defaultSize ∧ block.size defaultSize ≤ largestSize := by
  rw [size]
  cases hsize : block.pageSize with
  | none =>
    have hlargest : largestSize = 100 := rfl
    rw [Option.getD_none]
    omega
  | some size => exact (check_isEmpty_iff.mp haccepted).2 size hsize

/-! ## What is asked for -/

theorem toNat_page_request (defaultSize : Nat) :
    ((block.request defaultSize).page.toNat : Int) =
      max 0 (min block.number largestPage) :=
  toNat_clampedPage_eq _

/-- A default size that is moved into range twice is moved into it once. -/
theorem toNat_size_request (defaultSize : Nat) :
    ((block.request defaultSize).size.toNat : Int) =
      max 1 (min (block.size defaultSize) largestSize) := by
  rw [request, toNat_clampedSize_eq, size]
  cases block.pageSize with
  | none =>
    rw [Option.getD_none, Option.getD_none]
    omega
  | some size => rfl

end PagingBlock

/-- A page request is for a page of a size, and so says every document that
answers it. -/
structure PageRequest.IsFor {F : Type} (request : PageRequest F)
    (number size : Int) : Prop where
  page : (request.page.toNat : Int) = number
  pageSize : (request.size.toNat : Int) = size
  told : ∀ {α β : Type} (content : List α) (total : Nat) (shown : α → β)
      (encode : β → Json),
    let document :=
      ((Page.answering content request total).map shown).json encode
    document.member? "page" = some (.integer number) ∧
      document.member? "pageSize" = some (.integer size)

theorem PageRequest.isFor {F : Type} {request : PageRequest F}
    {number size : Int} (hnumber : (request.page.toNat : Int) = number)
    (hsize : (request.size.toNat : Int) = size) :
    request.IsFor number size where
  page := hnumber
  pageSize := hsize
  told := by
    subst hnumber hsize
    intros
    exact ⟨rfl, rfl⟩

namespace PagingBlock

variable {entity : Entity}

/-- The page and the size of a block that passes are asked for as they are, but
a page after the largest one is taken for that.  Only sizes that are charged are
moved into range, and of the pages only those that are charged or come after the
largest one. -/
theorem accepted_honoured (block : PagingBlock entity) (defaultSize : Nat) :
    ((block.check .empty).isEmpty = true →
      (block.request defaultSize).IsFor (min block.number largestPage)
        (block.size defaultSize)) ∧
    (∀ page ∈ block.page, ((clampedPage page).toNat : Int) ≠ page ↔
      "page" ∈ (block.check .empty).fields ∨ largestPage < page) ∧
    ∀ size ∈ block.pageSize, ((clampedSize size).toNat : Int) ≠ size ↔
      "pageSize" ∈ (block.check .empty).fields := by
  refine ⟨fun haccepted => ?_, ?_, ?_⟩
  · have hnumber := number_nonneg haccepted
    have hlargest : largestPage = 4294967295 := rfl
    obtain ⟨hpositive, hsize⟩ := size_inRange haccepted defaultSize
    apply PageRequest.isFor
    · rw [toNat_page_request]
      omega
    · rw [toNat_size_request]
      omega
  · intro page hpage
    rw [Ne, toNat_clampedPage_eq_self_iff, page_mem_fields_iff,
      Option.mem_def.mp hpage]
    simp only [Option.mem_some_iff, exists_eq_left']
    omega
  · intro size hsize
    rw [Ne, toNat_clampedSize_eq_self_iff, pageSize_mem_fields_iff,
      Option.mem_def.mp hsize]
    simp only [Option.mem_some_iff, exists_eq_left']

/-- The last page of provinces that can be asked for. -/
def lastProvinces : PagingBlock .provinces :=
  ⟨some 4294967295, none, none, none⟩

theorem accepted_honoured_sample :
    (lastProvinces.check .empty).isEmpty = true ∧
      (lastProvinces.request 500).IsFor 4294967295 100 := by
  have haccepted : (lastProvinces.check .empty).isEmpty = true := by decide
  exact ⟨haccepted, (accepted_honoured lastProvinces 500).1 haccepted⟩

/-- The page after the last one passes the check, and the last one is asked for
in its place. -/
theorem next_page_not_honoured :
    let next : PagingBlock .provinces := ⟨some 4294967296, none, none, none⟩
    (next.check .empty).isEmpty = true ∧ next.number = 4294967296 ∧
      (next.request 20).page = 4294967295 := by
  decide

end PagingBlock

end CivicRegistry
