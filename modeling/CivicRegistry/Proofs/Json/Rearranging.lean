import CivicRegistry.Intake.Shape
import CivicRegistry.Json.Passage
import CivicRegistry.Proofs.Entity.Resolution

/-!
# Documents with their members in another order

Outlines are rearrangements of each other if they differ only in the order in
which the members of objects stand, at any depth.  A rearrangement of a document
is a document of the same shape.  In a value that has no two members side by
side there is nothing to rearrange.
-/

namespace CivicRegistry.Json

namespace Passage

variable {α β : Type}

theorem map_eq_read_iff {passage : Passage α} {f : α → β} {value : β} :
    passage.map f = .read value ↔
      ∃ found, passage = .read found ∧ f found = value := by
  cases passage <;> simp [map]

theorem ofPart_ne_read (isLast : Bool) (passage : Passage α) (value : β) :
    passage.ofPart isLast ≠ .read value := by
  cases passage <;> cases isLast <;> nofun

end Passage

namespace Outline

variable {depth : Nat} {one other : Outline}

/-! ## Complete documents -/

theorem document?_eq_some_iff {document : Json} :
    one.document? depth = some document ↔
      one.passage depth = .read document := by
  rw [document?]
  cases one.passage depth <;> simp [Passage.value?]

theorem passages_eq_read_iff {items : List Outline} {documents : List Json} :
    passages depth items = .read documents ↔
      List.Forall₂ (fun item document => item.document? depth = some document)
        items documents := by
  induction items generalizing documents with
  | nil => simp [passages, eq_comm]
  | cons item others ih =>
    rw [passages, List.forall₂_cons_left_iff]
    simp only [← ih]
    simp only [document?_eq_some_iff]
    cases passage depth item with
    | read value => simp [Passage.map_eq_read_iff, eq_comm]
    | passed | stuck => simp [Passage.ofPart_ne_read]

theorem memberPassages_eq_read_iff {members : List (Pieces × Outline)}
    {documents : List (String × Json)} :
    memberPassages depth members = .read documents ↔
      List.Forall₂ (fun member document =>
        member.1.text? = some document.1 ∧
          member.2.document? depth = some document.2) members documents := by
  induction members generalizing documents with
  | nil => simp [memberPassages, eq_comm]
  | cons member others ih =>
    obtain ⟨pieces, outline⟩ := member
    rw [memberPassages, List.forall₂_cons_left_iff]
    simp only [← ih]
    simp only [document?_eq_some_iff]
    cases pieces.text? with
    | none => simp
    | some name =>
      cases passage depth outline with
      | read value => simp [Passage.map_eq_read_iff, eq_comm]
      | passed | stuck => simp [Passage.ofPart_ne_read]

theorem document?_array_eq_some_iff {items : List Outline} {closed : Bool}
    {document : Json} :
    (array items closed).document? depth = some document ↔
      (closed = true ∧ 0 < depth) ∧ ∃ documents, document = .array documents ∧
        List.Forall₂ (fun item document =>
          item.document? (depth - 1) = some document) items documents := by
  rw [document?_eq_some_iff, passage]
  by_cases hopen : closed = true ∧ 0 < depth
  · simp [hopen, Passage.map_eq_read_iff, passages_eq_read_iff, eq_comm,
      and_comm]
  · simp [hopen]

theorem document?_object_eq_some_iff {members : List (Pieces × Outline)}
    {closed : Bool} {document : Json} :
    (object members closed).document? depth = some document ↔
      (closed = true ∧ 0 < depth) ∧ ∃ documents, document = .object documents ∧
        List.Forall₂ (fun member document =>
          member.1.text? = some document.1 ∧
            member.2.document? (depth - 1) = some document.2)
          members documents := by
  rw [document?_eq_some_iff, passage]
  by_cases hopen : closed = true ∧ 0 < depth
  · simp [hopen, Passage.map_eq_read_iff, memberPassages_eq_read_iff, eq_comm,
      and_comm]
  · simp [hopen]

theorem document?_text {pieces : Pieces} {text : String}
    (htext : pieces.text? = some text) :
    (Outline.text pieces).document? depth = some (.text text) := by
  rw [document?_eq_some_iff, passage, Pieces.passage, htext]

/-- A document keeps the shape of its outline. -/
theorem shape_of_document? {document : Json}
    (hdocument : one.document? depth = some document) :
    one.shape = .ok document.shape := by
  cases one with
  | null | boolean =>
    cases hdocument
    rfl
  | number numeral =>
    rw [document?_eq_some_iff, passage] at hdocument
    cases numeral with
    | integer | float =>
      cases hdocument
      rfl
    | tooLarge digitsLeft =>
      rw [Numeral.passage] at hdocument
      split at hdocument <;> cases hdocument
  | text pieces =>
    rw [document?_eq_some_iff, passage, Pieces.passage] at hdocument
    rw [shape]
    cases hpieces : pieces.text? with
    | some text =>
      rw [hpieces] at hdocument
      cases hdocument
      rfl
    | none =>
      rw [hpieces] at hdocument
      dsimp only at hdocument
      split at hdocument <;> cases hdocument
  | array items closed =>
    obtain ⟨-, documents, rfl, -⟩ := document?_array_eq_some_iff.mp hdocument
    rfl
  | object members closed =>
    obtain ⟨-, documents, rfl, -⟩ := document?_object_eq_some_iff.mp hdocument
    rfl
  | broken => cases hdocument

/-- The outline of an object is an object, with a member for each of its. -/
theorem exists_members_of_document? {documents : List (String × Json)}
    (hdocument : one.document? depth = some (.object documents)) :
    ∃ members closed, one = .object members closed ∧
      List.Forall₂ (fun member document =>
        member.1.text? = some document.1 ∧
          member.2.document? (depth - 1) = some document.2)
        members documents := by
  have hshape := shape_of_document? hdocument
  cases one with
  | object members closed =>
    obtain ⟨-, found, hfound, hmembers⟩ :=
      document?_object_eq_some_iff.mp hdocument
    cases hfound
    exact ⟨members, closed, rfl, hmembers⟩
  | number numeral => cases numeral <;> cases hshape
  | text pieces =>
    rw [shape] at hshape
    cases hpieces : pieces.text? <;> rw [hpieces] at hshape <;> cases hshape
  | _ => cases hshape

/-- The outline can be read as a document. -/
def IsDocument (depth : Nat) (outline : Outline) : Prop :=
  ∃ document, outline.document? depth = some document

theorem isDocument_array_iff {items : List Outline} {closed : Bool} :
    (array items closed).IsDocument depth ↔
      (closed = true ∧ 0 < depth) ∧
        ∀ item ∈ items, item.IsDocument (depth - 1) := by
  simp only [IsDocument, document?_array_eq_some_iff, ← exists_forall₂_iff]
  simp

theorem isDocument_object_iff {members : List (Pieces × Outline)}
    {closed : Bool} :
    (object members closed).IsDocument depth ↔
      (closed = true ∧ 0 < depth) ∧ ∀ member ∈ members,
        (∃ name, member.1.text? = some name) ∧
          member.2.IsDocument (depth - 1) := by
  have hmember (member : Pieces × Outline) :
      ((∃ name, member.1.text? = some name) ∧
          member.2.IsDocument (depth - 1)) ↔
        ∃ document : String × Json, member.1.text? = some document.1 ∧
          member.2.document? (depth - 1) = some document.2 := by
    rw [IsDocument]
    simp [Prod.exists]
  simp only [hmember, ← exists_forall₂_iff]
  simp only [IsDocument, document?_object_eq_some_iff]
  simp

/-! ## Rearrangements -/

/-- The members of one object change places. -/
inductive Exchange : Outline → Outline → Prop
  | members {left right : List (Pieces × Outline)} {closed : Bool}
      (horder : left.Perm right) :
      Exchange (.object left closed) (.object right closed)
  | member {before after : List (Pieces × Outline)} {name : Pieces}
      {value changed : Outline} {closed : Bool}
      (hvalue : Exchange value changed) :
      Exchange (.object (before ++ (name, value) :: after) closed)
        (.object (before ++ (name, changed) :: after) closed)
  | item {before after : List Outline} {value changed : Outline} {closed : Bool}
      (hvalue : Exchange value changed) :
      Exchange (.array (before ++ value :: after) closed)
        (.array (before ++ changed :: after) closed)

namespace Exchange

theorem symm (hexchange : Exchange one other) : Exchange other one := by
  induction hexchange with
  | members horder => exact .members horder.symm
  | member _ ih => exact .member ih
  | item _ ih => exact .item ih

theorem shape_eq (hexchange : Exchange one other) :
    other.shape = one.shape := by
  cases hexchange <;> rfl

theorem isDocument (hexchange : Exchange one other)
    (hdocument : one.IsDocument depth) : other.IsDocument depth := by
  induction hexchange generalizing depth with
  | members horder =>
    rw [isDocument_object_iff] at hdocument ⊢
    refine ⟨hdocument.1, fun member hmember => ?_⟩
    exact hdocument.2 member (horder.mem_iff.mpr hmember)
  | member hvalue ih =>
    rw [isDocument_object_iff, List.forall_mem_append,
      List.forall_mem_cons] at hdocument ⊢
    obtain ⟨hclosed, hbefore, ⟨hname, hchanged⟩, hafter⟩ := hdocument
    exact ⟨hclosed, hbefore, ⟨hname, ih hchanged⟩, hafter⟩
  | item hvalue ih =>
    rw [isDocument_array_iff, List.forall_mem_append,
      List.forall_mem_cons] at hdocument ⊢
    obtain ⟨hclosed, hbefore, hchanged, hafter⟩ := hdocument
    exact ⟨hclosed, hbefore, ih hchanged, hafter⟩

end Exchange

/-- Members of objects stand in another order, at any depth. -/
def Rearranged : Outline → Outline → Prop :=
  Relation.ReflTransGen Exchange

/-- The same items, up to a relation and but for their order and repetition. -/
structure SameItems (related : Outline → Outline → Prop)
    (left right : List Outline) : Prop where
  forth : ∀ item ∈ left, ∃ counterpart ∈ right, related item counterpart
  back : ∀ counterpart ∈ right, ∃ item ∈ left, related item counterpart

namespace SameItems

variable {related : Outline → Outline → Prop} {left middle right : List Outline}

theorem of_mem_iff (hrefl : ∀ item, related item item)
    (hitems : ∀ item, item ∈ left ↔ item ∈ right) :
    SameItems related left right where
  forth item hitem := ⟨item, (hitems item).mp hitem, hrefl item⟩
  back item hitem := ⟨item, (hitems item).mpr hitem, hrefl item⟩

theorem imp {wider : Outline → Outline → Prop}
    (hwider : ∀ one other, related one other → wider one other)
    (hitems : SameItems related left right) : SameItems wider left right where
  forth item hitem := by
    obtain ⟨counterpart, hmem, hrelated⟩ := hitems.forth item hitem
    exact ⟨counterpart, hmem, hwider _ _ hrelated⟩
  back item hitem := by
    obtain ⟨counterpart, hmem, hrelated⟩ := hitems.back item hitem
    exact ⟨counterpart, hmem, hwider _ _ hrelated⟩

theorem symm (hsymm : ∀ one other, related one other → related other one)
    (hitems : SameItems related left right) :
    SameItems related right left where
  forth item hitem := by
    obtain ⟨counterpart, hmem, hrelated⟩ := hitems.back item hitem
    exact ⟨counterpart, hmem, hsymm _ _ hrelated⟩
  back item hitem := by
    obtain ⟨counterpart, hmem, hrelated⟩ := hitems.forth item hitem
    exact ⟨counterpart, hmem, hsymm _ _ hrelated⟩

theorem trans
    (htrans : ∀ one two three,
      related one two → related two three → related one three)
    (hleft : SameItems related left middle)
    (hright : SameItems related middle right) :
    SameItems related left right where
  forth item hitem := by
    obtain ⟨between, hbetween, hfirst⟩ := hleft.forth item hitem
    obtain ⟨counterpart, hmem, hsecond⟩ := hright.forth between hbetween
    exact ⟨counterpart, hmem, htrans _ _ _ hfirst hsecond⟩
  back item hitem := by
    obtain ⟨between, hbetween, hsecond⟩ := hright.back item hitem
    obtain ⟨counterpart, hmem, hfirst⟩ := hleft.back between hbetween
    exact ⟨counterpart, hmem, htrans _ _ _ hfirst hsecond⟩

theorem isDocument {closed : Bool} (hitems : SameItems related left right)
    (hrelated : ∀ one other depth, related one other →
      one.IsDocument depth → other.IsDocument depth)
    (hdocument : (array left closed).IsDocument depth) :
    (array right closed).IsDocument depth := by
  rw [isDocument_array_iff] at hdocument ⊢
  refine ⟨hdocument.1, fun counterpart hmem => ?_⟩
  obtain ⟨item, hitem, hcounterpart⟩ := hitems.back counterpart hmem
  exact hrelated _ _ _ hcounterpart (hdocument.2 item hitem)

end SameItems

/-- No object in the outline has members to exchange. -/
def IsRigid (outline : Outline) : Prop :=
  ∀ other, Exchange outline other → other = outline

namespace Rearranged

theorem refl (outline : Outline) : Rearranged outline outline :=
  Relation.ReflTransGen.refl

theorem symm (hrearranged : Rearranged one other) : Rearranged other one := by
  induction hrearranged with
  | refl => exact refl _
  | tail _ hexchange ih => exact Relation.ReflTransGen.head hexchange.symm ih

theorem shape_eq (hrearranged : Rearranged one other) :
    other.shape = one.shape := by
  induction hrearranged with
  | refl => rfl
  | tail _ hexchange ih => exact hexchange.shape_eq.trans ih

theorem isDocument (hrearranged : Rearranged one other)
    (hdocument : one.IsDocument depth) : other.IsDocument depth := by
  induction hrearranged with
  | refl => exact hdocument
  | tail _ hexchange ih => exact hexchange.isDocument ih

theorem eq_of_isRigid (hrigid : one.IsRigid)
    (hrearranged : Rearranged one other) : other = one := by
  induction hrearranged with
  | refl => rfl
  | tail _ hexchange ih =>
    rw [ih] at hexchange
    exact hrigid _ hexchange

/-- The items of a list stay in their places. -/
theorem exists_items {items : List Outline} {closed : Bool}
    (hrearranged : Rearranged (.array items closed) other) :
    ∃ changed, other = .array changed closed ∧
      SameItems Rearranged items changed := by
  induction hrearranged with
  | refl => exact ⟨items, rfl, .of_mem_iff refl fun _ => Iff.rfl⟩
  | tail _ hexchange ih =>
    obtain ⟨between, rfl, hitems⟩ := ih
    cases hexchange with
    | @item before after value changed _ hvalue =>
      refine ⟨_, rfl, hitems.trans (fun _ _ _ => .trans) ?_⟩
      have hchanged : Rearranged value changed := .single hvalue
      have hkept (item : Outline) : Rearranged item item := refl item
      constructor <;> simp only [List.forall_mem_append, List.forall_mem_cons]
      · refine ⟨fun item hitem => ⟨item, by simp [hitem], hkept item⟩,
          ⟨changed, by simp, hchanged⟩,
          fun item hitem => ⟨item, by simp [hitem], hkept item⟩⟩
      · refine ⟨fun item hitem => ⟨item, by simp [hitem], hkept item⟩,
          ⟨value, by simp, hchanged⟩,
          fun item hitem => ⟨item, by simp [hitem], hkept item⟩⟩

end Rearranged

/-! ## Outlines with nothing to rearrange -/

/-- What is neither a list nor an object has no members. -/
theorem isRigid_of_shape {shape : Shape} (hshape : one.shape = .ok shape)
    (harray : shape ≠ .array) (hobject : shape ≠ .object) : one.IsRigid := by
  intro other hexchange
  cases hexchange with
  | item => exact absurd (Except.ok.inj hshape).symm harray
  | members | member => exact absurd (Except.ok.inj hshape).symm hobject

theorem isRigid_object_nil (closed : Bool) : (object [] closed).IsRigid := by
  intro other hexchange
  generalize hmembers : ([] : List (Pieces × Outline)) = members at hexchange
  cases hexchange with
  | members horder =>
    subst hmembers
    rw [List.nil_perm.mp horder]
  | member => simp at hmembers

/-- An object with one member can only change inside of it. -/
theorem IsRigid.object_singleton {name : Pieces} {value : Outline}
    (hvalue : value.IsRigid) (closed : Bool) :
    (object [(name, value)] closed).IsRigid := by
  intro other hexchange
  generalize hmembers : [(name, value)] = members at hexchange
  cases hexchange with
  | members horder =>
    subst hmembers
    rw [List.singleton_perm.mp horder]
  | @member before after _ inner changed _ hchanged =>
    rw [eq_comm, List.append_eq_singleton_iff] at hmembers
    obtain ⟨rfl, hmember⟩ | ⟨-, hmember⟩ := hmembers
    · obtain ⟨⟨rfl, rfl⟩, rfl⟩ : ((_ = name) ∧ inner = value) ∧ after = [] := by
        simpa using hmember
      rw [hvalue changed hchanged]
    · cases hmember

end Outline

end CivicRegistry.Json
