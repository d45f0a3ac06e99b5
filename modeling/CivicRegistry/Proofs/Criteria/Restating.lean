import CivicRegistry.Proofs.Criteria.Blame
import CivicRegistry.Proofs.Intake.Reordering
import CivicRegistry.Proofs.Json.Printing
import CivicRegistry.Sql.Statement

/-!
# Bodies that ask for the same

One request can be written in many ways: with its members in any order, with the
values of a set in any order and more than once, and with either spelling of an
attribute.  Bodies that differ in nothing else are all accepted or all refused,
and are read as one request.
-/

namespace CivicRegistry

variable {entity : Entity}

/-! ## What may differ -/

/-- The keys under which a list stands for the set of its items. -/
def FilterKey.lists : List FilterKey :=
  [.roles, .officePosts, .houseOwnerships, .types, .fields]

namespace Criteria

open Json.Outline (Rearranged SameItems)

/-- Texts that name one attribute. -/
inductive Respelled (entity : Entity) : Json.Outline → Json.Outline → Prop
  | intro {one other : Json.Pieces} {token spelling : String}
      {field : entity.Field} (hone : one.text? = some token)
      (hother : other.text? = some spelling)
      (htoken : Entity.Names token field)
      (hspelling : Entity.Names spelling field) :
      Respelled entity (.text one) (.text other)

/-- Items that count as one in a list under a key. -/
inductive SameItem (entity : Entity) (key : FilterKey) :
    Json.Outline → Json.Outline → Prop
  | rearranged {one other : Json.Outline} (hvalues : Rearranged one other) :
      SameItem entity key one other
  | respelled {one other : Json.Outline} (hkey : key = .fields)
      (hspelling : Respelled entity one other) : SameItem entity key one other

/-- Values under a name that differ only in the order of members, in the order
and the repetition of the items of a list under its key, and in the spelling of
attributes. -/
inductive SameUnder (entity : Entity) (name : Option String) :
    Json.Outline → Json.Outline → Prop
  | rearranged {one other : Json.Outline} (hvalues : Rearranged one other) :
      SameUnder entity name one other
  | items {key : FilterKey} {left right : List Json.Outline} {closed : Bool}
      (hkey : key ∈ FilterKey.lists) (hname : name = some key.name)
      (hitems : SameItems (SameItem entity key) left right) :
      SameUnder entity name (.array left closed) (.array right closed)
  | sorting {one other : Json.Outline}
      (hname : name = some PagingKey.sortBy.name)
      (hspelling : Respelled entity one other) : SameUnder entity name one other

/-- Members of one name whose values are the same under it. -/
structure SameMember (entity : Entity)
    (one other : Json.Pieces × Json.Outline) : Prop where
  name_eq : other.1 = one.1
  value : SameUnder entity one.1.text? one.2 other.2

/-- Objects whose members are the same, in whatever order. -/
inductive Restated (entity : Entity) : Json.Outline → Json.Outline → Prop
  | object {left middle right : List (Json.Pieces × Json.Outline)}
      {closed : Bool} (horder : left.Perm middle)
      (hmembers : List.Forall₂ (SameMember entity) middle right) :
      Restated entity (.object left closed) (.object right closed)

section Relations

variable {one other : Json.Outline} {key : FilterKey} {name : Option String}

theorem Respelled.symm (hspelling : Respelled entity one other) :
    Respelled entity other one := by
  cases hspelling with
  | intro hone hother htoken hspelling =>
    exact .intro hother hone hspelling htoken

/-- The constant name and the wire name of an attribute are two spellings. -/
theorem respelled_wireName (field : entity.Field) {wire : String}
    (hwire : Naming.wireName (Entity.info field).constant = wire) :
    Respelled entity (Json.text (Entity.info field).constant).outlined
      (Json.text wire).outlined := by
  subst hwire
  exact .intro (Json.text?_map_char _) (Json.text?_map_char _)
    (Entity.names_constant field) (Entity.names_wireName field)

theorem SameItem.symm (hitem : SameItem entity key one other) :
    SameItem entity key other one := by
  cases hitem with
  | rearranged hvalues => exact .rearranged hvalues.symm
  | respelled hkey hspelling => exact .respelled hkey hspelling.symm

theorem SameUnder.symm (hvalues : SameUnder entity name one other) :
    SameUnder entity name other one := by
  cases hvalues with
  | rearranged hvalues => exact .rearranged hvalues.symm
  | items hkey hname hitems =>
    exact .items hkey hname (hitems.symm fun _ _ => SameItem.symm)
  | sorting hname hspelling => exact .sorting hname hspelling.symm

theorem SameMember.symm {one other : Json.Pieces × Json.Outline}
    (hmember : SameMember entity one other) : SameMember entity other one where
  name_eq := hmember.name_eq.symm
  value := by
    rw [hmember.name_eq]
    exact hmember.value.symm

theorem Restated.symm (hrestated : Restated entity one other) :
    Restated entity other one := by
  cases hrestated with
  | @object left middle right closed horder hmembers =>
    -- On the way back values come before the order, so the two are exchanged.
    have hback : List.Forall₂ (SameMember entity) right middle :=
      (hmembers.imp fun _ _ => SameMember.symm).flip
    obtain ⟨between, hbetween, hleft⟩ :
        (Relation.Comp List.Perm (List.Forall₂ (SameMember entity)))
          right left := by
      rw [← List.forall₂_comp_perm_eq_perm_comp_forall₂]
      exact ⟨middle, hback, horder.symm⟩
    exact .object hbetween hleft

theorem Respelled.isDocument {depth : Nat}
    (hspelling : Respelled entity one other) : other.IsDocument depth := by
  cases hspelling with
  | @intro _ other _ spelling _ _ hother =>
    exact ⟨.text spelling, Json.Outline.document?_text hother⟩

theorem SameItem.isDocument {depth : Nat}
    (hitem : SameItem entity key one other)
    (hone : one.IsDocument depth) : other.IsDocument depth := by
  cases hitem with
  | rearranged hvalues => exact hvalues.isDocument hone
  | respelled _ hspelling => exact hspelling.isDocument

theorem SameUnder.isDocument {depth : Nat}
    (hvalues : SameUnder entity name one other)
    (hone : one.IsDocument depth) : other.IsDocument depth := by
  cases hvalues with
  | rearranged hvalues => exact hvalues.isDocument hone
  | items _ _ hitems =>
    exact hitems.isDocument (fun _ _ _ => SameItem.isDocument) hone
  | sorting _ hspelling => exact hspelling.isDocument

end Relations

theorem keptRefusal?_eq_none_iff {value : Json.Outline} :
    keptRefusal? value = none ↔ value.IsDocument (Json.depthLimit - 1) := by
  rw [keptRefusal?, Json.Outline.IsDocument]
  cases value.document? (Json.depthLimit - 1) <;> simp

end Criteria

/-! ## Filters -/

namespace FilterKey

open Criteria Json.Outline

theorem eq_of_name_eq {key other : FilterKey} (hother : other ∈ lists)
    (hname : key.name = other.name) : key = other := by
  have hall : ∀ other ∈ lists, key.name = other.name → key = other := by
    cases key <;> decide
  exact hall other hother hname

theorem name_ne_paging (key : FilterKey) (other : PagingKey) :
    key.name ≠ other.name := by
  cases key <;> cases other <;> decide

/-- The keys of an entity are found by their names. -/
theorem keyOf?_name {key : FilterKey} (hkey : key ∈ ofEntity entity) :
    (schema entity).keyOf? key.name = some key := by
  have hall : ∀ key ∈ ofEntity entity,
      (schema entity).keyOf? key.name = some key := by
    cases entity <;> decide
  exact hall key hkey

/-- The items of a list are those of the other one. -/
theorem exists_items {key : FilterKey} {items : List Json.Outline}
    {closed : Bool} {other : Json.Outline}
    (hvalues : SameUnder entity (some key.name) (.array items closed) other) :
    ∃ changed, other = .array changed closed ∧
      SameItems (SameItem entity key) items changed := by
  cases hvalues with
  | rearranged hvalues =>
    obtain ⟨changed, rfl, hitems⟩ := hvalues.exists_items
    exact ⟨changed, rfl, hitems.imp fun _ _ => .rearranged⟩
  | items hlisted hname hitems =>
    obtain rfl := eq_of_name_eq hlisted (Option.some.inj hname)
    exact ⟨_, rfl, hitems⟩
  | sorting hname => exact absurd (Option.some.inj hname) (key.name_ne_paging _)

theorem eq_null_of_sameUnder {name : Option String} {other : Json.Outline}
    (hvalues : SameUnder entity name .null other) : other = .null := by
  cases hvalues with
  | rearranged hvalues => exact hvalues.eq_of_isRigid Intake.isRigid_null
  | sorting _ hspelling => cases hspelling

/-- Under any other key values differ only in the order of members. -/
theorem rearranged_of_sameUnder {key : FilterKey} (hkey : key ∉ lists)
    {one other : Json.Outline}
    (hvalues : SameUnder entity (some key.name) one other) :
    Rearranged one other := by
  cases hvalues with
  | rearranged hvalues => exact hvalues
  | items hlisted hname =>
    rw [eq_of_name_eq hlisted (Option.some.inj hname)] at hkey
    exact absurd hlisted hkey
  | sorting hname => exact absurd (Option.some.inj hname) (key.name_ne_paging _)

/-- Values that are read under a key and stand for the same filter: lists do so
by their members. -/
def Alike (entity : Entity) : (key : FilterKey) →
    Carrier entity key → Carrier entity key → Prop
  | .roles, one, other => ∀ role, role ∈ one ↔ role ∈ other
  | .officePosts, one, other => ∀ post, post ∈ one ↔ post ∈ other
  | .houseOwnerships, one, other => ∀ kind, kind ∈ one ↔ kind ∈ other
  | .types, one, other => ∀ kind, kind ∈ one ↔ kind ∈ other
  | .fields, one, other =>
    Option.Rel (fun one other => ∀ field, field ∈ one ↔ field ∈ other) one other
  | _, one, other => one = other

theorem respects_maybe {α : Type} {read : Reader Shape α} :
    Respects Rearranged (maybe read) :=
  Intake.respects_optional Intake.respects_single

theorem respects_words {α : Type} [Vocabulary α] {key : FilterKey}
    (hkey : key ≠ .fields) :
    Respects (SameItem entity key)
      (Intake.wordOfOutline (Vocabulary.ofWord? : String → Option α)) := by
  intro one other value hitem hread
  cases hitem with
  | rearranged hvalues =>
    exact Intake.respects_wordOfOutline one other value hvalues hread
  | respelled hfields => exact absurd hfields hkey

/-- Both spellings are read as the attribute that they name. -/
theorem respects_tokens :
    Respects (SameItem entity .fields)
      (Intake.single (Shape.readField entity)) := by
  intro one other field hitem hread
  cases hitem with
  | rearranged hvalues =>
    exact Intake.respects_single one other field hvalues hread
  | respelled _ hspelling =>
    rw [Shape.single_readField_eq_ok_iff] at hread ⊢
    cases hspelling with
    | @intro _ _ token spelling named hone hother htoken hspelling =>
      obtain ⟨read, hshape, hnames⟩ := hread
      rw [Json.Outline.shape, hone] at hshape
      cases hshape
      rw [hnames.unique htoken]
      refine ⟨spelling, ?_, hspelling⟩
      rw [Json.Outline.shape, hother]
      rfl

theorem exists_words {α : Type} [Vocabulary α] {key : FilterKey}
    (hkey : key ≠ .fields) {one other : Json.Outline} {values : List α}
    (hvalues : SameUnder entity (some key.name) one other)
    (hread : words α one = .ok values) :
    ∃ found, words α other = .ok found ∧
      ∀ value, value ∈ values ↔ value ∈ found := by
  obtain ⟨items, rfl, -⟩ := Intake.items_eq_ok_iff.mp hread
  obtain ⟨changed, rfl, hitems⟩ := exists_items hvalues
  exact Intake.exists_items_eq_ok hitems (respects_words hkey) hread

/-- A value that is the same under its key is read, and stands for the same
filter. -/
theorem exists_read {key : FilterKey} {one other : Json.Outline}
    {value : Carrier entity key}
    (hvalues : SameUnder entity (some key.name) one other)
    (hread : read entity key one = .ok value) :
    ∃ found, read entity key other = .ok found ∧
      Alike entity key value found := by
  cases key with
  | roles | officePosts | houseOwnerships | types =>
    exact exists_words (by decide) hvalues hread
  | fields =>
    obtain ⟨rfl, rfl⟩ | ⟨-, values, hitems, rfl⟩ :=
      Intake.optional_eq_ok_iff.mp hread
    · obtain rfl := eq_null_of_sameUnder hvalues
      exact ⟨none, rfl, .none⟩
    · obtain ⟨items, rfl, -⟩ := Intake.items_eq_ok_iff.mp hitems
      obtain ⟨changed, rfl, hsame⟩ := exists_items hvalues
      obtain ⟨found, hfound, hmembers⟩ :=
        Intake.exists_items_eq_ok hsame respects_tokens hitems
      refine ⟨some found, ?_, .some hmembers⟩
      rw [read, Intake.optional_eq_ok_iff]
      exact Or.inr ⟨by rintro ⟨⟩, found, hfound, rfl⟩
  | _ =>
    have hrearranged := rearranged_of_sameUnder (by decide) hvalues
    exact ⟨value, respects_maybe one other value hrearranged hread, rfl⟩

theorem follows_of_sameMember {one other : Json.Pieces × Json.Outline}
    (hmember : SameMember entity one other) :
    (schema entity).Follows (Alike entity) keptRefusal?
      (one.1.text?, one.2) (other.1.text?, other.2) where
  name_eq := by rw [hmember.name_eq]
  value name key hname hkey found hread := by
    have hname : one.1.text? = some key.name :=
      hname.trans (congrArg some (Schema.name_of_keyOf? hkey).symm)
    have hvalues : SameUnder entity (some key.name) one.2 other.2 := by
      rw [← hname]
      exact hmember.value
    exact exists_read hvalues hread
  other _ _ _ hone := by
    rw [keptRefusal?_eq_none_iff] at hone ⊢
    exact hmember.value.isDocument hone

end FilterKey

/-! ## Blocks -/

namespace Criteria

/-- Documents of values that are the same under a name. -/
def SameDocument (entity : Entity) (name : Option String) (one other : Json) :
    Prop :=
  ∃ value changed : Json.Outline,
    value.document? (Json.depthLimit - 1) = some one ∧
      changed.document? (Json.depthLimit - 1) = some other ∧
      SameUnder entity name value changed

/-- What is kept for the blocks of members that are the same. -/
structure SameKept (entity : Entity) (one other : Option String × Json) :
    Prop where
  name_eq : other.1 = one.1
  document : SameDocument entity one.1 one.2 other.2

theorem forall₂_kept {left right : List (Json.Pieces × Json.Outline)}
    (hmembers : List.Forall₂ (SameMember entity) left right) :
    List.Forall₂ (SameKept entity)
      (kept entity (Schema.decodedMembers left))
      (kept entity (Schema.decodedMembers right)) := by
  rw [kept, kept, Schema.decodedMembers, Schema.decodedMembers,
    List.filterMap_map, List.filterMap_map]
  refine List.rel_filterMap (fun one other hmember => ?_) hmembers
  obtain ⟨_, value⟩ := one
  obtain ⟨name, changed⟩ := other
  obtain ⟨rfl, hvalue⟩ := hmember
  dsimp only [Function.comp_apply] at hvalue ⊢
  cases hname : name.text? with
  | none => exact .none
  | some text =>
    dsimp only
    cases (FilterKey.schema entity).keyOf? text with
    | some key => exact .none
    | none =>
      rw [hname] at hvalue
      cases hdocument : value.document? (Json.depthLimit - 1) with
      | none =>
        have hnone : changed.document? (Json.depthLimit - 1) = none := by
          rw [Option.eq_none_iff_forall_ne_some]
          intro found hfound
          obtain ⟨document, hsome⟩ := hvalue.symm.isDocument ⟨found, hfound⟩
          cases hdocument.symm.trans hsome
        rw [hnone]
        exact .none
      | some document =>
        obtain ⟨found, hfound⟩ := hvalue.isDocument ⟨document, hdocument⟩
        rw [hfound]
        exact .some ⟨rfl, value, changed, hdocument, hfound, hvalue⟩

/-- Documents are the same for a reader that looks at their shape, but for the
spelling of an attribute to sort by. -/
theorem SameDocument.shape_eq_or_spelling {name : Option String}
    {one other : Json} (hsame : SameDocument entity name one other) :
    one.shape = other.shape ∨
      name = some PagingKey.sortBy.name ∧ ∃ token spelling,
        one = .text token ∧ other = .text spelling ∧
          ∃ field : entity.Field,
            Entity.Names token field ∧ Entity.Names spelling field := by
  obtain ⟨value, changed, hone, hother, hvalues⟩ := hsame
  have hshapes (hshape : value.shape = changed.shape) :
      one.shape = other.shape := by
    rw [Json.Outline.shape_of_document? hone,
      Json.Outline.shape_of_document? hother] at hshape
    exact Except.ok.inj hshape
  cases hvalues with
  | rearranged hvalues => exact Or.inl (hshapes hvalues.shape_eq.symm)
  | items => exact Or.inl (hshapes rfl)
  | sorting hname hspelling =>
    cases hspelling with
    | @intro _ _ token spelling field htext hchanged htoken hspelling =>
      rw [Json.Outline.document?_text htext] at hone
      rw [Json.Outline.document?_text hchanged] at hother
      cases hone
      cases hother
      exact Or.inr ⟨hname, token, spelling, rfl, rfl, field, htoken, hspelling⟩

theorem respects_optionalShape {α : Type} {read : Reader Shape α}
    {name : String} (hname : name ≠ PagingKey.sortBy.name) :
    Respects (SameDocument entity (some name)) (Intake.optionalShape read) := by
  intro one other value hsame hread
  obtain hshape | ⟨hsorting, -⟩ := hsame.shape_eq_or_spelling
  · rwa [← Intake.optionalShape_eq_of_shape hshape]
  · exact absurd (Option.some.inj hsorting) hname

theorem readSortField_text_eq_ok_iff {token : String}
    {value : Option entity.SortField} :
    Intake.optionalShape (Shape.readSortField entity) (.text token) =
        .ok value ↔
      ∃ sort, Entity.Names token sort.val ∧ some sort = value := by
  have hread (sort : entity.SortField) :
      Shape.readSortField entity (.text token) = .ok sort ↔
        Entity.Names token sort.val := by
    rw [← Entity.readField_eq_ok_iff, ← Entity.readSortField_eq_ok_iff,
      Shape.readSortField]
    cases entity.readSortField token with
    | ok found => simp
    | error refusal => cases refusal <;> simp [wrong]
  simp only [← hread]
  exact map_eq_ok_iff

/-- Both spellings are read as the attribute that they name, if rows can be
sorted by it. -/
theorem respects_sortBy :
    Respects (SameDocument entity (some PagingKey.sortBy.name))
      (PagingKey.read entity .sortBy) := by
  intro one other value hsame hread
  rw [PagingKey.read] at hread ⊢
  obtain hshape | ⟨-, token, spelling, rfl, rfl, field, htoken, hspelling⟩ :=
    hsame.shape_eq_or_spelling
  · rwa [← Intake.optionalShape_eq_of_shape hshape]
  · obtain ⟨sort, hnames, rfl⟩ := readSortField_text_eq_ok_iff.mp hread
    obtain rfl := htoken.unique hnames
    exact readSortField_text_eq_ok_iff.mpr ⟨sort, hspelling, rfl⟩

/-- A direction is a word, in which nothing can change places. -/
theorem respects_sortDirection :
    Respects (SameDocument entity (some PagingKey.sortDirection.name))
      (PagingKey.read entity .sortDirection) := by
  rintro one other direction ⟨value, changed, hone, hother, hvalues⟩ hread
  have hrearranged : Json.Outline.Rearranged value changed := by
    cases hvalues with
    | rearranged hvalues => exact hvalues
    | @items key _ _ _ _ hname =>
      exact absurd (Option.some.inj hname).symm (key.name_ne_paging _)
    | sorting hname => exact absurd (Option.some.inj hname) (by decide)
  have hrigid : value.IsRigid := by
    obtain rfl | hnull := eq_or_ne one .null
    · have hshape := Json.Outline.shape_of_document? hone
      exact Json.Outline.isRigid_of_shape hshape nofun nofun
    · rw [PagingKey.read_sortDirection hnull, map_eq_ok_iff] at hread
      obtain ⟨_, hword, -⟩ := hread
      exact Intake.isRigid_of_wordOfDocument hone hword
  rw [hrearranged.eq_of_isRigid hrigid, hone] at hother
  cases hother
  exact hread

theorem respects_paging (key : PagingKey) :
    Respects (SameDocument entity (some key.name))
      (PagingKey.read entity key) := by
  cases key with
  | page | pageSize => exact respects_optionalShape (by decide)
  | sortBy => exact respects_sortBy
  | sortDirection => exact respects_sortDirection

theorem respects_location (key : LocationKey) :
    Respects (SameDocument entity (some key.name))
      (LocationKey.schema.read key) :=
  respects_optionalShape (by cases key <;> decide)

theorem respects_size (key : SizeKey) :
    Respects (SameDocument entity (some key.name)) (SizeKey.read key) := by
  cases key <;> exact respects_optionalShape (by decide)

/-- A block reads the same from members in any order that are the same. -/
theorem readBlock_eq_ok {Key : Type} [DecidableEq Key]
    {schema : Schema Json Key} {left middle right : Schema.Members Json}
    (horder : left.Perm middle)
    (hmembers : List.Forall₂ (SameKept entity) middle right)
    (hkeys : ∀ key, schema.keyOf? (schema.name key) = some key)
    (hread : ∀ key, Respects (SameDocument entity (some (schema.name key)))
      (schema.read key)) {values : schema.Values}
    (hleft : readBlock schema left = .ok values) :
    readBlock schema right = .ok values := by
  have hfollows : List.Forall₂
      (schema.Follows (fun _ one other => one = other) fun _ => none)
      middle right := by
    refine hmembers.imp fun one other hsame => ⟨hsame.name_eq, ?_, ?_⟩
    · intro name key hname hkey value hvalue
      have hdocument := hsame.document
      rw [hname, ← Schema.name_of_keyOf? hkey] at hdocument
      exact ⟨value, hread key _ _ value hdocument hvalue, rfl⟩
    · exact fun _ _ _ hnone => hnone
  obtain ⟨found, hfound, hequal⟩ :=
    Schema.exists_readMembers_eq_ok horder hfollows hleft
  have hvalues : values = found := by
    funext key
    exact Schema.eq_of_rel_eq (hequal key (hkeys key))
  rw [hvalues]
  exact hfound

/-- Lists with the same members give one set. -/
theorem selectionOf_congr {α : Type} [Enumeration α] [DecidableEq α]
    {left right : Option (List α)}
    (hvalues : Option.Rel
      (fun one other => ∀ value, value ∈ one ↔ value ∈ other) left right) :
    selectionOf left = selectionOf right := by
  cases hvalues with
  | some hmembers =>
    exact Selection.ext fun value => by simp [selectionOf, hmembers]
  | none => rfl

theorem fieldsOf_congr {left right : (FilterKey.schema entity).Values}
    (hvalues : Option.Rel (FilterKey.Alike entity .fields)
      (left .fields) (right .fields)) :
    fieldsOf left = fieldsOf right := by
  rw [fieldsOf, fieldsOf]
  generalize left .fields = one at hvalues ⊢
  generalize right .fields = other at hvalues ⊢
  cases hvalues with
  | none => rfl
  | some hlists =>
    cases hlists with
    | none => rfl
    | some hmembers =>
      exact congrArg some (Selection.ext fun field => by simp [hmembers field])

/-- A request is assembled from values that stand for the same filters. -/
theorem assemble_congr {left right : (FilterKey.schema entity).Values}
    (hvalues : ∀ key ∈ FilterKey.ofEntity entity,
      Option.Rel (FilterKey.Alike entity key) (left key) (right key))
    (rest : Schema.Members Json) :
    assemble entity left rest = assemble entity right rest := by
  -- Values that are no lists stand for the same filter only if they are equal.
  have hplain : ∀ key ∈ FilterKey.ofEntity entity,
      key ∉ FilterKey.lists → left key = right key := by
    intro key hkey hplain
    have halike := hvalues key hkey
    cases key with
    | roles | officePosts | houseOwnerships | types | fields =>
      exact absurd hplain (by decide)
    | _ => exact Schema.eq_of_rel_eq halike
  have hfields : fieldsOf left = fieldsOf right :=
    fieldsOf_congr (hvalues .fields (by cases entity <;> decide))
  cases entity with
  | users =>
    have hroles := selectionOf_congr (hvalues .roles (by decide))
    have hposts := selectionOf_congr (hvalues .officePosts (by decide))
    simp (disch := decide) only [assemble, wardsOf, hplain, hfields, hroles,
      hposts]
  | families =>
    have hownerships := selectionOf_congr (hvalues .houseOwnerships (by decide))
    simp (disch := decide) only [assemble, wardsOf, hplain, hfields,
      hownerships]
  | municipalities =>
    have htypes := selectionOf_congr (hvalues .types (by decide))
    simp (disch := decide) only [assemble, hplain, hfields, htypes]
  | provinces | districts | wards =>
    simp (disch := decide) only [assemble, wardsOf, hplain, hfields]

theorem assemble_eq_ok {values : (FilterKey.schema entity).Values}
    {left right : Schema.Members Json} {criteria : entity.Criteria}
    (hpaging : ∀ block, readBlock (PagingKey.schema entity) left = .ok block →
      readBlock (PagingKey.schema entity) right = .ok block)
    (hlocation : ∀ block, readBlock LocationKey.schema left = .ok block →
      readBlock LocationKey.schema right = .ok block)
    (hsize : ∀ block, readBlock SizeKey.schema left = .ok block →
      readBlock SizeKey.schema right = .ok block)
    (hleft : assemble entity values left = .ok criteria) :
    assemble entity values right = .ok criteria := by
  cases entity with
  | users =>
    simp only [assemble, bind_eq_ok_iff] at hleft ⊢
    obtain ⟨page, hpage, hmade⟩ := hleft
    exact ⟨page, hpaging page hpage, hmade⟩
  | families =>
    simp only [assemble, bind_eq_ok_iff] at hleft ⊢
    obtain ⟨circle, hcircle, page, hpage, hmade⟩ := hleft
    exact ⟨circle, hlocation circle hcircle, page, hpaging page hpage, hmade⟩
  | provinces | districts =>
    simp only [assemble, bind_eq_ok_iff] at hleft ⊢
    obtain ⟨bounds, hbounds, page, hpage, hmade⟩ := hleft
    exact ⟨bounds, hsize bounds hbounds, page, hpaging page hpage, hmade⟩
  | municipalities | wards =>
    simp only [assemble, bind_eq_ok_iff] at hleft ⊢
    obtain ⟨bounds, hbounds, circle, hcircle, page, hpage, hmade⟩ := hleft
    exact ⟨bounds, hsize bounds hbounds, circle, hlocation circle hcircle, page,
      hpaging page hpage, hmade⟩

/-! ## Requests -/

theorem ofOutline_object_eq_ok_iff
    {members : List (Json.Pieces × Json.Outline)} {closed : Bool}
    {criteria : entity.Criteria} :
    ofOutline entity (.object members closed) = .ok criteria ↔
      closed = true ∧ ∃ values,
        (FilterKey.schema entity).readMembers keptRefusal?
          (Schema.decodedMembers members) = .ok values ∧
        assemble entity values (kept entity (Schema.decodedMembers members)) =
          .ok criteria := by
  rw [ofOutline, Schema.readObject, bind_eq_ok_iff]
  cases closed with
  | false => simp [bind_eq_ok_iff]
  | true => simp [bind_eq_ok_iff, pure, Except.pure]

theorem ofOutline_restated {left right : Json.Outline}
    (hrestated : Restated entity left right) {criteria : entity.Criteria}
    (hread : ofOutline entity left = .ok criteria) :
    ofOutline entity right = .ok criteria := by
  cases hrestated with
  | @object left middle right closed horder hmembers =>
    obtain ⟨rfl, values, hvalues, hassembled⟩ :=
      ofOutline_object_eq_ok_iff.mp hread
    have hdecoded : (Schema.decodedMembers left).Perm
        (Schema.decodedMembers middle) := horder.map _
    have hfollows : List.Forall₂ ((FilterKey.schema entity).Follows
        (FilterKey.Alike entity) keptRefusal?)
        (Schema.decodedMembers middle) (Schema.decodedMembers right) := by
      rw [Schema.decodedMembers, Schema.decodedMembers,
        List.forall₂_map_left_iff, List.forall₂_map_right_iff]
      exact hmembers.imp fun _ _ => FilterKey.follows_of_sameMember
    obtain ⟨found, hfound, halike⟩ :=
      Schema.exists_readMembers_eq_ok hdecoded hfollows hvalues
    have hkept : (kept entity (Schema.decodedMembers left)).Perm
        (kept entity (Schema.decodedMembers middle)) := hdecoded.filterMap _
    have hsame := forall₂_kept hmembers
    refine ofOutline_object_eq_ok_iff.mpr ⟨rfl, found, hfound, ?_⟩
    have hfilters := fun key hkey => halike key (FilterKey.keyOf?_name hkey)
    rw [← assemble_congr hfilters]
    apply assemble_eq_ok _ _ _ hassembled
    · exact fun _ => readBlock_eq_ok hkept hsame
        (fun key => by cases key <;> rfl) respects_paging
    · exact fun _ => readBlock_eq_ok hkept hsame
        (fun key => by cases key <;> rfl) respects_location
    · exact fun _ => readBlock_eq_ok hkept hsame
        (fun key => by cases key <;> rfl) respects_size

/-- Bodies that differ only in the order of members, in the order and the
repetition of the values of sets and of the attributes asked for, and in the
spelling of attributes are all accepted or all refused.  Where they are
accepted, they are read as one request, with one outcome of its validation, one
specification, one page, the same statements and the same attributes answered
in the same order. -/
theorem restated_bodies_agree (entity : Entity) (left right : List Text.Symbol)
    (hrestated : Restated entity (Json.outline left) (Json.outline right)) :
    ((∃ criteria, ofInput entity left = .ok criteria) ↔
      ∃ criteria, ofInput entity right = .ok criteria) ∧
    ∀ one other, ofInput entity left = .ok one →
      ofInput entity right = .ok other →
        one = other ∧ validate one = validate other ∧
        specification one = specification other ∧
        Sql.counting (specification one) =
          Sql.counting (specification other) ∧
        (∀ defaultSize,
          pageRequest one defaultSize = pageRequest other defaultSize ∧
          Sql.listing (specification one) (some (pageRequest one defaultSize)) =
            Sql.listing (specification other)
              (some (pageRequest other defaultSize))) ∧
        selectedFields one = selectedFields other := by
  constructor
  · constructor
    · exact fun ⟨criteria, hleft⟩ =>
        ⟨criteria, ofOutline_restated hrestated hleft⟩
    · exact fun ⟨criteria, hright⟩ =>
        ⟨criteria, ofOutline_restated hrestated.symm hright⟩
  · intro one other hone hother
    obtain rfl : one = other :=
      Except.ok.inj ((ofOutline_restated hrestated hone).symm.trans hother)
    exact ⟨rfl, rfl, rfl, rfl, fun _ => ⟨rfl, rfl⟩, rfl⟩

/-- A request for users in one writing. -/
def sampleBody : Json :=
  .object [("roles", .array [.text "ADMIN", .text "VIEWER"]),
    ("fields", .array [.text "WARD_NUMBER", .text "EMAIL"]),
    ("sortBy", .text "FULL_NAME"), ("page", .integer 2)]

/-- The same request in another writing. -/
def restatedBody : Json :=
  .object [("page", .integer 2), ("sortBy", .text "fullName"),
    ("fields", .array [.text "email", .text "wardNumber", .text "EMAIL"]),
    ("roles", .array [.text "VIEWER", .text "ADMIN", .text "VIEWER"])]

theorem restated_sampleBody :
    Restated .users sampleBody.outlined restatedBody.outlined := by
  have hward : Respelled .users (Json.text "WARD_NUMBER").outlined
      (Json.text "wardNumber").outlined :=
    @respelled_wireName .users .wardNumber _ (by decide)
  have hemail : Respelled .users (Json.text "EMAIL").outlined
      (Json.text "email").outlined :=
    @respelled_wireName .users .email _ (by decide)
  have hname : Respelled .users (Json.text "FULL_NAME").outlined
      (Json.text "fullName").outlined :=
    @respelled_wireName .users .fullName _ (by decide)
  refine .object (List.reverse_perm _).symm ?_
  refine .cons ⟨rfl, .rearranged (.refl _)⟩
    (.cons ⟨rfl, .sorting (Json.text?_map_char _) hname⟩
      (.cons ⟨rfl, ?fields⟩ (.cons ⟨rfl, ?roles⟩ .nil)))
  case fields =>
    have hkey : FilterKey.fields ∈ FilterKey.lists := by decide
    refine .items hkey (Json.text?_map_char _) ⟨?_, ?_⟩
    · simp only [Json.outlinedItems, List.forall_mem_cons]
      exact ⟨⟨_, .tail _ (.head _), .respelled rfl hward⟩,
        ⟨_, .head _, .respelled rfl hemail⟩, List.forall_mem_nil _⟩
    · simp only [Json.outlinedItems, List.forall_mem_cons]
      exact ⟨⟨_, .tail _ (.head _), .respelled rfl hemail⟩,
        ⟨_, .head _, .respelled rfl hward⟩,
        ⟨_, .tail _ (.head _), .rearranged (.refl _)⟩, List.forall_mem_nil _⟩
  case roles =>
    have hkey : FilterKey.roles ∈ FilterKey.lists := by decide
    refine .items hkey (Json.text?_map_char _) ?_
    refine .of_mem_iff (fun item => .rearranged (.refl item)) fun item => ?_
    simp only [Json.outlinedItems, List.mem_cons, List.not_mem_nil, or_false]
    tauto

theorem exists_ofOutline_sampleBody :
    ∃ criteria, ofOutline .users sampleBody.outlined = .ok criteria := by
  have haccepted : (ofOutline .users sampleBody.outlined).isOk = true := by
    decide +kernel
  cases hread : ofOutline .users sampleBody.outlined with
  | ok criteria => exact ⟨criteria, rfl⟩
  | error refusal =>
    rw [hread] at haccepted
    cases haccepted

/-- Both writings are accepted, as one request: the members are turned round,
roles and attributes are repeated, and every attribute has its other spelling
somewhere. -/
theorem restated_bodies_agree_sample :
    ∃ criteria,
      ofInput .users (sampleBody.print.toList.map some) = .ok criteria ∧
      ofInput .users (restatedBody.print.toList.map some) = .ok criteria := by
  have hsample : sampleBody.Exact :=
    ⟨⟨trivial, trivial, trivial⟩, ⟨trivial, trivial, trivial⟩, trivial,
      ⟨by decide, by decide⟩, trivial⟩
  have hrestated : restatedBody.Exact :=
    ⟨⟨by decide, by decide⟩, trivial, ⟨trivial, trivial, trivial, trivial⟩,
      ⟨trivial, trivial, trivial, trivial⟩, trivial⟩
  have hleft := Json.outline_print hsample
  have hright := Json.outline_print hrestated
  obtain ⟨haccepted, hsame⟩ := restated_bodies_agree .users
    (sampleBody.print.toList.map some) (restatedBody.print.toList.map some)
    (by rw [hleft, hright]; exact restated_sampleBody)
  obtain ⟨one, hone⟩ : ∃ criteria,
      ofInput .users (sampleBody.print.toList.map some) = .ok criteria := by
    rw [ofInput, hleft]
    exact exists_ofOutline_sampleBody
  obtain ⟨other, hother⟩ := haccepted.mp ⟨one, hone⟩
  obtain ⟨rfl, -⟩ := hsame one other hone hother
  exact ⟨one, hone, hother⟩

end Criteria

end CivicRegistry
