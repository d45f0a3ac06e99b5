import CivicRegistry.Proofs.Intake.FirstRefusal
import CivicRegistry.Proofs.Json.Rearranging

/-!
# Objects read in any order

Whether an object is accepted is a matter of its members one by one and of no
key being there twice, and the value under a key is then found wherever it
stands.  So members may change places, and a value may give way to another that
is read alike.  The readers of single values do not care for the order of the
members inside of a value either.
-/

namespace CivicRegistry

/-! ## Members -/

namespace Schema

variable {Source Key : Type} {schema : Schema Source Key}
  {left middle right members : Members Source} {key : Key}

theorem keysOf_perm (horder : left.Perm right) :
    (schema.keysOf left).Perm (schema.keysOf right) :=
  (List.reverse_perm _).trans
    ((horder.filterMap _).trans (List.reverse_perm _).symm)

theorem keysOf_singleton (member : Option String × Source) :
    schema.keysOf [member] = (member.1.bind schema.keyOf?).toList := by
  rw [keysOf]
  cases hkey : member.1.bind schema.keyOf? <;> simp [hkey]

theorem keysOf_eq_of_names (hnames : left.map Prod.fst = right.map Prod.fst) :
    schema.keysOf left = schema.keysOf right := by
  have hkeys (members : Members Source) : schema.keysOf members =
      ((members.map Prod.fst).filterMap (·.bind schema.keyOf?)).reverse := by
    rw [List.filterMap_map]
    rfl
  rw [hkeys, hkeys, hnames]

/-- Under a key that stands in the members once, the value is found wherever it
is. -/
theorem lookup_eq_some_iff_mem
    (hkey : schema.keyOf? (schema.name key) = some key)
    (hkeys : (schema.keysOf members).Nodup) {source : Source} :
    members.lookup (some (schema.name key)) = some source ↔
      (some (schema.name key), source) ∈ members := by
  induction members with
  | nil => simp
  | cons member others ih =>
    obtain ⟨name, value⟩ := member
    rw [keysOf_cons, List.nodup_append] at hkeys
    obtain ⟨hothers, -, hdistinct⟩ := hkeys
    rw [List.lookup_cons, List.mem_cons, Prod.mk.injEq]
    by_cases hname : some (schema.name key) = name
    · obtain rfl := hname
      have habsent : (some (schema.name key), source) ∉ others := by
        intro hmem
        have hlater : key ∈ schema.keysOf others :=
          (mem_keysOf_iff hkey).mpr (List.mem_map_of_mem hmem)
        have hhere : key ∈ schema.keysOf [(some (schema.name key), value)] :=
          (mem_keysOf_iff hkey).mpr (by simp)
        exact hdistinct key hlater key hhere rfl
      simp [habsent, eq_comm]
    · rw [beq_false_of_ne hname]
      simp [hname, ih hothers]

variable {other : Source → Option Refusal}

/-- A member that is accepted where its key is new. -/
inductive Takes (schema : Schema Source Key) (other : Source → Option Refusal) :
    Option String × Source → Prop
  | value {name : String} {source : Source} {key : Key}
      {found : schema.Carrier key} (hkey : schema.keyOf? name = some key)
      (hread : schema.read key source = .ok found) :
      Takes schema other (some name, source)
  | other {name : String} {source : Source} (hkey : schema.keyOf? name = none)
      (hother : other source = none) : Takes schema other (some name, source)

section Accepting

variable [DecidableEq Key] {seen : List Key}

theorem refusal?_singleton_eq_none_iff {member : Option String × Source} :
    schema.refusal? other seen [member] = none ↔
      schema.Takes other member ∧
        ∀ key ∈ schema.keysOf [member], key ∉ seen := by
  obtain ⟨_ | name, source⟩ := member
  · refine iff_of_false nofun ?_
    rintro ⟨htakes, -⟩
    cases htakes
  have hmember : schema.refusal? other seen [(some name, source)] =
      schema.memberRefusal? other seen name source := by
    rw [refusal?]
    cases schema.memberRefusal? other seen name source <;> rfl
  rw [hmember, memberRefusal?, keysOf_singleton, Option.bind_some]
  cases hkey : schema.keyOf? name with
  | none =>
    have htakes : schema.Takes other (some name, source) ↔
        other source = none := by
      constructor
      · intro htakes
        cases htakes with
        | value hfound => cases hkey.symm.trans hfound
        | other _ hother => exact hother
      · exact .other hkey
    simp [htakes]
  | some key =>
    have htakes : schema.Takes other (some name, source) ↔
        ∃ found, schema.read key source = .ok found := by
      constructor
      · intro htakes
        cases htakes with
        | value hfound hread =>
          cases hkey.symm.trans hfound
          exact ⟨_, hread⟩
        | other hnone => cases hkey.symm.trans hnone
      · rintro ⟨_, hread⟩
        exact .value hkey hread
    by_cases hseen : key ∈ seen
    · simp [hseen]
    · cases hread : schema.read key source <;> simp [htakes, hseen, hread]

/-- Members are accepted if each is by itself and no key is repeated. -/
theorem refusal?_eq_none_iff (hseen : seen.Nodup) :
    schema.refusal? other seen members = none ↔
      (∀ member ∈ members, schema.Takes other member) ∧
        (schema.keysOf members ++ seen).Nodup := by
  induction members generalizing seen with
  | nil => simpa [refusal?, keysOf] using hseen
  | cons member others ih =>
    -- The keys seen so far, and the invariant that none of them is repeated, go
    -- over to the other members with the key of this one.
    have hnew : (schema.keysOf [member] ++ seen).Nodup ↔
        ∀ key ∈ schema.keysOf [member], key ∉ seen := by
      rw [keysOf_singleton]
      cases member.1.bind schema.keyOf? <;> simp [hseen]
    rw [refusal?_cons, Option.or_eq_none_iff, refusal?_singleton_eq_none_iff,
      ← hnew, List.forall_mem_cons, keysOf_cons member others,
      List.append_assoc]
    constructor
    · rintro ⟨⟨hmember, hfirst⟩, hothers⟩
      obtain ⟨hall, hkeys⟩ := (ih hfirst).mp hothers
      exact ⟨⟨hmember, hall⟩, hkeys⟩
    · rintro ⟨⟨hmember, hall⟩, hkeys⟩
      have hfirst := hkeys.of_append_right
      exact ⟨⟨hmember, hfirst⟩, (ih hfirst).mpr ⟨hall, hkeys⟩⟩

theorem readMembers_eq_ok_iff {values : schema.Values} :
    schema.readMembers other members = .ok values ↔
      ((∀ member ∈ members, schema.Takes other member) ∧
        (schema.keysOf members).Nodup) ∧ schema.values members = values := by
  have haccepted : schema.refusal? other [] members = none ↔
      (∀ member ∈ members, schema.Takes other member) ∧
        (schema.keysOf members).Nodup := by
    rw [refusal?_eq_none_iff List.nodup_nil, List.append_nil]
  rw [← haccepted, readMembers]
  cases schema.refusal? other [] members <;> simp

/-- The members of an accepted object may change places. -/
theorem readMembers_perm (horder : left.Perm right) {values : schema.Values}
    (hread : schema.readMembers other left = .ok values) :
    ∃ found, schema.readMembers other right = .ok found ∧
      ∀ key, schema.keyOf? (schema.name key) = some key →
        values key = found key := by
  obtain ⟨⟨htakes, hleft⟩, rfl⟩ := readMembers_eq_ok_iff.mp hread
  have hright := (keysOf_perm horder).nodup_iff.mp hleft
  have htaken : ∀ member ∈ right, schema.Takes other member :=
    fun member hmember => htakes member (horder.mem_iff.mpr hmember)
  refine ⟨schema.values right,
    readMembers_eq_ok_iff.mpr ⟨⟨htaken, hright⟩, rfl⟩, fun key hkey => ?_⟩
  have hlookup : left.lookup (some (schema.name key)) =
      right.lookup (some (schema.name key)) := by
    ext source
    rw [lookup_eq_some_iff_mem hkey hleft, lookup_eq_some_iff_mem hkey hright,
      horder.mem_iff]
  rw [Schema.values, Schema.values, hlookup]

end Accepting

/-! ### Members with other values -/

theorem eq_of_rel_eq {α : Type} {one other : Option α}
    (hvalues : Option.Rel (fun one other => one = other) one other) :
    one = other := by
  cases hvalues with
  | some hequal => rw [hequal]
  | none => rfl

/-- Members of one name.  The value of the second is accepted where that of the
first is, and under a key of the schema it is read alike. -/
structure Follows (schema : Schema Source Key)
    (alike : (key : Key) → schema.Carrier key → schema.Carrier key → Prop)
    (other : Source → Option Refusal) (one two : Option String × Source) :
    Prop where
  name_eq : two.1 = one.1
  value : ∀ name key, one.1 = some name → schema.keyOf? name = some key →
    ∀ found, schema.read key one.2 = .ok found →
      ∃ changed, schema.read key two.2 = .ok changed ∧ alike key found changed
  other : ∀ name, one.1 = some name → schema.keyOf? name = none →
    other one.2 = none → other two.2 = none

variable {alike : (key : Key) → schema.Carrier key → schema.Carrier key → Prop}

theorem Follows.takes {one two : Option String × Source}
    (hfollows : schema.Follows alike other one two)
    (htakes : schema.Takes other one) : schema.Takes other two := by
  obtain ⟨name, source⟩ := two
  obtain rfl : name = one.1 := hfollows.name_eq
  cases htakes with
  | value hkey hread =>
    obtain ⟨changed, hchanged, -⟩ := hfollows.value _ _ rfl hkey _ hread
    exact .value hkey hchanged
  | other hkey hother => exact .other hkey (hfollows.other _ rfl hkey hother)

theorem values_rel
    (hmembers : List.Forall₂ (schema.Follows alike other) left right)
    (htakes : ∀ member ∈ left, schema.Takes other member)
    (hkey : schema.keyOf? (schema.name key) = some key) :
    Option.Rel (alike key) (schema.values left key)
      (schema.values right key) := by
  induction hmembers with
  | nil => exact .none
  | @cons one two left right hfollows _ ih =>
    rw [List.forall_mem_cons] at htakes
    have hothers := ih htakes.2
    obtain ⟨name, source⟩ := one
    obtain ⟨other, changed⟩ := two
    obtain rfl : other = name := hfollows.name_eq
    simp only [Schema.values, List.lookup_cons] at hothers ⊢
    by_cases hname : some (schema.name key) = other
    · obtain rfl := hname
      have hread : ∃ found, schema.read key source = .ok found := by
        cases htakes.1 with
        | value hfound hread =>
          cases hkey.symm.trans hfound
          exact ⟨_, hread⟩
        | other hnone => cases hkey.symm.trans hnone
      obtain ⟨found, hread⟩ := hread
      obtain ⟨changed, hchanged, halike⟩ :=
        hfollows.value _ key rfl hkey found hread
      simpa [hread, hchanged, Except.toOption] using Option.Rel.some halike
    · rw [beq_false_of_ne hname]
      exact hothers

theorem readMembers_follows [DecidableEq Key]
    (hmembers : List.Forall₂ (schema.Follows alike other) left right)
    {values : schema.Values}
    (hread : schema.readMembers other left = .ok values) :
    ∃ found, schema.readMembers other right = .ok found ∧
      ∀ key, schema.keyOf? (schema.name key) = some key →
        Option.Rel (alike key) (values key) (found key) := by
  obtain ⟨⟨htakes, hkeys⟩, rfl⟩ := readMembers_eq_ok_iff.mp hread
  have hnames : left.map Prod.fst = right.map Prod.fst := by
    rw [← List.forall₂_eq_eq_eq, List.forall₂_map_left_iff,
      List.forall₂_map_right_iff]
    exact hmembers.imp fun _ _ hfollows => hfollows.name_eq.symm
  have htaken : ∀ member ∈ right, schema.Takes other member := by
    intro two htwo
    obtain ⟨one, hone, hfollows⟩ := exists_mem_of_forall₂ hmembers htwo
    exact hfollows.takes (htakes one hone)
  rw [keysOf_eq_of_names hnames] at hkeys
  exact ⟨schema.values right,
    readMembers_eq_ok_iff.mpr ⟨⟨htaken, hkeys⟩, rfl⟩,
    fun key hkey => values_rel hmembers htakes hkey⟩

/-- The members of an accepted object may change places and have other values
that are read alike. -/
theorem exists_readMembers_eq_ok [DecidableEq Key] (horder : left.Perm middle)
    (hmembers : List.Forall₂ (schema.Follows alike other) middle right)
    {values : schema.Values}
    (hread : schema.readMembers other left = .ok values) :
    ∃ found, schema.readMembers other right = .ok found ∧
      ∀ key, schema.keyOf? (schema.name key) = some key →
        Option.Rel (alike key) (values key) (found key) := by
  obtain ⟨between, hbetween, hequal⟩ := readMembers_perm horder hread
  obtain ⟨found, hfound, halike⟩ := readMembers_follows hmembers hbetween
  refine ⟨found, hfound, fun key hkey => ?_⟩
  rw [hequal key hkey]
  exact halike key hkey

end Schema

/-! ## Single values -/

section Readers

variable {Source α : Type}

/-- Of two related sources the second is read as the first is, if that is read
at all. -/
def Respects (related : Source → Source → Prop) (read : Reader Source α) :
    Prop :=
  ∀ one other value, related one other → read one = .ok value →
    read other = .ok value

namespace Intake

open Json.Outline

variable {read : Reader Shape α} {readItem : Reader Json.Outline α}
  {ofWord : String → Option α} {outline : Json.Outline} {value : α}

theorem respects_single : Respects Rearranged (single read) := by
  intro one other value hrearranged hread
  rw [single, hrearranged.shape_eq]
  exact hread

theorem isRigid_null : Json.Outline.null.IsRigid :=
  isRigid_of_shape rfl nofun nofun

theorem optional_eq_ok_iff {found : Option α} :
    optional readItem outline = .ok found ↔
      outline = .null ∧ found = none ∨ outline ≠ .null ∧
        ∃ value, readItem outline = .ok value ∧ some value = found := by
  cases outline with
  | null => simp [optional, eq_comm]
  | _ => simpa [optional] using map_eq_ok_iff

theorem respects_optional (hitem : Respects Rearranged readItem) :
    Respects Rearranged (optional readItem) := by
  intro one other found hrearranged hread
  rw [optional_eq_ok_iff] at hread ⊢
  obtain ⟨rfl, rfl⟩ | ⟨hone, value, hvalue, rfl⟩ := hread
  · exact Or.inl ⟨hrearranged.eq_of_isRigid isRigid_null, rfl⟩
  · refine Or.inr ⟨?_, value, hitem one other value hrearranged hvalue, rfl⟩
    rintro rfl
    exact hone (hrearranged.symm.eq_of_isRigid isRigid_null)

/-- A word is a text, or the only key of an object without a value. -/
theorem isRigid_of_wordOfOutline
    (hread : wordOfOutline ofWord outline = .ok value) : outline.IsRigid := by
  cases outline with
  | text pieces => exact fun other hexchange => nomatch hexchange
  | object members closed =>
    cases members with
    | nil => cases hread
    | cons member others =>
      obtain ⟨pieces, inner⟩ := member
      obtain ⟨word, -, hread⟩ := bind_eq_ok_iff.mp hread
      obtain ⟨result, -, hread⟩ := bind_eq_ok_iff.mp hread
      obtain ⟨shape, hshape, hread⟩ := bind_eq_ok_iff.mp hread
      cases shape with
      | null =>
        have hinner := isRigid_of_shape hshape nofun nofun
        cases others with
        | nil => exact hinner.object_singleton closed
        | cons => cases hread
      | _ => cases hread
  | _ => cases hread

theorem respects_wordOfOutline :
    Respects Rearranged (wordOfOutline ofWord) := by
  intro one other value hrearranged hread
  rwa [hrearranged.eq_of_isRigid (isRigid_of_wordOfOutline hread)]

theorem isRigid_of_wordOfDocument {depth : Nat} {document : Json}
    (hdocument : outline.document? depth = some document)
    (hread : wordOfDocument ofWord document = .ok value) : outline.IsRigid := by
  have hshape := shape_of_document? hdocument
  unfold wordOfDocument at hread
  split at hread
  · exact isRigid_of_shape hshape nofun nofun
  · next word inner =>
    obtain ⟨members, closed, rfl, hmembers⟩ :=
      exists_members_of_document? hdocument
    obtain ⟨member, others, ⟨-, hinner⟩, hothers, rfl⟩ :=
      List.forall₂_cons_right_iff.mp hmembers
    obtain rfl := List.forall₂_nil_right_iff.mp hothers
    refine IsRigid.object_singleton ?_ closed
    obtain ⟨result, -, hread⟩ := bind_eq_ok_iff.mp hread
    split at hread
    · exact isRigid_of_shape (shape_of_document? hinner) nofun nofun
    · obtain ⟨_, ended, hempty, hnone⟩ := exists_members_of_document? hinner
      obtain rfl := List.forall₂_nil_right_iff.mp hnone
      rw [hempty]
      exact isRigid_object_nil ended
    · cases hread
  · cases hread
  · cases hread

/-- A document is read by its shape. -/
theorem optionalShape_eq_of_shape {one other : Json}
    (hshape : one.shape = other.shape) :
    optionalShape read one = optionalShape read other := by
  cases one <;> cases other <;> cases hshape <;> rfl

theorem items_eq_ok_iff {values : List α} :
    items readItem outline = .ok values ↔
      ∃ outlines, outline = .array outlines true ∧
        outlines.mapM readItem = .ok values := by
  cases outline with
  | array outlines closed =>
    rw [items, bind_eq_ok_iff]
    cases closed <;> simp [pure, Except.pure]
  | _ =>
    refine iff_of_false (fun hread => ?_) (by simp)
    obtain ⟨shape, -, hwrong⟩ := bind_eq_ok_iff.mp hread
    cases hwrong

theorem mem_iff_of_mapM_eq_ok {items : List Json.Outline} {values : List α}
    (hread : items.mapM readItem = .ok values) :
    value ∈ values ↔ ∃ item ∈ items, readItem item = .ok value := by
  have hitems := mapM_eq_ok_iff.mp hread
  constructor
  · exact exists_mem_of_forall₂ hitems
  · rintro ⟨item, hitem, hvalue⟩
    obtain ⟨found, hfound, hread⟩ := exists_mem_of_forall₂ hitems.flip hitem
    cases hvalue.symm.trans hread
    exact hfound

/-- The same items give the same values. -/
theorem exists_items_eq_ok {related : Json.Outline → Json.Outline → Prop}
    {left right : List Json.Outline} {closed : Bool} {values : List α}
    (hitems : SameItems related left right) (hitem : Respects related readItem)
    (hread : items readItem (.array left closed) = .ok values) :
    ∃ found, items readItem (.array right closed) = .ok found ∧
      ∀ value, value ∈ values ↔ value ∈ found := by
  obtain ⟨_, hleft, hvalues⟩ := items_eq_ok_iff.mp hread
  cases hleft
  have hall := exists_mapM_eq_ok_iff.mp ⟨values, hvalues⟩
  obtain ⟨found, hfound⟩ : ∃ found, right.mapM readItem = .ok found := by
    rw [exists_mapM_eq_ok_iff]
    intro counterpart hmem
    obtain ⟨item, hleft, hrelated⟩ := hitems.back counterpart hmem
    obtain ⟨value, hvalue⟩ := hall item hleft
    exact ⟨value, hitem _ _ _ hrelated hvalue⟩
  refine ⟨found, items_eq_ok_iff.mpr ⟨right, rfl, hfound⟩, fun value => ?_⟩
  rw [mem_iff_of_mapM_eq_ok hvalues, mem_iff_of_mapM_eq_ok hfound]
  constructor
  · rintro ⟨item, hleft, hvalue⟩
    obtain ⟨counterpart, hmem, hrelated⟩ := hitems.forth item hleft
    exact ⟨counterpart, hmem, hitem _ _ _ hrelated hvalue⟩
  · rintro ⟨counterpart, hmem, hvalue⟩
    obtain ⟨item, hleft, hrelated⟩ := hitems.back counterpart hmem
    obtain ⟨earlier, hearlier⟩ := hall item hleft
    cases hvalue.symm.trans (hitem _ _ _ hrelated hearlier)
    exact ⟨item, hleft, hearlier⟩

end Intake

end Readers

end CivicRegistry
