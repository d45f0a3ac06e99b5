import CivicRegistry.Proofs.Sql.ClauseText
import Mathlib

/-!
# What paths address

A path is an identifier that is the name of no collection, the name of a
collection of plain values, or the name of a collection before `.size`.  Any
other text is refused as a column.  The names that a column puts in quotes are
identifiers, so that the quotes of its text come in pairs.
-/

namespace CivicRegistry.Sql

/-! ## Identifiers -/

/-- A letter of ASCII or an underscore. -/
def IsInitial (c : Char) : Prop :=
  ('a' ≤ c ∧ c ≤ 'z') ∨ ('A' ≤ c ∧ c ≤ 'Z') ∨ c = '_'

/-- A letter or underscore, and after it letters, digits and underscores. -/
def IsName (name : List Char) : Prop :=
  ∃ first rest, name = first :: rest ∧ IsInitial first ∧
    ∀ c ∈ rest, IsInitial c ∨ ('0' ≤ c ∧ c ≤ '9')

theorem isNameStart_iff {c : Char} : isNameStart c = true ↔ IsInitial c := by
  simp only [isNameStart, Char.isAlpha, Char.isUpper, Char.isLower, IsInitial,
    Char.le_def, Bool.or_eq_true, Bool.and_eq_true, decide_eq_true_eq,
    beq_iff_eq]
  tauto

theorem isNameChar_iff {c : Char} :
    isNameChar c = true ↔ IsInitial c ∨ ('0' ≤ c ∧ c ≤ '9') := by
  rw [← isNameStart_iff]
  simp only [isNameChar, isNameStart, Char.isAlphanum, Char.isDigit,
    Char.le_def, Bool.or_eq_true, Bool.and_eq_true, decide_eq_true_eq]
  tauto

theorem isIdentifier_iff {name : List Char} :
    isIdentifier name = true ↔ IsName name := by
  cases name with
  | nil => simp [isIdentifier, IsName]
  | cons first rest =>
    simp [isIdentifier, IsName, isNameStart_iff, isNameChar_iff]

/-- What is no letter, digit or underscore stands in no identifier. -/
theorem IsName.not_mem {name : List Char} (hname : IsName name) {c : Char}
    (hc : isNameChar c = false) : c ∉ name := by
  obtain ⟨first, rest, rfl, hfirst, hrest⟩ := hname
  intro hmem
  have hchar : isNameChar c = true := by
    rcases List.mem_cons.mp hmem with rfl | hlater
    · exact isNameChar_iff.mpr (Or.inl hfirst)
    · exact isNameChar_iff.mpr (hrest c hlater)
  cases hchar.symm.trans hc

/-! ## Quoted names -/

/-- The quotes of a text come in pairs, and from a quote that opens to the next
one there is an identifier. -/
structure QuotesNames (text : List Char) : Prop where
  paired : Even (text.count '"')
  names : ∀ before name after, text = before ++ '"' :: (name ++ '"' :: after) →
    Even (before.count '"') → '"' ∉ name → IsName name

/-- A text has one place where its first quote stands. -/
theorem eq_of_append_quote {left right after later : List Char}
    (hleft : '"' ∉ left) (hright : '"' ∉ right)
    (hsame : left ++ '"' :: after = right ++ '"' :: later) :
    left = right ∧ after = later := by
  have hpieces := congrArg (List.splitOn '"') hsame
  rw [List.splitOn_append_cons_self_of_not_mem hleft,
    List.splitOn_append_cons_self_of_not_mem hright, List.cons.injEq] at hpieces
  obtain ⟨rfl, -⟩ := hpieces
  exact ⟨rfl, List.tail_eq_of_cons_eq (List.append_cancel_left hsame)⟩

theorem QuotesNames.plain {text : List Char} (htext : '"' ∉ text) :
    QuotesNames text where
  paired := by simp [List.count_eq_zero_of_not_mem htext]
  names before name after hsplit := by simp [hsplit] at htext

theorem QuotesNames.quoted (before : List Char) {name after : List Char}
    (hbefore : '"' ∉ before) (hname : IsName name)
    (hafter : QuotesNames after) :
    QuotesNames (before ++ '"' :: (name ++ '"' :: after)) where
  paired := by
    have hfree : '"' ∉ name := hname.not_mem rfl
    simp [List.count_eq_zero_of_not_mem hbefore,
      List.count_eq_zero_of_not_mem hfree, hafter.paired]
  names outer inner rest hsplit heven hinner := by
    have hfree : '"' ∉ name := hname.not_mem rfl
    by_cases houter : '"' ∈ outer
    · -- The first pair of quotes stands in what is before the other one.
      obtain ⟨first, second, rfl, hfirst⟩ := List.eq_append_cons_of_mem houter
      have hcount : '"' ∈ second := by
        rw [← List.count_pos_iff]
        simp only [List.count_append, List.count_cons_self,
          List.count_eq_zero_of_not_mem hfirst] at heven
        rcases heven with ⟨half, hhalf⟩
        omega
      obtain ⟨third, fourth, rfl, hthird⟩ := List.eq_append_cons_of_mem hcount
      simp only [List.append_assoc, List.cons_append] at hsplit
      obtain ⟨-, hsplit⟩ := eq_of_append_quote hbefore hfirst hsplit
      obtain ⟨-, hsplit⟩ := eq_of_append_quote hfree hthird hsplit
      refine hafter.names fourth inner rest hsplit ?_ hinner
      simpa [List.count_eq_zero_of_not_mem hfirst,
        List.count_eq_zero_of_not_mem hthird, Nat.even_add_one] using heven
    · obtain ⟨-, hsplit⟩ := eq_of_append_quote hbefore houter hsplit
      obtain ⟨rfl, -⟩ := eq_of_append_quote hfree hinner hsplit
      exact hname

theorem toList_quoted (name : String) :
    (Sql.quoted name).toList = '"' :: (name.toList ++ ['"']) := by
  rw [Sql.quoted, String.toList_append, String.toList_append]
  exact List.append_assoc ..

/-- The text of a column whose names are identifiers. -/
theorem Column.quotesNames_sql {column : Column} (hcolumn : column.WellNamed) :
    QuotesNames column.sql.toList := by
  have hend : QuotesNames [] := .plain List.not_mem_nil
  cases column with
  | own name =>
    have htext := hend.quoted "t.".toList (by decide)
      (isIdentifier_iff.mp hcolumn)
    unfold sql
    rw [String.toList_append, toList_quoted]
    exact htext
  | element collection valueColumn =>
    obtain ⟨hname, hvalue⟩ := hcolumn
    have hlast := hend.quoted ".".toList (by decide)
      (isIdentifier_iff.mp hvalue)
    have htext := hlast.quoted [] List.not_mem_nil (isIdentifier_iff.mp hname)
    unfold sql
    rw [String.toList_append, String.toList_append, toList_quoted,
      toList_quoted]
    simpa only [List.nil_append, List.cons_append, List.append_assoc]
      using htext
  | count collection =>
    obtain ⟨htable, hkey⟩ := hcolumn
    have hid : IsName "id".toList := isIdentifier_iff.mp (by decide)
    have hparenthesis : QuotesNames ")".toList := .plain (by decide)
    have hlast : QuotesNames " = t.\"id\")".toList :=
      hparenthesis.quoted " = t.".toList (by decide) hid
    have hmiddle := hlast.quoted " c WHERE c.".toList (by decide)
      (isIdentifier_iff.mp hkey)
    have htext := hmiddle.quoted "(SELECT COUNT(*) FROM ".toList (by decide)
      (isIdentifier_iff.mp htable)
    unfold sql
    simp only [String.toList_append, toList_quoted]
    simpa only [List.cons_append, List.append_assoc, List.nil_append]
      using htext

/-! ## Paths -/

namespace Column

variable {entity : Entity}

/-- The column that a path addresses: an identifier that is the name of no
collection is a column of the table, the name of a collection that has a value
column stands for the elements, and with `.size` after it for their number. -/
inductive Addresses (entity : Entity) : String → Column → Prop
  | own {name : String} (hname : IsName name.toList)
      (hfree : ∀ collection ∈ entity.collections, collection.name ≠ name) :
      Addresses entity name (.own name)
  | element {collection : Collection} {valueColumn : String}
      (hcollection : collection ∈ entity.collections)
      (hvalue : collection.valueColumn = some valueColumn) :
      Addresses entity collection.name (.element collection valueColumn)
  | count {collection : Collection}
      (hcollection : collection ∈ entity.collections) :
      Addresses entity (collection.name ++ ".size") (.count collection)

theorem nodup_collections (entity : Entity) :
    (entity.collections.map Collection.name).Nodup := by
  cases entity <;> decide

theorem collection?_eq_some_iff {name : String} {collection : Collection} :
    entity.collection? name = some collection ↔
      collection ∈ entity.collections ∧ collection.name = name := by
  constructor
  · intro hfound
    exact ⟨List.mem_of_find?_eq_some hfound,
      by simpa using List.find?_some hfound⟩
  · rintro ⟨hmem, rfl⟩
    have hsome : (entity.collection? collection.name).isSome := by
      rw [Entity.collection?, List.find?_isSome]
      exact ⟨collection, hmem, beq_self_eq_true _⟩
    obtain ⟨other, hother⟩ := Option.isSome_iff_exists.mp hsome
    have hname : other.name = collection.name := by
      simpa using List.find?_some hother
    rw [hother, List.inj_on_of_nodup_map (nodup_collections entity)
      (List.mem_of_find?_eq_some hother) hmem hname]

theorem collection?_eq_none_iff {name : String} :
    entity.collection? name = none ↔
      ∀ collection ∈ entity.collections, collection.name ≠ name := by
  simp [Entity.collection?]

theorem isName_of_mem {collection : Collection}
    (hcollection : collection ∈ entity.collections) :
    IsName collection.name.toList :=
  isIdentifier_iff.mp (identifiers_of_collection?
    (collection?_eq_some_iff.mpr ⟨hcollection, rfl⟩)).2.1

/-! ### From the path to the column -/

section

variable {path head last : String} {column : Column}

/-- The segments of a path with dots between them are the path. -/
theorem toList_of_segments {segments : List String}
    (hsegments : (path.toList.splitOn '.').map String.ofList = segments) :
    path.toList = ['.'].intercalate (segments.map String.toList) := by
  have hchars : String.toList ∘ String.ofList = id :=
    funext fun _ => String.toList_ofList
  rw [← hsegments, List.map_map, hchars, List.map_id, List.intercalate_splitOn]

theorem addresses_of_whole (hname : IsName path.toList)
    (hcolumn : ofSegments entity path path none = .ok column) :
    Addresses entity path column := by
  rw [ofSegments.eq_def] at hcolumn
  cases hcollection : entity.collection? path with
  | none =>
    rw [hcollection] at hcolumn
    cases hcolumn
    exact .own hname (collection?_eq_none_iff.mp hcollection)
  | some collection =>
    obtain ⟨hmem, rfl⟩ := collection?_eq_some_iff.mp hcollection
    rw [hcollection] at hcolumn
    dsimp only at hcolumn
    cases hvalue : collection.valueColumn with
    | none =>
      rw [hvalue] at hcolumn
      cases hcolumn
    | some valueColumn =>
      rw [hvalue] at hcolumn
      cases hcolumn
      exact .element hmem hvalue

theorem addresses_of_sized
    (hcolumn : ofSegments entity path head (some last) = .ok column) :
    Addresses entity (head ++ "." ++ last) column := by
  rw [ofSegments.eq_def] at hcolumn
  split at hcolumn
  · next collection hcollection hsize =>
    cases hcolumn
    obtain ⟨hmem, rfl⟩ := collection?_eq_some_iff.mp hcollection
    obtain rfl : last = "size" := Option.some.inj hsize
    rw [String.append_assoc]
    exact .count hmem
  · next hnone => cases hnone
  · next hnone => cases hnone
  · cases hcolumn

theorem addresses_of_ofPath (hcolumn : ofPath entity path = .ok column) :
    Addresses entity path column := by
  rw [ofPath.eq_def] at hcolumn
  split at hcolumn
  · next head hsegments =>
    obtain ⟨_, hcheck, hrest⟩ := exists_ok_of_bind hcolumn
    obtain rfl : path = head := by
      simpa [String.toList_inj] using toList_of_segments hsegments
    exact addresses_of_whole (isIdentifier_iff.mp (checkColumnName_ok hcheck))
      hrest
  · next head last hsegments =>
    obtain ⟨_, -, hrest⟩ := exists_ok_of_bind hcolumn
    have hpath : path = head ++ "." ++ last := by
      rw [← String.toList_inj, toList_of_segments hsegments]
      simp
    rw [hpath]
    exact addresses_of_sized hrest
  · cases hcolumn

/-! ### From the column to the path -/

/-- A path without dots is one segment. -/
theorem ofPath_of_isName (hname : IsName path.toList) :
    ofPath entity path = ofSegments entity path path none := by
  have hsegments : (path.toList.splitOn '.').map String.ofList = [path] := by
    rw [List.splitOn_eq_singleton (hname.not_mem rfl), List.map_singleton,
      String.ofList_toList]
  rw [ofPath, hsegments]
  simp only [checkColumnName, isIdentifier_iff.mpr hname]
  rfl

theorem ofPath_size (hname : IsName head.toList) :
    ofPath entity (head ++ ".size") =
      ofSegments entity (head ++ ".size") head (some "size") := by
  have hsegments : ((head ++ ".size").toList.splitOn '.').map String.ofList =
      [head, "size"] := by
    have hsplit : (head ++ ".size").toList =
        head.toList ++ '.' :: "size".toList := String.toList_append
    rw [hsplit, List.splitOn_append_cons_self_of_not_mem (hname.not_mem rfl),
      List.map_cons, String.ofList_toList]
    rfl
  rw [ofPath, hsegments]
  simp only [checkColumnName, isIdentifier_iff.mpr hname]
  rfl

theorem Addresses.ofPath_eq (haddresses : Addresses entity path column) :
    ofPath entity path = .ok column := by
  cases haddresses with
  | own hname hfree =>
    rw [ofPath_of_isName hname, ofSegments.eq_def,
      collection?_eq_none_iff.mpr hfree]
  | element hcollection hvalue =>
    rw [ofPath_of_isName (isName_of_mem hcollection), ofSegments.eq_def,
      collection?_eq_some_iff.mpr ⟨hcollection, rfl⟩]
    simp only [hvalue]
  | count hcollection =>
    rw [ofPath_size (isName_of_mem hcollection), ofSegments.eq_def,
      collection?_eq_some_iff.mpr ⟨hcollection, rfl⟩]
    rfl

theorem ofPath_eq_ok_iff :
    ofPath entity path = .ok column ↔ Addresses entity path column :=
  ⟨addresses_of_ofPath, Addresses.ofPath_eq⟩

/-! ### Refusals -/

/-- Whatever is refused as a path is refused as a column. -/
theorem exists_of_ofPath_error {error : LoweringError}
    (herror : ofPath entity path = .error error) :
    ∃ detail, error = .column detail := by
  have hcheck (head : String) (next : Except LoweringError Column)
      (hnext : ∀ error, next = .error error → ∃ detail, error = .column detail)
      (herror : (do checkColumnName head; next) = .error error) :
      ∃ detail, error = .column detail := by
    rw [checkColumnName] at herror
    split at herror
    · exact hnext error herror
    · cases herror
      exact ⟨_, rfl⟩
  have hsegments (head : String) (size : Option String)
      (error : LoweringError)
      (herror : ofSegments entity path head size = .error error) :
      ∃ detail, error = .column detail := by
    rw [ofSegments.eq_def] at herror
    split at herror
    · cases herror
    · split at herror <;> cases herror
      exact ⟨_, rfl⟩
    · cases herror
    · cases herror
      exact ⟨_, rfl⟩
  rw [ofPath.eq_def] at herror
  split at herror
  · exact hcheck _ _ (hsegments _ _) herror
  · exact hcheck _ _ (hsegments _ _) herror
  · cases herror
    exact ⟨_, rfl⟩

theorem exists_ofPath_error_iff :
    (∃ detail, ofPath entity path = .error (.column detail)) ↔
      ¬ ∃ column, Addresses entity path column := by
  simp only [← ofPath_eq_ok_iff]
  cases hpath : ofPath entity path with
  | ok column => simp
  | error error =>
    obtain ⟨detail, rfl⟩ := exists_of_ofPath_error hpath
    simp

end

/-- A path is accepted exactly if it addresses a column, and as that column; any
other text is refused as a column.  The text of a column that is accepted has
its quotes in pairs, and each pair is around an identifier. -/
theorem paths_accepted (entity : Entity) (path : String) :
    (∀ column, ofPath entity path = .ok column ↔
      Addresses entity path column) ∧
    ((∃ detail, ofPath entity path = .error (.column detail)) ↔
      ¬ ∃ column, Addresses entity path column) ∧
    ∀ column, ofPath entity path = .ok column →
      QuotesNames column.sql.toList :=
  ⟨fun _ => ofPath_eq_ok_iff, exists_ofPath_error_iff,
    fun _ hcolumn => quotesNames_sql (wellNamed_ofPath hcolumn)⟩

/-- The districts of a province can be counted, but have no values of their own,
and a quote in a path does not get into the text. -/
theorem paths_accepted_sample :
    ofPath .provinces "districts.size" =
        .ok (.count ⟨"districts", "districts", "province_id", none⟩) ∧
      IsName "province_id".toList ∧
      (∃ detail, ofPath .provinces "districts" = .error (.column detail)) ∧
      ∃ detail,
        ofPath .provinces "name\" OR \"1" = .error (.column detail) := by
  have hmem : (⟨"districts", "districts", "province_id", none⟩ : Collection) ∈
      Entity.provinces.collections := List.mem_singleton.mpr rfl
  have hcount : ofPath .provinces "districts.size" =
      .ok (.count ⟨"districts", "districts", "province_id", none⟩) :=
    ((paths_accepted .provinces "districts.size").1 _).mpr (.count hmem)
  have hquotes :=
    (paths_accepted .provinces "districts.size").2.2 _ hcount
  refine ⟨hcount, ?_, ⟨_, rfl⟩, ⟨_, rfl⟩⟩
  exact hquotes.names "(SELECT COUNT(*) FROM \"districts\" c WHERE c.".toList
    "province_id".toList " = t.\"id\")".toList (by decide) (by decide)
    (by decide)

end Column

end CivicRegistry.Sql
