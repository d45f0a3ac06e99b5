import CivicRegistry.Projection
import CivicRegistry.Proofs.Entity.Resolution

/-!
# What projections show

A projection has one entry for each attribute that is asked for and present, in
the order of first mention.  Entries are told apart by their wire names, which
is as good as by their attributes, because no two attributes of an entity share
a wire name.  A projection by tokens is the one by the attributes that they
name; the first token that names none refuses it, whatever the row holds.
-/

namespace CivicRegistry

variable {entity : Entity}

theorem Entity.wire_injective :
    Function.Injective fun field : entity.Field =>
      (Entity.info field).wire := by
  have hnodup :
      (entity.fields.map fun field => (Entity.info field).wire).Nodup := by
    cases entity <;> decide +kernel
  intro left right hwire
  exact List.inj_on_of_nodup_map hnodup (Enumeration.mem_all left)
    (Enumeration.mem_all right) hwire

namespace Projection

/-- The attributes of a list that a row has. -/
def present (row : Row entity) (fields : List entity.Field) :
    List entity.Field :=
  fields.filter fun field => (row.get field).isSome

/-- The entry has the wire name of the attribute and its value in the row. -/
def IsEntryOf (row : Row entity) (field : entity.Field)
    (entry : String × Value) : Prop :=
  entry.1 = (Entity.info field).wire ∧ row.get field = some entry.2

/-- A projection shows a row by the attributes of a list: those that are present
have one entry each, in the order of first mention, and there is nothing else in
it. -/
structure Exact (row : Row entity) (fields : List entity.Field)
    (projection : Projection) : Prop where
  entries : ∃ shown, FirstMentions shown (present row fields) ∧
    List.Forall₂ (IsEntryOf row) shown projection
  nodup : projection.keys.Nodup
  value : ∀ field ∈ fields,
    projection.get? (Entity.info field).wire = row.get field

/-! ## Entries -/

variable {row : Row entity} {shown fields : List entity.Field}
  {projection : Projection}

theorem keys_eq (hentries : List.Forall₂ (IsEntryOf row) shown projection) :
    projection.keys = shown.map fun field => (Entity.info field).wire := by
  induction hentries with
  | nil => rfl
  | cons hentry _ ih =>
    rw [keys, List.map_cons, List.map_cons, hentry.1, ← ih]
    rfl

theorem wire_mem_keys_iff
    (hentries : List.Forall₂ (IsEntryOf row) shown projection)
    {field : entity.Field} :
    (Entity.info field).wire ∈ projection.keys ↔ field ∈ shown := by
  rw [keys_eq hentries]
  exact List.mem_map_of_injective Entity.wire_injective

/-- Entries of different attributes are found by their wire names. -/
theorem get?_eq_get (hentries : List.Forall₂ (IsEntryOf row) shown projection)
    {field : entity.Field} (hfield : field ∈ shown) :
    projection.get? (Entity.info field).wire = row.get field := by
  induction hentries with
  | nil => cases hfield
  | @cons other entry others projection hentry _ ih =>
    obtain ⟨name, value⟩ := entry
    obtain ⟨rfl, hvalue⟩ := hentry
    by_cases hsame : field = other
    · rw [hsame, get?, List.lookup_cons_self, hvalue]
    · have hwire : (Entity.info field).wire ≠ (Entity.info other).wire :=
        fun hwire => hsame (Entity.wire_injective hwire)
      rw [get?, List.lookup_cons, beq_eq_false_iff_ne.mpr hwire]
      exact ih ((List.mem_cons.mp hfield).resolve_left hsame)

theorem get?_eq_none {name : String} (hname : name ∉ projection.keys) :
    projection.get? name = none := by
  rw [get?, List.lookup_eq_none_iff]
  intro entry hentry
  rw [bne_iff_ne]
  intro hequal
  exact hname (hequal ▸ List.mem_map_of_mem hentry)

theorem Exact.of_entries (hshown : FirstMentions shown (present row fields))
    (hentries : List.Forall₂ (IsEntryOf row) shown projection) :
    Exact row fields projection where
  entries := ⟨shown, hshown, hentries⟩
  nodup := by
    rw [keys_eq hentries]
    exact hshown.nodup.map Entity.wire_injective
  value field hfield := by
    by_cases hpresent : (row.get field).isSome
    · apply get?_eq_get hentries
      rw [hshown.mem, present, List.mem_filter]
      exact ⟨hfield, hpresent⟩
    · have habsent : (Entity.info field).wire ∉ projection.keys := by
        rw [wire_mem_keys_iff hentries, hshown.mem, present, List.mem_filter]
        exact fun hmem => hpresent hmem.2
      rw [get?_eq_none habsent]
      exact (Option.not_isSome_iff_eq_none.mp hpresent).symm

/-! ## Gathering -/

theorem ofRow_concat (row : Row entity) (fields : List entity.Field)
    (field : entity.Field) :
    ofRow row (fields ++ [field]) = extend row (ofRow row fields) field :=
  List.foldl_concat ..

/-- An attribute that the row lacks adds nothing. -/
theorem extend_of_absent {field : entity.Field}
    (habsent : row.get field = none) :
    extend row projection field = projection := by
  rw [extend, habsent]
  exact ite_self projection

/-- A wire name that is there already adds nothing. -/
theorem extend_of_mem {field : entity.Field}
    (hname : (Entity.info field).wire ∈ projection.keys) :
    extend row projection field = projection :=
  if_pos (List.contains_iff_mem.mpr hname)

theorem extend_of_present {field : entity.Field} {value : Value}
    (hname : (Entity.info field).wire ∉ projection.keys)
    (hvalue : row.get field = some value) :
    extend row projection field =
      projection ++ [((Entity.info field).wire, value)] := by
  rw [extend, hvalue]
  exact if_neg fun hcontains => hname (List.contains_iff_mem.mp hcontains)

/-- The projection of a row on attributes shows the row by them. -/
theorem exact_ofRow (row : Row entity) (fields : List entity.Field) :
    Exact row fields (ofRow row fields) := by
  suffices hentries : ∃ shown, FirstMentions shown (present row fields) ∧
      List.Forall₂ (IsEntryOf row) shown (ofRow row fields) by
    obtain ⟨shown, hshown, hentries⟩ := hentries
    exact .of_entries hshown hentries
  induction fields using List.reverseRecOn with
  | nil => exact ⟨[], .nil, .nil⟩
  | append_singleton fields field ih =>
    obtain ⟨shown, hshown, hentries⟩ := ih
    rw [ofRow_concat, present, List.filter_append]
    cases hvalue : row.get field with
    | none =>
      rw [extend_of_absent hvalue, List.filter_singleton, hvalue]
      simpa using ⟨shown, hshown, hentries⟩
    | some value =>
      rw [List.filter_singleton, hvalue]
      by_cases hfield : field ∈ present row fields
      · have hname : (Entity.info field).wire ∈ (ofRow row fields).keys := by
          rwa [wire_mem_keys_iff hentries, hshown.mem]
        rw [extend_of_mem hname]
        exact ⟨shown, hshown.concat_of_mem hfield, hentries⟩
      · have hname : (Entity.info field).wire ∉ (ofRow row fields).keys := by
          rwa [wire_mem_keys_iff hentries, hshown.mem]
        rw [extend_of_present hname hvalue]
        refine ⟨shown ++ [field], hshown.append (.singleton field) ?_,
          List.rel_append hentries (.cons ⟨rfl, hvalue⟩ .nil)⟩
        simpa using hfield

/-- An attribute that is mentioned again changes nothing. -/
theorem ofRow_concat_of_mem {field : entity.Field} (hfield : field ∈ fields) :
    ofRow row (fields ++ [field]) = ofRow row fields := by
  rw [ofRow_concat]
  cases hvalue : row.get field with
  | none => exact extend_of_absent hvalue
  | some value =>
    obtain ⟨shown, hshown, hentries⟩ := (exact_ofRow row fields).entries
    apply extend_of_mem
    rw [wire_mem_keys_iff hentries, hshown.mem, present, List.mem_filter]
    exact ⟨hfield, by rw [hvalue]; rfl⟩

theorem ofRow_eraseDups (row : Row entity) (fields : List entity.Field) :
    ofRow row fields.eraseDups = ofRow row fields := by
  induction fields using List.reverseRecOn with
  | nil => rfl
  | append_singleton fields field ih =>
    rw [List.eraseDups_append]
    by_cases hfield : field ∈ fields
    · have hnone : [field].removeAll fields = [] := by
        simp [List.removeAll, hfield]
      rw [hnone, List.eraseDups_nil, List.append_nil, ih,
        ofRow_concat_of_mem hfield]
    · have hkept : [field].removeAll fields = [field] := by
        simp [List.removeAll, hfield]
      have hsingle : [field].eraseDups = [field] := rfl
      rw [hkept, hsingle, ofRow_concat, ofRow_concat, ih]

/-! ## Tokens -/

variable {tokens : List String}

/-- Each token of a list names the attribute at its place in the other list. -/
def ResolveTo (tokens : List String) (fields : List entity.Field) : Prop :=
  List.Forall₂ (fun token field => entity.readField token = .ok field)
    tokens fields

/-- The error is about the first token of a list that names no attribute. -/
def IsFirstUnknown (entity : Entity) (tokens : List String)
    (error : UnknownField) : Prop :=
  ∃ before after, tokens = before ++ error.token :: after ∧
    (∀ earlier ∈ before, ∃ field, entity.readField earlier = .ok field) ∧
    ∀ field : entity.Field, ¬ Entity.Names error.token field

theorem ofTokens_eq_map (row : Row entity) (tokens : List String) :
    ofTokens row tokens = (entity.resolve tokens).map (ofRow row) := by
  rw [ofTokens]
  cases entity.resolve tokens <;> rfl

/-- How often an attribute is named makes no difference. -/
theorem ofTokens_eq_ofRow (row : Row entity) {fields : List entity.Field}
    (hresolve : ResolveTo tokens fields) :
    ofTokens row tokens = .ok (ofRow row fields) := by
  have hread : entity.resolve tokens = .ok fields.eraseDups := by
    rw [Entity.resolve_eq_ok_iff]
    exact ⟨fields, hresolve, firstMentions_eraseDups fields⟩
  rw [ofTokens_eq_map, hread, Except.map, ofRow_eraseDups]

theorem ofTokens_eq_error_iff (row : Row entity) {error : UnknownField} :
    ofTokens row tokens = .error error ↔
      IsFirstUnknown entity tokens error := by
  have hresolve : ofTokens row tokens = .error error ↔
      entity.resolve tokens = .error error := by
    rw [ofTokens_eq_map]
    cases entity.resolve tokens <;> simp [Except.map]
  rw [hresolve, Entity.resolve_eq_error_iff]
  constructor
  · rintro ⟨before, token, after, hsplit, hbefore, htoken⟩
    obtain ⟨hunknown, rfl⟩ := Entity.readField_eq_error_iff.mp htoken
    exact ⟨before, after, hsplit, hbefore, hunknown⟩
  · rintro ⟨before, after, hsplit, hbefore, hunknown⟩
    exact ⟨before, error.token, after, hsplit, hbefore,
      Entity.readField_eq_error_iff.mpr ⟨hunknown, rfl⟩⟩

theorem exists_ofTokens_iff (row : Row entity) :
    (∃ projection, ofTokens row tokens = .ok projection) ↔
      ∃ fields : List entity.Field, ResolveTo tokens fields := by
  have hresolve : (∃ projection, ofTokens row tokens = .ok projection) ↔
      ∃ fields, entity.resolve tokens = .ok fields := by
    rw [ofTokens_eq_map]
    cases entity.resolve tokens <;> simp [Except.map]
  rw [hresolve, Entity.exists_resolve_eq_ok_iff, ← exists_mapM_eq_ok_iff]
  simp only [mapM_eq_ok_iff, ResolveTo]

/-- The projection of a row on attributes has the entries of those that are
present and no other, in the order of first mention, and under the wire name of
every attribute that is asked for it has what the row has.  The projection by
tokens that all name an attribute is the one by these attributes.  Any other
tokens are refused for the first that names none, and so for every row alike. -/
theorem projections_exact (entity : Entity) :
    (∀ (row : Row entity) fields, Exact row fields (ofRow row fields)) ∧
    (∀ (row : Row entity) tokens fields, ResolveTo tokens fields →
      ofTokens row tokens = .ok (ofRow row fields)) ∧
    (∀ (row : Row entity) tokens,
      (∃ projection, ofTokens row tokens = .ok projection) ↔
        ∃ fields : List entity.Field, ResolveTo tokens fields) ∧
    (∀ (row : Row entity) tokens error, ofTokens row tokens = .error error ↔
      IsFirstUnknown entity tokens error) ∧
    (∀ (row other : Row entity) tokens error,
      ofTokens row tokens = .error error →
        ofTokens other tokens = .error error) := by
  refine ⟨exact_ofRow, fun row tokens fields => ofTokens_eq_ofRow row,
    fun row tokens => exists_ofTokens_iff row,
    fun row tokens error => ofTokens_eq_error_iff row, ?_⟩
  intro row other tokens error hrefused
  rw [ofTokens_eq_error_iff] at hrefused ⊢
  exact hrefused

/-- A province of thirteen districts, with a blank for the Nepali name of its
head office. -/
def sampleProvince (name : String) : Row .provinces
  | .id => ⟨3⟩
  | .name => name
  | .nameNepali => none
  | .areaSqKm => some (20300.0 : Float)
  | .population => none
  | .headquarter => none
  | .headquarterNepali => some "  "
  | .districtCount => (13 : Int)
  | .createdAt => ⟨0, 0⟩
  | .updatedAt => ⟨0, 0⟩

theorem projections_exact_sample :
    (ofRow (sampleProvince "Bagmati") [ProvinceField.districtCount, .nameNepali,
        .headquarterNepali, .districtCount]).get? "districtCount" =
      some (.integer 13) ∧
    @ResolveTo .provinces ["headquarterNepali", "name", "HEADQUARTER_NEPALI"]
      [ProvinceField.headquarterNepali, .name, .headquarterNepali] ∧
    ofTokens (sampleProvince "Bagmati")
        ["headquarterNepali", "name", "HEADQUARTER_NEPALI"] =
      .ok [("headquarterNepali", .text "  "), ("name", .text "Bagmati")] ∧
    ofTokens (sampleProvince "Bagmati") ["name", "mayor", "king"] =
      .error ⟨"mayor"⟩ ∧
    ofTokens (sampleProvince "Koshi") ["name", "mayor", "king"] =
      .error ⟨"mayor"⟩ := by
  obtain ⟨hexact, hnamed, -, hunknown, halike⟩ := projections_exact .provinces
  have hresolve : @ResolveTo .provinces
      ["headquarterNepali", "name", "HEADQUARTER_NEPALI"]
      [ProvinceField.headquarterNepali, .name, .headquarterNepali] :=
    .cons (by decide) (.cons (by decide) (.cons (by decide) .nil))
  have hmayor := Entity.field?_eq_none_iff.mp
    (by decide : @Entity.field? .provinces "mayor" = none)
  have hrefused : ofTokens (sampleProvince "Bagmati")
      ["name", "mayor", "king"] = .error ⟨"mayor"⟩ := by
    rw [hunknown]
    refine ⟨["name"], ["king"], rfl, ?_, hmayor⟩
    simpa using ⟨ProvinceField.name, by decide⟩
  refine ⟨?_, hresolve, ?_, hrefused, halike _ _ _ _ hrefused⟩
  · exact (hexact _ _).value ProvinceField.districtCount (by decide)
  · rw [hnamed _ _ _ hresolve]
    rfl

end Projection

end CivicRegistry
