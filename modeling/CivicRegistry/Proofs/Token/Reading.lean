import CivicRegistry.Proofs.Token.Opening
import CivicRegistry.Token.Issuer

/-!
# Reading back the claims of a token

The claims of a token are written as an object under the keys that they are
read by.  An object of that form gives back the value under each key, and so a
token that was signed opens to the claims it was signed for.
-/

namespace CivicRegistry.Schema

variable {Source Key : Type} {schema : Schema Source Key}
  {other : Source → Option Refusal} {source : Key → Source}

/-- Members under some keys of a schema, one for each. -/
def membersUnder (schema : Schema Source Key) (source : Key → Source)
    (keys : List Key) : Members Source :=
  keys.map fun key => (some (schema.name key), source key)

theorem refusal?_membersUnder [DecidableEq Key] {seen keys : List Key}
    (hnames : ∀ key ∈ keys, schema.keyOf? (schema.name key) = some key)
    (hread : ∀ key ∈ keys, ∃ value, schema.read key (source key) = .ok value)
    (hnodup : keys.Nodup) (hseen : ∀ key ∈ keys, key ∉ seen) :
    schema.refusal? other seen (schema.membersUnder source keys) = none := by
  induction keys generalizing seen with
  | nil => rfl
  | cons key others ih =>
    rw [List.forall_mem_cons] at hnames hread hseen
    rw [List.nodup_cons] at hnodup
    obtain ⟨value, hvalue⟩ := hread.1
    have hmember : schema.memberRefusal? other seen (schema.name key)
        (source key) = none := by
      rw [memberRefusal?, hnames.1]
      simp only
      rw [if_neg hseen.1, hvalue]
    have hlater : ∀ next ∈ others, next ∉ [key] ++ seen := by
      intro next hnext hmem
      rcases List.mem_cons.mp hmem with rfl | hbefore
      · exact hnodup.1 hnext
      · exact hseen.2 next hnext hbefore
    rw [membersUnder, List.map_cons, refusal?, hmember]
    simp only
    rw [hnames.1]
    exact ih hnames.2 hread.2 hnodup.2 hlater

theorem lookup_membersUnder {keys : List Key} {key : Key} (hkey : key ∈ keys)
    (hnames : ∀ key ∈ keys, schema.keyOf? (schema.name key) = some key) :
    (schema.membersUnder source keys).lookup (some (schema.name key)) =
      some (source key) := by
  induction keys with
  | nil => cases hkey
  | cons next others ih =>
    have hown := hnames key hkey
    rw [List.forall_mem_cons] at hnames
    rw [membersUnder, List.map_cons, List.lookup_cons]
    by_cases hname : schema.name key = schema.name next
    · have hnext : key = next := by
        rw [hname, hnames.1] at hown
        exact (Option.some.inj hown).symm
      subst hnext
      simp
    · have hothers : key ∈ others := by
        rcases List.mem_cons.mp hkey with rfl | hothers
        · exact absurd rfl hname
        · exact hothers
      simp only [Option.some_beq_some, beq_eq_false_iff_ne.mpr hname]
      exact ih hothers hnames.2

/-- An object with one readable value under each key of a schema. -/
theorem readMembers_membersUnder [DecidableEq Key]
    {value : (key : Key) → schema.Carrier key}
    (hall : ∀ key, key ∈ schema.keys) (hnodup : schema.keys.Nodup)
    (hnames : ∀ key, schema.keyOf? (schema.name key) = some key)
    (hread : ∀ key, schema.read key (source key) = .ok (value key)) :
    schema.readMembers other (schema.membersUnder source schema.keys) =
      .ok fun key => some (value key) := by
  rw [readMembers, refusal?_membersUnder (fun key _ => hnames key)
    (fun key _ => ⟨_, hread key⟩) hnodup (fun _ _ => List.not_mem_nil)]
  refine congrArg Except.ok (funext fun key => ?_)
  rw [values, lookup_membersUnder (hall key) fun key _ => hnames key,
    Option.bind_some, hread]
  rfl

/-- An object without any key of a schema. -/
theorem readMembers_foreign [DecidableEq Key] {members : Members Source}
    (hall : ∀ key, key ∈ schema.keys)
    (hforeign : ∀ member ∈ members, ∃ name, member.1 = some name ∧
      schema.keyOf? name = none ∧ other member.2 = none) :
    schema.readMembers other members = .ok fun _ => none := by
  have hrefusal (seen) : schema.refusal? other seen members = none := by
    induction members generalizing seen with
    | nil => rfl
    | cons member others ih =>
      rw [List.forall_mem_cons] at hforeign
      obtain ⟨⟨name, hname, hkey, hother⟩, hothers⟩ := hforeign
      obtain ⟨named, value⟩ := member
      obtain rfl : named = some name := hname
      rw [refusal?, memberRefusal?, hkey]
      simp only [hother]
      exact ih hothers _
  rw [readMembers, hrefusal]
  refine congrArg Except.ok (funext fun key => ?_)
  have habsent : members.lookup (some (schema.name key)) = none := by
    rw [List.lookup_eq_none_iff]
    intro member hmember
    obtain ⟨name, hname, hkey, -⟩ := hforeign member hmember
    have hne := List.find?_eq_none.mp hkey key (hall key)
    rw [hname]
    simpa using hne
  rw [values, habsent, Option.bind_none]

end CivicRegistry.Schema

namespace CivicRegistry.Token

open CivicRegistry.Digest (Bytes)

/-- An integer of 64 bits. -/
def IsInt64 (value : Int) : Prop :=
  -Int.pow 2 63 ≤ value ∧ value ≤ Int.pow 2 63 - 1

instance (value : Int) : Decidable (IsInt64 value) :=
  inferInstanceAs (Decidable (_ ∧ _))

theorem IsInt64.fitsWord {value : Int} (hvalue : IsInt64 value) :
    Json.FitsWord value := by
  have hpow : Int.pow 2 64 = 2 * Int.pow 2 63 := rfl
  have hpos : 0 < Int.pow 2 63 := by decide
  exact ⟨hvalue.1, by have := hvalue.2; omega⟩

theorem Purpose.ofWord?_word (purpose : Purpose) :
    Purpose.ofWord? purpose.word = some purpose := by
  cases purpose <;> decide

theorem role_ofWord?_word (role : Role) :
    Vocabulary.ofWord? (Vocabulary.word role) = some role := by
  cases role <;> decide

/-- A word is read back by whatever reads its text. -/
theorem wordOfOutline_text {α : Type} {ofWord : String → Option α}
    {word : String} {value : α} (hword : ofWord word = some value) :
    Intake.wordOfOutline ofWord (Json.text word).outlined = .ok value := by
  rw [Json.outlined, Intake.wordOfOutline, Json.text?_map_char, Option.elim,
    Intake.readWord, hword]
  rfl

theorem mapM_roles (roles : List Role) :
    (Json.outlinedItems ((roles.map Vocabulary.word).map .text)).mapM
      (Intake.wordOfOutline Vocabulary.ofWord?) = .ok roles := by
  induction roles with
  | nil => rfl
  | cons role others ih =>
    rw [List.map_cons, List.map_cons, Json.outlinedItems, List.mapM_cons, ih,
      wordOfOutline_text (role_ofWord?_word role)]
    rfl

namespace Claims

variable (claims : Claims)

/-- What is written under a key. -/
def document : ClaimKey → Json
  | .sub => .text claims.subject.userId.text
  | .email => .text claims.subject.email
  | .roles => .texts (claims.subject.roles.map Vocabulary.word)
  | .tokenType => .text claims.purpose.word
  | .jti => .text claims.tokenId.text
  | .iat => .integer claims.issuedAt
  | .exp => .integer claims.expiresAt

/-- What is read under a key. -/
def value : (key : ClaimKey) → ClaimKey.Carrier key
  | .sub => claims.subject.userId
  | .email => claims.subject.email
  | .roles => claims.subject.roles
  | .tokenType => claims.purpose
  | .jti => claims.tokenId
  | .iat => claims.issuedAt
  | .exp => claims.expiresAt

/-- The times of the claims are integers of 64 bits. -/
structure Timed : Prop where
  issuedAt : IsInt64 claims.issuedAt
  expiresAt : IsInt64 claims.expiresAt

/-- The members of the printed claims as they are read. -/
def members : Schema.Members Json.Outline :=
  ClaimKey.schema.membersUnder (fun key => (claims.document key).outlined)
    ClaimKey.schema.keys

theorem decodedMembers_json :
    Schema.decodedMembers (Json.outlinedMembers (ClaimKey.schema.keys.map
      fun key => (key.name, claims.document key))) = claims.members := by
  rw [Json.decodedMembers_outlinedMembers, List.map_map]
  rfl

variable {claims}

theorem readUuid_text (uuid : Uuid) :
    Intake.single Shape.readUuid (Json.text uuid.text).outlined = .ok uuid := by
  rw [Intake.single, Json.outlined, Json.Outline.shape, Json.text?_map_char]
  simp [Shape.readUuid, Shape.readForm, Uuid.ofText?_text, bind, Except.bind]

theorem readInt64_integer {value : Int} (hvalue : IsInt64 value) :
    Intake.single Shape.readInt64 (Json.integer value).outlined =
      .ok value := by
  rw [Intake.single, Json.outlined, Json.Outline.shape]
  exact if_pos hvalue

theorem Timed.read_document (htimed : claims.Timed) (key : ClaimKey) :
    key.read (claims.document key).outlined = .ok (claims.value key) := by
  cases key with
  | sub => exact readUuid_text _
  | email =>
    rw [document, Json.outlined, ClaimKey.read, Intake.single,
      Json.Outline.shape, Json.text?_map_char]
    rfl
  | roles =>
    rw [document, Json.texts, Json.outlined, ClaimKey.read, Intake.items,
      mapM_roles]
    rfl
  | tokenType => exact wordOfOutline_text (Purpose.ofWord?_word _)
  | jti => exact readUuid_text _
  | iat => exact readInt64_integer htimed.issuedAt
  | exp => exact readInt64_integer htimed.expiresAt

theorem Timed.readMembers (htimed : claims.Timed) :
    ClaimKey.schema.readMembers Json.Outline.ignored? claims.members =
      .ok fun key => some (claims.value key) := by
  apply Schema.readMembers_membersUnder
  · intro key
    cases key <;> decide
  · decide
  · intro key
    cases key <;> rfl
  · exact htimed.read_document

/-- The claims have none of the keys that are also looked at. -/
theorem readMembers_registered :
    RegisteredKey.schema.readMembers Json.Outline.ignored? claims.members =
      .ok fun _ => none := by
  apply Schema.readMembers_foreign
  · intro key
    cases key <;> decide
  · intro member hmember
    obtain ⟨key, -, rfl⟩ := List.mem_map.mp hmember
    refine ⟨key.name, rfl, ?_, Json.ignored?_outlined _⟩
    cases key <;> rfl

/-- The object of some claims gives them back and names no audience. -/
theorem Timed.ofOutline?_json (htimed : claims.Timed) :
    ofOutline? claims.json.outlined = some (claims, false) := by
  have hjson : claims.json.outlined = .object (Json.outlinedMembers
      (ClaimKey.schema.keys.map fun key =>
        (key.name, claims.document key))) true := rfl
  have hvalues : ClaimKey.schema.readObject Json.Outline.ignored?
      claims.json.outlined = .ok fun key => some (claims.value key) := by
    rw [hjson, Schema.readObject, decodedMembers_json, htimed.readMembers]
    rfl
  have hregistered : RegisteredKey.schema.readObject Json.Outline.ignored?
      claims.json.outlined = .ok fun _ => none := by
    rw [hjson, Schema.readObject, decodedMembers_json, readMembers_registered]
    rfl
  rw [ofOutline?, hvalues, hregistered]
  rfl

theorem Timed.exact (htimed : claims.Timed) : claims.json.Exact := by
  have hroles : Json.ItemsExact
      ((claims.subject.roles.map Vocabulary.word).map .text) := by
    rw [Json.itemsExact_iff]
    intro item hitem
    obtain ⟨word, -, rfl⟩ := List.mem_map.mp hitem
    trivial
  exact ⟨trivial, trivial, hroles, trivial, trivial,
    htimed.issuedAt.fitsWord, htimed.expiresAt.fitsWord, trivial⟩

end Claims

/-- A payload whose bytes hold claims opens to them, unless they expired
before 1970. -/
theorem claimsOfPayload_encode {bytes : Bytes} {claims : Claims}
    (hread : (outlineOfBytes? bytes).bind Claims.ofOutline? =
      some (claims, false)) :
    claimsOfPayload (Text.Base64Url.encode bytes) =
      if claims.expiresAt < 0 then .error (.missingClaim "exp")
      else .ok claims := by
  rw [claimsOfPayload, Text.Base64Url.decode?_encode]
  simp only [Option.elim, bind, Except.bind, hread]
  split <;> rfl

/-- A signed token opens to the claims it was signed for, unless they expired
before 1970. -/
theorem Claims.Timed.decode_eq {claims : Claims} (htimed : claims.Timed)
    (secret : Secret) :
    decode secret (sign secret claims) =
      if claims.expiresAt < 0 then .error (.missingClaim "exp")
      else .ok claims := by
  have hread : (outlineOfBytes? (utf8 claims.json.print.toList)).bind
      Claims.ofOutline? = some (claims, false) := by
    rw [outlineOfBytes?, symbols_utf8, Json.wholeOutline?_print htimed.exact,
      Option.bind_some, htimed.ofOutline?_json]
  rw [Token.decode_sign, claimsOfPayload_encode hread]

/-- An issuer whose tokens are good for a minute and for an hour. -/
def sampleIssuer : Issuer :=
  ⟨"s", ⟨60000000000⟩, ⟨3600000000000⟩, by decide⟩

/-- The claims of a refresh token that is good for a hundred seconds. -/
def sampleClaims : Claims :=
  ⟨⟨⟨7#128⟩, "a", []⟩, .refresh, ⟨1#128⟩, 0, 100⟩

def sampleToken : String :=
  sign sampleIssuer.secret sampleClaims

theorem claimsOf_sampleToken :
    sampleIssuer.claimsOf sampleToken = .ok sampleClaims := by
  have htimed : sampleClaims.Timed := ⟨by decide, by decide⟩
  rw [Issuer.claimsOf, sampleToken, htimed.decode_eq]
  rfl

/-- An issuer with the same secret whose access tokens are to be good for two
hundred billion minutes, longer than the calendar lasts. -/
def endlessIssuer : Issuer :=
  { sampleIssuer with accessLifetime := ⟨12000000000000000000000⟩ }

end CivicRegistry.Token
