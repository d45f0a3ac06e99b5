import CivicRegistry.Text.Base64Url
import CivicRegistry.Text.Utf8
import CivicRegistry.Uuid
import Mathlib.Algebra.Ring.Nat

/-!
# Reading back what was written

Bytes in the alphabet of addresses, characters as bytes, numbers in hexadecimal
digits and identifiers are read back as what they were written for.
-/

namespace CivicRegistry.Text

open CivicRegistry.Digest (Bytes)

/-! ## The alphabet of addresses -/

namespace Base64Url

theorem value?_digit {n : Nat} (hn : n < 64) : value? (digit n) = some n := by
  have hall : ∀ m : Fin 64, value? (digit m.val) = some m.val := by decide
  exact hall ⟨n, hn⟩

/-- The numbers below sixty-four that some bytes are written as. -/
def sextets : Bytes → List Nat
  | a :: b :: c :: rest =>
    let n := a.toNat * 65536 + b.toNat * 256 + c.toNat
    n / 262144 :: n / 4096 % 64 :: n / 64 % 64 :: n % 64 :: sextets rest
  | [a, b] =>
    let n := a.toNat * 1024 + b.toNat * 4
    [n / 4096, n / 64 % 64, n % 64]
  | [a] =>
    let n := a.toNat * 16
    [n / 64, n % 64]
  | [] => []

theorem encode_eq_map (bytes : Bytes) :
    encode bytes = (sextets bytes).map digit := by
  induction bytes using encode.induct with
  | case1 a b c rest ih => rw [encode, ih, sextets]; rfl
  | case2 a b => rfl
  | case3 a => rfl
  | case4 => rfl

theorem sextets_lt (bytes : Bytes) : ∀ n ∈ sextets bytes, n < 64 := by
  induction bytes using encode.induct with
  | case1 a b c rest ih =>
    have ha := a.toNat_lt
    have hb := b.toNat_lt
    have hc := c.toNat_lt
    simp only [sextets, List.forall_mem_cons]
    exact ⟨by omega, by omega, by omega, by omega, ih⟩
  | case2 a b =>
    have ha := a.toNat_lt
    have hb := b.toNat_lt
    simp only [sextets, List.forall_mem_cons]
    exact ⟨by omega, by omega, by omega, by simp⟩
  | case3 a =>
    have ha := a.toNat_lt
    simp only [sextets, List.forall_mem_cons]
    exact ⟨by omega, by omega, by simp⟩
  | case4 => simp [sextets]

theorem ofNat_eq {byte : UInt8} {n : Nat} (hn : n % 256 = byte.toNat) :
    UInt8.ofNat n = byte := by
  apply UInt8.toNat.inj
  rw [UInt8.toNat_ofNat', hn]

theorem ofValues?_sextets (bytes : Bytes) :
    ofValues? (sextets bytes) = some bytes := by
  induction bytes using encode.induct with
  | case1 a b c rest ih =>
    have ha := a.toNat_lt
    have hb := b.toNat_lt
    have hc := c.toNat_lt
    obtain ⟨n, hn⟩ : ∃ n, n = a.toNat * 65536 + b.toNat * 256 + c.toNat :=
      ⟨_, rfl⟩
    have hall : n / 262144 * 262144 + n / 4096 % 64 * 4096 +
        n / 64 % 64 * 64 + n % 64 = n := by omega
    have hfirst : UInt8.ofNat (n / 65536) = a := ofNat_eq (by omega)
    have hsecond : UInt8.ofNat (n / 256) = b := ofNat_eq (by omega)
    have hthird : UInt8.ofNat n = c := ofNat_eq (by omega)
    rw [sextets, ← hn, ofValues?, ih, hall, hfirst, hsecond, hthird]
    rfl
  | case2 a b =>
    have ha := a.toNat_lt
    have hb := b.toNat_lt
    obtain ⟨n, hn⟩ : ∃ n, n = a.toNat * 1024 + b.toNat * 4 := ⟨_, rfl⟩
    have hall : n / 4096 * 4096 + n / 64 % 64 * 64 + n % 64 = n := by omega
    have hfirst : UInt8.ofNat (n / 1024) = a := ofNat_eq (by omega)
    have hsecond : UInt8.ofNat (n / 4) = b := ofNat_eq (by omega)
    rw [sextets, ← hn, ofValues?, hall, if_pos (by omega), hfirst, hsecond]
  | case3 a =>
    have ha := a.toNat_lt
    obtain ⟨n, hn⟩ : ∃ n, n = a.toNat * 16 := ⟨_, rfl⟩
    have hall : n / 64 * 64 + n % 64 = n := by omega
    have hfirst : UInt8.ofNat (n / 16) = a := ofNat_eq (by omega)
    rw [sextets, ← hn, ofValues?, hall, if_pos (by omega), hfirst]
  | case4 => rfl

theorem mapM_value?_digits {numbers : List Nat}
    (hnumbers : ∀ n ∈ numbers, n < 64) :
    (numbers.map digit).mapM value? = some numbers := by
  induction numbers with
  | nil => rfl
  | cons n others ih =>
    rw [List.forall_mem_cons] at hnumbers
    simp [List.mapM_cons, value?_digit hnumbers.1, ih hnumbers.2]

theorem decode?_encode (bytes : Bytes) :
    decode? (encode bytes) = some bytes := by
  rw [decode?, encode_eq_map, mapM_value?_digits (sextets_lt bytes)]
  exact ofValues?_sextets bytes

end Base64Url

/-! ## Characters as bytes -/

theorem toList_loop_eq (bytes : ByteArray) (position : Nat) (read : Bytes) :
    ByteArray.toList.loop bytes position read =
      read.reverse ++ bytes.data.toList.drop position := by
  fun_induction ByteArray.toList.loop bytes position read with
  | case1 position read hposition ih =>
    have hlength : position < bytes.data.toList.length := by
      simpa using hposition
    rw [ih, List.drop_eq_getElem_cons hlength]
    simp [ByteArray.get!, hposition]
  | case2 position read hposition =>
    have hlength : bytes.data.toList.length ≤ position := by
      simpa using hposition
    rw [List.drop_eq_nil_of_le hlength, List.append_nil]

theorem toByteArray_toList (bytes : ByteArray) :
    bytes.toList.toByteArray = bytes := by
  apply ByteArray.ext
  rw [List.data_toByteArray, ByteArray.toList, toList_loop_eq]
  rfl

/-- Characters that stand as bytes after some others are read back. -/
theorem symbolsFrom_append (before : ByteArray) (chars : List Char) :
    symbolsFrom (before ++ chars.utf8Encode) before.size = chars.map some := by
  induction chars generalizing before with
  | nil =>
    rw [symbolsFrom, if_neg (by simp)]
    rfl
  | cons c rest ih =>
    have hdecode : (before ++ (c :: rest).utf8Encode).utf8DecodeChar?
        before.size = some c := by
      rw [ByteArray.utf8DecodeChar?_eq_utf8DecodeChar?_extract,
        ByteArray.size_append, ByteArray.extract_append_eq_right rfl rfl,
        List.utf8DecodeChar?_utf8Encode_cons]
    have hsize : before.size < (before ++ (c :: rest).utf8Encode).size :=
      ByteArray.lt_size_of_isSome_utf8DecodeChar? (by rw [hdecode]; rfl)
    have hlater : before.size + c.utf8Size =
        (before ++ [c].utf8Encode).size := by
      rw [ByteArray.size_append, List.utf8Encode_singleton,
        List.size_toByteArray, String.length_utf8EncodeChar]
    rw [symbolsFrom, if_pos hsize, hdecode]
    dsimp only
    rw [hlater, List.utf8Encode_cons, ← ByteArray.append_assoc, ih,
      List.map_cons]

theorem symbols_toUTF8 (text : String) :
    symbols text.toUTF8 = text.toList.map some := by
  have hsymbols := symbolsFrom_append ByteArray.empty text.toList
  rw [String.utf8Encode_toList, ByteArray.empty_append] at hsymbols
  exact hsymbols

/-! ## Hexadecimal digits -/

theorem hexNumber?_concat (digits : List Char) (c : Char) :
    hexNumber? (digits ++ [c]) =
      (hexNumber? digits).bind fun n => (hexValue? c).map (16 * n + ·) := by
  rw [hexNumber?, List.foldlM_append]
  refine congrArg (Option.bind (hexNumber? digits)) (funext fun n => ?_)
  simp

/-- A number that is written with too few digits is cut to its last ones. -/
theorem hexNumber?_hexDigits (width n : Nat) :
    hexNumber? (hexDigits width n) = some (n % 16 ^ width) := by
  induction width generalizing n with
  | zero => simp [hexDigits, hexNumber?, Nat.mod_one]
  | succ width ih =>
    have hdigit : hexValue? (hexDigit (n % 16)) = some (n % 16) :=
      hexValue?_hexDigit (Nat.mod_lt n (by decide))
    have hsum : 16 * (n / 16 % 16 ^ width) + n % 16 =
        n % 16 ^ (width + 1) := by
      rw [Nat.pow_succ', Nat.mod_mul]
      omega
    simp [hexDigits, hexNumber?_concat, ih, hdigit, hsum]

theorem exists_hexDigit {width n : Nat} {c : Char}
    (hmem : c ∈ hexDigits width n) : ∃ m < 16, c = hexDigit m := by
  induction width generalizing n with
  | zero => cases hmem
  | succ width ih =>
    rcases List.mem_append.mp hmem with hbefore | hlast
    · exact ih hbefore
    · exact ⟨n % 16, Nat.mod_lt n (by decide), List.mem_singleton.mp hlast⟩

theorem hyphen_not_mem_hexDigits (width n : Nat) :
    '-' ∉ hexDigits width n := by
  have hdigit : ∀ m < 16, '-' ≠ hexDigit m := by decide
  intro hmem
  obtain ⟨m, hm, hhyphen⟩ := exists_hexDigit hmem
  exact hdigit m hm hhyphen

end CivicRegistry.Text

/-! ## Identifiers -/

namespace CivicRegistry.Uuid

/-- The hyphens part the digits into groups of the given lengths. -/
theorem splitOn_hyphenated {lengths : List Nat} {digits : List Char}
    (hlengths : lengths ≠ []) (hdigits : digits.length = lengths.sum)
    (hplain : '-' ∉ digits) :
    ((hyphenated lengths digits).splitOn '-').map List.length = lengths ∧
      ((hyphenated lengths digits).splitOn '-').flatten = digits := by
  induction lengths, digits using hyphenated.induct with
  | case1 => exact absurd rfl hlengths
  | case2 length digits =>
    have htake : digits.take length = digits :=
      List.take_of_length_le (by simp [hdigits])
    rw [hyphenated, htake, List.splitOn_eq_singleton hplain]
    simp [hdigits]
  | case3 length others digits hothers ih =>
    have hfirst : '-' ∉ digits.take length := fun hmem =>
      hplain (List.mem_of_mem_take hmem)
    have hrest : '-' ∉ digits.drop length := fun hmem =>
      hplain (List.mem_of_mem_drop hmem)
    rw [List.sum_cons] at hdigits
    obtain ⟨hmap, hflatten⟩ := ih hothers (by simp; omega) hrest
    rw [hyphenated, List.splitOn_append_cons_self_of_not_mem hfirst,
      List.map_cons, List.flatten_cons, hmap, hflatten,
      List.take_append_drop, List.length_take]
    simp [hdigits]
    exact hothers

theorem groupedDigits?_chars (uuid : Uuid) :
    groupedDigits? uuid.chars =
      some (Text.hexDigits 32 uuid.bits.toNat) := by
  obtain ⟨hmap, hflatten⟩ := splitOn_hyphenated
    (show groupLengths ≠ [] by decide)
    (Text.length_hexDigits 32 uuid.bits.toNat)
    (Text.hyphen_not_mem_hexDigits 32 uuid.bits.toNat)
  rw [groupedDigits?, chars, if_pos hmap, hflatten]

theorem ofDigits?_hexDigits (uuid : Uuid) :
    ofDigits? (Text.hexDigits 32 uuid.bits.toNat) = some uuid := by
  have hbits : uuid.bits.toNat < 16 ^ 32 := uuid.bits.isLt
  rw [ofDigits?, if_pos (Text.length_hexDigits _ _), Text.hexNumber?_hexDigits,
    Nat.mod_eq_of_lt hbits, Option.map_some, BitVec.ofNat_toNat,
    BitVec.setWidth_eq]

theorem length_chars (uuid : Uuid) : uuid.chars.length = 36 := by
  simp [chars, groupLengths, hyphenated]

theorem mem_hyphenated {lengths : List Nat} {digits : List Char} {c : Char}
    (hmem : c ∈ hyphenated lengths digits) : c = '-' ∨ c ∈ digits := by
  induction lengths, digits using hyphenated.induct with
  | case1 => cases hmem
  | case2 length digits => exact .inr (List.mem_of_mem_take hmem)
  | case3 length others digits hothers ih =>
    rw [hyphenated, List.mem_append, List.mem_cons] at hmem
    · rcases hmem with hfirst | hhyphen | hrest
      · exact .inr (List.mem_of_mem_take hfirst)
      · exact .inl hhyphen
      · exact (ih hrest).imp_right List.mem_of_mem_drop
    · exact hothers

/-- The written form has neither a colon nor a brace. -/
theorem ne_of_mem_chars {uuid : Uuid} {c : Char} (hmem : c ∈ uuid.chars) :
    c.toLower ≠ ':' ∧ c ≠ '\x7b' := by
  have hdigit : ∀ m < 16, (Text.hexDigit m).toLower ≠ ':' ∧
      Text.hexDigit m ≠ '\x7b' := by decide
  rcases mem_hyphenated hmem with rfl | hdigits
  · decide
  · obtain ⟨m, hm, rfl⟩ := Text.exists_hexDigit hdigits
    exact hdigit m hm

theorem bare_chars (uuid : Uuid) : bare uuid.chars = uuid.chars := by
  have hscheme : ((uuid.chars.take "urn:uuid:".toList.length).map
      Char.toLower) ≠ "urn:uuid:".toList := by
    intro hequal
    have hcolon : ':' ∈ "urn:uuid:".toList := by decide
    rw [← hequal, List.mem_map] at hcolon
    obtain ⟨c, hmem, hlower⟩ := hcolon
    exact (ne_of_mem_chars (List.mem_of_mem_take hmem)).1 hlower
  have hbrace : uuid.chars.head? ≠ some '\x7b' := by
    intro hhead
    exact (ne_of_mem_chars (List.mem_of_mem_head? hhead)).2 rfl
  rw [bare, if_neg hscheme, if_neg fun hbraces => hbrace hbraces.1]

/-- An identifier is read back from its written form. -/
theorem ofText?_text (uuid : Uuid) : ofText? uuid.text = some uuid := by
  have hlength : uuid.chars.length ≠ 32 := by
    rw [length_chars]
    decide
  rw [ofText?, text, String.toList_ofList, if_neg hlength, bare_chars,
    groupedDigits?_chars, Option.bind_some, ofDigits?_hexDigits]

end CivicRegistry.Uuid
