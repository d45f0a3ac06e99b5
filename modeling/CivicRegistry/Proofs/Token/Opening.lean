import CivicRegistry.Proofs.Json.Printing
import CivicRegistry.Token.Signed

/-!
# Opening what was signed

The alphabet of addresses has no dot, so the three parts of a token come apart
where they were joined.  A token that is opened with the secret it was signed
with comes to what its payload says.
-/

namespace CivicRegistry.Text.Base64Url

theorem digit_ne_dot (n : Nat) : digit n ≠ '.' := by
  have hcapital : ∀ n < 26, Char.ofNat ('A'.toNat + n) ≠ '.' := by decide
  have hsmall : ∀ n < 26, Char.ofNat ('a'.toNat + n) ≠ '.' := by decide
  have hnumeral : ∀ n < 10, Char.ofNat ('0'.toNat + n) ≠ '.' := by decide
  rw [digit]
  split
  · exact hcapital n ‹_›
  split
  · exact hsmall (n - 26) (by omega)
  split
  · exact hnumeral (n - 52) (by omega)
  split <;> decide

theorem dot_not_mem_encode (bytes : Digest.Bytes) :
    '.' ∉ encode bytes := by
  induction bytes using encode.induct with
  | case1 a b c rest ih =>
    simp [encode, ih, (digit_ne_dot _).symm]
  | case2 a b => simp [encode, (digit_ne_dot _).symm]
  | case3 a => simp [encode, (digit_ne_dot _).symm]
  | case4 => simp [encode]

end CivicRegistry.Text.Base64Url

namespace CivicRegistry.Token

theorem splitAtLastDot?_append {before last : List Char}
    (hlast : '.' ∉ last) :
    splitAtLastDot? (before ++ '.' :: last) = some (before, last) := by
  have hplain : ∀ char ∈ last.reverse, (char != '.') = true := by
    intro char hchar
    have hne : char ≠ '.' := by
      rintro rfl
      exact hlast (List.mem_reverse.mp hchar)
    simpa using hne
  have hbackwards : (before ++ '.' :: last).reverse =
      last.reverse ++ '.' :: before.reverse := by
    simp
  rw [splitAtLastDot?, hbackwards, List.dropWhile_append_of_pos hplain,
    List.takeWhile_append_of_pos hplain]
  simp

/-- The bytes of some characters hold them. -/
theorem symbols_utf8 (chars : List Char) :
    Text.symbols (utf8 chars).toByteArray = chars.map some := by
  rw [utf8, Text.toByteArray_toList, Text.symbols_toUTF8,
    String.toList_ofList]

theorem headerAlgorithm?_header :
    headerAlgorithm? (utf8 headerText.toList) = some .hs256 := by
  have hexact : (Json.object [("typ", .text "JWT"),
      ("alg", .text "HS256")]).Exact := ⟨trivial, trivial, trivial⟩
  rw [headerAlgorithm?, outlineOfBytes?, symbols_utf8, headerText,
    Json.wholeOutline?_print hexact]
  rfl

/-- A token whose parts fit together opens to what its payload says. -/
theorem decode_of_parts {secret : Secret} {token : String}
    {signed header payload : List Char} {bytes : Digest.Bytes}
    (hsigned : splitAtLastDot? token.toList =
      some (signed, signature secret signed))
    (hmessage : splitAtLastDot? signed = some (header, payload))
    (hheader : Text.Base64Url.decode? header = some bytes)
    (halgorithm : headerAlgorithm? bytes = some .hs256) :
    decode secret token = claimsOfPayload payload := by
  rw [decode, hsigned]
  simp only [Option.elim, Except.bind, bind, hmessage, hheader, halgorithm]
  simp

/-- A signed token opens to what its payload says. -/
theorem decode_sign (secret : Secret) (claims : Claims) :
    decode secret (sign secret claims) =
      claimsOfPayload (Text.Base64Url.encode
        (utf8 claims.json.print.toList)) := by
  have hsigned : splitAtLastDot? (sign secret claims).toList =
      some (message headerText claims.json.print,
        signature secret (message headerText claims.json.print)) := by
    rw [sign, String.toList_ofList]
    exact splitAtLastDot?_append (Text.Base64Url.dot_not_mem_encode _)
  have hmessage : splitAtLastDot? (message headerText claims.json.print) =
      some (Text.Base64Url.encode (utf8 headerText.toList),
        Text.Base64Url.encode (utf8 claims.json.print.toList)) :=
    splitAtLastDot?_append (Text.Base64Url.dot_not_mem_encode _)
  exact decode_of_parts hsigned hmessage (Text.Base64Url.decode?_encode _)
    headerAlgorithm?_header

end CivicRegistry.Token
