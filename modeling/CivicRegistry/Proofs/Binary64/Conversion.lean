import CivicRegistry.Proofs.Binary64.Amount
import CivicRegistry.Proofs.Binary64.Nearest

/-!
# Integers as binary64 numbers

An integer becomes the number that is nearest to it.  A mantissa is shortened
bit by bit, keeping track of what is lost, so the mantissa that it is rounded to
is a rounded quotient by a power of two.  A result with 53 binary places and an
exponent that fits is packed and unpacked without loss; one with a larger
exponent becomes infinite.
-/

namespace CivicRegistry.Binary64

open Float.Model Float.Model.UnpackedFloat

/-! ## Shortening a mantissa -/

/-- What is known of a mantissa without its last bits: the round bit is set when
they make half a unit or more, the sticky bit when they make neither nothing nor
half a unit. -/
structure Shortened (mantissa bits : Nat) (left : ExtendedMantissa) : Prop where
  kept : left.mantissa = mantissa / 2 ^ bits
  round : left.roundBit = true ↔ 2 ^ bits ≤ 2 * (mantissa % 2 ^ bits)
  sticky : left.stickyBit = true ↔ 2 * (mantissa % 2 ^ bits) ≠ 0 ∧
    2 * (mantissa % 2 ^ bits) ≠ 2 ^ bits

section

variable {mantissa bits : Nat} {left : ExtendedMantissa} {exponent : Int}

theorem Shortened.shiftRightOne (hleft : Shortened mantissa bits left) :
    Shortened mantissa (bits + 1) left.shiftRightOne := by
  have hmod := Nat.mod_pow_succ (b := 2) (k := bits) (x := mantissa)
  have hlt := Nat.mod_lt mantissa (Nat.two_pow_pos bits)
  refine ⟨?_, ?_, ?_⟩
  · rw [ExtendedMantissa.shiftRightOne, hleft.kept, Nat.div_div_eq_div_mul,
      Nat.pow_succ]
  · rw [ExtendedMantissa.shiftRightOne, hleft.kept, bne_iff_ne, hmod,
      Nat.pow_succ]
    rcases Nat.mod_two_eq_zero_or_one (mantissa / 2 ^ bits) with hbit | hbit <;>
      rw [hbit] <;> omega
  · rw [ExtendedMantissa.shiftRightOne, Bool.or_eq_true, hleft.round,
      hleft.sticky, hmod, Nat.pow_succ]
    rcases Nat.mod_two_eq_zero_or_one (mantissa / 2 ^ bits) with hbit | hbit <;>
      rw [hbit] <;> omega

theorem shortened_zero (mantissa : Nat) :
    Shortened mantissa 0 ⟨mantissa, false, false⟩ where
  kept := by rw [Nat.pow_zero, Nat.div_one]
  round := by simp [Nat.mod_one]
  sticky := by simp [Nat.mod_one]

theorem shortened_shiftRight (mantissa bits : Nat) :
    Shortened mantissa bits
      ((⟨mantissa, false, false⟩ : ExtendedMantissa) >>> bits) := by
  show Shortened mantissa bits
    (bits.repeat ExtendedMantissa.shiftRightOne ⟨mantissa, false, false⟩)
  induction bits with
  | zero => exact shortened_zero mantissa
  | succ bits ih => exact ih.shiftRightOne

theorem Shortened.roundedMantissa (hleft : Shortened mantissa bits left) :
    left.roundedMantissa = roundedQuotient mantissa (2 ^ bits) := by
  obtain ⟨kept, round, sticky⟩ := left
  obtain ⟨hkept, hround, hsticky⟩ := hleft
  simp only at hkept hround hsticky
  subst hkept
  rw [roundedQuotient]
  cases round <;> cases sticky <;>
    simp only [Bool.false_eq_true, false_iff, true_iff] at hround hsticky <;>
    simp only [ExtendedMantissa.roundedMantissa, ExtendedMantissa.accuracy,
      Accuracy.roundToNearestEven] <;>
    split <;> (try split) <;> omega

/-! ## Rounding to 53 binary places -/

theorem shiftToTargetExponent_eq (hlog : mantissa.log2 = 52 + bits)
    (hleast : -1074 ≤ exponent + bits) :
    shiftToTargetExponent .binary64 mantissa exponent .exact =
      ((⟨mantissa, false, false⟩ : ExtendedMantissa) >>> bits,
        exponent + bits) := by
  have htarget : Format.binary64.targetExponent
      (totalExponent mantissa exponent) = exponent + bits := by
    rw [Format.targetExponent, totalExponent, hlog]
    show max (((52 + bits : Nat) : Int) + 1 + exponent - 53) (-1074) = _
    omega
  have hbits : (exponent + bits - exponent).toNat = bits := by omega
  rw [shiftToTargetExponent, htarget, shiftToExponent, hbits]
  rfl

/-- An amount as a mantissa of 53 binary places and an exponent. -/
structure Normal (amount : ℝ) (mantissa : Nat) (exponent : Int) : Prop where
  low : 2 ^ 52 ≤ mantissa
  high : mantissa < 2 ^ 53
  least : -1074 ≤ exponent
  eq_amount : (mantissa * 2 ^ exponent : ℝ) = amount

/-- Rounding a mantissa of more than 53 places rounds it to a quotient. -/
theorem exists_roundWithAccuracy (sign : Sign)
    (hlog : mantissa.log2 = 52 + bits) (hleast : -1074 ≤ exponent + bits) :
    ∃ m e, ∃ hpositive : 0 < m,
      roundWithAccuracy .binary64 sign mantissa exponent .exact =
        .finite sign m e hpositive ∧
      Normal (roundedQuotient mantissa (2 ^ bits) * 2 ^ (exponent + bits))
        m e := by
  have hrounded := (shortened_shiftRight mantissa bits).roundedMantissa
  have hne : mantissa ≠ 0 := by
    rintro rfl
    rw [Nat.log2_zero] at hlog
    omega
  obtain ⟨hlow, hhigh⟩ := (Nat.log2_eq_iff hne).mp hlog
  rw [Nat.pow_add] at hlow
  rw [Nat.add_right_comm, Nat.pow_add] at hhigh
  replace hlow := le_roundedQuotient hlow (Nat.two_pow_pos bits)
  replace hhigh := roundedQuotient_le hhigh.le (Nat.two_pow_pos bits)
  rw [roundWithAccuracy, shiftToTargetExponent_eq hlog hleast]
  simp only
  rw [hrounded]
  generalize roundedQuotient mantissa (2 ^ bits) = rounded at hlow hhigh ⊢
  by_cases hcarry : rounded = 2 ^ 53
  · -- one place too many, and the last one is zero
    have hlog' : rounded.log2 = 52 + 1 := by rw [hcarry, Nat.log2_two_pow]
    have hpositive : 0 < rounded / 2 ^ 1 := by omega
    rw [shiftToTargetExponent_eq hlog' (by omega)]
    simp only [(shortened_shiftRight rounded 1).kept]
    rw [dif_neg hpositive.ne']
    refine ⟨_, _, hpositive, rfl, by omega, by omega, by omega, ?_⟩
    rw [hcarry, Nat.cast_one, zpow_add_one₀ two_ne_zero]
    norm_num
    ring
  · have hlog' : rounded.log2 = 52 + 0 :=
      (Nat.log2_eq_iff (by omega)).mpr ⟨by omega, by omega⟩
    have hpositive : 0 < rounded / 2 ^ 0 := by omega
    rw [shiftToTargetExponent_eq hlog' (by omega)]
    simp only [(shortened_shiftRight rounded 0).kept]
    rw [dif_neg hpositive.ne']
    refine ⟨_, _, hpositive, rfl, by omega, by omega, by omega, ?_⟩
    rw [Nat.pow_zero, Nat.div_one, Nat.cast_zero, Int.add_zero]

end

/-! ## Packing -/

section

variable {format : Format} (sign : Sign)
  {exponent : BitVec format.exponentBits}
  (fraction : BitVec format.mantissaBitsWithoutImplicit)

theorem ofBitVec_unpackSign_packComponents :
    Sign.ofBitVec (unpackSign (packComponents format sign exponent fraction)) =
      sign := by
  have hbits : unpackSign (packComponents format sign exponent fraction) =
      sign.toBitVec := by
    apply BitVec.eq_of_getLsbD_eq
    intro i hi
    obtain rfl : i = 0 := by omega
    simp [unpackSign, packComponents, BitVec.getLsbD_append,
      BitVec.getElem_append]
  rw [hbits]
  cases sign <;> rfl

theorem unpack_packedInfinity :
    UnpackedFloat.unpack format (packedInfinity format sign) =
      .infinity sign := by
  simp [UnpackedFloat.unpack, packedInfinity]

theorem unpack_packComponents (hfinite : exponent ≠ -1#_)
    (hnonzero : exponent ≠ 0#_) :
    UnpackedFloat.unpack format (packComponents format sign exponent fraction) =
      .finite sign (1#1 ++ fraction).toNat (exponent.toNat -
        (format.exponentBias + format.mantissaBitsWithoutImplicit))
        (by simp) := by
  simp only [UnpackedFloat.unpack, unpackMantissa_packComponents,
    unpackExponent_packComponents, ofBitVec_unpackSign_packComponents]
  rw [if_neg hfinite, if_neg hnonzero]

end

/-- What 53 binary places and the greatest exponent can hold. -/
theorem scaled_lt_two_pow {m : Nat} {e : Int} (hm : m < 2 ^ 53)
    (he : e ≤ 971) : (m * 2 ^ e : ℝ) < 2 ^ 1024 := by
  have hm' : (m : ℝ) < 2 ^ 53 := by exact_mod_cast hm
  have hpow : (2 : ℝ) ^ e ≤ 2 ^ (971 : Int) :=
    zpow_le_zpow_right₀ one_le_two he
  calc (m * 2 ^ e : ℝ) < 2 ^ 53 * 2 ^ e :=
        mul_lt_mul_of_pos_right hm' (by positivity)
    _ ≤ 2 ^ 53 * 2 ^ (971 : Int) :=
      mul_le_mul_of_nonneg_left hpow (by positivity)
    _ = 2 ^ 1024 := by rw [zpow_ofNat, ← pow_add]

namespace Normal

variable {amount : ℝ} {mantissa : Nat} {exponent : Int}

theorem pack_eq (hnormal : Normal amount mantissa exponent) (sign : Sign)
    (hpositive : 0 < mantissa) :
    UnpackedFloat.pack .binary64 (.finite sign mantissa exponent hpositive) =
      if 972 ≤ exponent then packedInfinity .binary64 sign
      else packComponents .binary64 sign
        (BitVec.ofNat 11 (exponent + 1075).toNat)
        (BitVec.ofNat 52 mantissa) := by
  have hlog : mantissa.log2 = 52 :=
    (Nat.log2_eq_iff hpositive.ne').mpr ⟨hnormal.low, hnormal.high⟩
  have hbias : exponent + Format.binary64.exponentBias +
      Format.binary64.mantissaBitsWithoutImplicit = exponent + 1075 := by
    rw [Int.add_assoc]
    rfl
  have hlarge : 2 ^ Format.binary64.exponentBits ≤
      (exponent + 1075).toNat + 1 ↔ 972 ≤ exponent := by
    show 2 ^ 11 ≤ _ ↔ _
    omega
  simp only [UnpackedFloat.pack, hbias, hlog, hlarge]
  rfl

/-- A number of 53 binary places is packed without loss, unless its exponent is
too large. -/
theorem unpack_pack (hnormal : Normal amount mantissa exponent) (sign : Sign)
    (hpositive : 0 < mantissa) :
    (Float.Model.pack (.finite sign mantissa exponent hpositive)).unpack =
      if 972 ≤ exponent then .infinity sign
      else .finite sign mantissa exponent hpositive := by
  obtain ⟨hlow, hhigh, hleast, -⟩ := id hnormal
  show UnpackedFloat.unpack .binary64
    (UnpackedFloat.pack .binary64
      (.finite sign mantissa exponent hpositive)) = _
  rw [hnormal.pack_eq sign hpositive]
  split
  · exact unpack_packedInfinity sign
  next hfits =>
  have hexponent : (BitVec.ofNat 11 (exponent + 1075).toNat).toNat =
      (exponent + 1075).toNat := by
    rw [BitVec.toNat_ofNat, Nat.mod_eq_of_lt (by omega)]
  have hfinite : BitVec.ofNat 11 (exponent + 1075).toNat ≠ -1#11 := by
    intro hsame
    have hgreatest : (-1#11 : BitVec 11).toNat = 2047 := rfl
    rw [hsame] at hexponent
    omega
  have hnonzero : BitVec.ofNat 11 (exponent + 1075).toNat ≠ 0#11 := by
    intro hsame
    have hnone : (0#11 : BitVec 11).toNat = 0 := rfl
    rw [hsame] at hexponent
    omega
  have hmantissa : (1#1 ++ BitVec.ofNat 52 mantissa).toNat = mantissa := by
    rw [BitVec.toNat_append, ← Nat.shiftLeft_add_eq_or_of_lt (BitVec.isLt _),
      BitVec.toNat_ofNat, BitVec.toNat_ofNat, Nat.shiftLeft_eq]
    omega
  have hbias : (Format.binary64.exponentBias : Int) +
      (Format.binary64.mantissaBitsWithoutImplicit : Nat) = 1075 := rfl
  rw [unpack_packComponents sign _ hfinite hnonzero]
  simp only [hexponent, hbias, hmantissa]
  congr 1
  omega

/-- An exponent is too large for the amounts from two to the 1024 on. -/
theorem le_exponent_iff (hnormal : Normal amount mantissa exponent) :
    972 ≤ exponent ↔ 2 ^ 1024 ≤ amount := by
  obtain ⟨hlow, hhigh, -, rfl⟩ := hnormal
  constructor
  · intro hexponent
    have hlow' : (2 : ℝ) ^ 52 ≤ mantissa := by exact_mod_cast hlow
    have hpow : (2 : ℝ) ^ (972 : Int) ≤ 2 ^ exponent :=
      zpow_le_zpow_right₀ one_le_two hexponent
    calc (2 : ℝ) ^ 1024 = (2 : ℝ) ^ 52 * (2 : ℝ) ^ (972 : Int) := by
          rw [zpow_ofNat, ← pow_add]
      _ ≤ (mantissa * 2 ^ exponent : ℝ) :=
        mul_le_mul hlow' hpow (by positivity) (by positivity)
  · intro hamount
    by_contra hexponent
    exact absurd hamount (scaled_lt_two_pow hhigh (by omega)).not_ge

end Normal

/-! ## Whole numbers -/

section

variable {n : Nat}

theorem log2_mul_two_pow (hn : 0 < n) (k : Nat) :
    (n * 2 ^ k).log2 = n.log2 + k := by
  have hne : n * 2 ^ k ≠ 0 := Nat.mul_ne_zero hn.ne' (Nat.two_pow_pos k).ne'
  obtain ⟨hlow, hhigh⟩ := (Nat.log2_eq_iff hn.ne').mp rfl
  rw [Nat.log2_eq_iff hne, Nat.pow_add, Nat.add_right_comm, Nat.pow_add]
  exact ⟨Nat.mul_le_mul_right _ hlow,
    Nat.mul_lt_mul_of_pos_right hhigh (Nat.two_pow_pos k)⟩

theorem mul_finite {format : Format} {sign other : Sign} {m k : Nat} {d e : Int}
    {hm : 0 < m} {hk : 0 < k} :
    UnpackedFloat.mul format (.finite sign m d hm) (.finite other k e hk) =
      roundWithAccuracy format (sign * other) (m * k) (d + e) .exact := rfl

/-- A small number is taken as it is. -/
theorem ofNat_eq (hn : 0 < n) (hlt : n < 2 ^ 53) :
    UnpackedFloat.ofNat .binary64 n = roundWithAccuracy .binary64 .positive
      (n * 2 ^ (52 - n.log2)) (n.log2 - 52) .exact := by
  have hpositive : Ord.compare (n : Int) 0 = .gt := by
    rw [Int.compare_eq_gt]
    omega
  have hlog : n.log2 < 53 := (Nat.log2_lt hn.ne').mpr hlt
  have htarget : Format.binary64.targetExponent
      (totalExponent (n : Int).toNat 0) = n.log2 - 52 := by
    rw [Format.targetExponent, totalExponent, Int.toNat_natCast]
    show max ((n.log2 : Int) + 1 + 0 - 53) (-1074) = _
    omega
  have hshift : (0 - ((n.log2 : Int) - 52)).toNat = 52 - n.log2 := by omega
  rw [UnpackedFloat.ofNat, UnpackedFloat.ofInt,
    UnpackedFloat.normalize, hpositive]
  simp only
  rw [UnpackedFloat.round, decreaseExponent, htarget, Int.toNat_natCast, hshift,
    Nat.shiftLeft_eq]
  simp only
  congr 1
  omega

/-- A large number is rounded once. -/
theorem ofScientific_eq (hn : 0 < n) :
    UnpackedFloat.ofScientific .binary64 n 0 =
      roundWithAccuracy .binary64 .positive (n * 2 ^ 53) (-53) .exact := by
  have hbits : Format.binary64.mantissaBits = 53 := rfl
  have hone : 10 ^ (0 : Int).toNat = 1 := rfl
  have hlarge : ¬(0 : Int) < -(2 ^ Format.binary64.exponentBits + n.log2) := by
    show ¬(0 : Int) < -(2 ^ 11 + n.log2)
    omega
  rw [UnpackedFloat.ofScientific, dif_neg hn.ne', if_neg (by decide),
    if_neg hlarge, if_pos (by decide), mul_finite, hbits, Nat.shiftLeft_eq,
    hone, Nat.mul_one, Int.add_zero]
  rfl

theorem unpack_one : (Float.Model.ofBits 0x3FF0000000000000).unpack =
    .finite .positive (2 ^ 52) (-52) (by decide) := rfl

theorem exists_ofNat (hn : 0 < n) (hlt : n < 2 ^ 53) :
    ∃ m e, ∃ hpositive : 0 < m, UnpackedFloat.ofNat .binary64 n =
      .finite .positive m e hpositive ∧ Normal n m e := by
  have hlog : n.log2 < 53 := (Nat.log2_lt hn.ne').mpr hlt
  obtain ⟨m, e, hpositive, hround, hnormal⟩ :=
    @exists_roundWithAccuracy (n * 2 ^ (52 - n.log2)) 0 (n.log2 - 52) .positive
      (by rw [log2_mul_two_pow hn]; omega) (by omega)
  have hamount : (roundedQuotient (n * 2 ^ (52 - n.log2)) (2 ^ 0) *
      2 ^ ((n.log2 - 52 : Int) + (0 : Nat)) : ℝ) = n := by
    have hexponent : (n.log2 - 52 : Int) + (0 : Nat) =
        -((52 - n.log2 : Nat) : Int) := by omega
    have hrounded := roundedQuotient_mul (n * 2 ^ (52 - n.log2)) Nat.one_pos
    rw [Nat.mul_one] at hrounded
    rw [Nat.pow_zero, hrounded, hexponent, zpow_neg, zpow_natCast, Nat.cast_mul,
      Nat.cast_pow, Nat.cast_ofNat]
    field_simp
  rw [hamount] at hnormal
  exact ⟨m, e, hpositive, (ofNat_eq hn hlt).trans hround, hnormal⟩

theorem exists_mul_one {amount : ℝ} {m : Nat} {e : Int}
    (hnormal : Normal amount m e) (hpositive : 0 < m) :
    ∃ m' e', ∃ hpositive' : 0 < m',
      UnpackedFloat.mul .binary64 (.finite .positive m e hpositive)
          (Float.Model.ofBits 0x3FF0000000000000).unpack =
        .finite .positive m' e' hpositive' ∧ Normal amount m' e' := by
  have hlog : m.log2 = 52 :=
    (Nat.log2_eq_iff hpositive.ne').mpr ⟨hnormal.low, hnormal.high⟩
  obtain ⟨m', e', hpositive', hround, hnormal'⟩ :=
    @exists_roundWithAccuracy (m * 2 ^ 52) 52 (e + -52) .positive
      (by rw [log2_mul_two_pow hpositive, hlog])
      (by have := hnormal.least; omega)
  have hamount : (roundedQuotient (m * 2 ^ 52) (2 ^ 52) *
      2 ^ (e + -52 + (52 : Nat)) : ℝ) = amount := by
    have hexponent : e + -52 + (52 : Nat) = e := by omega
    rw [roundedQuotient_mul m (by decide), hexponent, hnormal.eq_amount]
  rw [hamount] at hnormal'
  refine ⟨m', e', hpositive', ?_, hnormal'⟩
  rw [unpack_one, mul_finite]
  exact hround

/-- A small number is taken for a whole one and multiplied by one. -/
theorem exists_toModel_ofNat_of_lt (hn : 0 < n) (hlt : n < 2 ^ 53) :
    ∃ m e, ∃ hpositive : 0 < m, (Float.ofNat n).toModel =
      Float.Model.pack (.finite .positive m e hpositive) ∧ Normal n m e := by
  obtain ⟨m, e, hpositive, hwhole, hnormal⟩ := exists_ofNat hn hlt
  obtain ⟨m', e', hpositive', hproduct, hnormal'⟩ :=
    exists_mul_one hnormal hpositive
  have hfits : ¬972 ≤ e := by
    rw [hnormal.le_exponent_iff, not_le]
    exact_mod_cast hlt.trans (Nat.pow_lt_pow_right (by decide) (by decide))
  have hword : n.toUInt64.toNat = n := by
    rw [Nat.toUInt64, UInt64.toNat_ofNat']
    omega
  have hunpack : (Float.Model.ofUInt64 n.toUInt64).unpack =
      .finite .positive m e hpositive := by
    show (Float.Model.pack
      (UnpackedFloat.ofNat .binary64 n.toUInt64.toNat)).unpack = _
    rw [hword, hwhole, hnormal.unpack_pack, if_neg hfits]
  have hsmall : n < 2 ^ 53 ∧ 0 ≤ 22 := ⟨hlt, by decide⟩
  have hmodel : (Float.ofNat n).toModel =
      Float.Model.pack (UnpackedFloat.mul .binary64
        (Float.Model.ofUInt64 n.toUInt64).unpack
        (Float.Model.ofBits 0x3FF0000000000000).unpack) := by
    show (Float.ofScientific n false 0).toModel = _
    rw [Float.ofScientific, dif_pos hsmall]
    rfl
  refine ⟨m', e', hpositive', ?_, hnormal'⟩
  rw [hmodel, hunpack, hproduct]

theorem exists_toModel_ofNat_of_le (hn : 2 ^ 53 ≤ n) :
    ∃ m e, ∃ hpositive : 0 < m, (Float.ofNat n).toModel =
      Float.Model.pack (.finite .positive m e hpositive) ∧
      Normal (nearest n) m e := by
  have hpos : 0 < n := Nat.lt_of_lt_of_le (by decide) hn
  have hlog : 53 ≤ n.log2 := (Nat.le_log2 hpos.ne').mpr hn
  obtain ⟨m, e, hpositive, hround, hnormal⟩ :=
    @exists_roundWithAccuracy (n * 2 ^ 53) (n.log2 + 1) (-53) .positive
      (by rw [log2_mul_two_pow hpos]; omega) (by omega)
  have hamount : (roundedQuotient (n * 2 ^ 53) (2 ^ (n.log2 + 1)) *
      2 ^ (-53 + ((n.log2 + 1 : Nat) : Int)) : ℝ) = nearest n := by
    have hbits : n.log2 + 1 = n.log2 - 52 + 53 := by omega
    have hexponent : -53 + ((n.log2 + 1 : Nat) : Int) =
        ((n.log2 - 52 : Nat) : Int) := by omega
    rw [hexponent, hbits, Nat.pow_add,
      roundedQuotient_mul_mul_right n _ (by decide), nearest, zpow_natCast,
      Nat.cast_mul, Nat.cast_pow, Nat.cast_ofNat]
  rw [hamount] at hnormal
  refine ⟨m, e, hpositive, ?_, hnormal⟩
  have hlarge : ¬(n < 2 ^ 53 ∧ 0 ≤ 22) := by omega
  have hscientific : (Float.ofNat n).toModel =
      Float.Model.pack (UnpackedFloat.ofScientific .binary64 n 0) := by
    show (Float.ofScientific n false 0).toModel = _
    rw [Float.ofScientific, dif_neg hlarge]
    rfl
  rw [hscientific, ofScientific_eq hpos, hround]

theorem exists_toModel_ofNat (hn : 0 < n) :
    ∃ m e, ∃ hpositive : 0 < m, (Float.ofNat n).toModel =
      Float.Model.pack (.finite .positive m e hpositive) ∧
      Normal (nearest n) m e := by
  rcases Nat.lt_or_ge n (2 ^ 53) with hlt | hge
  · rw [nearest_of_le hlt.le]
    exact exists_toModel_ofNat_of_lt hn hlt
  · exact exists_toModel_ofNat_of_le hge

end

/-! ## Integers -/

/-- The sign of an integer. -/
def signOf (n : Int) : Sign :=
  if n < 0 then .negative else .positive

theorem exists_unpack_ofInteger {n : Int} (hn : n ≠ 0) :
    ∃ m e, ∃ hpositive : 0 < m, (ofInteger n).toModel.unpack =
      (if 972 ≤ e then .infinity (signOf n)
        else .finite (signOf n) m e hpositive) ∧
      Normal (nearest n.natAbs) m e := by
  obtain ⟨m, e, hpositive, hmodel, hnormal⟩ :=
    exists_toModel_ofNat (Int.natAbs_pos.mpr hn)
  refine ⟨m, e, hpositive, ?_, hnormal⟩
  have hunpack := hnormal.unpack_pack .positive hpositive
  rw [← hmodel] at hunpack
  cases n with
  | ofNat n => exact hunpack
  | negSucc n =>
    have hsign : signOf (Int.negSucc n) = .negative :=
      if_pos (Int.negSucc_lt_zero n)
    show (Float.Model.pack (Float.ofNat (n + 1)).toModel.unpack.neg).unpack = _
    rw [Int.natAbs_negSucc] at hunpack
    rw [hunpack, hsign]
    split
    · exact unpack_packedInfinity .negative
    · next hfits =>
      have hnegative := hnormal.unpack_pack .negative hpositive
      rw [if_neg hfits] at hnegative
      exact hnegative

theorem isNaN_ofInteger (n : Int) : (ofInteger n).isNaN = false := by
  by_cases hn : n = 0
  · subst hn
    rfl
  obtain ⟨m, e, hpositive, hunpack, -⟩ := exists_unpack_ofInteger hn
  show (ofInteger n).toModel.unpack.isNaN = false
  rw [hunpack]
  split <;> rfl

theorem amount_ofInteger (n : Int) :
    amount (ofInteger n) =
      if n < 0 then -capped (nearest n.natAbs)
      else capped (nearest n.natAbs) := by
  by_cases hn : n = 0
  · subst hn
    have hzero : nearest (0 : Int).natAbs = 0 := rfl
    have hsmall : ¬(2 : ℝ) ^ 1024 ≤ (0 : Nat) := by norm_num
    rw [if_neg (by decide), hzero, capped, if_neg hsmall, Nat.cast_zero]
    rfl
  obtain ⟨m, e, hpositive, hunpack, hnormal⟩ := exists_unpack_ofInteger hn
  rw [amount, hunpack, capped, signOf]
  by_cases hlarge : 972 ≤ e
  · rw [if_pos hlarge, if_pos (hnormal.le_exponent_iff.mp hlarge)]
    split <;> rfl
  · have hsmall : ¬2 ^ 1024 ≤ (nearest n.natAbs : ℝ) := by
      rwa [← hnormal.le_exponent_iff]
    rw [if_neg hlarge, if_neg hsmall, ← hnormal.eq_amount, ← EReal.coe_neg]
    split <;> rfl

/-! ## How far an integer moves -/

section

variable {k m : Nat} {e : Int} {n : Int} {value : EReal}

theorem scaled_le_of_neg (he : e < 0) : (m * 2 ^ e : ℝ) ≤ m := by
  have hpow : (2 : ℝ) ^ e ≤ 1 := zpow_le_one_of_nonpos₀ one_le_two he.le
  exact mul_le_of_le_one_right (Nat.cast_nonneg m) hpow

theorem nearest_le_scaled (hm : m < 2 ^ 53) (hle : (k : ℝ) ≤ m * 2 ^ e) :
    (nearest k : ℝ) ≤ m * 2 ^ e := by
  rcases lt_or_ge e 0 with he | he
  · have hk : k ≤ m := by exact_mod_cast hle.trans (scaled_le_of_neg he)
    rwa [nearest_of_le (hk.trans hm.le)]
  · obtain ⟨d, rfl⟩ := Int.eq_ofNat_of_zero_le he
    rw [zpow_natCast] at hle ⊢
    exact_mod_cast nearest_le hm.le (by exact_mod_cast hle)

theorem scaled_le_nearest (hm : m < 2 ^ 53) (hle : (m * 2 ^ e : ℝ) ≤ k) :
    (m * 2 ^ e : ℝ) ≤ nearest k := by
  rcases lt_or_ge e 0 with he | he
  · rcases le_total k (2 ^ 53) with hk | hk
    · rwa [nearest_of_le hk]
    · have hlarge : 1 * 2 ^ 53 ≤ nearest k :=
        le_nearest (by decide) (by rwa [Nat.one_mul])
      have hmk : m ≤ nearest k := by omega
      exact (scaled_le_of_neg he).trans (by exact_mod_cast hmk)
  · obtain ⟨d, rfl⟩ := Int.eq_ofNat_of_zero_le he
    rw [zpow_natCast] at hle ⊢
    exact_mod_cast le_nearest hm.le (by exact_mod_cast hle)

theorem capped_mono {x y : ℝ} (hle : x ≤ y) : capped x ≤ capped y := by
  rw [capped, capped]
  split
  · next hlarge => rw [if_pos (hlarge.trans hle)]
  · split
    · exact le_top
    · exact EReal.coe_le_coe hle

theorem le_capped (x : ℝ) : (x : EReal) ≤ capped x := by
  rw [capped]
  split
  · exact le_top
  · exact le_rfl

theorem capped_nonneg (k : Nat) : 0 ≤ capped k :=
  (EReal.coe_nonneg.mpr (Nat.cast_nonneg k)).trans (le_capped k)

theorem capped_of_le {x : ℝ} (hx : x ≤ 2 ^ 53) : capped x = x := by
  have hsmall : ¬2 ^ 1024 ≤ x := by
    intro hlarge
    have hlt : (2 : ℝ) ^ 53 < 2 ^ 1024 :=
      pow_lt_pow_right₀ one_lt_two (by decide)
    exact absurd (hlarge.trans hx) hlt.not_ge
  rw [capped, if_neg hsmall]

/-- No amount comes between a whole number and what it is rounded to. -/
theorem capped_nearest_le (hvalue : IsAmount value)
    (hle : ((k : ℝ) : EReal) ≤ value) : capped (nearest k) ≤ value := by
  cases hvalue with
  | top => exact le_top
  | bottom => exact absurd hle (EReal.bot_lt_coe _).not_ge
  | positive hm hleast hgreatest =>
    have hnearest := nearest_le_scaled hm (EReal.coe_le_coe_iff.mp hle)
    have hsmall := hnearest.trans_lt (scaled_lt_two_pow hm hgreatest)
    rw [capped, if_neg hsmall.not_ge]
    exact EReal.coe_le_coe hnearest
  | @negative m e =>
    have hk : k = 0 := by
      have hnonpos : (-(m * 2 ^ e) : ℝ) ≤ 0 := neg_nonpos.mpr (by positivity)
      have hk := (EReal.coe_le_coe_iff.mp hle).trans hnonpos
      exact Nat.le_zero.mp (by exact_mod_cast hk)
    subst hk
    have hzero : nearest 0 = 0 := rfl
    have hsmall : ((0 : Nat) : ℝ) ≤ 2 ^ 53 := by
      rw [Nat.cast_zero]
      positivity
    rwa [hzero, capped_of_le hsmall]

theorem le_capped_nearest (hvalue : IsAmount value)
    (hle : value ≤ ((k : ℝ) : EReal)) : value ≤ capped (nearest k) := by
  cases hvalue with
  | top => exact absurd hle (EReal.coe_lt_top _).not_ge
  | bottom => exact bot_le
  | positive hm =>
    have hnearest := scaled_le_nearest hm (EReal.coe_le_coe_iff.mp hle)
    exact (EReal.coe_le_coe hnearest).trans (le_capped _)
  | @negative m e =>
    have hnonpos : (-(m * 2 ^ e) : ℝ) ≤ 0 := neg_nonpos.mpr (by positivity)
    exact (EReal.coe_nonpos.mpr hnonpos).trans (capped_nonneg _)

/-- The absolute value of an integer with its sign. -/
theorem coe_eq_natAbs (n : Int) :
    ((n : ℝ) : EReal) = if n < 0 then -((n.natAbs : ℝ) : EReal)
      else ((n.natAbs : ℝ) : EReal) := by
  split
  · next hn =>
    have habs : (n.natAbs : Int) = -n := by omega
    rw [← Int.cast_natCast n.natAbs, habs, ← EReal.coe_neg, Int.cast_neg,
      neg_neg]
  · next hn =>
    have habs : (n.natAbs : Int) = n := by omega
    rw [← Int.cast_natCast n.natAbs, habs]

theorem amount_ofInteger_le (hvalue : IsAmount value)
    (hle : ((n : ℝ) : EReal) ≤ value) : amount (ofInteger n) ≤ value := by
  rw [coe_eq_natAbs] at hle
  rw [amount_ofInteger]
  by_cases hn : n < 0
  · rw [if_pos hn, EReal.neg_le] at hle ⊢
    exact le_capped_nearest hvalue.neg hle
  · rw [if_neg hn] at hle ⊢
    exact capped_nearest_le hvalue hle

theorem le_amount_ofInteger (hvalue : IsAmount value)
    (hle : value ≤ ((n : ℝ) : EReal)) : value ≤ amount (ofInteger n) := by
  rw [coe_eq_natAbs] at hle
  rw [amount_ofInteger]
  by_cases hn : n < 0
  · rw [if_pos hn, EReal.le_neg] at hle ⊢
    exact capped_nearest_le hvalue.neg hle
  · rw [if_neg hn] at hle ⊢
    exact le_capped_nearest hvalue hle

/-- Rounding integers keeps their order. -/
theorem amount_ofInteger_mono {n' : Int} (hle : n ≤ n') :
    amount (ofInteger n) ≤ amount (ofInteger n') := by
  rw [amount_ofInteger, amount_ofInteger]
  split
  · split
    · rw [EReal.neg_le_neg_iff]
      exact capped_mono (by exact_mod_cast nearest_mono (by omega))
    · exact (EReal.neg_le_zero.mpr (capped_nonneg _)).trans (capped_nonneg _)
  · rw [if_neg (by omega)]
    exact capped_mono (by exact_mod_cast nearest_mono (by omega))

theorem amount_ofInteger_of_le (hn : n.natAbs ≤ 2 ^ 53) :
    amount (ofInteger n) = (n : ℝ) := by
  have hsmall : (n.natAbs : ℝ) ≤ 2 ^ 53 := by exact_mod_cast hn
  rw [amount_ofInteger, coe_eq_natAbs, nearest_of_le hn, capped_of_le hsmall]

theorem eq_of_capped_eq {x y : ℝ} (hcapped : capped x = y) : x = y := by
  rw [capped] at hcapped
  split at hcapped
  · exact absurd hcapped.symm (EReal.coe_ne_top y)
  · exact EReal.coe_eq_coe_iff.mp hcapped

/-- A finite amount is within one in two to the 53 of the integer. -/
theorem amount_ofInteger_near {x : ℝ} (hx : amount (ofInteger n) = x) :
    |x - n| * 2 ^ 53 ≤ |(n : ℝ)| := by
  obtain ⟨hup, hdown⟩ := nearest_near n.natAbs
  have hup' : (nearest n.natAbs * 2 ^ 53 : ℝ) ≤
      n.natAbs * 2 ^ 53 + n.natAbs := by exact_mod_cast hup
  have hdown' : (n.natAbs * 2 ^ 53 : ℝ) ≤
      nearest n.natAbs * 2 ^ 53 + n.natAbs := by exact_mod_cast hdown
  have hnear : |(nearest n.natAbs : ℝ) - n.natAbs| * 2 ^ 53 ≤ n.natAbs := by
    rw [← abs_of_pos (by positivity : (0 : ℝ) < 2 ^ 53), ← abs_mul, abs_le]
    constructor <;> linarith
  have habs : |(n : ℝ)| = n.natAbs := by rw [Nat.cast_natAbs, Int.cast_abs]
  rw [amount_ofInteger] at hx
  rw [habs]
  split at hx
  · next hn =>
    have hinteger : (n : ℝ) = -n.natAbs := by
      rw [← habs, abs_of_neg (by exact_mod_cast hn), neg_neg]
    have hnearest : (nearest n.natAbs : ℝ) = -x :=
      eq_of_capped_eq (by rw [EReal.coe_neg, ← hx, neg_neg])
    rw [hnearest] at hnear
    rwa [hinteger, sub_neg_eq_add, ← abs_neg, neg_add']
  · next hn =>
    have hinteger : (n : ℝ) = n.natAbs := by
      rw [← habs, abs_of_nonneg (by exact_mod_cast not_lt.mp hn)]
    rwa [hinteger, ← eq_of_capped_eq hx]

end

end CivicRegistry.Binary64
