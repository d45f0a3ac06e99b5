import CivicRegistry.Proofs.Value.Order
import Mathlib

/-!
# What binary64 numbers amount to

A finite number is a mantissa below two to the 53 times a power of two, with a
sign.  Its mantissa is at least two to the 52 unless the exponent is the least,
so of two numbers the one with the larger exponent is farther from zero.  This
is why comparing exponents before mantissas compares the amounts.
-/

namespace CivicRegistry.Binary64

open Float.Model

/-- What a number amounts to; nothing is said of what is not a number. -/
noncomputable def unpackedAmount : UnpackedFloat → EReal
  | .notANumber => 0
  | .infinity .positive => ⊤
  | .infinity .negative => ⊥
  | .zero _ => 0
  | .finite .positive mantissa exponent _ =>
    ((mantissa * 2 ^ exponent : ℝ) : EReal)
  | .finite .negative mantissa exponent _ =>
    ((-(mantissa * 2 ^ exponent) : ℝ) : EReal)

noncomputable def amount (x : Float) : EReal :=
  unpackedAmount x.toModel.unpack

/-- Amounts from two to the 1024 on are infinite. -/
noncomputable def capped (value : ℝ) : EReal :=
  if 2 ^ 1024 ≤ value then ⊤ else value

/-! ## Canonical numbers -/

/-- The mantissa and the exponent of a finite number. -/
structure Canonical (mantissa : Nat) (exponent : Int) : Prop where
  lt : mantissa < 2 ^ 53
  least : -1074 ≤ exponent
  greatest : exponent ≤ 971
  normal : 2 ^ 52 ≤ mantissa ∨ exponent = -1074

theorem canonical_of_unpack {bits : BitVec Format.binary64.numBits}
    {sign : UnpackedFloat.Sign} {mantissa : Nat} {exponent : Int}
    {hpositive : 0 < mantissa}
    (hunpack : UnpackedFloat.unpack .binary64 bits =
      .finite sign mantissa exponent hpositive) :
    Canonical mantissa exponent := by
  have hexponent : (UnpackedFloat.unpackExponent bits).toNat < 2 ^ 11 :=
    (UnpackedFloat.unpackExponent bits).isLt
  have hfraction : (UnpackedFloat.unpackMantissa bits).toNat < 2 ^ 52 :=
    (UnpackedFloat.unpackMantissa bits).isLt
  rw [UnpackedFloat.unpack] at hunpack
  simp only at hunpack
  split at hunpack
  · split at hunpack <;> cases hunpack
  next hfinite =>
  have hbelow : (UnpackedFloat.unpackExponent bits).toNat ≠ 2 ^ 11 - 1 :=
    fun hsame => hfinite (BitVec.eq_of_toNat_eq hsame)
  split at hunpack
  · next hzero =>
    split at hunpack
    · cases hunpack
    · cases hunpack
      have hleast : (UnpackedFloat.unpackExponent bits).toNat = 0 := by
        rw [hzero]
        rfl
      rw [hleast]
      exact ⟨by omega, by decide, by decide, .inr (by decide)⟩
  · next hnonzero =>
    have habove : (UnpackedFloat.unpackExponent bits).toNat ≠ 0 :=
      fun hsame => hnonzero (BitVec.eq_of_toNat_eq hsame)
    cases hunpack
    have hmantissa : (1#1 ++ UnpackedFloat.unpackMantissa bits).toNat =
        2 ^ 52 + (UnpackedFloat.unpackMantissa bits).toNat := by
      rw [BitVec.toNat_append, ← Nat.shiftLeft_add_eq_or_of_lt hfraction]
      rfl
    have hbias : (Format.binary64.exponentBias : Int) +
        (Format.binary64.mantissaBitsWithoutImplicit : Nat) = 1075 := by decide
    rw [hmantissa, hbias]
    exact ⟨by omega, by omega, by omega, .inl (by omega)⟩

/-- A finite number has a canonical mantissa and exponent. -/
def AreCanonical : UnpackedFloat → Prop
  | .finite _ mantissa exponent _ => Canonical mantissa exponent
  | _ => True

theorem areCanonical (x : Float) : AreCanonical x.toModel.unpack := by
  cases hunpack : x.toModel.unpack with
  | finite => exact canonical_of_unpack hunpack
  | notANumber | infinity | zero => trivial

/-! ## Comparing -/

theorem scaled_lt {m n : Nat} {d e : Int} (hm : m < 2 ^ 53) (hn : 2 ^ 52 ≤ n)
    (hexponent : d < e) : (m * 2 ^ d : ℝ) < n * 2 ^ e := by
  have hm' : (m : ℝ) < 2 ^ 53 := by exact_mod_cast hm
  have hn' : (2 : ℝ) ^ 52 ≤ n := by exact_mod_cast hn
  calc (m * 2 ^ d : ℝ) < 2 ^ 53 * 2 ^ d :=
        mul_lt_mul_of_pos_right hm' (by positivity)
    _ = 2 ^ 52 * 2 ^ (d + 1) := by rw [zpow_add_one₀ two_ne_zero]; ring
    _ ≤ n * 2 ^ e := by
      have hpow : (2 : ℝ) ^ (d + 1) ≤ 2 ^ e :=
        zpow_le_zpow_right₀ one_le_two hexponent
      exact mul_le_mul hn' hpow (by positivity) (by positivity)

theorem compares_scaled {m n : Nat} {d e : Int} (hm : Canonical m d)
    (hn : Canonical n e) :
    ((Ord.compare d e).then (Ord.compare m n)).Compares
      (m * 2 ^ d : ℝ) (n * 2 ^ e) := by
  rcases lt_trichotomy d e with hlt | rfl | hgt
  · have hnormal := hn.normal.resolve_right
      fun hleast => absurd hm.least (by omega)
    rw [Int.compare_eq_lt.mpr hlt]
    exact scaled_lt hm.lt hnormal hlt
  · have hscale : (0 : ℝ) < 2 ^ d := by positivity
    rw [Int.compare_eq_eq.mpr rfl]
    rcases lt_trichotomy m n with hlt | rfl | hgt
    · rw [Nat.compare_eq_lt.mpr hlt]
      exact mul_lt_mul_of_pos_right (by exact_mod_cast hlt) hscale
    · rw [Nat.compare_eq_eq.mpr rfl]
      rfl
    · rw [Nat.compare_eq_gt.mpr hgt]
      exact mul_lt_mul_of_pos_right (by exact_mod_cast hgt) hscale
  · have hnormal := hm.normal.resolve_right
      fun hleast => absurd hn.least (by omega)
    rw [Int.compare_eq_gt.mpr hgt]
    exact scaled_lt hn.lt hnormal hgt

theorem compares_coe {order : Ordering} {x y : ℝ} :
    order.Compares (x : EReal) (y : EReal) ↔ order.Compares x y := by
  cases order <;> simp [Ordering.Compares]

theorem compares_neg {order : Ordering} {x y : ℝ} :
    order.swap.Compares (-x) (-y) ↔ order.Compares x y := by
  cases order <;> simp [Ordering.Compares]

/-- Numbers that have an order are ordered as their amounts are. -/
theorem compares_unpackedAmount {left right : UnpackedFloat}
    (hleft : AreCanonical left) (hright : AreCanonical right)
    {order : Ordering} (horder : left.compare right = some order) :
    order.Compares (unpackedAmount left) (unpackedAmount right) := by
  have hpositive {m : Nat} {e : Int} (hm : 0 < m) : (0 : ℝ) < m * 2 ^ e := by
    positivity
  cases left with
  | notANumber => cases horder
  | infinity sign =>
    cases right with
    | notANumber => cases horder
    | infinity other =>
      cases sign <;> cases other <;> cases horder <;>
        first
          | rfl
          | exact bot_lt_top
    | zero | finite other =>
      cases sign <;> (try cases other) <;> cases horder <;>
        first
          | exact EReal.bot_lt_coe _
          | exact EReal.coe_lt_top _
  | zero =>
    cases right with
    | notANumber => cases horder
    | infinity other =>
      cases other <;> cases horder
      · exact EReal.bot_lt_coe 0
      · exact EReal.coe_lt_top 0
    | zero =>
      cases horder
      rfl
    | finite other mantissa exponent hmantissa =>
      cases other <;> cases horder
      · exact EReal.coe_lt_coe (neg_lt_zero.mpr (hpositive hmantissa))
      · exact EReal.coe_lt_coe (hpositive hmantissa)
  | finite sign mantissa exponent hmantissa =>
    cases right with
    | notANumber => cases horder
    | infinity other =>
      cases sign <;> cases other <;> cases horder <;>
        first
          | exact EReal.bot_lt_coe _
          | exact EReal.coe_lt_top _
    | zero =>
      cases sign <;> cases horder
      · exact EReal.coe_lt_coe (neg_lt_zero.mpr (hpositive hmantissa))
      · exact EReal.coe_lt_coe (hpositive hmantissa)
    | finite other mantissa' exponent' hmantissa' =>
      have hlt := (neg_lt_zero.mpr (hpositive (e := exponent) hmantissa)).trans
        (hpositive (e := exponent') hmantissa')
      have hgt :=
        (neg_lt_zero.mpr (hpositive (e := exponent') hmantissa')).trans
          (hpositive (e := exponent) hmantissa)
      cases sign <;> cases other
      case negative.negative =>
        cases horder
        exact compares_coe.mpr
          (compares_neg.mpr (compares_scaled hleft hright))
      case negative.positive =>
        cases horder
        exact EReal.coe_lt_coe hlt
      case positive.negative =>
        cases horder
        exact EReal.coe_lt_coe hgt
      case positive.positive =>
        cases horder
        exact compares_coe.mpr (compares_scaled hleft hright)

theorem compare_eq_cmp {left right : Float} (hleft : left.isNaN = false)
    (hright : right.isNaN = false) :
    compare left right = some (cmp (amount left) (amount right)) := by
  have hcompares := compares_unpackedAmount (areCanonical left)
    (areCanonical right) (compare_eq_order hleft hright)
  rw [compare_eq_order hleft hright, ← hcompares.cmp_eq]
  rfl

/-! ## Amounts -/

/-- An amount that a number can have. -/
inductive IsAmount : EReal → Prop where
  | top : IsAmount ⊤
  | bottom : IsAmount ⊥
  | positive {mantissa : Nat} {exponent : Int} (hmantissa : mantissa < 2 ^ 53)
    (hleast : -1074 ≤ exponent) (hgreatest : exponent ≤ 971) :
    IsAmount ((mantissa * 2 ^ exponent : ℝ) : EReal)
  | negative {mantissa : Nat} {exponent : Int} (hmantissa : mantissa < 2 ^ 53)
    (hleast : -1074 ≤ exponent) (hgreatest : exponent ≤ 971) :
    IsAmount ((-(mantissa * 2 ^ exponent) : ℝ) : EReal)

theorem isAmount_amount (x : Float) : IsAmount (amount x) := by
  have hzero : IsAmount 0 := by
    have hnothing := @IsAmount.positive 0 0 (by decide) (by decide)
      (by decide)
    simpa using hnothing
  have hcanonical := areCanonical x
  rw [amount]
  generalize x.toModel.unpack = unpacked at hcanonical
  cases unpacked with
  | notANumber | zero => exact hzero
  | infinity sign =>
    cases sign with
    | negative => exact .bottom
    | positive => exact .top
  | finite sign =>
    cases sign with
    | negative =>
      exact .negative hcanonical.lt hcanonical.least hcanonical.greatest
    | positive =>
      exact .positive hcanonical.lt hcanonical.least hcanonical.greatest

theorem IsAmount.neg {value : EReal} (hvalue : IsAmount value) :
    IsAmount (-value) := by
  cases hvalue with
  | top => exact .bottom
  | bottom => exact .top
  | positive hmantissa hleast hgreatest =>
    rw [← EReal.coe_neg]
    exact .negative hmantissa hleast hgreatest
  | negative hmantissa hleast hgreatest =>
    rw [← EReal.coe_neg, neg_neg]
    exact .positive hmantissa hleast hgreatest

end CivicRegistry.Binary64
