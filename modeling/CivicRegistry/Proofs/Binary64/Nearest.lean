import CivicRegistry.Binary64.Notation
import Mathlib.Tactic.Ring

/-!
# Whole numbers in 53 binary places

A quotient is rounded to a whole number, a half to the even neighbour.  Rounding
a whole number to 53 binary places is rounding its quotient by a power of two.
It moves no number across one that 53 places suffice for, and so keeps the order
of the numbers; up to two to the 53 it moves none, and beyond no farther than
one in two to the 53.
-/

namespace CivicRegistry.Binary64

section

variable {n m d low high : Nat}

/-! ## Rounded quotients -/

theorem roundedQuotient_cases (n d : Nat) :
    roundedQuotient n d = n / d ∧ 2 * (n % d) ≤ d ∨
      roundedQuotient n d = n / d + 1 ∧ d ≤ 2 * (n % d) := by
  rw [roundedQuotient]
  split
  · omega
  split <;> omega

theorem le_roundedQuotient (hlow : low * d ≤ n) (hd : 0 < d) :
    low ≤ roundedQuotient n d := by
  have hquotient : low ≤ n / d := (Nat.le_div_iff_mul_le hd).mpr hlow
  rcases roundedQuotient_cases n d with hcase | hcase <;> omega

theorem roundedQuotient_le (hhigh : n ≤ high * d) (hd : 0 < d) :
    roundedQuotient n d ≤ high := by
  have hquotient : n / d ≤ high :=
    Nat.div_le_of_le_mul (by rwa [Nat.mul_comm])
  rcases Nat.lt_or_eq_of_le hquotient with hlt | rfl
  · rcases roundedQuotient_cases n d with hcase | hcase <;> omega
  · -- nothing is left over
    have hdivision := Nat.div_add_mod' n d
    rcases roundedQuotient_cases n d with hcase | hcase <;> omega

theorem roundedQuotient_mul (n : Nat) (hd : 0 < d) :
    roundedQuotient (n * d) d = n :=
  Nat.le_antisymm (roundedQuotient_le (Nat.le_refl _) hd)
    (le_roundedQuotient (Nat.le_refl _) hd)

theorem roundedQuotient_mul_mul_right (n d : Nat) {factor : Nat}
    (hfactor : 0 < factor) :
    roundedQuotient (n * factor) (d * factor) = roundedQuotient n d := by
  have htwice : 2 * (n * factor % (d * factor)) = 2 * (n % d) * factor := by
    rw [Nat.mul_mod_mul_right, Nat.mul_assoc]
  simp only [roundedQuotient, Nat.mul_div_mul_right n d hfactor, htwice,
    Nat.mul_lt_mul_right hfactor]

theorem roundedQuotient_mono (hle : n ≤ m) (d : Nat) :
    roundedQuotient n d ≤ roundedQuotient m d := by
  have hquotient : n / d ≤ m / d := Nat.div_le_div_right hle
  rcases Nat.lt_or_eq_of_le hquotient with hlt | hsame
  · rcases roundedQuotient_cases n d with hn | hn <;>
      rcases roundedQuotient_cases m d with hm | hm <;> omega
  · have hleft : n % d ≤ m % d := by
      have hdivision := Nat.div_add_mod' n d
      have hdivision' := Nat.div_add_mod' m d
      rw [hsame] at hdivision
      omega
    rw [roundedQuotient, roundedQuotient, hsame]
    split <;> split <;> (try split) <;> (try split) <;> omega

/-- Rounding a quotient moves a number by at most half the divisor. -/
theorem roundedQuotient_near (n : Nat) (hd : 0 < d) :
    2 * (roundedQuotient n d * d) ≤ 2 * n + d ∧
      2 * n ≤ 2 * (roundedQuotient n d * d) + d := by
  have hdivision := Nat.div_add_mod' n d
  rcases roundedQuotient_cases n d with ⟨hrounded, hleft⟩ | ⟨hrounded, hleft⟩
  · rw [hrounded]
    omega
  · have hlt := Nat.mod_lt n hd
    rw [hrounded, Nat.add_mul]
    omega

/-! ## Whole numbers -/

/-- The whole number of 53 binary places that is nearest to another. -/
def nearest (n : Nat) : Nat :=
  roundedQuotient n (2 ^ (n.log2 - 52)) * 2 ^ (n.log2 - 52)

theorem nearest_of_log2_lt (hlog : n.log2 < 53) : nearest n = n := by
  have hshift : n.log2 - 52 = 0 := by omega
  have hone := roundedQuotient_mul n (d := 1) Nat.one_pos
  rw [Nat.mul_one] at hone
  rw [nearest, hshift, Nat.pow_zero, Nat.mul_one, hone]

theorem two_pow_le_of_log2 (hlog : 53 ≤ n.log2) :
    2 ^ 52 * 2 ^ (n.log2 - 52) ≤ n := by
  have hne : n ≠ 0 := by
    rintro rfl
    exact absurd hlog (by decide)
  rw [← Nat.pow_add, Nat.add_sub_cancel' (by omega)]
  exact Nat.log2_self_le hne

theorem mul_two_pow_le {j k : Nat} (hj : j ≤ 2 ^ 53) (hd : d < k) :
    j * 2 ^ d ≤ 2 ^ 52 * 2 ^ k :=
  calc j * 2 ^ d ≤ 2 ^ 53 * 2 ^ d := Nat.mul_le_mul_right _ hj
    _ = 2 ^ 52 * 2 ^ (d + 1) := by ring
    _ ≤ 2 ^ 52 * 2 ^ k :=
      Nat.mul_le_mul_left _ (Nat.pow_le_pow_right (by decide) hd)

/-- A number of 53 binary places is not below what another below it is rounded
to. -/
theorem nearest_le {j : Nat} (hj : j ≤ 2 ^ 53) (hle : n ≤ j * 2 ^ d) :
    nearest n ≤ j * 2 ^ d := by
  rcases Nat.lt_or_ge n.log2 53 with hlog | hlog
  · rwa [nearest_of_log2_lt hlog]
  have hpositive := Nat.two_pow_pos (n.log2 - 52)
  rw [nearest]
  rcases Nat.lt_or_ge d (n.log2 - 52) with hd | hd
  · -- then it is the least number with as many places
    have hleast : j * 2 ^ d = 2 ^ 52 * 2 ^ (n.log2 - 52) :=
      Nat.le_antisymm (mul_two_pow_le hj hd)
        (Nat.le_trans (two_pow_le_of_log2 hlog) hle)
    rw [hleast] at hle ⊢
    exact Nat.mul_le_mul_right _ (roundedQuotient_le hle hpositive)
  · rw [← Nat.pow_sub_mul_pow 2 hd, ← Nat.mul_assoc] at hle ⊢
    exact Nat.mul_le_mul_right _ (roundedQuotient_le hle hpositive)

theorem le_nearest {j : Nat} (hj : j ≤ 2 ^ 53) (hle : j * 2 ^ d ≤ n) :
    j * 2 ^ d ≤ nearest n := by
  rcases Nat.lt_or_ge n.log2 53 with hlog | hlog
  · rwa [nearest_of_log2_lt hlog]
  have hpositive := Nat.two_pow_pos (n.log2 - 52)
  rw [nearest]
  rcases Nat.lt_or_ge d (n.log2 - 52) with hd | hd
  · have hleast := le_roundedQuotient (two_pow_le_of_log2 hlog) hpositive
    exact Nat.le_trans (mul_two_pow_le hj hd) (Nat.mul_le_mul_right _ hleast)
  · rw [← Nat.pow_sub_mul_pow 2 hd, ← Nat.mul_assoc] at hle ⊢
    exact Nat.mul_le_mul_right _ (le_roundedQuotient hle hpositive)

theorem nearest_mono (hle : n ≤ m) : nearest n ≤ nearest m := by
  rcases Nat.eq_zero_or_pos n with rfl | hn
  · exact Nat.zero_le _
  have hm : 0 < m := Nat.lt_of_lt_of_le hn hle
  have hlog : n.log2 ≤ m.log2 :=
    (Nat.le_log2 hm.ne').mpr (Nat.le_trans (Nat.log2_self_le hn.ne') hle)
  rcases Nat.lt_or_eq_of_le hlog with hlt | hsame
  · -- a power of two lies between them
    have hbelow : n ≤ 1 * 2 ^ m.log2 := by
      rw [Nat.one_mul]
      exact Nat.le_of_lt ((Nat.log2_lt hn.ne').mp hlt)
    have habove : 1 * 2 ^ m.log2 ≤ m := by
      rw [Nat.one_mul]
      exact Nat.log2_self_le hm.ne'
    exact Nat.le_trans (nearest_le (by decide) hbelow)
      (le_nearest (by decide) habove)
  · rw [nearest, nearest, hsame]
    exact Nat.mul_le_mul_right _ (roundedQuotient_mono hle _)

theorem nearest_of_le (hn : n ≤ 2 ^ 53) : nearest n = n := by
  have hlow : n * 2 ^ 0 ≤ nearest n :=
    le_nearest hn (by rw [Nat.pow_zero, Nat.mul_one])
  have hhigh : nearest n ≤ n * 2 ^ 0 :=
    nearest_le hn (by rw [Nat.pow_zero, Nat.mul_one])
  omega

/-- Rounding moves a number by at most one in two to the 53. -/
theorem nearest_near (n : Nat) :
    nearest n * 2 ^ 53 ≤ n * 2 ^ 53 + n ∧
      n * 2 ^ 53 ≤ nearest n * 2 ^ 53 + n := by
  rcases Nat.lt_or_ge n.log2 53 with hlog | hlog
  · rw [nearest_of_log2_lt hlog]
    omega
  have hlow := two_pow_le_of_log2 hlog
  have hnear := roundedQuotient_near n (Nat.two_pow_pos (n.log2 - 52))
  rw [← nearest] at hnear
  omega

end

end CivicRegistry.Binary64
