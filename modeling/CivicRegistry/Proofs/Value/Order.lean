import CivicRegistry.Ranking

/-!
# The order of values

The values of one kind are totally preordered.  Numbers that are not numbers and
lists have no order of their own; with a place given to them the order of every
kind is total, and it is the order in which the values are compared wherever
they can be.
-/

namespace CivicRegistry

open Calendar (Instant)

/-! ## Numbers -/

namespace Binary64

/-- The place of a number: infinite and finite numbers of each sign, from the
least to the greatest, and then the exponent and the mantissa. -/
def rank (number : Float) : Int × Int × Int :=
  match number.toModel.unpack with
  | .notANumber => (0, 0, 0)
  | .infinity .negative => (-2, 0, 0)
  | .infinity .positive => (2, 0, 0)
  | .zero _ => (0, 0, 0)
  | .finite .negative mantissa exponent _ => (-1, -exponent, -mantissa)
  | .finite .positive mantissa exponent _ => (1, exponent, mantissa)

/-- The order of two numbers; what is not a number has the place of zero. -/
def order (left right : Float) : Ordering :=
  compareLex (compareOn fun number => (rank number).1)
    (compareLex (compareOn fun number => (rank number).2.1)
      (compareOn fun number => (rank number).2.2)) left right

instance : Std.TransCmp order :=
  inferInstanceAs (Std.TransCmp (compareLex _ (compareLex _ _)))

theorem compare_neg (left right : Int) :
    Ord.compare (-left) (-right) = Ord.compare right left := by
  simp only [Int.compare_eq_ite_lt, Int.neg_lt_neg_iff]

theorem compare_natCast (left right : Nat) :
    Ord.compare (left : Int) (right : Int) = Ord.compare left right := by
  simp only [Int.compare_eq_ite_lt, Nat.compare_eq_ite_lt, Int.ofNat_lt]

/-- Numbers are compared by their places. -/
theorem compare_eq_order {left right : Float} (hleft : left.isNaN = false)
    (hright : right.isNaN = false) :
    compare left right = some (order left right) := by
  have hunpackedLeft : left.toModel.unpack.isNaN = false := hleft
  have hunpackedRight : right.toModel.unpack.isNaN = false := hright
  show left.toModel.unpack.compare right.toModel.unpack = _
  simp only [order, compareLex, compareOn, rank]
  generalize left.toModel.unpack = left at hunpackedLeft ⊢
  generalize right.toModel.unpack = right at hunpackedRight ⊢
  cases left with
  | notANumber => cases hunpackedLeft
  | infinity sign =>
    cases right with
    | notANumber => cases hunpackedRight
    | infinity other | finite other => cases sign <;> cases other <;> rfl
    | zero => cases sign <;> rfl
  | zero =>
    cases right with
    | notANumber => cases hunpackedRight
    | infinity other | finite other => cases other <;> rfl
    | zero => rfl
  | finite sign mantissa exponent =>
    cases right with
    | notANumber => cases hunpackedRight
    | infinity other => cases sign <;> cases other <;> rfl
    | zero => cases sign <;> rfl
    | finite other mantissa' exponent' =>
      cases sign <;> cases other
      case negative.negative =>
        show some ((Ord.compare exponent exponent').then
            (Ord.compare mantissa mantissa')).swap =
          some ((Ord.compare (-exponent) (-exponent')).then
            (Ord.compare (-(mantissa : Int)) (-(mantissa' : Int))))
        rw [compare_neg, compare_neg, compare_natCast, Ordering.swap_then,
          Int.compare_swap, Nat.compare_swap]
      case positive.positive =>
        show some ((Ord.compare exponent exponent').then
            (Ord.compare mantissa mantissa')) =
          some ((Ord.compare exponent exponent').then
            (Ord.compare (mantissa : Int) (mantissa' : Int)))
        rw [compare_natCast]
      all_goals rfl

theorem le_iff_compare {left right : Float} :
    left ≤ right ↔ (compare left right).any (·.isLE) = true := by
  show decide (left.toModel ≤ right.toModel) = true ↔ _
  rw [decide_eq_true_iff]
  exact Iff.rfl

theorem lt_iff_compare {left right : Float} :
    left < right ↔ compare left right = some .lt := by
  show decide (left.toModel < right.toModel) = true ↔ _
  rw [decide_eq_true_iff]
  show (left.toModel.unpack.compare right.toModel.unpack == some .lt) = true ↔ _
  rw [beq_iff_eq]
  exact Iff.rfl

/-- What is not a number is compared with nothing. -/
theorem compare_eq_none {left right : Float}
    (hnan : left.isNaN = true ∨ right.isNaN = true) :
    compare left right = none := by
  have hunpacked : left.toModel.unpack.isNaN = true ∨
      right.toModel.unpack.isNaN = true := hnan
  show left.toModel.unpack.compare right.toModel.unpack = none
  generalize left.toModel.unpack = left at hunpacked ⊢
  generalize right.toModel.unpack = right at hunpacked ⊢
  cases left with
  | notANumber => rfl
  | infinity | zero | finite =>
    cases right with
    | notANumber => rfl
    | infinity | zero | finite =>
      rcases hunpacked with hleft | hright <;> contradiction

theorem compare_swap (left right : Float) :
    compare right left = (compare left right).map Ordering.swap := by
  by_cases hnan : left.isNaN = true ∨ right.isNaN = true
  · rw [compare_eq_none hnan, compare_eq_none hnan.symm]
    rfl
  · rw [not_or, Bool.not_eq_true, Bool.not_eq_true] at hnan
    rw [compare_eq_order hnan.1 hnan.2, compare_eq_order hnan.2 hnan.1,
      Option.map_some]
    exact congrArg some Std.OrientedCmp.eq_swap

/-- Two numbers are ordered one way or the other. -/
theorem not_le_iff_lt {left right : Float} (hleft : left.isNaN = false)
    (hright : right.isNaN = false) : ¬left ≤ right ↔ right < left := by
  rw [le_iff_compare, lt_iff_compare, compare_swap left right,
    compare_eq_order hleft hright]
  cases order left right <;> decide

end Binary64

/-! ## Kinds -/

namespace Calendar.Instant

instance : Std.TransCmp compare :=
  inferInstanceAs (Std.TransCmp
    (compareLex (compareOn Instant.seconds) (compareOn Instant.nanos)))

/-- An instant that is not later than another. -/
instance : LE Instant where
  le left right := left.seconds < right.seconds ∨
    left.seconds = right.seconds ∧ left.nanos ≤ right.nanos

theorem isLE_compare {left right : Instant} :
    (left.compare right).isLE = true ↔ left ≤ right := by
  rw [Instant.compare, Ordering.isLE_then_iff_or, Int.compare_eq_lt,
    Int.compare_eq_eq, Nat.isLE_compare]
  exact Iff.rfl

end Calendar.Instant

namespace Uuid

instance : Std.TransCmp compare :=
  inferInstanceAs (Std.TransCmp (compareOn fun uuid : Uuid => uuid.bits.toNat))

/-- Only the same identifier has the same place. -/
theorem eq_of_compare {left right : Uuid} (horder : left.compare right = .eq) :
    left = right := by
  have hbits : left.bits = right.bits :=
    BitVec.eq_of_toNat_eq (Nat.compare_eq_eq.mp horder)
  cases left
  cases right
  exact congrArg Uuid.mk hbits

end Uuid

namespace Kind

/-- The order of two values of a kind; lists are all in the same place. -/
def order : (kind : Kind) → kind.Carrier → kind.Carrier → Ordering
  | .text => fun left right : String => compare left right
  | .uuid => Uuid.compare
  | .instant => Instant.compare
  | .int32 => fun left right : Int => compare left right
  | .int64 => fun left right : Int => compare left right
  | .float => Binary64.order
  | .boolean => fun left right : Bool => compare left right
  | .roles => fun _ _ => .eq
  | .officePost => compareOn fun value : OfficePost => Vocabulary.word value
  | .houseOwnership =>
    compareOn fun value : HouseOwnership => Vocabulary.word value
  | .municipalityType =>
    compareOn fun value : MunicipalityType => Vocabulary.word value

instance : (kind : Kind) → Std.TransCmp kind.order
  | .text => inferInstanceAs (Std.TransOrd String)
  | .uuid => inferInstanceAs (Std.TransCmp Uuid.compare)
  | .instant => inferInstanceAs (Std.TransCmp Instant.compare)
  | .int32 => inferInstanceAs (Std.TransOrd Int)
  | .int64 => inferInstanceAs (Std.TransOrd Int)
  | .float => inferInstanceAs (Std.TransCmp Binary64.order)
  | .boolean => inferInstanceAs (Std.TransOrd Bool)
  | .roles => inferInstanceAs (Std.TransCmp (compareOn fun _ : List Role => 0))
  | .officePost => inferInstanceAs (Std.TransCmp (compareOn _))
  | .houseOwnership => inferInstanceAs (Std.TransCmp (compareOn _))
  | .municipalityType => inferInstanceAs (Std.TransCmp (compareOn _))

end Kind

/-- A value that is no number of binary64, or one that is a number. -/
def Value.isProper : Value → Bool
  | .float number => !number.isNaN
  | _ => true

/-- Values of one kind are compared by their places; values that have no order
share one. -/
theorem Kind.compare_toValue (kind : Kind) {left right : kind.Carrier}
    (hleft : (kind.toValue left).isProper = true)
    (hright : (kind.toValue right).isProper = true) :
    ((kind.toValue left).compare (kind.toValue right)).getD .eq =
      kind.order left right := by
  cases kind with
  | float =>
    have hnumberLeft : Float.isNaN left = false := by
      simpa [Value.isProper, toValue] using hleft
    have hnumberRight : Float.isNaN right = false := by
      simpa [Value.isProper, toValue] using hright
    show (Binary64.compare left right).getD .eq = Binary64.order left right
    rw [Binary64.compare_eq_order hnumberLeft hnumberRight]
    rfl
  | text | uuid | instant | int32 | int64 | boolean | roles | officePost
  | houseOwnership | municipalityType => rfl

end CivicRegistry
