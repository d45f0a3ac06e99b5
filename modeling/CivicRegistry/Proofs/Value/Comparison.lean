import CivicRegistry.Proofs.Binary64.Conversion

/-!
# Comparing values

Two values compared the other way round give the opposite answer, and none where
there was none.  From one value to the next the answers add up as in a total
preorder, but for one case.  An integer is compared with a float as the float
that it is rounded to, so beyond two to the 53 one float can stand for several
integers; it is equal to each of them, while they are not equal to each other.
-/

namespace CivicRegistry

open Calendar (Date Instant)

instance : Std.TransCmp Date.compare :=
  inferInstanceAs (Std.TransCmp (compareLex (compareOn Date.year)
    (compareLex (compareOn Date.month) (compareOn Date.day))))

namespace Value

/-- Values compared the other way round give the opposite answer. -/
theorem compare_swap (left right : Value) :
    right.compare left = (left.compare right).map Ordering.swap := by
  have hsome {α : Type} (order : α → α → Ordering) [Std.OrientedCmp order]
      (x y : α) : some (order y x) = (some (order x y)).map Ordering.swap :=
    congrArg some Std.OrientedCmp.eq_swap
  cases left <;> cases right
  case integer.float | float.integer | float.float =>
    exact Binary64.compare_swap _ _
  case text.text | integer.integer | boolean.boolean =>
    exact hsome Ord.compare _ _
  case uuid.uuid => exact hsome Uuid.compare _ _
  case date.date => exact hsome Date.compare _ _
  case instant.instant => exact hsome Instant.compare _ _
  all_goals rfl

theorem compare_eq_comm {left right : Value} :
    left.compare right = some .eq ↔ right.compare left = some .eq := by
  rw [compare_swap left right]
  rcases left.compare right with _ | _ | _ | _ <;> decide

/-! ## From one value to the next -/

/-- A value is less than another or equal to it. -/
def AtMost (left right : Value) : Prop :=
  (left.compare right).any (·.isLE) = true

instance (left right : Value) : Decidable (AtMost left right) :=
  inferInstanceAs (Decidable ((left.compare right).any (·.isLE) = true))

/-- The answer for the outer two of three values follows from the answers for
neighbours that are at most one another: it is less, or it is equal because both
of them are. -/
def Follows (first second whole : Option Ordering) : Prop :=
  whole = some .lt ∨
    whole = some .eq ∧ first = some .eq ∧ second = some .eq

/-- A float stands for two integers that are apart. -/
structure Blurs (x : Float) (low high : Int) : Prop where
  apart : low < high
  low : (integer low).compare (float x) = some .eq
  high : (integer high).compare (float x) = some .eq

/-- Three values go round in a circle because the float among them stands for
both integers. -/
inductive Blurred : Value → Value → Value → Prop where
  | floatLast {x : Float} {low high : Int} (hblurs : Blurs x low high) :
    Blurred (integer low) (integer high) (float x)
  | floatBetween {x : Float} {low high : Int} (hblurs : Blurs x low high) :
    Blurred (integer high) (float x) (integer low)
  | floatFirst {x : Float} {low high : Int} (hblurs : Blurs x low high) :
    Blurred (float x) (integer low) (integer high)

section

variable {α : Type} {order : α → α → Ordering} [Std.TransCmp order]

theorem follows_of_isLE {x y z : α} (hfirst : (order x y).isLE = true)
    (hsecond : (order y z).isLE = true) :
    Follows (some (order x y)) (some (order y z)) (some (order x z)) := by
  cases hxy : order x y with
  | gt => rw [hxy] at hfirst; cases hfirst
  | lt =>
    exact .inl (congrArg some (Std.TransCmp.lt_of_lt_of_isLE hxy hsecond))
  | eq =>
    cases hyz : order y z with
    | gt => rw [hyz] at hsecond; cases hsecond
    | lt => exact .inl (congrArg some (Std.TransCmp.lt_of_eq_of_lt hxy hyz))
    | eq =>
      exact .inr ⟨congrArg some (Std.TransCmp.eq_trans hxy hyz), rfl, rfl⟩

end

/-! ### Numbers -/

section

variable {x y z : Float} {low high : Int}

/-- Two numbers are at most one another only if both are numbers. -/
theorem isLE_order {x y : Float}
    (hle : (Binary64.compare x y).any (·.isLE) = true) :
    x.isNaN = false ∧ y.isNaN = false ∧ (Binary64.order x y).isLE = true := by
  by_cases hnan : x.isNaN = true ∨ y.isNaN = true
  · rw [Binary64.compare_eq_none hnan] at hle
    cases hle
  · rw [not_or, Bool.not_eq_true, Bool.not_eq_true] at hnan
    rw [Binary64.compare_eq_order hnan.1 hnan.2] at hle
    exact ⟨hnan.1, hnan.2, hle⟩

theorem follows_floats
    (hfirst : (Binary64.compare x y).any (·.isLE) = true)
    (hsecond : (Binary64.compare y z).any (·.isLE) = true) :
    Follows (Binary64.compare x y) (Binary64.compare y z)
      (Binary64.compare x z) := by
  obtain ⟨hx, hy, hfirst⟩ := isLE_order hfirst
  obtain ⟨-, hz, hsecond⟩ := isLE_order hsecond
  rw [Binary64.compare_eq_order hx hy, Binary64.compare_eq_order hy hz,
    Binary64.compare_eq_order hx hz]
  exact follows_of_isLE hfirst hsecond

/-- Integers are rounded to floats in their order. -/
theorem any_isLE_ofInteger (hle : low ≤ high) :
    (Binary64.compare (Binary64.ofInteger low)
      (Binary64.ofInteger high)).any (·.isLE) = true := by
  have hcompares := cmp_compares (Binary64.amount (Binary64.ofInteger low))
    (Binary64.amount (Binary64.ofInteger high))
  rw [Binary64.compare_eq_cmp (Binary64.isNaN_ofInteger low)
    (Binary64.isNaN_ofInteger high)]
  exact Ordering.isLE_iff_ne_gt.mpr
    (hcompares.ne_gt.mpr (Binary64.amount_ofInteger_mono hle))

theorem le_of_atMost (hle : AtMost (integer low) (integer high)) :
    low ≤ high :=
  Int.isLE_compare.mp hle

theorem Follows.any_isLE {first second whole : Option Ordering}
    (hfollows : Follows first second whole) :
    whole.any (·.isLE) = true := by
  rcases hfollows with rfl | ⟨rfl, -, -⟩ <;> rfl

/-- Values that are at most each other are equal. -/
theorem AtMost.compare_eq {left right : Value} (hle : AtMost left right)
    (hge : AtMost right left) : left.compare right = some .eq := by
  rw [AtMost, compare_swap left right] at hge
  rw [AtMost] at hle
  cases hcompare : left.compare right with
  | none => rw [hcompare] at hle; cases hle
  | some order =>
    rw [hcompare] at hle hge
    cases order with
    | eq => rfl
    | lt => cases hge
    | gt => cases hle

/-- Two integers and a float behind them. -/
theorem follows_floatLast_iff (hfirst : AtMost (integer low) (integer high))
    (hsecond : AtMost (integer high) (float x)) :
    Follows ((integer low).compare (integer high))
        ((integer high).compare (float x)) ((integer low).compare (float x)) ↔
      ¬Blurs x low high := by
  have hle := le_of_atMost hfirst
  rcases follows_floats (any_isLE_ofInteger hle) hsecond with
    hlow | ⟨hlow, -, hhigh⟩
  · have hnot : ¬Blurs x low high := by
      intro hblurs
      cases hlow.symm.trans hblurs.low
    exact iff_of_true (.inl hlow) hnot
  · constructor
    · rintro (hless | ⟨-, hsame, -⟩) hblurs
      · cases hless.symm.trans hlow
      · exact hblurs.apart.ne (Int.compare_eq_eq.mp (Option.some.inj hsame))
    · intro hblurs
      have hsame : low = high := by
        by_contra hne
        exact hblurs ⟨by omega, hlow, hhigh⟩
      exact .inr ⟨hlow, congrArg some (Int.compare_eq_eq.mpr hsame), hhigh⟩

/-- Two integers and a float before them. -/
theorem follows_floatFirst_iff (hfirst : AtMost (float x) (integer low))
    (hsecond : AtMost (integer low) (integer high)) :
    Follows ((float x).compare (integer low))
        ((integer low).compare (integer high))
        ((float x).compare (integer high)) ↔
      ¬Blurs x low high := by
  have hle := le_of_atMost hsecond
  rcases follows_floats hfirst (any_isLE_ofInteger hle) with
    hhigh | ⟨hhigh, hlow, -⟩
  · have hnot : ¬Blurs x low high := by
      intro hblurs
      cases hhigh.symm.trans (compare_eq_comm.mp hblurs.high)
    exact iff_of_true (.inl hhigh) hnot
  · constructor
    · rintro (hless | ⟨-, -, hsame⟩) hblurs
      · cases hless.symm.trans hhigh
      · exact hblurs.apart.ne (Int.compare_eq_eq.mp (Option.some.inj hsame))
    · intro hblurs
      have hsame : low = high := by
        by_contra hne
        exact hblurs ⟨by omega, compare_eq_comm.mp hlow,
          compare_eq_comm.mp hhigh⟩
      exact .inr ⟨hhigh, hlow, congrArg some (Int.compare_eq_eq.mpr hsame)⟩

/-- Two integers and a float between them. -/
theorem follows_floatBetween_iff (hfirst : AtMost (integer high) (float x))
    (hsecond : AtMost (float x) (integer low)) :
    Follows ((integer high).compare (float x))
        ((float x).compare (integer low))
        ((integer high).compare (integer low)) ↔
      ¬Blurs x low high := by
  rcases lt_trichotomy high low with hlt | rfl | hgt
  · have hnot : ¬Blurs x low high := fun hblurs => hlt.asymm hblurs.apart
    exact iff_of_true (.inl (congrArg some (Int.compare_eq_lt.mpr hlt))) hnot
  · have hnot : ¬Blurs x high high := fun hblurs => hblurs.apart.false
    exact iff_of_true (.inr ⟨congrArg some (Int.compare_eq_eq.mpr rfl),
      hfirst.compare_eq hsecond, hsecond.compare_eq hfirst⟩) hnot
  · -- the float is at most the lower and at least the higher integer
    have hrounded := any_isLE_ofInteger hgt.le
    have hlow : AtMost (integer low) (float x) :=
      (follows_floats hrounded hfirst).any_isLE
    have hhigh : AtMost (float x) (integer high) :=
      (follows_floats hsecond hrounded).any_isLE
    have hcompare : (integer high).compare (integer low) = some .gt :=
      congrArg some (Int.compare_eq_gt.mpr hgt)
    have hfails : ¬Follows ((integer high).compare (float x))
        ((float x).compare (integer low))
        ((integer high).compare (integer low)) := by
      rw [hcompare]
      rintro (hless | ⟨hequal, -, -⟩)
      · cases hless
      · cases hequal
    exact iff_of_false hfails (not_not_intro
      ⟨hgt, hlow.compare_eq hsecond, hfirst.compare_eq hhigh⟩)

end

/-! ### All values -/

/-- Three values, neighbours of which are at most one another. -/
theorem follows_iff_not_blurred {first second third : Value}
    (hfirst : AtMost first second) (hsecond : AtMost second third) :
    Follows (first.compare second) (second.compare third)
        (first.compare third) ↔
      ¬Blurred first second third := by
  have hkind {α : Type} (order : α → α → Ordering) [Std.TransCmp order]
      {x y z : α} (hfirst : (order x y).isLE = true)
      (hsecond : (order y z).isLE = true) {Circle : Prop} (hnot : ¬Circle) :
      Follows (some (order x y)) (some (order y z)) (some (order x z)) ↔
        ¬Circle :=
    iff_of_true (follows_of_isLE hfirst hsecond) hnot
  -- values of different kinds are compared only if both are numbers
  cases first <;> cases second <;> try cases hfirst
  all_goals cases third <;> try cases hsecond
  case text.text.text | boolean.boolean.boolean | integer.integer.integer =>
    exact hkind Ord.compare hfirst hsecond nofun
  case uuid.uuid.uuid => exact hkind Uuid.compare hfirst hsecond nofun
  case date.date.date => exact hkind Date.compare hfirst hsecond nofun
  case instant.instant.instant =>
    exact hkind Instant.compare hfirst hsecond nofun
  case float.float.float | integer.float.float | float.integer.float
      | float.float.integer =>
    exact iff_of_true (follows_floats hfirst hsecond) nofun
  case integer.integer.float =>
    rw [follows_floatLast_iff hfirst hsecond]
    exact not_congr ⟨.floatLast, fun (.floatLast hblurs) => hblurs⟩
  case integer.float.integer =>
    rw [follows_floatBetween_iff hfirst hsecond]
    exact not_congr ⟨.floatBetween, fun (.floatBetween hblurs) => hblurs⟩
  case float.integer.integer =>
    rw [follows_floatFirst_iff hfirst hsecond]
    exact not_congr ⟨.floatFirst, fun (.floatFirst hblurs) => hblurs⟩

theorem Blurred.isSome {first second third : Value}
    (hblurred : Blurred first second third) :
    (first.compare third).isSome = true := by
  cases hblurred with
  | floatLast hblurs =>
    rw [hblurs.low]
    rfl
  | floatBetween => rfl
  | floatFirst hblurs =>
    rw [compare_eq_comm.mp hblurs.high]
    rfl

theorem isSome_of_atMost {first second third : Value}
    (hfirst : AtMost first second) (hsecond : AtMost second third) :
    (first.compare third).isSome = true := by
  by_cases hblurred : Blurred first second third
  · exact hblurred.isSome
  · rcases (follows_iff_not_blurred hfirst hsecond).mpr hblurred with
      hless | ⟨hequal, -, -⟩
    · rw [hless]
      rfl
    · rw [hequal]
      rfl

/-! ## Amounts -/

/-- What a number amounts to. -/
noncomputable def amount? : Value → Option EReal
  | .integer n => some ((n : ℝ) : EReal)
  | .float x => if x.isNaN then none else some (Binary64.amount x)
  | _ => none

theorem amount?_eq_some {value : Value} {p : EReal}
    (hvalue : value.amount? = some p) :
    (∃ n : Int, value = integer n ∧ ((n : ℝ) : EReal) = p) ∨
      ∃ x, value = float x ∧ x.isNaN = false ∧ Binary64.amount x = p := by
  cases value with
  | integer n => exact .inl ⟨n, rfl, Option.some.inj hvalue⟩
  | float x =>
    rw [amount?] at hvalue
    split at hvalue
    · cases hvalue
    · next hnumber =>
      exact .inr ⟨x, rfl, Bool.not_eq_true _ ▸ hnumber,
        Option.some.inj hvalue⟩
  | _ => cases hvalue

/-- A float next to an integer that has more than 53 binary places. -/
structure StandsFor (x : Float) (n : Int) : Prop where
  beyond : 2 ^ 53 < n.natAbs
  near : ∀ value : ℝ, Binary64.amount x = value →
    |value - n| * 2 ^ 53 ≤ |(n : ℝ)|

/-- An integer and a float have the order of their amounts, or they are taken
for equal and the float stands for the integer. -/
theorem compare_integer_float {n : Int} {x : Float} (hx : x.isNaN = false) :
    (integer n).compare (float x) =
        some (cmp ((n : ℝ) : EReal) (Binary64.amount x)) ∨
      (integer n).compare (float x) = some .eq ∧ StandsFor x n := by
  have hcompare : (integer n).compare (float x) = some
      (cmp (Binary64.amount (Binary64.ofInteger n)) (Binary64.amount x)) :=
    Binary64.compare_eq_cmp (Binary64.isNaN_ofInteger n) hx
  have hamount := Binary64.isAmount_amount x
  rw [hcompare]
  rcases lt_trichotomy (Binary64.amount (Binary64.ofInteger n))
    (Binary64.amount x) with hlt | heq | hgt
  · have hless : ((n : ℝ) : EReal) < Binary64.amount x := by
      by_contra hnot
      exact hlt.not_ge (Binary64.le_amount_ofInteger hamount (not_lt.mp hnot))
    exact .inl (by rw [hlt.cmp_eq_lt, hless.cmp_eq_lt])
  · rw [heq, cmp_self_eq_eq]
    by_cases hsame : ((n : ℝ) : EReal) = Binary64.amount x
    · exact .inl (by rw [hsame, cmp_self_eq_eq])
    · refine .inr ⟨rfl, ?_, ?_⟩
      · by_contra hsmall
        rw [Binary64.amount_ofInteger_of_le (not_lt.mp hsmall)] at heq
        exact hsame heq
      · intro value hvalue
        exact Binary64.amount_ofInteger_near (heq.trans hvalue)
  · have hgreater : Binary64.amount x < ((n : ℝ) : EReal) := by
      by_contra hnot
      exact hgt.not_ge (Binary64.amount_ofInteger_le hamount (not_lt.mp hnot))
    exact .inl (by rw [hgt.cmp_eq_gt, hgreater.cmp_eq_gt])

/-- Numbers have the order of their amounts, unless an integer and a float that
stands for it are taken for equal. -/
theorem compare_amounts {left right : Value} {p q : EReal}
    (hleft : left.amount? = some p) (hright : right.amount? = some q) :
    left.compare right = some (cmp p q) ∨
      left.compare right = some .eq ∧
        ((∃ n x, left = integer n ∧ right = float x ∧ StandsFor x n) ∨
          ∃ x n, left = float x ∧ right = integer n ∧ StandsFor x n) := by
  rcases amount?_eq_some hleft with ⟨n, rfl, rfl⟩ | ⟨x, rfl, hx, rfl⟩
  · rcases amount?_eq_some hright with ⟨k, rfl, rfl⟩ | ⟨y, rfl, hy, rfl⟩
    · have hcast : cmp ((n : ℝ) : EReal) ((k : ℝ) : EReal) =
          Ord.compare n k := by
        rw [← cmp_eq_compare]
        exact (EReal.coe_strictMono.comp Int.cast_strictMono).cmp_map_eq n k
      exact .inl (congrArg some hcast.symm)
    · refine (compare_integer_float hy).imp_right fun hequal => ?_
      exact ⟨hequal.1, .inl ⟨n, y, rfl, rfl, hequal.2⟩⟩
  · rcases amount?_eq_some hright with ⟨k, rfl, rfl⟩ | ⟨y, rfl, hy, rfl⟩
    · rw [compare_swap (integer k)]
      rcases compare_integer_float hx with horder | ⟨hequal, hstands⟩
      · rw [horder, Option.map_some, cmp_swap]
        exact .inl rfl
      · rw [hequal]
        exact .inr ⟨rfl, .inr ⟨x, k, rfl, rfl, hstands⟩⟩
    · exact .inl (Binary64.compare_eq_cmp hx hy)

/-- Values compared the other way round give the opposite answer.  Of three
values, neighbours of which are at most one another, the outer two have an
order; it is less, or equal because both neighbours are, unless the float among
them stands for the two integers.  Numbers have the order of their amounts; only
an integer with more than 53 binary places and a float next to it are taken for
equal when they are not. -/
theorem compared_in_order (first second third : Value) :
    second.compare first = (first.compare second).map Ordering.swap ∧
    (AtMost first second → AtMost second third →
      (first.compare third).isSome = true ∧
      (Follows (first.compare second) (second.compare third)
          (first.compare third) ↔
        ¬Blurred first second third)) ∧
    ∀ p q : EReal, first.amount? = some p → second.amount? = some q →
      first.compare second = some (cmp p q) ∨
        first.compare second = some .eq ∧
          ((∃ n x, first = integer n ∧ second = float x ∧ StandsFor x n) ∨
            ∃ x n, first = float x ∧ second = integer n ∧ StandsFor x n) := by
  refine ⟨compare_swap first second, ?_, fun _ _ => compare_amounts⟩
  intro hfirst hsecond
  exact ⟨isSome_of_atMost hfirst hsecond,
    follows_iff_not_blurred hfirst hsecond⟩

/-- Two to the 53. -/
def sampleFloat : Float := Float.ofBits 0x4340000000000000

theorem compared_in_order_sample :
    AtMost (integer 9007199254740992) (integer 9007199254740993) ∧
    AtMost (integer 9007199254740993) (float sampleFloat) ∧
    ¬Follows ((integer 9007199254740992).compare (integer 9007199254740993))
      ((integer 9007199254740993).compare (float sampleFloat))
      ((integer 9007199254740992).compare (float sampleFloat)) ∧
    Follows ((integer 9007199254740991).compare (integer 9007199254740992))
      ((integer 9007199254740992).compare (float sampleFloat))
      ((integer 9007199254740991).compare (float sampleFloat)) := by
  have hinteger : AtMost (integer 9007199254740992)
      (integer 9007199254740993) := by decide
  have hfloat : AtMost (integer 9007199254740993) (float sampleFloat) := by
    decide
  have hblurs : Blurs sampleFloat 9007199254740992 9007199254740993 :=
    ⟨by decide, by decide, by decide⟩
  refine ⟨hinteger, hfloat, ?_, ?_⟩
  · obtain ⟨-, hfollows, -⟩ := compared_in_order (integer 9007199254740992)
      (integer 9007199254740993) (float sampleFloat)
    rw [(hfollows hinteger hfloat).2]
    exact not_not_intro (.floatLast hblurs)
  · obtain ⟨-, hfollows, -⟩ := compared_in_order (integer 9007199254740991)
      (integer 9007199254740992) (float sampleFloat)
    rw [(hfollows (by decide) (by decide)).2]
    rintro (hblurs | _ | _)
    exact absurd hblurs.low (by decide)

end Value

end CivicRegistry
