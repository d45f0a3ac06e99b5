import CivicRegistry.Json.Printer
import CivicRegistry.Json.Scanner

/-!
# Numbers in printed documents

A number is written as whole digits, a fraction and an exponent, and it is read
as what these parts stand for, whatever follows it.  Every integer and every
finite number is printed in this form; an integer that fits into 64 bits is read
back as itself.
-/

namespace CivicRegistry.Json

open CivicRegistry.Text (Symbol)

/-! ## What follows a number -/

/-- What follows cannot be taken into a number. -/
def Settled : List Symbol → Prop
  | some c :: _ => c.isDigit = false ∧ c ≠ '.' ∧ c ≠ 'e' ∧ c ≠ 'E'
  | _ => True

/-- What follows cannot be taken into digits or start a fraction. -/
def EndsFraction : List Symbol → Prop
  | some c :: _ => c.isDigit = false ∧ c ≠ '.'
  | _ => True

/-- What follows cannot be taken into digits. -/
def EndsDigits : List Symbol → Prop
  | some c :: _ => c.isDigit = false
  | _ => True

theorem Settled.endsFraction {rest : List Symbol} (hrest : Settled rest) :
    EndsFraction rest := by
  match rest, hrest with
  | [], _ | none :: _, _ => trivial
  | some _ :: _, hrest => exact ⟨hrest.1, hrest.2.1⟩

theorem EndsFraction.endsDigits {rest : List Symbol}
    (hrest : EndsFraction rest) : EndsDigits rest := by
  match rest, hrest with
  | [], _ | none :: _, _ => trivial
  | some _ :: _, hrest => exact hrest.1

theorem settled_nil : Settled [] := trivial

theorem settled_cons {c : Char} (hc : c = ',' ∨ c = ']' ∨ c = '\x7d')
    (rest : List Symbol) : Settled (some c :: rest) := by
  rcases hc with rfl | rfl | rfl <;>
    exact ⟨rfl, by decide, by decide, by decide⟩

/-! ## Written numbers -/

/-- The characters of a fraction, none if it has no digits. -/
def fractionChars : List Char → List Char
  | [] => []
  | digits => '.' :: digits

def WrittenExponent.chars (exponent : WrittenExponent) : List Char :=
  'e' :: (if exponent.negative then '-' else '+') :: exponent.digits

/-- The characters of an exponent that may be left out. -/
def exponentChars (exponent : Option WrittenExponent) : List Char :=
  exponent.elim [] WrittenExponent.chars

namespace WrittenNumber

def chars (number : WrittenNumber) : List Char :=
  (if number.negative then ['-'] else []) ++ (number.whole ++
    (fractionChars number.fraction ++ exponentChars number.exponent))

/-- The parts of a number are digits; only the fraction may lack them, and whole
digits start with zero only if they are zero. -/
structure WellFormed (number : WrittenNumber) : Prop where
  whole : ∀ c ∈ number.whole, c.isDigit = true
  wholeNonempty : number.whole ≠ []
  leading : ¬(number.whole.head? = some '0' ∧ 1 < number.whole.length)
  fraction : ∀ c ∈ number.fraction, c.isDigit = true
  exponent : ∀ exponent ∈ number.exponent,
    (∀ c ∈ exponent.digits, c.isDigit = true) ∧ exponent.digits ≠ []

end WrittenNumber

/-! ## Reading the parts -/

theorem spanDigits_append {digits : List Char} {rest : List Symbol}
    (hdigits : ∀ c ∈ digits, c.isDigit = true) (hrest : EndsDigits rest) :
    spanDigits (digits.map some ++ rest) = (digits, rest) := by
  induction digits with
  | nil =>
    rw [List.map_nil, List.nil_append, spanDigits.eq_def]
    split
    · next c rest =>
      have hc : c.isDigit = false := hrest
      rw [hc, if_neg Bool.false_ne_true]
    · rfl
  | cons c digits ih =>
    rw [List.forall_mem_cons] at hdigits
    rw [List.map_cons, List.cons_append, spanDigits, if_pos hdigits.1,
      ih hdigits.2]

theorem endsDigits_fractionChars (fraction : List Char) {rest : List Symbol}
    (hrest : EndsFraction rest) :
    EndsDigits ((fractionChars fraction).map some ++ rest) := by
  cases fraction with
  | nil => exact hrest.endsDigits
  | cons c digits => exact (by decide : '.'.isDigit = false)

theorem endsFraction_exponentChars (exponent : Option WrittenExponent)
    {rest : List Symbol} (hrest : Settled rest) :
    EndsFraction ((exponentChars exponent).map some ++ rest) := by
  cases exponent with
  | none => exact hrest.endsFraction
  | some exponent =>
    exact (by decide : 'e'.isDigit = false ∧ 'e' ≠ '.')

theorem scanFraction_fractionChars {fraction : List Char} {rest : List Symbol}
    (hfraction : ∀ c ∈ fraction, c.isDigit = true)
    (hrest : EndsFraction rest) :
    scanFraction ((fractionChars fraction).map some ++ rest) =
      some (fraction, rest) := by
  cases fraction with
  | nil =>
    rw [fractionChars, List.map_nil, List.nil_append, scanFraction.eq_def]
    split
    · exact absurd rfl hrest.2
    · rfl
  | cons c digits =>
    have hspan := spanDigits_append hfraction hrest.endsDigits
    rw [fractionChars, List.map_cons, List.cons_append, scanFraction, hspan]
    · rfl
    · exact List.cons_ne_nil c digits

theorem scanExponent_exponentChars {exponent : Option WrittenExponent}
    {rest : List Symbol}
    (hexponent : ∀ written ∈ exponent,
      (∀ c ∈ written.digits, c.isDigit = true) ∧ written.digits ≠ [])
    (hrest : Settled rest) :
    scanExponent ((exponentChars exponent).map some ++ rest) =
      some (exponent, rest) := by
  cases exponent with
  | none =>
    rw [exponentChars, Option.elim, List.map_nil, List.nil_append,
      scanExponent.eq_def]
    split
    · next c others =>
      have hmark : ¬(c = 'e' ∨ c = 'E') := not_or.mpr hrest.2.2
      rw [if_neg hmark]
    · rfl
  | some written =>
    obtain ⟨hdigits, hnonempty⟩ := hexponent written rfl
    have hspan := spanDigits_append hdigits hrest.endsFraction.endsDigits
    have hsign : scanSign (some (if written.negative then '-' else '+') ::
        (written.digits.map some ++ rest)) =
          (written.negative, written.digits.map some ++ rest) := by
      cases written.negative <;> rfl
    have hfull : ¬written.digits.isEmpty = true := by
      rwa [List.isEmpty_iff]
    rw [exponentChars, Option.elim, WrittenExponent.chars, List.map_cons,
      List.map_cons, List.cons_append, List.cons_append, scanExponent,
      if_pos (Or.inl rfl), hsign]
    simp only
    rw [hspan]
    simp only
    rw [if_neg hfull]

/-- The parts of an unsigned number are read one after the other. -/
theorem scanUnsigned_chars {number : WrittenNumber}
    (hnumber : number.WellFormed) {rest : List Symbol} (hrest : Settled rest) :
    scanUnsigned number.negative ((number.whole ++
        (fractionChars number.fraction ++
          exponentChars number.exponent)).map some ++ rest) =
      some (number.value, rest) := by
  have hexponent := scanExponent_exponentChars hnumber.exponent hrest
  have hfraction := scanFraction_fractionChars hnumber.fraction
    (endsFraction_exponentChars number.exponent hrest)
  have hwhole := spanDigits_append hnumber.whole
    (endsDigits_fractionChars number.fraction
      (endsFraction_exponentChars number.exponent hrest))
  have hgood : ¬(number.whole.isEmpty = true ∨
      (number.whole.head? = some '0' ∧ 1 < number.whole.length)) := by
    rw [not_or, List.isEmpty_iff]
    exact ⟨hnumber.wholeNonempty, hnumber.leading⟩
  rw [List.map_append, List.map_append, List.append_assoc, List.append_assoc,
    scanUnsigned, hwhole]
  simp only
  rw [if_neg hgood, hfraction]
  dsimp only [bind, Option.bind]
  rw [hexponent]
  rfl

/-- A digit is none of the characters that another value starts with. -/
theorem isDigit_ne {c d : Char} (hc : c.isDigit = true)
    (hd : d.isDigit = false) : c ≠ d := by
  rintro rfl
  rw [hc] at hd
  cases hd

/-- A number is read as what its parts stand for. -/
theorem scanNumber_chars {number : WrittenNumber}
    (hnumber : number.WellFormed) {rest : List Symbol} (hrest : Settled rest) :
    scanNumber (number.chars.map some ++ rest) = some (number.value, rest) := by
  have hunsigned := scanUnsigned_chars hnumber hrest
  rw [WrittenNumber.chars]
  cases hnegative : number.negative with
  | true =>
    rw [hnegative] at hunsigned
    exact hunsigned
  | false =>
    obtain ⟨c, digits, hdigits⟩ :=
      List.exists_cons_of_ne_nil hnumber.wholeNonempty
    have hc : c.isDigit = true :=
      hnumber.whole c (hdigits ▸ List.mem_cons_self)
    rw [hnegative, hdigits] at hunsigned
    rw [if_neg Bool.false_ne_true, hdigits, List.nil_append, ← hunsigned,
      scanNumber.eq_def, List.cons_append, List.map_cons, List.cons_append]
    split
    · next others hminus =>
      rw [List.cons.injEq, Option.some.injEq] at hminus
      exact absurd hminus.1 (isDigit_ne hc (by decide))
    · rfl

/-- Whether a character starts a written number. -/
def startsNumber (c : Char) : Bool :=
  c.isDigit || c == '-'

theorem startsNumber_ne {c d : Char} (hc : startsNumber c = true)
    (hd : startsNumber d = false) : c ≠ d := by
  rintro rfl
  rw [hc] at hd
  cases hd

theorem WrittenNumber.WellFormed.exists_chars_eq_cons {number : WrittenNumber}
    (hnumber : number.WellFormed) :
    ∃ c others, number.chars = c :: others ∧ startsNumber c = true := by
  obtain ⟨c, digits, hdigits⟩ :=
    List.exists_cons_of_ne_nil hnumber.wholeNonempty
  have hc : c.isDigit = true :=
    hnumber.whole c (hdigits ▸ List.mem_cons_self)
  rw [chars, hdigits]
  cases number.negative with
  | true => exact ⟨_, _, rfl, by decide⟩
  | false => exact ⟨c, _, rfl, by simp [startsNumber, hc]⟩

/-! ## Digits -/

/-- The digits of a number above zero do not start with zero. -/
theorem head?_toDigits_ne {n : Nat} (hn : 0 < n) :
    (Nat.toDigits 10 n).head? ≠ some '0' := by
  induction n using Nat.strongRecOn with
  | ind n ih =>
    by_cases hsmall : n < 10
    · have hdigit : ∀ m < 10, 0 < m → Nat.digitChar m ≠ '0' := by decide
      rw [Nat.toDigits_of_lt_base hsmall]
      simpa using hdigit n hsmall hn
    · have hlarge : 10 ≤ n := Nat.not_lt.mp hsmall
      have hfirst := ih (n / 10) (by omega) (by omega)
      rw [Nat.toDigits_of_base_le (by decide) hlarge, List.head?_append]
      rw [List.head?_eq_some_head Nat.toDigits_ne_nil] at hfirst ⊢
      exact hfirst

theorem not_leadingZero (n : Nat) :
    ¬((Nat.toDigits 10 n).head? = some '0' ∧
      1 < (Nat.toDigits 10 n).length) := by
  rintro ⟨hhead, hlength⟩
  rcases Nat.eq_zero_or_pos n with rfl | hn
  · rw [Nat.toDigits_zero] at hlength
    exact absurd hlength (by decide)
  · exact head?_toDigits_ne hn hhead

theorem isDigit_of_mem_toDigits {n : Nat} {c : Char}
    (hc : c ∈ Nat.toDigits 10 n) : c.isDigit = true :=
  Nat.isDigit_of_mem_toDigits (by decide) (by decide) hc

/-! ## Integers -/

/-- More digits make a number no smaller. -/
theorem le_ofDigitChars (digits : List Char) (total : Nat) :
    total ≤ Nat.ofDigitChars 10 digits total := by
  induction digits generalizing total with
  | nil => exact Nat.le_refl total
  | cons c digits ih =>
    rw [Nat.ofDigitChars_cons]
    exact Nat.le_trans (by omega) (ih _)

theorem gather_eq {limit total : Nat} {digits : List Char}
    (hlimit : Nat.ofDigitChars 10 digits total ≤ limit) :
    gather limit total digits = (Nat.ofDigitChars 10 digits total, []) := by
  induction digits generalizing total with
  | nil => rfl
  | cons c digits ih =>
    rw [Nat.ofDigitChars_cons] at hlimit ⊢
    have hnext := Nat.le_trans (le_ofDigitChars digits _) hlimit
    rw [gather, Text.digitValue, if_pos hnext]
    exact ih hlimit

theorem gather_toDigits {n : Nat} (hn : n ≤ significandLimit) :
    gather significandLimit 0 (Nat.toDigits 10 n) = (n, []) := by
  have hvalue : Nat.ofDigitChars 10 (Nat.toDigits 10 n) 0 = n :=
    Nat.ofDigitChars_ten_toDigits
  rw [gather_eq (by rw [hvalue]; exact hn), hvalue]

/-- An integer that fits into 64 bits, with a sign only if it is negative. -/
def FitsWord (value : Int) : Prop :=
  -Int.pow 2 63 ≤ value ∧ value < Int.pow 2 64

/-- The parts of a printed integer. -/
def writtenInteger (value : Int) : WrittenNumber :=
  ⟨decide (value < 0), Nat.toDigits 10 value.natAbs, [], none⟩

theorem wellFormed_writtenInteger (value : Int) :
    (writtenInteger value).WellFormed where
  whole _ := isDigit_of_mem_toDigits
  wholeNonempty := Nat.toDigits_ne_nil
  leading := not_leadingZero value.natAbs
  fraction _ hc := absurd hc List.not_mem_nil
  exponent _ hexponent := absurd hexponent (Option.not_mem_none _)

theorem chars_writtenInteger (value : Int) :
    (writtenInteger value).chars = value.repr.toList := by
  cases value with
  | ofNat n =>
    rw [Int.repr, Nat.toList_repr]
    exact List.append_nil _
  | negSucc n =>
    have hnegative : decide (Int.negSucc n < 0) = true :=
      decide_eq_true (Int.negSucc_lt_zero n)
    rw [Int.repr, String.toList_append, Nat.toList_repr, writtenInteger,
      WrittenNumber.chars, hnegative]
    exact congrArg ('-' :: ·) (List.append_nil _)

theorem value_writtenInteger {value : Int} (hvalue : FitsWord value) :
    (writtenInteger value).value = .integer value := by
  have hpow : Int.pow 2 63 = ((Nat.pow 2 63 : Nat) : Int) := rfl
  have hpow' : Int.pow 2 64 = ((significandLimit + 1 : Nat) : Int) := rfl
  have hlimit : Nat.pow 2 63 ≤ significandLimit := by decide
  rw [FitsWord, hpow, hpow'] at hvalue
  rw [writtenInteger, WrittenNumber.value, gather_toDigits (by omega)]
  by_cases hnegative : value < 0
  · have hsize : 1 ≤ value.natAbs ∧ value.natAbs ≤ Nat.pow 2 63 := by omega
    have hsame : -(value.natAbs : Int) = value := by omega
    simp only [hnegative, decide_true, hsize]
    exact congrArg Numeral.integer hsame
  · have hsame : (value.natAbs : Int) = value := by omega
    simp only [hnegative, decide_false]
    exact congrArg Numeral.integer hsame

/-! ## Finite numbers -/

/-- The parts of the decimal of a number, the digits a whole number of powers of
ten. -/
def writtenDecimal (negative : Bool) (digits : List Char) (exponent : Int) :
    WrittenNumber :=
  let power := exponent + digits.length - 1
  if Binary64.smallestPlain ≤ power ∧ power ≤ Binary64.largestPlain then
    if 0 ≤ exponent then
      ⟨negative, digits ++ List.replicate exponent.toNat '0', ['0'], none⟩
    else if 0 ≤ power then
      ⟨negative, digits.take (power.toNat + 1), digits.drop (power.toNat + 1),
        none⟩
    else
      ⟨negative, ['0'], List.replicate (-power - 1).toNat '0' ++ digits, none⟩
  else
    ⟨negative, digits.take 1, digits.drop 1,
      some ⟨decide (power < 0), Nat.toDigits 10 power.natAbs⟩⟩

theorem isDigit_of_mem_zeros {count : Nat} {c : Char}
    (hc : c ∈ List.replicate count '0') : c.isDigit = true := by
  rw [List.eq_of_mem_replicate hc]
  rfl

theorem fractionChars_of_ne_nil {digits : List Char} (hdigits : digits ≠ []) :
    fractionChars digits = '.' :: digits := by
  obtain ⟨c, others, rfl⟩ := List.exists_cons_of_ne_nil hdigits
  rfl

theorem toList_pointed {digits : List Char} {before : Nat}
    (hafter : before < digits.length) :
    (Binary64.pointed digits before).toList =
      digits.take before ++ fractionChars (digits.drop before) := by
  have hrest : digits.drop before ≠ [] := by
    rw [Ne, List.drop_eq_nil_iff]
    omega
  simp [Binary64.pointed, fractionChars_of_ne_nil hrest]

/-- A single digit has no point after it. -/
theorem toList_mantissa {digits : List Char} (hlength : 0 < digits.length) :
    (if digits.length = 1 then String.ofList digits
      else Binary64.pointed digits 1).toList =
        digits.take 1 ++ fractionChars (digits.drop 1) := by
  split
  · next hsingle =>
    rw [String.toList_ofList, List.take_of_length_le (by omega),
      List.drop_of_length_le (by omega), fractionChars, List.append_nil]
  · exact toList_pointed (by omega)

section

variable {digits : List Char}

theorem wellFormed_writtenDecimal
    (hdigits : ∀ c ∈ digits, c.isDigit = true) (hnonempty : digits ≠ [])
    (hfirst : digits.head? ≠ some '0') (negative : Bool) (exponent : Int) :
    (writtenDecimal negative digits exponent).WellFormed := by
  -- the first digits of the decimal, at least one
  have htake (before : Nat) :
      (∀ c ∈ digits.take (before + 1), c.isDigit = true) ∧
        digits.take (before + 1) ≠ [] ∧
        (digits.take (before + 1)).head? ≠ some '0' := by
    rw [List.head?_take, if_neg before.succ_ne_zero]
    refine ⟨fun c hc => hdigits c (List.mem_of_mem_take hc), ?_, hfirst⟩
    simpa using hnonempty
  have hdrop (before : Nat) :
      ∀ c ∈ digits.drop before, c.isDigit = true :=
    fun c hc => hdigits c (List.mem_of_mem_drop hc)
  have hnone : ∀ written ∈ (none : Option WrittenExponent),
      (∀ c ∈ written.digits, c.isDigit = true) ∧ written.digits ≠ [] :=
    fun written hwritten => absurd hwritten (Option.not_mem_none written)
  rw [writtenDecimal]
  split
  · split
    · refine ⟨?_, ?_, ?_, by simp, hnone⟩
      · simp only [List.mem_append]
        rintro c (hc | hc)
        · exact hdigits c hc
        · exact isDigit_of_mem_zeros hc
      · simp [hnonempty]
      · obtain ⟨c, others, rfl⟩ := List.exists_cons_of_ne_nil hnonempty
        exact fun hleading => hfirst hleading.1
    split
    · obtain ⟨hwhole, hsome, hhead⟩ := htake
        (exponent + digits.length - 1).toNat
      exact ⟨hwhole, hsome, fun hleading => hhead hleading.1, hdrop _, hnone⟩
    · refine ⟨by simp, by simp, by simp, ?_, hnone⟩
      simp only [List.mem_append]
      rintro c (hc | hc)
      · exact isDigit_of_mem_zeros hc
      · exact hdigits c hc
  · obtain ⟨hwhole, hsome, hhead⟩ := htake 0
    refine ⟨hwhole, hsome, fun hleading => hhead hleading.1, hdrop 1, ?_⟩
    intro written hwritten
    rw [Option.mem_some_iff] at hwritten
    subst hwritten
    exact ⟨fun c => isDigit_of_mem_toDigits, Nat.toDigits_ne_nil⟩

end

/-- The parts of a finite number in a data document. -/
def writtenFloat (x : Float) : WrittenNumber :=
  let decimal := Binary64.shortest x
  if decimal.digits = 0 then ⟨Binary64.isNegative x, ['0'], ['0'], none⟩
  else
    writtenDecimal (Binary64.isNegative x) (Nat.toDigits 10 decimal.digits)
      decimal.exponent

theorem wellFormed_writtenFloat (x : Float) :
    (writtenFloat x).WellFormed := by
  rw [writtenFloat]
  split
  · exact ⟨by simp, by simp, by simp, by simp, by simp⟩
  · next hdigits =>
    exact wellFormed_writtenDecimal (fun c => isDigit_of_mem_toDigits)
      Nat.toDigits_ne_nil (head?_toDigits_ne (Nat.pos_of_ne_zero hdigits)) _ _

theorem toList_signText (x : Float) : (Binary64.signText x).toList =
    if Binary64.isNegative x then ['-'] else [] := by
  rw [Binary64.signText]
  split <;> rfl

theorem chars_writtenFloat (x : Float) :
    (writtenFloat x).chars = (Binary64.documentText x).toList := by
  rw [writtenFloat, Binary64.documentText, String.toList_append,
    toList_signText]
  simp only [Nat.toList_repr]
  generalize hdigits : Nat.toDigits 10 (Binary64.shortest x).digits = digits
  generalize (Binary64.shortest x).exponent = exponent
  have hnonempty : digits ≠ [] := hdigits ▸ Nat.toDigits_ne_nil
  have hlength : 0 < digits.length := List.length_pos_iff.mpr hnonempty
  split
  · rfl
  rw [writtenDecimal]
  split
  · split
    · simp [WrittenNumber.chars, fractionChars, exponentChars, Binary64.zeros]
    split
    · have hafter : (exponent + digits.length - 1).toNat + 1 <
          digits.length := by omega
      rw [toList_pointed hafter]
      simp [WrittenNumber.chars, exponentChars]
    · have hfraction :
          List.replicate (-(exponent + digits.length - 1) - 1).toNat '0' ++
            digits ≠ [] := List.append_ne_nil_of_right_ne_nil _ hnonempty
      rw [WrittenNumber.chars, fractionChars_of_ne_nil hfraction]
      simp [exponentChars, Binary64.zeros]
  · rw [String.toList_append, String.toList_append, String.toList_append,
      toList_mantissa hlength, WrittenNumber.chars, exponentChars, Option.elim,
      WrittenExponent.chars, Nat.toList_repr]
    by_cases hpower : exponent + digits.length - 1 < 0 <;> simp [hpower]

end CivicRegistry.Json
