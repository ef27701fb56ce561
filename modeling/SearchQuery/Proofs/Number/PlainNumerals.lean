import SearchQuery.Proofs.Number.Numerals

/-!
Numerals without a power of ten. A double is written as one exactly if it is finite
(`Binary.plainNumeral_exactText_iff`), and a whole number of up to 53 bits keeps all its digits as
a double (`Double.exactText_ofInt`).
-/

namespace SearchQuery

/-- A minus sign or nothing, digits, and a point with digits or nothing. -/
inductive PlainNumeral : List Char → Prop where
  | parts (negative : Bool) {whole fraction : List Char} (digits : DigitRun whole)
      (point : FractionText fraction) :
      PlainNumeral (Decimal.sign negative ++ whole ++ fraction)

namespace PlainNumeral

theorem whole (negative : Bool) {digits : List Char} (run : DigitRun digits) :
    PlainNumeral (Decimal.sign negative ++ digits) := by
  simpa using parts negative run .none

private theorem isDigit_or {text : List Char} (numeral : PlainNumeral text) :
    ∀ c ∈ text, c.isDigit ∨ c = '-' ∨ c = '.' := by
  obtain ⟨negative, digits, point⟩ := numeral
  intro c member
  simp only [List.mem_append] at member
  rcases member with (signs | whole) | fraction
  · cases negative with
    | false => cases signs
    | true => exact .inr (.inl (List.mem_singleton.mp signs))
  · exact .inl (digits.all c whole)
  · cases point with
    | none => cases fraction
    | digits run =>
      rcases List.mem_cons.mp fraction with rfl | later
      · exact .inr (.inr rfl)
      · exact .inl (run.all c later)

end PlainNumeral

theorem toList_natText (n : Nat) : (toString n).toList = Nat.toDigits 10 n := by
  rw [Nat.toString_eq_ofList_toDigits, String.toList_ofList]

/-- A sign only below zero, and the digits of the magnitude. -/
theorem toList_intText (n : Int) :
    (toString n).toList = Decimal.sign (n < 0) ++ Nat.toDigits 10 n.natAbs := by
  cases n with
  | ofNat n => exact toList_natText n
  | negSucc n =>
    have text : toString (Int.negSucc n) = "-" ++ toString (n + 1) := rfl
    rw [text, String.toList_append, toList_natText]
    simp [Decimal.sign]

theorem PlainNumeral.intText (n : Int) : PlainNumeral (toString n).toList := by
  rw [toList_intText]
  exact .whole _ (digitRun_toDigits _)

namespace Decimal

private theorem plainNumeral_positional {d : Decimal} (reduced : d.Reduced) :
    PlainNumeral d.positional := by
  by_cases broken : d.exponent < 0
  · obtain ⟨whole, run, digits, point, same⟩ := d.exists_positional_of_neg broken
    rw [same]
    exact .parts d.negative digits.toDigitRun (.digits point)
  · obtain ⟨whole, digits, same⟩ := d.exists_positional_of_nonneg reduced (Int.not_lt.mp broken)
    rw [same]
    exact .whole d.negative digits.toDigitRun

end Decimal

namespace Binary

variable {format : BinaryFormat}

/-- Only finite numbers are written with digits. -/
theorem plainNumeral_exactText_iff (x : Binary format) :
    PlainNumeral x.exactText.toList ↔ x.isFinite := by
  have word {text : String} (letter : text.toList.any fun c => !(c.isDigit || c == '-' || c == '.')) :
      ¬ PlainNumeral text.toList := by
    intro numeral
    obtain ⟨c, member, other⟩ := List.any_eq_true.mp letter
    have known := numeral.isDigit_or c member
    simp_all
  cases x with
  | infinite negative =>
    have words : ¬ PlainNumeral "inf".toList ∧ ¬ PlainNumeral "-inf".toList :=
      ⟨word (by decide), word (by decide)⟩
    cases negative with
    | false => exact iff_of_false words.1 Bool.false_ne_true
    | true => exact iff_of_false words.2 Bool.false_ne_true
  | nan =>
    have numeral : ¬ PlainNumeral "NaN".toList := word (by decide)
    exact iff_of_false numeral Bool.false_ne_true
  | finite negative significand exponent canonical =>
    refine iff_of_true ?_ rfl
    simp only [exactText]
    split
    · rw [String.toList_ofList]
      exact .whole negative (digitRun_toDigits _)
    · rw [plainText, String.toList_ofList]
      exact Decimal.plainNumeral_positional
        (reduced_shortestDecimal _ _ (Decimal.reduced_ofParts _ _ _))

end Binary

section Exact

private theorem nearestEven_one (n : Nat) : nearestEven n 1 = n := by
  simp [nearestEven, Nat.mod_one]

private theorem floorLog2_one {n : Nat} (positive : n ≠ 0) : floorLog2 n 1 = n.log2 := by
  have one : Nat.log2 1 = 0 := by decide
  have fits : 1 * Nat.pow 2 n.log2 ≤ n * Nat.pow 2 0 := by
    simpa using Nat.log2_self_le positive
  have exponents : ((n.log2 : Int) - (0 : Nat)).toNat = n.log2 ∧
      (-((n.log2 : Int) - (0 : Nat))).toNat = 0 := by
    omega
  rw [floorLog2, one, exponents.1, exponents.2, if_pos fits]
  exact Int.sub_zero _

/-- Shifted up to 53 bits, a whole number is the significand of a double. -/
theorem canonical_double {n : Nat} (positive : n ≠ 0) (small : n < Nat.pow 2 53) :
    BinaryFormat.double.Canonical (n * Nat.pow 2 (52 - n.log2)) (-((52 - n.log2 : Nat) : Int)) := by
  have bits : n.log2 ≤ 52 := Nat.lt_succ_iff.mp ((Nat.log2_lt positive).mpr small)
  have least : 2 ^ 52 ≤ n * 2 ^ (52 - n.log2) := by
    calc 2 ^ 52 = 2 ^ n.log2 * 2 ^ (52 - n.log2) := by rw [← Nat.pow_add, Nat.add_sub_cancel' bits]
      _ ≤ n * 2 ^ (52 - n.log2) := Nat.mul_le_mul_right _ (Nat.log2_self_le positive)
  have most : n * 2 ^ (52 - n.log2) < 2 ^ 53 := by
    calc n * 2 ^ (52 - n.log2) < 2 ^ (n.log2 + 1) * 2 ^ (52 - n.log2) :=
          Nat.mul_lt_mul_of_pos_right Nat.lt_log2_self (Nat.pow_pos (by decide))
      _ = 2 ^ 53 := by rw [← Nat.pow_add]; congr 1; omega
  refine ⟨most, ?_, ?_, .inr least⟩
  · simp only [BinaryFormat.double]
    omega
  · simp only [BinaryFormat.double]
    omega

private theorem Binary.wholeMagnitude?_shifted (n shift : Nat) :
    wholeMagnitude? (n * Nat.pow 2 shift) (-(shift : Int)) = some n := by
  have exponents : (-(shift : Int)).toNat = 0 ∧ (-(-(shift : Int))).toNat = shift := by
    omega
  simp only [wholeMagnitude?, ratio, exponents, Nat.pow_eq, Nat.pow_zero, Nat.mul_one,
    Nat.mul_mod_left, if_true, Nat.mul_div_cancel n (Nat.pow_pos (show 0 < 2 by decide))]

/-- A whole number of up to 53 bits is a double. -/
theorem Double.ofInt_eq_finite {n : Int} (small : n.natAbs < Nat.pow 2 53) :
    ∃ significand exponent canonical,
      (Binary.ofInt n : Double) = .finite (n < 0) significand exponent canonical ∧
        Binary.wholeMagnitude? significand exponent = some n.natAbs := by
  rw [Binary.ofInt, Binary.ofRatio]
  by_cases zero : n.natAbs = 0
  · have canonical : BinaryFormat.double.Canonical 0 BinaryFormat.double.minExponent := by decide
    rw [if_pos zero, Binary.ofParts, dif_pos canonical, zero]
    refine ⟨_, _, canonical, rfl, ?_⟩
    have least : BinaryFormat.double.minExponent = -((1074 : Nat) : Int) := rfl
    rw [least]
    simpa only [Nat.zero_mul] using Binary.wholeMagnitude?_shifted 0 1074
  · have bits : n.natAbs.log2 ≤ 52 := Nat.lt_succ_iff.mp ((Nat.log2_lt zero).mpr small)
    have canonical := canonical_double zero small
    have exponent : max BinaryFormat.double.minExponent
        ((n.natAbs.log2 : Int) - ((BinaryFormat.double.precision : Int) - 1)) =
          -((52 - n.natAbs.log2 : Nat) : Int) := by
      simp only [BinaryFormat.double]
      omega
    have shifts : (-(-((52 - n.natAbs.log2 : Nat) : Int))).toNat = 52 - n.natAbs.log2 ∧
        (-((52 - n.natAbs.log2 : Nat) : Int)).toNat = 0 := by
      omega
    have fits : n.natAbs * Nat.pow 2 (52 - n.natAbs.log2) ≠
        Nat.pow 2 BinaryFormat.double.precision :=
      Nat.ne_of_lt canonical.1
    have unit : 1 * Nat.pow 2 0 = 1 := rfl
    simp only [if_neg zero, floorLog2_one zero, exponent, shifts, unit, nearestEven_one,
      if_neg fits, Binary.ofParts, dif_pos canonical]
    exact ⟨_, _, canonical, rfl, Binary.wholeMagnitude?_shifted _ _⟩

/-- No digit of a whole number of up to 53 bits is lost in a double. -/
theorem Double.exactText_ofInt {n : Int} (small : n.natAbs < Nat.pow 2 53) :
    (Binary.ofInt n : Double).exactText = toString n := by
  obtain ⟨significand, exponent, canonical, same, whole⟩ := ofInt_eq_finite small
  simp only [same, Binary.exactText, whole]
  rw [← String.toList_inj, toList_intText, String.toList_ofList]

end Exact

end SearchQuery
