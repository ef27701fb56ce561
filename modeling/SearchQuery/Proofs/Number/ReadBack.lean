import Mathlib.Algebra.Order.Field.Rat
import Mathlib.Data.Int.Log
import Mathlib.Data.Rat.Floor
import Mathlib.Tactic.NormNum
import Mathlib.Tactic.Positivity
import SearchQuery.Proofs.Number.PlainNumerals

/-!
Numbers are read back from their texts. Rounding depends on the ratio alone (`Binary.ofRatio_scale`)
and leaves the numbers of the format as they are (`Binary.ofRatio_ratio`), so neither a shorter
decimal nor zeros at its end make another number of it. Main statement: `Binary.ofText?_plainText`;
hence no two singles have the same text.
-/

namespace SearchQuery

section Ratios

variable {num den : Nat}

private theorem zpow_two_eq_div (k : Int) :
    (2 : ℚ) ^ k = (2 : ℚ) ^ k.toNat / (2 : ℚ) ^ (-k).toNat := by
  rw [← zpow_natCast, ← zpow_natCast, ← zpow_sub₀ two_ne_zero]
  congr 1
  omega

private theorem le_log_iff {ratio : ℚ} (positive : 0 < ratio) (k : Int) :
    k ≤ Int.log 2 ratio ↔ (2 : ℚ) ^ k ≤ ratio := by
  rw [← Int.zpow_le_iff_le_log (by decide) positive, Nat.cast_ofNat]

private theorem log_lt_iff {ratio : ℚ} (positive : 0 < ratio) (k : Int) :
    Int.log 2 ratio < k ↔ ratio < (2 : ℚ) ^ k := by
  rw [← Int.lt_zpow_iff_log_lt (by decide) positive, Nat.cast_ofNat]

/-- The test of `floorLog2`. -/
theorem le_log_ratio_iff (positive : 0 < num) (divides : 0 < den) (k : Int) :
    k ≤ Int.log 2 ((num : ℚ) / den) ↔ den * Nat.pow 2 k.toNat ≤ num * Nat.pow 2 (-k).toNat := by
  rw [le_log_iff (by positivity), zpow_two_eq_div, div_le_div_iff₀ (by positivity) (by positivity),
    mul_comm ((2 : ℚ) ^ k.toNat)]
  simp only [Nat.pow_eq]
  exact_mod_cast Iff.rfl

private theorem log2_bounds {n : Nat} (positive : 0 < n) :
    (2 : ℚ) ^ (n.log2 : Int) ≤ n ∧ (n : ℚ) < (2 : ℚ) ^ ((n.log2 : Int) + 1) := by
  constructor
  · exact_mod_cast Nat.log2_self_le positive.ne'
  · exact_mod_cast Nat.lt_log2_self

theorem floorLog2_eq_log (positive : 0 < num) (divides : 0 < den) :
    floorLog2 num den = Int.log 2 ((num : ℚ) / den) := by
  have ratio : (0 : ℚ) < num / den := by positivity
  obtain ⟨numLow, numHigh⟩ := log2_bounds positive
  obtain ⟨denLow, denHigh⟩ := log2_bounds divides
  have least : (num.log2 : Int) - (den.log2 + 1) ≤ Int.log 2 ((num : ℚ) / den) := by
    rw [le_log_iff ratio, zpow_sub₀ two_ne_zero]
    exact div_le_div₀ (by positivity) numLow (by positivity) denHigh.le
  have most : Int.log 2 ((num : ℚ) / den) < (num.log2 : Int) + 1 - den.log2 := by
    rw [log_lt_iff ratio, zpow_sub₀ two_ne_zero]
    exact div_lt_div₀ numHigh denLow (zpow_pos two_pos _).le (zpow_pos two_pos _)
  -- what is left between the bounds is the difference of the logarithms and one less
  have test := le_log_ratio_iff positive divides ((num.log2 : Int) - den.log2)
  simp only [floorLog2]
  split <;> omega

private theorem log_mul_zpow {n : Nat} (positive : 0 < n) (k : Int) :
    Int.log 2 ((n : ℚ) * 2 ^ k) = n.log2 + k := by
  have value : (0 : ℚ) < n * 2 ^ k := mul_pos (Nat.cast_pos.mpr positive) (zpow_pos two_pos _)
  obtain ⟨low, high⟩ := log2_bounds positive
  have least : (n.log2 : Int) + k ≤ Int.log 2 ((n : ℚ) * 2 ^ k) := by
    rw [le_log_iff value, zpow_add₀ two_ne_zero]
    exact mul_le_mul_of_nonneg_right low (zpow_pos two_pos _).le
  have most : Int.log 2 ((n : ℚ) * 2 ^ k) < (n.log2 : Int) + 1 + k := by
    rw [log_lt_iff value, zpow_add₀ two_ne_zero]
    exact mul_lt_mul_of_pos_right high (zpow_pos two_pos _)
  omega

theorem floorLog2_scale {factor : Nat} (scales : 0 < factor) (positive : 0 < num)
    (divides : 0 < den) : floorLog2 (factor * num) (factor * den) = floorLog2 num den := by
  rw [floorLog2_eq_log (Nat.mul_pos scales positive) (Nat.mul_pos scales divides),
    floorLog2_eq_log positive divides, Nat.cast_mul, Nat.cast_mul,
    mul_div_mul_left _ _ (Nat.cast_ne_zero.mpr scales.ne')]

theorem nearestEven_scale {factor : Nat} (scales : 0 < factor) :
    nearestEven (factor * num) (factor * den) = nearestEven num den := by
  have side (m n : Nat) : factor * m < factor * n ↔ m < n := Nat.mul_lt_mul_left scales
  simp only [nearestEven, Nat.mul_div_mul_left _ _ scales, Nat.mul_mod_mul_left,
    Nat.mul_left_comm 2 factor, side]

private theorem nearestEven_mul_self (n : Nat) (divides : 0 < den) :
    nearestEven (n * den) den = n := by
  simp [nearestEven, Nat.mul_div_cancel _ divides, divides]

end Ratios

namespace Binary

variable {format : BinaryFormat} {num den : Nat}

/-- Only the ratio counts. -/
theorem ofRatio_scale (negative : Bool) {factor : Nat} (scales : 0 < factor) (divides : 0 < den) :
    (ofRatio negative (factor * num) (factor * den) : Binary format) =
      ofRatio negative num den := by
  unfold ofRatio
  by_cases zero : num = 0
  · rw [if_pos zero, if_pos (by rw [zero, Nat.mul_zero])]
  · have positive := Nat.pos_of_ne_zero zero
    rw [if_neg zero, if_neg (Nat.mul_ne_zero scales.ne' zero)]
    simp only [floorLog2_scale scales positive divides, Nat.mul_assoc factor,
      nearestEven_scale scales]

/-- A number of the format is the nearest to itself. -/
theorem ofRatio_ratio {significand : Nat} {exponent : Int} (negative : Bool)
    (canonical : format.Canonical significand exponent) :
    ofRatio negative (ratio significand exponent).1 (ratio significand exponent).2 =
      .finite negative significand exponent canonical := by
  obtain ⟨small, least, most, used⟩ := id canonical
  have pow (k : Nat) : 0 < Nat.pow 2 k := Nat.pow_pos two_pos
  rw [ratio, ofRatio]
  by_cases zero : significand = 0
  · subst zero
    have smallest : exponent = format.minExponent :=
      used.resolve_right (Nat.not_le_of_lt (pow _))
    subst smallest
    rw [if_pos (Nat.zero_mul _), ofParts, dif_pos canonical]
  · have positive := Nat.pos_of_ne_zero zero
    have value : ((significand * Nat.pow 2 exponent.toNat : Nat) : ℚ) /
        (Nat.pow 2 (-exponent).toNat : Nat) = significand * 2 ^ exponent := by
      simp only [zpow_two_eq_div exponent, Nat.pow_eq]
      push_cast
      ring
    have bits : floorLog2 (significand * Nat.pow 2 exponent.toNat) (Nat.pow 2 (-exponent).toNat) =
        significand.log2 + exponent := by
      rw [floorLog2_eq_log (Nat.mul_pos positive (pow _)) (pow _), value, log_mul_zpow positive]
    have exponents : max format.minExponent
        ((significand.log2 : Int) + exponent - ((format.precision : Int) - 1)) = exponent := by
      have below := (Nat.log2_lt zero).mpr small
      rcases used with smallest | full
      · omega
      · have above := (Nat.le_log2 zero).mpr full
        omega
    have shifted : significand * Nat.pow 2 exponent.toNat * Nat.pow 2 (-exponent).toNat =
        significand * (Nat.pow 2 (-exponent).toNat * Nat.pow 2 exponent.toNat) := by
      rw [Nat.mul_assoc, Nat.mul_comm (Nat.pow 2 exponent.toNat)]
    simp only [if_neg (Nat.mul_ne_zero zero (pow exponent.toNat).ne'), bits, exponents, shifted,
      nearestEven_mul_self significand (Nat.mul_pos (pow _) (pow _)), if_neg small.ne, ofParts,
      dif_pos canonical]

end Binary

section Digits

private theorem digitCount_mul_pow {n : Nat} (positive : 0 < n) (count : Nat) :
    digitCount (n * Nat.pow 10 count) = digitCount n + count := by
  induction count with
  | zero => exact congrArg digitCount (Nat.mul_one n)
  | succ count ih =>
    have more : n * Nat.pow 10 (count + 1) = 10 * (n * Nat.pow 10 count) + 0 := by
      simp only [Nat.pow_eq, Nat.pow_succ]
      ring
    have filled : 0 < n * Nat.pow 10 count := Nat.mul_pos positive (Nat.pow_pos (by decide))
    have step : Nat.toDigits 10 _ ++ Nat.toDigits 10 0 = _ :=
      Nat.toDigits_append_toDigits (by decide) filled (by decide)
    rw [more, digitCount, ← step, List.length_append, ← digitCount, ih]
    rfl

private theorem digitsValue_zeros_append (count : Nat) (digits : List Char) :
    digitsValue (zeros count ++ digits) = digitsValue digits := by
  simp only [digitsValue, zeros, ← Nat.ofDigitChars_eq_foldl, Nat.ofDigitChars_append,
    Nat.ofDigitChars_replicate_zero, Nat.mul_zero]

private theorem digitsValue_append_zeros (digits : List Char) (count : Nat) :
    digitsValue (digits ++ zeros count) = digitsValue digits * Nat.pow 10 count := by
  simp only [digitsValue, zeros, ← Nat.ofDigitChars_eq_foldl, Nat.ofDigitChars_append,
    Nat.ofDigitChars_replicate_zero, Nat.pow_eq]
  exact Nat.mul_comm _ _

end Digits

namespace Decimal

variable {format : BinaryFormat}

/-- Zeros at the end of the digits can as well be counted by the exponent. -/
theorem toBinary_shift (negative : Bool) {digits : Nat} (positive : 0 < digits) (count : Nat)
    (exponent : Int) :
    (toBinary ⟨negative, digits * Nat.pow 10 count, exponent⟩ : Binary format) =
      toBinary ⟨negative, digits, exponent + count⟩ := by
  have pow (k : Nat) : 0 < Nat.pow 10 k := Nat.pow_pos (by decide)
  have top : exponent + ((digitCount digits + count : Nat) : Int) =
      exponent + count + digitCount digits := by
    push_cast
    ring
  obtain ⟨extra, whole, broken⟩ : ∃ extra,
      count + exponent.toNat = extra + (exponent + count).toNat ∧
        (-exponent).toNat = extra + (-(exponent + count)).toNat :=
    ⟨count + exponent.toNat - (exponent + count).toNat, by omega, by omega⟩
  have num : digits * Nat.pow 10 count * Nat.pow 10 exponent.toNat =
      Nat.pow 10 extra * (digits * Nat.pow 10 (exponent + count).toNat) := by
    have joined : Nat.pow 10 count * Nat.pow 10 exponent.toNat =
        Nat.pow 10 extra * Nat.pow 10 (exponent + count).toNat := by
      simp only [Nat.pow_eq, ← Nat.pow_add, whole]
    rw [Nat.mul_assoc, joined, Nat.mul_left_comm]
  have den : Nat.pow 10 (-exponent).toNat =
      Nat.pow 10 extra * Nat.pow 10 (-(exponent + count)).toNat := by
    simp only [Nat.pow_eq, ← Nat.pow_add, broken]
  simp only [toBinary, digitCount_mul_pow positive, top, num, den, positive.ne',
    (Nat.mul_pos positive (pow count)).ne', Binary.ofRatio_scale _ (pow extra) (pow _)]

theorem toBinary_dropZeros (d : Decimal) (count : Nat) :
    ((d.dropZeros count).toBinary : Binary format) = d.toBinary := by
  induction count generalizing d with
  | zero => rfl
  | succ count ih =>
    rw [dropZeros]
    split
    · rename_i more
      have shift : (toBinary ⟨d.negative, d.digits / 10 * Nat.pow 10 1, d.exponent⟩ :
          Binary format) = _ :=
        toBinary_shift d.negative (by omega) 1 d.exponent
      rw [ih, ← Nat.cast_one, ← shift]
      congr 2
      simp only [Nat.pow_eq]
      omega
    · rfl

theorem toBinary_normalize (d : Decimal) : (d.normalize.toBinary : Binary format) = d.toBinary :=
  d.toBinary_dropZeros _

/-- Short of the limits on its magnitude, a fraction is rounded as it is. -/
theorem toBinary_fraction (negative : Bool) {digits : Nat} (positive : 0 < digits) {places : Nat}
    (short : places ≤ 200) (small : digits < Nat.pow 10 200) :
    (toBinary ⟨negative, digits, -(places : Int)⟩ : Binary format) =
      .ofRatio negative digits (Nat.pow 10 places) := by
  have counted : digitCount digits ≤ 200 :=
    (Nat.length_toDigits_le_iff (by decide) (by decide)).mpr small
  have limit : magnitudeLimit = 400 := rfl
  simp only [toBinary]
  rw [if_neg (by omega), if_neg (by omega), Int.toNat_neg_natCast, neg_neg, Int.toNat_natCast]
  exact congrArg (Binary.ofRatio negative · _) (Nat.mul_one digits)

/-- A single is the nearest to the decimal that it is equal to. -/
theorem toBinary_ofParts {significand : Nat} {exponent : Int} (negative : Bool)
    (canonical : BinaryFormat.single.Canonical significand exponent) :
    ((ofParts negative significand exponent).toBinary : Single) =
      .finite negative significand exponent canonical := by
  rw [← Binary.ofRatio_ratio negative canonical, ofParts]
  split
  · rename_i zero
    simp [zero, toBinary, Binary.ratio, Binary.ofRatio]
  rename_i filled
  obtain ⟨fits, least, most, _⟩ := canonical
  simp only [BinaryFormat.single] at fits least most
  have positive := Nat.pos_of_ne_zero filled
  have scaled (base : Nat) {n limit : Nat} (least : 0 < base) (most : n ≤ limit)
      (small : Nat.pow 2 24 * Nat.pow base limit < Nat.pow 10 200) :
      significand * Nat.pow base n < Nat.pow 10 200 :=
    calc significand * Nat.pow base n
        ≤ Nat.pow 2 24 * Nat.pow base limit :=
          Nat.mul_le_mul fits.le (Nat.pow_le_pow_right least most)
      _ < Nat.pow 10 200 := small
  split
  · rename_i whole
    obtain ⟨n, rfl⟩ := Int.eq_ofNat_of_zero_le whole
    have small : significand * Nat.pow 2 n < Nat.pow 10 200 :=
      scaled 2 two_pos (show n ≤ 104 by omega) (by decide +kernel)
    have twos : 0 < Nat.pow 2 n := Nat.pow_pos two_pos
    rw [Binary.ratio, Int.toNat_natCast, Int.toNat_neg_natCast]
    exact toBinary_fraction negative (Nat.mul_pos positive twos) (Nat.zero_le _) small
  · rename_i broken
    obtain ⟨n, rfl⟩ : ∃ n : Nat, exponent = -(n : Int) := ⟨(-exponent).toNat, by omega⟩
    have small : significand * Nat.pow 5 n < Nat.pow 10 200 :=
      scaled 5 (by decide) (show n ≤ 149 by omega) (by decide +kernel)
    have fives : 0 < Nat.pow 5 n := Nat.pow_pos (by decide)
    have twos : 0 < Nat.pow 2 n := Nat.pow_pos two_pos
    have tens : Nat.pow 10 n = Nat.pow 5 n * Nat.pow 2 n := Nat.mul_pow 5 2 n
    rw [neg_neg, Int.toNat_natCast, Binary.ratio, Int.toNat_neg_natCast, neg_neg,
      Int.toNat_natCast, toBinary_fraction negative (Nat.mul_pos positive fives) (by omega) small,
      tens, Nat.mul_comm significand, Binary.ofRatio_scale _ fives twos]
    exact congrArg (Binary.ofRatio negative · _) (Nat.mul_one significand).symm

end Decimal

namespace Binary

theorem toBinary_shortestDecimal {format : BinaryFormat} (tie : TieRule) {x : Binary format}
    {exact : Decimal} (same : exact.toBinary = x) :
    (x.shortestDecimal tie exact).toBinary = x := by
  rw [shortestDecimal, Decimal.toBinary_normalize]
  cases found : (List.range enoughDigits).findSome? fun places =>
      (exact.neighbours tie (places + 1)).find? fun candidate => candidate.toBinary = x with
  | none => exact same
  | some candidate =>
    obtain ⟨places, _, first⟩ := List.exists_of_findSome?_eq_some found
    simpa using List.find?_some first

end Binary

namespace Decimal

/-- A broken number: the digits around the point, with zeros before them where there are too few. -/
theorem positional_broken (digits : Nat) {exponent : Int} (broken : exponent < 0) :
    ∃ whole fraction, DigitRun whole ∧ (∀ c ∈ fraction, c.isDigit) ∧
      digitsValue (whole ++ fraction) = digits ∧ (fraction.length : Int) = -exponent ∧
      positional ⟨false, digits, exponent⟩ = whole ++ '.' :: fraction := by
  have run := digitRun_toDigits digits
  have value := digitsValue_toDigits digits
  simp only [positional, sign, Bool.false_eq_true, if_false, List.nil_append,
    if_neg (Int.not_le.mpr broken)]
  generalize Nat.toDigits 10 digits = text at run value ⊢
  split
  · rename_i before
    refine ⟨text.take (exponent + text.length).toNat, text.drop (exponent + text.length).toNat,
      ⟨?_, fun c member => run.all c (List.mem_of_mem_take member)⟩,
      fun c member => run.all c (List.mem_of_mem_drop member), ?_, ?_, rfl⟩
    · simp [List.take_eq_nil_iff, run.nonempty, before]
    · rw [List.take_append_drop, value]
    · rw [List.length_drop]
      omega
  · refine ⟨['0'], zeros (-(exponent + text.length)).toNat ++ text, ⟨by simp, by simp⟩, ?_, ?_, ?_,
      rfl⟩
    · intro c member
      exact (List.mem_append.mp member).elim isDigit_of_mem_zeros (run.all c)
    · have leading : ['0'] = zeros 1 := rfl
      rw [leading, digitsValue_zeros_append, digitsValue_zeros_append, value]
    · rw [List.length_append, zeros, List.length_replicate]
      omega

/-- A positional numeral is read as a decimal for the same number. -/
theorem readUnsigned_positional (format : BinaryFormat) (negative : Bool) {digits : Nat}
    {exponent : Int} (reduced : digits = 0 → exponent = 0) :
    ∃ read, readUnsigned negative (positional ⟨false, digits, exponent⟩) = some read ∧
      (read.toBinary : Binary format) = toBinary ⟨negative, digits, exponent⟩ := by
  by_cases broken : exponent < 0
  · obtain ⟨whole, fraction, run, all, value, places, text⟩ := positional_broken digits broken
    refine ⟨⟨negative, digits, exponent⟩, ?_, rfl⟩
    have fractions : spanDigits (fraction ++ []) = (fraction, []) :=
      spanDigits_append all (by simp)
    rw [List.append_nil] at fractions
    rw [text, readUnsigned, spanDigits_append run.all (by simp)]
    simp [fractions, run.nonempty, readExponent, value, places]
  · have whole : 0 ≤ exponent := Int.not_lt.mp broken
    have text : positional ⟨false, digits, exponent⟩ =
        Nat.toDigits 10 digits ++ zeros exponent.toNat ++ [] := by
      simp [positional, sign, whole]
    have run := (digitRun_toDigits digits).append fun c =>
      isDigit_of_mem_zeros (n := exponent.toNat)
    refine ⟨⟨negative, digits * Nat.pow 10 exponent.toNat, 0⟩, ?_, ?_⟩
    · rw [text, readUnsigned, spanDigits_append run.all (by simp)]
      simp [digitsValue_append_zeros, digitsValue_toDigits, readExponent, Nat.toDigits_ne_nil]
    · by_cases zero : digits = 0
      · rw [reduced zero, zero]
        rfl
      · rw [toBinary_shift negative (Nat.pos_of_ne_zero zero), Int.toNat_of_nonneg whole, zero_add]

private theorem exists_head_positional (digits : Nat) (exponent : Int) :
    ∃ first rest, positional ⟨false, digits, exponent⟩ = first :: rest ∧ first.isDigit := by
  obtain ⟨run, rest, all, text⟩ : ∃ run rest, DigitRun run ∧
      positional ⟨false, digits, exponent⟩ = run ++ rest := by
    by_cases broken : exponent < 0
    · obtain ⟨whole, fraction, run, _, _, _, text⟩ := positional_broken digits broken
      exact ⟨whole, '.' :: fraction, run, text⟩
    · refine ⟨Nat.toDigits 10 digits, zeros exponent.toNat, digitRun_toDigits digits, ?_⟩
      simp [positional, sign, Int.not_lt.mp broken]
  cases run with
  | nil => exact absurd rfl all.nonempty
  | cons first later => exact ⟨first, later ++ rest, text, all.all first List.mem_cons_self⟩

private theorem positional_eq (d : Decimal) :
    d.positional = sign d.negative ++ positional ⟨false, d.digits, d.exponent⟩ :=
  rfl

end Decimal

namespace Binary

/-- A sign is taken off what starts with a digit. -/
theorem ofText?_sign {format : BinaryFormat} {negative : Bool} {first : Char} {rest : List Char}
    (digit : first.isDigit) {read : Decimal}
    (reads : Decimal.readUnsigned negative (first :: rest) = some read) :
    (ofText? (String.ofList (Decimal.sign negative ++ first :: rest)) : Option (Binary format)) =
      some read.toBinary := by
  cases negative with
  | true => simp [ofText?, Decimal.sign, reads]
  | false =>
    have minus : first ≠ '-' := isDigit_ne digit rfl
    have plus : first ≠ '+' := isDigit_ne digit rfl
    simp [ofText?, Decimal.sign, minus, plus, reads]

/-- A single is read back from its text. -/
theorem ofText?_plainText (x : Single) : ofText? x.plainText = some x := by
  cases x with
  | infinite negative => cases negative <;> decide +kernel
  | nan => decide +kernel
  | finite negative significand exponent canonical =>
    have equal := Decimal.toBinary_ofParts negative canonical
    have value := toBinary_shortestDecimal .away equal
    have reduced := reduced_shortestDecimal .away (.finite negative significand exponent canonical)
      (Decimal.reduced_ofParts negative significand exponent)
    rw [plainText]
    generalize shortestDecimal .away _ _ = d at value reduced
    obtain ⟨first, rest, text, digit⟩ := Decimal.exists_head_positional d.digits d.exponent
    obtain ⟨read, reads, same⟩ := Decimal.readUnsigned_positional .single d.negative reduced
    rw [text] at reads
    rw [d.positional_eq, text, ofText?_sign digit reads]
    exact congrArg some (same.trans value)

theorem plainText_injective : Function.Injective (plainText : Single → String) := by
  intro x y same
  have read := ofText?_plainText x
  rw [same, ofText?_plainText] at read
  exact (Option.some.inj read).symm

end Binary

end SearchQuery
