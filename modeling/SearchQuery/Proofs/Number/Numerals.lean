import Mathlib.Data.List.Basic
import Mathlib.Data.List.TakeDrop
import Mathlib.Tactic.ByContra
import Mathlib.Tactic.SplitIfs
import SearchQuery.Number.Numeral

/-!
What printed numerals look like: whole digits, a fraction and a power of ten
(`Binary.numeral_fractionalText`).
-/

namespace SearchQuery

/-- At least one digit. -/
structure DigitRun (run : List Char) : Prop where
  nonempty : run ≠ []
  all : ∀ c ∈ run, c.isDigit

/-- Digits of which the first is zero only if it is alone. -/
structure WholeDigits (whole : List Char) : Prop extends DigitRun whole where
  leading : ∀ rest, whole = '0' :: rest → rest = []

/-- A point and digits, or nothing. -/
inductive FractionText : List Char → Prop where
  | none : FractionText []
  | digits {run : List Char} (digits : DigitRun run) : FractionText ('.' :: run)

/-- A signed power of ten, or nothing. -/
inductive PowerText : List Char → Prop where
  | none : PowerText []
  | signed {sign : Char} {run : List Char} (signs : sign = '+' ∨ sign = '-')
      (digits : DigitRun run) : PowerText ('e' :: sign :: run)

inductive Numeral : List Char → Prop where
  | parts (negative : Bool) {whole fraction power : List Char} (digits : WholeDigits whole)
      (point : FractionText fraction) (scale : PowerText power) :
      Numeral (Decimal.sign negative ++ whole ++ fraction ++ power)

theorem DigitRun.append {first second : List Char} (left : DigitRun first)
    (right : ∀ c ∈ second, c.isDigit) : DigitRun (first ++ second) where
  nonempty := by simp [left.nonempty]
  all c member := (List.mem_append.mp member).elim (left.all c) (right c)

theorem isDigit_of_mem_zeros {n : Nat} {c : Char} (member : c ∈ zeros n) : c.isDigit := by
  rw [List.eq_of_mem_replicate member]
  rfl

theorem isDigit_ne {c other : Char} (digit : c.isDigit) (letter : other.isDigit = false) :
    c ≠ other := by
  rintro rfl
  simp [letter] at digit

/-- Digits end where something else follows. -/
theorem Decimal.spanDigits_append {digits rest : List Char} (all : ∀ c ∈ digits, c.isDigit)
    (ends : ∀ c ∈ rest.head?, c.isDigit = false) :
    spanDigits (digits ++ rest) = (digits, rest) := by
  have taken : rest.takeWhile Char.isDigit = [] := by
    cases rest with
    | nil => rfl
    | cons c rest => simp [ends c rfl]
  have left : rest.dropWhile Char.isDigit = rest := by
    cases rest with
    | nil => rfl
    | cons c rest => simp [ends c rfl]
  rw [spanDigits, List.span_eq_takeWhile_dropWhile, List.takeWhile_append_of_pos all,
    List.dropWhile_append_of_pos all, taken, left, List.append_nil]

section Digits

theorem digitsValue_toDigits (n : Nat) : digitsValue (Nat.toDigits 10 n) = n :=
  Nat.ofDigitChars_eq_foldl.symm.trans Nat.ofDigitChars_ten_toDigits

theorem digitRun_toDigits (n : Nat) : DigitRun (Nat.toDigits 10 n) where
  nonempty := Nat.toDigits_ne_nil
  all _ member := Nat.isDigit_of_mem_toDigits (by decide) (by decide) member

theorem head_toDigits_ne_zero {n : Nat} (positive : 0 < n) :
    (Nat.toDigits 10 n).head? ≠ some '0' := by
  induction n using Nat.strongRecOn with
  | ind n ih =>
    by_cases small : n < 10
    · rw [Nat.toDigits_of_lt_base small]
      have table : ∀ d < 10, 0 < d → d.digitChar ≠ '0' := by decide
      simpa using table n small positive
    · rw [Nat.toDigits_of_base_le (by decide) (Nat.le_of_not_lt small),
        List.head?_append_of_ne_nil _ Nat.toDigits_ne_nil]
      exact ih (n / 10) (by omega) (by omega)

theorem wholeDigits_toDigits (n : Nat) : WholeDigits (Nat.toDigits 10 n) where
  toDigitRun := digitRun_toDigits n
  leading rest zero := by
    by_cases positive : 0 < n
    · exact absurd (by rw [zero, List.head?_cons]) (head_toDigits_ne_zero positive)
    · obtain rfl : n = 0 := by omega
      exact (List.cons.inj zero).2.symm

private theorem pow_le_of_lt_digitCount {n power : Nat} (positive : 0 < n)
    (less : power < digitCount n) : Nat.pow 10 power ≤ n := by
  by_contra larger
  cases power with
  | zero => exact larger positive
  | succ power =>
    have short := (Nat.length_toDigits_le_iff (b := 10) (by decide) (Nat.succ_pos power)).mpr
      (Nat.lt_of_not_le larger)
    exact absurd short (Nat.not_le_of_lt less)

end Digits

namespace Decimal

/-- Zero has the power zero, so that no zeros are added to it. -/
def Reduced (d : Decimal) : Prop :=
  d.digits = 0 → d.exponent = 0

theorem reduced_ofParts (negative : Bool) (significand : Nat) (exponent : Int) :
    (ofParts negative significand exponent).Reduced := by
  intro zero
  by_cases none : significand = 0
  · rw [ofParts, if_pos none]
  · rw [ofParts, if_neg none] at zero
    split at zero
    · exact absurd zero (Nat.mul_ne_zero none (Nat.ne_of_gt (Nat.pow_pos (by decide))))
    · exact absurd zero (Nat.mul_ne_zero none (Nat.ne_of_gt (Nat.pow_pos (by decide))))

private theorem reduced_of_mem_neighbours {tie : TieRule} {d candidate : Decimal} {places : Nat}
    (reduced : d.Reduced) (member : candidate ∈ d.neighbours tie (places + 1)) :
    candidate.Reduced := by
  have below : Reduced ⟨d.negative, d.digits / Nat.pow 10 (digitCount d.digits - (places + 1)),
      d.exponent + ((digitCount d.digits - (places + 1) : Nat) : Int)⟩ := by
    intro none
    dsimp only at none ⊢
    by_cases zero : d.digits = 0
    · rw [reduced zero, zero]
      have single : digitCount 0 = 1 := rfl
      rw [single]
      omega
    · have counted : 0 < digitCount d.digits := Nat.length_toDigits_pos
      have fewer : digitCount d.digits - (places + 1) < digitCount d.digits := by omega
      have fits := pow_le_of_lt_digitCount (Nat.pos_of_ne_zero zero) fewer
      exact absurd none (Nat.ne_of_gt (Nat.div_pos fits (Nat.pow_pos (by decide))))
  have above : Reduced ⟨d.negative, d.digits / Nat.pow 10 (digitCount d.digits - (places + 1)) + 1,
      d.exponent + ((digitCount d.digits - (places + 1) : Nat) : Int)⟩ :=
    fun none => absurd none (Nat.succ_ne_zero _)
  simp only [neighbours] at member
  split_ifs at member
  all_goals rcases List.mem_pair.mp member with rfl | rfl <;> assumption

private theorem reduced_dropZeros {d : Decimal} (reduced : d.Reduced) (count : Nat) :
    (d.dropZeros count).Reduced := by
  induction count generalizing d with
  | zero => exact reduced
  | succ count ih =>
    rw [dropZeros]
    split
    · rename_i more
      refine ih ?_
      intro none
      dsimp only at none
      omega
    · exact reduced

end Decimal

theorem Binary.reduced_shortestDecimal {format : BinaryFormat} (tie : TieRule)
    (x : Binary format) {exact : Decimal} (reduced : exact.Reduced) :
    (x.shortestDecimal tie exact).Reduced := by
  rw [shortestDecimal]
  refine Decimal.reduced_dropZeros ?_ _
  cases found : (List.range enoughDigits).findSome? fun places =>
      (exact.neighbours tie (places + 1)).find? fun candidate => candidate.toBinary = x with
  | none => exact reduced
  | some candidate =>
    obtain ⟨places, _, first⟩ := List.exists_of_findSome?_eq_some found
    exact Decimal.reduced_of_mem_neighbours reduced (List.mem_of_find?_eq_some first)

namespace Decimal

/-- Without digits after the point, a positional numeral is a whole number. -/
theorem exists_positional_of_nonneg {d : Decimal} (reduced : d.Reduced) (whole : 0 ≤ d.exponent) :
    ∃ digits, WholeDigits digits ∧ d.positional = sign d.negative ++ digits := by
  refine ⟨Nat.toDigits 10 d.digits ++ zeros d.exponent.toNat, ?_, ?_⟩
  · refine ⟨(digitRun_toDigits _).append fun c => isDigit_of_mem_zeros, ?_⟩
    intro rest zero
    by_cases positive : 0 < d.digits
    · refine absurd ?_ (head_toDigits_ne_zero positive)
      rw [← List.head?_append_of_ne_nil _ Nat.toDigits_ne_nil, zero, List.head?_cons]
    · have none : d.digits = 0 := by omega
      rw [none, reduced none] at zero
      exact (List.cons.inj zero).2.symm
  · rw [positional, if_pos whole]

theorem exists_positional_of_neg {d : Decimal} (broken : d.exponent < 0) :
    ∃ whole run, WholeDigits whole ∧ DigitRun run ∧
      d.positional = sign d.negative ++ whole ++ '.' :: run := by
  have digits := wholeDigits_toDigits d.digits
  rw [positional, if_neg (Int.not_le.mpr broken)]
  generalize Nat.toDigits 10 d.digits = text at digits ⊢
  split
  · rename_i before
    have least : 0 < (d.exponent + text.length).toNat := by omega
    have most : (d.exponent + text.length).toNat < text.length := by omega
    generalize (d.exponent + text.length).toNat = count at least most ⊢
    refine ⟨text.take count, text.drop count, ⟨⟨?_, ?_⟩, ?_⟩, ⟨?_, ?_⟩,
      (List.append_assoc _ _ _).symm⟩
    · simp [List.take_eq_nil_iff, digits.nonempty, Nat.ne_of_gt least]
    · exact fun c member => digits.all c (List.mem_of_mem_take member)
    · intro rest zero
      have first : text = '0' :: (rest ++ text.drop count) := by
        rw [← List.cons_append, ← zero, List.take_append_drop]
      exact (List.append_eq_nil_iff.mp (digits.leading _ first)).1
    · simpa using most
    · exact fun c member => digits.all c (List.mem_of_mem_drop member)
  · refine ⟨['0'], zeros (-(d.exponent + text.length)).toNat ++ text, ?_, ⟨?_, ?_⟩, by simp⟩
    · exact ⟨⟨by simp, by simp⟩, fun rest zero => (List.cons.inj zero).2.symm⟩
    · simp [digits.nonempty]
    · intro c member
      exact (List.mem_append.mp member).elim isDigit_of_mem_zeros (digits.all c)

private theorem exists_scientific (d : Decimal) :
    ∃ whole fraction power, WholeDigits whole ∧ FractionText fraction ∧ PowerText power ∧
      d.scientific = sign d.negative ++ whole ++ fraction ++ power := by
  have digits := digitRun_toDigits d.digits
  have power : PowerText ('e' :: (if d.leadingPower < 0 then '-' else '+') ::
      Nat.toDigits 10 d.leadingPower.natAbs) :=
    .signed (by split <;> simp) (digitRun_toDigits _)
  have single {first : Char} (digit : first.isDigit) : WholeDigits [first] :=
    ⟨⟨by simp, by simpa using digit⟩, fun rest zero => (List.cons.inj zero).2.symm⟩
  rw [scientific]
  split
  · rename_i first second rest split
    rw [split] at digits
    refine ⟨[first], '.' :: second :: rest, _, single (digits.all first List.mem_cons_self),
      .digits ⟨by simp, ?_⟩, power, by simp⟩
    exact fun c member => digits.all c (List.mem_cons_of_mem first member)
  · rename_i short
    refine ⟨Nat.toDigits 10 d.digits, [], _, ?_, .none, power, by simp⟩
    cases text : Nat.toDigits 10 d.digits with
    | nil => exact absurd text digits.nonempty
    | cons first rest =>
      cases rest with
      | nil => exact single (digits.all first (by simp [text]))
      | cons second rest => exact absurd text (short first second rest)

end Decimal

/-- Whatever a finite number is written as with a point or an exponent, it is a numeral. -/
theorem Binary.numeral_fractionalText {format : BinaryFormat} {range : NumeralRange}
    {x : Binary format} {text : List Char} (written : x.fractionalText? range = some text) :
    Numeral text := by
  cases x with
  | infinite _ | nan => cases written
  | finite negative significand exponent canonical =>
    have reduced := reduced_shortestDecimal .even (.finite negative significand exponent canonical)
      (Decimal.reduced_ofParts negative significand exponent)
    simp only [fractionalText?] at written
    generalize shortestDecimal .even _ _ = d at written reduced
    split at written
    · cases written
      by_cases broken : d.exponent < 0
      · obtain ⟨whole, run, digits, point, same⟩ := d.exists_positional_of_neg broken
        have pointed : d.positional.contains '.' := by simp [same]
        rw [if_pos pointed, same, ← List.append_nil (_ ++ _)]
        exact .parts _ digits (.digits point) .none
      · obtain ⟨whole, digits, same⟩ :=
          d.exists_positional_of_nonneg reduced (Int.not_lt.mp broken)
        rw [same]
        split
        · simpa using Numeral.parts d.negative digits .none .none
        · have point : DigitRun ['0'] := ⟨by simp, by simp⟩
          simpa using Numeral.parts d.negative digits (.digits point) .none
    · cases written
      obtain ⟨whole, fraction, power, digits, point, scale, same⟩ := d.exists_scientific
      rw [same]
      exact .parts _ digits point scale

end SearchQuery
