import SearchQuery.Json.Reader
import SearchQuery.Proofs.Number.Numerals

/-!
Scalars read back from their texts: numerals up to what ends them (`readNumber_append`), strings up
to and with the closing quote (`readString_flatMap`).
-/

namespace SearchQuery.Json

/-- No numeral goes on with this text. -/
def EndsNumeral (rest : List Char) : Prop :=
  ∀ c ∈ rest.head?, c.isDigit = false ∧ c ≠ '.' ∧ c ≠ 'e' ∧ c ≠ 'E'

private theorem readWhole_append {whole rest : List Char} (digits : WholeDigits whole)
    (ends : ∀ c ∈ rest.head?, c.isDigit = false) :
    readWhole (whole ++ rest) = .ok (whole, rest) := by
  rw [readWhole, Decimal.spanDigits_append digits.all ends]
  split
  · rename_i none
    exact absurd (Prod.mk.inj none).1 digits.nonempty
  · rename_i more others left zero
    nomatch digits.leading (more :: others) (Prod.mk.inj zero).1
  · rename_i same
    cases same
    rfl

private theorem readFraction_append {fraction rest : List Char} (point : FractionText fraction)
    (ends : ∀ c ∈ rest.head?, c.isDigit = false ∧ c ≠ '.') :
    readFraction (fraction ++ rest) = .ok (fraction, rest) := by
  cases point with
  | none =>
    rw [List.nil_append]
    cases rest with
    | nil => rfl
    | cons c rest =>
      have other := (ends c rfl).2
      rw [readFraction]
      rintro text ⟨⟩
      exact other rfl
  | @digits run digits =>
    rw [List.cons_append, readFraction,
      Decimal.spanDigits_append digits.all fun c head => (ends c head).1]
    split
    · rename_i none
      exact absurd (Prod.mk.inj none).1 digits.nonempty
    · rename_i same
      cases same
      rfl

private theorem readPower_append {power rest : List Char} (scale : PowerText power)
    (ends : EndsNumeral rest) : readPower (power ++ rest) = .ok (power, rest) := by
  cases scale with
  | none =>
    cases rest with
    | nil => rfl
    | cons c rest =>
      obtain ⟨_, _, lower, upper⟩ := ends c rfl
      simp [readPower, lower, upper]
  | @signed sign run signs digits =>
    have span := Decimal.spanDigits_append digits.all fun c head => (ends c head).1
    rw [List.cons_append, List.cons_append]
    rcases signs with rfl | rfl
    all_goals
      rw [readPower, if_pos (.inl rfl), span]
      split
      · rename_i none
        exact absurd (Prod.mk.inj none).1 digits.nonempty
      · rename_i same
        cases same
        rfl

/-- A numeral is read to its end. -/
theorem readNumber_append {text rest : List Char} (numeral : Numeral text)
    (ends : EndsNumeral rest) : readNumber (text ++ rest) = .ok (⟨text⟩, rest) := by
  obtain @⟨negative, whole, fraction, power, digits, point, scale⟩ := numeral
  have afterWhole : ∀ c ∈ (fraction ++ (power ++ rest)).head?, c.isDigit = false := by
    cases point with
    | digits _ => simp
    | none =>
      cases scale with
      | signed _ _ => simp
      | none => exact fun c head => (ends c head).1
  have afterFraction : ∀ c ∈ (power ++ rest).head?, c.isDigit = false ∧ c ≠ '.' := by
    cases scale with
    | signed _ _ => simp
    | none => exact fun c head => ⟨(ends c head).1, (ends c head).2.1⟩
  have parts := readWhole_append digits afterWhole
  have point := readFraction_append point afterFraction
  have scale := readPower_append scale ends
  cases negative with
  | true =>
    simp [readNumber, Decimal.sign, parts, point, scale, bind, Except.bind, pure, Except.pure]
  | false =>
    cases whole with
    | nil => exact absurd rfl digits.nonempty
    | cons first more =>
      have unsigned : first ≠ '-' := isDigit_ne (digits.all first List.mem_cons_self) rfl
      rw [List.cons_append] at parts
      simp [readNumber, Decimal.sign, unsigned, parts, point, scale, bind, Except.bind, pure,
        Except.pure]

theorem startsNumber_of_numeral {text : List Char} (numeral : Numeral text) :
    ∃ first rest, text = first :: rest ∧ startsNumber first := by
  obtain @⟨negative, whole, fraction, power, digits, _, _⟩ := numeral
  cases negative with
  | true => exact ⟨'-', whole ++ fraction ++ power, by simp [Decimal.sign], rfl⟩
  | false =>
    cases whole with
    | nil => exact absurd rfl digits.nonempty
    | cons first more =>
      have digit := digits.all first List.mem_cons_self
      exact ⟨first, more ++ fraction ++ power, by simp [Decimal.sign],
        by simp [startsNumber, digit]⟩

theorem startsNumber_ne {c other : Char} (starts : startsNumber c)
    (different : startsNumber other = false) : c ≠ other := by
  rintro rfl
  simp [different] at starts

theorem isSpace_of_startsNumber {c : Char} (starts : startsNumber c) : isSpace c = false := by
  simp [isSpace, startsNumber_ne starts (by rfl : startsNumber ' ' = false),
    startsNumber_ne starts (by rfl : startsNumber '\n' = false),
    startsNumber_ne starts (by rfl : startsNumber '\t' = false),
    startsNumber_ne starts (by rfl : startsNumber '\r' = false)]

namespace Number

theorem numeral_ofInt (n : Int) : Numeral (ofInt n).text := by
  have whole := Numeral.parts (decide (n < 0)) (wholeDigits_toDigits n.natAbs) .none .none
  rwa [List.append_nil, List.append_nil] at whole

private theorem isNegative_ofInt (n : Int) : (ofInt n).isNegative = decide (n < 0) := by
  by_cases negative : n < 0
  · simp [isNegative, ofInt, Decimal.sign, negative]
  · have digits := digitRun_toDigits n.natAbs
    cases text : Nat.toDigits 10 n.natAbs with
    | nil => exact absurd text digits.nonempty
    | cons first rest =>
      have unsigned : first ≠ '-' := isDigit_ne (digits.all first (by simp [text])) rfl
      simp [isNegative, ofInt, Decimal.sign, negative, text, unsigned]

private theorem whole_ofInt (n : Int) : (ofInt n).whole = (Nat.toDigits 10 n.natAbs, []) := by
  have unsigned : (if (ofInt n).isNegative then (ofInt n).text.tail else (ofInt n).text) =
      Nat.toDigits 10 n.natAbs := by
    rw [isNegative_ofInt]
    by_cases negative : n < 0
    · simp [ofInt, Decimal.sign, negative]
    · simp [ofInt, Decimal.sign, negative]
  have span := Decimal.spanDigits_append (digitRun_toDigits n.natAbs).all
    (by simp : ∀ c ∈ ([] : List Char).head?, c.isDigit = false)
  rw [whole, unsigned]
  rwa [List.append_nil] at span

/-- Whole numbers that 64 bits hold, with or without sign, are read as they were written. -/
theorem int?_ofInt {n : Int} (least : -(UInt64.size / 2 : Nat) ≤ n) (most : n < UInt64.size) :
    (ofInt n).int? = some n := by
  have magnitude : digitsValue (ofInt n).whole.1 = n.natAbs := by
    rw [whole_ofInt, digitsValue_toDigits]
  have isWhole : (ofInt n).isWhole := by
    rw [isWhole, whole_ofInt]
    rfl
  have size : UInt64.size = 18446744073709551616 := rfl
  simp only [int?, isWhole, isNegative_ofInt, magnitude, collectLimit]
  by_cases negative : n < 0
  · have bounds : 0 < n.natAbs ∧ n.natAbs ≤ UInt64.size / 2 := by omega
    have value : -(n.natAbs : Int) = n := by omega
    rw [if_neg (by decide), if_pos (decide_eq_true negative), if_pos bounds, value]
  · have bound : n.natAbs ≤ UInt64.size - 1 := by omega
    have value : (n.natAbs : Int) = n := by omega
    rw [if_neg (by decide), if_neg (by simpa using negative), if_pos bound, value]

end Number

section Strings

variable (strict : Bool)

private theorem extend_ok (c : Char) (chars rest : List Char) :
    extend (some c) (.ok (some chars, rest)) = .ok (some (c :: chars), rest) :=
  rfl

/-- The code units of controls fit two digits. -/
theorem numberIn?_control : ∀ n < 0x20,
    numberIn? 16 ['0', '0', Value.hexDigit (n / 16), Value.hexDigit (n % 16)] = some n ∧
      isLeading n = false ∧ isTrailing n = false := by
  decide

private theorem readString_stringChar (c : Char) (text : List Char) :
    readString strict none (Value.stringChar c ++ text) =
      extend (some c) (readString strict none text) := by
  unfold Value.stringChar
  split
  case h_8 =>
    rename_i quote backslash _ _ _ _ _
    split
    · rename_i control
      obtain ⟨unit, leading, trailing⟩ := numberIn?_control c.toNat control
      simp [readString, unit, leading, trailing, settle]
    · rename_i printed
      rw [List.singleton_append, readString, if_neg backslash, if_neg printed]
      · rfl
      · exact quote
      · exact fun _ _ _ _ _ same => absurd same backslash
      · exact fun _ _ same => absurd same backslash
  all_goals simp [readString, settle, simpleEscape?]

/-- A printed string is read to its end. -/
theorem readString_flatMap (chars rest : List Char) :
    readString strict none (chars.flatMap Value.stringChar ++ '"' :: rest) =
      .ok (some chars, rest) := by
  induction chars with
  | nil => rfl
  | cons c chars ih =>
    rw [List.flatMap_cons, List.append_assoc, readString_stringChar, ih, extend_ok]

end Strings

end SearchQuery.Json
