import Mathlib.Data.List.TakeWhile
import SearchQuery.Calendar.Instant
import SearchQuery.Proofs.Number.Numerals

/-!
How far the calendar reaches: the milliseconds of every instant that can be read have at most 53
bits (`Calendar.Instant.natAbs_millis_lt`).
-/

namespace SearchQuery

private theorem digitValue_lt {c : Char} (digit : c.isDigit) : c.toNat - '0'.toNat < 10 := by
  simp only [Char.isDigit, Bool.and_eq_true, decide_eq_true_eq, ge_iff_le,
    UInt32.le_iff_toNat_le] at digit
  have same : c.toNat = c.val.toNat := rfl
  have limits : '0'.toNat = 48 ∧ '9'.val.toNat = 57 := ⟨rfl, rfl⟩
  omega

private theorem digitsValue_lt {digits : List Char} (all : ∀ c ∈ digits, c.isDigit) :
    digitsValue digits < Nat.pow 10 digits.length := by
  -- From any value on, since the digits read so far move up with each digit.
  have step (value : Nat) : digits.foldl (fun value digit => 10 * value +
      (digit.toNat - '0'.toNat)) value < (value + 1) * 10 ^ digits.length := by
    induction digits generalizing value with
    | nil => simp
    | cons digit rest ih =>
      have last := digitValue_lt (all digit List.mem_cons_self)
      have others := ih (fun c member => all c (List.mem_cons_of_mem digit member))
        (10 * value + (digit.toNat - '0'.toNat))
      rw [List.foldl_cons, List.length_cons, Nat.pow_succ, Nat.mul_comm _ 10, ← Nat.mul_assoc]
      exact Nat.lt_of_lt_of_le others (Nat.mul_le_mul_right _ (by omega))
  simpa only [digitsValue, Nat.zero_add, Nat.one_mul, Nat.pow_eq] using step 0

namespace Calendar

private theorem daysInMonth_le (year : Int) (month : Nat) : daysInMonth year month ≤ 31 := by
  unfold daysInMonth
  split
  · split <;> decide
  all_goals decide

private theorem daysBeforeMonth_le (year : Int) (month : Nat) :
    daysBeforeMonth year month ≤ 31 * (month - 1) := by
  have step (months : List Nat) (days : Nat) :
      months.foldl (fun days month => days + daysInMonth year month) days ≤
        days + 31 * months.length := by
    induction months generalizing days with
    | nil => simp
    | cons month rest ih =>
      have first := daysInMonth_le year month
      have others := ih (days + daysInMonth year month)
      rw [List.foldl_cons, List.length_cons]
      omega
  simpa [daysBeforeMonth] using step (List.range' 1 (month - 1)) 0

theorem Date.natAbs_dayNumber_le {date : Date} (valid : date.isValid) :
    date.dayNumber.natAbs ≤ 100000000 := by
  simp only [Date.isValid, Bool.and_eq_true, decide_eq_true_eq] at valid
  have months := daysBeforeMonth_le date.year date.month
  have days := daysInMonth_le date.year date.month
  have years : firstYear = -262143 ∧ lastYear = 262142 := ⟨rfl, rfl⟩
  have epoch : daysBeforeEpoch = 719162 := by decide
  simp only [dayNumber, epoch, daysBeforeYear]
  omega

theorem natAbs_midnight_le {date : Date} (valid : date.isValid) :
    (Instant.midnight date).millis.natAbs ≤ 8640000000000000 := by
  have days := date.natAbs_dayNumber_le valid
  simp only [Instant.midnight, Instant.millisPerDay]
  omega

private theorem TimeOfDay.millis_lt {time : TimeOfDay} (valid : time.isValid)
    (fraction : time.milli < 1000) : 0 ≤ time.millis ∧ time.millis < 86461000 := by
  simp only [TimeOfDay.isValid, Bool.and_eq_true, decide_eq_true_eq] at valid
  simp only [TimeOfDay.millis]
  omega

private theorem readFraction_lt {text rest : List Char} {milli : Nat}
    (read : readFraction text = some (milli, rest)) : milli < 1000 := by
  unfold readFraction at read
  split at read
  · rename_i after
    split at read
    · cases read
    · rename_i digits left _ split
      cases read
      have all : ∀ c ∈ (digits ++ zeros 3).take 3, c.isDigit := by
        intro c member
        rcases List.mem_append.mp (List.mem_of_mem_take member) with own | zero
        · have first : digits = after.takeWhile Char.isDigit := by
            rw [Decimal.spanDigits, List.span_eq_takeWhile_dropWhile] at split
            exact (Prod.mk.inj split).1.symm
          rw [first] at own
          exact List.mem_takeWhile_imp own
        · exact isDigit_of_mem_zeros zero
      have short : ((digits ++ zeros 3).take 3).length ≤ 3 := List.length_take_le _ _
      exact Nat.lt_of_lt_of_le (digitsValue_lt all) (Nat.pow_le_pow_right (by decide) short)
  · cases read
    decide

private theorem natAbs_readOffset_lt {text rest : List Char} {offset : Int}
    (read : readOffset text = some (offset, rest)) : offset.natAbs < 1440 := by
  cases text with
  | nil => cases read
  | cons sign text =>
    rw [readOffset] at read
    split at read
    · cases read
      decide
    · split at read
      · simp only [Option.bind_eq_bind, Option.bind_eq_some_iff, Prod.exists] at read
        obtain ⟨hours, _, _, _, _, minutes, _, _, read⟩ := read
        split at read
        · rename_i small
          split at read
          · cases read
            omega
          · cases read
            omega
        · cases read
      · cases read

theorem natAbs_readTimestamp_lt {text : List Char} {instant : Instant}
    (read : readTimestamp text = some instant) : instant.millis.natAbs < Nat.pow 2 53 := by
  have limit : Nat.pow 2 53 = 9007199254740992 := rfl
  -- Year, month, day, hour, minute and second count only through the checks at the end.
  obtain ⟨⟨year, _⟩, _, read⟩ := Option.bind_eq_some_iff.mp read
  obtain ⟨_, _, read⟩ := Option.bind_eq_some_iff.mp read
  obtain ⟨⟨month, _⟩, _, read⟩ := Option.bind_eq_some_iff.mp read
  obtain ⟨_, _, read⟩ := Option.bind_eq_some_iff.mp read
  obtain ⟨⟨day, _⟩, _, read⟩ := Option.bind_eq_some_iff.mp read
  obtain ⟨_, _, read⟩ := Option.bind_eq_some_iff.mp read
  obtain ⟨⟨hour, _⟩, _, read⟩ := Option.bind_eq_some_iff.mp read
  obtain ⟨_, _, read⟩ := Option.bind_eq_some_iff.mp read
  obtain ⟨⟨minute, _⟩, _, read⟩ := Option.bind_eq_some_iff.mp read
  obtain ⟨_, _, read⟩ := Option.bind_eq_some_iff.mp read
  obtain ⟨⟨second, _⟩, _, read⟩ := Option.bind_eq_some_iff.mp read
  obtain ⟨⟨milli, _⟩, fraction, read⟩ := Option.bind_eq_some_iff.mp read
  obtain ⟨⟨offset, _⟩, zone, read⟩ := Option.bind_eq_some_iff.mp read
  have few := readFraction_lt fraction
  have near := natAbs_readOffset_lt zone
  dsimp only at read
  split at read
  · rename_i valid
    simp only [Bool.and_eq_true] at valid
    cases read
    have day := natAbs_midnight_le valid.1.2
    have time := TimeOfDay.millis_lt valid.2 few
    dsimp only at day time ⊢
    omega
  · cases read

theorem isValid_of_readDay {text : List Char} {date : Date} (read : readDay text = some date) :
    date.isValid := by
  simp only [readDay, Option.bind_eq_bind, Option.bind_eq_some_iff, Prod.exists] at read
  obtain ⟨_, _, _, _, _, _, _, _, _, _, _, _, _, read⟩ := read
  split at read
  · rename_i valid
    cases read
    exact (Bool.and_eq_true_iff.mp valid).2
  · cases read

/-- The milliseconds of an instant that is read are exact as a double. -/
theorem Instant.natAbs_millis_lt {text : String} {instant : Instant}
    (read : ofText? text = some instant) : instant.millis.natAbs < Nat.pow 2 53 := by
  simp only [ofText?, Option.orElse_eq_orElse, Option.orElse_eq_or, Option.or_eq_some_iff] at read
  rcases read with timestamp | ⟨_, plain⟩
  · exact natAbs_readTimestamp_lt timestamp
  · obtain ⟨date, day, rfl⟩ := Option.map_eq_some_iff.mp plain
    have near := natAbs_midnight_le (isValid_of_readDay day)
    have limit : Nat.pow 2 53 = 9007199254740992 := rfl
    omega

end Calendar

end SearchQuery
