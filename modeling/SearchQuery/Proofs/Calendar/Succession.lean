import Mathlib.Data.List.Basic
import SearchQuery.Calendar.Instant

/-!
The order of days. From the midnight of a day to that of the next one are 86400000 milliseconds
(`Calendar.Instant.midnight_of_next`), and later days have later midnights
(`Calendar.Instant.midnight_lt_of_before`).
-/

namespace SearchQuery.Calendar

namespace Date

/-- The day after a day: in the same month, in the next month, or in the next year. -/
inductive Next : Date → Date → Prop
  | day {year : Int} {month day : Nat} (inside : day < daysInMonth year month) :
      Next ⟨year, month, day⟩ ⟨year, month, day + 1⟩
  | month {year : Int} {month : Nat} (inside : month < 12) :
      Next ⟨year, month, daysInMonth year month⟩ ⟨year, month + 1, 1⟩
  | year (year : Int) : Next ⟨year, 12, 31⟩ ⟨year + 1, 1, 1⟩

/-- The order by year, month and day. -/
inductive Before (first second : Date) : Prop
  | year (earlier : first.year < second.year)
  | month (same : first.year = second.year) (earlier : first.month < second.month)
  | day (same : first.year = second.year) (also : first.month = second.month)
      (earlier : first.day < second.day)

end Date

/-- A leap year has a day more. -/
theorem daysBeforeYear_succ (year : Int) :
    daysBeforeYear (year + 1) = daysBeforeYear year + if isLeapYear year then 366 else 365 := by
  simp only [daysBeforeYear, isLeapYear, Bool.and_eq_true, Bool.or_eq_true, decide_eq_true_eq]
  split <;> omega

theorem daysBeforeMonth_succ (year : Int) {month : Nat} (first : 1 ≤ month) :
    daysBeforeMonth year (month + 1) = daysBeforeMonth year month + daysInMonth year month := by
  obtain ⟨before, rfl⟩ := Nat.exists_eq_add_of_le' first
  simp [daysBeforeMonth, List.range'_1_concat, Nat.add_comm 1]

/-- Twelve months are a year. -/
theorem daysBeforeMonth_thirteen (year : Int) :
    (daysBeforeMonth year 13 : Int) = if isLeapYear year then 366 else 365 := by
  simp only [daysBeforeMonth, List.range', List.foldl, daysInMonth]
  split <;> rfl

private theorem daysBeforeYear_mono {first second : Int} (ordered : first ≤ second) :
    daysBeforeYear first ≤ daysBeforeYear second := by
  simp only [daysBeforeYear]
  omega

private theorem daysBeforeMonth_mono (year : Int) {first second : Nat} (start : 1 ≤ first)
    (ordered : first ≤ second) : daysBeforeMonth year first ≤ daysBeforeMonth year second := by
  induction ordered with
  | refl => exact Nat.le_refl _
  | step later ih =>
    rw [Nat.succ_eq_add_one, daysBeforeMonth_succ year (Nat.le_trans start later)]
    exact Nat.le_trans ih (Nat.le_add_right _ _)

namespace Date

variable {first second : Date}

theorem isValid_iff {date : Date} :
    date.isValid ↔ (firstYear ≤ date.year ∧ date.year ≤ lastYear) ∧
      (1 ≤ date.month ∧ date.month ≤ 12) ∧
        1 ≤ date.day ∧ date.day ≤ daysInMonth date.year date.month := by
  simp only [isValid, Bool.and_eq_true, decide_eq_true_eq, and_assoc]

private theorem one_le_daysInMonth (year : Int) (month : Nat) : 1 ≤ daysInMonth year month := by
  unfold daysInMonth
  split
  · split <;> decide
  all_goals decide

/-- The day after a day is a day, unless the calendar ends. -/
theorem Next.isValid (next : Next first second) (valid : first.isValid)
    (inside : second.year ≤ lastYear) : second.isValid := by
  obtain ⟨years, months, days⟩ := isValid_iff.mp valid
  rw [isValid_iff]
  cases next with
  | day more => exact ⟨years, months, Nat.le_add_left 1 _, more⟩
  | month more =>
    exact ⟨years, ⟨Nat.le_add_left 1 _, more⟩, Nat.le_refl 1, one_le_daysInMonth _ _⟩
  | year =>
    have january : 1 ≤ 1 ∧ 1 ≤ 12 := by decide
    exact ⟨⟨Int.le_add_one years.1, inside⟩, january, Nat.le_refl 1, one_le_daysInMonth _ _⟩

theorem dayNumber_of_next (next : Next first second) (valid : first.isValid) :
    second.dayNumber = first.dayNumber + 1 := by
  obtain ⟨-, ⟨start, -⟩, -⟩ := isValid_iff.mp valid
  cases next with
  | day =>
    simp only [dayNumber]
    omega
  | month =>
    simp only [dayNumber, daysBeforeMonth_succ _ start]
    omega
  | year year =>
    have last : daysBeforeMonth year 13 = daysBeforeMonth year 12 + 31 :=
      daysBeforeMonth_succ year start
    have whole := daysBeforeMonth_thirteen year
    have none : daysBeforeMonth (year + 1) 1 = 0 := rfl
    simp only [dayNumber, daysBeforeYear_succ]
    omega

/-- A month is over before the next one begins. -/
theorem daysBefore_lt {date : Date} (valid : date.isValid) :
    date.dayNumber < daysBeforeYear date.year - daysBeforeEpoch +
      daysBeforeMonth date.year (date.month + 1) := by
  obtain ⟨-, months, days⟩ := isValid_iff.mp valid
  rw [dayNumber, daysBeforeMonth_succ _ months.1]
  omega

theorem dayNumber_lt_of_before (before : Before first second) (valid : first.isValid)
    (also : second.isValid) : first.dayNumber < second.dayNumber := by
  obtain ⟨-, months, -⟩ := isValid_iff.mp valid
  obtain ⟨-, -, days⟩ := isValid_iff.mp also
  have within := daysBefore_lt valid
  cases before with
  | year earlier =>
    have years := daysBeforeYear_mono (Int.add_one_le_iff.mpr earlier)
    have rest : daysBeforeMonth first.year (first.month + 1) ≤ daysBeforeMonth first.year 13 :=
      daysBeforeMonth_mono first.year (Nat.le_add_left 1 _) (Nat.succ_le_succ months.2)
    have whole := daysBeforeMonth_thirteen first.year
    rw [daysBeforeYear_succ] at years
    simp only [dayNumber] at within ⊢
    omega
  | month same earlier =>
    have later := daysBeforeMonth_mono first.year (Nat.le_add_left 1 _) earlier
    simp only [dayNumber, ← same] at within ⊢
    omega
  | day same also earlier =>
    rw [dayNumber, dayNumber, same, also]
    omega

end Date

namespace Instant

variable {first second : Date}

theorem midnight_of_next (next : first.Next second) (valid : first.isValid) :
    (midnight second).millis = (midnight first).millis + 86400000 := by
  have day : millisPerDay = 86400000 := rfl
  have following := Date.dayNumber_of_next next valid
  simp only [midnight, day]
  omega

theorem midnight_lt_of_before (before : first.Before second) (valid : first.isValid)
    (also : second.isValid) : (midnight first).millis < (midnight second).millis := by
  have day : millisPerDay = 86400000 := rfl
  have earlier := Date.dayNumber_lt_of_before before valid also
  simp only [midnight, day]
  omega

end Instant

end SearchQuery.Calendar
