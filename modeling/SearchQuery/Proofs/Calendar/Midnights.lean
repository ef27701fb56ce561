import SearchQuery.Proofs.Calendar.Succession
import SearchQuery.Proofs.Request.Verdict

/-!
Plain days and timestamps. A plain day is read as its midnight in UTC, which timestamps with any
offset can name as well (`plain_days_are_midnights`).
-/

namespace SearchQuery

/-- A number in so many digits, with zeros in front of short ones. -/
def fixedDigits : Nat → Nat → List Char
  | 0, _ => []
  | count + 1, n => fixedDigits count (n / 10) ++ [Nat.digitChar (n % 10)]

private theorem length_fixedDigits (count n : Nat) : (fixedDigits count n).length = count := by
  induction count generalizing n with
  | zero => rfl
  | succ count ih => rw [fixedDigits, List.length_append, ih, List.length_singleton]

private theorem isDigit_of_mem_fixedDigits {count n : Nat} {c : Char}
    (member : c ∈ fixedDigits count n) : c.isDigit := by
  induction count generalizing n with
  | zero => cases member
  | succ count ih =>
    rcases List.mem_append.mp member with front | last
    · exact ih front
    · rw [List.mem_singleton.mp last, Nat.isDigit_digitChar]
      exact decide_eq_true (Nat.mod_lt n (by decide))

private theorem digitsValue_fixedDigits {count n : Nat} (fits : n < Nat.pow 10 count) :
    digitsValue (fixedDigits count n) = n := by
  induction count generalizing n with
  | zero => exact (Nat.lt_one_iff.mp fits).symm
  | succ count ih =>
    have whole : Nat.pow 10 (count + 1) = 10 * Nat.pow 10 count := Nat.mul_comm _ _
    have front := ih (Nat.div_lt_of_lt_mul (whole ▸ fits))
    have zero : '0'.toNat = 48 := rfl
    rw [digitsValue] at front
    rw [digitsValue, fixedDigits, List.foldl_append, front, List.foldl_cons, List.foldl_nil, zero,
      Nat.toNat_digitChar_sub_48_of_lt_ten (Nat.mod_lt n (by decide)), Nat.div_add_mod]

theorem Text.isBlank_of_isDigit {c : Char} (digit : c.isDigit) : isBlank c = false := by
  simp only [Char.isDigit, Bool.and_eq_true, decide_eq_true_eq] at digit
  have bounds : 48 ≤ c.toNat ∧ c.toNat ≤ 57 := digit
  exact isBlank_of_ascii (by omega) (by omega)

private theorem isBlank_of_mem_fixedDigits {count n : Nat} :
    ∀ c ∈ fixedDigits count n, Text.isBlank c = false := fun _ member =>
  Text.isBlank_of_isDigit (isDigit_of_mem_fixedDigits member)

namespace Calendar

/-- A day in four digits, two digits and two digits, be it in the calendar or not. -/
structure WrittenDay where
  year : Fin 10000
  month : Fin 100
  day : Fin 100
deriving DecidableEq, Repr

/-- An offset from UTC in two digits and two digits, which is less than a day. -/
structure Offset where
  sign : Char
  signed : sign = '+' ∨ sign = '-' ∨ sign = '−'
  hours : Fin 24
  minutes : Fin 60
deriving DecidableEq, Repr

namespace WrittenDay

def date (day : WrittenDay) : Date :=
  ⟨day.year.val, day.month, day.day⟩

def chars (day : WrittenDay) : List Char :=
  fixedDigits 4 day.year ++ '-' :: (fixedDigits 2 day.month ++ '-' :: fixedDigits 2 day.day)

def text (day : WrittenDay) : String :=
  String.ofList day.chars

end WrittenDay

namespace Offset

/-- The offset in minutes, positive to the east. -/
def total (offset : Offset) : Int :=
  let minutes : Int := offset.hours * 60 + offset.minutes
  if offset.sign = '+' then minutes else -minutes

def chars (offset : Offset) : List Char :=
  offset.sign :: (fixedDigits 2 offset.hours ++ ':' :: fixedDigits 2 offset.minutes)

def text (offset : Offset) : String :=
  String.ofList offset.chars

end Offset

section Readers

variable {count n : Nat}

theorem readFixed_fixedDigits (fits : n < Nat.pow 10 count) (rest : List Char) :
    readFixed count (fixedDigits count n ++ rest) = some (n, rest) := by
  have length := length_fixedDigits count n
  have all : (fixedDigits count n).all Char.isDigit :=
    List.all_eq_true.mpr fun _ => isDigit_of_mem_fixedDigits
  rw [readFixed, List.take_left' length, List.drop_left' length, digitsValue_fixedDigits fits]
  exact if_pos ⟨length, all⟩

private theorem readUpTo_fixedDigits (positive : count ≠ 0) (fits : n < Nat.pow 10 count)
    (rest : List Char) : readUpTo count (fixedDigits count n ++ rest) = some (n, rest) := by
  have length := length_fixedDigits count n
  have run : (fixedDigits count n).takeWhile Char.isDigit = fixedDigits count n :=
    List.takeWhile_eq_self_iff.mpr fun _ => isDigit_of_mem_fixedDigits
  have filled : (fixedDigits count n).isEmpty = false := by
    rw [List.isEmpty_eq_false_iff, ← List.length_pos_iff, length]
    exact Nat.pos_of_ne_zero positive
  simp only [readUpTo, List.take_left' length, run, filled, List.drop_left,
    digitsValue_fixedDigits fits]
  rfl

private theorem exists_fixedDigits_eq_cons (positive : count ≠ 0) (n : Nat) :
    ∃ first others, fixedDigits count n = first :: others ∧ first.isDigit := by
  cases digits : fixedDigits count n with
  | nil => exact absurd (digits ▸ length_fixedDigits count n).symm positive
  | cons first others =>
    exact ⟨first, others, rfl, isDigit_of_mem_fixedDigits (digits ▸ List.mem_cons_self)⟩

private theorem dropBlanks_fixedDigits (positive : count ≠ 0) (rest : List Char) :
    Text.dropBlanks (fixedDigits count n ++ rest) = fixedDigits count n ++ rest := by
  obtain ⟨first, others, same, digit⟩ := exists_fixedDigits_eq_cons positive n
  rw [same, Text.dropBlanks, List.cons_append, List.dropWhile_cons_of_neg]
  simp [Text.isBlank_of_isDigit digit]

private theorem readChar_cons (c : Char) (rest : List Char) : readChar c (c :: rest) = some rest :=
  if_pos rfl

private theorem readYear_fixedDigits (fits : n < Nat.pow 10 4) (rest : List Char) :
    readYear (fixedDigits 4 n ++ rest) = some ((n : Int), rest) := by
  have read := readUpTo_fixedDigits (by decide) fits rest
  obtain ⟨first, others, same, digit⟩ := exists_fixedDigits_eq_cons (by decide : 4 ≠ 0) n
  rw [same] at read
  rw [same]
  unfold readYear
  split
  · rename_i minus
    cases (List.cons.inj minus).1
    cases digit
  · rename_i plus
    cases (List.cons.inj plus).1
    cases digit
  · rw [read]
    rfl

private theorem readOffset_chars (offset : Offset) :
    readOffset offset.chars = some (offset.total, []) := by
  obtain ⟨sign, signed, hours, minutes⟩ := offset
  have hour (rest : List Char) :
      readFixed 2 (fixedDigits 2 hours ++ rest) = some (hours.val, rest) :=
    readFixed_fixedDigits (Nat.lt_trans hours.isLt (by decide)) rest
  have minute : readFixed 2 (fixedDigits 2 minutes) = some (minutes.val, []) := by
    simpa using readFixed_fixedDigits (Nat.lt_trans minutes.isLt (by decide : 60 < Nat.pow 10 2)) []
  have utc : ¬ (sign = 'Z' ∨ sign = 'z') := by rcases signed with rfl | rfl | rfl <;> decide
  have small : hours.val ≤ 23 ∧ minutes.val ≤ 59 :=
    ⟨Nat.le_of_lt_succ hours.isLt, Nat.le_of_lt_succ minutes.isLt⟩
  simp only [Offset.chars, readOffset, if_neg utc, if_pos signed, hour, minute, readChar_cons,
    Option.bind_eq_bind, Option.bind_some, if_pos small, Offset.total]

/-- What is read as an offset does not go on with a fraction. -/
private theorem readFraction_of_readOffset {zone : List Char} {offset : Int} {rest : List Char}
    (read : readOffset zone = some (offset, rest)) : readFraction zone = some (0, zone) := by
  unfold readFraction
  split
  · cases read
  · rfl

end Readers

namespace WrittenDay

variable (day : WrittenDay)

private theorem readFixed_year (rest : List Char) :
    readFixed 4 (fixedDigits 4 day.year ++ rest) = some (day.year.val, rest) :=
  readFixed_fixedDigits day.year.isLt rest

private theorem readFixed_month (rest : List Char) :
    readFixed 2 (fixedDigits 2 day.month ++ rest) = some (day.month.val, rest) :=
  readFixed_fixedDigits day.month.isLt rest

private theorem readFixed_day (rest : List Char) :
    readFixed 2 (fixedDigits 2 day.day ++ rest) = some (day.day.val, rest) :=
  readFixed_fixedDigits day.day.isLt rest

/-- A timestamp does not end after the day. -/
theorem readTimestamp_chars : readTimestamp day.chars = none := by
  have last := day.readFixed_day []
  rw [List.append_nil] at last
  -- one part after the other, since simp would go through all that follows at each of them
  refine (Option.bind_of_eq_some (day.readFixed_year _) _).trans ?_
  refine (Option.bind_of_eq_some (readChar_cons '-' _) _).trans ?_
  refine (Option.bind_of_eq_some (day.readFixed_month _) _).trans ?_
  refine (Option.bind_of_eq_some (readChar_cons '-' _) _).trans ?_
  refine (Option.bind_of_eq_some last _).trans ?_
  rfl

theorem readTimestamp_midnight {zone : List Char} {offset : Int}
    (read : readOffset zone = some (offset, [])) (valid : day.date.isValid) :
    readTimestamp (day.chars ++ ("T00:00:00".toList ++ zone)) =
      some ⟨(Instant.midnight day.date).millis - offset * 60000⟩ := by
  have zeros (rest : List Char) : readFixed 2 ('0' :: '0' :: rest) = some (0, rest) := rfl
  have start : TimeOfDay.isValid ⟨0, 0, 0, 0⟩ = true ∧ TimeOfDay.millis ⟨0, 0, 0, 0⟩ = 0 := by
    decide
  have checked : (([] : List Char).isEmpty && day.date.isValid &&
      TimeOfDay.isValid ⟨0, 0, 0, 0⟩) = true := by
    rw [valid, start.1]
    rfl
  rw [chars, List.append_assoc, List.cons_append, List.append_assoc, List.cons_append]
  refine (Option.bind_of_eq_some (day.readFixed_year _) _).trans ?_
  refine (Option.bind_of_eq_some (readChar_cons '-' _) _).trans ?_
  refine (Option.bind_of_eq_some (day.readFixed_month _) _).trans ?_
  refine (Option.bind_of_eq_some (readChar_cons '-' _) _).trans ?_
  refine (Option.bind_of_eq_some (day.readFixed_day _) _).trans ?_
  refine (Option.bind_of_eq_some (by rfl) _).trans ?_
  refine (Option.bind_of_eq_some (zeros _) _).trans ?_
  refine (Option.bind_of_eq_some (readChar_cons ':' _) _).trans ?_
  refine (Option.bind_of_eq_some (zeros _) _).trans ?_
  refine (Option.bind_of_eq_some (readChar_cons ':' _) _).trans ?_
  refine (Option.bind_of_eq_some (zeros _) _).trans ?_
  refine (Option.bind_of_eq_some (readFraction_of_readOffset read) _).trans ?_
  refine (Option.bind_of_eq_some read _).trans ?_
  refine (if_pos checked).trans ?_
  rw [start.2, Int.add_zero]
  rfl

theorem readDay_chars :
    readDay day.chars = if day.date.isValid then some day.date else none := by
  have year (rest : List Char) : readYear (fixedDigits 4 day.year ++ rest) =
      some ((day.year.val : Int), rest) :=
    readYear_fixedDigits day.year.isLt rest
  have month (rest : List Char) : readUpTo 2 (fixedDigits 2 day.month ++ rest) =
      some (day.month.val, rest) :=
    readUpTo_fixedDigits (by decide) day.month.isLt rest
  have last : readUpTo 2 (fixedDigits 2 day.day ++ []) = some (day.day.val, []) :=
    readUpTo_fixedDigits (by decide) day.day.isLt []
  have blanks {count n : Nat} (positive : count ≠ 0) :
      Text.dropBlanks (fixedDigits count n) = fixedDigits count n := by
    simpa using dropBlanks_fixedDigits positive []
  rw [List.append_nil] at last
  simp only [chars, readDay, dropBlanks_fixedDigits (show 4 ≠ 0 by decide), year, readChar_cons,
    dropBlanks_fixedDigits (show 2 ≠ 0 by decide), month, blanks (show 2 ≠ 0 by decide), last,
    Option.bind_eq_bind, Option.bind_some, List.isEmpty_nil, Bool.true_and]
  rfl

theorem ofText?_text : Instant.ofText? day.text =
    if day.date.isValid then some (.midnight day.date) else none := by
  rw [Instant.ofText?, text, String.toList_ofList, readTimestamp_chars, readDay_chars]
  split <;> rfl

theorem ofText?_midnight {zone : String} {offset : Int}
    (read : readOffset zone.toList = some (offset, [])) (valid : day.date.isValid) :
    Instant.ofText? (day.text ++ "T00:00:00" ++ zone) =
      some ⟨(Instant.midnight day.date).millis - offset * 60000⟩ := by
  have timestamp := day.readTimestamp_midnight read valid
  rw [Instant.ofText?, String.toList_append, String.toList_append, text, String.toList_ofList,
    List.append_assoc, timestamp]
  rfl

private theorem isBlank_of_mem_text : ∀ c ∈ day.text.toList, Text.isBlank c = false := by
  have hyphen : Text.isBlank '-' = false := by decide
  simp only [text, String.toList_ofList, chars, List.forall_mem_append, List.forall_mem_cons]
  exact ⟨isBlank_of_mem_fixedDigits, hyphen, isBlank_of_mem_fixedDigits, hyphen,
    isBlank_of_mem_fixedDigits⟩

private theorem year_le_lastYear : day.date.year ≤ lastYear := by
  have digits := day.year.isLt
  have last : lastYear = 262142 := rfl
  simp only [date]
  omega

end WrittenDay

private theorem Offset.isBlank_of_mem_text (offset : Offset) :
    ∀ c ∈ offset.text.toList, Text.isBlank c = false := by
  have mark : Text.isBlank offset.sign = false ∧ Text.isBlank ':' = false := by
    rcases offset.signed with plus | minus | longMinus
    · exact plus ▸ by decide
    · exact minus ▸ by decide
    · exact longMinus ▸ by decide
  simp only [text, String.toList_ofList, chars, List.forall_mem_append, List.forall_mem_cons]
  exact ⟨mark.1, isBlank_of_mem_fixedDigits, mark.2, isBlank_of_mem_fixedDigits⟩

end Calendar

open Calendar

section Dates

variable (day : WrittenDay) {before after : String}

private theorem readDate_surrounded (valid : day.date.isValid)
    (ahead : ∀ c ∈ before.toList, Text.isBlank c) (behind : ∀ c ∈ after.toList, Text.isBlank c) :
    readDate (before ++ day.text ++ after) = .ok (.midnight day.date) := by
  rw [readDate_eq_ok_iff, Text.trim_surrounded ahead day.isBlank_of_mem_text behind,
    day.ofText?_text, if_pos valid]

theorem readDate_text (valid : day.date.isValid) :
    readDate day.text = .ok (.midnight day.date) := by
  rw [readDate_eq_ok_iff, Text.trim_of_free day.isBlank_of_mem_text, day.ofText?_text, if_pos valid]

theorem readDate_of_not_isValid (missing : ¬ day.date.isValid)
    (ahead : ∀ c ∈ before.toList, Text.isBlank c) (behind : ∀ c ∈ after.toList, Text.isBlank c) :
    readDate (before ++ day.text ++ after) = .error (.invalidRequest (.date day.text)) := by
  have inner := Text.trim_surrounded ahead day.isBlank_of_mem_text behind
  have unread : Instant.ofText? (Text.trim (before ++ day.text ++ after)) = none := by
    rw [inner, day.ofText?_text, if_neg missing]
  have refused := dateKind_readsAs.rejects (.date unread)
  rw [inner] at refused
  dsimp only [Draft.dateKind] at refused
  exact refused

theorem readDate_midnight (valid : day.date.isValid) {zone : String} {offset : Int}
    (read : readOffset zone.toList = some (offset, []))
    (free : ∀ c ∈ zone.toList, Text.isBlank c = false) :
    readDate (day.text ++ "T00:00:00" ++ zone) =
      .ok ⟨(Instant.midnight day.date).millis - offset * 60000⟩ := by
  have time : ∀ c ∈ "T00:00:00".toList, Text.isBlank c = false :=
    Text.free_of_all (by decide +kernel)
  have whole : ∀ c ∈ (day.text ++ "T00:00:00" ++ zone).toList, Text.isBlank c = false := by
    simp only [String.toList_append, List.forall_mem_append]
    exact ⟨⟨day.isBlank_of_mem_text, time⟩, free⟩
  rw [readDate_eq_ok_iff, Text.trim_of_free whole, day.ofText?_midnight read valid]

end Dates

/-- A day in eight digits, between blanks or not, is read as the midnight that begins it in UTC, and
so is the timestamp of this midnight. A midnight elsewhere is read as that instant less the offset.
The next day is read as an instant a day later, and any later day as a later instant. Eight digits
without a day in the calendar are refused. -/
theorem plain_days_are_midnights (day : WrittenDay) {before after : String}
    (ahead : ∀ c ∈ before.toList, Text.isBlank c) (behind : ∀ c ∈ after.toList, Text.isBlank c) :
    (day.date.isValid →
      readDate (before ++ day.text ++ after) = .ok (.midnight day.date) ∧
      readDate (day.text ++ "T00:00:00Z") = .ok (.midnight day.date) ∧
      (∀ offset : Offset, readDate (day.text ++ "T00:00:00" ++ offset.text) =
        .ok ⟨(Instant.midnight day.date).millis - offset.total * 60000⟩) ∧
      ∀ later : WrittenDay,
        (day.date.Next later.date →
          readDate later.text = .ok ⟨(Instant.midnight day.date).millis + 86400000⟩) ∧
        (later.date.isValid → day.date.Before later.date → ∃ instant,
          readDate later.text = .ok instant ∧
            (Instant.midnight day.date).millis < instant.millis)) ∧
    (¬ day.date.isValid →
      readDate (before ++ day.text ++ after) = .error (.invalidRequest (.date day.text))) := by
  refine ⟨fun valid => ⟨?_, ?_, fun offset => ?_, fun later => ⟨fun next => ?_, ?_⟩⟩,
    fun missing => readDate_of_not_isValid day missing ahead behind⟩
  · exact readDate_surrounded day valid ahead behind
  · have utc : readOffset "Z".toList = some (0, []) := rfl
    have letter : ∀ c ∈ "Z".toList, Text.isBlank c = false := Text.free_of_all (by decide)
    have joined : day.text ++ "T00:00:00Z" = day.text ++ "T00:00:00" ++ "Z" := by
      rw [String.append_assoc]
      rfl
    rw [joined, readDate_midnight day valid utc letter, Int.zero_mul, Int.sub_zero]
  · have zone : readOffset offset.text.toList = some (offset.total, []) := by
      rw [Offset.text, String.toList_ofList, readOffset_chars]
    exact readDate_midnight day valid zone offset.isBlank_of_mem_text
  · have following := next.isValid valid later.year_le_lastYear
    rw [readDate_text later following, ← Instant.midnight_of_next next valid]
  · exact fun also earlier =>
      ⟨_, readDate_text later also, Instant.midnight_lt_of_before earlier valid also⟩

/-- A leap day and the day after it, midnight in another place, and a day that its year lacks. -/
theorem plain_days_are_midnights_leap_day :
    readDate " 2024-02-29 " = .ok ⟨1709164800000⟩ ∧
      readDate "2024-02-29T00:00:00Z" = .ok ⟨1709164800000⟩ ∧
      readDate "2024-02-29T00:00:00+05:30" = .ok ⟨1709145000000⟩ ∧
      readDate "2024-03-01" = .ok ⟨1709251200000⟩ ∧
      readDate "2023-02-29" = .error (.invalidRequest (.date "2023-02-29")) := by
  have blank : ∀ c ∈ " ".toList, Text.isBlank c := List.all_eq_true.mp (by decide +kernel)
  have none : ∀ c ∈ "".toList, Text.isBlank c := nofun
  have texts : WrittenDay.text ⟨2024, 2, 29⟩ = "2024-02-29" ∧
      WrittenDay.text ⟨2024, 3, 1⟩ = "2024-03-01" ∧
        WrittenDay.text ⟨2023, 2, 29⟩ = "2023-02-29" := by
    decide +kernel
  have valid : (WrittenDay.date ⟨2024, 2, 29⟩).isValid := by decide
  have missing : ¬ (WrittenDay.date ⟨2023, 2, 29⟩).isValid := by decide
  have start : Instant.midnight (WrittenDay.date ⟨2024, 2, 29⟩) = ⟨1709164800000⟩ := by
    decide +kernel
  have next : (WrittenDay.date ⟨2024, 2, 29⟩).Next (WrittenDay.date ⟨2024, 3, 1⟩) :=
    .month (by decide)
  obtain ⟨plain, utc, offsets, later⟩ :=
    (plain_days_are_midnights ⟨2024, 2, 29⟩ blank blank).1 valid
  have refused := (plain_days_are_midnights ⟨2023, 2, 29⟩ none none).2 missing
  have elsewhere := offsets ⟨'+', .inl rfl, 5, 30⟩
  have following := (later ⟨2024, 3, 1⟩).1 next
  rw [texts.1, start] at plain utc elsewhere
  rw [texts.2.1, start] at following
  rw [texts.2.2] at refused
  exact ⟨plain, utc, elsewhere, following, refused⟩

end SearchQuery
