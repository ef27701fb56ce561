import Mathlib.Data.List.TakeDrop
import Mathlib.Data.List.TakeWhile
import SearchQuery.Calendar.Instant

/-!
What dates are written with: a text that is read as an instant has no characters but digits, blanks
and the marks between them (`Calendar.isDatePart_of_ofText?`).
-/

namespace SearchQuery.Calendar

/-- A digit, a blank or one of the marks of timestamps. -/
def isDatePart (c : Char) : Bool :=
  c.isDigit || Text.isBlank c || ['-', '+', '−', ':', '.', 'T', 't', 'Z', 'z'].contains c

/-- What a reader takes from the front of a text, if `rest` is what it leaves. -/
structure Takes (text rest : List Char) : Prop where
  exists_front : ∃ front, text = front ++ rest ∧ ∀ c ∈ front, isDatePart c

namespace Takes

variable {text middle rest : List Char}

theorem refl (text : List Char) : Takes text text :=
  ⟨[], rfl, nofun⟩

theorem trans (first : Takes text middle) (second : Takes middle rest) : Takes text rest := by
  obtain ⟨front, rfl, parts⟩ := first
  obtain ⟨next, rfl, others⟩ := second
  refine ⟨front ++ next, (List.append_assoc _ _ _).symm, ?_⟩
  exact List.forall_mem_append.mpr ⟨parts, others⟩

theorem cons {c : Char} (part : isDatePart c) (text : List Char) : Takes (c :: text) text :=
  ⟨[c], rfl, by simpa using part⟩

theorem all (taken : Takes text []) : ∀ c ∈ text, isDatePart c := by
  obtain ⟨front, rfl, parts⟩ := taken
  simpa using parts

theorem digits {front : List Char} (split : text = front ++ rest) (all : ∀ c ∈ front, c.isDigit) :
    Takes text rest :=
  ⟨front, split, fun c member => by simp [isDatePart, all c member]⟩

theorem readFixed {count n : Nat} (read : readFixed count text = some (n, rest)) :
    Takes text rest := by
  rw [Calendar.readFixed] at read
  split at read
  · rename_i fits
    cases read
    exact digits (List.take_append_drop count text).symm (List.all_eq_true.mp fits.2)
  · cases read

theorem readUpTo {limit n : Nat} (read : readUpTo limit text = some (n, rest)) :
    Takes text rest := by
  let run := (text.take limit).takeWhile Char.isDigit
  have leads : run <+: text :=
    (List.takeWhile_prefix _).trans (List.take_prefix limit text)
  have split : text = run ++ text.drop run.length := (List.prefix_iff_eq_append.mp leads).symm
  rw [Calendar.readUpTo] at read
  split at read
  · cases read
  · cases read
    exact digits split fun _ => List.mem_takeWhile_imp

theorem readChar {c : Char} (part : isDatePart c) (read : readChar c text = some rest) :
    Takes text rest := by
  cases text with
  | nil => cases read
  | cons first others =>
    rw [Calendar.readChar] at read
    split at read
    · rename_i same
      cases read
      exact same ▸ cons part _
    · cases read

/-- What stands between the date and the time. -/
theorem readMark
    (read : (Calendar.readChar 'T' text <|> Calendar.readChar 't' text <|>
      Calendar.readChar ' ' text) = some rest) :
    Takes text rest := by
  simp only [Option.orElse_eq_orElse, Option.orElse_eq_or, Option.or_eq_some_iff] at read
  rcases read with capital | ⟨_, small | ⟨_, blank⟩⟩
  · exact readChar rfl capital
  · exact readChar rfl small
  · exact readChar rfl blank

theorem readFraction {milli : Nat} (read : readFraction text = some (milli, rest)) :
    Takes text rest := by
  unfold Calendar.readFraction at read
  split at read
  · rename_i after
    split at read
    · cases read
    · rename_i run left _ span
      cases read
      rw [Decimal.spanDigits, List.span_eq_takeWhile_dropWhile] at span
      obtain ⟨rfl, rfl⟩ := Prod.mk.inj span
      have point : isDatePart '.' := rfl
      exact (cons point after).trans (digits List.takeWhile_append_dropWhile.symm
        fun _ => List.mem_takeWhile_imp)
  · cases read
    exact refl _

theorem readOffset {offset : Int} (read : readOffset text = some (offset, rest)) :
    Takes text rest := by
  cases text with
  | nil => cases read
  | cons sign text =>
    rw [Calendar.readOffset] at read
    split at read
    · rename_i utc
      cases read
      exact cons (by rcases utc with rfl | rfl <;> rfl) _
    · split at read
      · rename_i signed
        simp only [Option.bind_eq_bind, Option.bind_eq_some_iff, Prod.exists] at read
        obtain ⟨_, _, hours, _, colon, _, _, minutes, read⟩ := read
        have first : isDatePart sign := by rcases signed with rfl | rfl | rfl <;> rfl
        have taken := (cons first text).trans ((readFixed hours).trans
          ((readChar rfl colon).trans (readFixed minutes)))
        split at read
        · cases read
          exact taken
        · cases read
      · cases read

theorem readYear {year : Int} (read : readYear text = some (year, rest)) : Takes text rest := by
  unfold Calendar.readYear at read
  split at read
  all_goals
    obtain ⟨⟨_, _⟩, run, same⟩ := Option.map_eq_some_iff.mp read
    cases same
  · exact (cons rfl _).trans (readUpTo run)
  · exact (cons rfl _).trans (readUpTo run)
  · exact readUpTo run

theorem dropBlanks (text : List Char) : Takes text (Text.dropBlanks text) :=
  ⟨text.takeWhile Text.isBlank, List.takeWhile_append_dropWhile.symm, fun c member => by
    simp [isDatePart, List.mem_takeWhile_imp member]⟩

end Takes

private theorem isDatePart_of_readTimestamp {text : List Char} {instant : Instant}
    (read : readTimestamp text = some instant) : ∀ c ∈ text, isDatePart c := by
  obtain ⟨_, year, read⟩ := Option.bind_eq_some_iff.mp read
  obtain ⟨_, hyphen, read⟩ := Option.bind_eq_some_iff.mp read
  obtain ⟨_, month, read⟩ := Option.bind_eq_some_iff.mp read
  obtain ⟨_, second, read⟩ := Option.bind_eq_some_iff.mp read
  obtain ⟨_, day, read⟩ := Option.bind_eq_some_iff.mp read
  obtain ⟨_, mark, read⟩ := Option.bind_eq_some_iff.mp read
  obtain ⟨_, hours, read⟩ := Option.bind_eq_some_iff.mp read
  obtain ⟨_, colon, read⟩ := Option.bind_eq_some_iff.mp read
  obtain ⟨_, minutes, read⟩ := Option.bind_eq_some_iff.mp read
  obtain ⟨_, next, read⟩ := Option.bind_eq_some_iff.mp read
  obtain ⟨_, seconds, read⟩ := Option.bind_eq_some_iff.mp read
  obtain ⟨_, fraction, read⟩ := Option.bind_eq_some_iff.mp read
  obtain ⟨_, offset, read⟩ := Option.bind_eq_some_iff.mp read
  have date := (Takes.readFixed year).trans ((Takes.readChar rfl hyphen).trans
    ((Takes.readFixed month).trans ((Takes.readChar rfl second).trans (Takes.readFixed day))))
  have time := (Takes.readFixed hours).trans ((Takes.readChar rfl colon).trans
    ((Takes.readFixed minutes).trans ((Takes.readChar rfl next).trans
      ((Takes.readFixed seconds).trans (Takes.readFraction fraction)))))
  have taken := date.trans ((Takes.readMark mark).trans (time.trans (Takes.readOffset offset)))
  dsimp only at read
  split at read
  · rename_i valid
    simp only [Bool.and_eq_true] at valid
    rw [List.isEmpty_iff.mp valid.1.1] at taken
    exact taken.all
  · cases read

private theorem isDatePart_of_readDay {text : List Char} {date : Date}
    (read : readDay text = some date) : ∀ c ∈ text, isDatePart c := by
  simp only [readDay, Option.bind_eq_bind, Option.bind_eq_some_iff, Prod.exists] at read
  obtain ⟨_, _, year, _, hyphen, _, _, month, _, second, _, _, day, read⟩ := read
  have taken := (Takes.dropBlanks text).trans ((Takes.readYear year).trans
    ((Takes.readChar rfl hyphen).trans ((Takes.dropBlanks _).trans ((Takes.readUpTo month).trans
      ((Takes.readChar rfl second).trans ((Takes.dropBlanks _).trans (Takes.readUpTo day)))))))
  split at read
  · rename_i valid
    rw [List.isEmpty_iff.mp (Bool.and_eq_true_iff.mp valid).1] at taken
    exact taken.all
  · cases read

theorem isDatePart_of_ofText? {text : String} {instant : Instant}
    (read : Instant.ofText? text = some instant) : ∀ c ∈ text.toList, isDatePart c := by
  simp only [Instant.ofText?, Option.orElse_eq_orElse, Option.orElse_eq_or,
    Option.or_eq_some_iff] at read
  rcases read with timestamp | ⟨_, plain⟩
  · exact isDatePart_of_readTimestamp timestamp
  · obtain ⟨date, day, _⟩ := Option.map_eq_some_iff.mp plain
    exact isDatePart_of_readDay day

end SearchQuery.Calendar
