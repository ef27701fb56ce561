import SearchQuery.Proofs.Rendering.Forms
import SearchQuery.Proofs.Rendering.RangeClauses
import SearchQuery.Proofs.Rendering.Segments

/-!
What a filter expression says, apart from how a backend writes it: the ranges of the tree, depth
first, and then the search's own filter. Numbers and flags in it stand bare, as runs of letters,
digits, signs and points (`Literal.Printed`).
-/

namespace SearchQuery

open Rendering

/-- What one clause of a filter expression says. -/
inductive FilterPart where
  | range (field : String) (lower upper : Literal) (sense : RangeSense)
  | comparison (field : String) (comparator : Comparator) (literal : Literal)
deriving DecidableEq

/-- The text of a literal, be it quoted or not. -/
def Literal.content : Literal → String
  | .number digits => digits
  | .text value => value

/-- A flag stands bare, as a number does. -/
def FilterValue.literal : FilterValue → Literal
  | .flag value => .number (if value then "true" else "false")
  | .number value => .number value.exactText
  | .text value => .text value

def Range.part (range : Range) : FilterPart :=
  .range range.field range.lower range.upper range.sense

def Filter.part (filter : Filter) : FilterPart :=
  .comparison filter.field filter.comparator filter.value.literal

namespace Search

/-- The ranges of the tree, depth first, and the filter. -/
def filterParts (search : Search) : List FilterPart :=
  search.query.toQuery.ranges.map Range.part ++ search.filter.toList.map Filter.part

/-- The fields of ranges and filter have names that need no escaping. -/
structure NamesFields (search : Search) : Prop where
  ranges : ∀ range ∈ search.query.toQuery.ranges, FilterDescriptor.isFieldName range.field
  filter : ∀ filter ∈ search.filter, FilterDescriptor.isFieldName filter.field

end Search

/-- What numbers and flags are written with. -/
def isNumberPart (c : Char) : Bool :=
  c.isAlphanum || c == '-' || c == '.'

private theorem toNat_lt_of_isNumberPart {c : Char} (part : isNumberPart c) : c.toNat < 128 := by
  simp only [isNumberPart, Bool.or_eq_true, beq_iff_eq] at part
  rcases part with (letter | rfl) | rfl
  · delta Char.isAlphanum Char.isAlpha Char.isUpper Char.isLower Char.isDigit at letter
    simp only [Bool.or_eq_true, Bool.and_eq_true, decide_eq_true_eq, UInt32.le_iff_toNat_le,
      ge_iff_le] at letter
    have same : c.toNat = c.val.toNat := rfl
    have last : 'z'.val.toNat = 122 ∧ 'Z'.val.toNat = 90 ∧ '9'.val.toNat = 57 := ⟨rfl, rfl, rfl⟩
    omega
  · decide
  · decide

/-- What holds of the parts of numbers can be looked up among the first characters. -/
theorem holds_of_isNumberPart {holds : Char → Bool}
    (table : ∀ n < 128, isNumberPart (Char.ofNat n) → holds (Char.ofNat n)) {c : Char}
    (part : isNumberPart c) : holds c := by
  have found := table c.toNat (toNat_lt_of_isNumberPart part)
  rw [Char.ofNat_toNat] at found
  exact found part

/-- A text that can stand without quotes. -/
structure Bare (text : String) : Prop where
  filled : text.toList ≠ []
  parts : ∀ c ∈ text.toList, isNumberPart c

private theorem bare_of_all {text : String} (filled : text.toList ≠ [])
    (parts : text.toList.all isNumberPart) : Bare text :=
  ⟨filled, List.all_eq_true.mp parts⟩

/-- A literal as it comes from a number, a flag or a text. -/
inductive Literal.Printed : Literal → Prop
  | number {digits : String} (bare : Bare digits) : Printed (.number digits)
  | text (value : String) : Printed (.text value)

private theorem isNumberPart_of_isDigit {c : Char} (digit : c.isDigit) : isNumberPart c := by
  simp [isNumberPart, Char.isAlphanum, digit]

theorem bare_natText (n : Nat) : Bare (toString n) := by
  rw [Nat.toString_eq_ofList_toDigits]
  constructor
  · rw [String.toList_ofList]
    exact Nat.toDigits_ne_nil
  · intro c member
    rw [String.toList_ofList] at member
    exact isNumberPart_of_isDigit (Nat.isDigit_of_mem_toDigits (by decide) (by decide) member)

private theorem bare_minus {text : String} (bare : Bare text) : Bare ("-" ++ text) where
  filled := by simp
  parts c member := by
    rw [String.toList_append, List.mem_append] at member
    rcases member with minus | member
    · rw [List.mem_singleton.mp minus]
      rfl
    · exact bare.parts c member

theorem bare_intText (n : Int) : Bare (toString n) := by
  cases n with
  | ofNat n => exact bare_natText n
  | negSucc n => exact bare_minus (bare_natText (n + 1))

private theorem Decimal.positional_ne_nil (d : Decimal) : d.positional ≠ [] := by
  rw [positional]
  intro empty
  obtain ⟨-, empty⟩ := List.append_eq_nil_iff.mp empty
  split at empty
  · exact Nat.toDigits_ne_nil (List.append_eq_nil_iff.mp empty).1
  · split at empty
    · exact List.cons_ne_nil _ _ (List.append_eq_nil_iff.mp empty).2
    · cases empty

section Floats

variable {format : BinaryFormat}

theorem bare_plainText (x : Binary format) : Bare x.plainText := by
  have words : Bare "inf" ∧ Bare "-inf" ∧ Bare "NaN" :=
    ⟨bare_of_all (by simp) rfl, bare_of_all (by simp) rfl, bare_of_all (by simp) rfl⟩
  unfold Binary.plainText
  split
  · constructor
    · rw [String.toList_ofList]
      exact Decimal.positional_ne_nil _
    · intro c member
      rw [String.toList_ofList] at member
      rcases Decimal.mem_positional member with digit | rfl | rfl
      · exact isNumberPart_of_isDigit digit
      · rfl
      · rfl
  · split
    · exact words.2.1
    · exact words.1
  · exact words.2.2

theorem bare_exactText (x : Binary format) : Bare x.exactText := by
  cases x with
  | infinite negative =>
    have word : Bare (Binary.infinite negative : Binary format).plainText := bare_plainText _
    exact word
  | nan =>
    have word : Bare (Binary.nan : Binary format).plainText := bare_plainText _
    exact word
  | finite negative significand exponent canonical =>
    simp only [Binary.exactText]
    split
    · rename_i whole _
      have digits := bare_natText whole
      rw [Nat.toString_eq_ofList_toDigits] at digits
      rw [String.ofList_append]
      cases negative with
      | false => simpa [Decimal.sign] using digits
      | true => exact bare_minus digits
    · exact bare_plainText _

end Floats

theorem Interval.printed_bounds (interval : Interval) :
    interval.bounds.1.Printed ∧ interval.bounds.2.Printed := by
  cases interval with
  | int lower upper => exact ⟨.number (bare_intText _), .number (bare_intText _)⟩
  | long lower upper => exact ⟨.number (bare_intText _), .number (bare_intText _)⟩
  | double lower upper => exact ⟨.number (bare_exactText _), .number (bare_exactText _)⟩
  | text lower upper => exact ⟨.text lower, .text upper⟩

theorem FilterValue.printed_literal (value : FilterValue) : value.literal.Printed := by
  cases value with
  | flag value =>
    have words : Bare "true" ∧ Bare "false" :=
      ⟨bare_of_all (by simp) rfl, bare_of_all (by simp) rfl⟩
    cases value with
    | false => exact .number words.2
    | true => exact .number words.1
  | number value => exact .number (bare_exactText value)
  | text value => exact .text value

/-- Whatever else a rendering writes, its filter joins the clauses of the ranges and the filter. -/
theorem Rendering.Dialect.filter_of_render_eq_ok {dialect : Dialect} {search : Search}
    {rendered : Rendered} (done : dialect.render search = .ok rendered) :
    rendered.filter = dialect.connective.intercalate
      (search.query.toQuery.ranges.map dialect.rangeClause ++
        search.filter.toList.map dialect.filterClause) := by
  rw [render, write_eq, checked] at done
  split at done
  · cases done
  · cases done
    rfl

/-- If every range and the filter are written as their parts, the filter expression is written as
the parts of the search. -/
theorem Search.joined_filterParts {α : Type} {form : Form α} {reading : FilterPart → α}
    {search : Search} (dialect : Dialect)
    (ranges : ∀ range ∈ search.query.toQuery.ranges,
      form (reading range.part) (dialect.rangeClause range).toList)
    (filter : ∀ filter ∈ search.filter,
      form (reading filter.part) (dialect.filterClause filter).toList) :
    Form.Joined dialect.connective.toList form (search.filterParts.map reading)
      (dialect.connective.intercalate
        (search.query.toQuery.ranges.map dialect.rangeClause ++
          search.filter.toList.map dialect.filterClause)).toList := by
  refine Form.Joined.intercalate ?_
  rw [filterParts, List.map_append, List.map_map, List.map_map]
  refine List.rel_append ?_ ?_
  · rw [List.forall₂_map_left_iff, List.forall₂_map_right_iff, List.forall₂_same]
    exact ranges
  · rw [List.forall₂_map_left_iff, List.forall₂_map_right_iff, List.forall₂_same]
    simpa using filter

end SearchQuery
