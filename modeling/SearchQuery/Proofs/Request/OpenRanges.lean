import SearchQuery.Proofs.Request.EntryText

/-!
Comparisons with numbers and dates, and ranges with one end open. Either has an effect exactly if
its value is read, and the two have the same one (`open_range_is_comparison`).
-/

namespace SearchQuery

open Draft (OrderedKind numericKind dateKind)

/-- An end of a range that is not bounded: blank, or a star. -/
def IsOpen (part : String) : Prop :=
  Text.trim part = "" ∨ Text.trim part = "*"

/-- The texts of ranges that are bounded by a value on one side, and the comparison that goes with
this side. An upper end that is open need not be written. -/
inductive OneBound (value : String) : FilterOperator → String → Prop
  | lower {part : String} (unbounded : IsOpen part) : OneBound value .gte (value ++ "," ++ part)
  | lowerAlone : OneBound value .gte value
  | upper {part : String} (unbounded : IsOpen part) : OneBound value .lte (part ++ "," ++ value)

theorem IsOpen.comma_notMem {part : String} (unbounded : IsOpen part) : ',' ∉ part.toList := by
  intro member
  rcases Text.mem_trim_or_isBlank member with inner | blank
  · rcases unbounded with blank | star
    · rw [blank] at inner
      cases inner
    · rw [star] at inner
      exact absurd inner (by decide)
  · exact absurd blank (by decide)

section Values

variable {lower upper : String}

private theorem split_of_comma_notMem (absent : ',' ∉ lower.toList) :
    Text.split (· == ',') lower = [lower] :=
  Text.split_of_free fun _ member => beq_eq_false_iff_ne.mpr (ne_of_mem_of_not_mem member absent)

private theorem readValues_range_single (absent : ',' ∉ lower.toList) :
    FilterDescriptor.readValues .range lower = [Text.trim lower] := by
  rw [FilterDescriptor.readValues, split_of_comma_notMem absent, List.map_singleton]

private theorem readValues_range_pair (below : ',' ∉ lower.toList) (above : ',' ∉ upper.toList) :
    FilterDescriptor.readValues .range (lower ++ "," ++ upper) =
      [Text.trim lower, Text.trim upper] := by
  have mark : "," = String.singleton ',' := rfl
  have cut : Text.split (· == ',') (lower ++ String.singleton ',' ++ upper) =
      Text.split (· == ',') lower ++ Text.split (· == ',') upper :=
    Text.split_append rfl lower upper
  rw [FilterDescriptor.readValues, mark, cut, split_of_comma_notMem below,
    split_of_comma_notMem above]
  rfl

end Values

section Bounds

variable {α : Type} {read : String → Except QueryError α} {part : String}

private theorem readBound_of_isOpen (unbounded : IsOpen part) :
    readBound read (some (Text.trim part)) = .ok none := by
  simp only [readBound, Option.map_some, Text.trim_trim]
  exact if_pos unbounded

private theorem readBound_of_not_isOpen (bounded : ¬ IsOpen part) :
    readBound read (some (Text.trim part)) = (read (Text.trim part)).map some := by
  simp only [readBound, Option.map_some, Text.trim_trim]
  exact if_neg bounded

end Bounds

/-- Whether a text is read, and as what, does not hang on the blanks around it. -/
def Draft.OrderedKind.IgnoresBlanks {α : Type} (kind : OrderedKind α) : Prop :=
  ∀ text value, kind.read (Text.trim text) = .ok value ↔ kind.read text = .ok value

theorem numericKind_ignoresBlanks : numericKind.IgnoresBlanks := by
  intro text value
  dsimp only [numericKind]
  rw [readNumeric_eq_ok_iff, readNumeric_eq_ok_iff, Text.trim_trim]

theorem dateKind_ignoresBlanks : dateKind.IgnoresBlanks := by
  intro text value
  dsimp only [dateKind]
  rw [readDate_eq_ok_iff, readDate_eq_ok_iff, Text.trim_trim]

namespace Draft

variable {α : Type} {kind : OrderedKind α} {value : String}

/-- A comparison comes to a filter once its value is read. -/
theorem applyOrdered_comparison {operator : FilterOperator}
    (order : operator ∈ [.gt, .gte, .lt, .lte]) (filled : value ≠ "") (draft : Draft)
    (field : String) :
    draft.applyOrdered kind ⟨field, operator, [value]⟩ = (kind.read value).map fun bound =>
      draft.compare ⟨field, kind.filterValue bound, operator.comparator⟩ := by
  have single : FilterDescriptor.singleValue ⟨field, operator, [value]⟩ = .ok value :=
    FilterDescriptor.singleValue_eq_ok_iff.mpr ⟨filled, [], rfl⟩
  cases operator
  case gt | gte | lt | lte =>
    simp only [applyOrdered_eq, single, Except.ok_bind]
    rfl
  all_goals exact absurd order (by decide)

/-- A range with one bound comes to the same filter once its bound is read. -/
theorem applyOrdered_oneBound {operator : FilterOperator} {text : String}
    (bound : OneBound value operator text) (single : ',' ∉ value.toList) (bounded : ¬ IsOpen value)
    (draft : Draft) (field : String) :
    draft.applyOrdered kind ⟨field, .range, FilterDescriptor.readValues .range text⟩ =
      (kind.read (Text.trim value)).map fun bound =>
        draft.compare ⟨field, kind.filterValue bound, operator.comparator⟩ := by
  have closed : readBound kind.read (some (Text.trim value)) =
      (kind.read (Text.trim value)).map some :=
    readBound_of_not_isOpen bounded
  cases bound with
  | lower unbounded =>
    rw [readValues_range_pair single unbounded.comma_notMem]
    simp only [applyOrdered_eq, List.getElem?_cons_zero, List.getElem?_cons_succ, closed,
      readBound_of_isOpen unbounded]
    cases kind.read (Text.trim value) <;> rfl
  | lowerAlone =>
    rw [readValues_range_single single]
    simp only [applyOrdered_eq, List.getElem?_cons_zero, List.getElem?_cons_succ, closed]
    cases kind.read (Text.trim value) <;> rfl
  | upper unbounded =>
    rw [readValues_range_pair unbounded.comma_notMem single]
    simp only [applyOrdered_eq, List.getElem?_cons_zero, List.getElem?_cons_succ, closed,
      readBound_of_isOpen unbounded]
    cases kind.read (Text.trim value) <;> rfl

/-- On a field of any kind: on text neither is applied. -/
theorem applyFilter_oneBound_iff {operator : FilterOperator} {text : String}
    (bound : OneBound value operator text) (single : ',' ∉ value.toList) (bounded : ¬ IsOpen value)
    (fieldKind : FieldKind) (draft : Draft) (field : String) (step : Step) :
    draft.applyFilter fieldKind ⟨field, .range, FilterDescriptor.readValues .range text⟩ =
        .ok step ↔
      draft.applyFilter fieldKind ⟨field, operator, [value]⟩ = .ok step := by
  have order : operator ∈ [.gt, .gte, .lt, .lte] := by cases bound <;> decide
  have filled : value ≠ "" := by
    rintro rfl
    exact bounded (.inl (Text.trim_of_free nofun))
  have ordered {α : Type} {kind : OrderedKind α} (blanks : kind.IgnoresBlanks) :
      draft.applyOrdered kind ⟨field, .range, FilterDescriptor.readValues .range text⟩ =
          .ok step ↔
        draft.applyOrdered kind ⟨field, operator, [value]⟩ = .ok step := by
    simp only [applyOrdered_oneBound bound single bounded, applyOrdered_comparison order filled,
      Except.map_eq_ok_iff, blanks value]
  cases fieldKind with
  | numeric => exact ordered numericKind_ignoresBlanks
  | date => exact ordered dateKind_ignoresBlanks
  | text | keyword =>
    refine iff_of_false nofun ?_
    cases bound <;> exact nofun

end Draft

/-- A range with one bound is applied exactly if the comparison with this bound is, and does the
same to every draft, with the same warnings. -/
theorem open_range_is_comparison {field value text : String} {operator : FilterOperator}
    (plain : ':' ∉ field.toList) (single : ',' ∉ value.toList) (bounded : ¬ IsOpen value)
    (bound : OneBound value operator text) {range name : String}
    (ranges : FilterOperator.range.Written range) (compares : operator.Written name)
    (schema : Schema) (draft : Draft) (step : Step) :
    Request.applyEntry schema draft (entryText field range text) = .ok step ↔
      Request.applyEntry schema draft (entryText field name value) = .ok step := by
  have others : FilterDescriptor.readValues operator value = [value] := by cases bound <;> rfl
  have rangeCut := cuts_entryText plain ranges.colon_notMem text
  have comparisonCut := cuts_entryText plain compares.colon_notMem value
  by_cases named : FilterDescriptor.isFieldName (Text.trim field)
  · rw [Request.applyEntry_of_cuts rangeCut named ranges,
      Request.applyEntry_of_cuts comparisonCut named compares, others]
    cases schema.fieldKind? (Text.trim field) with
    | none => rfl
    | some kind => exact Draft.applyFilter_oneBound_iff bound single bounded kind draft _ step
  · rw [Request.applyEntry_of_refuses (.fieldName rangeCut named),
      Request.applyEntry_of_refuses (.fieldName comparisonCut named)]

/-- A draft with a filter, which gives way to another one with a warning. -/
def filteredDraft : Draft :=
  (Draft.root false).setFilter ⟨"stock", .flag true, .eq⟩

/-- Blanks around the value and the star do not matter. -/
theorem open_range_is_comparison_price :
    ∃ step, Request.applyEntry shopSchema filteredDraft "price:GTE: 5 " = .ok step ∧
      step.draft.filter = some ⟨"price", .number (.ofInt 5), .gte⟩ ∧
      step.warnings = [.replacedFilter "price" "stock"] ∧
      Request.applyEntry shopSchema filteredDraft "price:range: 5 , *" = .ok step := by
  have shape : (Request.applyEntry shopSchema filteredDraft "price:GTE: 5 ").toOption.map
      (fun step => (step.draft.filter, step.warnings)) =
        some (some ⟨"price", .number (.ofInt 5), .gte⟩, [.replacedFilter "price" "stock"]) := by
    decide +kernel
  have bounded : ¬ IsOpen " 5 " := by
    have value : Text.trim " 5 " = "5" := by decide +kernel
    rw [IsOpen, value]
    decide
  have star : Text.trim " *" = "*" := by decide +kernel
  have capitals : FilterOperator.gte.Written "GTE" :=
    ⟨"gte", .gte, String.toList_inj.mp (by simp [Text.asciiLowercase])⟩
  cases applied : Request.applyEntry shopSchema filteredDraft "price:GTE: 5 " with
  | error _ =>
    rw [applied] at shape
    cases shape
  | ok step =>
    rw [applied] at shape
    obtain ⟨filter, warnings⟩ := Prod.mk.inj (Option.some.inj shape)
    have plain : ':' ∉ "price".toList := by decide
    have range : FilterOperator.range.Written "range" := ⟨"range", .range, rfl⟩
    have same := open_range_is_comparison plain (by decide) bounded (.lower (.inr star)) range
      capitals shopSchema filteredDraft step
    exact ⟨step, rfl, filter, warnings, same.mpr applied⟩

end SearchQuery
