import SearchQuery.Proofs.Calendar.Characters
import SearchQuery.Proofs.Request.FilterNumbers
import SearchQuery.Proofs.Request.OpenRanges

/-!
One numeral for a date, wherever it stands in a filter expression: ranges have whole numbers for
bounds and comparisons doubles, but no digit differs (`dates_have_one_numeral`).
-/

namespace SearchQuery

open Rendering
open Draft (dateKind)

/-- Entries that look for one value, or for all on one side of it. A side is also looked for by a
range with one bound. -/
inductive Seeks (field value : String) : FilterOperator → String → Prop
  | single {operator : FilterOperator} (order : operator ∈ [.eq, .gt, .gte, .lt, .lte])
      {name : String} (written : operator.Written name) :
      Seeks field value operator (entryText field name value)
  | range {operator : FilterOperator} {text : String} (bound : OneBound value operator text)
      {name : String} (written : FilterOperator.range.Written name) :
      Seeks field value operator (entryText field name text)

/-- What backends are asked for with a numeral in place of the value. Equality is a range from the
numeral to itself. -/
inductive Backend.NumeralClause (field numeral : String) : Backend → FilterOperator → String → Prop
  | azureEq : NumeralClause field numeral .azure .eq
      ("(" ++ field ++ " ge " ++ numeral ++ " and " ++ field ++ " le " ++ numeral ++ ")")
  | azureGt : NumeralClause field numeral .azure .gt (field ++ " gt " ++ numeral)
  | azureGte : NumeralClause field numeral .azure .gte (field ++ " ge " ++ numeral)
  | azureLt : NumeralClause field numeral .azure .lt (field ++ " lt " ++ numeral)
  | azureLte : NumeralClause field numeral .azure .lte (field ++ " le " ++ numeral)
  | solrEq : NumeralClause field numeral .solr .eq
      (field ++ ":[" ++ numeral ++ " TO " ++ numeral ++ "]")
  | solrGt : NumeralClause field numeral .solr .gt (field ++ ":\x7b" ++ numeral ++ " TO *]")
  | solrGte : NumeralClause field numeral .solr .gte (field ++ ":[" ++ numeral ++ " TO *]")
  | solrLt : NumeralClause field numeral .solr .lt (field ++ ":[* TO " ++ numeral ++ "\x7d")
  | solrLte : NumeralClause field numeral .solr .lte (field ++ ":[* TO " ++ numeral ++ "]")

/-- What a filter expression joins: the clauses of all ranges and that of the filter. -/
def Rendering.Dialect.filterClauses (dialect : Dialect) (search : Search) : List String :=
  search.query.toQuery.ranges.map dialect.rangeClause ++
    search.filter.toList.map dialect.filterClause

/-- The filter expression of the later draft has this clause more. One clause may be gone for it,
and all others stay where they are. -/
def Backend.Puts (backend : Backend) (before after : Draft) (clause : String) : Prop :=
  ∃ front replaced back done,
    backend.dialect.filterClauses before.build = front ++ replaced ++ back ∧
      replaced.length ≤ 1 ∧ backend.dialect.render after.build = .ok done ∧
      done.filter = backend.dialect.connective.intercalate (front ++ clause :: back)

section Dates

variable {text : String} {instant : Calendar.Instant}

private theorem isDatePart_of_readDate (read : readDate text = .ok instant) :
    ∀ c ∈ text.toList, Calendar.isDatePart c := by
  intro c member
  rcases Text.mem_trim_or_isBlank member with inner | blank
  · exact Calendar.isDatePart_of_ofText? (readDate_eq_ok_iff.mp read) c inner
  · simp [Calendar.isDatePart, blank]

private theorem notMem_of_readDate (read : readDate text = .ok instant) {c : Char}
    (other : Calendar.isDatePart c = false) : c ∉ text.toList := fun member =>
  Bool.false_ne_true (other.symm.trans (isDatePart_of_readDate read c member))

/-- No date is blank or a star. -/
private theorem not_isOpen_of_readDate (read : readDate text = .ok instant) : ¬ IsOpen text := by
  have parsed := readDate_eq_ok_iff.mp read
  have none : Calendar.Instant.ofText? "" = none ∧ Calendar.Instant.ofText? "*" = none := by decide
  rintro (blank | star)
  · rw [blank, none.1] at parsed
    cases parsed
  · rw [star, none.2] at parsed
    cases parsed

private theorem trim_ne_empty_of_readDate (read : readDate text = .ok instant) :
    Text.trim text ≠ "" :=
  fun blank => not_isOpen_of_readDate read (.inl blank)

private theorem ne_empty_of_readDate (read : readDate text = .ok instant) : text ≠ "" := by
  rintro rfl
  exact trim_ne_empty_of_readDate read (Text.trim_of_free nofun)

private theorem readValues_eq_of_readDate (read : readDate text = .ok instant) :
    FilterDescriptor.readValues .eq text = [Text.trim text] := by
  have filled := trim_ne_empty_of_readDate read
  have free : ∀ c ∈ text.toList, (c == '|' || c == ',') = false := by
    intro c member
    have bar : c ≠ '|' := ne_of_mem_of_not_mem member (notMem_of_readDate read (by decide))
    have comma : c ≠ ',' := ne_of_mem_of_not_mem member (notMem_of_readDate read (by decide))
    simp [bar, comma]
  rw [FilterDescriptor.readValues, Text.split_of_free free]
  simp [filled]

end Dates

namespace Draft

theorem applyOrdered_point {α : Type} {kind : OrderedKind α} {value : String} (filled : value ≠ "")
    (draft : Draft) (field : String) :
    draft.applyOrdered kind ⟨field, .eq, [value]⟩ = (kind.read value).map fun point =>
      ⟨draft.addRange field (kind.interval point point) { occur := .always }, []⟩ := by
  have single : FilterDescriptor.singleValue ⟨field, .eq, [value]⟩ = .ok value :=
    FilterDescriptor.singleValue_eq_ok_iff.mpr ⟨filled, [], rfl⟩
  simp only [applyOrdered_eq, single, Except.ok_bind]
  rfl

end Draft

/-- Without new groups, new ranges stand after those of the clauses and before those of the groups,
and a new filter takes the place of any other. -/
theorem Draft.GrowsTo.filterClauses_build {before after : Draft} {additions : Additions}
    (grows : before.GrowsTo after additions) (flat : additions.groups = []) (dialect : Dialect) :
    ∃ front nested,
      dialect.filterClauses before.build =
        front ++ nested ++ before.effectiveFilter.toList.map dialect.filterClause ∧
      dialect.filterClauses after.build =
        front ++ (Query.allRanges additions.clauses).map dialect.rangeClause ++ nested ++
          (additions.filter.or before.effectiveFilter).toList.map dialect.filterClause := by
  obtain ⟨entries, stored, queries, _⟩ := grows.clauses
  obtain ⟨groups, same, offers⟩ := grows.groups
  rw [flat] at offers
  cases offers
  rw [List.append_nil] at same
  have clauses : after.clauses.queries = before.clauses.queries ++ additions.clauses := by
    rw [Clauses.queries, stored, List.map_append, queries]
    rfl
  have children (draft : Draft) : draft.build.query.toQuery.ranges =
      Query.allRanges draft.clauses.queries ++ Query.allRanges (groupQueries draft.groups) := by
    simp only [Query.allRanges_eq_flatMap, ← List.flatMap_append, ← children_eq]
    exact Query.allRanges_eq_flatMap draft.children
  have filter : after.build.filter = additions.filter.or before.effectiveFilter := by
    rw [build, effectiveFilter_eq, effectiveFilter_eq, grows.filter, same, Option.or_assoc]
  refine ⟨(Query.allRanges before.clauses.queries).map dialect.rangeClause,
    (Query.allRanges (groupQueries before.groups)).map dialect.rangeClause, ?_, ?_⟩
  · rw [Dialect.filterClauses, children, List.map_append]
    rfl
  · rw [Dialect.filterClauses, children, filter, clauses, same]
    simp only [Query.allRanges_eq_flatMap, List.flatMap_append, List.map_append]

namespace Backend

variable {before after : Draft}

private theorem puts_of_filterClauses (backend : Backend) (decided : after.Decided)
    {clause : String} {front replaced back : List String} (few : replaced.length ≤ 1)
    (asked : backend.dialect.filterClauses before.build = front ++ replaced ++ back)
    (asks : backend.dialect.filterClauses after.build = front ++ clause :: back) :
    backend.Puts before after clause :=
  ⟨front, replaced, back, _, asked, few,
    backend.dialect.render_of_resolved decided.resolved_build.leaves,
    congrArg backend.dialect.connective.intercalate asks⟩

theorem puts_addRange (backend : Backend) (decided : before.Decided) (field : String)
    (interval : Interval) (occur : Occurrence) :
    backend.Puts before (before.addRange field interval { occur })
      (backend.dialect.rangeClause
        ⟨field, interval, true, true, none, none, before.resolveOccur occur⟩) := by
  obtain ⟨front, nested, asked, asks⟩ :=
    (Draft.GrowsTo.addRange before field interval occur).filterClauses_build rfl backend.dialect
  rw [List.append_assoc, ← List.append_nil front] at asked
  rw [List.append_assoc, List.append_assoc] at asks
  have few : ([] : List String).length ≤ 1 := Nat.zero_le 1
  exact backend.puts_of_filterClauses (decided.addRange field interval _) few asked asks

theorem puts_compare (backend : Backend) (decided : before.Decided) (filter : Filter) :
    backend.Puts before (before.compare filter).draft (backend.dialect.filterClause filter) := by
  obtain ⟨front, nested, asked, asks⟩ :=
    (Draft.GrowsTo.compare before filter).filterClauses_build rfl backend.dialect
  have few : (before.effectiveFilter.toList.map backend.dialect.filterClause).length ≤ 1 := by
    cases before.effectiveFilter <;> simp
  rw [← List.append_nil (front ++ nested ++ _)] at asked
  rw [Query.allRanges, List.map_nil, List.append_nil] at asks
  exact backend.puts_of_filterClauses (decided.compare filter) few asked asks

variable {text : String} {instant : Calendar.Instant}

private theorem NumeralClause.of_toList {field numeral clause other : String} {backend : Backend}
    {operator : FilterOperator} (written : NumeralClause field numeral backend operator clause)
    (same : other.toList = clause.toList) :
    NumeralClause field numeral backend operator other :=
  String.toList_inj.mp same ▸ written

theorem numeralClause_range (backend : Backend)
    (read : Calendar.Instant.ofText? text = some instant) (field : String) :
    NumeralClause field (toString instant.millis) backend .eq
      (backend.dialect.rangeClause
        ⟨field, dateKind.interval instant instant, true, true, none, none, .always⟩) := by
  have bounds := dateKind_writes.bounds read read
  cases backend with
  | azure =>
    exact NumeralClause.azureEq.of_toList (by
      simp [dialect, Rendering.azure, azureRangeClause, Range.lower, Range.upper, bounds,
        odataLiteral])
  | solr =>
    exact NumeralClause.solrEq.of_toList (by
      simp [dialect, Rendering.solr, solrRangeClause, Range.lower, Range.upper, bounds,
        solrLiteral])

theorem numeralClause_comparison (backend : Backend) {operator : FilterOperator}
    (order : operator ∈ [.gt, .gte, .lt, .lte])
    (read : Calendar.Instant.ofText? text = some instant) (field : String) :
    NumeralClause field (toString instant.millis) backend operator
      (backend.dialect.filterClause
        ⟨field, dateKind.filterValue instant, operator.comparator⟩) := by
  have value : dateKind.filterValue instant = .number (.ofInt instant.millis) := rfl
  have whole := Double.exactText_ofInt (Calendar.Instant.natAbs_millis_lt read)
  have azureText : odataValue (dateKind.filterValue instant) = toString instant.millis := by
    rw [value, odataValue, whole]
  have solrText : solrValue (dateKind.filterValue instant) = toString instant.millis := by
    rw [value, solrValue, whole]
  simp only [List.mem_cons, List.not_mem_nil, or_false] at order
  cases backend with
  | azure =>
    dsimp only [dialect, Rendering.azure, azureFilterClause]
    rw [azureText]
    rcases order with rfl | rfl | rfl | rfl
    · exact NumeralClause.azureGt.of_toList (by simp [odataOperator, FilterOperator.comparator])
    · exact NumeralClause.azureGte.of_toList (by simp [odataOperator, FilterOperator.comparator])
    · exact NumeralClause.azureLt.of_toList (by simp [odataOperator, FilterOperator.comparator])
    · exact NumeralClause.azureLte.of_toList (by simp [odataOperator, FilterOperator.comparator])
  | solr =>
    dsimp only [dialect, Rendering.solr, solrFilterClause]
    rw [solrText]
    rcases order with rfl | rfl | rfl | rfl
    · exact .solrGt
    · exact .solrGte
    · exact .solrLt
    · exact .solrLte

end Backend

/-- Every entry on a date field that is given a date is applied, and adds to the filter expression
one clause with the milliseconds of the date as a whole number: the same numeral for all operators
and in both backends. -/
theorem dates_have_one_numeral {value : String} {instant : Calendar.Instant}
    (read : readDate value = .ok instant) {field : String} (pattern : FieldPattern field)
    {schema : Schema} (declared : schema.Declares field .date) {draft : Draft}
    (decided : draft.Decided) (backend : Backend) {operator : FilterOperator} {entry : String}
    (seeks : Seeks field value operator entry) :
    ∃ step clause, Request.applyEntry schema draft entry = .ok step ∧
      backend.NumeralClause field (toString instant.millis) operator clause ∧
      backend.Puts draft step.draft clause := by
  have apply {operator : FilterOperator} {name : String} (written : operator.Written name)
      (values : String) : Request.applyEntry schema draft (entryText field name values) =
        draft.applyOrdered dateKind
          ⟨field, operator, FilterDescriptor.readValues operator values⟩ :=
    Request.applyEntry_entryText (isFieldName_iff.mpr pattern) declared written values draft
  have parsed := readDate_eq_ok_iff.mp read
  have filled := ne_empty_of_readDate read
  have kind : dateKind.read value = .ok instant := by
    dsimp only [dateKind]
    exact read
  have trimmed := (dateKind_ignoresBlanks value instant).mpr kind
  have compared {operator : FilterOperator} (order : operator ∈ [.gt, .gte, .lt, .lte]) :=
    And.intro (backend.numeralClause_comparison order parsed field)
      (backend.puts_compare decided ⟨field, dateKind.filterValue instant, operator.comparator⟩)
  cases seeks with
  | single order written =>
    rcases List.mem_cons.mp order with rfl | order
    · have inner := trim_ne_empty_of_readDate read
      rw [apply written, readValues_eq_of_readDate read, Draft.applyOrdered_point inner, trimmed]
      exact ⟨_, _, rfl, backend.numeralClause_range parsed field,
        backend.puts_addRange decided field _ .always⟩
    · have single : FilterDescriptor.readValues operator value = [value] := by
        cases operator <;> first | rfl | exact absurd order (by decide)
      rw [apply written, single, Draft.applyOrdered_comparison order filled, kind]
      exact ⟨_, _, rfl, compared order⟩
  | range bound written =>
    have order : operator ∈ [.gt, .gte, .lt, .lte] := by cases bound <;> decide
    rw [apply written, Draft.applyOrdered_oneBound bound (notMem_of_readDate read (by decide))
      (not_isOpen_of_readDate read), trimmed]
    exact ⟨_, _, rfl, compared order⟩

/-- A millisecond before the epoch, with an offset that takes it to the other side. -/
theorem dates_have_one_numeral_before_epoch :
    ∃ point side,
      Request.applyEntry shopSchema (.root false) "sold:eq:1970-01-01T00:59:59.999+01:00" =
        .ok point ∧
      Backend.azure.Puts (.root false) point.draft "(sold ge -1 and sold le -1)" ∧
      Request.applyEntry shopSchema (.root false) "sold:range:*,1970-01-01T00:59:59.999+01:00" =
        .ok side ∧
      Backend.azure.Puts (.root false) side.draft "sold le -1" := by
  have read : readDate "1970-01-01T00:59:59.999+01:00" = .ok ⟨-1⟩ :=
    readDate_eq_ok_iff.mpr (by decide +kernel)
  have pattern : FieldPattern "sold" := isFieldName_iff.mp (by decide)
  have declared : shopSchema.Declares "sold" .date :=
    ⟨[⟨"status", .keyword⟩, ⟨"price", .numeric⟩], [], rfl, by decide⟩
  have star : IsOpen "*" := .inr (by decide +kernel)
  have equal : FilterOperator.eq.Written "eq" := ⟨"eq", .eq, rfl⟩
  have range : FilterOperator.range.Written "range" := ⟨"range", .range, rfl⟩
  obtain ⟨point, _, pointApplied, ⟨⟩, pointPuts⟩ := dates_have_one_numeral read pattern declared
    (.root false) .azure (.single (by decide) equal)
  obtain ⟨side, _, sideApplied, ⟨⟩, sidePuts⟩ := dates_have_one_numeral read pattern declared
    (.root false) .azure (.range (.upper star) range)
  exact ⟨point, side, pointApplied, pointPuts, sideApplied, sidePuts⟩

end SearchQuery
