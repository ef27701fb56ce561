import SearchQuery.Proofs.Query.Resolution
import SearchQuery.Proofs.Rendering.RangeClauses

/-!
Ranges in excluded groups. Groups take no part in range clauses, so that a range which is not
excluded itself is required, whatever the groups around it exclude
(`range_in_excluded_group_is_required`).
-/

namespace SearchQuery

open Rendering

namespace Query

/-- Whether a query holds an excluded group, and this group the range as one of its children. -/
inductive ExcludesAround (range : Range) : Query → Prop where
  | here {head : GroupHead} {children : List Query} (excluded : Dialect.negates head)
      (member : .range range ∈ children) : ExcludesAround range (.group head children)
  | inside {head : GroupHead} {children : List Query} {child : Query} (member : child ∈ children)
      (around : child.ExcludesAround range) : ExcludesAround range (.group head children)

theorem ExcludesAround.mem_ranges {range : Range} {query : Query}
    (around : query.ExcludesAround range) : range ∈ query.ranges := by
  induction around with
  | here excluded member =>
    rw [ranges, allRanges_eq_flatMap]
    exact List.mem_flatMap_of_mem member (List.mem_singleton_self range)
  | inside member _ ih =>
    rw [ranges, allRanges_eq_flatMap]
    exact List.mem_flatMap_of_mem member ih

end Query

/-- The same range, to be met by every result. -/
def Range.required (range : Range) : Range :=
  { range with occur := .always }

private theorem Range.sense_required {range : Range} (own : range.occur ≠ .never) :
    range.required.sense = range.sense := by
  simp [required, sense, own]

/-- Only the occurrence of the range itself can negate its clause. -/
theorem Backend.rangeClause_required (backend : Backend) {range : Range}
    (own : range.occur ≠ .never) :
    backend.dialect.rangeClause range.required = backend.dialect.rangeClause range := by
  have field : range.required.field = range.field := rfl
  have interval : range.required.interval = range.interval := rfl
  cases backend with
  | azure => exact (azureRangeClause_eq_iff field interval).mpr (Range.sense_required own)
  | solr => exact (solrRangeClause_eq_iff field interval).mpr (Range.sense_required own)

/-- A range in an excluded group, if it is not excluded itself, writes the clause of a required
range into the filter expression, as one of the clauses that all have to hold. -/
theorem range_in_excluded_group_is_required (backend : Backend) (search : Search)
    (valid : search.validate = .ok ()) {range : Range}
    (around : search.query.toQuery.ExcludesAround range) (own : range.occur ≠ .never) :
    ∃ written rendered before after, backend.dialect.write search.query = .ok written ∧
      backend.dialect.render search = .ok rendered ∧
      written.clauses = before ++ backend.dialect.rangeClause range.required :: after ∧
      rendered.filter = backend.dialect.connective.intercalate
        (before ++ backend.dialect.rangeClause range.required :: after ++
          search.filter.toList.map backend.dialect.filterClause) := by
  have resolved := ((Search.validate_eq_ok_iff search).mp valid).leaves
  obtain ⟨before, after, split⟩ := List.append_of_mem around.mem_ranges
  refine ⟨_, _, before.map backend.dialect.rangeClause, after.map backend.dialect.rangeClause,
    backend.dialect.write_of_resolved resolved, backend.dialect.render_of_resolved resolved, ?_, ?_⟩
  · simp [split, backend.rangeClause_required own]
  · simp [split, backend.rangeClause_required own]

/-- An excluded group that holds nothing but a range of years. -/
def excludedYears : Range :=
  ⟨"year", .int 1990 2000, true, true, none, none, .always⟩

def excludedYearsSearch : Search where
  query := ⟨⟨.root, .always, none⟩, [.group ⟨.and, .never, none⟩ [.range excludedYears]]⟩
  sort := none
  filter := none

theorem range_in_excluded_group_is_required_years :
    excludedYearsSearch.validate = .ok () ∧
      excludedYearsSearch.query.toQuery.ExcludesAround excludedYears ∧
      excludedYears.occur ≠ .never ∧
      ∃ written before after, azure.write excludedYearsSearch.query = .ok written ∧
        written.clauses = before ++ azureRangeClause excludedYears.required :: after := by
  have around : excludedYearsSearch.query.toQuery.ExcludesAround excludedYears :=
    .inside List.mem_cons_self (.here rfl List.mem_cons_self)
  obtain ⟨written, _, before, after, walk, _, clauses, _⟩ :=
    range_in_excluded_group_is_required .azure excludedYearsSearch rfl around (by decide)
  exact ⟨rfl, around, by decide, written, before, after, walk, clauses⟩

/-- Excluding these years asks for them: the range is the whole filter, without a negation. -/
theorem excluded_years_are_required :
    excludedYearsSearch.validate = .ok () ∧
      excludedYearsSearch.query.toQuery.ExcludesAround excludedYears ∧
      excludedYears.occur ≠ .never ∧
      azure.render excludedYearsSearch = .ok ⟨"", "(year ge 1990 and year le 2000)"⟩ ∧
      solr.render excludedYearsSearch = .ok ⟨"", "year:[1990 TO 2000]"⟩ :=
  ⟨rfl, .inside List.mem_cons_self (.here rfl List.mem_cons_self), by decide, rfl, rfl⟩

end SearchQuery
