import SearchQuery.Request.Filters

/-!
What the work of a filter comes to, written out as results (`Draft.applyOrdered_eq`,
`Draft.applyText_eq`). The work is done as a whole or not at all (`Revision.whole_filter`): whatever
can be faulty is read before the first change and before any warning.
-/

namespace SearchQuery

open Draft (OrderedKind numericKind dateKind)

/-- How an operator tests text: each test is on one value, and required unless it excludes. -/
def FilterOperator.textTest? : FilterOperator → Option (Matching × Occurrence)
  | .eq | .exact => some (.keyword, .always)
  | .notEq => some (.keyword, .never)
  | .prefixed => some (.prefixed, .always)
  | .fuzzy => some (.fuzzy, .always)
  | _ => none

namespace Revision

variable {α : Type}

theorem outcome_need (result : Except QueryError α) (next : α → Revision Unit) (draft : Draft) :
    (need result >>= next).outcome draft = result >>= fun value => (next value).outcome draft := by
  cases result with
  | ok value => rfl
  | error cause => rfl

theorem outcome_take (step : Draft → Step) (draft : Draft) :
    (take step).outcome draft = .ok (step draft) := by
  have taken : (take step).outcome draft =
      .ok ⟨(step draft).draft, [] ++ (step draft).warnings⟩ := rfl
  rw [taken, List.nil_append]

theorem outcome_edit (change : Draft → Draft) (draft : Draft) :
    (edit change).outcome draft = .ok ⟨change draft, []⟩ :=
  rfl

theorem outcome_test (descriptor : FilterDescriptor) (matching : Matching) (occur : Occurrence)
    (draft : Draft) :
    (test descriptor matching occur).outcome draft = (do
      let value ← descriptor.singleValue
      return ⟨draft.addTest matching descriptor.field value { occur }, []⟩) :=
  outcome_need _ _ draft

/-- Where work ends that is done as a whole or, with a fault, not at all. -/
def settle (start : Step) : Except QueryError Step → EStateM.Result QueryError Step Unit
  | .ok step => .ok () ⟨step.draft, start.warnings ++ step.warnings⟩
  | .error cause => .error cause start

/-- From wherever it starts, the work does all that it comes to, or nothing. -/
def Whole (revision : Revision Unit) : Prop :=
  ∀ start, revision.run start = settle start (revision.outcome start.draft)

namespace Whole

theorem take (step : Draft → Step) : (take step).Whole := by
  intro start
  rw [outcome_take]
  rfl

theorem edit (change : Draft → Draft) : (edit change).Whole :=
  take fun draft => ⟨change draft, []⟩

theorem fault (cause : QueryError) : Whole (throw cause) := fun _ => rfl

/-- What is needed before all else does not take from the work's being done as a whole. -/
theorem need (result : Except QueryError α) {next : α → Revision Unit}
    (rest : ∀ value, (next value).Whole) : (need result >>= next).Whole := by
  cases result with
  | ok value => exact rest value
  | error cause => exact fault cause

end Whole

theorem whole_filterOrdered (kind : OrderedKind α) (descriptor : FilterDescriptor) :
    (filterOrdered kind descriptor).Whole := by
  obtain ⟨field, operator, values⟩ := descriptor
  cases operator with
  | eq | notEq => exact .need _ fun text => .need _ fun value => .edit _
  | gt | gte | lt | lte => exact .need _ fun text => .need _ fun value => .take _
  | range => exact .need _ fun lower => .need _ fun upper => .take _
  | prefixed | exact | fuzzy => exact .fault _

private theorem whole_test (descriptor : FilterDescriptor) (matching : Matching)
    (occur : Occurrence) : (test descriptor matching occur).Whole :=
  .need _ fun _ => .edit _

theorem whole_filterText (descriptor : FilterDescriptor) : (filterText descriptor).Whole := by
  obtain ⟨field, operator, values⟩ := descriptor
  cases operator with
  | eq =>
    by_cases several : 1 < values.length
    · simp only [filterText, if_pos several]
      exact .edit _
    · simp only [filterText, if_neg several]
      exact whole_test _ _ _
  | exact | notEq | prefixed | fuzzy => exact whole_test _ _ _
  | gt | gte | lt | lte | range => exact .fault _

theorem whole_filter (kind : FieldKind) (descriptor : FilterDescriptor) :
    (filter kind descriptor).Whole := by
  cases kind with
  | numeric => exact whole_filterOrdered numericKind descriptor
  | date => exact whole_filterOrdered dateKind descriptor
  | text | keyword => exact whole_filterText descriptor

end Revision

namespace Draft

variable {α : Type} (draft : Draft)

theorem applyOrdered_eq (kind : OrderedKind α) (descriptor : FilterDescriptor) :
    draft.applyOrdered kind descriptor =
      match descriptor.operator with
      | .eq | .notEq => do
        let value ← kind.read (← descriptor.singleValue)
        return ⟨draft.addRange descriptor.field (kind.interval value value)
          { occur := descriptor.operator.occurrence }, []⟩
      | .gt | .gte | .lt | .lte => do
        let value ← kind.read (← descriptor.singleValue)
        return draft.compare
          ⟨descriptor.field, kind.filterValue value, descriptor.operator.comparator⟩
      | .range => do
        let lower ← readBound kind.read descriptor.values[0]?
        let upper ← readBound kind.read descriptor.values[1]?
        return draft.addBounds kind descriptor.field lower upper
      | .prefixed | .exact | .fuzzy =>
        .error (.invalidRequest (.textOperator kind.name descriptor.field)) := by
  obtain ⟨field, operator, values⟩ := descriptor
  cases operator with
  | eq | notEq =>
    simp only [applyOrdered, Revision.filterOrdered, Revision.outcome_need, Revision.outcome_edit]
    rfl
  | gt | gte | lt | lte =>
    simp only [applyOrdered, Revision.filterOrdered, Revision.outcome_need, Revision.outcome_take]
    rfl
  | range =>
    simp only [applyOrdered, Revision.filterOrdered, Revision.outcome_need, Revision.outcome_take]
    rfl
  | prefixed | exact | fuzzy => rfl

theorem applyText_eq (descriptor : FilterDescriptor) :
    draft.applyText descriptor =
      if descriptor.operator = .eq ∧ 1 < descriptor.values.length then
        .ok ⟨draft.addAnyKeyword descriptor.field descriptor.values, []⟩
      else
        match descriptor.operator.textTest? with
        | some (matching, occur) => do
          let value ← descriptor.singleValue
          return ⟨draft.addTest matching descriptor.field value { occur }, []⟩
        | none =>
          .error (.invalidRequest (.notForText descriptor.operator.label descriptor.field)) := by
  obtain ⟨field, operator, values⟩ := descriptor
  cases operator with
  | eq =>
    by_cases several : 1 < values.length
    · rw [if_pos ⟨rfl, several⟩, applyText, Revision.filterText, if_pos several,
        Revision.outcome_edit]
    · rw [if_neg fun both => several both.2, applyText, Revision.filterText, if_neg several]
      exact Revision.outcome_test _ _ _ draft
  | exact | notEq | prefixed | fuzzy => exact Revision.outcome_test _ _ _ draft
  | gt | gte | lt | lte | range => rfl

end Draft

end SearchQuery
