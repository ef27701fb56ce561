import SearchQuery.Proofs.Request.Verdict

/-!
How many values a filter on numbers or dates looks at. An entry may hold more than its operator
takes; the others are dropped without a warning (`surplus_values_are_dropped`).
-/

namespace SearchQuery

open Draft (OrderedKind numericKind)

/-- The number of values that an operator takes. -/
def FilterOperator.arity : FilterOperator → Nat
  | .range => 2
  | _ => 1

private theorem FilterOperator.arity_pos (operator : FilterOperator) : 0 < operator.arity := by
  cases operator <;> decide

/-- What a value is turned into: a point or, at the end of a range, perhaps no bound. -/
inductive Draft.OrderedKind.TurnsInto {α : Type} (kind : OrderedKind α) :
    FilterOperator → String → Option α → Prop
  | point {operator : FilterOperator} {value : String} {point : α} (other : operator ≠ .range)
      (read : kind.read value = .ok point) : TurnsInto kind operator value (some point)
  | bound {value : String} {bound : Option α}
      (read : readBound kind.read (some value) = .ok bound) : TurnsInto kind .range value bound

/-- The step that is made of what the values were turned into. Ends of a range may be missing. -/
inductive Draft.StepOf {α : Type} (draft : Draft) (kind : OrderedKind α) (field : String) :
    FilterOperator → List (Option α) → Step → Prop
  | point {operator : FilterOperator} (equality : operator = .eq ∨ operator = .notEq) (point : α) :
      StepOf draft kind field operator [some point]
        ⟨draft.addRange field (kind.interval point point) { occur := operator.occurrence }, []⟩
  | compared {operator : FilterOperator} (order : operator ∈ [.gt, .gte, .lt, .lte]) (bound : α) :
      StepOf draft kind field operator [some bound]
        (draft.compare ⟨field, kind.filterValue bound, operator.comparator⟩)
  | range {ends : List (Option α)} (few : ends.length ≤ 2) :
      StepOf draft kind field .range ends
        (draft.addBounds kind field ends[0]?.join ends[1]?.join)

/-- All of these values, and nothing else, are turned into the step that a filter makes. -/
def Draft.MakesOf {α : Type} (draft : Draft) (kind : OrderedKind α)
    (descriptor : FilterDescriptor) (values : List String) (step : Step) : Prop :=
  ∃ marks, List.Forall₂ (kind.TurnsInto descriptor.operator) values marks ∧
    draft.StepOf kind descriptor.field descriptor.operator marks step

/-- Lists of several values come from `eq` and `range` only. -/
theorem FilterDescriptor.length_values_of_ofText {entry : String} {descriptor : FilterDescriptor}
    (read : ofText entry = .ok descriptor) (other : descriptor.operator ≠ .eq)
    (another : descriptor.operator ≠ .range) : descriptor.values.length = 1 := by
  obtain ⟨-, text, values⟩ := of_ofText_eq_ok read
  rw [values]
  cases same : descriptor.operator
  case eq => exact absurd same other
  case range => exact absurd same another
  all_goals rfl

namespace Draft

variable {α : Type} {kind : OrderedKind α} {draft : Draft} {descriptor : FilterDescriptor}
  {step : Step}

theorem StepOf.length_le {field : String} {operator : FilterOperator} {marks : List (Option α)}
    (made : draft.StepOf kind field operator marks step) : marks.length ≤ operator.arity := by
  cases made with
  | point | compared => exact operator.arity_pos
  | range few => exact few

/-- Values beyond what the operator takes are not looked at. -/
theorem applyOrdered_take (draft : Draft) (kind : OrderedKind α) (field : String)
    (operator : FilterOperator) (values : List String) :
    draft.applyOrdered kind ⟨field, operator, values.take operator.arity⟩ =
      draft.applyOrdered kind ⟨field, operator, values⟩ := by
  rw [applyOrdered_eq, applyOrdered_eq]
  cases operator
  case range => rcases values with _ | ⟨lower, _ | ⟨upper, rest⟩⟩ <;> rfl
  all_goals cases values <;> rfl

private theorem makesOf_range {field : String} {values : List String}
    (applied : draft.applyOrdered kind ⟨field, .range, values⟩ = .ok step) :
    draft.MakesOf kind ⟨field, .range, values⟩ (values.take 2) step := by
  rw [applyOrdered_eq] at applied
  obtain ⟨lower, readLower, applied⟩ := Except.exists_of_bind_eq_ok applied
  obtain ⟨upper, readUpper, applied⟩ := Except.exists_of_bind_eq_ok applied
  cases applied
  rcases values with _ | ⟨first, _ | ⟨second, rest⟩⟩
  · cases readLower
    cases readUpper
    exact ⟨[], .nil, .range (by simp)⟩
  · cases readUpper
    exact ⟨[lower], .cons (.bound readLower) .nil, .range (by simp)⟩
  · exact ⟨[lower, upper], .cons (.bound readLower) (.cons (.bound readUpper) .nil),
      .range (by simp)⟩

/-- A filter is made of its first values, as many as the operator takes. -/
theorem makesOf_take (applied : draft.applyOrdered kind descriptor = .ok step) :
    draft.MakesOf kind descriptor (descriptor.values.take descriptor.operator.arity) step := by
  obtain ⟨field, operator, values⟩ := descriptor
  cases operator
  case range => exact makesOf_range applied
  all_goals rw [applyOrdered_eq] at applied
  case prefixed | exact | fuzzy => cases applied
  case eq | notEq =>
    obtain ⟨value, single, applied⟩ := Except.exists_of_bind_eq_ok applied
    obtain ⟨point, read, applied⟩ := Except.exists_of_bind_eq_ok applied
    cases applied
    obtain ⟨-, rest, rfl⟩ := FilterDescriptor.singleValue_eq_ok_iff.mp single
    exact ⟨[some point], .cons (.point (by simp) read) .nil, .point (by simp) point⟩
  case gt | gte | lt | lte =>
    obtain ⟨value, single, applied⟩ := Except.exists_of_bind_eq_ok applied
    obtain ⟨bound, read, applied⟩ := Except.exists_of_bind_eq_ok applied
    cases applied
    obtain ⟨-, rest, rfl⟩ := FilterDescriptor.singleValue_eq_ok_iff.mp single
    exact ⟨[some bound], .cons (.point (by simp) read) .nil, .compared (by simp) bound⟩

theorem makesOf_values_iff (applied : draft.applyOrdered kind descriptor = .ok step) :
    draft.MakesOf kind descriptor descriptor.values step ↔
      descriptor.values.length ≤ descriptor.operator.arity := by
  constructor
  · rintro ⟨marks, turned, made⟩
    rw [turned.length_eq]
    exact made.length_le
  · intro few
    have made := makesOf_take applied
    rwa [List.take_of_length_le few] at made

end Draft

private theorem exists_step_of_warnings {applied : Except QueryError Step} {warnings : List Warning}
    (given : applied.toOption.map Step.warnings = some warnings) :
    ∃ step, applied = .ok step ∧ step.warnings = warnings := by
  cases applied with
  | error _ => cases given
  | ok step => exact ⟨step, rfl, Option.some.inj given⟩

/-- An accepted filter on numbers or dates is made of as many of its values as the operator takes,
the first ones, and of all of them only if there are no more. Entries with more have `eq` or
`range`; whatever stands there beyond these values, the step stays the same, its warnings too. -/
theorem surplus_values_are_dropped {α : Type} {kind : OrderedKind α} {draft : Draft}
    {entry : String} {descriptor : FilterDescriptor} {step : Step}
    (read : FilterDescriptor.ofText entry = .ok descriptor)
    (accepted : draft.applyOrdered kind descriptor = .ok step) :
    draft.MakesOf kind descriptor (descriptor.values.take descriptor.operator.arity) step ∧
      (draft.MakesOf kind descriptor descriptor.values step ↔
        descriptor.values.length ≤ descriptor.operator.arity) ∧
      (descriptor.operator.arity < descriptor.values.length →
        (descriptor.operator = .eq ∨ descriptor.operator = .range) ∧
        ∀ others, draft.applyOrdered kind { descriptor with
          values := descriptor.values.take descriptor.operator.arity ++ others } = .ok step) := by
  refine ⟨Draft.makesOf_take accepted, Draft.makesOf_values_iff accepted, fun many => ⟨?_, ?_⟩⟩
  · by_cases several : descriptor.operator = .eq ∨ descriptor.operator = .range
    · exact several
    · obtain ⟨other, another⟩ := not_or.mp several
      have one := FilterDescriptor.length_values_of_ofText read other another
      have taken := descriptor.operator.arity_pos
      omega
  · intro others
    have kept : (descriptor.values.take descriptor.operator.arity ++ others).take
        descriptor.operator.arity = descriptor.values.take descriptor.operator.arity := by
      rw [List.take_append_of_le_length (by simp; omega), List.take_take, Nat.min_self]
    rw [← Draft.applyOrdered_take, kept, Draft.applyOrdered_take]
    exact accepted

def wideRange : FilterDescriptor :=
  ⟨"price", .range, ["10", "20", "30"]⟩

theorem surplus_values_are_dropped_prices :
    FilterDescriptor.ofText "price:range:10, 20, 30" = .ok wideRange ∧
      ∃ step, (Draft.root false).applyOrdered numericKind wideRange = .ok step ∧
        step.warnings = [] ∧
        (Draft.root false).MakesOf numericKind wideRange ["10", "20"] step ∧
        ∀ others, (Draft.root false).applyOrdered numericKind
          { wideRange with values := ["10", "20"] ++ others } = .ok step := by
  have read : FilterDescriptor.ofText "price:range:10, 20, 30" = .ok wideRange := by
    decide +kernel
  have quiet : ((Draft.root false).applyOrdered numericKind wideRange).toOption.map
      Step.warnings = some [] := by
    decide +kernel
  obtain ⟨step, accepted, silent⟩ := exists_step_of_warnings quiet
  obtain ⟨made, -, dropped⟩ := surplus_values_are_dropped read accepted
  exact ⟨read, step, accepted, silent, made, (dropped (by decide)).2⟩

def twoPrices : FilterDescriptor :=
  ⟨"price", .eq, ["1", "2"]⟩

/-- Of two prices one is used, and nothing is said about the other. -/
theorem second_price_is_dropped :
    FilterDescriptor.ofText "price:eq:1,2" = .ok twoPrices ∧
      ∃ step, (Draft.root false).applyOrdered numericKind twoPrices = .ok step ∧
        step.warnings = [] ∧
        (Draft.root false).applyOrdered numericKind { twoPrices with values := ["1"] } = .ok step ∧
        ¬ (Draft.root false).MakesOf numericKind twoPrices twoPrices.values step := by
  have read : FilterDescriptor.ofText "price:eq:1,2" = .ok twoPrices := by decide +kernel
  have quiet : ((Draft.root false).applyOrdered numericKind twoPrices).toOption.map
      Step.warnings = some [] := by
    decide +kernel
  obtain ⟨step, accepted, silent⟩ := exists_step_of_warnings quiet
  refine ⟨read, step, accepted, silent, ?_, ?_⟩
  · rw [← accepted]
    exact Draft.applyOrdered_take _ _ "price" .eq ["1", "2"]
  · rw [Draft.makesOf_values_iff accepted]
    decide

end SearchQuery
