import SearchQuery.Proofs.Draft.Keys

/-!
What a filter does to a draft is one of four things, and which one does not hang on what the draft
holds (`Draft.applyFilter_comesTo`). A filter that is refused does nothing, and one that is applied
does one thing and leaves all else as it was (`filter_has_one_effect_or_none`).
-/

namespace SearchQuery

open Draft (OrderedKind numericKind dateKind)

inductive FilterEffect where
  | clause (query : Query)
  | group (group : Draft)
  | comparison (filter : Filter)
  /-- A range without bounds on this field, of which there is only a warning. -/
  | nothing (field : String)

namespace FilterEffect

def on (draft : Draft) : FilterEffect → Step
  | .clause query => ⟨draft.store none query, []⟩
  | .group nested => ⟨draft.addGroup nested, []⟩
  | .comparison filter => draft.compare filter
  | .nothing field => ⟨draft, [.noBounds field]⟩

end FilterEffect

namespace Draft

/-- Drafts that treat values and occurrences in the same way. -/
structure Alike (draft other : Draft) : Prop where
  caseSensitive : other.caseSensitive = draft.caseSensitive
  childrenOccur : other.childrenOccur = draft.childrenOccur

theorem Alike.refl (draft : Draft) : draft.Alike draft :=
  ⟨rfl, rfl⟩

/-- On all drafts alike a step has one and the same effect, or the same fault. -/
def ComesTo (draft : Draft) (step : Draft → Except QueryError Step) : Prop :=
  ∃ result : Except QueryError FilterEffect,
    ∀ other, draft.Alike other → step other = result.map fun effect => effect.on other

namespace ComesTo

variable {draft : Draft}

theorem effect (effect : FilterEffect) : draft.ComesTo fun other => .ok (effect.on other) :=
  ⟨.ok effect, fun _ _ => rfl⟩

theorem fault (cause : QueryError) : draft.ComesTo fun _ => .error cause :=
  ⟨.error cause, fun _ _ => rfl⟩

theorem need {α : Type} (result : Except QueryError α) {next : α → Draft → Except QueryError Step}
    (rest : ∀ value, draft.ComesTo (next value)) :
    draft.ComesTo fun other => result >>= fun value => next value other := by
  cases result with
  | ok value => exact rest value
  | error cause => exact fault cause

theorem addRange (field : String) (interval : Interval) (occur : Occurrence) :
    draft.ComesTo fun other => .ok ⟨other.addRange field interval { occur }, []⟩ := by
  refine ⟨.ok (.clause (.range ⟨field, interval, true, true, none, none,
    draft.resolveOccur occur⟩)), ?_⟩
  intro other alike
  have occurs : other.resolveOccur occur = draft.resolveOccur occur := by
    rw [resolveOccur, resolveOccur, alike.childrenOccur]
  simp only [Draft.addRange, occurs]
  rfl

theorem addTest (matching : Matching) (field value : String) (occur : Occurrence) :
    draft.ComesTo fun other => .ok ⟨other.addTest matching field value { occur }, []⟩ := by
  refine ⟨.ok (.clause (.term ⟨matching, ⟨field, draft.fold none value⟩, none,
    draft.resolveOccur occur⟩)), ?_⟩
  intro other alike
  have occurs : other.resolveOccur occur = draft.resolveOccur occur := by
    rw [resolveOccur, resolveOccur, alike.childrenOccur]
  have folds : other.fold none value = draft.fold none value := by
    rw [fold, fold, alike.caseSensitive]
  simp only [Draft.addTest, occurs, folds]
  rfl

theorem addAnyKeyword (field : String) (values : List String) :
    draft.ComesTo fun other => .ok ⟨other.addAnyKeyword field values, []⟩ := by
  refine ⟨.ok (.group (values.foldl (fun group value => group.addTest .keyword field value {})
    (draft.junctionChild .or .sometimes))), ?_⟩
  intro other alike
  have child : other.junctionChild .or .sometimes = draft.junctionChild .or .sometimes := by
    rw [junctionChild, junctionChild, Draft.child, Draft.child, alike.caseSensitive]
  simp only [Draft.addAnyKeyword, child]
  rfl

theorem addBounds {α : Type} (kind : OrderedKind α) (field : String) (lower upper : Option α) :
    draft.ComesTo fun other => .ok (other.addBounds kind field lower upper) := by
  cases lower with
  | some lower =>
    cases upper with
    | some upper => exact addRange field (kind.interval lower upper) .notSet
    | none => exact effect (.comparison ⟨field, kind.filterValue lower, .gte⟩)
  | none =>
    cases upper with
    | some upper => exact effect (.comparison ⟨field, kind.filterValue upper, .lte⟩)
    | none => exact effect (.nothing field)

end ComesTo

theorem applyOrdered_comesTo {α : Type} (draft : Draft) (kind : OrderedKind α)
    (descriptor : FilterDescriptor) :
    draft.ComesTo fun other => other.applyOrdered kind descriptor := by
  obtain ⟨field, operator, values⟩ := descriptor
  simp only [applyOrdered_eq]
  cases operator with
  | eq | notEq => exact .need _ fun text => .need _ fun value => .addRange field _ _
  | gt | gte | lt | lte => exact .need _ fun text => .need _ fun value => .effect (.comparison _)
  | range => exact .need _ fun lower => .need _ fun upper => .addBounds kind field lower upper
  | prefixed | exact | fuzzy => exact .fault _

theorem applyText_comesTo (draft : Draft) (descriptor : FilterDescriptor) :
    draft.ComesTo fun other => other.applyText descriptor := by
  simp only [applyText_eq]
  split
  · exact .addAnyKeyword descriptor.field descriptor.values
  · cases descriptor.operator.textTest? with
    | some test => exact .need _ fun value => .addTest test.1 descriptor.field value test.2
    | none => exact .fault _

theorem applyFilter_comesTo (draft : Draft) (kind : FieldKind) (descriptor : FilterDescriptor) :
    draft.ComesTo fun other => other.applyFilter kind descriptor := by
  cases kind with
  | numeric => exact draft.applyOrdered_comesTo numericKind descriptor
  | date => exact draft.applyOrdered_comesTo dateKind descriptor
  | text | keyword => exact draft.applyText_comesTo descriptor

end Draft

namespace FilterEffect

/-- The one thing that is other than before: a clause under a key that is given out, a group at the
end, the filter, or nothing but a warning. A filter gives way with a warning. -/
inductive Happens (before after : Step) : FilterEffect → Prop where
  | clause {query : Query} {number : Nat} {clauses : Clauses}
      (fresh : Clauses.autoKey number ∉ before.draft.clauses.keys)
      (counted : before.draft.nextKey ≤ number)
      (added : clauses.entries =
        before.draft.clauses.entries ++ [(Clauses.autoKey number, query)])
      (after_eq : after = ⟨{ before.draft with clauses, nextKey := number + 1 }, before.warnings⟩) :
      Happens before after (.clause query)
  | group {group : Draft}
      (after_eq : after =
        ⟨{ before.draft with groups := before.draft.groups ++ [group] }, before.warnings⟩) :
      Happens before after (.group group)
  | comparison {filter : Filter} (unset : before.draft.filter = none)
      (after_eq : after = ⟨{ before.draft with filter := some filter }, before.warnings⟩) :
      Happens before after (.comparison filter)
  | replacement {filter previous : Filter} (set : before.draft.filter = some previous)
      (after_eq : after = ⟨{ before.draft with filter := some filter },
        before.warnings ++ [.replacedFilter filter.field previous.field]⟩) :
      Happens before after (.comparison filter)
  | nothing {field : String}
      (after_eq : after = ⟨before.draft, before.warnings ++ [.noBounds field]⟩) :
      Happens before after (.nothing field)

variable {before after : Step}

theorem happens_on (before : Step) (effect : FilterEffect) :
    effect.Happens before
      ⟨(effect.on before.draft).draft, before.warnings ++ (effect.on before.draft).warnings⟩ := by
  cases effect with
  | clause query =>
    obtain ⟨draft, warnings⟩ := before
    have search := (draft.clauses.keySearch_iff draft.nextKey _).mpr rfl
    have added : (draft.clauses.insert (Clauses.autoKey _) query).entries = _ :=
      Entry.assign_of_notMem search.notMem
    refine .clause search.notMem search.le added ?_
    rw [on, List.append_nil]
    rfl
  | group group =>
    refine .group ?_
    rw [on, List.append_nil]
    rfl
  | comparison filter =>
    cases previous : before.draft.filter with
    | none =>
      refine .comparison previous ?_
      rw [on, Draft.compare, previous, Option.toList_none, List.map_nil, List.append_nil]
      rfl
    | some other =>
      refine .replacement previous ?_
      rw [on, Draft.compare, previous]
      rfl
  | nothing field => exact .nothing rfl

theorem Happens.unique {effect other : FilterEffect} (happens : effect.Happens before after)
    (again : other.Happens before after) : effect = other := by
  -- Different effects change different parts of the step, and one effect shows what it added.
  cases happens <;> cases again <;> simp_all

end FilterEffect

/-- Whatever a draft holds and has been warned of, a filter that is refused leaves both as they
were, and one that is applied has exactly one effect: it adds a clause under a key that no other
has, adds a group, sets the filter, or only warns that it has no bounds. -/
theorem filter_has_one_effect_or_none (draft : Draft) (warnings : List Warning) (kind : FieldKind)
    (descriptor : FilterDescriptor) :
    match (Revision.filter kind descriptor).run ⟨draft, warnings⟩ with
    | .error _ after => after = ⟨draft, warnings⟩
    | .ok _ after => ∃! effect : FilterEffect, effect.Happens ⟨draft, warnings⟩ after := by
  obtain ⟨result, comes⟩ := draft.applyFilter_comesTo kind descriptor
  have applied : draft.applyFilter kind descriptor = _ := comes draft (.refl draft)
  rw [Revision.whole_filter, ← Draft.applyFilter, applied]
  cases result with
  | error cause => rfl
  | ok effect =>
    have happens := effect.happens_on ⟨draft, warnings⟩
    exact ⟨effect, happens, fun other again => again.unique happens⟩

end SearchQuery
