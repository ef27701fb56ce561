import SearchQuery.Proofs.Rendering.Tokens

/-!
Query text and filter expression do not touch each other. A tree without its ranges has the same
text, and a tree without its tests and phrases has the same range clauses.
-/

namespace SearchQuery

open Rendering

namespace Query

mutual

/-- Drops, at every depth, what has no text: ranges, phrases without terms, and groups that hold
nothing else. -/
def prune : Query → Query
  | .group head children => .group head (pruneAll children)
  | query => query

def pruneAll : List Query → List Query
  | [] => []
  | query :: rest => if query.hasText then query.prune :: pruneAll rest else pruneAll rest

end

mutual

/-- Drops tests and phrases at every depth. -/
def withoutText : Query → Query
  | .group head children => .group head (withoutTextAll children)
  | query => query

def withoutTextAll : List Query → List Query
  | [] => []
  | .term _ :: rest => withoutTextAll rest
  | .phrase _ :: rest => withoutTextAll rest
  | query :: rest => query.withoutText :: withoutTextAll rest

end

mutual

theorem textLeaves_prune (query : Query) : query.prune.textLeaves = query.textLeaves := by
  match query with
  | .term _ => rfl
  | .phrase _ => rfl
  | .range _ => rfl
  | .group _ children => simpa only [prune, textLeaves] using allTextLeaves_pruneAll children

theorem allTextLeaves_pruneAll (queries : List Query) :
    allTextLeaves (pruneAll queries) = allTextLeaves queries := by
  match queries with
  | [] => rfl
  | query :: rest =>
    by_cases text : query.hasText = true
    · simp only [pruneAll, text, ↓reduceIte, allTextLeaves, textLeaves_prune query,
        allTextLeaves_pruneAll rest]
    · have none : query.textLeaves = [] := Decidable.not_not.mp (mt (hasText_iff query).mpr text)
      simp only [pruneAll, text, allTextLeaves, none, allTextLeaves_pruneAll rest,
        Bool.false_eq_true, ↓reduceIte, List.nil_append]

end

private theorem hasText_prune (query : Query) : query.prune.hasText = query.hasText := by
  rw [Bool.eq_iff_iff, hasText_iff, hasText_iff, textLeaves_prune]

/-- Pruning keeps every operand, so that no group gains or loses its parentheses. -/
private theorem countP_pruneAll (queries : List Query) :
    (pruneAll queries).countP hasText = queries.countP hasText := by
  induction queries with
  | nil => rfl
  | cons query rest ih =>
    by_cases text : query.hasText = true
    · simp [pruneAll, text, hasText_prune, ih]
    · simp [pruneAll, text, ih]

mutual

theorem ranges_withoutText (query : Query) : query.withoutText.ranges = query.ranges := by
  match query with
  | .term _ => rfl
  | .phrase _ => rfl
  | .range _ => rfl
  | .group _ children => simpa only [withoutText, ranges] using allRanges_withoutTextAll children

theorem allRanges_withoutTextAll (queries : List Query) :
    allRanges (withoutTextAll queries) = allRanges queries := by
  match queries with
  | [] => rfl
  | .term _ :: rest =>
    simpa only [withoutTextAll, allRanges, ranges, List.nil_append] using
      allRanges_withoutTextAll rest
  | .phrase _ :: rest =>
    simpa only [withoutTextAll, allRanges, ranges, List.nil_append] using
      allRanges_withoutTextAll rest
  | .range r :: rest =>
    simp only [withoutTextAll, allRanges, withoutText, allRanges_withoutTextAll rest]
  | .group head children :: rest =>
    simp only [withoutTextAll, allRanges, ranges_withoutText (.group head children),
      allRanges_withoutTextAll rest]

end

end Query

namespace Group

def prune (group : Group) : Group :=
  { group with children := Query.pruneAll group.children }

def withoutText (group : Group) : Group :=
  { group with children := Query.withoutTextAll group.children }

private theorem toQuery_prune (group : Group) : group.prune.toQuery = group.toQuery.prune := rfl

private theorem toQuery_withoutText (group : Group) :
    group.withoutText.toQuery = group.toQuery.withoutText := rfl

end Group

namespace Rendering.Dialect

variable (dialect : Dialect)

mutual

theorem tokens_prune (parent : GroupHead) (depth position : Nat) (written : Bool) (query : Query) :
    dialect.tokens parent depth position written query.prune =
      dialect.tokens parent depth position written query := by
  match query with
  | .term _ => rfl
  | .phrase _ => rfl
  | .range _ => rfl
  | .group head children =>
    simp only [Query.prune, tokens, Query.countP_pruneAll,
      allTokens_pruneAll head (depth + 1) 0 written children]

/-- A child without text leaves the position, the first leaf and the text of all that follow as
they are. -/
theorem allTokens_pruneAll (parent : GroupHead) (depth position : Nat) (written : Bool)
    (queries : List Query) :
    dialect.allTokens parent depth position written (Query.pruneAll queries) =
      dialect.allTokens parent depth position written queries := by
  match queries with
  | [] => rfl
  | query :: rest =>
    by_cases text : query.hasText = true
    · simp only [Query.pruneAll, text, ↓reduceIte, allTokens, Query.hasText_prune,
        tokens_prune parent depth position written query, allTokens_pruneAll parent depth _ _ rest]
    · have silent : query.hasText = false := Bool.eq_false_iff.mpr text
      simp only [Query.pruneAll, silent, Bool.false_eq_true, ↓reduceIte, allTokens, Bool.or_false,
        tokens_eq_nil dialect parent depth position written query silent, List.nil_append,
        allTokens_pruneAll parent depth position written rest]

end

theorem queryTokens_prune (group : Group) :
    dialect.queryTokens group.prune = dialect.queryTokens group :=
  dialect.tokens_prune group.toGroupHead 0 0 false group.toQuery

/-- The clauses of a walk come from the ranges alone. -/
theorem clauses_of_withoutText_eq {group other : Group} {written another : Written}
    (same : other.withoutText = group.withoutText) (first : dialect.write group = .ok written)
    (second : dialect.write other = .ok another) : another.clauses = written.clauses := by
  have clauses {group : Group} {written : Written} (done : dialect.write group = .ok written) :
      written.clauses = group.toQuery.ranges.map dialect.rangeClause := by
    rw [write_eq, checked] at done
    split at done
    · cases done
    · cases done
      rfl
  rw [clauses first, clauses second, ← Query.ranges_withoutText other.toQuery,
    ← Group.toQuery_withoutText, same, Group.toQuery_withoutText, Query.ranges_withoutText]

end Rendering.Dialect

/-- Without its ranges, empty phrases and textless groups a tree has the same text; its range
clauses are those of its ranges, depth first, and stay when tests and phrases come, go or change;
the filter expression is these clauses and the search's own filter. -/
theorem text_and_clauses_independent (backend : Backend) (search : Search)
    (resolved : ∀ leaf ∈ search.query.toQuery.textLeaves, leaf.occur.isSet) :
    ∃ written rendered, backend.dialect.write search.query = .ok written ∧
      backend.dialect.render search = .ok rendered ∧
      (∃ pruned, backend.dialect.render { search with query := search.query.prune } = .ok pruned ∧
        pruned.text = rendered.text) ∧
      written.clauses = search.query.toQuery.ranges.map backend.dialect.rangeClause ∧
      (∀ other : Group, (∀ leaf ∈ other.toQuery.textLeaves, leaf.occur.isSet) →
        other.withoutText = search.query.withoutText →
        ∃ another, backend.dialect.write other = .ok another ∧
          another.clauses = written.clauses) ∧
      rendered.filter = backend.dialect.connective.intercalate
        (written.clauses ++ search.filter.toList.map backend.dialect.filterClause) := by
  have walk := backend.dialect.write_of_resolved resolved
  refine ⟨_, _, walk, backend.dialect.render_of_resolved resolved, ?_, rfl, ?_, rfl⟩
  · have kept : ∀ leaf ∈ search.query.prune.toQuery.textLeaves, leaf.occur.isSet := by
      rw [Group.toQuery_prune, Query.textLeaves_prune]
      exact resolved
    refine ⟨_, backend.dialect.render_of_resolved kept, ?_⟩
    exact congrArg Token.textOf (backend.dialect.queryTokens_prune search.query)
  · intro other otherResolved same
    have second := backend.dialect.write_of_resolved otherResolved
    exact ⟨_, second, backend.dialect.clauses_of_withoutText_eq same walk second⟩

/-- Two words with ranges, an empty phrase and a group of ranges between them. -/
def scatteredSearch : Search where
  query := ⟨⟨.root, .always, none⟩, [
    .range ⟨"year", .int 1990 2000, true, true, none, none, .always⟩,
    .group ⟨.or, .sometimes, none⟩ [
      .group ⟨.and, .never, none⟩ [.range ⟨"price", .text "a" "b", true, false, none, none, .never⟩],
      .term ⟨.term, ⟨"title", "red"⟩, none, .sometimes⟩,
      .phrase ⟨[], 0, none, .always⟩,
      .term ⟨.keyword, ⟨"title", "dark red"⟩, none, .always⟩]]⟩
  sort := none
  filter := some ⟨"status", .text "new", .eq⟩

theorem text_and_clauses_independent_scattered :
    (∀ leaf ∈ scatteredSearch.query.toQuery.textLeaves, leaf.occur.isSet) ∧
      ∃ written rendered, solr.write scatteredSearch.query = .ok written ∧
        solr.render scatteredSearch = .ok rendered ∧
        (∃ pruned, solr.render { scatteredSearch with query := scatteredSearch.query.prune } =
          .ok pruned ∧ pruned.text = rendered.text) ∧
        written.clauses.length = 2 := by
  have resolved : ∀ leaf ∈ scatteredSearch.query.toQuery.textLeaves, leaf.occur.isSet := by decide
  obtain ⟨written, rendered, walk, rendering, pruned, clauses, _, _⟩ :=
    text_and_clauses_independent .solr scatteredSearch resolved
  exact ⟨resolved, written, rendered, walk, rendering, pruned, by rw [clauses]; rfl⟩

end SearchQuery
