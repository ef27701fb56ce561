import Mathlib.Data.List.Basic
import SearchQuery.Proofs.Draft.Entries
import SearchQuery.Proofs.Query.Resolution
import SearchQuery.Proofs.Rendering.Structure

/-!
What it is to fill in the occurrences of a query that are not set, said place by place
(`Query.FillsIn`). There is one way to do it, which filling in takes; a second time changes nothing,
so a draft stores a query in which all are set as it is (`filling_in_is_complete_and_minimal`).
-/

namespace SearchQuery

namespace Query

def children : Query → List Query
  | .group _ children => children
  | _ => []

theorem at?_nil (query : Query) : query.at? [] = some query := by
  cases query <;> rfl

theorem at?_cons (index : Nat) (path : List Nat) (query : Query) :
    query.at? (index :: path) = query.children[index]?.bind (at? path) := by
  have among (index : Nat) (queries : List Query) :
      atIndex? index path queries = queries[index]?.bind (at? path) := by
    induction queries generalizing index with
    | nil => rfl
    | cons query rest ih =>
      cases index with
      | zero => rfl
      | succ index => exact ih index
  cases query with
  | group head children => exact among index children
  | _ => rfl

/-- A way goes on from where its first part leads. -/
theorem at?_append (path way : List Nat) (query : Query) :
    query.at? (path ++ way) = (query.at? path).bind (at? way) := by
  induction path generalizing query with
  | nil => rw [List.nil_append, at?_nil, Option.bind_some]
  | cons index path ih =>
    rw [List.cons_append, at?_cons, at?_cons]
    cases query.children[index]? with
    | none => rfl
    | some child => exact ih child

private theorem resolveAll_eq_map (fallback : Occurrence) (queries : List Query) :
    resolveAll fallback queries = queries.map (resolve fallback) := by
  induction queries with
  | nil => rfl
  | cons query rest ih => rw [resolveAll, ih, List.map_cons]

theorem resolve_group (fallback : Occurrence) (head : GroupHead) (children : List Query) :
    (group head children).resolve fallback =
      group { head with occur := head.occur.orElse fallback }
        (children.map (resolve head.kind.childrenOccur)) := by
  rw [resolve, resolveAll_eq_map]

@[simp]
theorem occur_resolve (fallback : Occurrence) (query : Query) :
    (query.resolve fallback).occur = query.occur.orElse fallback := by
  cases query <;> rfl

mutual

/-- A query without what its occurrences say. -/
def undecided : Query → Query
  | .term test => .term { test with occur := .notSet }
  | .phrase p => .phrase { p with occur := .notSet }
  | .range r => .range { r with occur := .notSet }
  | .group head children => .group { head with occur := .notSet } (allUndecided children)

def allUndecided : List Query → List Query
  | [] => []
  | query :: rest => query.undecided :: allUndecided rest

end

private theorem children_undecided (query : Query) :
    query.undecided.children = query.children.map undecided := by
  have all (queries : List Query) : allUndecided queries = queries.map undecided := by
    induction queries with
    | nil => rfl
    | cons query rest ih => rw [allUndecided, ih, List.map_cons]
  cases query with
  | group head children => exact all children
  | _ => rfl

theorem at?_undecided (path : List Nat) (query : Query) :
    query.undecided.at? path = (query.at? path).map undecided := by
  induction path generalizing query with
  | nil => rw [at?_nil, at?_nil, Option.map_some]
  | cons index path ih =>
    rw [at?_cons, at?_cons, children_undecided, List.getElem?_map]
    cases query.children[index]? with
    | none => rfl
    | some child => exact ih child

mutual

theorem undecided_resolve (fallback : Occurrence) (query : Query) :
    (query.resolve fallback).undecided = query.undecided := by
  match query with
  | .term _ | .phrase _ | .range _ => rfl
  | .group head children =>
    exact congrArg (group _) (allUndecided_resolveAll head.kind.childrenOccur children)

theorem allUndecided_resolveAll (fallback : Occurrence) (queries : List Query) :
    allUndecided (resolveAll fallback queries) = allUndecided queries := by
  match queries with
  | [] => rfl
  | query :: rest =>
    rw [resolveAll, allUndecided, allUndecided, undecided_resolve fallback query,
      allUndecided_resolveAll fallback rest]

end

private theorem exists_children_resolve (fallback : Occurrence) (query : Query) :
    ∃ given : Occurrence, given.isSet ∧
      (query.resolve fallback).children = query.children.map (resolve given) := by
  cases query with
  | group head children =>
    exact ⟨_, head.kind.isSet_childrenOccur, congrArg Query.children (resolve_group ..)⟩
  | _ => exact ⟨.always, rfl, rfl⟩

/-- At each place lies what lay there, filled in with an occurrence that is set. -/
theorem exists_at?_resolve {fallback : Occurrence} (set : fallback.isSet) (path : List Nat)
    (query : Query) :
    ∃ given : Occurrence, given.isSet ∧
      (query.resolve fallback).at? path = (query.at? path).map (resolve given) := by
  induction path generalizing fallback query with
  | nil => exact ⟨fallback, set, by rw [at?_nil, at?_nil, Option.map_some]⟩
  | cons index path ih =>
    obtain ⟨inside, decided, filled⟩ := exists_children_resolve fallback query
    rw [at?_cons, at?_cons, filled, List.getElem?_map]
    cases query.children[index]? with
    | none => exact ⟨inside, decided, rfl⟩
    | some child => exact ih decided child

/-- `after` is `before` with every occurrence set: all that was set is kept, and what was not has
become `fallback` at the top and elsewhere what the enclosing group gives by its kind. -/
structure FillsIn (fallback : Occurrence) (before after : Query) : Prop where
  complete : ∀ path filled, after.at? path = some filled → filled.occur.isSet
  same : after.undecided = before.undecided
  kept : ∀ path found filled, before.at? path = some found → after.at? path = some filled →
    found.occur.isSet → filled.occur = found.occur
  top : before.occur = .notSet → after.occur = fallback
  below : ∀ path head children index found filled,
    before.at? path = some (.group head children) → children[index]? = some found →
    after.at? (path ++ [index]) = some filled → found.occur = .notSet →
    filled.occur = head.kind.childrenOccur

variable {fallback : Occurrence} {before after : Query}

theorem fillsIn_resolve (set : fallback.isSet) (query : Query) :
    query.FillsIn fallback (query.resolve fallback) where
  complete path filled leads := by
    obtain ⟨given, decided, there⟩ := exists_at?_resolve set path query
    obtain ⟨found, -, rfl⟩ := Option.map_eq_some_iff.mp (there.symm.trans leads)
    rw [occur_resolve]
    exact Occurrence.isSet_orElse decided found.occur
  same := undecided_resolve fallback query
  kept path found filled place leads decided := by
    obtain ⟨given, -, there⟩ := exists_at?_resolve set path query
    rw [there, place] at leads
    cases leads
    rw [occur_resolve, Occurrence.orElse_of_isSet decided]
  top unset := by
    rw [occur_resolve, unset]
    rfl
  below path head children index found filled enclosing child leads unset := by
    obtain ⟨given, -, there⟩ := exists_at?_resolve set path query
    have inside : ((group head children).resolve given).at? [index] =
        some (found.resolve head.kind.childrenOccur) := by
      rw [resolve_group, at?_cons, Query.children, List.getElem?_map, child, Option.map_some,
        Option.bind_some, at?_nil]
    rw [at?_append, there, enclosing, Option.map_some, Option.bind_some, inside] at leads
    cases leads
    rw [occur_resolve, unset]
    rfl

mutual

/-- Queries that are the same but for their occurrences, and have the same at each place, are the
same. -/
theorem eq_of_occurs (first second : Query) (same : first.undecided = second.undecided)
    (occurs : ∀ path one other, first.at? path = some one → second.at? path = some other →
      one.occur = other.occur) : first = second := by
  have top : first.occur = second.occur := occurs [] _ _ (at?_nil first) (at?_nil second)
  match first with
  | .term ⟨_, _, _, _⟩ =>
    cases second <;> cases same
    cases top
    rfl
  | .phrase ⟨_, _, _, _⟩ =>
    cases second <;> cases same
    cases top
    rfl
  | .range ⟨_, _, _, _, _, _, _⟩ =>
    cases second <;> cases same
    cases top
    rfl
  | .group ⟨kind, occur, boost⟩ children =>
    obtain _ | _ | _ | ⟨⟨_, _, _⟩, others⟩ := second
    case group =>
      obtain ⟨heads, nested⟩ := group.inj same
      cases heads
      cases top
      refine congrArg (group _) (eq_of_allOccurs children others nested ?_)
      intro index path one other here there
      exact occurs (index :: path) one other here there
    all_goals cases same

theorem eq_of_allOccurs (first second : List Query)
    (same : allUndecided first = allUndecided second)
    (occurs : ∀ index path one other, atIndex? index path first = some one →
      atIndex? index path second = some other → one.occur = other.occur) : first = second := by
  match first, second with
  | [], [] => rfl
  | query :: rest, other :: others =>
    obtain ⟨here, later⟩ := List.cons.inj same
    rw [eq_of_occurs query other here (occurs 0),
      eq_of_allOccurs rest others later fun index => occurs (index + 1)]

end

private theorem exists_group_of_at? {index : Nat} {query found : Query}
    (leads : query.at? [index] = some found) :
    ∃ head children, query = group head children ∧ children[index]? = some found := by
  rw [at?_cons] at leads
  obtain ⟨child, there, here⟩ := Option.bind_eq_some_iff.mp leads
  cases (at?_nil child).symm.trans here
  cases query with
  | group head children => exact ⟨head, children, rfl, there⟩
  | _ => cases there

/-- Filled in queries have the places of those they come from. -/
theorem FillsIn.exists_at? (fills : before.FillsIn fallback after) {path : List Nat}
    {filled : Query} (leads : after.at? path = some filled) :
    ∃ found, before.at? path = some found := by
  have alike : (before.at? path).map undecided = some filled.undecided := by
    rw [← at?_undecided, ← fills.same, at?_undecided, leads, Option.map_some]
  obtain ⟨found, there, -⟩ := Option.map_eq_some_iff.mp alike
  exact ⟨found, there⟩

theorem FillsIn.unique {other : Query} (fills : before.FillsIn fallback after)
    (fillsToo : before.FillsIn fallback other) : after = other := by
  apply eq_of_occurs after other (fills.same.trans fillsToo.same.symm)
  intro path one another here there
  obtain ⟨found, place⟩ := fills.exists_at? here
  by_cases unset : found.occur = .notSet
  · obtain rfl | ⟨way, index, rfl⟩ := List.eq_nil_or_concat' path
    · cases (at?_nil before).symm.trans place
      cases (at?_nil after).symm.trans here
      cases (at?_nil other).symm.trans there
      exact (fills.top unset).trans (fillsToo.top unset).symm
    · rw [at?_append] at place
      obtain ⟨enclosing, leads, child⟩ := Option.bind_eq_some_iff.mp place
      obtain ⟨head, children, rfl, member⟩ := exists_group_of_at? child
      exact (fills.below way head children index found one leads member here unset).trans
        (fillsToo.below way head children index found another leads member there unset).symm
  · have set : found.occur.isSet := bne_iff_ne.mpr unset
    exact (fills.kept path found one place here set).trans
      (fillsToo.kept path found another place there set).symm

theorem fillsIn_iff (set : fallback.isSet) (query : Query) :
    query.FillsIn fallback after ↔ after = query.resolve fallback := by
  constructor
  · exact fun fills => fills.unique (fillsIn_resolve set query)
  · rintro rfl
    exact fillsIn_resolve set query

/-- Where every occurrence is set there is nothing to fill in. -/
theorem Resolved.resolve_eq {query : Query} (resolved : query.Resolved) (fallback : Occurrence) :
    query.resolve fallback = query := by
  induction resolved generalizing fallback with
  | term set => rw [resolve, Occurrence.orElse_of_isSet set]
  | phrase set => rw [resolve, Occurrence.orElse_of_isSet set]
  | range set => rw [resolve, Occurrence.orElse_of_isSet set]
  | @group head children set _ ih =>
    have same : children.map (resolve head.kind.childrenOccur) = children.map id :=
      List.map_congr_left fun child member => ih child member _
    rw [resolve_group, Occurrence.orElse_of_isSet set, same, List.map_id]

end Query

namespace Draft

variable (draft : Draft) {query : Query}

private theorem entries_add (resolved : query.Resolved) :
    ∃ number, (draft.add query).clauses.entries =
      draft.clauses.entries ++ [(Clauses.autoKey number, query)] := by
  have free := (draft.clauses.keySearch_iff draft.nextKey _).mpr rfl
  rw [add, Draft.resolve, resolved.resolve_eq]
  exact ⟨_, Entry.assign_of_notMem free.notMem⟩

theorem get?_insert (resolved : query.Resolved) (key : String) :
    (draft.insert key query).clauses.get? key = some query := by
  rw [insert, Draft.resolve, resolved.resolve_eq]
  exact Clauses.get?_insert draft.clauses key query

/-- Where letter case matters, a test is added in the same way with its parts or as a query. -/
theorem add_term (sensitive : draft.caseSensitive = true) (matching : Matching)
    (field value : String) :
    draft.add (.term ⟨matching, ⟨field, value⟩, none, .notSet⟩) =
      draft.addTest matching field value {} := by
  have kept : draft.fold none value = value := if_pos sensitive
  rw [addTest, kept]
  rfl

end Draft

/-- Filling in a query with an occurrence that is set does what `Query.FillsIn` says, and that is
the only query of which it says so. Filling in the result again changes nothing, whatever with. So
a draft stores a query in which all is set as it is; and a test of which nothing is set it stores
as if the test had been added by its parts. -/
theorem filling_in_is_complete_and_minimal {fallback : Occurrence} (set : fallback.isSet)
    (query : Query) :
    (∀ after, query.FillsIn fallback after ↔ after = query.resolve fallback) ∧
    (∀ other, (query.resolve fallback).resolve other = query.resolve fallback) ∧
    (∀ draft : Draft, query.Resolved →
      (∃ number, (draft.add query).clauses.entries =
        draft.clauses.entries ++ [(Clauses.autoKey number, query)]) ∧
      ∀ key, (draft.insert key query).clauses.get? key = some query) ∧
    (∀ draft : Draft, draft.caseSensitive = true → ∀ matching field value,
      draft.add (.term ⟨matching, ⟨field, value⟩, none, .notSet⟩) =
        draft.addTest matching field value {}) := by
  refine ⟨fun _ => Query.fillsIn_iff set query, ?_, ?_, fun draft => draft.add_term⟩
  · exact (Query.resolved_resolve set query).resolve_eq
  · exact fun draft resolved => ⟨draft.entries_add resolved, draft.get?_insert resolved⟩

/-- A group of alternatives with a group inside it that is excluded. -/
def shelfQuery (top title year : Occurrence) : Query :=
  .group ⟨.or, top, none⟩ [
    .term ⟨.prefixed, ⟨"title", "re"⟩, none, title⟩,
    .group ⟨.and, .never, none⟩ [
      .range ⟨"year", .int 1990 2000, true, true, none, none, year⟩,
      .phrase ⟨[⟨"body", "dark red"⟩], 0, none, .sometimes⟩]]

/-- The three occurrences that are not set become three others. -/
theorem filling_in_is_complete_and_minimal_shelf :
    (shelfQuery .notSet .notSet .notSet).FillsIn .never (shelfQuery .never .sometimes .always) ∧
      (shelfQuery .never .sometimes .always).resolve .sometimes =
        shelfQuery .never .sometimes .always ∧
      ((Draft.root true).insert "shelf" (shelfQuery .never .sometimes .always)).clauses.get?
        "shelf" = some (shelfQuery .never .sometimes .always) ∧
      (Draft.root true).add (.term ⟨.fuzzy, ⟨"title", "Red"⟩, none, .notSet⟩) =
        (Draft.root true).addTest .fuzzy "title" "Red" {} := by
  have set : Occurrence.never.isSet := rfl
  obtain ⟨filled, again, _, leaf⟩ :=
    filling_in_is_complete_and_minimal set (shelfQuery .notSet .notSet .notSet)
  obtain ⟨_, _, stored, _⟩ :=
    filling_in_is_complete_and_minimal set (shelfQuery .never .sometimes .always)
  have resolved : (shelfQuery .never .sometimes .always).Resolved :=
    Query.resolved_resolve set (shelfQuery .notSet .notSet .notSet)
  refine ⟨(filled _).mpr rfl, again .sometimes, ?_, leaf (Draft.root true) rfl _ _ _⟩
  exact (stored (Draft.root true) resolved).2 "shelf"

end SearchQuery
