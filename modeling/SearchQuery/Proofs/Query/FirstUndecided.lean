import SearchQuery.Proofs.Query.Resolution
import SearchQuery.Proofs.Rendering.Structure

/-!
The first query of a tree, depth first, whose occurrence is not set. Validation names it by the way
that leads there, and a backend stops at the first that is a leaf of the text
(`first_undecided_is_named`).
-/

namespace SearchQuery

open Rendering (Leaf UnresolvedLeaf)

namespace Query

mutual

/-- Every query of a tree with the way to it, depth first, a group before its children. -/
def places : Query → List (List Nat × Query)
  | .group head children => ([], .group head children) :: allPlaces 0 children
  | query => [([], query)]

/-- The same for children, of which `index` have gone before. -/
def allPlaces (index : Nat) : List Query → List (List Nat × Query)
  | [] => []
  | query :: rest =>
    query.places.map (fun place => (index :: place.1, place.2)) ++ allPlaces (index + 1) rest

end

mutual

theorem mem_places_iff {path : List Nat} {found : Query} (query : Query) :
    (path, found) ∈ query.places ↔ query.at? path = some found := by
  match query with
  | .term _ | .phrase _ | .range _ => cases path <;> simp [places, at?, eq_comm]
  | .group head children =>
    rw [places, List.mem_cons, mem_allPlaces_iff 0 children]
    cases path with
    | nil => simp [at?, eq_comm]
    | cons index path =>
      constructor
      · rintro (⟨⟨⟩⟩ | ⟨later, way, same, found⟩)
        rw [Nat.zero_add] at same
        cases same
        exact found
      · exact fun found => .inr ⟨index, path, by rw [Nat.zero_add], found⟩

theorem mem_allPlaces_iff {path : List Nat} {found : Query} (index : Nat) (queries : List Query) :
    (path, found) ∈ allPlaces index queries ↔
      ∃ later way, path = (index + later) :: way ∧ atIndex? later way queries = some found := by
  match queries with
  | [] => simp [allPlaces, atIndex?]
  | query :: rest =>
    rw [allPlaces, List.mem_append, mem_allPlaces_iff (index + 1) rest]
    constructor
    · rintro (here | ⟨later, way, rfl, found⟩)
      · obtain ⟨place, present, same⟩ := List.mem_map.mp here
        cases same
        exact ⟨0, place.1, rfl, (mem_places_iff query).mp present⟩
      · exact ⟨later + 1, way, by rw [Nat.add_assoc, Nat.add_comm 1], found⟩
    · rintro ⟨later, way, rfl, found⟩
      cases later with
      | zero => exact .inl (List.mem_map.mpr ⟨(way, _), (mem_places_iff query).mpr found, rfl⟩)
      | succ later => exact .inr ⟨later, way, by rw [Nat.add_assoc, Nat.add_comm 1], found⟩

end

mutual

/-- The places are in the order of their ways: a way comes before all that go on from it, and of two
others the one that turns off at an earlier child. -/
theorem pairwise_places (query : Query) : query.places.Pairwise fun a b => a.1 < b.1 := by
  match query with
  | .term _ | .phrase _ | .range _ => simp [places]
  | .group head children =>
    rw [places, List.pairwise_cons]
    refine ⟨?_, pairwise_allPlaces 0 children⟩
    rintro ⟨path, found⟩ member
    obtain ⟨later, way, rfl, -⟩ := (mem_allPlaces_iff 0 children).mp member
    exact List.nil_lt_cons _ _

theorem pairwise_allPlaces (index : Nat) (queries : List Query) :
    (allPlaces index queries).Pairwise fun a b => a.1 < b.1 := by
  match queries with
  | [] => simp [allPlaces]
  | query :: rest =>
    rw [allPlaces, List.pairwise_append]
    refine ⟨?_, pairwise_allPlaces (index + 1) rest, ?_⟩
    · rw [List.pairwise_map]
      refine (pairwise_places query).imp fun earlier => ?_
      exact List.cons_lt_cons_iff.mpr (.inr ⟨rfl, earlier⟩)
    · intro first here ⟨path, found⟩ there
      obtain ⟨place, -, rfl⟩ := List.mem_map.mp here
      obtain ⟨later, way, rfl, -⟩ := (mem_allPlaces_iff (index + 1) rest).mp there
      exact List.cons_lt_cons_iff.mpr (.inl (by omega))

end

/-- The way leads to a query of which `holds` is true, and of none before it, depth first. -/
structure FirstAt (holds : Query → Prop) (query : Query) (path : List Nat) (found : Query) :
    Prop where
  leads : query.at? path = some found
  here : holds found
  first : ∀ earlier < path, ∀ other, query.at? earlier = some other → ¬ holds other

/-- Going through the places in order finds the first. -/
theorem firstAt_iff {holds : Query → Prop} [DecidablePred holds] {query found : Query}
    {path : List Nat} :
    query.FirstAt holds path found ↔
      query.places.find? (fun place => holds place.2) = some (path, found) := by
  rw [List.find?_eq_some_iff_append, decide_eq_true_eq]
  have ordered := pairwise_places query
  constructor
  · intro first
    obtain ⟨before, after, split⟩ := List.append_of_mem ((mem_places_iff query).mpr first.leads)
    refine ⟨first.here, before, after, split, ?_⟩
    rintro ⟨earlier, other⟩ member
    rw [split, List.pairwise_append] at ordered
    have present : (earlier, other) ∈ query.places := by simp [split, member]
    have less := ordered.2.2 _ member _ List.mem_cons_self
    simpa using first.first earlier less other ((mem_places_iff query).mp present)
  · rintro ⟨here, before, after, split, none⟩
    refine ⟨(mem_places_iff query).mp (by simp [split]), here, ?_⟩
    intro earlier less other found
    have present := (mem_places_iff query).mpr found
    rw [split, List.mem_append, List.mem_cons] at present
    rw [split, List.pairwise_append, List.pairwise_cons] at ordered
    rcases present with member | same | member
    · simpa using none _ member
    · cases same
      exact absurd less Std.lt_irrefl
    · exact absurd (Std.lt_trans less (ordered.2.1.1 _ member)) Std.lt_irrefl

private theorem exists_firstAt_iff {holds : Query → Prop} [DecidablePred holds] {query : Query} :
    (∃ path found, query.FirstAt holds path found) ↔
      ∃ path found, query.at? path = some found ∧ holds found := by
  constructor
  · rintro ⟨path, found, first⟩
    exact ⟨path, found, first.leads, first.here⟩
  · rintro ⟨path, found, leads, here⟩
    have some : (query.places.find? fun place => holds place.2).isSome :=
      List.find?_isSome.mpr ⟨(path, found), (mem_places_iff query).mpr leads, by simpa using here⟩
    obtain ⟨⟨way, other⟩, first⟩ := Option.isSome_iff_exists.mp some
    exact ⟨way, other, firstAt_iff.mpr first⟩

private theorem pathTo_own (query : Query) :
    (if query.occur.isSet then none else some ([] : List Nat)) =
      ([(([] : List Nat), query)].find? fun place => place.2.occur = .notSet).map Prod.fst := by
  rw [List.find?_singleton]
  cases query.occur <;> simp [Occurrence.isSet]

mutual

/-- Validation goes through the places in order. -/
theorem unresolved?_eq (query : Query) :
    query.unresolved? =
      (query.places.find? fun place => place.2.occur = .notSet).map Prod.fst := by
  match query with
  | .term test => exact pathTo_own (.term test)
  | .phrase p => exact pathTo_own (.phrase p)
  | .range r => exact pathTo_own (.range r)
  | .group head children =>
    rw [unresolved?, places, List.find?_cons, firstUnresolved?_eq 0 children]
    cases occur : head.occur <;> simp [Query.occur, occur, Occurrence.isSet]

theorem firstUnresolved?_eq (index : Nat) (queries : List Query) :
    firstUnresolved? index queries =
      ((allPlaces index queries).find? fun place => place.2.occur = .notSet).map Prod.fst := by
  match queries with
  | [] => rfl
  | query :: rest =>
    rw [firstUnresolved?, allPlaces, List.find?_append, List.find?_map, unresolved?_eq query,
      firstUnresolved?_eq (index + 1) rest]
    simp only [Function.comp_def]
    cases query.places.find? fun place => place.2.occur = .notSet <;> rfl

end

/-- What a query itself writes to the text: a test, or a phrase with terms. -/
def textLeaf? : Query → Option Leaf
  | .term test => some (.test test)
  | .phrase p => if p.terms.isEmpty then none else some (.phrase p)
  | .range _ => none
  | .group _ _ => none

mutual

theorem textLeaves_eq (query : Query) :
    query.textLeaves = query.places.filterMap fun place => place.2.textLeaf? := by
  match query with
  | .term test => rfl
  | .phrase p => by_cases empty : p.terms = [] <;> simp [textLeaves, places, textLeaf?, empty]
  | .range _ => rfl
  | .group head children =>
    rw [textLeaves, places, allTextLeaves_eq 0 children]
    rfl

theorem allTextLeaves_eq (index : Nat) (queries : List Query) :
    allTextLeaves queries = (allPlaces index queries).filterMap fun place => place.2.textLeaf? := by
  match queries with
  | [] => rfl
  | query :: rest =>
    rw [allTextLeaves, allPlaces, List.filterMap_append, List.filterMap_map, textLeaves_eq query,
      allTextLeaves_eq (index + 1) rest]
    rfl

end

/-- Whether a query is a leaf of the text and its occurrence is not set. -/
def Stops (query : Query) : Prop :=
  ∃ leaf ∈ query.textLeaf?, leaf.occur = .notSet

instance : DecidablePred Stops := fun query =>
  inferInstanceAs (Decidable (∃ leaf ∈ query.textLeaf?, leaf.occur = .notSet))

private theorem decide_stops (query : Query) :
    decide query.Stops = query.textLeaf?.any fun leaf => !leaf.occur.isSet := by
  rw [Bool.eq_iff_iff, decide_eq_true_eq, Stops]
  cases query.textLeaf? with
  | none => simp
  | some leaf => cases occur : leaf.occur <;> simp [occur, Occurrence.isSet]

end Query

open Query (FirstAt Stops)

theorem Search.validate_eq_ok_iff_places {search : Search} :
    search.validate = .ok () ↔
      ∀ path query, search.query.toQuery.at? path = some query → query.occur.isSet := by
  have none : search.validate = .ok () ↔ search.query.toQuery.unresolved? = none := by
    rw [validate]
    cases search.query.toQuery.unresolved? <;> simp
  rw [none, Query.unresolved?_eq, Option.map_eq_none_iff, List.find?_eq_none]
  simp [Query.mem_places_iff, Occurrence.isSet]

theorem Search.validate_eq_error_iff {search : Search} {error : QueryError} :
    search.validate = .error error ↔
      ∃ path found, search.query.toQuery.FirstAt (fun query => query.occur = .notSet) path found ∧
        error = .unresolvedOccurrence path := by
  simp only [Query.firstAt_iff, validate, Query.unresolved?_eq]
  cases search.query.toQuery.places.find? fun place => place.2.occur = .notSet with
  | none => simp
  | some place => simp [Prod.ext_iff, eq_comm]

/-- Rendering stops at the first leaf whose occurrence is not set. -/
theorem Rendering.Dialect.render_eq_error_iff {dialect : Dialect} {search : Search}
    {stopped : UnresolvedLeaf} :
    dialect.render search = .error stopped ↔
      ∃ path found leaf, search.query.toQuery.FirstAt Stops path found ∧
        found.textLeaf? = some leaf ∧ stopped = ⟨leaf.body⟩ := by
  simp only [Query.firstAt_iff, render, write_eq, checked, Query.textLeaves_eq, Query.decide_stops,
    List.find?_filterMap]
  cases first : search.query.toQuery.places.find? fun place =>
      place.2.textLeaf?.any fun leaf => !leaf.occur.isSet with
  | none => simp [bind, Except.bind, pure, Except.pure]
  | some place =>
    obtain ⟨path, found⟩ := place
    have stops := List.find?_some first
    obtain ⟨leaf, own, -⟩ := (Option.any_eq_true _ _).mp stops
    replace own : found.textLeaf? = some leaf := own
    rw [Option.bind_some, own]
    constructor
    · rintro ⟨⟩
      exact ⟨path, found, leaf, rfl, own, rfl⟩
    · rintro ⟨_, _, other, ⟨⟩, same, rfl⟩
      cases own.symm.trans same
      rfl

theorem Rendering.AzureRequest.ofSearch_eq_error_iff {settings : AzureSettings} {search : Search}
    {stopped : UnresolvedLeaf} :
    ofSearch settings search = .error stopped ↔ azure.render search = .error stopped := by
  rw [ofSearch]
  cases azure.render search <;> simp [bind, Except.bind, pure, Except.pure]

theorem Rendering.SolrRequest.ofSearch_eq_error_iff {settings : SolrSettings} {search : Search}
    {stopped : UnresolvedLeaf} :
    ofSearch settings search = .error stopped ↔ solr.render search = .error stopped := by
  rw [ofSearch]
  cases solr.render search <;> simp [bind, Except.bind, pure, Except.pure]

theorem pathText_eq (path : List Nat) :
    pathText path = "root" ++ String.join (path.map fun index => "/" ++ toString index) := by
  have spread (first : String) :
      "/".intercalate (first :: path.map toString) =
        first ++ String.join (path.map fun index => "/" ++ toString index) := by
    induction path generalizing first with
    | nil => simp
    | cons index rest ih =>
      rw [List.map_cons, String.intercalate_cons_cons, ih, List.map_cons, String.join_cons,
        String.append_assoc, String.append_assoc]
  exact spread "root"

/-- The text of a search has a leaf whose occurrence is not set, and this is the first. -/
def Search.StopsWith (search : Search) (stopped : UnresolvedLeaf) : Prop :=
  ∃ path found leaf, search.query.toQuery.FirstAt Stops path found ∧
    found.textLeaf? = some leaf ∧ stopped = ⟨leaf.body⟩

open Rendering in
/-- Validation accepts a search in which every query has its occurrence set. Otherwise it names the
way to the first one that has not, depth first and a group before its children. The backends stop
at leaves of the text only, and both at the first of them whose occurrence is not set, with one
message; so they never stop at a valid search. -/
theorem first_undecided_is_named (search : Search) :
    (search.validate = .ok () ↔
      ∀ path query, search.query.toQuery.at? path = some query → query.occur.isSet) ∧
    (∀ error, search.validate = .error error ↔
      ∃ path found, search.query.toQuery.FirstAt (fun query => query.occur = .notSet) path found ∧
        error = .unresolvedOccurrence path) ∧
    (∀ path, (QueryError.unresolvedOccurrence path).message = "unresolved occurrence at " ++
      ("root" ++ String.join (path.map fun index => "/" ++ toString index))) ∧
    ((∃ stopped, search.StopsWith stopped) ↔ ∃ path query leaf,
      search.query.toQuery.at? path = some query ∧ query.textLeaf? = some leaf ∧
        leaf.occur = .notSet) ∧
    (∀ settings stopped,
      AzureRequest.ofSearch settings search = .error stopped ↔ search.StopsWith stopped) ∧
    (∀ settings stopped,
      SolrRequest.ofSearch settings search = .error stopped ↔ search.StopsWith stopped) ∧
    (search.validate = .ok () → (∀ settings, ∃ request,
      AzureRequest.ofSearch settings search = .ok request) ∧
      ∀ settings, ∃ request, SolrRequest.ofSearch settings search = .ok request) := by
  refine ⟨Search.validate_eq_ok_iff_places, fun _ => Search.validate_eq_error_iff, ?_, ?_, ?_, ?_,
    ?_⟩
  · intro path
    exact congrArg ("unresolved occurrence at " ++ ·) (pathText_eq path)
  · constructor
    · rintro ⟨_, path, found, leaf, first, own, rfl⟩
      obtain ⟨_, same, unset⟩ := first.here
      exact ⟨path, found, _, first.leads, same, unset⟩
    · rintro ⟨path, query, leaf, leads, own, unset⟩
      have stops : query.Stops := ⟨leaf, own, unset⟩
      obtain ⟨way, found, first⟩ := Query.exists_firstAt_iff.mpr ⟨path, query, leads, stops⟩
      obtain ⟨other, same, _⟩ := first.here
      exact ⟨⟨other.body⟩, way, found, other, first, same, rfl⟩
  · exact fun _ _ => AzureRequest.ofSearch_eq_error_iff.trans Dialect.render_eq_error_iff
  · exact fun _ _ => SolrRequest.ofSearch_eq_error_iff.trans Dialect.render_eq_error_iff
  · intro valid
    have resolved := ((Search.validate_eq_ok_iff search).mp valid).leaves
    constructor
    · intro settings
      rw [AzureRequest.ofSearch, azure.render_of_resolved resolved]
      exact ⟨_, rfl⟩
    · intro settings
      rw [SolrRequest.ofSearch, solr.render_of_resolved resolved]
      exact ⟨_, rfl⟩

/-- The range comes first, but only the phrase after it is written to the text. -/
def datedSearch (occur : Occurrence) : Search where
  query := ⟨⟨.root, .always, none⟩, [
    .term ⟨.term, ⟨"title", "red"⟩, none, .sometimes⟩,
    .group ⟨.and, .always, none⟩ [
      .range ⟨"year", .int 1990 2000, true, true, none, none, occur⟩,
      .phrase ⟨[⟨"body", "dark red"⟩], 0, none, occur⟩]]⟩
  sort := none
  filter := none

open Rendering in
/-- Undecided, validation names the range and the backends stop at the phrase. -/
theorem first_undecided_is_named_dated :
    (datedSearch .always).validate = .ok () ∧
      (∃ request, AzureRequest.ofSearch {} (datedSearch .always) = .ok request) ∧
      AzureRequest.ofSearch {} (datedSearch .notSet) = .error ⟨"body:\"dark red\""⟩ ∧
      ∃ found, (datedSearch .notSet).query.toQuery.FirstAt
        (fun query => query.occur = .notSet) [1, 0] found := by
  obtain ⟨_, _, _, _, _, _, decided⟩ := first_undecided_is_named (datedSearch .always)
  obtain ⟨_, named, _, _, stops, _⟩ := first_undecided_is_named (datedSearch .notSet)
  have stopped : (datedSearch .notSet).StopsWith ⟨"body:\"dark red\""⟩ :=
    ⟨[1, 1], _, _, Query.firstAt_iff.mpr rfl, rfl, rfl⟩
  obtain ⟨path, found, first, same⟩ := (named (.unresolvedOccurrence [1, 0])).mp rfl
  cases same
  exact ⟨rfl, (decided rfl).1 {}, (stops {} _).mpr stopped, found, first⟩

end SearchQuery
