import SearchQuery.Proofs.Draft.Growth
import SearchQuery.Proofs.Draft.Resolution

/-!
What a new draft that grew is built to: its filter is the one that was added, and every range in it
was added as well (`Draft.GrowsTo.filter_build`, `Draft.GrowsTo.exists_of_mem_ranges`).
-/

namespace SearchQuery

namespace Draft

theorem effectiveFilter_eq (draft : Draft) :
    draft.effectiveFilter = draft.filter.or (lastFilter draft.groups) := by
  obtain ⟨_, _, _, _, _, _, _, _, filter, _⟩ := draft
  cases filter <;> rfl

theorem Offers.children {caseSensitive : Bool} {group : Draft} {tests : List Query}
    (offers : group.Offers caseSensitive tests) : group.children = tests := by
  rw [children_eq, offers.queries, offers.groups, groupQueries, List.append_nil]

private theorem lastFilter_of_offers {caseSensitive : Bool} {groups : List Draft}
    {tests : List (List Query)}
    (offers : List.Forall₂ (Offers caseSensitive) groups tests) : lastFilter groups = none := by
  induction offers with
  | nil => rfl
  | cons first _ ih =>
    rw [lastFilter, ih, effectiveFilter_eq, first.filter, first.groups]
    rfl

namespace GrowsTo

variable {caseSensitive : Bool} {after : Draft} {additions : Additions}

theorem filter_build (grows : (Draft.root caseSensitive).GrowsTo after additions) :
    after.build.filter = additions.filter := by
  obtain ⟨groups, same, offers⟩ := grows.groups
  have none : lastFilter after.groups = none := by
    rw [same]
    exact lastFilter_of_offers offers
  have own : after.filter = additions.filter := grows.filter.trans Option.or_none
  rw [build, effectiveFilter_eq, none, own, Option.or_none]

theorem exists_of_mem_ranges (grows : (Draft.root caseSensitive).GrowsTo after additions)
    {range : Range} (member : range ∈ after.build.query.toQuery.ranges) :
    ∃ query, (query ∈ additions.clauses ∨ ∃ tests ∈ additions.groups, query ∈ tests) ∧
      range ∈ query.ranges := by
  have member : range ∈ Query.allRanges after.children := member
  rw [Query.allRanges_eq_flatMap] at member
  obtain ⟨query, there, present⟩ := List.mem_flatMap.mp member
  rw [children_eq, groupQueries_eq_map] at there
  rcases List.mem_append.mp there with clause | nested
  · obtain ⟨entries, same, queries, _⟩ := grows.clauses
    have stored : after.clauses.queries = additions.clauses := by
      rw [Clauses.queries, same]
      exact queries
    exact ⟨query, .inl (stored ▸ clause), present⟩
  · obtain ⟨group, known, rfl⟩ := List.mem_map.mp nested
    obtain ⟨groups, same, offers⟩ := grows.groups
    have offered : group ∈ groups := by
      rw [same] at known
      exact known
    obtain ⟨tests, listed, offer⟩ := List.Forall₂.exists_mem_of_mem offers group offered
    rw [Query.ranges, offer.children, Query.allRanges_eq_flatMap] at present
    obtain ⟨test, among, own⟩ := List.mem_flatMap.mp present
    exact ⟨test, .inr ⟨tests, listed, among⟩, own⟩

end GrowsTo

end Draft

end SearchQuery
