import SearchQuery.Proofs.Rendering.Tokens

/-!
Queries in which every occurrence is set. Validation accepts exactly these, filling in what is not
set makes any query one of them, and none of their leaves stops a walk.
-/

namespace SearchQuery

theorem Occurrence.isSet_orElse {fallback : Occurrence} (set : fallback.isSet)
    (occur : Occurrence) : (occur.orElse fallback).isSet := by
  cases occur with
  | notSet => exact set
  | always => rfl
  | sometimes => rfl
  | never => rfl

theorem GroupKind.isSet_childrenOccur (kind : GroupKind) : kind.childrenOccur.isSet := by
  cases kind <;> rfl

namespace Query

/-- Every occurrence in a query is set, at every depth. -/
inductive Resolved : Query → Prop where
  | term {test : TermTest} (set : test.occur.isSet) : Resolved (.term test)
  | phrase {p : Phrase} (set : p.occur.isSet) : Resolved (.phrase p)
  | range {r : Range} (set : r.occur.isSet) : Resolved (.range r)
  | group {head : GroupHead} {children : List Query} (set : head.occur.isSet)
      (all : ∀ child ∈ children, Resolved child) : Resolved (.group head children)

mutual

theorem resolved_resolve {fallback : Occurrence} (set : fallback.isSet) (query : Query) :
    (query.resolve fallback).Resolved := by
  match query with
  | .term test => exact .term (Occurrence.isSet_orElse set test.occur)
  | .phrase p => exact .phrase (Occurrence.isSet_orElse set p.occur)
  | .range r => exact .range (Occurrence.isSet_orElse set r.occur)
  | .group head children =>
    exact .group (Occurrence.isSet_orElse set head.occur)
      (resolved_resolveAll head.kind.isSet_childrenOccur children)

theorem resolved_resolveAll {fallback : Occurrence} (set : fallback.isSet) (queries : List Query) :
    ∀ query ∈ resolveAll fallback queries, query.Resolved := by
  match queries with
  | [] => simp [resolveAll]
  | query :: rest =>
    intro one member
    rcases List.mem_cons.mp member with rfl | later
    · exact resolved_resolve set query
    · exact resolved_resolveAll set rest one later

end

private theorem firstUnresolved?_cons (position : Nat) (query : Query) (rest : List Query) :
    firstUnresolved? position (query :: rest) = none ↔
      query.unresolved? = none ∧ firstUnresolved? (position + 1) rest = none := by
  rw [firstUnresolved?]
  cases query.unresolved? <;> simp

private theorem noPath_iff (set : Bool) :
    (if set then none else some ([] : List Nat)) = none ↔ set = true := by
  cases set <;> simp

mutual

theorem unresolved?_eq_none_iff (query : Query) : query.unresolved? = none ↔ query.Resolved := by
  match query with
  | .term test => exact (noPath_iff test.occur.isSet).trans ⟨.term, fun | .term set => set⟩
  | .phrase p => exact (noPath_iff p.occur.isSet).trans ⟨.phrase, fun | .phrase set => set⟩
  | .range r => exact (noPath_iff r.occur.isSet).trans ⟨.range, fun | .range set => set⟩
  | .group head children =>
    have all := firstUnresolved?_eq_none_iff 0 children
    cases set : head.occur.isSet with
    | true =>
      simp only [unresolved?, set, ↓reduceIte, all]
      exact ⟨.group set, fun | .group _ resolved => resolved⟩
    | false =>
      simp only [unresolved?, set, Bool.false_eq_true, ↓reduceIte, reduceCtorEq, false_iff]
      rintro ⟨⟩
      simp_all

theorem firstUnresolved?_eq_none_iff (position : Nat) (queries : List Query) :
    firstUnresolved? position queries = none ↔ ∀ query ∈ queries, query.Resolved := by
  match queries with
  | [] => simp [firstUnresolved?]
  | query :: rest =>
    rw [firstUnresolved?_cons, unresolved?_eq_none_iff query,
      firstUnresolved?_eq_none_iff (position + 1) rest, List.forall_mem_cons]

end

theorem Resolved.leaves {query : Query} (resolved : query.Resolved) :
    ∀ leaf ∈ query.textLeaves, leaf.occur.isSet := by
  induction resolved with
  | term set =>
    intro leaf member
    cases List.mem_singleton.mp member
    exact set
  | @phrase p set =>
    intro leaf member
    rw [textLeaves] at member
    split at member
    · simp at member
    · cases List.mem_singleton.mp member
      exact set
  | range _ =>
    intro leaf member
    simp [textLeaves] at member
  | group _ _ ih =>
    intro leaf member
    rw [textLeaves, allTextLeaves_eq_flatMap] at member
    obtain ⟨child, present, inside⟩ := List.mem_flatMap.mp member
    exact ih child present leaf inside

end Query

theorem Search.validate_eq_ok_iff (search : Search) :
    search.validate = .ok () ↔ search.query.toQuery.Resolved := by
  rw [← Query.unresolved?_eq_none_iff, validate]
  cases search.query.toQuery.unresolved? <;> simp

end SearchQuery
