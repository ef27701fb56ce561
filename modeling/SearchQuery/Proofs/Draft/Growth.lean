import Mathlib.Data.List.Basic
import Mathlib.Data.List.Nodup
import Mathlib.Data.List.Perm.Subperm
import SearchQuery.Request.Filters

/-!
How a draft grows: at the end of its clauses, groups and sort keys, and nowhere else. New clauses
get keys of their own (`Clauses.exists_freeNumber`), so that none takes the place of another.
-/

namespace SearchQuery

theorem Entry.assign_of_notMem {key : String} {query : Query} {entries : List Entry}
    (absent : key ∉ keysOf entries) : assign key query entries = entries ++ [(key, query)] := by
  induction entries with
  | nil => rfl
  | cons entry rest ih =>
    obtain ⟨other, later⟩ := not_or.mp (mt List.mem_cons.mpr absent)
    rw [assign, if_neg (Ne.symm other), ih later, List.cons_append]

namespace Clauses

theorem autoKey_injective : Function.Injective autoKey := by
  intro n m same
  have digits : Nat.toDigits 10 n = Nat.toDigits 10 m := by
    simpa only [Nat.toString_eq_ofList_toDigits, String.ofList_inj] using
      (String.append_right_inj "Query_").mp same
  rw [← Nat.ofDigitChars_ten_toDigits (n := n), digits, Nat.ofDigitChars_ten_toDigits]

/-- There are fewer keys than numbers to try. -/
theorem exists_free (clauses : Clauses) (start : Nat) :
    ∃ n ∈ List.range' start (clauses.size + 1), autoKey n ∉ clauses.keys := by
  by_contra none
  push Not at none
  have tried : ((List.range' start (clauses.size + 1)).map autoKey).Nodup :=
    (List.nodup_range' ..).map autoKey_injective
  have taken : (List.range' start (clauses.size + 1)).map autoKey ⊆ clauses.keys := by
    intro key member
    obtain ⟨n, present, rfl⟩ := List.mem_map.mp member
    exact none n present
  have fits := (tried.subperm taken).length_le
  rw [List.length_map, List.length_range', size, keys, Entry.keysOf, List.length_map] at fits
  exact absurd fits (Nat.not_succ_le_self _)

theorem exists_freeNumber (clauses : Clauses) (start : Nat) :
    ∃ n, clauses.freeNumber start = n ∧ start ≤ n ∧ autoKey n ∉ clauses.keys := by
  obtain ⟨free, tried, absent⟩ := clauses.exists_free start
  have found : ((List.range' start (clauses.size + 1)).find?
      fun n => !clauses.contains (autoKey n)).isSome := by
    refine List.find?_isSome.mpr ⟨free, tried, ?_⟩
    simpa [contains] using absent
  obtain ⟨n, first⟩ := Option.isSome_iff_exists.mp found
  refine ⟨n, by rw [freeNumber, first, Option.getD_some], ?_, ?_⟩
  · exact (List.mem_range'_1.mp (List.mem_of_find?_eq_some first)).1
  · simpa [contains] using List.find?_some first

end Clauses

/-- Entries under keys that were given out, with ascending numbers from `start` to below `stop`. -/
inductive Entry.Numbered : Nat → List Entry → Nat → Prop where
  | nil (start : Nat) : Numbered start [] start
  | cons {start number stop : Nat} {query : Query} {rest : List Entry} (later : start ≤ number)
      (numbered : Numbered (number + 1) rest stop) :
      Numbered start ((Clauses.autoKey number, query) :: rest) stop

theorem Entry.Numbered.append {start middle stop : Nat} {first second : List Entry}
    (left : Numbered start first middle) (right : Numbered middle second stop) :
    Numbered start (first ++ second) stop := by
  induction left with
  | nil => exact right
  | cons later _ ih => exact .cons later (ih right)

theorem Occurrence.orElse_of_isSet {occur : Occurrence} (set : occur.isSet)
    (fallback : Occurrence) : occur.orElse fallback = occur := by
  cases occur <;> first | rfl | cases set

/-- What comes to a draft: clauses, groups of tests, a filter and sort keys. -/
structure Additions where
  clauses : List Query := []
  groups : List (List Query) := []
  filter : Option Filter := none
  sortKeys : List SortKey := []

namespace Additions

/-- One after the other. The later filter counts. -/
def andThen (first second : Additions) : Additions where
  clauses := first.clauses ++ second.clauses
  groups := first.groups ++ second.groups
  filter := second.filter.or first.filter
  sortKeys := first.sortKeys ++ second.sortKeys

end Additions

namespace Draft

/-- A group of which any test may match, without anything else. -/
structure Offers (caseSensitive : Bool) (group : Draft) (tests : List Query) : Prop where
  kind : group.kind = .or
  occur : group.occur = .sometimes
  boost : group.boost = none
  folding : group.caseSensitive = caseSensitive
  queries : group.clauses.queries = tests
  groups : group.groups = []
  filter : group.filter = none
  sortKeys : group.sortKeys = []

/-- `after` is `before` with the additions at the ends of what was there. -/
structure GrowsTo (before after : Draft) (additions : Additions) : Prop where
  kind : after.kind = before.kind
  occur : after.occur = before.occur
  childrenOccur : after.childrenOccur = before.childrenOccur
  boost : after.boost = before.boost
  caseSensitive : after.caseSensitive = before.caseSensitive
  clauses : ∃ added, after.clauses.entries = before.clauses.entries ++ added ∧
    added.map Prod.snd = additions.clauses ∧
    Entry.Numbered before.nextKey added after.nextKey
  groups : ∃ added, after.groups = before.groups ++ added ∧
    List.Forall₂ (Offers before.caseSensitive) added additions.groups
  filter : after.filter = additions.filter.or before.filter
  sortKeys : after.sortKeys = before.sortKeys ++ additions.sortKeys

namespace GrowsTo

variable {before middle after draft : Draft} {first second : Additions}

theorem refl (draft : Draft) : draft.GrowsTo draft {} where
  kind := rfl
  occur := rfl
  childrenOccur := rfl
  boost := rfl
  caseSensitive := rfl
  clauses := ⟨[], by simp, rfl, .nil _⟩
  groups := ⟨[], by simp, .nil⟩
  filter := rfl
  sortKeys := by simp

theorem trans (left : before.GrowsTo middle first) (right : middle.GrowsTo after second) :
    before.GrowsTo after (first.andThen second) where
  kind := right.kind.trans left.kind
  occur := right.occur.trans left.occur
  childrenOccur := right.childrenOccur.trans left.childrenOccur
  boost := right.boost.trans left.boost
  caseSensitive := right.caseSensitive.trans left.caseSensitive
  clauses := by
    obtain ⟨early, earlyEntries, earlyQueries, earlyKeys⟩ := left.clauses
    obtain ⟨late, lateEntries, lateQueries, lateKeys⟩ := right.clauses
    refine ⟨early ++ late, ?_, ?_, earlyKeys.append lateKeys⟩
    · rw [lateEntries, earlyEntries, List.append_assoc]
    · rw [List.map_append, earlyQueries, lateQueries, Additions.andThen]
  groups := by
    obtain ⟨early, earlyGroups, earlyOffers⟩ := left.groups
    obtain ⟨late, lateGroups, lateOffers⟩ := right.groups
    rw [left.caseSensitive] at lateOffers
    exact ⟨early ++ late, by rw [lateGroups, earlyGroups, List.append_assoc],
      List.rel_append earlyOffers lateOffers⟩
  filter := by rw [right.filter, left.filter, Additions.andThen, Option.or_assoc]
  sortKeys := by rw [right.sortKeys, left.sortKeys, Additions.andThen, List.append_assoc]

/-- A query under a key that is given out comes last and replaces none. -/
theorem store (draft : Draft) (query : Query) :
    draft.GrowsTo (draft.store none query) { clauses := [query] } := by
  obtain ⟨n, number, later, absent⟩ := draft.clauses.exists_freeNumber draft.nextKey
  have stored : draft.store none query =
      { draft with
        clauses := draft.clauses.insert (Clauses.autoKey n) query
        nextKey := n + 1 } := by
    rw [Draft.store, number]
  rw [stored]
  refine ⟨rfl, rfl, rfl, rfl, rfl, ?_, ⟨[], by simp, .nil⟩, rfl, by simp⟩
  exact ⟨[(Clauses.autoKey n, query)], Entry.assign_of_notMem absent, rfl, .cons later (.nil _)⟩

theorem addTest (draft : Draft) (matching : Matching) (field value : String) (occur : Occurrence) :
    draft.GrowsTo (draft.addTest matching field value { occur })
      { clauses := [.term ⟨matching, ⟨field, Text.folded draft.caseSensitive value⟩, none,
        draft.resolveOccur occur⟩] } :=
  store draft _

/-- One test for each item, in order. -/
theorem addTests {α : Type} (draft : Draft) (matching : Matching) (field value : α → String)
    (items : List α) :
    draft.GrowsTo
      (items.foldl (fun draft item => draft.addTest matching (field item) (value item) {}) draft)
      { clauses := items.map fun item => .term ⟨matching,
        ⟨field item, Text.folded draft.caseSensitive (value item)⟩, none,
        draft.childrenOccur⟩ } := by
  induction items generalizing draft with
  | nil => exact refl draft
  | cons item rest ih =>
    have first := addTest draft matching (field item) (value item) .notSet
    have others := ih (draft.addTest matching (field item) (value item) {})
    rw [first.caseSensitive, first.childrenOccur] at others
    exact first.trans others

theorem addRange (draft : Draft) (field : String) (interval : Interval) (occur : Occurrence) :
    draft.GrowsTo (draft.addRange field interval { occur })
      { clauses := [.range ⟨field, interval, true, true, none, none, draft.resolveOccur occur⟩] } :=
  store draft _

theorem addGroup {group : Draft} {tests : List Query}
    (offers : group.Offers draft.caseSensitive tests) :
    draft.GrowsTo (draft.addGroup group) { groups := [tests] } :=
  ⟨rfl, rfl, rfl, rfl, rfl, ⟨[], by simp [Draft.addGroup], rfl, .nil _⟩,
    ⟨[group], rfl, .cons offers .nil⟩, rfl, by simp [Draft.addGroup]⟩

theorem compare (draft : Draft) (filter : Filter) :
    draft.GrowsTo (draft.compare filter).draft { filter := some filter } :=
  ⟨rfl, rfl, rfl, rfl, rfl, ⟨[], by simp [Draft.compare, setFilter], rfl, .nil _⟩,
    ⟨[], by simp [Draft.compare, setFilter], .nil⟩, rfl, by simp [Draft.compare, setFilter]⟩

theorem addSort (draft : Draft) (key : SortKey) :
    draft.GrowsTo (draft.addSort key) { sortKeys := [key] } :=
  ⟨rfl, rfl, rfl, rfl, rfl, ⟨[], by simp [Draft.addSort], rfl, .nil _⟩,
    ⟨[], by simp [Draft.addSort], .nil⟩, rfl, rfl⟩

end GrowsTo

theorem Offers.of_growsTo {draft group : Draft} {tests : List Query}
    (grows : (draft.junctionChild .or .sometimes).GrowsTo group { clauses := tests }) :
    group.Offers draft.caseSensitive tests where
  kind := grows.kind
  occur := grows.occur
  boost := grows.boost
  folding := grows.caseSensitive
  queries := by
    obtain ⟨added, entries, queries, _⟩ := grows.clauses
    rw [Clauses.queries, entries]
    exact queries
  groups := by
    obtain ⟨added, groups, offers⟩ := grows.groups
    cases offers
    exact groups
  filter := grows.filter
  sortKeys := grows.sortKeys

/-- The group that a draft makes for several tests offers each of them. -/
theorem GrowsTo.addAny {α : Type} (draft : Draft) (matching : Matching) (field value : α → String)
    (items : List α) :
    draft.GrowsTo
      (draft.addGroup (items.foldl
        (fun group item => group.addTest matching (field item) (value item) {})
        (draft.junctionChild .or .sometimes)))
      { groups := [items.map fun item => .term ⟨matching,
        ⟨field item, Text.folded draft.caseSensitive (value item)⟩, none, .sometimes⟩] } :=
  addGroup (.of_growsTo (addTests (draft.junctionChild .or .sometimes) matching field value items))

end Draft

end SearchQuery
