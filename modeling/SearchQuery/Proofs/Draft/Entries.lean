import SearchQuery.Proofs.Draft.Keys

/-!
Entries under different keys do not meet. What is stored or taken out under one key is done in the
same way whether there is an entry under another or not (`Clauses.insert_erase`), and so is the
search for a free key, unless the other is one that can be given out (`Clauses.freeNumber_erase`).
-/

namespace SearchQuery

namespace Entry

variable {key other : String}

theorem mem_assign_self (key : String) (query : Query) (entries : List Entry) :
    (key, query) ∈ assign key query entries := by
  induction entries with
  | nil => exact List.mem_singleton.mpr rfl
  | cons entry rest ih =>
    rw [assign]
    split
    · exact List.mem_cons_self
    · exact List.mem_cons_of_mem entry ih

private theorem assign_filter_ne (different : other ≠ key) (query : Query) (entries : List Entry) :
    assign other query (entries.filter fun entry => entry.1 ≠ key) =
      (assign other query entries).filter fun entry => entry.1 ≠ key := by
  induction entries with
  | nil => simp [assign, different]
  | cons entry rest ih =>
    by_cases same : entry.1 = other
    · simp [assign, same, different]
    · by_cases named : entry.1 = key
      · simpa [assign, named, different.symm] using ih
      · simpa [assign, same, named] using ih

end Entry

namespace Clauses

variable {clauses : Clauses} {key other : String}

private theorem eq_of_entries {first second : Clauses} (same : first.entries = second.entries) :
    first = second := by
  cases first
  cases second
  cases same
  rfl

theorem get?_eq_some_iff {query : Query} :
    clauses.get? key = some query ↔ (key, query) ∈ clauses.entries := by
  constructor
  · intro found
    obtain ⟨⟨name, stored⟩, first, rfl⟩ := Option.map_eq_some_iff.mp found
    have named := List.find?_some first
    simp only [decide_eq_true_eq] at named
    subst named
    exact List.mem_of_find?_eq_some first
  · intro member
    have some : (clauses.entries.find? fun entry => entry.1 = key).isSome :=
      List.find?_isSome.mpr ⟨_, member, decide_eq_true rfl⟩
    obtain ⟨entry, first⟩ := Option.isSome_iff_exists.mp some
    have named : entry.1 = key := by simpa using List.find?_some first
    have same : entry = (key, query) :=
      List.inj_on_of_nodup_map clauses.distinct (List.mem_of_find?_eq_some first) member named
    rw [get?, first, same, Option.map_some]

theorem get?_insert (clauses : Clauses) (key : String) (query : Query) :
    (clauses.insert key query).get? key = some query :=
  get?_eq_some_iff.mpr (Entry.mem_assign_self key query clauses.entries)

/-- What is inserted under a new key can be taken out again. -/
theorem erase_insert (absent : key ∉ clauses.keys) (query : Query) :
    (clauses.insert key query).erase key = clauses := by
  have added : (clauses.insert key query).entries = clauses.entries ++ [(key, query)] :=
    Entry.assign_of_notMem absent
  refine eq_of_entries ?_
  simp only [erase, added, List.filter_append, Entry.filter_ne_of_notMem absent]
  simp

theorem insert_erase (different : other ≠ key) (query : Query) :
    (clauses.erase key).insert other query = (clauses.insert other query).erase key :=
  eq_of_entries (Entry.assign_filter_ne different query clauses.entries)

theorem erase_comm (clauses : Clauses) (key other : String) :
    (clauses.erase key).erase other = (clauses.erase other).erase key := by
  refine eq_of_entries ?_
  simp only [erase, List.filter_filter, Bool.and_comm]

theorem mem_keys_erase : other ∈ (clauses.erase key).keys ↔ other ∈ clauses.keys ∧ other ≠ key := by
  simp only [keys, Entry.keysOf, erase, List.mem_map, List.mem_filter, decide_eq_true_eq]
  constructor
  · rintro ⟨entry, ⟨member, kept⟩, rfl⟩
    exact ⟨⟨entry, member, rfl⟩, kept⟩
  · rintro ⟨⟨entry, member, rfl⟩, kept⟩
    exact ⟨entry, ⟨member, kept⟩, rfl⟩

theorem replace_erase (different : other ≠ key) (query : Query) :
    (clauses.erase key).replace other query = (clauses.replace other query).erase key := by
  have there : (clauses.erase key).contains other = clauses.contains other := by
    rw [Bool.eq_iff_iff, contains, contains, List.contains_iff_mem, List.contains_iff_mem,
      mem_keys_erase, and_iff_left different]
  rw [replace, replace, there]
  split
  · exact insert_erase different query
  · rfl

theorem KeySearch.erase {start number : Nat} (foreign : ∀ number, key ≠ autoKey number)
    (search : clauses.KeySearch start number) :
    (clauses.erase key).KeySearch start number := by
  induction search with
  | found free => exact .found fun there => free (mem_keys_erase.mp there).1
  | taken taken _ ih => exact .taken (mem_keys_erase.mpr ⟨taken, (foreign _).symm⟩) ih

theorem freeNumber_erase (foreign : ∀ number, key ≠ autoKey number) (clauses : Clauses)
    (start : Nat) : (clauses.erase key).freeNumber start = clauses.freeNumber start :=
  (keySearch_iff _ start _).mp (.erase foreign ((clauses.keySearch_iff start _).mpr rfl))

end Clauses

end SearchQuery
