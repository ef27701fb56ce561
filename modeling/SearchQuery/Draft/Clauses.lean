import SearchQuery.Query.Basic

/-!
Queries under keys, in the order in which the keys came. A query stored under a key that is there
takes the place of the one before.
-/

namespace SearchQuery

abbrev Entry := String × Query

namespace Entry

/-- The entries after storing a query: in place under a key that is there, else at the end. -/
def assign (key : String) (query : Query) : List Entry → List Entry
  | [] => [(key, query)]
  | entry :: rest =>
    if entry.1 = key then (key, query) :: rest else entry :: assign key query rest

def keysOf (entries : List Entry) : List String :=
  entries.map Prod.fst

theorem keysOf_assign (key : String) (query : Query) (entries : List Entry) :
    keysOf (assign key query entries) =
      if key ∈ keysOf entries then keysOf entries else keysOf entries ++ [key] := by
  induction entries with
  | nil => simp [assign, keysOf]
  | cons entry rest ih =>
    by_cases same : entry.1 = key
    · simp [assign, keysOf, same]
    · have other : ¬ key = entry.1 := fun equal => same equal.symm
      by_cases member : key ∈ keysOf rest
      · simp only [if_pos member] at ih
        simp only [keysOf, List.map_cons] at ih member ⊢
        simp [assign, same, ih, member]
      · simp only [if_neg member] at ih
        simp only [keysOf, List.map_cons] at ih member ⊢
        simp [assign, same, ih, other, member]

theorem nodup_assign {key : String} {query : Query} {entries : List Entry}
    (distinct : (keysOf entries).Nodup) : (keysOf (assign key query entries)).Nodup := by
  rw [keysOf_assign]
  split
  · exact distinct
  · rename_i absent
    exact List.nodup_append.2 ⟨distinct, by simp, by
      intro other member last present
      simp only [List.mem_singleton] at present
      subst present
      exact fun same => absent (same ▸ member)⟩

end Entry

/-- Entries under distinct keys. -/
structure Clauses where
  entries : List Entry
  distinct : (Entry.keysOf entries).Nodup

namespace Clauses

def empty : Clauses where
  entries := []
  distinct := List.nodup_nil

def keys (clauses : Clauses) : List String :=
  Entry.keysOf clauses.entries

def queries (clauses : Clauses) : List Query :=
  clauses.entries.map Prod.snd

def size (clauses : Clauses) : Nat :=
  clauses.entries.length

def contains (clauses : Clauses) (key : String) : Bool :=
  clauses.keys.contains key

def get? (clauses : Clauses) (key : String) : Option Query :=
  (clauses.entries.find? fun entry => entry.1 = key).map Prod.snd

def insert (clauses : Clauses) (key : String) (query : Query) : Clauses where
  entries := Entry.assign key query clauses.entries
  distinct := Entry.nodup_assign clauses.distinct

/-- Stores a query only under a key that is there. -/
def replace (clauses : Clauses) (key : String) (query : Query) : Clauses :=
  if clauses.contains key then clauses.insert key query else clauses

def erase (clauses : Clauses) (key : String) : Clauses where
  entries := clauses.entries.filter fun entry => entry.1 ≠ key
  distinct := (List.filter_sublist.map _).nodup clauses.distinct

/-- The key with this number among those that are given out. -/
def autoKey (n : Nat) : String :=
  "Query_" ++ toString n

/-- The first number from `start` on whose key is free: among one number more than there are
entries, one is. -/
def freeNumber (clauses : Clauses) (start : Nat) : Nat :=
  ((List.range' start (clauses.size + 1)).find? fun n => !clauses.contains (autoKey n)).getD start

end Clauses

end SearchQuery
