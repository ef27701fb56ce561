import SearchQuery.Calendar.Instant
import SearchQuery.Draft.Clauses
import SearchQuery.Query.Search
import SearchQuery.Text.LetterCase

/-!
A draft is a group in the making: queries under keys, drafts of nested groups after them, a filter
and sort keys. What is added gets an occurrence at once.
-/

namespace SearchQuery

structure Draft where
  kind : GroupKind
  occur : Occurrence
  /-- What a query gets whose own occurrence is not set. -/
  childrenOccur : Occurrence
  boost : Option Single
  caseSensitive : Bool
  clauses : Clauses
  /-- The number that the next key given out may have. -/
  nextKey : Nat
  groups : List Draft
  filter : Option Filter
  sortKeys : List SortKey

/-- Choices for a test or phrase. -/
structure LeafOptions where
  occur : Occurrence := .notSet
  boost : Option Single := none
  key : Option String := none
  caseSensitive : Option Bool := none

/-- Choices for a range. -/
structure RangeOptions where
  includeMin : Bool := true
  includeMax : Bool := true
  precisionStep : Option UInt32 := none
  occur : Occurrence := .notSet
  boost : Option Single := none
  key : Option String := none

namespace Draft

def empty (kind : GroupKind) (occur childrenOccur : Occurrence) (caseSensitive : Bool) : Draft where
  kind := kind
  occur := occur
  childrenOccur := childrenOccur
  boost := none
  caseSensitive := caseSensitive
  clauses := .empty
  nextKey := 0
  groups := []
  filter := none
  sortKeys := []

/-- The draft of a whole search. -/
def root (caseSensitive : Bool) : Draft :=
  empty .root .always .always caseSensitive

def isEmpty (draft : Draft) : Bool :=
  draft.clauses.size = 0 && draft.groups.isEmpty

/-- Stores a query under a key, or under the next free one. -/
def store (draft : Draft) (key : Option String) (query : Query) : Draft :=
  match key with
  | some key => { draft with clauses := draft.clauses.insert key query }
  | none =>
    let number := draft.clauses.freeNumber draft.nextKey
    { draft with
      clauses := draft.clauses.insert (Clauses.autoKey number) query
      nextKey := number + 1 }

def resolveOccur (draft : Draft) (occur : Occurrence) : Occurrence :=
  occur.orElse draft.childrenOccur

def resolve (draft : Draft) (query : Query) : Query :=
  query.resolve draft.childrenOccur

/-- Adds a query as it is, but for the occurrences that are not set. -/
def add (draft : Draft) (query : Query) : Draft :=
  draft.store none (draft.resolve query)

def insert (draft : Draft) (key : String) (query : Query) : Draft :=
  draft.store (some key) (draft.resolve query)

/-- Puts a query in the place of another. Without one under the key nothing is stored. -/
def replace (draft : Draft) (key : String) (query : Query) : Draft :=
  { draft with clauses := draft.clauses.replace key (draft.resolve query) }

def remove (draft : Draft) (key : String) : Draft :=
  { draft with clauses := draft.clauses.erase key }

/-- A value as a choice of letter case asks, or else as the draft does. -/
def fold (draft : Draft) (caseSensitive : Option Bool) (value : String) : String :=
  Text.folded (caseSensitive.getD draft.caseSensitive) value

def addTest (draft : Draft) (matching : Matching) (field value : String) (options : LeafOptions) :
    Draft :=
  draft.store options.key <| .term {
    matching
    term := ⟨field, draft.fold options.caseSensitive value⟩
    boost := options.boost
    occur := draft.resolveOccur options.occur }

def addPhrase (draft : Draft) (slop : UInt32) (terms : List Term) (options : LeafOptions) : Draft :=
  draft.store options.key <| .phrase {
    terms := terms.map fun term =>
      { term with value := draft.fold options.caseSensitive term.value }
    slop
    boost := options.boost
    occur := draft.resolveOccur options.occur }

def addRange (draft : Draft) (field : String) (interval : Interval) (options : RangeOptions) :
    Draft :=
  draft.store options.key <| .range {
    field
    interval
    includeMin := options.includeMin
    includeMax := options.includeMax
    precisionStep := options.precisionStep
    boost := options.boost
    occur := draft.resolveOccur options.occur }

end Draft

/-- Dates are compared as milliseconds. -/
def Calendar.Instant.interval (lower upper : Instant) : Interval :=
  .long (.ofInt lower.millis) (.ofInt upper.millis)

/-- The two kinds of groups below the outermost one. -/
inductive Junction where
  | and
  | or
deriving DecidableEq, Repr

namespace Junction

def kind : Junction → GroupKind
  | .and => .and
  | .or => .or

def occur : Junction → Occurrence
  | .and => .always
  | .or => .sometimes

end Junction

namespace Draft

/-- An empty draft for a group inside this one. -/
def child (draft : Draft) (kind : GroupKind) (occur childrenOccur : Occurrence) : Draft :=
  empty kind occur childrenOccur draft.caseSensitive

/-- A nested group that itself and its children get the junction's occurrence where none is set. -/
def junctionChild (draft : Draft) (junction : Junction) (occur : Occurrence) : Draft :=
  draft.child junction.kind (occur.orElse junction.occur) junction.occur

/-- A nested group that takes what is not set from this one. -/
def groupChild (draft : Draft) (occur childrenOccur : Occurrence) : Draft :=
  let childrenOccur := draft.resolveOccur childrenOccur
  let kind : GroupKind := if childrenOccur = .sometimes then .or else .and
  draft.child kind (draft.resolveOccur occur) childrenOccur

def addGroup (draft group : Draft) : Draft :=
  { draft with groups := draft.groups ++ [group] }

/-- Changes a group where it stands. -/
def changeGroup (draft : Draft) (index : Nat) (change : Draft → Draft) : Draft :=
  { draft with groups := draft.groups.modify index change }

/-- Adds a group with one test for each value. Without values there is no group. -/
def addExpansion (draft : Draft) (matching : Matching) (field : String) (values : List String)
    (options : LeafOptions) : Draft :=
  let group := values.foldl
    (fun group value => group.addTest matching field value { options with key := none })
    (draft.junctionChild .or .sometimes)
  if values.isEmpty then draft else draft.addGroup group

def setFilter (draft : Draft) (filter : Filter) : Draft :=
  { draft with filter := some filter }

def addSort (draft : Draft) (key : SortKey) : Draft :=
  { draft with sortKeys := draft.sortKeys ++ [key] }

mutual

/-- Clauses first, groups after them. -/
def children : Draft → List Query
  | ⟨_, _, _, _, _, clauses, _, groups, _, _⟩ => clauses.queries ++ groupQueries groups

def groupQueries : List Draft → List Query
  | [] => []
  | draft :: rest =>
    .group ⟨draft.kind, draft.occur, draft.boost⟩ (children draft) :: groupQueries rest

end

mutual

/-- The draft's own sort keys, then those of its groups in order. -/
def allSortKeys : Draft → List SortKey
  | ⟨_, _, _, _, _, _, _, groups, _, sortKeys⟩ => sortKeys ++ groupSortKeys groups

def groupSortKeys : List Draft → List SortKey
  | [] => []
  | draft :: rest => allSortKeys draft ++ groupSortKeys rest

end

mutual

/-- The draft's own filter, or else that of the last group that has one. -/
def effectiveFilter : Draft → Option Filter
  | ⟨_, _, _, _, _, _, _, groups, filter, _⟩ =>
    match filter with
    | some filter => some filter
    | none => lastFilter groups

def lastFilter : List Draft → Option Filter
  | [] => none
  | draft :: rest =>
    match lastFilter rest with
    | some filter => some filter
    | none => effectiveFilter draft

end

def build (draft : Draft) : Search where
  query := ⟨⟨draft.kind, draft.occur, draft.boost⟩, draft.children⟩
  sort := SortKeys.ofList? draft.allSortKeys
  filter := draft.effectiveFilter

end Draft

end SearchQuery
