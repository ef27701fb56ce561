import SearchQuery.Error
import SearchQuery.Query.Basic

/-!
A search: a query with the order of its results and one comparison that filters them.
-/

namespace SearchQuery

/-- What results are ordered by. -/
inductive SortType where
  | score
  | documentOrder
  | string
  | int
  | long
  | float
  | double
deriving DecidableEq, Repr

namespace SortType

def all : List SortType :=
  [.score, .documentOrder, .string, .int, .long, .float, .double]

def name : SortType → String
  | .score => "score"
  | .documentOrder => "document_order"
  | .string => "string"
  | .int => "int"
  | .long => "long"
  | .float => "float"
  | .double => "double"

def ofName? (name : String) : Option SortType :=
  all.find? fun sortType => sortType.name = name

end SortType

structure SortKey where
  field : String
  sortType : SortType
  descending : Bool
deriving DecidableEq, Repr

/-- Sort keys, the primary one first. -/
structure SortKeys where
  keys : List SortKey
deriving DecidableEq, Repr

/-- No order where there is nothing to sort by. -/
def SortKeys.ofList? (keys : List SortKey) : Option SortKeys :=
  if keys.isEmpty then none else some ⟨keys⟩

inductive Comparator where
  | eq
  | notEq
  | gt
  | gte
  | lt
  | lte
deriving DecidableEq, Repr

namespace Comparator

def all : List Comparator :=
  [.eq, .notEq, .gt, .gte, .lt, .lte]

def name : Comparator → String
  | .eq => "eq"
  | .notEq => "not_eq"
  | .gt => "gt"
  | .gte => "gte"
  | .lt => "lt"
  | .lte => "lte"

def ofName? (name : String) : Option Comparator :=
  all.find? fun comparator => comparator.name = name

end Comparator

inductive FilterValue where
  | flag (value : Bool)
  | number (value : Double)
  | text (value : String)
deriving DecidableEq

/-- A comparison that results have to pass, apart from the query. -/
structure Filter where
  field : String
  value : FilterValue
  comparator : Comparator
deriving DecidableEq

structure Search where
  query : Group
  sort : Option SortKeys
  filter : Option Filter

/-- Accepts a search in which every occurrence is set. -/
def Search.validate (search : Search) : Except QueryError Unit :=
  match search.query.toQuery.unresolved? with
  | some path => .error (.unresolvedOccurrence path)
  | none => .ok ()

end SearchQuery
