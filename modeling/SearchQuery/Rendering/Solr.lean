import SearchQuery.Rendering.Azure

/-!
Requests to Solr: text for its standard query parser, bracketed ranges as filter query, and sort
clauses.
-/

namespace SearchQuery.Rendering

def solrLiteral : Literal → String
  | .number digits => digits
  | .text value => quote value

def solrValue : FilterValue → String
  | .text value => escapeTerm value
  | .number value => value.exactText
  | .flag value => if value then "true" else "false"

def solrRangeClause (range : Range) : String :=
  (if range.occur = .never then "-" else "") ++ range.field ++ ":" ++
    (if range.includeMin then "[" else "\x7b") ++ solrLiteral range.lower ++ " TO " ++
    solrLiteral range.upper ++ if range.includeMax then "]" else "\x7d"

/-- A comparison is a range with one end open. -/
def solrFilterClause (filter : Filter) : String :=
  let value := solrValue filter.value
  match filter.comparator with
  | .eq => filter.field ++ ":" ++ value
  | .notEq => "-" ++ filter.field ++ ":" ++ value
  | .gt => filter.field ++ ":\x7b" ++ value ++ " TO *]"
  | .gte => filter.field ++ ":[" ++ value ++ " TO *]"
  | .lt => filter.field ++ ":[* TO " ++ value ++ "\x7d"
  | .lte => filter.field ++ ":[* TO " ++ value ++ "]"

def solr : Dialect where
  parenthesizes depth := 2 ≤ depth
  relaxesFirst := true
  boostSeparator _ := '^'
  rangeClause := solrRangeClause
  filterClause := solrFilterClause
  connective := " AND "

def solrSortText (key : SortKey) : String :=
  let name :=
    match key.sortType with
    | .score => "score"
    | .documentOrder => "_docid_"
    | _ => key.field
  name ++ " " ++ directionText key

structure SolrRequest where
  query : String
  filter : String
  sort : List String
  defaultField : String
  defaultOperator : String
deriving DecidableEq, Repr

namespace SolrRequest

def ofSearch (settings : SolrSettings) (search : Search) : Except UnresolvedLeaf SolrRequest := do
  let rendered ← solr.render search
  return {
    query := rendered.text
    filter := rendered.filter
    sort := ((search.sort.map SortKeys.keys).getD []).map solrSortText
    defaultField := settings.defaultField
    defaultOperator := settings.defaultOperator }

/-- The parameters of a request. Empty ones are left out, and an empty query matches everything. -/
def params (request : SolrRequest) : List (String × String) :=
  ("q", if request.query = "" then "*:*" else request.query) ::
    [("fq", request.filter), ("sort", ",".intercalate request.sort), ("df", request.defaultField),
      ("q.op", request.defaultOperator)].filter fun (_, value) => value ≠ ""

end SolrRequest

end SearchQuery.Rendering

namespace SearchQuery

/-- How a backend wants queries to be written. -/
def Backend.dialect : Backend → Rendering.Dialect
  | .azure => Rendering.azure
  | .solr => Rendering.solr

end SearchQuery
