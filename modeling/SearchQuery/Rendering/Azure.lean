import SearchQuery.Rendering.Walk
import SearchQuery.Settings
import SearchQuery.Warning

/-!
Requests to Azure Cognitive Search: full Lucene query text, an OData filter expression, and sort
expressions.
-/

namespace SearchQuery.Rendering

/-- Text in single quotes; a quote inside is doubled. -/
def odataString (text : String) : String :=
  String.ofList ('\'' :: text.toList.flatMap (fun c => if c = '\'' then [c, c] else [c]) ++ ['\''])

def odataLiteral : Literal → String
  | .number digits => digits
  | .text value => odataString value

def odataOperator : Comparator → String
  | .eq => "eq"
  | .notEq => "ne"
  | .gt => "gt"
  | .gte => "ge"
  | .lt => "lt"
  | .lte => "le"

def odataValue : FilterValue → String
  | .text value => odataString value
  | .number value => value.exactText
  | .flag value => if value then "true" else "false"

def azureRangeClause (range : Range) : String :=
  let lowerOperator := if range.includeMin then "ge" else "gt"
  let upperOperator := if range.includeMax then "le" else "lt"
  (if range.occur = .never then "not " else "") ++
    "(" ++ range.field ++ " " ++ lowerOperator ++ " " ++ odataLiteral range.lower ++
    " and " ++ range.field ++ " " ++ upperOperator ++ " " ++ odataLiteral range.upper ++ ")"

def azureFilterClause (filter : Filter) : String :=
  filter.field ++ " " ++ odataOperator filter.comparator ++ " " ++ odataValue filter.value

/-- Phrases and fuzzy tests use the tilde themselves, so their boost follows a caret. -/
def azureBoostSeparator : LeafStyle → Char
  | .phrase => '^'
  | .test .fuzzy => '^'
  | .test _ => '~'

def azure : Dialect where
  parenthesizes depth := 1 ≤ depth
  relaxesFirst := false
  boostSeparator := azureBoostSeparator
  rangeClause := azureRangeClause
  filterClause := azureFilterClause
  connective := " and "

def directionText (key : SortKey) : String :=
  if key.descending then "desc" else "asc"

/-- Document order cannot be asked for. -/
def azureSortText? (key : SortKey) : Option String :=
  match key.sortType with
  | .score => some ("search.score() " ++ directionText key)
  | .documentOrder => none
  | _ => some (key.field ++ " " ++ directionText key)

structure AzureRequest where
  search : String
  filter : String
  orderBy : List String
  queryType : String
  searchMode : String
deriving DecidableEq, Repr

namespace AzureRequest

def ofSearch (settings : AzureSettings) (search : Search) : Except UnresolvedLeaf AzureRequest := do
  let rendered ← azure.render search
  return {
    search := rendered.text
    filter := rendered.filter
    orderBy := (search.sort.map SortKeys.keys).getD [] |>.filterMap azureSortText?
    queryType := settings.queryType
    searchMode := settings.searchMode }

/-- One warning for each sort key that is dropped. -/
def warnings (search : Search) : List Warning :=
  ((search.sort.map SortKeys.keys).getD []).filterMap fun key =>
    if key.sortType = .documentOrder then some (.documentOrder key.field) else none

/-- The members of the request body in order of their names. Empty parts are left out, and an empty
query searches everything. -/
def body (request : AzureRequest) : List (String × String) :=
  (if request.filter = "" then [] else [("filter", request.filter)]) ++
    (if request.orderBy.isEmpty then [] else [("orderby", ",".intercalate request.orderBy)]) ++
    [("queryType", request.queryType),
      ("search", if request.search = "" then "*" else request.search),
      ("searchMode", request.searchMode)]

end AzureRequest

end SearchQuery.Rendering
