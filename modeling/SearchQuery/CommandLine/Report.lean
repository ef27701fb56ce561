import SearchQuery.CommandLine.Arguments
import SearchQuery.Rendering.Solr
import SearchQuery.Text.Grid

/-!
A search rendered for one backend, and the three ways to show it.
-/

namespace SearchQuery.CommandLine

structure Report where
  backend : Backend
  query : String
  filter : String
  sort : List String
  /-- The request that the backend takes, in order of the names. -/
  request : List (String × String)
deriving DecidableEq, Repr

namespace Report

open Rendering (AzureRequest SolrRequest UnresolvedLeaf)

def ofSearch (settings : Settings) (search : Search) : Except UnresolvedLeaf Report :=
  match settings.general.backend with
  | .azure => do
    let request ← AzureRequest.ofSearch settings.azure search
    return ⟨.azure, request.search, request.filter, request.orderBy, request.body⟩
  | .solr => do
    let request ← SolrRequest.ofSearch settings.solr search
    let params := request.params.mergeSort fun first second => first.1 ≤ second.1
    return ⟨.solr, request.query, request.filter, request.sort, params⟩

def toJson (report : Report) : Json.Value :=
  .object [
    ("backend", .string report.backend.name),
    ("query", .string report.query),
    ("filter", .string report.filter),
    ("sort", .array (report.sort.map .string)),
    ("request", .object (report.request.map fun (name, value) => (name, .string value)))]

def grid (report : Report) : Text.Grid where
  header := ["Part", "Value"]
  rows := [["Backend", report.backend.name], ["Query", report.query], ["Filter", report.filter],
    ["Sort", ", ".intercalate report.sort]]

/-- Query, filter and sort on one line, without the empty ones among the latter two. -/
def compactText (report : Report) : String :=
  " | ".intercalate <|
    ["query=" ++ report.query] ++
      (if report.filter = "" then [] else ["filter=" ++ report.filter]) ++
      (if report.sort.isEmpty then [] else ["sort=" ++ ",".intercalate report.sort])

/-- The lines of a report. Without colour its table is drawn in ASCII. -/
def lines (report : Report) (format : OutputFormat) (plain : Bool) : List String :=
  match format with
  | .json => [report.toJson.pretty]
  | .table => report.grid.lines (if plain then .ascii else .drawn)
  | .compact => [report.compactText]

end Report

end SearchQuery.CommandLine
