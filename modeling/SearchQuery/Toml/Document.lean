import SearchQuery.Toml.Value

/-!
From the sections of a TOML text to its tables. Each table is defined once.
-/

namespace SearchQuery.Toml

/-- A header as the path to the table around it and the last part: of one table, or of one more
table of an array. -/
inductive Header where
  | table (path : List String) (key : String)
  | element (path : List String) (key : String)
deriving DecidableEq, Repr

/-- A header and the pairs up to the next one. -/
structure Section where
  header : Header
  pairs : List Pair

/-- Headers lead through all tables except those in braces. -/
def headerEnters (origin : Origin) : Bool :=
  origin != .inline

/-- Defines a table. It may be implied by headers before; what they brought stays. -/
def defineTable? (key : String) (pairs : List Pair) (entries : Entries) : Option Entries :=
  match entries.get? key with
  | none => do
    let inner ← Entries.addAll? [] pairs
    return entries.set key (.table .header inner)
  | some (.table .implied inner) => do
    let inner ← Entries.addAll? inner pairs
    return entries.set key (.table .header inner)
  | some _ => none

/-- Adds a table to the ones under the same repeated header. -/
def appendTable? (key : String) (pairs : List Pair) (entries : Entries) : Option Entries :=
  match entries.get? key with
  | none => do
    let inner ← Entries.addAll? [] pairs
    return entries.set key (.tables [inner])
  | some (.tables items) => do
    let inner ← Entries.addAll? [] pairs
    return entries.set key (.tables (items ++ [inner]))
  | some _ => none

def Section.addTo? (part : Section) (entries : Entries) : Option Entries :=
  match part.header with
  | .table path key =>
    Entries.modify? headerEnters .implied (fun _ => defineTable? key part.pairs) path .header
      entries
  | .element path key =>
    Entries.modify? headerEnters .implied (fun _ => appendTable? key part.pairs) path .header
      entries

/-- The document of the pairs before the first header and the sections after them. -/
def ofSections? (pairs : List Pair) (sections : List Section) : Option Entries := do
  let entries ← Entries.addAll? [] pairs
  sections.foldlM (fun entries part => part.addTo? entries) entries

end SearchQuery.Toml
