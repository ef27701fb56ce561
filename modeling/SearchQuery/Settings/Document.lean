import SearchQuery.Error
import SearchQuery.Json.Value
import SearchQuery.Settings
import SearchQuery.Text.LetterCase
import SearchQuery.Text.Blank
import SearchQuery.Toml.Reader

/-!
Settings as TOML texts and as JSON documents. What a TOML text leaves out keeps its default, and
what it adds is ignored.
-/

namespace SearchQuery

namespace Backend

/-- Reads the name of a backend in any letter case, between blanks. -/
def ofText (text : String) : Except QueryError Backend :=
  let name := Text.asciiLowercase (Text.trim text)
  match ofName? name with
  | some backend => .ok backend
  | none => .error (.config (.unknownBackend name))

end Backend

namespace Toml.Value

/-- The values of the fields of a record: a table with the fields as keys, or an array of the fields
in order. A moment is a record of which no field is known. -/
def record? (fields : List String) : Value → Option (List (Option Value))
  | .table _ entries => some (fields.map fun field => Entries.get? field entries)
  | .array items => some ((List.range fields.length).map fun position => items[position]?)
  | .tables items =>
    some ((List.range fields.length).map fun position =>
      items[position]?.map (Value.table .header))
  | .moment _ => some (fields.map fun _ => none)
  | _ => none

def string? : Value → Option String
  | .string text => some text
  | _ => none

def bool? : Value → Option Bool
  | .bool value => some value
  | _ => none

def isEmpty : Value → Bool
  | .table _ entries => entries.isEmpty
  | .array items => items.isEmpty
  | .tables items => items.isEmpty
  | _ => false

/-- A named choice: its name, or a table whose one key has that name and nothing under it. -/
def choice? {α : Type} (ofName? : String → Option α) : Value → Option α
  | .string name => ofName? name
  | .table _ [(name, value)] => if value.isEmpty then ofName? name else none
  | _ => none

/-- A field that may be absent. -/
def withDefault {α : Type} (default : α) (read? : Value → Option α) (field : Option Value) :
    Option α :=
  match field with
  | some value => read? value
  | none => some default

end Toml.Value

open Toml.Value in
def GeneralSettings.ofToml? (value : Toml.Value) : Option GeneralSettings := do
  let defaults : GeneralSettings := {}
  let [backend, caseSensitive] ← value.record? ["backend", "case_sensitive"] | none
  return {
    backend := ← withDefault defaults.backend (choice? Backend.ofName?) backend
    caseSensitive := ← withDefault defaults.caseSensitive bool? caseSensitive }

open Toml.Value in
def AzureSettings.ofToml? (value : Toml.Value) : Option AzureSettings := do
  let defaults : AzureSettings := {}
  let [queryType, searchMode] ← value.record? ["query_type", "search_mode"] | none
  return {
    queryType := ← withDefault defaults.queryType string? queryType
    searchMode := ← withDefault defaults.searchMode string? searchMode }

open Toml.Value in
def SolrSettings.ofToml? (value : Toml.Value) : Option SolrSettings := do
  let defaults : SolrSettings := {}
  let [defaultField, defaultOperator] ← value.record? ["default_field", "default_operator"] | none
  return {
    defaultField := ← withDefault defaults.defaultField string? defaultField
    defaultOperator := ← withDefault defaults.defaultOperator string? defaultOperator }

namespace Settings

open Toml.Value in
def ofToml? (document : Toml.Entries) : Option Settings := do
  return {
    general := ← withDefault {} GeneralSettings.ofToml? (document.get? "quarry")
    azure := ← withDefault {} AzureSettings.ofToml? (document.get? "azure")
    solr := ← withDefault {} SolrSettings.ofToml? (document.get? "solr") }

def ofText (text : String) : Except QueryError Settings :=
  match Toml.read? text with
  | none => .error (.config .notToml)
  | some document =>
    match ofToml? document with
    | none => .error (.config .notSettings)
    | some settings => .ok settings

/-- Reads settings from what the file at a path holds. -/
def ofFile (path : String) (content : Except ReadFault String) : Except QueryError Settings :=
  match content with
  | .ok text => ofText text
  | .error fault => .error (.config (.unreadable path fault))

/-- One section: its header, and each key with the text of its value on a line. -/
def sectionText (name : String) (pairs : List (String × String)) : String :=
  "[" ++ name ++ "]\n" ++ String.join (pairs.map fun (key, value) => key ++ " = " ++ value ++ "\n")

def boolText (value : Bool) : String :=
  if value then "true" else "false"

/-- Settings as a TOML text, with an empty line between sections. -/
def toToml (settings : Settings) : String :=
  "\n".intercalate [
    sectionText "quarry" [
      ("backend", Toml.stringText settings.general.backend.name),
      ("case_sensitive", boolText settings.general.caseSensitive)],
    sectionText "azure" [
      ("query_type", Toml.stringText settings.azure.queryType),
      ("search_mode", Toml.stringText settings.azure.searchMode)],
    sectionText "solr" [
      ("default_field", Toml.stringText settings.solr.defaultField),
      ("default_operator", Toml.stringText settings.solr.defaultOperator)]]

def toJson (settings : Settings) : Json.Value :=
  .object [
    ("quarry", .object [
      ("backend", .string settings.general.backend.name),
      ("case_sensitive", .bool settings.general.caseSensitive)]),
    ("azure", .object [
      ("query_type", .string settings.azure.queryType),
      ("search_mode", .string settings.azure.searchMode)]),
    ("solr", .object [
      ("default_field", .string settings.solr.defaultField),
      ("default_operator", .string settings.solr.defaultOperator)])]

end Settings

end SearchQuery
