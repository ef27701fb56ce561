import SearchQuery.Query.Json
import SearchQuery.Text.LetterCase

/-!
What a request may search, filter and sort by.
-/

namespace SearchQuery

open Json (Value)

inductive Direction where
  | asc
  | desc
deriving DecidableEq, Repr

namespace Direction

def all : List Direction :=
  [.asc, .desc]

def name : Direction → String
  | .asc => "asc"
  | .desc => "desc"

def ofName? (name : String) : Option Direction :=
  all.find? fun direction => direction.name = name

def isDescending (direction : Direction) : Bool :=
  direction == .desc

end Direction

/-- How a field is indexed, which decides the operators of its filters. -/
inductive FieldKind where
  | text
  | keyword
  | numeric
  | date
deriving DecidableEq, Repr

namespace FieldKind

def all : List FieldKind :=
  [.text, .keyword, .numeric, .date]

def name : FieldKind → String
  | .text => "text"
  | .keyword => "keyword"
  | .numeric => "numeric"
  | .date => "date"

def ofName? (name : String) : Option FieldKind :=
  all.find? fun kind => kind.name = name

end FieldKind

structure FilterField where
  name : String
  kind : FieldKind
deriving DecidableEq, Repr

/-- A sort under the name that requests give it. -/
structure AllowedSort where
  name : String
  path : String
  sortType : SortType
  direction : Direction
deriving DecidableEq, Repr

structure Schema where
  textFields : List String := []
  filterFields : List FilterField := []
  sorts : List AllowedSort := []
  /-- The name of the sort that applies where a request names none. -/
  defaultSort : Option String := none
deriving DecidableEq, Repr

namespace Schema

/-- The first declaration of a field decides. -/
def fieldKind? (schema : Schema) (name : String) : Option FieldKind :=
  (schema.filterFields.find? fun field => field.name = name).map FilterField.kind

/-- The first sort with this name in any letter case. -/
def findSort? (schema : Schema) (name : String) : Option AllowedSort :=
  schema.sorts.find? fun sort => Text.asciiLowercase sort.name = Text.asciiLowercase name

end Schema

def FilterField.ofJson? (value : Value) : Option FilterField := do
  let [name, kind] ← value.record? [⟨"name", false⟩, ⟨"kind", false⟩] | none
  return {
    name := ← Value.required Value.string? name
    kind := ← Value.required (Value.choice? false FieldKind.ofName?) kind }

def FilterField.toJson (field : FilterField) : Value :=
  .object [("name", .string field.name), ("kind", .string field.kind.name)]

def AllowedSort.ofJson? (value : Value) : Option AllowedSort := do
  let [name, path, sortType, direction] ←
    value.record? [⟨"name", false⟩, ⟨"path", false⟩, ⟨"sort_type", true⟩, ⟨"default_order", true⟩]
    | none
  return {
    name := ← Value.required Value.string? name
    path := ← Value.required Value.string? path
    sortType := ← Value.withDefault .string (Value.choice? false SortType.ofName?) sortType
    direction := ← Value.withDefault .asc (Value.choice? false Direction.ofName?) direction }

def AllowedSort.toJson (sort : AllowedSort) : Value :=
  .object [("name", .string sort.name), ("path", .string sort.path),
    ("sort_type", .string sort.sortType.name), ("default_order", .string sort.direction.name)]

namespace Schema

def ofJson? (value : Value) : Option Schema := do
  let [textFields, filterFields, sorts, defaultSort] ←
    value.record? [⟨"text_fields", true⟩, ⟨"filter_fields", true⟩, ⟨"allowed_sorts", true⟩,
      ⟨"default_sort", true⟩] | none
  return {
    textFields := ← Value.withDefault [] (Value.list? Value.string?) textFields
    filterFields := ← Value.withDefault [] (Value.list? FilterField.ofJson?) filterFields
    sorts := ← Value.withDefault [] (Value.list? AllowedSort.ofJson?) sorts
    defaultSort := ← Value.optional Value.string? defaultSort }

def toJson (schema : Schema) : Value :=
  .object [("text_fields", .array (schema.textFields.map .string)),
    ("filter_fields", .array (schema.filterFields.map FilterField.toJson)),
    ("allowed_sorts", .array (schema.sorts.map AllowedSort.toJson)),
    ("default_sort", (schema.defaultSort.map Value.string).getD .null)]

def ofText (text : String) : Except QueryError Schema :=
  Json.decode false ofJson? text

end Schema

end SearchQuery
