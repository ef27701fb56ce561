import SearchQuery.Request.Descriptor
import SearchQuery.Request.Revision
import SearchQuery.Request.Schema

/-!
What a filter entry adds to a draft. Each kind of field has operators of its own.
-/

namespace SearchQuery

namespace FilterOperator

/-- A value that must not match is excluded, any other required. -/
def occurrence (operator : FilterOperator) : Occurrence :=
  if operator = .notEq then .never else .always

def comparator : FilterOperator → Comparator
  | .gt => .gt
  | .gte => .gte
  | .lt => .lt
  | .lte => .lte
  | .notEq => .notEq
  | _ => .eq

end FilterOperator

namespace Draft

/-- Sets the one filter of a draft. A filter that is there gives way with a warning. -/
def compare (draft : Draft) (filter : Filter) : Step where
  draft := draft.setFilter filter
  warnings := draft.filter.toList.map fun previous =>
    .replacedFilter filter.field previous.field

/-- What sets numbers and dates apart: their name in messages, how a value is read, and how it
stands in ranges and in comparisons. -/
structure OrderedKind (α : Type) where
  name : String
  read : String → Except QueryError α
  interval : α → α → Interval
  filterValue : α → FilterValue

def numericKind : OrderedKind Double where
  name := "numeric"
  read := readNumeric
  interval lower upper := .double lower upper
  filterValue := .number

def dateKind : OrderedKind Calendar.Instant where
  name := "date"
  read := readDate
  interval := Calendar.Instant.interval
  filterValue instant := .number (.ofInt instant.millis)

/-- A range between two bounds; with one bound open a comparison; with none nothing but a
warning. -/
def addBounds {α : Type} (draft : Draft) (kind : OrderedKind α) (field : String)
    (lower upper : Option α) : Step :=
  match lower, upper with
  | some lower, some upper => ⟨draft.addRange field (kind.interval lower upper) {}, []⟩
  | some lower, none => draft.compare ⟨field, kind.filterValue lower, .gte⟩
  | none, some upper => draft.compare ⟨field, kind.filterValue upper, .lte⟩
  | none, none => ⟨draft, [.noBounds field]⟩

/-- Any of several values may match. -/
def addAnyKeyword (draft : Draft) (field : String) (values : List String) : Draft :=
  draft.addGroup <|
    values.foldl (fun group value => group.addTest .keyword field value {})
      (draft.junctionChild .or .sometimes)

end Draft

namespace Revision

open Draft (OrderedKind numericKind dateKind)

/-- A filter on a number or a date. Equality is a range of one value. -/
def filterOrdered {α : Type} (kind : OrderedKind α) (descriptor : FilterDescriptor) :
    Revision Unit :=
  let field := descriptor.field
  let operator := descriptor.operator
  match operator with
  | .eq | .notEq => do
    let text ← need descriptor.singleValue
    let value ← need (kind.read text)
    edit fun draft =>
      draft.addRange field (kind.interval value value) { occur := operator.occurrence }
  | .gt | .gte | .lt | .lte => do
    let text ← need descriptor.singleValue
    let value ← need (kind.read text)
    take fun draft => draft.compare ⟨field, kind.filterValue value, operator.comparator⟩
  | .range => do
    let lower ← need (readBound kind.read descriptor.values[0]?)
    let upper ← need (readBound kind.read descriptor.values[1]?)
    take fun draft => draft.addBounds kind field lower upper
  | .prefixed | .exact | .fuzzy => throw (.invalidRequest (.textOperator kind.name field))

/-- Adds a test on the one value of a filter. -/
def test (descriptor : FilterDescriptor) (matching : Matching) (occur : Occurrence) :
    Revision Unit := do
  let value ← need descriptor.singleValue
  edit fun draft => draft.addTest matching descriptor.field value { occur }

/-- A filter on text. -/
def filterText (descriptor : FilterDescriptor) : Revision Unit :=
  match descriptor.operator with
  | .eq =>
    if 1 < descriptor.values.length then
      edit fun draft => draft.addAnyKeyword descriptor.field descriptor.values
    else test descriptor .keyword .always
  | .exact => test descriptor .keyword .always
  | .notEq => test descriptor .keyword .never
  | .prefixed => test descriptor .prefixed .always
  | .fuzzy => test descriptor .fuzzy .always
  | operator => throw (.invalidRequest (.notForText operator.label descriptor.field))

def filter (kind : FieldKind) (descriptor : FilterDescriptor) : Revision Unit :=
  match kind with
  | .numeric => filterOrdered numericKind descriptor
  | .date => filterOrdered dateKind descriptor
  | .text | .keyword => filterText descriptor

end Revision

namespace Draft

def applyOrdered {α : Type} (draft : Draft) (kind : OrderedKind α) (descriptor : FilterDescriptor) :
    Except QueryError Step :=
  (Revision.filterOrdered kind descriptor).outcome draft

def applyText (draft : Draft) (descriptor : FilterDescriptor) : Except QueryError Step :=
  (Revision.filterText descriptor).outcome draft

/-- The step that a filter takes from a draft, or its fault. -/
def applyFilter (draft : Draft) (kind : FieldKind) (descriptor : FilterDescriptor) :
    Except QueryError Step :=
  (Revision.filter kind descriptor).outcome draft

/-- A group in which one of the fields may start with the word. -/
def addWord (draft : Draft) (fields : List String) (word : String) : Draft :=
  draft.addGroup <|
    fields.foldl (fun group field => group.addTest .prefixed field word {})
      (draft.junctionChild .or .sometimes)

/-- Looks for each word of a text in each of the fields. -/
def addText (draft : Draft) (text : String) (fields : List String) : Step :=
  let words := Text.words text
  if words.isEmpty then ⟨draft, []⟩
  else if fields.isEmpty then ⟨draft, [.noTextFields text]⟩
  else ⟨words.foldl (fun draft word => draft.addWord fields word) draft, []⟩

end Draft

end SearchQuery
