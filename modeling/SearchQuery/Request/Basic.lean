import SearchQuery.Request.Filters

/-!
Requests: a text to look for, filter entries and a sort, checked against a schema.
-/

namespace SearchQuery

open Json (Value)

structure Request where
  text : Option String := none
  sortBy : Option String := none
  direction : Option Direction := none
  filters : List String := []
deriving DecidableEq, Repr

/-- A draft or the first error, and the warnings up to there. -/
structure Attempt where
  result : Except QueryError Draft
  warnings : List Warning

namespace Request

def ofJson? (value : Value) : Option Request := do
  let [text, sortBy, direction, filters] ←
    value.record? [⟨"q", false⟩, ⟨"sort_by", false⟩, ⟨"sort_order", false⟩, ⟨"filter", true⟩]
    | none
  return {
    text := ← Value.optional Value.string? text
    sortBy := ← Value.optional Value.string? sortBy
    direction := ← Value.optional (Value.choice? false Direction.ofName?) direction
    filters := ← Value.withDefault [] (Value.list? Value.string?) filters }

def ofText (text : String) : Except QueryError Request :=
  Json.decode false ofJson? text

/-- Applies one filter entry. -/
def applyEntry (schema : Schema) (draft : Draft) (entry : String) : Except QueryError Step := do
  let descriptor ← FilterDescriptor.ofText entry
  match schema.fieldKind? descriptor.field with
  | some kind => draft.applyFilter kind descriptor
  | none => .error (.invalidRequest (.unknownField descriptor.field))

/-- Applies filter entries in order, up to the first that is faulty. -/
def applyEntries (schema : Schema) (draft : Draft) : List String → Attempt
  | [] => ⟨.ok draft, []⟩
  | entry :: rest =>
    match applyEntry schema draft entry with
    | .error error => ⟨.error error, []⟩
    | .ok step =>
      let attempt := applyEntries schema step.draft rest
      ⟨attempt.result, step.warnings ++ attempt.warnings⟩

/-- The sort that a request asks for, or else the default one. -/
def chosenSort (request : Request) (schema : Schema) : Except QueryError (Option AllowedSort) :=
  match request.sortBy with
  | some name =>
    match schema.findSort? name with
    | some sort => .ok (some sort)
    | none => .error (.invalidRequest (.unknownSort name))
  | none => .ok (schema.defaultSort.bind schema.findSort?)

def applySort (request : Request) (schema : Schema) (draft : Draft) : Except QueryError Step := do
  match ← request.chosenSort schema with
  | some sort =>
    let direction := request.direction.getD sort.direction
    return ⟨draft.addSort ⟨sort.path, sort.sortType, direction.isDescending⟩, []⟩
  | none => return ⟨draft, if request.direction.isSome then [.directionAlone] else []⟩

/-- Adds to a draft what a request asks for: text, filters and sort, in this order. -/
def apply (request : Request) (schema : Schema) (draft : Draft) : Attempt :=
  let text : Step :=
    match request.text with
    | some text => draft.addText text schema.textFields
    | none => ⟨draft, []⟩
  let filtered := applyEntries schema text.draft request.filters
  match filtered.result with
  | .error error => ⟨.error error, text.warnings ++ filtered.warnings⟩
  | .ok draft =>
    match request.applySort schema draft with
    | .error error => ⟨.error error, text.warnings ++ filtered.warnings⟩
    | .ok step => ⟨.ok step.draft, text.warnings ++ filtered.warnings ++ step.warnings⟩

end Request

end SearchQuery
