import SearchQuery.Calendar.Instant
import SearchQuery.Error
import SearchQuery.Number.Numeral
import SearchQuery.Text.LetterCase

/-!
Filter entries `field:operator:value` and the values in them.
-/

namespace SearchQuery

inductive FilterOperator where
  | eq
  | notEq
  | gt
  | gte
  | lt
  | lte
  | range
  | prefixed
  | exact
  | fuzzy
deriving DecidableEq, Repr

namespace FilterOperator

def all : List FilterOperator :=
  [.eq, .notEq, .gt, .gte, .lt, .lte, .range, .prefixed, .exact, .fuzzy]

/-- The name of an operator in messages. -/
def label : FilterOperator → String
  | .eq => "Eq"
  | .notEq => "NotEq"
  | .gt => "Gt"
  | .gte => "Gte"
  | .lt => "Lt"
  | .lte => "Lte"
  | .range => "Range"
  | .prefixed => "Prefix"
  | .exact => "Exact"
  | .fuzzy => "Fuzzy"

/-- The ways to write an operator in an entry. -/
def spellings : FilterOperator → List String
  | .eq => ["eq"]
  | .notEq => ["ne", "neq"]
  | .gt => ["gt"]
  | .gte => ["gte", "ge"]
  | .lt => ["lt"]
  | .lte => ["lte", "le"]
  | .range => ["range"]
  | .prefixed => ["prefix"]
  | .exact => ["exact"]
  | .fuzzy => ["fuzzy"]

/-- Reads an operator in any letter case. -/
def ofText (text : String) : Except QueryError FilterOperator :=
  let name := Text.asciiLowercase text
  match all.find? fun operator => operator.spellings.contains name with
  | some operator => .ok operator
  | none => .error (.invalidRequest (.unknownOperator name))

end FilterOperator

/-- A filter entry taken apart. -/
structure FilterDescriptor where
  field : String
  operator : FilterOperator
  values : List String
deriving DecidableEq, Repr

namespace FilterDescriptor

def isFieldStart (c : Char) : Bool :=
  c.isAlpha || c == '_'

def isFieldPart (c : Char) : Bool :=
  c.isAlphanum || c == '_' || c == '.'

/-- A letter or underscore, and then letters, digits, underscores and points, all of ASCII. -/
def isFieldName (field : String) : Bool :=
  match field.toList with
  | [] => false
  | first :: rest => isFieldStart first && rest.all isFieldPart

/-- The text before the first colon and the text after it. -/
def cutColon : List Char → Option (List Char × List Char)
  | [] => none
  | c :: rest =>
    if c = ':' then some ([], rest)
    else (cutColon rest).map fun (before, after) => (c :: before, after)

/-- The values of an entry. Only `eq` and `range` take several; the others keep the text as it
is. -/
def readValues (operator : FilterOperator) (text : String) : List String :=
  match operator with
  | .eq => ((Text.split (fun c => c == '|' || c == ',') text).map Text.trim).filter (· ≠ "")
  | .range => (Text.split (· == ',') text).map Text.trim
  | _ => [text]

/-- Reads an entry. The value may contain colons. -/
def ofText (entry : String) : Except QueryError FilterDescriptor := do
  let shape : Except QueryError (String × String × String) :=
    match cutColon entry.toList with
    | none => .error (.invalidRequest (.filterShape entry))
    | some (field, rest) =>
      match cutColon rest with
      | none => .error (.invalidRequest (.filterShape entry))
      | some (operator, text) =>
        .ok (String.ofList field, String.ofList operator, String.ofList text)
  let (field, operator, text) ← shape
  let field := Text.trim field
  if isFieldName field then
    let operator ← FilterOperator.ofText operator
    return ⟨field, operator, readValues operator text⟩
  else .error (.invalidRequest (.fieldName field))

/-- The first value, which must not be empty. -/
def singleValue (descriptor : FilterDescriptor) : Except QueryError String :=
  match descriptor.values with
  | value :: _ =>
    if value = "" then .error (.invalidRequest (.missingValue descriptor.field)) else .ok value
  | [] => .error (.invalidRequest (.missingValue descriptor.field))

end FilterDescriptor

/-- Reads a number between blanks. -/
def readNumeric (text : String) : Except QueryError Double :=
  match Binary.ofText? (Text.trim text) with
  | some value => .ok value
  | none => .error (.invalidRequest (.number text))

/-- Reads a date between blanks. -/
def readDate (text : String) : Except QueryError Calendar.Instant :=
  let text := Text.trim text
  match Calendar.Instant.ofText? text with
  | some instant => .ok instant
  | none => .error (.invalidRequest (.date text))

/-- Reads one end of a range. An absent, blank or starred one is open. -/
def readBound {α : Type} (read : String → Except QueryError α) (text : Option String) :
    Except QueryError (Option α) :=
  match text.map Text.trim with
  | none => .ok none
  | some text => if text = "" ∨ text = "*" then .ok none else (read text).map some

end SearchQuery
