import SearchQuery.Json.Record
import SearchQuery.Query.Search

/-!
Searches as JSON documents.
-/

namespace SearchQuery

open Json (Value Field)

namespace Matching

def all : List Matching :=
  [.term, .prefixed, .wildcard, .keyword, .fuzzy]

def name : Matching → String
  | .term => "term"
  | .prefixed => "prefix"
  | .wildcard => "wildcard"
  | .keyword => "keyword"
  | .fuzzy => "fuzzy"

end Matching

/-- The types of queries, as their documents are tagged. -/
inductive QueryTag where
  | test (matching : Matching)
  | phrase
  | int
  | long
  | double
  | text
  | group
deriving DecidableEq, Repr

namespace QueryTag

def all : List QueryTag :=
  Matching.all.map test ++ [.phrase, .int, .long, .double, .text, .group]

def name : QueryTag → String
  | .test matching => matching.name
  | .phrase => "phrase"
  | .int => "int_range"
  | .long => "long_range"
  | .double => "double_range"
  | .text => "text_range"
  | .group => "group"

/-- The tag of a query. A query inside another may have the position of its tag instead of the
name. -/
def ofJson? (nested : Bool) : Value → Option QueryTag
  | .string name => all.find? fun tag => tag.name = name
  | .number value =>
    match value.int? with
    | some (.ofNat position) => if nested then all[position]? else none
    | _ => none
  | _ => none

end QueryTag

def boostMember (boost : Option Single) : List (String × Value) :=
  (boost.map fun value => ("boost", Value.ofSingle value)).toList

def occurMember (occur : Occurrence) : String × Value :=
  ("matches", .string occur.name)

def Term.toJson (term : Term) : Value :=
  .object [("field", .string term.field), ("value", .string term.value)]

def TermTest.members (test : TermTest) : List (String × Value) :=
  ("term", test.term.toJson) :: boostMember test.boost ++ [occurMember test.occur]

def Phrase.members (phrase : Phrase) : List (String × Value) :=
  [("terms", .array (phrase.terms.map Term.toJson)), ("slop", .ofInt phrase.slop.toNat)] ++
    boostMember phrase.boost ++ [occurMember phrase.occur]

namespace Interval

def tag : Interval → QueryTag
  | .int .. => .int
  | .long .. => .long
  | .double .. => .double
  | .text .. => .text

def toJson : Interval → Value × Value
  | .int lower upper => (.ofInt lower.toInt, .ofInt upper.toInt)
  | .long lower upper => (.ofInt lower.toInt, .ofInt upper.toInt)
  | .double lower upper => (.ofDouble lower, .ofDouble upper)
  | .text lower upper => (.string lower, .string upper)

end Interval

def Range.members (range : Range) : List (String × Value) :=
  let (lower, upper) := range.interval.toJson
  [("field", .string range.field), ("lower", lower), ("upper", upper),
    ("include_min", .bool range.includeMin), ("include_max", .bool range.includeMax)] ++
    (range.precisionStep.map fun step => ("precision_step", Value.ofInt step.toNat)).toList ++
    boostMember range.boost ++ [occurMember range.occur]

def GroupHead.members (head : GroupHead) : List (String × Value) :=
  [("kind", .string head.kind.name), occurMember head.occur] ++ boostMember head.boost

def tagged (tag : QueryTag) (members : List (String × Value)) : Value :=
  .object (("type", .string tag.name) :: members)

namespace Query

mutual

def toJson : Query → Value
  | .term test => tagged (.test test.matching) test.members
  | .phrase p => tagged .phrase p.members
  | .range r => tagged r.interval.tag r.members
  | .group head children =>
    tagged .group (head.members ++ [("children", .array (allToJson children))])

def allToJson : List Query → List Value
  | [] => []
  | query :: rest => query.toJson :: allToJson rest

end

end Query

def Group.toJson (group : Group) : Value :=
  .object (group.members ++ [("children", .array (Query.allToJson group.children))])

def SortKey.toJson (key : SortKey) : Value :=
  .object [("field", .string key.field), ("sort_type", .string key.sortType.name),
    ("descending", .bool key.descending)]

def SortKeys.toJson (sort : SortKeys) : Value :=
  .object [("fields", .array (sort.keys.map SortKey.toJson))]

def FilterValue.toJson : FilterValue → Value
  | .flag value => .bool value
  | .number value => .ofDouble value
  | .text value => .string value

def Filter.toJson (filter : Filter) : Value :=
  .object [("field", .string filter.field), ("value", filter.value.toJson),
    ("comparator", .string filter.comparator.name)]

def Search.toJson (search : Search) : Value :=
  .object (("query", search.query.toJson) ::
    (search.sort.map fun sort => ("sort", sort.toJson)).toList ++
    (search.filter.map fun filter => ("filter", filter.toJson)).toList)

/-- The text of a search as a JSON document. -/
def Search.toText (search : Search) : String :=
  search.toJson.pretty

def boostField : Field := ⟨"boost", true⟩

def occurField : Field := ⟨"matches", true⟩

def readBoost (field : Option Value) : Option (Option Single) :=
  Value.optional Value.single? field

def readOccur (tagged : Bool) (field : Option Value) : Option Occurrence :=
  Value.withDefault .notSet (Value.choice? tagged Occurrence.ofName?) field

def Term.ofJson? (value : Value) : Option Term := do
  let [field, text] ← value.record? [⟨"field", false⟩, ⟨"value", false⟩] | none
  return {
    field := ← Value.required Value.string? field
    value := ← Value.required Value.string? text }

def TermTest.ofJson? (matching : Matching) (value : Value) : Option TermTest := do
  let [term, boost, occur] ← value.record? [⟨"term", false⟩, boostField, occurField] | none
  return {
    matching
    term := ← Value.required Term.ofJson? term
    boost := ← readBoost boost
    occur := ← readOccur true occur }

def Phrase.ofJson? (value : Value) : Option Phrase := do
  let [terms, slop, boost, occur] ←
    value.record? [⟨"terms", false⟩, ⟨"slop", true⟩, boostField, occurField] | none
  return {
    terms := ← Value.required (Value.list? Term.ofJson?) terms
    slop := ← Value.withDefault 0 Value.uint32? slop
    boost := ← readBoost boost
    occur := ← readOccur true occur }

/-- A range whose bounds are read by `bound?`. -/
def Range.ofJson? {α : Type} (bound? : Value → Option α) (interval : α → α → Interval)
    (value : Value) : Option Range := do
  let [field, lower, upper, includeMin, includeMax, step, boost, occur] ←
    value.record? [⟨"field", false⟩, ⟨"lower", false⟩, ⟨"upper", false⟩, ⟨"include_min", false⟩,
      ⟨"include_max", false⟩, ⟨"precision_step", true⟩, boostField, occurField] | none
  return {
    field := ← Value.required Value.string? field
    interval := interval (← Value.required bound? lower) (← Value.required bound? upper)
    includeMin := ← Value.required Value.bool? includeMin
    includeMax := ← Value.required Value.bool? includeMax
    precisionStep := ← Value.optional Value.uint32? step
    boost := ← readBoost boost
    occur := ← readOccur true occur }

/-- A group whose children are read by `child?`. -/
def Group.ofJson? (tagged : Bool) (child? : Value → Option Query) (value : Value) :
    Option Group := do
  let [kind, occur, boost, children] ←
    value.record? [⟨"kind", false⟩, occurField, boostField, ⟨"children", true⟩] | none
  return {
    kind := ← Value.required (Value.choice? tagged GroupKind.ofName?) kind
    occur := ← readOccur tagged occur
    boost := ← readBoost boost
    children := ← Value.withDefault [] (Value.list? child?) children }

/-- The tag of a tagged record and the record without it. -/
def untag : Value → Option (Value × Value)
  | .object members => do
    let tag ← (← Value.member? "type" members)
    return (tag, .object (members.filter fun member => member.1 ≠ "type"))
  | .array (tag :: items) => some (tag, .array items)
  | _ => none

namespace Query

/-- Reads a query with at most `levels` groups inside each other. -/
def ofTagged? (nested : Bool) : Nat → Value → Option Query
  | 0, _ => none
  | levels + 1, value => do
    let (tag, content) ← untag value
    match ← QueryTag.ofJson? nested tag with
    | .test matching => (TermTest.ofJson? matching content).map .term
    | .phrase => (Phrase.ofJson? content).map .phrase
    | .int => (Range.ofJson? Value.int32? .int content).map .range
    | .long => (Range.ofJson? Value.int64? .long content).map .range
    | .double => (Range.ofJson? Value.double? .double content).map .range
    | .text => (Range.ofJson? Value.string? .text content).map .range
    | .group => (Group.ofJson? true (ofTagged? true levels) content).map Group.toQuery

/-- Reads a query. Every part of its document has to stand for something, even those that are
ignored. -/
def ofJson? (value : Value) : Option Query :=
  if value.isUsable then ofTagged? false (value.depth + 1) value else none

def ofText (text : String) : Except QueryError Query :=
  Json.decode true ofJson? text

end Query

def SortKey.ofJson? (value : Value) : Option SortKey := do
  let [field, sortType, descending] ←
    value.record? [⟨"field", false⟩, ⟨"sort_type", true⟩, ⟨"descending", true⟩] | none
  return {
    field := ← Value.required Value.string? field
    sortType := ← Value.withDefault .string (Value.choice? false SortType.ofName?) sortType
    descending := ← Value.withDefault false Value.bool? descending }

def SortKeys.ofJson? (value : Value) : Option SortKeys := do
  let [keys] ← value.record? [⟨"fields", false⟩] | none
  return ⟨← Value.required (Value.list? SortKey.ofJson?) keys⟩

def FilterValue.ofJson? : Value → Option FilterValue
  | .bool value => some (.flag value)
  | .number value => value.double?.map .number
  | .string value => some (.text value)
  | _ => none

def Filter.ofJson? (value : Value) : Option Filter := do
  let [field, content, comparator] ←
    value.record? [⟨"field", false⟩, ⟨"value", false⟩, ⟨"comparator", false⟩] | none
  return {
    field := ← Value.required Value.string? field
    value := ← Value.required FilterValue.ofJson? content
    comparator := ← Value.required (Value.choice? false Comparator.ofName?) comparator }

def Search.ofJson? (value : Value) : Option Search := do
  let [query, sort, filter] ←
    value.record? [⟨"query", false⟩, ⟨"sort", true⟩, ⟨"filter", true⟩] | none
  return {
    query := ← Value.required (Group.ofJson? false Query.ofJson?) query
    sort := ← Value.optional SortKeys.ofJson? sort
    filter := ← Value.optional Filter.ofJson? filter }

/-- Reads a search and accepts it if every occurrence is set. -/
def Search.ofText (text : String) : Except QueryError Search := do
  let search ← Json.decode false Search.ofJson? text
  search.validate
  return search

end SearchQuery
