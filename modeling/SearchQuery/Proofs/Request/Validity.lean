import SearchQuery.Request.Basic

/-!
What makes a request valid, and which fault counts in one that is not, stated apart from the code
that reads entries. Every request is valid or has a first fault (`Request.valid_or_firstFault`).
-/

namespace SearchQuery

/-- An entry cut at its first two colons. -/
structure Cuts (entry field operator text : String) : Prop where
  whole : entry.toList = field.toList ++ ':' :: (operator.toList ++ ':' :: text.toList)
  first : ':' ∉ field.toList
  second : ':' ∉ operator.toList

/-- Equal but for the case of ASCII letters. -/
def SameLetters (first second : String) : Prop :=
  Text.asciiLowercase first = Text.asciiLowercase second

/-- The names of the operators. -/
inductive FilterOperator.Named : String → FilterOperator → Prop
  | eq : Named "eq" .eq
  | ne : Named "ne" .notEq
  | neq : Named "neq" .notEq
  | gt : Named "gt" .gt
  | gte : Named "gte" .gte
  | ge : Named "ge" .gte
  | lt : Named "lt" .lt
  | lte : Named "lte" .lte
  | le : Named "le" .lte
  | range : Named "range" .range
  | prefixed : Named "prefix" .prefixed
  | exact : Named "exact" .exact
  | fuzzy : Named "fuzzy" .fuzzy

/-- What stands for an operator in an entry: one of its names, in any letter case. -/
def FilterOperator.Written (operator : FilterOperator) (text : String) : Prop :=
  ∃ name, Named name operator ∧ SameLetters text name

/-- The kind of a field, by its first declaration. -/
def Schema.Declares (schema : Schema) (field : String) (kind : FieldKind) : Prop :=
  ∃ before after, schema.filterFields = before ++ ⟨field, kind⟩ :: after ∧
    ∀ other ∈ before, other.name ≠ field

/-- The parts of a text between separators, without the blanks around them. -/
def trimmedParts (separator : Char → Bool) (text : String) : List String :=
  (Text.split separator text).map Text.trim

/-- The first value of an entry: for `eq` the first part that is not blank, for other operators the
text as it stands, unless it is empty. -/
def firstValue? (operator : FilterOperator) (text : String) : Option String :=
  if operator = .eq then (trimmedParts (fun c => c == '|' || c == ',') text).find? (· ≠ "")
  else if text = "" then none
  else some text

/-- One of the parts between commas. A missing one counts as blank. -/
def rangePart (text : String) (position : Nat) : String :=
  (trimmedParts (· == ',') text)[position]?.getD ""

namespace FieldKind

/-- Numbers and dates have an order, texts and keywords have not. -/
def Ordered (kind : FieldKind) : Prop :=
  kind = .numeric ∨ kind = .date

/-- The values of a kind of field. Texts are not read any further. -/
inductive Parses : FieldKind → String → Prop
  | number {text : String} {value : Double} (read : Binary.ofText? (Text.trim text) = some value) :
      Parses .numeric text
  | date {text : String} {instant : Calendar.Instant}
      (read : Calendar.Instant.ofText? (Text.trim text) = some instant) : Parses .date text
  | text (text : String) : Parses .text text
  | keyword (text : String) : Parses .keyword text

/-- The fault of a text that is not a value. A number is shown as it stands, a date without the
blanks around it. -/
inductive Rejects : FieldKind → String → RequestFault → Prop
  | number {text : String} (unread : (Binary.ofText? (Text.trim text) : Option Double) = none) :
      Rejects .numeric text (.number text)
  | date {text : String} (unread : Calendar.Instant.ofText? (Text.trim text) = none) :
      Rejects .date text (.date (Text.trim text))

/-- The end of a range: open, or a value. -/
def Bounds (kind : FieldKind) (part : String) : Prop :=
  part = "" ∨ part = "*" ∨ kind.Parses part

structure RejectsBound (kind : FieldKind) (part : String) (fault : RequestFault) : Prop where
  filled : part ≠ ""
  bounded : part ≠ "*"
  rejected : kind.Rejects part fault

/-- The operators that work on the first value. -/
def valueOperators : FieldKind → List FilterOperator
  | .numeric | .date => [.eq, .notEq, .gt, .gte, .lt, .lte]
  | .text | .keyword => [.eq, .notEq, .exact, .prefixed, .fuzzy]

/-- What a kind of field can be filtered by. -/
inductive Takes (kind : FieldKind) : FilterOperator → String → Prop
  | value {operator : FilterOperator} {text value : String}
      (known : operator ∈ kind.valueOperators) (first : firstValue? operator text = some value)
      (parses : kind.Parses value) : Takes kind operator text
  | bounds {text : String} (ordered : kind.Ordered) (lower : kind.Bounds (rangePart text 0))
      (upper : kind.Bounds (rangePart text 1)) : Takes kind .range text

/-- The fault of what a kind of field cannot be filtered by. Of two faulty bounds the lower one
counts. -/
inductive Refuses (kind : FieldKind) (field : String) :
    FilterOperator → String → RequestFault → Prop
  | noValue {operator : FilterOperator} {text : String} (known : operator ∈ kind.valueOperators)
      (missing : firstValue? operator text = none) :
      Refuses kind field operator text (.missingValue field)
  | value {operator : FilterOperator} {text value : String} {fault : RequestFault}
      (known : operator ∈ kind.valueOperators) (first : firstValue? operator text = some value)
      (rejected : kind.Rejects value fault) : Refuses kind field operator text fault
  | lower {text : String} {fault : RequestFault}
      (rejected : kind.RejectsBound (rangePart text 0) fault) :
      Refuses kind field .range text fault
  | upper {text : String} {fault : RequestFault} (lower : kind.Bounds (rangePart text 0))
      (rejected : kind.RejectsBound (rangePart text 1) fault) :
      Refuses kind field .range text fault
  | textOperator {operator : FilterOperator} {text : String} (ordered : kind.Ordered)
      (textual : operator ∈ [.prefixed, .exact, .fuzzy]) :
      Refuses kind field operator text (.textOperator kind.name field)
  | notForText {operator : FilterOperator} {text : String} (unordered : ¬ kind.Ordered)
      (comparing : operator ∈ [.gt, .gte, .lt, .lte, .range]) :
      Refuses kind field operator text (.notForText operator.label field)

end FieldKind

namespace Schema

/-- An entry that a schema lets through. -/
inductive Accepts (schema : Schema) : String → Prop
  | mk {entry field name text : String} {operator : FilterOperator} {kind : FieldKind}
      (cut : Cuts entry field name text) (named : FilterDescriptor.isFieldName (Text.trim field))
      (written : operator.Written name) (declared : schema.Declares (Text.trim field) kind)
      (takes : kind.Takes operator text) : Accepts schema entry

/-- The fault of an entry: its shape, the name of the field, the operator, the field itself, and
then what the field is filtered by, whichever is first. -/
inductive Refuses (schema : Schema) : String → RequestFault → Prop
  | shape {entry : String} (few : entry.toList.count ':' < 2) :
      Refuses schema entry (.filterShape entry)
  | fieldName {entry field name text : String} (cut : Cuts entry field name text)
      (unnamed : ¬ FilterDescriptor.isFieldName (Text.trim field)) :
      Refuses schema entry (.fieldName (Text.trim field))
  | operator {entry field name text : String} (cut : Cuts entry field name text)
      (named : FilterDescriptor.isFieldName (Text.trim field))
      (unknown : ∀ operator : FilterOperator, ¬ operator.Written name) :
      Refuses schema entry (.unknownOperator (Text.asciiLowercase name))
  | field {entry field name text : String} {operator : FilterOperator}
      (cut : Cuts entry field name text) (named : FilterDescriptor.isFieldName (Text.trim field))
      (written : operator.Written name)
      (undeclared : ∀ kind, ¬ schema.Declares (Text.trim field) kind) :
      Refuses schema entry (.unknownField (Text.trim field))
  | value {entry field name text : String} {operator : FilterOperator} {kind : FieldKind}
      {fault : RequestFault} (cut : Cuts entry field name text)
      (named : FilterDescriptor.isFieldName (Text.trim field)) (written : operator.Written name)
      (declared : schema.Declares (Text.trim field) kind)
      (refused : kind.Refuses (Text.trim field) operator text fault) : Refuses schema entry fault

end Schema

namespace Request

/-- A request that a schema lets through. -/
structure Valid (request : Request) (schema : Schema) : Prop where
  filters : ∀ entry ∈ request.filters, schema.Accepts entry
  sort : ∀ name ∈ request.sortBy, ∃ sort ∈ schema.sorts, SameLetters sort.name name

/-- The fault of the first entry that has one, or else of the sort. -/
inductive FirstFault (request : Request) (schema : Schema) : RequestFault → Prop
  | filter {before after : List String} {entry : String} {fault : RequestFault}
      (split : request.filters = before ++ entry :: after)
      (accepted : ∀ earlier ∈ before, schema.Accepts earlier)
      (refused : schema.Refuses entry fault) : FirstFault request schema fault
  | sort {name : String} (accepted : ∀ entry ∈ request.filters, schema.Accepts entry)
      (asked : request.sortBy = some name)
      (unknown : ∀ sort ∈ schema.sorts, ¬ SameLetters sort.name name) :
      FirstFault request schema (.unknownSort name)

end Request

theorem cuts_or_few (entry : String) :
    (∃ field name text, Cuts entry field name text) ∨ entry.toList.count ':' < 2 := by
  by_cases first : ':' ∈ entry.toList
  · obtain ⟨field, rest, split, before⟩ := List.eq_append_cons_of_mem first
    by_cases second : ':' ∈ rest
    · obtain ⟨name, text, rfl, between⟩ := List.eq_append_cons_of_mem second
      refine .inl ⟨String.ofList field, String.ofList name, String.ofList text, ?_, ?_, ?_⟩
      · simpa using split
      · simpa using before
      · simpa using between
    · right
      simp [split, List.count_eq_zero_of_not_mem before, List.count_eq_zero_of_not_mem second]
  · right
    simp [List.count_eq_zero_of_not_mem first]

namespace FieldKind

theorem not_ordered_iff {kind : FieldKind} : ¬ kind.Ordered ↔ kind = .text ∨ kind = .keyword := by
  cases kind <;> simp [Ordered]

private theorem parses_or_rejects (kind : FieldKind) (text : String) :
    kind.Parses text ∨ ∃ fault, kind.Rejects text fault := by
  cases kind with
  | numeric =>
    cases read : (Binary.ofText? (Text.trim text) : Option Double) with
    | some value => exact .inl (.number read)
    | none => exact .inr ⟨_, .number read⟩
  | date =>
    cases read : Calendar.Instant.ofText? (Text.trim text) with
    | some instant => exact .inl (.date read)
    | none => exact .inr ⟨_, .date read⟩
  | text => exact .inl (.text text)
  | keyword => exact .inl (.keyword text)

private theorem bounds_or_rejects (kind : FieldKind) (part : String) :
    kind.Bounds part ∨ ∃ fault, kind.RejectsBound part fault := by
  by_cases filled : part = ""
  · exact .inl (.inl filled)
  by_cases bounded : part = "*"
  · exact .inl (.inr (.inl bounded))
  rcases kind.parses_or_rejects part with parses | ⟨fault, rejected⟩
  · exact .inl (.inr (.inr parses))
  · exact .inr ⟨fault, filled, bounded, rejected⟩

private theorem takes_or_refuses_value {kind : FieldKind} {operator : FilterOperator}
    (known : operator ∈ kind.valueOperators) (field text : String) :
    kind.Takes operator text ∨ ∃ fault, kind.Refuses field operator text fault := by
  cases first : firstValue? operator text with
  | none => exact .inr ⟨_, .noValue known first⟩
  | some value =>
    rcases kind.parses_or_rejects value with parses | ⟨fault, rejected⟩
    · exact .inl (.value known first parses)
    · exact .inr ⟨fault, .value known first rejected⟩

private theorem takes_or_refuses_range {kind : FieldKind} (ordered : kind.Ordered)
    (field text : String) :
    kind.Takes .range text ∨ ∃ fault, kind.Refuses field .range text fault := by
  rcases kind.bounds_or_rejects (rangePart text 0) with lower | ⟨fault, rejected⟩
  · rcases kind.bounds_or_rejects (rangePart text 1) with upper | ⟨fault, rejected⟩
    · exact .inl (.bounds ordered lower upper)
    · exact .inr ⟨fault, .upper lower rejected⟩
  · exact .inr ⟨fault, .lower rejected⟩

theorem takes_or_refuses (kind : FieldKind) (field : String) (operator : FilterOperator)
    (text : String) :
    kind.Takes operator text ∨ ∃ fault, kind.Refuses field operator text fault := by
  by_cases known : operator ∈ kind.valueOperators
  · exact takes_or_refuses_value known field text
  by_cases ordered : kind.Ordered
  · by_cases range : operator = .range
    · rw [range]
      exact takes_or_refuses_range ordered field text
    · refine .inr ⟨_, .textOperator ordered ?_⟩
      rcases ordered with rfl | rfl
      all_goals cases operator <;> simp_all [valueOperators]
  · refine .inr ⟨_, .notForText ordered ?_⟩
    rcases not_ordered_iff.mp ordered with rfl | rfl
    all_goals cases operator <;> simp_all [valueOperators]

end FieldKind

theorem Schema.accepts_or_refuses (schema : Schema) (entry : String) :
    schema.Accepts entry ∨ ∃ fault, schema.Refuses entry fault := by
  rcases cuts_or_few entry with ⟨field, name, text, cut⟩ | few
  · by_cases named : FilterDescriptor.isFieldName (Text.trim field)
    · by_cases known : ∃ operator : FilterOperator, operator.Written name
      · obtain ⟨operator, written⟩ := known
        by_cases declared : ∃ kind, schema.Declares (Text.trim field) kind
        · obtain ⟨kind, declared⟩ := declared
          rcases kind.takes_or_refuses (Text.trim field) operator text with takes | ⟨fault, refused⟩
          · exact .inl ⟨cut, named, written, declared, takes⟩
          · exact .inr ⟨fault, .value cut named written declared refused⟩
        · exact .inr ⟨_, .field cut named written (not_exists.mp declared)⟩
      · exact .inr ⟨_, .operator cut named (not_exists.mp known)⟩
    · exact .inr ⟨_, .fieldName cut named⟩
  · exact .inr ⟨_, .shape few⟩

/-- All entries are accepted, or there is a first one that is not. -/
theorem Schema.accepts_all_or_refuses (schema : Schema) (entries : List String) :
    (∀ entry ∈ entries, schema.Accepts entry) ∨
      ∃ before entry after fault, entries = before ++ entry :: after ∧
        (∀ earlier ∈ before, schema.Accepts earlier) ∧ schema.Refuses entry fault := by
  induction entries with
  | nil => simp
  | cons entry rest ih =>
    rcases schema.accepts_or_refuses entry with accepted | ⟨fault, refused⟩
    · rcases ih with others | ⟨before, other, after, fault, rfl, earlier, refused⟩
      · exact .inl (List.forall_mem_cons.mpr ⟨accepted, others⟩)
      · exact .inr ⟨entry :: before, other, after, fault, rfl,
          List.forall_mem_cons.mpr ⟨accepted, earlier⟩, refused⟩
    · exact .inr ⟨[], entry, rest, fault, rfl, by simp, refused⟩

theorem Request.valid_or_firstFault (request : Request) (schema : Schema) :
    request.Valid schema ∨ ∃ fault, request.FirstFault schema fault := by
  rcases schema.accepts_all_or_refuses request.filters with
    accepted | ⟨before, entry, after, fault, split, accepted, refused⟩
  · cases asked : request.sortBy with
    | none => exact .inl ⟨accepted, by simp [asked]⟩
    | some name =>
      by_cases known : ∃ sort ∈ schema.sorts, SameLetters sort.name name
      · exact .inl ⟨accepted, by simpa [asked] using known⟩
      · exact .inr ⟨_, .sort accepted asked (by simpa using known)⟩
  · exact .inr ⟨fault, .filter split accepted refused⟩

end SearchQuery
