import SearchQuery.Proofs.Rendering.Forms
import SearchQuery.Proofs.Request.Verdict

/-!
How filter entries are written, stated apart from the code that reads them. What is written from a
descriptor is read as this descriptor, and whatever is read can be written again
(`entries_read_as_written`).
-/

namespace SearchQuery

/-- A letter or underscore, and then letters, digits, underscores and points: the pattern
`[A-Za-z_][A-Za-z0-9_.]*`. -/
inductive FieldPattern : String → Prop
  | mk {first : Char} {rest : List Char}
      (start : 'A' ≤ first ∧ first ≤ 'Z' ∨ 'a' ≤ first ∧ first ≤ 'z' ∨ first = '_')
      (parts : ∀ c ∈ rest, 'A' ≤ c ∧ c ≤ 'Z' ∨ 'a' ≤ c ∧ c ≤ 'z' ∨ '0' ≤ c ∧ c ≤ '9' ∨ c = '_' ∨
        c = '.') :
      FieldPattern (String.ofList (first :: rest))

/-- Values in a row, with one separator between neighbours. -/
inductive ValueRow (separator : Char → Bool) : List String → String → Prop
  | last (value : String) : ValueRow separator [value] value
  | next {value text : String} {values : List String} {c : Char} (between : separator c)
      (others : ValueRow separator values text) :
      ValueRow separator (value :: values) (value ++ String.singleton c ++ text)

/-- A value that cutting leaves as it is. -/
structure PlainValue (separator : Char → Bool) (value : String) : Prop where
  trimmed : Text.trim value = value
  free : ∀ c ∈ value.toList, separator c = false

/-- The values that an operator can have, and the texts that write them. -/
inductive FilterOperator.Lists : FilterOperator → List String → String → Prop
  | none : Lists .eq [] ""
  | eq {values : List String} {text : String}
      (row : ValueRow (fun c => c == '|' || c == ',') values text)
      (plain : ∀ value ∈ values, value ≠ "" ∧ PlainValue (fun c => c == '|' || c == ',') value) :
      Lists .eq values text
  | range {values : List String} {text : String} (row : ValueRow (· == ',') values text)
      (plain : ∀ value ∈ values, PlainValue (· == ',') value) : Lists .range values text
  | single {operator : FilterOperator} (other : operator ≠ .eq) (another : operator ≠ .range)
      (text : String) : Lists operator [text] text

/-- The text of an entry with these parts. -/
def entryText (field name values : String) : String :=
  field ++ ":" ++ name ++ ":" ++ values

namespace FilterDescriptor

/-- The entries that write a descriptor. Several go with each, since operators have more than one
spelling and the values of `eq` two separators. -/
inductive WrittenAs : FilterDescriptor → String → Prop
  | mk {field name text : String} {operator : FilterOperator} {values : List String}
      (pattern : FieldPattern field) (written : operator.Written name)
      (lists : operator.Lists values text) :
      WrittenAs ⟨field, operator, values⟩ (entryText field name text)

/-- One of these entries, with commas. -/
def text (descriptor : FilterDescriptor) (name : String) : String :=
  entryText descriptor.field name (",".intercalate descriptor.values)

end FilterDescriptor

section Fields

open FilterDescriptor (isFieldName isFieldStart isFieldPart)

private theorem isFieldStart_iff {c : Char} :
    isFieldStart c ↔ 'A' ≤ c ∧ c ≤ 'Z' ∨ 'a' ≤ c ∧ c ≤ 'z' ∨ c = '_' := by
  delta isFieldStart Char.isAlpha Char.isUpper Char.isLower
  simp only [Bool.or_eq_true, Bool.and_eq_true, decide_eq_true_eq, beq_iff_eq, or_assoc]
  rfl

private theorem isFieldPart_iff {c : Char} :
    isFieldPart c ↔ 'A' ≤ c ∧ c ≤ 'Z' ∨ 'a' ≤ c ∧ c ≤ 'z' ∨ '0' ≤ c ∧ c ≤ '9' ∨ c = '_' ∨
      c = '.' := by
  delta isFieldPart Char.isAlphanum Char.isAlpha Char.isUpper Char.isLower Char.isDigit
  simp only [Bool.or_eq_true, Bool.and_eq_true, decide_eq_true_eq, beq_iff_eq, or_assoc]
  rfl

theorem isFieldName_iff {field : String} : isFieldName field ↔ FieldPattern field := by
  constructor
  · intro named
    unfold isFieldName at named
    split at named
    · cases named
    · rename_i first rest split
      obtain ⟨start, parts⟩ := Bool.and_eq_true_iff.mp named
      have whole : field = String.ofList (first :: rest) := by
        rw [← split, String.ofList_toList]
      rw [whole]
      exact .mk (isFieldStart_iff.mp start) fun c member =>
        isFieldPart_iff.mp (List.all_eq_true.mp parts c member)
  · rintro ⟨start, parts⟩
    simp only [isFieldName, String.toList_ofList, Bool.and_eq_true, List.all_eq_true]
    exact ⟨isFieldStart_iff.mpr start, fun c member => isFieldPart_iff.mpr (parts c member)⟩

private theorem toNat_bounds_of_isFieldPart {c : Char} (part : isFieldPart c) :
    45 < c.toNat ∧ c.toNat < 123 ∧ c.toNat ≠ 58 := by
  rcases isFieldPart_iff.mp part with ⟨low, high⟩ | ⟨low, high⟩ | ⟨low, high⟩ | rfl | rfl
  · have bounds : 65 ≤ c.toNat ∧ c.toNat ≤ 90 := ⟨low, high⟩
    omega
  · have bounds : 97 ≤ c.toNat ∧ c.toNat ≤ 122 := ⟨low, high⟩
    omega
  · have bounds : 48 ≤ c.toNat ∧ c.toNat ≤ 57 := ⟨low, high⟩
    omega
  · decide
  · decide

private theorem trim_of_isFieldName {field : String} (named : isFieldName field) :
    Text.trim field = field := by
  refine Text.trim_of_free fun c member => ?_
  have bounds := toNat_bounds_of_isFieldPart (Rendering.FieldName.all named c member)
  exact Text.isBlank_of_ascii (by omega) (by omega)

private theorem colon_notMem_of_isFieldName {field : String} (named : isFieldName field) :
    ':' ∉ field.toList := fun member =>
  (toNat_bounds_of_isFieldPart (Rendering.FieldName.all named ':' member)).2.2 rfl

end Fields

theorem FilterOperator.Written.colon_notMem {operator : FilterOperator} {name : String}
    (written : operator.Written name) : ':' ∉ name.toList := by
  intro member
  have named := written_iff.mp written
  -- a colon has no case, so it would stand in the name in lower case as well
  have kept : ':' ∈ (Text.asciiLowercase name).toList := by
    rw [Text.asciiLowercase, String.toList_map]
    exact List.mem_map.mpr ⟨':', member, rfl⟩
  generalize Text.asciiLowercase name = lower at named kept
  revert kept
  cases named <;> decide

theorem cuts_entryText {field name : String} (first : ':' ∉ field.toList)
    (second : ':' ∉ name.toList) (values : String) :
    Cuts (entryText field name values) field name values where
  whole := by simp [entryText]
  first := first
  second := second

section Values

variable {separator : Char → Bool}

private theorem trimmedParts_append {c : Char} (cut : separator c) (left right : String) :
    trimmedParts separator (left ++ String.singleton c ++ right) =
      trimmedParts separator left ++ trimmedParts separator right := by
  rw [trimmedParts, Text.split_append cut, List.map_append]
  rfl

theorem PlainValue.trimmedParts_eq {value : String} (plain : PlainValue separator value) :
    trimmedParts separator value = [value] := by
  rw [trimmedParts, Text.split_of_free plain.free, List.map_singleton, plain.trimmed]

/-- Cutting finds the values of a row again. -/
theorem ValueRow.trimmedParts_eq {values : List String} {text : String}
    (row : ValueRow separator values text) (plain : ∀ value ∈ values, PlainValue separator value) :
    trimmedParts separator text = values := by
  induction row with
  | last value => exact (plain value List.mem_cons_self).trimmedParts_eq
  | next between _ ih =>
    obtain ⟨first, others⟩ := List.forall_mem_cons.mp plain
    rw [trimmedParts_append between, first.trimmedParts_eq, ih others]
    rfl

private theorem plainValue_of_mem_trimmedParts {text value : String}
    (member : value ∈ trimmedParts separator text) : PlainValue separator value := by
  obtain ⟨piece, present, rfl⟩ := List.mem_map.mp member
  exact ⟨Text.trim_trim piece, fun c inside =>
    Text.free_of_mem_split present c (Text.mem_of_mem_trim inside)⟩

theorem ValueRow.intercalate (comma : separator ',') {values : List String} (filled : values ≠ []) :
    ValueRow separator values (",".intercalate values) := by
  induction values with
  | nil => exact absurd rfl filled
  | cons value rest ih =>
    cases rest with
    | nil =>
      rw [String.intercalate_singleton]
      exact .last value
    | cons next others =>
      have row : ValueRow separator (value :: next :: others)
          (value ++ String.singleton ',' ++ ",".intercalate (next :: others)) :=
        .next comma (ih (List.cons_ne_nil next others))
      have mark : String.singleton ',' = "," := rfl
      rw [mark] at row
      rwa [String.intercalate_cons_cons]

end Values

namespace FilterOperator

open FilterDescriptor (readValues)

private theorem readValues_of_lists {operator : FilterOperator} {values : List String}
    {text : String} (lists : operator.Lists values text) : readValues operator text = values := by
  cases lists with
  | none =>
    have blank : PlainValue (fun c => c == '|' || c == ',') "" := ⟨Text.trim_of_free nofun, nofun⟩
    rw [readValues, ← trimmedParts, blank.trimmedParts_eq]
    rfl
  | eq row plain =>
    have parts := row.trimmedParts_eq fun value member => (plain value member).2
    have kept : values.filter (· ≠ "") = values := by
      rw [List.filter_eq_self]
      exact fun value member => decide_eq_true (plain value member).1
    rw [readValues, ← trimmedParts, parts, kept]
  | range row plain => exact row.trimmedParts_eq plain
  | single other another text => cases operator <;> first | rfl | contradiction

/-- The values that are read are such as the operator can have. -/
theorem lists_readValues (operator : FilterOperator) (text : String) :
    operator.Lists (readValues operator text) (",".intercalate (readValues operator text)) := by
  by_cases equality : operator = .eq
  · subst equality
    rw [readValues, ← trimmedParts]
    cases values : (trimmedParts (fun c => c == '|' || c == ',') text).filter (· ≠ "") with
    | nil => exact .none
    | cons first others =>
      refine .eq (.intercalate rfl (List.cons_ne_nil first others)) ?_
      rw [← values]
      intro value member
      obtain ⟨present, filled⟩ := List.mem_filter.mp member
      exact ⟨of_decide_eq_true filled, plainValue_of_mem_trimmedParts present⟩
  by_cases bounds : operator = .range
  · subst bounds
    have filled : trimmedParts (· == ',') text ≠ [] :=
      mt List.map_eq_nil_iff.mp (Text.split_ne_nil _ text)
    exact .range (.intercalate rfl filled) fun value => plainValue_of_mem_trimmedParts
  · have single : readValues operator text = [text] := by
      cases operator <;> first | rfl | contradiction
    rw [single, String.intercalate_singleton]
    exact .single equality bounds text

end FilterOperator

namespace FilterDescriptor

theorem ofText_entryText {field name : String} {operator : FilterOperator}
    (named : isFieldName field) (written : operator.Written name) (values : String) :
    ofText (entryText field name values) = .ok ⟨field, operator, readValues operator values⟩ := by
  have cut := cuts_entryText (colon_notMem_of_isFieldName named) written.colon_notMem values
  rw [ofText_of_cuts cut, trim_of_isFieldName named, if_pos named,
    FilterOperator.ofText_of_written written]
  rfl

theorem WrittenAs.ofText_eq {descriptor : FilterDescriptor} {entry : String}
    (written : descriptor.WrittenAs entry) : ofText entry = .ok descriptor := by
  obtain ⟨pattern, spelled, lists⟩ := written
  rw [ofText_entryText (isFieldName_iff.mpr pattern) spelled,
    FilterOperator.readValues_of_lists lists]

theorem writtenAs_text {entry : String} {descriptor : FilterDescriptor}
    (read : ofText entry = .ok descriptor) {name : String}
    (written : descriptor.operator.Written name) : descriptor.WrittenAs (descriptor.text name) := by
  obtain ⟨field, operator, values⟩ := descriptor
  obtain ⟨named, text, same⟩ := of_ofText_eq_ok read
  dsimp only at same
  subst same
  exact .mk (isFieldName_iff.mp named) written (FilterOperator.lists_readValues operator text)

end FilterDescriptor

/-- An entry on a field that is known is applied as a filter of its kind. -/
theorem Request.applyEntry_entryText {schema : Schema} {field name : String} {kind : FieldKind}
    {operator : FilterOperator} (named : FilterDescriptor.isFieldName field)
    (declared : schema.Declares field kind) (written : operator.Written name) (values : String)
    (draft : Draft) :
    applyEntry schema draft (entryText field name values) =
      draft.applyFilter kind ⟨field, operator, FilterDescriptor.readValues operator values⟩ := by
  rw [applyEntry, FilterDescriptor.ofText_entryText named written, Except.ok_bind,
    Schema.fieldKind?_of_declares declared]

/-- An entry that is written from a descriptor is read as it, whatever the spelling of the operator
and the separators of the values. What is read from any entry has a name for its field, and can be
written and read again. -/
theorem entries_read_as_written (descriptor : FilterDescriptor) :
    (∀ entry, descriptor.WrittenAs entry → FilterDescriptor.ofText entry = .ok descriptor) ∧
      ∀ entry, FilterDescriptor.ofText entry = .ok descriptor →
        FieldPattern descriptor.field ∧ ∀ name, descriptor.operator.Written name →
          descriptor.WrittenAs (descriptor.text name) ∧
            FilterDescriptor.ofText (descriptor.text name) = .ok descriptor := by
  refine ⟨fun entry written => written.ofText_eq, fun entry read => ⟨?_, fun name written => ?_⟩⟩
  · exact isFieldName_iff.mp (FilterDescriptor.of_ofText_eq_ok read).1
  · have again := FilterDescriptor.writtenAs_text read written
    exact ⟨again, again.ofText_eq⟩

def stateFilter : FilterDescriptor :=
  ⟨"status", .eq, ["new", "used", "a:b"]⟩

/-- Both separators in one entry, and an operator in capitals. -/
theorem entries_read_as_written_mixed :
    stateFilter.WrittenAs "status:EQ:new|used,a:b" ∧
      FilterDescriptor.ofText "status:EQ:new|used,a:b" = .ok stateFilter ∧
      FilterDescriptor.ofText "status:Eq:new,used,a:b" = .ok stateFilter := by
  have pattern : FieldPattern "status" := isFieldName_iff.mp (by decide)
  have row : ValueRow (fun c => c == '|' || c == ',') ["new", "used", "a:b"]
      ("new" ++ String.singleton '|' ++ ("used" ++ String.singleton ',' ++ "a:b")) :=
    .next rfl (.next rfl (.last "a:b"))
  have plain : ∀ value ∈ ["new", "used", "a:b"],
      value ≠ "" ∧ PlainValue (fun c => c == '|' || c == ',') value := by
    have checked : ∀ value ∈ ["new", "used", "a:b"], value ≠ "" ∧
        (value.toList.all fun c => !Text.isBlank c) ∧
          value.toList.all fun c => !(c == '|' || c == ',') := by
      decide +kernel
    intro value member
    obtain ⟨filled, blanks, marks⟩ := checked value member
    exact ⟨filled, Text.trim_of_free (Text.free_of_all blanks), Text.free_of_all marks⟩
  have capitals : FilterOperator.eq.Written "EQ" :=
    ⟨"eq", .eq, String.toList_inj.mp (by simp [Text.asciiLowercase])⟩
  have mixed : FilterOperator.eq.Written "Eq" :=
    ⟨"eq", .eq, String.toList_inj.mp (by simp [Text.asciiLowercase])⟩
  have whole : entryText "status" "EQ"
      ("new" ++ String.singleton '|' ++ ("used" ++ String.singleton ',' ++ "a:b")) =
        "status:EQ:new|used,a:b" := by
    decide +kernel
  have again : stateFilter.text "Eq" = "status:Eq:new,used,a:b" := by decide +kernel
  have written : stateFilter.WrittenAs "status:EQ:new|used,a:b" :=
    whole ▸ .mk pattern capitals (.eq row plain)
  obtain ⟨reads, writes⟩ := entries_read_as_written stateFilter
  have read := reads _ written
  exact ⟨written, read, again ▸ ((writes _ read).2 "Eq" mixed).2⟩

end SearchQuery
