import SearchQuery.Proofs.Request.Contribution
import SearchQuery.Proofs.Request.Validity
import SearchQuery.Proofs.Text.Cutting

/-!
Requests are accepted exactly when they are valid, and refused with their first fault
(`request_verdict`). Each stage is shown to give what it must in both cases; which case it is, is
decided before (`Request.valid_or_firstFault`).
-/

namespace SearchQuery

open Draft (OrderedKind numericKind dateKind)

namespace FilterDescriptor

private theorem cutColon_append {before after : List Char} (first : ':' ∉ before) :
    cutColon (before ++ ':' :: after) = some (before, after) := by
  induction before with
  | nil => rfl
  | cons c rest ih =>
    obtain ⟨other, others⟩ := List.ne_and_not_mem_of_not_mem_cons first
    rw [List.cons_append, cutColon, if_neg other.symm, ih others]
    rfl

private theorem cutColon_eq_none {text : List Char} (absent : ':' ∉ text) :
    cutColon text = none := by
  induction text with
  | nil => rfl
  | cons c rest ih =>
    obtain ⟨other, others⟩ := List.ne_and_not_mem_of_not_mem_cons absent
    rw [cutColon, if_neg other.symm, ih others]
    rfl

theorem ofText_of_cuts {entry field name text : String} (cut : Cuts entry field name text) :
    ofText entry =
      if isFieldName (Text.trim field) then do
        let operator ← FilterOperator.ofText name
        return ⟨Text.trim field, operator, readValues operator text⟩
      else .error (.invalidRequest (.fieldName (Text.trim field))) := by
  rw [ofText, cut.whole, cutColon_append cut.first]
  simp only [cutColon_append cut.second, String.ofList_toList, Except.ok_bind]

theorem ofText_of_few {entry : String} (few : entry.toList.count ':' < 2) :
    ofText entry = .error (.invalidRequest (.filterShape entry)) := by
  rw [ofText]
  by_cases first : ':' ∈ entry.toList
  · obtain ⟨field, rest, split, before⟩ := List.eq_append_cons_of_mem first
    have second : ':' ∉ rest := by
      rw [split, List.count_append, List.count_cons_self] at few
      exact List.count_eq_zero.mp (by omega)
    rw [split, cutColon_append before]
    simp only [cutColon_eq_none second]
    rfl
  · rw [cutColon_eq_none first]
    rfl

/-- What is read of an entry: a name, and values that some text has for the operator. -/
theorem of_ofText_eq_ok {entry : String} {descriptor : FilterDescriptor}
    (read : ofText entry = .ok descriptor) :
    isFieldName descriptor.field ∧ ∃ text, descriptor.values = readValues descriptor.operator text := by
  rcases cuts_or_few entry with ⟨field, name, text, cut⟩ | few
  · rw [ofText_of_cuts cut] at read
    split at read
    · rename_i named
      obtain ⟨operator, _, made⟩ := Except.exists_of_bind_eq_ok read
      cases made
      exact ⟨named, text, rfl⟩
    · cases read
  · rw [ofText_of_few few] at read
    cases read

end FilterDescriptor

namespace FilterOperator

private theorem mem_spellings_iff {operator : FilterOperator} {name : String} :
    name ∈ operator.spellings ↔ Named name operator := by
  constructor
  · intro member
    cases operator
    all_goals simp only [spellings, List.mem_cons, List.not_mem_nil, or_false] at member
    case notEq | gte | lte => rcases member with rfl | rfl <;> constructor
    all_goals
      subst member
      constructor
  · intro named
    cases named <;> decide

theorem written_iff {operator : FilterOperator} {text : String} :
    operator.Written text ↔ Named (Text.asciiLowercase text) operator := by
  have lower {name : String} (named : Named name operator) : Text.asciiLowercase name = name := by
    cases named <;> decide +kernel
  constructor
  · rintro ⟨name, named, same⟩
    rw [SameLetters, lower named] at same
    rwa [same]
  · exact fun named => ⟨_, named, (lower named).symm⟩

theorem ofText_of_written {operator : FilterOperator} {text : String}
    (written : operator.Written text) : ofText text = .ok operator := by
  have named := written_iff.mp written
  unfold ofText
  generalize Text.asciiLowercase text = name at named
  cases named <;> rfl

theorem ofText_of_unknown {text : String}
    (unknown : ∀ operator : FilterOperator, ¬ operator.Written text) :
    ofText text = .error (.invalidRequest (.unknownOperator (Text.asciiLowercase text))) := by
  have absent : all.find? (fun operator => operator.spellings.contains (Text.asciiLowercase text)) =
      none := by
    rw [List.find?_eq_none]
    intro operator _ member
    have named := mem_spellings_iff.mp (List.contains_iff_mem.mp member)
    exact unknown operator (written_iff.mpr named)
  simp only [ofText, absent]

end FilterOperator

namespace Schema

theorem fieldKind?_of_declares {schema : Schema} {field : String} {kind : FieldKind}
    (declared : schema.Declares field kind) : schema.fieldKind? field = some kind := by
  obtain ⟨before, after, split, others⟩ := declared
  rw [fieldKind?, split, List.find?_append, List.find?_eq_none.mpr (by simpa using others)]
  simp

private theorem fieldKind?_of_undeclared {schema : Schema} {field : String}
    (undeclared : ∀ kind, ¬ schema.Declares field kind) : schema.fieldKind? field = none := by
  rw [fieldKind?, Option.map_eq_none_iff, Option.eq_none_iff_forall_ne_some]
  intro ⟨name, kind⟩ found
  obtain ⟨named, before, after, split, others⟩ := List.find?_eq_some_iff_append.mp found
  obtain rfl : name = field := of_decide_eq_true named
  exact undeclared kind ⟨before, after, split, by simpa using others⟩

end Schema

section Values

variable {operator : FilterOperator} {text value : String}

private theorem readValues_of_firstValue (other : operator ≠ .range)
    (first : firstValue? operator text = some value) :
    value ≠ "" ∧ ∃ rest, FilterDescriptor.readValues operator text = value :: rest := by
  cases operator
  case range => exact absurd rfl other
  case eq =>
    rw [firstValue?, if_pos rfl, trimmedParts, ← List.head?_filter] at first
    refine ⟨?_, List.head?_eq_some_iff.mp first⟩
    simpa using (List.mem_filter.mp (List.mem_of_head? first)).2
  all_goals
    rw [firstValue?, if_neg (by decide)] at first
    split at first
    · cases first
    · rename_i filled
      cases first
      exact ⟨filled, [], rfl⟩

private theorem readValues_of_no_value (other : operator ≠ .range)
    (missing : firstValue? operator text = none) :
    FilterDescriptor.readValues operator text = if operator = .eq then [] else [""] := by
  cases operator
  case range => exact absurd rfl other
  case eq =>
    rw [firstValue?, if_pos rfl, trimmedParts, ← List.head?_filter] at missing
    exact List.head?_eq_none_iff.mp missing
  all_goals
    rw [firstValue?, if_neg (by decide)] at missing
    split at missing
    · rename_i empty
      rw [empty]
      rfl
    · cases missing

theorem singleValue_readValues (other : operator ≠ .range) (field text : String) :
    FilterDescriptor.singleValue ⟨field, operator, FilterDescriptor.readValues operator text⟩ =
      (firstValue? operator text).elim (.error (.invalidRequest (.missingValue field))) .ok := by
  cases first : firstValue? operator text with
  | some value =>
    exact FilterDescriptor.singleValue_eq_ok_iff.mpr (readValues_of_firstValue other first)
  | none =>
    rw [readValues_of_no_value other first]
    split <;> rfl

private theorem readBound_rangePart {α : Type} (read : String → Except QueryError α) (text : String)
    (position : Nat) :
    readBound read (FilterDescriptor.readValues .range text)[position]? =
      if rangePart text position = "" ∨ rangePart text position = "*" then .ok none
      else (read (rangePart text position)).map some := by
  rw [FilterDescriptor.readValues, readBound, rangePart, trimmedParts, List.getElem?_map,
    Option.map_map]
  cases (Text.split (· == ',') text)[position]? with
  | none => rfl
  | some part => simp

end Values

theorem readNumeric_eq_ok_iff {text : String} {value : Double} :
    readNumeric text = .ok value ↔ Binary.ofText? (Text.trim text) = some value := by
  delta readNumeric
  cases (Binary.ofText? (Text.trim text) : Option Double) <;> simp

theorem readDate_eq_ok_iff {text : String} {instant : Calendar.Instant} :
    readDate text = .ok instant ↔ Calendar.Instant.ofText? (Text.trim text) = some instant := by
  delta readDate
  dsimp only
  cases Calendar.Instant.ofText? (Text.trim text) <;> simp

/-- A way to read values accepts and refuses the texts that a kind of field does. -/
structure Draft.OrderedKind.ReadsAs {α : Type} (kind : OrderedKind α) (fieldKind : FieldKind) :
    Prop where
  ordered : fieldKind.Ordered
  named : kind.name = fieldKind.name
  parses {text : String} (parses : fieldKind.Parses text) : ∃ value, kind.read text = .ok value
  rejects {text : String} {fault : RequestFault} (rejected : fieldKind.Rejects text fault) :
    kind.read text = .error (.invalidRequest fault)

-- the equations of the readers are slow to make, so they are opened without them
theorem numericKind_readsAs : numericKind.ReadsAs .numeric where
  ordered := .inl rfl
  named := rfl
  parses := by
    rintro text ⟨read⟩
    delta numericKind readNumeric
    exact ⟨_, by simp only [read]; rfl⟩
  rejects := by
    rintro text fault ⟨unread⟩
    delta numericKind readNumeric
    simp only [unread]

theorem dateKind_readsAs : dateKind.ReadsAs .date where
  ordered := .inr rfl
  named := rfl
  parses := by
    rintro text (_ | read)
    delta dateKind readDate
    exact ⟨_, by simp only [read]; rfl⟩
  rejects := by
    rintro text fault (_ | unread)
    delta dateKind readDate
    simp only [unread]

namespace Draft

section Ordered

variable {α : Type} {kind : OrderedKind α} {fieldKind : FieldKind} {operator : FilterOperator}
  {field text : String} {fault : RequestFault}

private theorem readBound_of_bounds (reads : kind.ReadsAs fieldKind) {position : Nat}
    (bounds : fieldKind.Bounds (rangePart text position)) :
    ∃ bound, readBound kind.read (FilterDescriptor.readValues .range text)[position]? =
      .ok bound := by
  rw [readBound_rangePart]
  split
  · exact ⟨none, rfl⟩
  · rename_i bounded
    obtain ⟨filled, starless⟩ := not_or.mp bounded
    have parses : fieldKind.Parses (rangePart text position) :=
      (bounds.resolve_left filled).resolve_left starless
    obtain ⟨value, read⟩ := reads.parses parses
    exact ⟨some value, by rw [read]; rfl⟩

private theorem readBound_of_rejectsBound (reads : kind.ReadsAs fieldKind) {position : Nat}
    (rejects : fieldKind.RejectsBound (rangePart text position) fault) :
    readBound kind.read (FilterDescriptor.readValues .range text)[position]? =
      .error (.invalidRequest fault) := by
  rw [readBound_rangePart, if_neg (not_or.mpr ⟨rejects.filled, rejects.bounded⟩),
    reads.rejects rejects.rejected]
  rfl

private theorem ne_range_of_valueOperators (known : operator ∈ fieldKind.valueOperators) :
    operator ≠ .range := by
  rintro rfl
  revert known
  cases fieldKind <;> decide

/-- What an operator on one value does, once the value is there and read. -/
theorem applyOrdered_firstValue (reads : kind.ReadsAs fieldKind)
    (known : operator ∈ fieldKind.valueOperators) (draft : Draft) (field text : String) :
    ∃ next : α → Step,
      draft.applyOrdered kind ⟨field, operator, FilterDescriptor.readValues operator text⟩ = (do
        let value ← (firstValue? operator text).elim
          (.error (.invalidRequest (.missingValue field))) .ok
        return next (← kind.read value)) := by
  rw [← singleValue_readValues (ne_range_of_valueOperators known)]
  have same : fieldKind.valueOperators = FieldKind.numeric.valueOperators := by
    rcases reads.ordered with rfl | rfl <;> rfl
  rw [same] at known
  rw [applyOrdered_eq]
  cases operator
  case range | prefixed | exact | fuzzy => exact absurd known (by decide)
  all_goals exact ⟨_, rfl⟩

theorem applyOrdered_of_takes (reads : kind.ReadsAs fieldKind)
    (takes : fieldKind.Takes operator text) (draft : Draft) (field : String) :
    ∃ step, draft.applyOrdered kind ⟨field, operator, FilterDescriptor.readValues operator text⟩ =
      .ok step := by
  cases takes with
  | value known first parses =>
    obtain ⟨next, applied⟩ := applyOrdered_firstValue reads known draft field text
    obtain ⟨value, read⟩ := reads.parses parses
    rw [applied, first, Option.elim_some, Except.ok_bind, read]
    exact ⟨next value, rfl⟩
  | bounds _ lower upper =>
    obtain ⟨low, readLower⟩ := readBound_of_bounds reads lower
    obtain ⟨high, readUpper⟩ := readBound_of_bounds reads upper
    simp only [applyOrdered_eq, readLower, readUpper, Except.ok_bind]
    exact ⟨_, rfl⟩

theorem applyOrdered_of_refuses (reads : kind.ReadsAs fieldKind)
    (refuses : fieldKind.Refuses field operator text fault) (draft : Draft) :
    draft.applyOrdered kind ⟨field, operator, FilterDescriptor.readValues operator text⟩ =
      .error (.invalidRequest fault) := by
  cases refuses with
  | noValue known missing =>
    obtain ⟨next, applied⟩ := applyOrdered_firstValue reads known draft field text
    rw [applied, missing]
    rfl
  | value known first rejected =>
    obtain ⟨next, applied⟩ := applyOrdered_firstValue reads known draft field text
    rw [applied, first, Option.elim_some, Except.ok_bind, reads.rejects rejected]
    rfl
  | lower rejected =>
    simp only [applyOrdered_eq, readBound_of_rejectsBound reads rejected, Except.error_bind]
  | upper lower rejected =>
    obtain ⟨low, readLower⟩ := readBound_of_bounds reads lower
    simp only [applyOrdered_eq, readLower, readBound_of_rejectsBound reads rejected, Except.ok_bind,
      Except.error_bind]
  | textOperator _ textual =>
    rw [← reads.named, applyOrdered_eq]
    cases operator
    case prefixed | exact | fuzzy => rfl
    all_goals exact absurd textual (by decide)
  | notForText unordered _ => exact absurd reads.ordered unordered

end Ordered

section Textual

variable {kind : FieldKind} {operator : FilterOperator} {field text : String} {fault : RequestFault}

/-- What an operator on text does once a value is there, unless there are several for `eq`. -/
theorem applyText_value (known : operator ∈ FieldKind.text.valueOperators) {values : List String}
    (few : operator = .eq → ¬ 1 < values.length) (draft : Draft) (field : String) :
    ∃ next : String → Step, draft.applyText ⟨field, operator, values⟩ =
      (do
        let value ← FilterDescriptor.singleValue ⟨field, operator, values⟩
        return next value) := by
  rw [applyText_eq, if_neg (not_and.mpr few)]
  cases operator
  case gt | gte | lt | lte | range => exact absurd known (by decide)
  all_goals exact ⟨_, rfl⟩

private theorem valueOperators_of_not_ordered (unordered : ¬ kind.Ordered) :
    kind.valueOperators = FieldKind.text.valueOperators := by
  rcases FieldKind.not_ordered_iff.mp unordered with rfl | rfl <;> rfl

theorem applyText_of_takes (unordered : ¬ kind.Ordered) (takes : kind.Takes operator text)
    (draft : Draft) (field : String) :
    ∃ step, draft.applyText ⟨field, operator, FilterDescriptor.readValues operator text⟩ =
      .ok step := by
  cases takes with
  | value known first _ =>
    have single := singleValue_readValues (ne_range_of_valueOperators known) field text
    rw [valueOperators_of_not_ordered unordered] at known
    by_cases several : operator = .eq ∧ 1 < (FilterDescriptor.readValues operator text).length
    · obtain ⟨rfl, several⟩ := several
      exact ⟨_, (draft.applyText_eq _).trans (if_pos ⟨rfl, several⟩)⟩
    · obtain ⟨next, applied⟩ := applyText_value known (not_and.mp several) draft field
      rw [applied, single, first]
      exact ⟨_, rfl⟩
  | bounds ordered => exact absurd ordered unordered

theorem applyText_of_refuses (unordered : ¬ kind.Ordered)
    (refuses : kind.Refuses field operator text fault) (draft : Draft) :
    draft.applyText ⟨field, operator, FilterDescriptor.readValues operator text⟩ =
      .error (.invalidRequest fault) := by
  have unread {part : String} {fault : RequestFault} : ¬ kind.Rejects part fault := by
    rintro (_ | _)
    · exact unordered (.inl rfl)
    · exact unordered (.inr rfl)
  cases refuses with
  | noValue known missing =>
    have other := ne_range_of_valueOperators known
    rw [valueOperators_of_not_ordered unordered] at known
    have few : operator = .eq → ¬ 1 < (FilterDescriptor.readValues operator text).length := by
      intro equality
      rw [readValues_of_no_value other missing, if_pos equality]
      decide
    obtain ⟨next, applied⟩ := applyText_value known few draft field
    rw [applied, singleValue_readValues other, missing]
    rfl
  | value _ _ rejected => exact absurd rejected unread
  | lower rejected | upper _ rejected => exact absurd rejected.rejected unread
  | textOperator ordered _ => exact absurd ordered unordered
  | notForText _ comparing =>
    cases operator
    case gt | gte | lt | lte | range => rfl
    all_goals exact absurd comparing (by decide)

end Textual

variable {kind : FieldKind} {operator : FilterOperator} {field text : String} {fault : RequestFault}

theorem applyFilter_of_takes (takes : kind.Takes operator text) (draft : Draft) (field : String) :
    ∃ step, draft.applyFilter kind ⟨field, operator, FilterDescriptor.readValues operator text⟩ =
      .ok step := by
  cases kind with
  | numeric => exact applyOrdered_of_takes numericKind_readsAs takes draft field
  | date => exact applyOrdered_of_takes dateKind_readsAs takes draft field
  | text | keyword => exact applyText_of_takes (by simp [FieldKind.Ordered]) takes draft field

theorem applyFilter_of_refuses (refuses : kind.Refuses field operator text fault) (draft : Draft) :
    draft.applyFilter kind ⟨field, operator, FilterDescriptor.readValues operator text⟩ =
      .error (.invalidRequest fault) := by
  cases kind with
  | numeric => exact applyOrdered_of_refuses numericKind_readsAs refuses draft
  | date => exact applyOrdered_of_refuses dateKind_readsAs refuses draft
  | text | keyword => exact applyText_of_refuses (by simp [FieldKind.Ordered]) refuses draft

end Draft

namespace Request

variable {schema : Schema} {request : Request}

/-- What an entry with a field name and an operator comes to. -/
theorem applyEntry_of_cuts {entry field name text : String} {operator : FilterOperator}
    (cut : Cuts entry field name text) (named : FilterDescriptor.isFieldName (Text.trim field))
    (written : operator.Written name) (draft : Draft) :
    applyEntry schema draft entry =
      match schema.fieldKind? (Text.trim field) with
      | some kind => draft.applyFilter kind
          ⟨Text.trim field, operator, FilterDescriptor.readValues operator text⟩
      | none => .error (.invalidRequest (.unknownField (Text.trim field))) := by
  rw [applyEntry, FilterDescriptor.ofText_of_cuts cut, if_pos named,
    FilterOperator.ofText_of_written written]
  rfl

theorem applyEntry_of_accepts {entry : String} (accepted : schema.Accepts entry) (draft : Draft) :
    ∃ step, applyEntry schema draft entry = .ok step := by
  obtain ⟨cut, named, written, declared, takes⟩ := accepted
  rw [applyEntry_of_cuts cut named written, Schema.fieldKind?_of_declares declared]
  exact Draft.applyFilter_of_takes takes draft _

theorem applyEntry_of_refuses {entry : String} {fault : RequestFault}
    (refused : schema.Refuses entry fault) (draft : Draft) :
    applyEntry schema draft entry = .error (.invalidRequest fault) := by
  cases refused with
  | shape few => rw [applyEntry, FilterDescriptor.ofText_of_few few, Except.error_bind]
  | fieldName cut unnamed =>
    rw [applyEntry, FilterDescriptor.ofText_of_cuts cut, if_neg unnamed, Except.error_bind]
  | operator cut named unknown =>
    rw [applyEntry, FilterDescriptor.ofText_of_cuts cut, if_pos named,
      FilterOperator.ofText_of_unknown unknown, Except.error_bind, Except.error_bind]
  | field cut named written undeclared =>
    rw [applyEntry_of_cuts cut named written, Schema.fieldKind?_of_undeclared undeclared]
  | value cut named written declared refused =>
    rw [applyEntry_of_cuts cut named written, Schema.fieldKind?_of_declares declared]
    exact Draft.applyFilter_of_refuses refused draft

theorem applyEntries_of_accepts {entries : List String}
    (accepted : ∀ entry ∈ entries, schema.Accepts entry) (draft : Draft) :
    ∃ after, (applyEntries schema draft entries).result = .ok after := by
  induction entries generalizing draft with
  | nil => exact ⟨draft, rfl⟩
  | cons entry rest ih =>
    obtain ⟨first, others⟩ := List.forall_mem_cons.mp accepted
    obtain ⟨step, applied⟩ := applyEntry_of_accepts first draft
    obtain ⟨after, further⟩ := ih others step.draft
    exact ⟨after, by rw [applyEntries, applied]; exact further⟩

/-- Entries are applied up to the first that is refused. What stands after it does not matter. -/
theorem applyEntries_of_refuses {before after : List String} {entry : String} {fault : RequestFault}
    (accepted : ∀ earlier ∈ before, schema.Accepts earlier) (refused : schema.Refuses entry fault)
    (draft : Draft) :
    (applyEntries schema draft (before ++ entry :: after)).result =
      .error (.invalidRequest fault) := by
  induction before generalizing draft with
  | nil => rw [List.nil_append, applyEntries, applyEntry_of_refuses refused draft]
  | cons earlier rest ih =>
    obtain ⟨first, others⟩ := List.forall_mem_cons.mp accepted
    obtain ⟨step, applied⟩ := applyEntry_of_accepts first draft
    rw [List.cons_append, applyEntries, applied]
    exact ih others step.draft

private theorem chooses_of_known
    (known : ∀ name ∈ request.sortBy, ∃ sort ∈ schema.sorts, SameLetters sort.name name) :
    ∃ sort, request.Chooses schema sort := by
  cases asked : request.sortBy with
  | none => exact ⟨_, .default asked⟩
  | some name =>
    have found : (schema.findSort? name).isSome := by
      simpa [Schema.findSort?, SameLetters] using known name asked
    obtain ⟨sort, found⟩ := Option.isSome_iff_exists.mp found
    exact ⟨some sort, .named asked found⟩

private theorem chosenSort_of_unknown {name : String} (asked : request.sortBy = some name)
    (unknown : ∀ sort ∈ schema.sorts, ¬ SameLetters sort.name name) :
    request.chosenSort schema = .error (.invalidRequest (.unknownSort name)) := by
  have absent : schema.findSort? name = none := by
    simpa [Schema.findSort?, SameLetters] using unknown
  simp only [chosenSort, asked, absent]

theorem apply_of_valid (valid : request.Valid schema) (draft : Draft) :
    ∃ after, (request.apply schema draft).result = .ok after := by
  obtain ⟨between, entries⟩ :=
    applyEntries_of_accepts valid.filters (request.worded schema draft)
  obtain ⟨sort, chosen⟩ := chooses_of_known valid.sort
  obtain ⟨step, sorted⟩ := applySort_of_chooses chosen between
  exact ⟨step.draft, apply_eq_ok_iff.mpr ⟨between, step, entries, sorted, rfl⟩⟩

/-- The words, then the filter entries, then the sort, each up to the first error. -/
theorem result_apply (request : Request) (schema : Schema) (draft : Draft) :
    (request.apply schema draft).result = do
      let between ← (applyEntries schema (request.worded schema draft) request.filters).result
      let step ← request.applySort schema between
      return step.draft := by
  unfold Request.apply
  extract_lets text filtered
  have start : text.draft = request.worded schema draft := by
    simp only [text, worded]
    cases request.text <;> rfl
  rw [← start]
  cases entries : filtered.result with
  | error error => rfl
  | ok between =>
    rw [Except.ok_bind]
    cases sorted : request.applySort schema between with
    | error error =>
      simp only [sorted]
      rfl
    | ok step =>
      simp only [sorted]
      rfl

theorem apply_of_firstFault {fault : RequestFault} (first : request.FirstFault schema fault)
    (draft : Draft) :
    (request.apply schema draft).result = .error (.invalidRequest fault) := by
  rw [result_apply]
  cases first with
  | filter split accepted refused =>
    rw [split, applyEntries_of_refuses accepted refused, Except.error_bind]
  | sort accepted asked unknown =>
    obtain ⟨between, entries⟩ :=
      applyEntries_of_accepts accepted (request.worded schema draft)
    rw [entries, Except.ok_bind, applySort, chosenSort_of_unknown asked unknown,
      Except.error_bind, Except.error_bind]

end Request

/-- A request is accepted if and only if it is valid, and refused with its first fault otherwise,
whatever the draft holds. -/
theorem request_verdict (request : Request) (schema : Schema) (draft : Draft) :
    ((∃ after, (request.apply schema draft).result = .ok after) ↔ request.Valid schema) ∧
      ∀ error, (request.apply schema draft).result = .error error ↔
        ∃ fault, request.FirstFault schema fault ∧ error = .invalidRequest fault := by
  rcases request.valid_or_firstFault schema with valid | ⟨fault, first⟩
  · obtain ⟨after, accepted⟩ := Request.apply_of_valid valid draft
    refine ⟨⟨fun _ => valid, fun _ => ⟨after, accepted⟩⟩, fun error => ⟨?_, ?_⟩⟩
    · intro refused
      cases accepted.symm.trans refused
    · rintro ⟨fault, first, -⟩
      cases accepted.symm.trans (Request.apply_of_firstFault first draft)
  · have refused := Request.apply_of_firstFault first draft
    refine ⟨⟨?_, ?_⟩, fun error => ⟨?_, ?_⟩⟩
    · rintro ⟨after, accepted⟩
      cases accepted.symm.trans refused
    · intro valid
      obtain ⟨after, accepted⟩ := Request.apply_of_valid valid draft
      cases accepted.symm.trans refused
    · intro given
      exact ⟨fault, first, Except.error.inj (given.symm.trans refused)⟩
    · rintro ⟨other, again, rfl⟩
      exact Request.apply_of_firstFault again draft

end SearchQuery
