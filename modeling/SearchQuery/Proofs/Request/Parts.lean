import SearchQuery.Proofs.Draft.Growth
import SearchQuery.Proofs.Request.Revision
import SearchQuery.Proofs.Support

/-!
What a filter entry names, stated apart from the code that applies it. An entry names one part at
most (`Schema.Names.unique`), and a filter that is applied lets the draft grow by the part that it
names (`Draft.applyFilter_names`).
-/

namespace SearchQuery

open Draft (OrderedKind numericKind dateKind)

/-- What one filter entry comes to: a clause, a group of tests, a comparison or, without bounds,
nothing. -/
inductive Part where
  | clause (query : Query)
  | anyOf (tests : List Query)
  | comparison (filter : Filter)
  | nothing

namespace Part

def clause? : Part → Option Query
  | .clause query => some query
  | _ => none

def tests? : Part → Option (List Query)
  | .anyOf tests => some tests
  | _ => none

def filter? : Part → Option Filter
  | .comparison filter => some filter
  | _ => none

end Part

/-- What filter entries add together. Of their comparisons the last counts. -/
def Additions.ofParts (parts : List Part) : Additions where
  clauses := parts.filterMap Part.clause?
  groups := parts.filterMap Part.tests?
  filter := (parts.filterMap Part.filter?).getLast?

theorem Additions.ofParts_cons (part : Part) (rest : List Part) :
    ofParts (part :: rest) = (ofParts [part]).andThen (ofParts rest) := by
  have split : part :: rest = [part] ++ rest := rfl
  rw [split]
  simp only [ofParts, andThen, List.filterMap_append, List.getLast?_append, List.append_nil]

private theorem FilterOperator.isSet_of_textTest? {operator : FilterOperator} {matching : Matching}
    {occur : Occurrence} (test : operator.textTest? = some (matching, occur)) : occur.isSet := by
  cases operator <;> cases test <;> rfl

/-- What a filter on numbers or dates names: a range of one value, a comparison, or a range between
bounds, which gets the occurrence `fallback`. -/
inductive OrderedNames {α : Type} (kind : OrderedKind α) (fallback : Occurrence) :
    FilterDescriptor → Part → Prop where
  | point {field value : String} {operator : FilterOperator} {rest : List String} {point : α}
      (equality : operator = .eq ∨ operator = .notEq) (filled : value ≠ "")
      (read : kind.read value = .ok point) :
      OrderedNames kind fallback ⟨field, operator, value :: rest⟩
        (.clause (.range ⟨field, kind.interval point point, true, true, none, none,
          operator.occurrence⟩))
  | compared {field value : String} {operator : FilterOperator} {rest : List String} {bound : α}
      (order : operator ∈ [.gt, .gte, .lt, .lte]) (filled : value ≠ "")
      (read : kind.read value = .ok bound) :
      OrderedNames kind fallback ⟨field, operator, value :: rest⟩
        (.comparison ⟨field, kind.filterValue bound, operator.comparator⟩)
  | between {field : String} {values : List String} {lower upper : α}
      (readLower : readBound kind.read values[0]? = .ok (some lower))
      (readUpper : readBound kind.read values[1]? = .ok (some upper)) :
      OrderedNames kind fallback ⟨field, .range, values⟩
        (.clause (.range ⟨field, kind.interval lower upper, true, true, none, none, fallback⟩))
  | atLeast {field : String} {values : List String} {lower : α}
      (readLower : readBound kind.read values[0]? = .ok (some lower))
      (readUpper : readBound kind.read values[1]? = .ok none) :
      OrderedNames kind fallback ⟨field, .range, values⟩
        (.comparison ⟨field, kind.filterValue lower, .gte⟩)
  | atMost {field : String} {values : List String} {upper : α}
      (readLower : readBound kind.read values[0]? = .ok none)
      (readUpper : readBound kind.read values[1]? = .ok (some upper)) :
      OrderedNames kind fallback ⟨field, .range, values⟩
        (.comparison ⟨field, kind.filterValue upper, .lte⟩)
  | unbounded {field : String} {values : List String}
      (readLower : readBound kind.read values[0]? = .ok none)
      (readUpper : readBound kind.read values[1]? = .ok none) :
      OrderedNames kind fallback ⟨field, .range, values⟩ .nothing

/-- What a filter names by the kind of its field. On text, equality with several values names a
group that any of them may meet. -/
inductive FilterDescriptor.Names (caseSensitive : Bool) (fallback : Occurrence) :
    FieldKind → FilterDescriptor → Part → Prop where
  | numeric {descriptor : FilterDescriptor} {part : Part}
      (names : OrderedNames numericKind fallback descriptor part) :
      Names caseSensitive fallback .numeric descriptor part
  | date {descriptor : FilterDescriptor} {part : Part}
      (names : OrderedNames dateKind fallback descriptor part) :
      Names caseSensitive fallback .date descriptor part
  | test {kind : FieldKind} {field value : String} {operator : FilterOperator} {rest : List String}
      {matching : Matching} {occur : Occurrence} (textual : kind = .text ∨ kind = .keyword)
      (test : operator.textTest? = some (matching, occur)) (single : operator = .eq → rest = [])
      (filled : value ≠ "") :
      Names caseSensitive fallback kind ⟨field, operator, value :: rest⟩
        (.clause (.term ⟨matching, ⟨field, Text.folded caseSensitive value⟩, none, occur⟩))
  | anyOf {kind : FieldKind} {field : String} {values : List String}
      (textual : kind = .text ∨ kind = .keyword) (several : 2 ≤ values.length) :
      Names caseSensitive fallback kind ⟨field, .eq, values⟩
        (.anyOf (values.map fun value =>
          .term ⟨.keyword, ⟨field, Text.folded caseSensitive value⟩, none, .sometimes⟩))

/-- What the text of a filter entry names under a schema. -/
def Schema.Names (schema : Schema) (caseSensitive : Bool) (fallback : Occurrence) (entry : String)
    (part : Part) : Prop :=
  ∃ descriptor kind, FilterDescriptor.ofText entry = .ok descriptor ∧
    schema.fieldKind? descriptor.field = some kind ∧
    descriptor.Names caseSensitive fallback kind part

theorem FilterDescriptor.singleValue_eq_ok_iff {descriptor : FilterDescriptor} {value : String} :
    descriptor.singleValue = .ok value ↔
      value ≠ "" ∧ ∃ rest, descriptor.values = value :: rest := by
  rw [singleValue]
  split
  · rename_i first rest values
    rw [values]
    split
    · rename_i empty
      simp [empty]
    · rename_i filled
      constructor
      · rintro ⟨⟩
        exact ⟨filled, rest, rfl⟩
      · rintro ⟨_, _, same⟩
        rw [(List.cons.inj same).1]
  · rename_i values
    simp [values]

theorem OrderedNames.unique {α : Type} {kind : OrderedKind α} {fallback : Occurrence}
    {descriptor : FilterDescriptor} {part other : Part}
    (names : OrderedNames kind fallback descriptor part)
    (again : OrderedNames kind fallback descriptor other) : part = other := by
  cases names <;> cases again <;> grind

theorem FilterDescriptor.Names.unique {caseSensitive : Bool} {fallback : Occurrence}
    {kind : FieldKind} {descriptor : FilterDescriptor} {part other : Part}
    (names : descriptor.Names caseSensitive fallback kind part)
    (again : descriptor.Names caseSensitive fallback kind other) : part = other := by
  cases names with
  | numeric names =>
    cases again with
    | numeric again => exact names.unique again
    | test textual | anyOf textual => simp at textual
  | date names =>
    cases again with
    | date again => exact names.unique again
    | test textual | anyOf textual => simp at textual
  | test textual test single =>
    cases again with
    | numeric | date => simp at textual
    | test _ again => simp_all
    | anyOf _ several => simp [single rfl] at several
  | anyOf textual several =>
    cases again with
    | numeric | date => simp at textual
    | test _ _ single => simp [single rfl] at several
    | anyOf => rfl

/-- The text of an entry decides what it names. -/
theorem Schema.Names.unique {schema : Schema} {caseSensitive : Bool} {fallback : Occurrence}
    {entry : String} {part other : Part} (names : schema.Names caseSensitive fallback entry part)
    (again : schema.Names caseSensitive fallback entry other) : part = other := by
  obtain ⟨descriptor, kind, read, known, names⟩ := names
  obtain ⟨_, _, readAgain, knownAgain, again⟩ := again
  cases read.symm.trans readAgain
  cases known.symm.trans knownAgain
  exact names.unique again

namespace Draft

variable {draft : Draft} {step : Step}

private theorem addBounds_names {α : Type} (draft : Draft) (kind : OrderedKind α) {field : String}
    {values : List String} {lower upper : Option α}
    (readLower : readBound kind.read values[0]? = .ok lower)
    (readUpper : readBound kind.read values[1]? = .ok upper) :
    ∃ part, OrderedNames kind draft.childrenOccur ⟨field, .range, values⟩ part ∧
      draft.GrowsTo (draft.addBounds kind field lower upper).draft (.ofParts [part]) := by
  cases lower with
  | some lower =>
    cases upper with
    | some upper => exact ⟨_, .between readLower readUpper, .addRange draft _ _ .notSet⟩
    | none => exact ⟨_, .atLeast readLower readUpper, .compare draft _⟩
  | none =>
    cases upper with
    | some upper => exact ⟨_, .atMost readLower readUpper, .compare draft _⟩
    | none => exact ⟨_, .unbounded readLower readUpper, .refl draft⟩

theorem applyOrdered_names {α : Type} {kind : OrderedKind α} {descriptor : FilterDescriptor}
    (applied : draft.applyOrdered kind descriptor = .ok step) :
    ∃ part, OrderedNames kind draft.childrenOccur descriptor part ∧
      draft.GrowsTo step.draft (.ofParts [part]) := by
  obtain ⟨field, operator, values⟩ := descriptor
  rw [Draft.applyOrdered_eq] at applied
  cases operator <;> simp only at applied
  case eq | notEq =>
    obtain ⟨text, single, applied⟩ := Except.exists_of_bind_eq_ok applied
    obtain ⟨value, read, applied⟩ := Except.exists_of_bind_eq_ok applied
    cases applied
    obtain ⟨filled, rest, rfl⟩ := FilterDescriptor.singleValue_eq_ok_iff.mp single
    exact ⟨_, .point (by simp) filled read, .addRange draft _ _ _⟩
  case gt | gte | lt | lte =>
    obtain ⟨text, single, applied⟩ := Except.exists_of_bind_eq_ok applied
    obtain ⟨value, read, applied⟩ := Except.exists_of_bind_eq_ok applied
    cases applied
    obtain ⟨filled, rest, rfl⟩ := FilterDescriptor.singleValue_eq_ok_iff.mp single
    exact ⟨_, .compared (by simp) filled read, .compare draft _⟩
  case range =>
    obtain ⟨lower, readLower, applied⟩ := Except.exists_of_bind_eq_ok applied
    obtain ⟨upper, readUpper, applied⟩ := Except.exists_of_bind_eq_ok applied
    cases applied
    exact draft.addBounds_names kind readLower readUpper
  case prefixed | exact | fuzzy => cases applied

theorem applyText_names {kind : FieldKind} (textual : kind = .text ∨ kind = .keyword)
    {descriptor : FilterDescriptor} (applied : draft.applyText descriptor = .ok step) :
    ∃ part, descriptor.Names draft.caseSensitive draft.childrenOccur kind part ∧
      draft.GrowsTo step.draft (.ofParts [part]) := by
  obtain ⟨field, operator, values⟩ := descriptor
  rw [applyText_eq] at applied
  split at applied
  · rename_i several
    obtain ⟨equality, several⟩ := several
    cases equality
    cases applied
    exact ⟨_, .anyOf textual several, .addAny draft .keyword (fun _ => field) id values⟩
  · rename_i few
    split at applied
    · rename_i matching occur test
      obtain ⟨value, first, added⟩ := Except.exists_of_bind_eq_ok applied
      cases added
      obtain ⟨filled, rest, rfl⟩ := FilterDescriptor.singleValue_eq_ok_iff.mp first
      have grows := GrowsTo.addTest draft matching field value occur
      have set := FilterOperator.isSet_of_textTest? test
      rw [resolveOccur, Occurrence.orElse_of_isSet set] at grows
      refine ⟨_, .test textual test ?_ filled, grows⟩
      intro equality
      simpa using not_and.mp few equality
    · cases applied

theorem applyFilter_names {kind : FieldKind} {descriptor : FilterDescriptor}
    (applied : draft.applyFilter kind descriptor = .ok step) :
    ∃ part, descriptor.Names draft.caseSensitive draft.childrenOccur kind part ∧
      draft.GrowsTo step.draft (.ofParts [part]) := by
  cases kind with
  | numeric =>
    obtain ⟨part, names, grows⟩ := applyOrdered_names applied
    exact ⟨part, .numeric names, grows⟩
  | date =>
    obtain ⟨part, names, grows⟩ := applyOrdered_names applied
    exact ⟨part, .date names, grows⟩
  | text => exact applyText_names (.inl rfl) applied
  | keyword => exact applyText_names (.inr rfl) applied

end Draft

end SearchQuery
