import SearchQuery.Proofs.Request.Parts
import SearchQuery.Request.Basic

/-!
What a request adds to a draft. Main statement: an accepted request adds what it names, all of it in
order (`request_adds_what_it_names`).
-/

namespace SearchQuery

namespace Request

variable {draft after : Draft}

theorem applyEntry_names {schema : Schema} {entry : String} {step : Step}
    (applied : applyEntry schema draft entry = .ok step) :
    ∃ part, schema.Names draft.caseSensitive draft.childrenOccur entry part ∧
      draft.GrowsTo step.draft (.ofParts [part]) := by
  obtain ⟨descriptor, read, applied⟩ := Except.exists_of_bind_eq_ok applied
  split at applied
  · rename_i kind known
    obtain ⟨part, names, grows⟩ := Draft.applyFilter_names applied
    exact ⟨part, ⟨descriptor, kind, read, known, names⟩, grows⟩
  · cases applied

/-- The entries that are applied name one part each, and the draft grows by these in order. -/
theorem applyEntries_names {schema : Schema} {entries : List String}
    (applied : (applyEntries schema draft entries).result = .ok after) :
    ∃ parts, List.Forall₂ (schema.Names draft.caseSensitive draft.childrenOccur) entries parts ∧
      draft.GrowsTo after (.ofParts parts) := by
  induction entries generalizing draft with
  | nil =>
    cases applied
    exact ⟨[], .nil, .refl _⟩
  | cons entry rest ih =>
    rw [applyEntries] at applied
    split at applied
    · cases applied
    · rename_i step first
      obtain ⟨part, names, grows⟩ := applyEntry_names first
      obtain ⟨parts, others, further⟩ := ih applied
      rw [grows.caseSensitive, grows.childrenOccur] at others
      refine ⟨part :: parts, .cons names others, ?_⟩
      rw [Additions.ofParts_cons]
      exact grows.trans further

/-- For each word of the text, the tests that look for it in each of the text fields. -/
def wordTests (request : Request) (schema : Schema) (caseSensitive : Bool) : List (List Query) :=
  if schema.textFields.isEmpty then []
  else ((request.text.map Text.words).getD []).map fun word =>
    schema.textFields.map fun field =>
      .term ⟨.prefixed, ⟨field, Text.folded caseSensitive word⟩, none, .sometimes⟩

/-- The sort that a request names, which the schema has to know, or else the default one. -/
inductive Chooses (request : Request) (schema : Schema) : Option AllowedSort → Prop where
  | named {name : String} {sort : AllowedSort} (asked : request.sortBy = some name)
      (known : schema.findSort? name = some sort) : Chooses request schema (some sort)
  | default (unasked : request.sortBy = none) :
      Chooses request schema (schema.defaultSort.bind schema.findSort?)

/-- The key of a sort in the direction that the request asks for, or else in its own. -/
def sortKey (request : Request) (sort : AllowedSort) : SortKey :=
  ⟨sort.path, sort.sortType, request.direction.getD sort.direction == .desc⟩

theorem chosenSort_eq_ok_iff {request : Request} {schema : Schema} {sort : Option AllowedSort} :
    request.chosenSort schema = .ok sort ↔ request.Chooses schema sort := by
  constructor
  · intro chosen
    rw [chosenSort] at chosen
    split at chosen
    · rename_i name asked
      split at chosen
      · rename_i found known
        cases chosen
        exact .named asked known
      · cases chosen
    · rename_i unasked
      cases chosen
      exact .default unasked
  · rintro (⟨asked, known⟩ | ⟨unasked⟩)
    · simp [chosenSort, asked, known]
    · simp [chosenSort, unasked]

theorem applySort_of_chooses {request : Request} {schema : Schema} {sort : Option AllowedSort}
    (chosen : request.Chooses schema sort) (draft : Draft) :
    ∃ step, request.applySort schema draft = .ok step := by
  rw [applySort, chosenSort_eq_ok_iff.mpr chosen, Except.ok_bind]
  cases sort with
  | some sort => exact ⟨_, rfl⟩
  | none => exact ⟨_, rfl⟩

/-- A draft after the words of the text, before the filter entries. -/
def worded (request : Request) (schema : Schema) (draft : Draft) : Draft :=
  match request.text with
  | some text => (draft.addText text schema.textFields).draft
  | none => draft

/-- The words, then the filter entries, then the sort. -/
theorem apply_eq_ok_iff {request : Request} {schema : Schema} :
    (request.apply schema draft).result = .ok after ↔
      ∃ between step,
        (applyEntries schema (request.worded schema draft) request.filters).result = .ok between ∧
        request.applySort schema between = .ok step ∧ step.draft = after := by
  unfold Request.apply
  extract_lets text filtered
  have start : text.draft = request.worded schema draft := by
    simp only [text, worded]
    cases request.text <;> rfl
  rw [← start]
  constructor
  · intro accepted
    split at accepted
    · cases accepted
    · rename_i between entries
      split at accepted
      · cases accepted
      · rename_i step sorted
        cases accepted
        exact ⟨between, step, entries, sorted, rfl⟩
  · rintro ⟨between, step, entries, sorted, rfl⟩
    simp only [filtered, entries, sorted]

end Request

namespace Draft.GrowsTo

theorem addWords (draft : Draft) (fields words : List String) :
    draft.GrowsTo (words.foldl (fun draft word => draft.addWord fields word) draft)
      { groups := words.map fun word => fields.map fun field =>
          .term ⟨.prefixed, ⟨field, Text.folded draft.caseSensitive word⟩, none, .sometimes⟩ } := by
  induction words generalizing draft with
  | nil => exact refl draft
  | cons word rest ih =>
    have first : draft.GrowsTo (draft.addWord fields word) _ :=
      addAny draft .prefixed id (fun _ => word) fields
    have others := ih (draft.addWord fields word)
    rw [first.caseSensitive] at others
    exact first.trans others

theorem addText (draft : Draft) (text : String) (fields : List String) :
    draft.GrowsTo (draft.addText text fields).draft
      { groups := if fields.isEmpty then [] else (Text.words text).map fun word =>
          fields.map fun field =>
            .term ⟨.prefixed, ⟨field, Text.folded draft.caseSensitive word⟩, none,
              .sometimes⟩ } := by
  rw [Draft.addText]
  by_cases blank : (Text.words text).isEmpty
  · rw [if_pos blank, List.isEmpty_iff.mp blank, List.map_nil, ite_self]
    exact refl draft
  · rw [if_neg blank]
    split
    · exact refl draft
    · exact addWords draft fields (Text.words text)

theorem worded (draft : Draft) (request : Request) (schema : Schema) :
    draft.GrowsTo (request.worded schema draft)
      { groups := request.wordTests schema draft.caseSensitive } := by
  rw [Request.worded, Request.wordTests]
  cases request.text with
  | some text => exact addText draft text schema.textFields
  | none =>
    rw [Option.map_none, Option.getD_none, List.map_nil, ite_self]
    exact refl draft

theorem applySort (draft : Draft) {request : Request} {schema : Schema} {step : Step}
    (applied : request.applySort schema draft = .ok step) :
    ∃ sort, request.Chooses schema sort ∧
      draft.GrowsTo step.draft { sortKeys := sort.toList.map request.sortKey } := by
  obtain ⟨sort, chosen, applied⟩ := Except.exists_of_bind_eq_ok applied
  refine ⟨sort, Request.chosenSort_eq_ok_iff.mp chosen, ?_⟩
  cases sort with
  | some sort =>
    cases applied
    exact addSort draft _
  | none =>
    cases applied
    exact refl draft

end Draft.GrowsTo

/-- An accepted request adds to a draft what it names and nothing else: a clause for each filter
entry that names one, in order; a group for each word and then one for each entry that names one;
the last comparison; the chosen sort. -/
theorem request_adds_what_it_names {request : Request} {schema : Schema} {draft after : Draft}
    (accepted : (request.apply schema draft).result = .ok after) :
    ∃ parts sort,
      List.Forall₂ (schema.Names draft.caseSensitive draft.childrenOccur) request.filters parts ∧
      request.Chooses schema sort ∧
      draft.GrowsTo after {
        clauses := parts.filterMap Part.clause?
        groups := request.wordTests schema draft.caseSensitive ++ parts.filterMap Part.tests?
        filter := (parts.filterMap Part.filter?).getLast?
        sortKeys := sort.toList.map request.sortKey } := by
  obtain ⟨between, step, entries, sorted, rfl⟩ := Request.apply_eq_ok_iff.mp accepted
  have start := Draft.GrowsTo.worded draft request schema
  obtain ⟨parts, named, further⟩ := Request.applyEntries_names entries
  obtain ⟨sort, chosen, last⟩ := Draft.GrowsTo.applySort between sorted
  rw [start.caseSensitive, start.childrenOccur] at named
  have grows := (start.trans further).trans last
  refine ⟨parts, sort, named, chosen, ?_⟩
  simpa only [Additions.andThen, Additions.ofParts, List.nil_append, List.append_nil,
    Option.or_none, Option.none_or] using grows

/-- A draft that already holds a clause under a key of the kind that is given out. -/
def stockedDraft : Draft :=
  (Draft.root false).insert "Query_1" (.term ⟨.term, ⟨"brand", "acme"⟩, none, .notSet⟩)

def shopSchema : Schema where
  textFields := ["title", "body"]
  filterFields := [⟨"status", .keyword⟩, ⟨"price", .numeric⟩, ⟨"sold", .date⟩]
  sorts := [⟨"newest", "created", .long, .desc⟩]

/-- Entries of all kinds, mixed: single clauses, a group, and two comparisons. -/
def shopRequest : Request where
  text := some "Red  shoes"
  sortBy := some "newest"
  filters := ["price:gt:5", "status:ne:Sold", "status:eq:new|used", "price:range:10,20",
    "sold:range:2024-01-01,*"]

/-- The clause that was there keeps its key, the new ones avoid it, and two words and one entry
become groups. -/
theorem request_adds_what_it_names_mixed :
    ∃ after, (shopRequest.apply shopSchema stockedDraft).result = .ok after ∧
      after.clauses.keys = ["Query_1", "Query_0", "Query_2"] ∧ after.groups.length = 3 ∧
      ∃ parts sort,
        List.Forall₂ (shopSchema.Names stockedDraft.caseSensitive stockedDraft.childrenOccur)
          shopRequest.filters parts ∧
        shopRequest.Chooses shopSchema sort ∧
        stockedDraft.GrowsTo after {
          clauses := parts.filterMap Part.clause?
          groups := shopRequest.wordTests shopSchema stockedDraft.caseSensitive ++
            parts.filterMap Part.tests?
          filter := (parts.filterMap Part.filter?).getLast?
          sortKeys := sort.toList.map shopRequest.sortKey } := by
  have shape : (shopRequest.apply shopSchema stockedDraft).result.toOption.map
      (fun after => (after.clauses.keys, after.groups.length)) =
        some (["Query_1", "Query_0", "Query_2"], 3) := by
    decide +kernel
  cases result : (shopRequest.apply shopSchema stockedDraft).result with
  | error _ =>
    rw [result] at shape
    cases shape
  | ok after =>
    rw [result] at shape
    obtain ⟨keys, groups⟩ := Prod.mk.inj (Option.some.inj shape)
    exact ⟨after, rfl, keys, groups, request_adds_what_it_names result⟩

end SearchQuery
