import SearchQuery.Proofs.Calendar.Bounds
import SearchQuery.Proofs.Draft.Built
import SearchQuery.Proofs.Number.PlainNumerals
import SearchQuery.Proofs.Rendering.BracketFilter
import SearchQuery.Proofs.Rendering.ODataFilter
import SearchQuery.Proofs.Request.Verdict

/-!
Which numbers a request writes into filters: the milliseconds of its dates, always as numerals, and
its numbers, as numerals unless they are read as infinite or as no number
(`request_writes_its_numbers`).
-/

namespace SearchQuery

open Rendering
open Draft (OrderedKind numericKind dateKind)

private theorem exists_of_readBound {α : Type} {read : String → Except QueryError α}
    {values : List String}
    {position : Nat} {value : α} (bound : readBound read values[position]? = .ok (some value)) :
    ∃ source ∈ values, read (Text.trim source) = .ok value := by
  cases there : values[position]? with
  | none =>
    rw [there] at bound
    cases bound
  | some source =>
    rw [there, readBound, Option.map_some] at bound
    refine ⟨source, List.mem_of_getElem? there, ?_⟩
    simp only at bound
    split at bound
    · cases bound
    · cases result : read (Text.trim source) with
      | error cause =>
        rw [result] at bound
        cases bound
      | ok other =>
        rw [result] at bound
        cases bound
        rfl

namespace FilterPart

def field : FilterPart → String
  | .range field _ _ _ => field
  | .comparison field _ _ => field

def literals : FilterPart → List Literal
  | .range _ lower upper _ => [lower, upper]
  | .comparison _ _ literal => [literal]

end FilterPart

/-- What a part of a request becomes in the filter. -/
def Part.filterPart? : Part → Option FilterPart
  | .clause (.range range) => some range.part
  | .comparison filter => some filter.part
  | _ => none

/-- Values of a kind are read by `parse?`, and stand in ranges and comparisons with their
`digits`. -/
structure Draft.OrderedKind.Writes {α : Type} (kind : OrderedKind α) (parse? : String → Option α)
    (digits : α → String) : Prop where
  reads {text : String} {value : α} (read : kind.read text = .ok value) :
    parse? (Text.trim text) = some value
  bounds {text other : String} {lower upper : α} (first : parse? text = some lower)
    (second : parse? other = some upper) :
    (kind.interval lower upper).bounds = (.number (digits lower), .number (digits upper))
  literal {text : String} {value : α} (read : parse? text = some value) :
    (kind.filterValue value).literal = .number (digits value)

theorem numericKind_writes : numericKind.Writes Binary.ofText? Binary.exactText where
  reads := by
    intro text value read
    dsimp only [numericKind] at read
    exact readNumeric_eq_ok_iff.mp read
  bounds := by
    intros
    rfl
  literal := by
    intros
    rfl

/-- As a whole number or as a double, the milliseconds keep all their digits. -/
theorem dateKind_writes :
    dateKind.Writes Calendar.Instant.ofText? fun instant => toString instant.millis where
  reads := by
    intro text instant read
    dsimp only [dateKind] at read
    exact readDate_eq_ok_iff.mp read
  bounds := by
    intro text other lower upper first second
    have limit : Nat.pow 2 53 = 9007199254740992 := rfl
    have exactly {instant : Calendar.Instant} (small : instant.millis.natAbs < Nat.pow 2 53) :
        (Int64.ofInt instant.millis).toInt = instant.millis :=
      Int64.toInt_ofInt_of_le (by omega) (by omega)
    have bounds : (dateKind.interval lower upper).bounds =
        (.number (toString (Int64.ofInt lower.millis).toInt),
          .number (toString (Int64.ofInt upper.millis).toInt)) := rfl
    rw [bounds, exactly (Calendar.Instant.natAbs_millis_lt first),
      exactly (Calendar.Instant.natAbs_millis_lt second)]
  literal := by
    intro text instant read
    rw [dateKind, FilterValue.literal,
      Double.exactText_ofInt (Calendar.Instant.natAbs_millis_lt read)]

namespace OrderedNames

variable {α : Type} {kind : OrderedKind α} {parse? : String → Option α} {digits : α → String}
  {fallback : Occurrence} {descriptor : FilterDescriptor} {part : Part} {written : FilterPart}

private theorem field_eq (names : OrderedNames kind fallback descriptor part)
    (becomes : part.filterPart? = some written) : written.field = descriptor.field := by
  cases names with
  | unbounded => cases becomes
  | _ =>
    cases becomes
    rfl

theorem literals (names : OrderedNames kind fallback descriptor part)
    (writes : kind.Writes parse? digits) (becomes : part.filterPart? = some written) :
    ∀ literal ∈ written.literals, ∃ source ∈ descriptor.values, ∃ value,
      parse? (Text.trim source) = some value ∧ literal = .number (digits value) := by
  have trimmed {source : String} {value : α} (read : kind.read (Text.trim source) = .ok value) :
      parse? (Text.trim source) = some value := by
    simpa using writes.reads read
  have within {values : List String} {source other : String} {lower upper : α}
      (there : source ∈ values) (also : other ∈ values)
      (first : parse? (Text.trim source) = some lower)
      (second : parse? (Text.trim other) = some upper) :
      ∀ literal ∈ [(kind.interval lower upper).bounds.1, (kind.interval lower upper).bounds.2],
        ∃ source ∈ values, ∃ value,
          parse? (Text.trim source) = some value ∧ literal = .number (digits value) := by
    rw [writes.bounds first second]
    intro literal member
    rcases List.mem_pair.mp member with rfl | rfl
    · exact ⟨source, there, lower, first, rfl⟩
    · exact ⟨other, also, upper, second, rfl⟩
  cases names with
  | point equality filled read =>
    cases becomes
    have parsed := writes.reads read
    exact within List.mem_cons_self List.mem_cons_self parsed parsed
  | compared order filled read =>
    cases becomes
    intro literal member
    exact ⟨_, List.mem_cons_self, _, writes.reads read,
      (List.mem_singleton.mp member).trans (writes.literal (writes.reads read))⟩
  | between readLower readUpper =>
    cases becomes
    obtain ⟨source, there, lower⟩ := exists_of_readBound readLower
    obtain ⟨other, also, upper⟩ := exists_of_readBound readUpper
    exact within there also (trimmed lower) (trimmed upper)
  | atLeast bound readUpper | atMost readLower bound =>
    cases becomes
    obtain ⟨source, there, read⟩ := exists_of_readBound bound
    intro literal member
    exact ⟨source, there, _, trimmed read,
      (List.mem_singleton.mp member).trans (writes.literal (trimmed read))⟩
  | unbounded => cases becomes

end OrderedNames

namespace Request

/-- A value in an entry on a field of this kind. -/
def HasValue (request : Request) (schema : Schema) (kind : FieldKind) (source : String) : Prop :=
  ∃ entry ∈ request.filters, ∃ descriptor, FilterDescriptor.ofText entry = .ok descriptor ∧
    schema.fieldKind? descriptor.field = some kind ∧ source ∈ descriptor.values

/-- A number that a value of the request stands for, as it is written, and whether it is finite:
the milliseconds of a date, or the number itself. -/
inductive Gives (request : Request) (schema : Schema) : Literal → Bool → Prop where
  | date {source : String} {instant : Calendar.Instant}
      (value : request.HasValue schema .date source)
      (read : Calendar.Instant.ofText? (Text.trim source) = some instant) :
      Gives request schema (.number (toString instant.millis)) true
  | number {source : String} {x : Double} (value : request.HasValue schema .numeric source)
      (read : Binary.ofText? (Text.trim source) = some x) :
      Gives request schema (.number x.exactText) x.isFinite

/-- Finite numbers are written as numerals, and no others. -/
theorem Gives.plainNumeral_iff {request : Request} {schema : Schema} {literal : Literal}
    {finite : Bool} (gives : request.Gives schema literal finite) :
    PlainNumeral literal.content.toList ↔ finite := by
  cases gives with
  | date => exact iff_of_true (.intText _) rfl
  | number => exact Binary.plainNumeral_exactText_iff _

end Request

namespace Schema.Names

variable {request : Request} {schema : Schema} {caseSensitive : Bool} {fallback : Occurrence}
  {entry : String} {part : Part} {written : FilterPart}

theorem gives (names : schema.Names caseSensitive fallback entry part)
    (member : entry ∈ request.filters) (becomes : part.filterPart? = some written) :
    ∀ literal ∈ written.literals, ∃ finite, request.Gives schema literal finite := by
  obtain ⟨descriptor, kind, read, known, names⟩ := names
  intro literal present
  cases names with
  | numeric names =>
    obtain ⟨source, there, x, parsed, rfl⟩ :=
      names.literals numericKind_writes becomes literal present
    exact ⟨_, .number ⟨entry, member, descriptor, read, known, there⟩ parsed⟩
  | date names =>
    obtain ⟨source, there, instant, parsed, rfl⟩ :=
      names.literals dateKind_writes becomes literal present
    exact ⟨_, .date ⟨entry, member, descriptor, read, known, there⟩ parsed⟩
  | test | anyOf => cases becomes

theorem isFieldName (names : schema.Names caseSensitive fallback entry part)
    (becomes : part.filterPart? = some written) : FilterDescriptor.isFieldName written.field := by
  obtain ⟨descriptor, kind, read, known, names⟩ := names
  have named := (FilterDescriptor.of_ofText_eq_ok read).1
  cases names with
  | numeric names | date names => exact names.field_eq becomes ▸ named
  | test | anyOf => cases becomes

/-- A clause that has a range is that range. -/
theorem eq_range {query : Query} {range : Range}
    (names : schema.Names caseSensitive fallback entry (.clause query))
    (member : range ∈ query.ranges) : query = .range range := by
  obtain ⟨_, _, _, _, names⟩ := names
  cases names with
  | numeric names | date names => cases names <;> simp_all [Query.ranges]
  | test => cases member

private theorem ranges_eq_nil {tests : List Query}
    (names : schema.Names caseSensitive fallback entry (.anyOf tests)) :
    ∀ test ∈ tests, test.ranges = [] := by
  obtain ⟨_, _, _, _, names⟩ := names
  cases names with
  | numeric names | date names => cases names
  | anyOf textual several =>
    intro test member
    obtain ⟨_, _, rfl⟩ := List.mem_map.mp member
    rfl

end Schema.Names

private theorem Request.ranges_wordTests (request : Request) (schema : Schema)
    (caseSensitive : Bool) :
    ∀ tests ∈ request.wordTests schema caseSensitive, ∀ test ∈ tests, test.ranges = [] := by
  intro tests member test present
  rw [wordTests] at member
  split at member
  · cases member
  · obtain ⟨word, _, rfl⟩ := List.mem_map.mp member
    obtain ⟨field, _, rfl⟩ := List.mem_map.mp present
    rfl

/-- Everything in the filter of an accepted request is named by one of its entries. -/
theorem Request.exists_of_mem_filterParts {request : Request} {schema : Schema}
    {caseSensitive : Bool} {after : Draft}
    (accepted : (request.apply schema (.root caseSensitive)).result = .ok after) :
    ∀ written ∈ after.build.filterParts, ∃ entry ∈ request.filters, ∃ part,
      schema.Names caseSensitive .always entry part ∧ part.filterPart? = some written := by
  obtain ⟨between, step, entries, sorted, rfl⟩ := Request.apply_eq_ok_iff.mp accepted
  have start := Draft.GrowsTo.worded (.root caseSensitive) request schema
  obtain ⟨parts, named, further⟩ := Request.applyEntries_names entries
  obtain ⟨sort, _, last⟩ := Draft.GrowsTo.applySort between sorted
  rw [start.caseSensitive, start.childrenOccur] at named
  have grows := (start.trans further).trans last
  have source {part : Part} (member : part ∈ parts) :
      ∃ entry ∈ request.filters, schema.Names caseSensitive .always entry part :=
    List.Forall₂.exists_mem_of_mem named.flip part member
  intro written member
  rcases List.mem_append.mp member with range | filter
  · obtain ⟨range, present, rfl⟩ := List.mem_map.mp range
    obtain ⟨query, origin, own⟩ := grows.exists_of_mem_ranges present
    simp only [Additions.andThen, Additions.ofParts, List.nil_append, List.append_nil,
      List.mem_filterMap, List.mem_append] at origin
    rcases origin with ⟨part, there, clause⟩ | ⟨tests, words | ⟨part, there, group⟩, among⟩
    · obtain ⟨entry, asked, names⟩ := source there
      cases part with
      | clause =>
        cases clause
        obtain rfl := names.eq_range own
        exact ⟨entry, asked, _, names, rfl⟩
      | _ => cases clause
    · rw [request.ranges_wordTests schema _ tests words query among] at own
      cases own
    · obtain ⟨entry, asked, names⟩ := source there
      cases part with
      | anyOf =>
        cases group
        rw [names.ranges_eq_nil query among] at own
        cases own
      | _ => cases group
  · obtain ⟨compared, present, rfl⟩ := List.mem_map.mp filter
    have last : (parts.filterMap Part.filter?).getLast? = some compared := by
      simpa [grows.filter_build, Additions.andThen, Additions.ofParts] using present
    obtain ⟨part, there, comparison⟩ := List.mem_filterMap.mp (List.mem_of_getLast? last)
    obtain ⟨entry, asked, names⟩ := source there
    cases part with
    | comparison =>
      cases comparison
      exact ⟨entry, asked, _, names, rfl⟩
    | _ => cases comparison

private theorem Request.namesFields_build {request : Request} {schema : Schema}
    {caseSensitive : Bool}
    {after : Draft} (accepted : (request.apply schema (.root caseSensitive)).result = .ok after) :
    after.build.NamesFields := by
  have named : ∀ written ∈ after.build.filterParts, FilterDescriptor.isFieldName written.field := by
    intro written member
    obtain ⟨_, _, _, names, becomes⟩ := Request.exists_of_mem_filterParts accepted written member
    exact names.isFieldName becomes
  constructor
  · exact fun range member => named _ (List.mem_append_left _ (List.mem_map_of_mem member))
  · intro filter present
    refine named filter.part (List.mem_append_right _ (List.mem_map_of_mem ?_))
    exact Option.mem_toList.mpr present

/-- An accepted request leads to filters with the numbers of its entries and no others: the
milliseconds of dates, which are numerals, and numbers, which are numerals exactly if they are read
as finite ones. -/
theorem request_writes_its_numbers {request : Request} {schema : Schema} {caseSensitive : Bool}
    {after : Draft} (accepted : (request.apply schema (.root caseSensitive)).result = .ok after) :
    ∃ azureDone solrDone, azure.render after.build = .ok azureDone ∧
      solr.render after.build = .ok solrDone ∧
      OData.Expression (after.build.filterParts.map FilterPart.odataClause)
        azureDone.filter.toList ∧
      FilterQuery.Expression (after.build.filterParts.map FilterPart.bracketClause)
        solrDone.filter.toList ∧
      ∀ part ∈ after.build.filterParts, ∀ literal ∈ part.literals,
        ∃ finite, request.Gives schema literal finite ∧
          (PlainNumeral literal.content.toList ↔ finite) := by
  have resolved := ((Draft.Decided.root caseSensitive).applyRequest request schema
    accepted).resolved_build.leaves
  have named := Request.namesFields_build accepted
  have azureDone := azure.render_of_resolved resolved
  have solrDone := solr.render_of_resolved resolved
  refine ⟨_, _, azureDone, solrDone, OData.expression_filterParts named azureDone,
    FilterQuery.expression_filterParts named solrDone, ?_⟩
  intro part member literal present
  obtain ⟨entry, asked, _, names, becomes⟩ :=
    Request.exists_of_mem_filterParts accepted part member
  obtain ⟨finite, gives⟩ := names.gives asked becomes literal present
  exact ⟨finite, gives, gives.plainNumeral_iff⟩

/-- The renderings of what an attempt gives, when both are computed from it at once. -/
theorem Attempt.exists_of_renderings {attempt : Attempt} {first second : Rendered}
    (shape : attempt.result.toOption.map (fun after =>
      ((azure.render after.build).toOption, (solr.render after.build).toOption)) =
        some (some first, some second)) :
    ∃ after, attempt.result = .ok after ∧ azure.render after.build = .ok first ∧
      solr.render after.build = .ok second := by
  cases result : attempt.result with
  | error _ =>
    rw [result] at shape
    cases shape
  | ok after =>
    rw [result] at shape
    obtain ⟨azureDone, solrDone⟩ := Prod.mk.inj (Option.some.inj shape)
    exact ⟨after, rfl, Except.eq_ok_of_toOption azureDone,
      Except.eq_ok_of_toOption solrDone⟩

/-- A fraction, a number beyond all doubles and a date. -/
def pricedRequest : Request where
  filters := ["price:range:-5e-1,1e999", "sold:gte:2024-01-01"]

theorem request_writes_its_numbers_priced :
    ∃ after, (pricedRequest.apply shopSchema (.root false)).result = .ok after ∧
      azure.render after.build =
        .ok ⟨"", "(price ge -0.5 and price le inf) and sold ge 1704067200000"⟩ ∧
      solr.render after.build =
        .ok ⟨"", "price:[-0.5 TO inf] AND sold:[1704067200000 TO *]"⟩ ∧
      ∀ part ∈ after.build.filterParts, ∀ literal ∈ part.literals,
        ∃ finite, pricedRequest.Gives shopSchema literal finite ∧
          (PlainNumeral literal.content.toList ↔ finite) := by
  have done := Attempt.exists_of_renderings
    (show (pricedRequest.apply shopSchema (.root false)).result.toOption.map _ =
      some (some ⟨"", "(price ge -0.5 and price le inf) and sold ge 1704067200000"⟩,
        some ⟨"", "price:[-0.5 TO inf] AND sold:[1704067200000 TO *]"⟩) by decide +kernel)
  obtain ⟨after, accepted, azureDone, solrDone⟩ := done
  obtain ⟨_, _, _, _, _, _, numbers⟩ := request_writes_its_numbers accepted
  exact ⟨after, accepted, azureDone, solrDone, numbers⟩

/-- A comparison with a word that is read as no number. -/
def numberlessRequest : Request where
  filters := ["price:gt:nan"]

/-- The word is accepted, and stands in both filters where a numeral should. -/
theorem word_is_written_for_number :
    ∃ after, (numberlessRequest.apply shopSchema (.root false)).result = .ok after ∧
      azure.render after.build = .ok ⟨"", "price gt NaN"⟩ ∧
      solr.render after.build = .ok ⟨"", "price:\x7bNaN TO *]"⟩ ∧
      ¬ PlainNumeral "NaN".toList := by
  have done := Attempt.exists_of_renderings
    (show (numberlessRequest.apply shopSchema (.root false)).result.toOption.map _ =
      some (some ⟨"", "price gt NaN"⟩, some ⟨"", "price:\x7bNaN TO *]"⟩) by decide +kernel)
  obtain ⟨after, accepted, azureDone, solrDone⟩ := done
  have word : ¬ PlainNumeral (Binary.nan : Double).exactText.toList :=
    (Binary.plainNumeral_exactText_iff _).not.mpr Bool.false_ne_true
  exact ⟨after, accepted, azureDone, solrDone, word⟩

end SearchQuery
