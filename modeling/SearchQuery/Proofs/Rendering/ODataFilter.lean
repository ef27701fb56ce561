import SearchQuery.Proofs.Rendering.FilterParts

/-!
OData filter expressions as Azure reads them. The grammar is stated apart from what writes them; no
text has two readings (`OData.Expression.unique`), and the filter of a search is read as the parts
that it was written from (`azure_filter_reads_back`).
-/

namespace SearchQuery

open Rendering

namespace Rendering.OData

/-- A character of a bare token: nothing that parts or quotes literals. -/
def isTokenPart (c : Char) : Bool :=
  !(['\'', ' ', '(', ')'].contains c)

/-- A character in single quotes. -/
inductive QuotedChar : Form Char
  | plain {c : Char} (other : c ≠ '\'') : QuotedChar c [c]
  | quote : QuotedChar '\'' ['\'', '\'']

/-- A bare token, or a text in single quotes. -/
inductive LiteralText : Form Literal
  | bare {token : String} (filled : token.toList ≠ []) (parts : ∀ c ∈ token.toList, isTokenPart c) :
      LiteralText (.number token) token.toList
  | quoted {value : String} {inner : List Char}
      (spelled : Form.Spelled QuotedChar value.toList inner) :
      LiteralText (.text value) ('\'' :: inner ++ ['\''])

def operatorText : Comparator → List Char
  | .eq => ['e', 'q']
  | .notEq => ['n', 'e']
  | .gt => ['g', 't']
  | .gte => ['g', 'e']
  | .lt => ['l', 't']
  | .lte => ['l', 'e']

structure Comparison where
  field : String
  comparator : Comparator
  literal : Literal
deriving DecidableEq

inductive ComparisonText : Form Comparison
  | mk {field : String} {comparator : Comparator} {literal : Literal} {text : List Char}
      (named : FilterDescriptor.isFieldName field) (written : LiteralText literal text) :
      ComparisonText ⟨field, comparator, literal⟩
        (field.toList ++ ' ' :: (operatorText comparator ++ ' ' :: text))

/-- An interval is a pair of comparisons, which need not be on one field for the grammar. -/
inductive Clause where
  | interval (negated : Bool) (lower upper : Comparison)
  | comparison (comparison : Comparison)
deriving DecidableEq

def connective : List Char := [' ', 'a', 'n', 'd', ' ']

def negation (negated : Bool) : List Char :=
  if negated then ['n', 'o', 't', ' '] else []

inductive ClauseText : Form Clause
  | interval {lower upper : Comparison} {front back : List Char} (negated : Bool)
      (above : lower.comparator = .gte ∨ lower.comparator = .gt)
      (below : upper.comparator = .lte ∨ upper.comparator = .lt)
      (first : ComparisonText lower front) (second : ComparisonText upper back) :
      ClauseText (.interval negated lower upper)
        (negation negated ++ '(' :: (front ++ (connective ++ (back ++ [')']))))
  | comparison {comparison : Comparison} {text : List Char}
      (written : ComparisonText comparison text) : ClauseText (.comparison comparison) text

/-- A filter expression: nothing, or clauses that all have to hold. -/
abbrev Expression : Form (List Clause) :=
  Form.Joined connective ClauseText

section Unambiguous

/-- A literal ends in front of a space or a closing parenthesis, or with the text. -/
def EndsLiteral (rest : List Char) : Prop :=
  ∀ c ∈ rest.head?, c = ' ' ∨ c = ')'

private theorem endsLiteral_of_endsItem {rest : List Char} (ends : Form.EndsItem connective rest) :
    EndsLiteral rest := by
  rcases ends with rfl | ⟨more, rfl⟩
  · simp [EndsLiteral]
  · simp [EndsLiteral, connective]

private theorem quotedChar_delimited : Form.Delimited QuotedChar fun _ => True := by
  intro c d front last rest tail first second _ _ same
  cases first with
  | plain other =>
    cases second with
    | plain _ => exact List.cons.inj same
    | quote => exact absurd (List.cons.inj same).1 other
  | quote =>
    cases second with
    | plain other => exact absurd (List.cons.inj same).1.symm other
    | quote => exact ⟨rfl, (List.cons.inj (List.cons.inj same).2).2⟩

/-- A quoted text ends at the first quote that is not doubled. -/
theorem spelled_delimited :
    (Form.Spelled QuotedChar).Delimited
      fun rest => ∃ more, rest = '\'' :: more ∧ EndsLiteral more := by
  refine quotedChar_delimited.spelled (fun _ _ _ _ => trivial) (fun _ _ => trivial) ?_
  rintro c front (other | _) rest ⟨more, same, ends⟩
  · exact other (List.cons.inj same).1
  · obtain ⟨-, rfl⟩ := List.cons.inj same
    simp [EndsLiteral] at ends

theorem literal_delimited : LiteralText.Delimited EndsLiteral := by
  have stops {rest : List Char} (ends : EndsLiteral rest) :
      ∀ c ∈ rest.head?, isTokenPart c = false := by
    intro c member
    rcases ends c member with rfl | rfl <;> rfl
  -- a token does not begin with a quote
  have apart {token : String} {rest inner : List Char} (filled : token.toList ≠ [])
      (parts : ∀ c ∈ token.toList, isTokenPart c)
      (same : token.toList ++ rest = '\'' :: inner) : False := by
    obtain ⟨c, others, split⟩ := List.exists_cons_of_ne_nil filled
    rw [split] at same parts
    obtain ⟨rfl, -⟩ := List.cons.inj same
    exact absurd (parts _ List.mem_cons_self) (by decide)
  intro literal other front last rest tail first second ends endsTail same
  cases first with
  | bare filled parts =>
    cases second with
    | bare _ others =>
      obtain ⟨tokens, rests⟩ := cut_run parts others (stops ends) (stops endsTail) same
      exact ⟨by rw [String.toList_inj.mp tokens], rests⟩
    | quoted _ => exact (apart filled parts (by simpa using same)).elim
  | quoted spelled =>
    cases second with
    | bare filled parts => exact (apart filled parts (by simpa using same.symm)).elim
    | quoted again =>
      simp only [List.cons_append, List.append_assoc, List.nil_append, List.cons.injEq, true_and]
        at same
      obtain ⟨values, rests⟩ :=
        spelled_delimited spelled again ⟨rest, rfl, ends⟩ ⟨tail, rfl, endsTail⟩ same
      exact ⟨by rw [String.toList_inj.mp values], (List.cons.inj rests).2⟩

private theorem cut_operator {comparator other : Comparator} {rest tail : List Char}
    (same : operatorText comparator ++ rest = operatorText other ++ tail) :
    comparator = other ∧ rest = tail := by
  cases comparator <;> cases other <;> simp_all [operatorText]

private theorem operator_ne_parenthesis {comparator : Comparator} {rest inner : List Char} :
    operatorText comparator ++ rest ≠ '(' :: inner := by
  cases comparator <;> simp [operatorText]

theorem comparison_delimited : ComparisonText.Delimited EndsLiteral := by
  intro comparison other front last rest tail first second ends endsTail same
  obtain ⟨named, written⟩ := first
  obtain ⟨again, rewritten⟩ := second
  simp only [List.append_assoc, List.cons_append] at same
  obtain ⟨rfl, -, operators⟩ := FieldName.cut named again (by decide) (by decide) same
  obtain ⟨rfl, literals⟩ := cut_operator operators
  obtain ⟨rfl, rests⟩ :=
    literal_delimited written rewritten ends endsTail (List.cons.inj literals).2
  exact ⟨rfl, rests⟩

/-- No comparison begins as an interval does: a field is followed by an operator. -/
theorem comparison_ne_interval {comparison : Comparison} {text rest inner : List Char}
    {negated : Bool} (written : ComparisonText comparison text) :
    text ++ rest ≠ negation negated ++ '(' :: inner := by
  intro same
  obtain ⟨named, _⟩ := written
  cases negated with
  | false =>
    obtain ⟨first, others, split, start⟩ := FieldName.exists_start named
    rw [split] at same
    obtain ⟨rfl, -⟩ := List.cons.inj same
    exact absurd start (by decide)
  | true =>
    have word : FilterDescriptor.isFieldName "not" := by decide
    have letters : negation true = "not".toList ++ [' '] := by decide
    rw [letters] at same
    simp only [List.append_assoc, List.cons_append, List.nil_append] at same
    obtain ⟨-, -, operator⟩ := FieldName.cut named word (by decide) (by decide) same
    exact operator_ne_parenthesis operator

theorem clause_delimited : ClauseText.Delimited (Form.EndsItem connective) := by
  intro clause other front last rest tail first second ends endsTail same
  have endsInside (rest : List Char) : EndsLiteral (connective ++ rest) := by
    simp [EndsLiteral, connective]
  have endsUpper (rest : List Char) : EndsLiteral (')' :: rest) := by simp [EndsLiteral]
  cases first with
  | comparison written =>
    cases second with
    | comparison rewritten =>
      obtain ⟨rfl, same⟩ := comparison_delimited written rewritten (endsLiteral_of_endsItem ends)
        (endsLiteral_of_endsItem endsTail) same
      exact ⟨rfl, same⟩
    | interval _ _ _ _ _ =>
      rw [List.append_assoc] at same
      exact (comparison_ne_interval written same).elim
  | interval negated above below lower upper =>
    cases second with
    | comparison rewritten =>
      rw [List.append_assoc] at same
      exact (comparison_ne_interval rewritten same.symm).elim
    | interval otherNegated _ _ lowerAgain upperAgain =>
      obtain rfl : negated = otherNegated := by
        cases negated <;> cases otherNegated <;> simp_all [negation]
      simp only [List.append_assoc, List.cons_append, List.nil_append, List.append_cancel_left_eq,
        List.cons.injEq, true_and] at same
      obtain ⟨rfl, same⟩ :=
        comparison_delimited lower lowerAgain (endsInside _) (endsInside _) same
      obtain ⟨rfl, same⟩ := comparison_delimited upper upperAgain (endsUpper _) (endsUpper _)
        (List.append_cancel_left same)
      exact ⟨rfl, (List.cons.inj same).2⟩

theorem clause_ne_nil {clause : Clause} : ¬ ClauseText clause [] := by
  intro written
  generalize empty : ([] : List Char) = text at written
  cases written with
  | comparison written =>
    obtain ⟨_, _⟩ := written
    simp at empty
  | interval => simp at empty

/-- A text has one reading as a filter expression at most. -/
theorem Expression.unique {clauses others : List Clause} {text : List Char}
    (first : Expression clauses text) (second : Expression others text) : clauses = others :=
  Form.Joined.unique (by decide) (fun _ => clause_ne_nil) clause_delimited first second

end Unambiguous

section Written

private theorem isTokenPart_of_isNumberPart {c : Char} (part : isNumberPart c) : isTokenPart c :=
  holds_of_isNumberPart (by decide +kernel) part

theorem literalText_odataLiteral {literal : Literal} (printed : literal.Printed) :
    LiteralText literal (odataLiteral literal).toList := by
  cases printed with
  | number bare =>
    exact .bare bare.filled fun c member => isTokenPart_of_isNumberPart (bare.parts c member)
  | text value =>
    rw [odataLiteral, odataString, String.toList_ofList]
    refine .quoted (Form.Spelled.flatMap fun c _ => ?_)
    split
    · rename_i quote
      rw [quote]
      exact .quote
    · rename_i other
      exact .plain other

private theorem toList_odataOperator (comparator : Comparator) :
    (odataOperator comparator).toList = operatorText comparator := by
  cases comparator <;> rfl

theorem odataValue_eq (value : FilterValue) : odataValue value = odataLiteral value.literal := by
  cases value <;> rfl

end Written

end Rendering.OData

open Rendering.OData in
/-- A range as a pair of comparisons, a filter as one. -/
def FilterPart.odataClause : FilterPart → OData.Clause
  | .range field lower upper sense =>
    .interval sense.negated ⟨field, if sense.includeMin then .gte else .gt, lower⟩
      ⟨field, if sense.includeMax then .lte else .lt, upper⟩
  | .comparison field comparator literal => .comparison ⟨field, comparator, literal⟩

namespace Rendering.OData

theorem odataClause_injective : Function.Injective FilterPart.odataClause := by
  intro part other same
  cases part with
  | comparison => cases other <;> simp_all [FilterPart.odataClause]
  | range field lower upper sense =>
    cases other with
    | comparison => simp [FilterPart.odataClause] at same
    | range otherField otherLower otherUpper otherSense =>
      obtain ⟨negated, min, max⟩ := sense
      obtain ⟨otherNegated, otherMin, otherMax⟩ := otherSense
      simp only [FilterPart.odataClause, Clause.interval.injEq, Comparison.mk.injEq] at same
      cases min <;> cases otherMin <;> cases max <;> cases otherMax <;> simp_all

theorem clauseText_azureFilterClause {filter : Filter}
    (named : FilterDescriptor.isFieldName filter.field) :
    ClauseText filter.part.odataClause (azureFilterClause filter).toList := by
  have text : (azureFilterClause filter).toList = filter.field.toList ++ ' ' ::
      (operatorText filter.comparator ++ ' ' :: (odataLiteral filter.value.literal).toList) := by
    simp [azureFilterClause, toList_odataOperator, odataValue_eq]
  rw [text]
  exact .comparison ⟨named, literalText_odataLiteral filter.value.printed_literal⟩

theorem clauseText_azureRangeClause {range : Range}
    (named : FilterDescriptor.isFieldName range.field) :
    ClauseText range.part.odataClause (azureRangeClause range).toList := by
  obtain ⟨lower, upper⟩ := range.interval.printed_bounds
  have text : (azureRangeClause range).toList = negation range.sense.negated ++ '(' ::
      ((range.field.toList ++ ' ' :: (operatorText (if range.includeMin then .gte else .gt) ++
        ' ' :: (odataLiteral range.lower).toList)) ++ (connective ++
      ((range.field.toList ++ ' ' :: (operatorText (if range.includeMax then .lte else .lt) ++
        ' ' :: (odataLiteral range.upper).toList)) ++ [')']))) := by
    have mark : (if range.occur = .never then "not " else "").toList =
        negation range.sense.negated := by
      by_cases excluded : range.occur = .never <;> simp [Range.sense, negation, excluded]
    have lowerWord : (if range.includeMin then "ge" else "gt").toList =
        operatorText (if range.includeMin then .gte else .gt) := by
      cases range.includeMin <;> rfl
    have upperWord : (if range.includeMax then "le" else "lt").toList =
        operatorText (if range.includeMax then .lte else .lt) := by
      cases range.includeMax <;> rfl
    simp [azureRangeClause, mark, lowerWord, upperWord, connective]
  rw [text]
  refine .interval _ ?_ ?_ ⟨named, literalText_odataLiteral lower⟩
    ⟨named, literalText_odataLiteral upper⟩
  · change (if range.includeMin then _ else _) = _ ∨ (if range.includeMin then _ else _) = _
    cases range.includeMin <;> simp
  · change (if range.includeMax then _ else _) = _ ∨ (if range.includeMax then _ else _) = _
    cases range.includeMax <;> simp

theorem expression_filterParts {search : Search} (named : search.NamesFields) {rendered : Rendered}
    (done : azure.render search = .ok rendered) :
    Expression (search.filterParts.map FilterPart.odataClause) rendered.filter.toList := by
  rw [Dialect.filter_of_render_eq_ok done]
  exact search.joined_filterParts azure
    (fun _ member => clauseText_azureRangeClause (named.ranges _ member))
    (fun _ member => clauseText_azureFilterClause (named.filter _ member))

end Rendering.OData

open Rendering.OData in
/-- The filter that Azure gets is read in one way: as the ranges of the tree, depth first, each with
its field, bounds, inclusiveness and negation, and then the comparison of the search. Searches with
one filter text agree in all of these. -/
theorem azure_filter_reads_back (search : Search)
    (resolved : ∀ leaf ∈ search.query.toQuery.textLeaves, leaf.occur.isSet)
    (named : search.NamesFields) :
    ∃ rendered, azure.render search = .ok rendered ∧
      (∀ clauses, Expression clauses rendered.filter.toList ↔
        clauses = search.filterParts.map FilterPart.odataClause) ∧
      ∀ (other : Search) (another : Rendered), other.NamesFields →
        azure.render other = .ok another → another.filter = rendered.filter →
          other.filterParts = search.filterParts := by
  have done := azure.render_of_resolved resolved
  have written := expression_filterParts named done
  refine ⟨_, done, ?_, ?_⟩
  · intro clauses
    constructor
    · exact fun again => Expression.unique again written
    · rintro rfl
      exact written
  · intro other another otherNamed otherDone same
    have again := expression_filterParts otherNamed otherDone
    rw [same] at again
    exact odataClause_injective.list_map (Expression.unique again written)

/-- Bounds and a filter value that look like the ends of literals and like further clauses. -/
def quotedSearch : Search where
  query := ⟨⟨.root, .always, none⟩, [
    .range ⟨"title", .text "it's" "') and b le 'c", true, false, none, none, .never⟩,
    .group ⟨.or, .sometimes, none⟩ [
      .term ⟨.term, ⟨"title", "red"⟩, none, .sometimes⟩,
      .range ⟨"year", .int 1990 2000, false, true, none, none, .always⟩]]⟩
  sort := none
  filter := some ⟨"not", .text "' and ''", .notEq⟩

open Rendering.OData in
theorem azure_filter_reads_back_quoted :
    (∀ leaf ∈ quotedSearch.query.toQuery.textLeaves, leaf.occur.isSet) ∧
      quotedSearch.NamesFields ∧
      ∃ rendered, azure.render quotedSearch = .ok rendered ∧
        rendered.filter = "not (title ge 'it''s' and title lt ''') and b le ''c') and " ++
          "(year gt 1990 and year le 2000) and not ne ''' and '''''" ∧
        ∀ clauses, Expression clauses rendered.filter.toList ↔ clauses = [
          .interval true ⟨"title", .gte, .text "it's"⟩ ⟨"title", .lt, .text "') and b le 'c"⟩,
          .interval false ⟨"year", .gt, .number "1990"⟩ ⟨"year", .lte, .number "2000"⟩,
          .comparison ⟨"not", .notEq, .text "' and ''"⟩] := by
  have resolved : ∀ leaf ∈ quotedSearch.query.toQuery.textLeaves, leaf.occur.isSet := by decide
  have named : quotedSearch.NamesFields := ⟨by decide, by decide⟩
  obtain ⟨rendered, done, reading, -⟩ := azure_filter_reads_back quotedSearch resolved named
  exact ⟨resolved, named, rendered, done, Dialect.filter_of_render_eq_ok done, reading⟩

end SearchQuery
