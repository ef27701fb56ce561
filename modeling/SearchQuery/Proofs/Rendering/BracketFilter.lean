import SearchQuery.Proofs.Rendering.FilterParts

/-!
Filter queries as Solr reads them: ranges in brackets, with quoted text, and comparisons with
escaped words, of which an open end is a bare star. No text has two readings
(`FilterQuery.Expression.unique`), and the filter of a search is read as the parts that it was
written from (`solr_filter_reads_back`).
-/

namespace SearchQuery

open Rendering

namespace Rendering.FilterQuery

/-- What stands for itself in a word: what has no meaning, and the minus of a number. -/
def isWordPart (c : Char) : Bool :=
  c == '-' || !(isOperator c || Text.isBlank c)

/-- What stands for itself in double quotes. -/
def isQuotedPart (c : Char) : Bool :=
  !(c == '"' || c == '\\')

/-- A character that stands for itself, or any character after a backslash. -/
inductive EscapedChar (stands : Char → Bool) : Form Char
  | bare {c : Char} (part : stands c) : EscapedChar stands c [c]
  | escaped (c : Char) : EscapedChar stands c ['\\', c]

/-- The value of a comparison, which may be empty. -/
inductive WordText : Form String
  | mk {value : String} {text : List Char}
      (spelled : Form.Spelled (EscapedChar isWordPart) value.toList text) : WordText value text

inductive QuotedText : Form String
  | mk {value : String} {inner : List Char}
      (spelled : Form.Spelled (EscapedChar isQuotedPart) value.toList inner) :
      QuotedText value ('"' :: (inner ++ ['"']))

/-- The bound of a range: a number, or a text in double quotes. -/
inductive BoundText : Form Literal
  | number {digits : String} (bare : Bare digits) : BoundText (.number digits) digits.toList
  | quoted {value : String} {text : List Char} (quoted : QuotedText value text) :
      BoundText (.text value) text

inductive Clause where
  | range (field : String) (lower upper : Literal) (sense : RangeSense)
  | comparison (field : String) (comparator : Comparator) (value : String)
deriving DecidableEq

def connective : List Char := [' ', 'A', 'N', 'D', ' ']

def upTo : List Char := [' ', 'T', 'O', ' ']

def negation (negated : Bool) : List Char :=
  if negated then ['-'] else []

def opening (included : Bool) : Char :=
  if included then '[' else '{'

def closing (included : Bool) : Char :=
  if included then ']' else '}'

/-- What stands around the value of a comparison. -/
def frame : Comparator → List Char × List Char
  | .eq => ([], [])
  | .notEq => ([], [])
  | .gt => (['{'], upTo ++ ['*', ']'])
  | .gte => (['['], upTo ++ ['*', ']'])
  | .lt => ('[' :: '*' :: upTo, ['}'])
  | .lte => ('[' :: '*' :: upTo, [']'])

inductive ClauseText : Form Clause
  | range {field : String} {lower upper : Literal} {front back : List Char} (sense : RangeSense)
      (named : FilterDescriptor.isFieldName field) (first : BoundText lower front)
      (second : BoundText upper back) :
      ClauseText (.range field lower upper sense)
        (negation sense.negated ++ (field.toList ++ ':' :: opening sense.includeMin ::
          (front ++ (upTo ++ (back ++ [closing sense.includeMax])))))
  | comparison {field value : String} {text : List Char} (comparator : Comparator)
      (named : FilterDescriptor.isFieldName field) (word : WordText value text) :
      ClauseText (.comparison field comparator value)
        (negation (comparator = .notEq) ++ (field.toList ++ ':' ::
          ((frame comparator).1 ++ (text ++ (frame comparator).2))))

/-- A filter query: nothing, or clauses that all have to hold. -/
abbrev Expression : Form (List Clause) :=
  Form.Joined connective ClauseText

section Shapes

/-- One end in brackets, of a range or of a comparison. -/
inductive End where
  | open
  | word (value : String)
  | quoted (value : String)

inductive Body where
  | word (value : String)
  | bracketed (includeMin : Bool) (lower upper : End) (includeMax : Bool)

/-- What the text of a clause shows at once, before it is a range or a comparison. -/
structure Shape where
  negated : Bool
  field : String
  body : Body

inductive EndText : Form End
  | open : EndText .open ['*']
  | word {value : String} {text : List Char} (word : WordText value text) :
      EndText (.word value) text
  | quoted {value : String} {text : List Char} (quoted : QuotedText value text) :
      EndText (.quoted value) text

inductive BodyText : Form Body
  | word {value : String} {text : List Char} (word : WordText value text) :
      BodyText (.word value) text
  | bracketed {lower upper : End} {front back : List Char} (includeMin includeMax : Bool)
      (first : EndText lower front) (second : EndText upper back) :
      BodyText (.bracketed includeMin lower upper includeMax)
        (opening includeMin :: (front ++ (upTo ++ (back ++ [closing includeMax]))))

inductive ShapeText : Form Shape
  | mk {field : String} {body : Body} {text : List Char} (negated : Bool)
      (named : FilterDescriptor.isFieldName field) (written : BodyText body text) :
      ShapeText ⟨negated, field, body⟩ (negation negated ++ (field.toList ++ ':' :: text))

/-- A bound as an end in brackets. -/
def boundEnd : Literal → End
  | .number digits => .word digits
  | .text value => .quoted value

def comparisonBody (value : String) : Comparator → Body
  | .eq => .word value
  | .notEq => .word value
  | .gt => .bracketed false (.word value) .open true
  | .gte => .bracketed true (.word value) .open true
  | .lt => .bracketed true .open (.word value) false
  | .lte => .bracketed true .open (.word value) true

def Clause.shape : Clause → Shape
  | .range field lower upper sense =>
    ⟨sense.negated, field,
      .bracketed sense.includeMin (boundEnd lower) (boundEnd upper) sense.includeMax⟩
  | .comparison field comparator value =>
    ⟨comparator = .notEq, field, comparisonBody value comparator⟩

private theorem boundEnd_injective : Function.Injective boundEnd := by
  intro literal other same
  cases literal with
  | number digits =>
    cases other with
    | number others => exact congrArg Literal.number (End.word.inj same)
    | text _ => cases same
  | text value =>
    cases other with
    | number _ => cases same
    | text others => exact congrArg Literal.text (End.quoted.inj same)

private theorem boundEnd_ne_open (literal : Literal) : boundEnd literal ≠ .open := by
  cases literal <;> simp [boundEnd]

/-- Only comparisons have an open end. -/
theorem comparisonBody_ne_bounds {value : String} {comparator : Comparator} {min max : Bool}
    {lower upper : Literal} :
    comparisonBody value comparator ≠ .bracketed min (boundEnd lower) (boundEnd upper) max := by
  intro same
  cases comparator with
  | eq | notEq => cases same
  | gt | gte => exact boundEnd_ne_open upper (Body.bracketed.inj same).2.2.1.symm
  | lt | lte => exact boundEnd_ne_open lower (Body.bracketed.inj same).2.1.symm

/-- The brackets and the place of the open end tell comparators apart, and the mark of negation the
two that have neither. -/
theorem comparisonBody_injective {value other : String} {comparator another : Comparator}
    (negated : comparator = .notEq ↔ another = .notEq)
    (same : comparisonBody value comparator = comparisonBody other another) :
    comparator = another ∧ value = other := by
  cases comparator <;> cases another <;> simp_all [comparisonBody]

theorem shape_injective : Function.Injective Clause.shape := by
  intro clause other same
  cases clause with
  | range field lower upper sense =>
    cases other with
    | comparison =>
      exact (comparisonBody_ne_bounds (Shape.mk.inj same).2.2.symm).elim
    | range _ _ _ otherSense =>
      obtain ⟨negated, min, max⟩ := sense
      obtain ⟨otherNegated, otherMin, otherMax⟩ := otherSense
      obtain ⟨rfl, rfl, bodies⟩ := Shape.mk.inj same
      obtain ⟨rfl, lowers, uppers, rfl⟩ := Body.bracketed.inj bodies
      rw [boundEnd_injective lowers, boundEnd_injective uppers]
  | comparison field comparator value =>
    cases other with
    | range => exact (comparisonBody_ne_bounds (Shape.mk.inj same).2.2).elim
    | comparison _ another _ =>
      obtain ⟨negations, rfl, bodies⟩ := Shape.mk.inj same
      obtain ⟨rfl, rfl⟩ := comparisonBody_injective (decide_eq_decide.mp negations) bodies
      rfl

end Shapes

section Words

/-- A value ends in front of a space or a closing bracket, or with the text. -/
def EndsWord (rest : List Char) : Prop :=
  ∀ c ∈ rest.head?, c ∈ [' ', ']', '}']

private theorem endsWord_of_endsItem {rest : List Char} (ends : Form.EndsItem connective rest) :
    EndsWord rest := by
  rcases ends with rfl | ⟨more, rfl⟩
  · simp [EndsWord]
  · simp [EndsWord, connective]

/-- A backslash that does not stand for itself tells the two spellings of a character apart. -/
theorem escapedChar_delimited {stands : Char → Bool} (mark : stands '\\' = false) :
    (EscapedChar stands).Delimited fun _ => True := by
  intro c d front last rest tail first second _ _ same
  cases first with
  | bare part =>
    cases second with
    | bare _ => exact List.cons.inj same
    | escaped _ =>
      obtain ⟨rfl, -⟩ := List.cons.inj same
      simp [mark] at part
  | escaped _ =>
    cases second with
    | bare part =>
      obtain ⟨rfl, -⟩ := List.cons.inj same
      simp [mark] at part
    | escaped _ => exact List.cons.inj (List.cons.inj same).2

private theorem wordChar_ne_end {c : Char} {front rest : List Char}
    (written : EscapedChar isWordPart c front) : ¬ EndsWord (front ++ rest) := by
  intro ends
  cases written with
  | bare part =>
    have last : c ∈ [' ', ']', '}'] := ends c rfl
    simp only [List.mem_cons, List.not_mem_nil, or_false] at last
    rcases last with rfl | rfl | rfl <;> revert part <;> decide
  | escaped _ => exact absurd (ends '\\' rfl) (by decide)

theorem word_delimited : WordText.Delimited EndsWord := by
  have spelled : (Form.Spelled (EscapedChar isWordPart)).Delimited EndsWord :=
    (escapedChar_delimited rfl).spelled (fun _ _ _ _ => trivial) (fun _ _ => trivial)
      fun _ _ written _ => wordChar_ne_end written
  intro value other front last rest tail ⟨first⟩ ⟨second⟩ ends endsTail same
  obtain ⟨values, rests⟩ := spelled first second ends endsTail same
  exact ⟨String.toList_inj.mp values, rests⟩

/-- A quoted text ends at the first quote without a backslash, whatever follows. -/
theorem quoted_delimited : QuotedText.Delimited fun _ => True := by
  have inside : (Form.Spelled (EscapedChar isQuotedPart)).Delimited
      fun rest => ∃ more, rest = '"' :: more := by
    refine (escapedChar_delimited rfl).spelled (fun _ _ _ _ => trivial) (fun _ _ => trivial) ?_
    rintro c front (part | _) rest ⟨more, same⟩
    · rw [(List.cons.inj same).1] at part
      exact absurd part (by decide)
    · exact absurd (List.cons.inj same).1 (by decide)
  intro value other front last rest tail ⟨first⟩ ⟨second⟩ _ _ same
  simp only [List.cons_append, List.append_assoc, List.nil_append, List.cons.injEq, true_and] at same
  obtain ⟨values, rests⟩ := inside first second ⟨rest, rfl⟩ ⟨tail, rfl⟩ same
  exact ⟨String.toList_inj.mp values, (List.cons.inj rests).2⟩

/-- Stars, quotes and opening brackets do not begin a word, not even an empty one before its end. -/
theorem word_ne {value : String} {text rest inner : List Char} {c : Char}
    (special : c ∈ ['*', '"', '[', '{']) (word : WordText value text) (ends : EndsWord rest) :
    text ++ rest ≠ c :: inner := by
  intro same
  obtain ⟨spelled⟩ := word
  simp only [List.mem_cons, List.not_mem_nil, or_false] at special
  generalize value.toList = characters at spelled
  cases spelled with
  | nil =>
    rw [List.nil_append] at same
    have last := ends c (by rw [same, List.head?_cons]; rfl)
    rcases special with rfl | rfl | rfl | rfl <;> revert last <;> decide
  | cons first _ =>
    cases first with
    | bare part =>
      obtain ⟨rfl, -⟩ := List.cons.inj same
      rcases special with rfl | rfl | rfl | rfl <;> revert part <;> decide
    | escaped _ =>
      obtain ⟨rfl, -⟩ := List.cons.inj same
      revert special
      decide

private theorem quoted_ne_star {value : String} {text rest inner : List Char}
    (quoted : QuotedText value text) : text ++ rest ≠ '*' :: inner := by
  obtain ⟨_⟩ := quoted
  simp

private theorem word_ne_quoted {value other : String} {text last rest tail : List Char}
    (word : WordText value text) (ends : EndsWord rest) (quoted : QuotedText other last) :
    text ++ rest ≠ last ++ tail := by
  obtain ⟨_⟩ := quoted
  exact word_ne (by decide) word ends

theorem end_delimited : EndText.Delimited EndsWord := by
  intro value other front last rest tail first second ends endsTail same
  cases first with
  | «open» =>
    cases second with
    | «open» => exact ⟨rfl, (List.cons.inj same).2⟩
    | word word => exact (word_ne (by decide) word endsTail same.symm).elim
    | quoted quoted => exact (quoted_ne_star quoted same.symm).elim
  | word word =>
    cases second with
    | «open» => exact (word_ne (by decide) word ends same).elim
    | word again =>
      obtain ⟨rfl, rests⟩ := word_delimited word again ends endsTail same
      exact ⟨rfl, rests⟩
    | quoted quoted => exact (word_ne_quoted word ends quoted same).elim
  | quoted quoted =>
    cases second with
    | «open» => exact (quoted_ne_star quoted same).elim
    | word word => exact (word_ne_quoted word endsTail quoted same.symm).elim
    | quoted again =>
      obtain ⟨rfl, rests⟩ := quoted_delimited quoted again trivial trivial same
      exact ⟨rfl, rests⟩

end Words

section Unambiguous

private theorem opening_injective : Function.Injective opening := by
  intro first second same
  cases first <;> cases second <;> simp_all [opening]

private theorem closing_injective : Function.Injective closing := by
  intro first second same
  cases first <;> cases second <;> simp_all [closing]

private theorem opening_special (included : Bool) : opening included ∈ ['*', '"', '[', '{'] := by
  cases included <;> decide

private theorem body_delimited : BodyText.Delimited (Form.EndsItem connective) := by
  have endsLower (rest : List Char) : EndsWord (upTo ++ rest) := by simp [EndsWord, upTo]
  have endsUpper (included : Bool) (rest : List Char) : EndsWord (closing included :: rest) := by
    cases included <;> simp [EndsWord, closing]
  intro body other front last rest tail first second ends endsTail same
  cases first with
  | word word =>
    cases second with
    | word again =>
      obtain ⟨rfl, rests⟩ := word_delimited word again (endsWord_of_endsItem ends)
        (endsWord_of_endsItem endsTail) same
      exact ⟨rfl, rests⟩
    | bracketed =>
      exact (word_ne (opening_special _) word (endsWord_of_endsItem ends) same).elim
  | bracketed min max lower upper =>
    cases second with
    | word word =>
      exact (word_ne (opening_special _) word (endsWord_of_endsItem endsTail) same.symm).elim
    | bracketed otherMin otherMax lowerAgain upperAgain =>
      simp only [List.cons_append, List.append_assoc, List.nil_append, List.cons.injEq] at same
      obtain ⟨opens, lowers⟩ := same
      obtain ⟨rfl, uppers⟩ := end_delimited lower lowerAgain (endsLower _) (endsLower _) lowers
      obtain ⟨rfl, closes⟩ := end_delimited upper upperAgain (endsUpper _ _) (endsUpper _ _)
        (List.append_cancel_left uppers)
      obtain ⟨closes, rests⟩ := List.cons.inj closes
      rw [opening_injective opens, closing_injective closes]
      exact ⟨rfl, rests⟩

theorem shape_delimited : ShapeText.Delimited (Form.EndsItem connective) := by
  -- a field does not begin with a minus
  have apart {field : String} {rest inner : List Char}
      (named : FilterDescriptor.isFieldName field) : field.toList ++ rest ≠ '-' :: inner := by
    intro same
    obtain ⟨first, others, split, start⟩ := FieldName.exists_start named
    rw [split] at same
    obtain ⟨rfl, -⟩ := List.cons.inj same
    exact absurd start (by decide)
  intro shape other front last rest tail first second ends endsTail same
  obtain ⟨negated, named, written⟩ := first
  obtain ⟨negatedAgain, again, rewritten⟩ := second
  simp only [List.append_assoc, List.cons_append] at same
  obtain rfl : negated = negatedAgain := by
    cases negated with
    | false =>
      cases negatedAgain with
      | false => rfl
      | true => exact (apart named same).elim
    | true =>
      cases negatedAgain with
      | false => exact (apart again same.symm).elim
      | true => rfl
  obtain ⟨rfl, -, bodies⟩ :=
    FieldName.cut named again (by decide) (by decide) (List.append_cancel_left same)
  obtain ⟨rfl, rests⟩ := body_delimited written rewritten ends endsTail bodies
  exact ⟨rfl, rests⟩

private theorem isWordPart_of_isNumberPart {c : Char} (part : isNumberPart c) : isWordPart c :=
  holds_of_isNumberPart (by decide +kernel) part

/-- Digits are a word of their own. -/
theorem wordText_of_bare {digits : String} (bare : Bare digits) :
    WordText digits digits.toList := by
  have spelled : Form.Spelled (EscapedChar isWordPart) digits.toList
      (digits.toList.flatMap fun c => [c]) :=
    Form.Spelled.flatMap fun c member => .bare (isWordPart_of_isNumberPart (bare.parts c member))
  rw [List.flatMap_singleton'] at spelled
  exact ⟨spelled⟩

theorem endText_of_boundText {literal : Literal} {text : List Char}
    (written : BoundText literal text) : EndText (boundEnd literal) text := by
  cases written with
  | number bare => exact .word (wordText_of_bare bare)
  | quoted quoted => exact .quoted quoted

theorem shapeText_of_clauseText {clause : Clause} {text : List Char}
    (written : ClauseText clause text) : ShapeText clause.shape text := by
  cases written with
  | range sense named first second =>
    exact .mk _ named (.bracketed _ _ (endText_of_boundText first) (endText_of_boundText second))
  | comparison comparator named word =>
    refine .mk _ named ?_
    cases comparator with
    | eq | notEq => simpa [frame, comparisonBody] using BodyText.word word
    | gt => exact .bracketed false true (.word word) .open
    | gte => exact .bracketed true true (.word word) .open
    | lt => exact .bracketed true false .open (.word word)
    | lte => exact .bracketed true true .open (.word word)

theorem clause_delimited : ClauseText.Delimited (Form.EndsItem connective) := by
  intro clause other front last rest tail first second ends endsTail same
  obtain ⟨shapes, rests⟩ := shape_delimited (shapeText_of_clauseText first)
    (shapeText_of_clauseText second) ends endsTail same
  exact ⟨shape_injective shapes, rests⟩

theorem clause_ne_nil {clause : Clause} : ¬ ClauseText clause [] := by
  intro written
  generalize empty : ([] : List Char) = text at written
  cases written <;> simp at empty

/-- A text has one reading as a filter query at most. -/
theorem Expression.unique {clauses others : List Clause} {text : List Char}
    (first : Expression clauses text) (second : Expression others text) : clauses = others :=
  Form.Joined.unique (by decide) (fun _ => clause_ne_nil) clause_delimited first second

end Unambiguous

section Written

theorem wordText_solrValue (value : FilterValue) :
    WordText value.literal.content (solrValue value).toList := by
  cases value with
  | text value =>
    rw [solrValue, escapeTerm, String.toList_ofList]
    refine ⟨Form.Spelled.flatMap fun c _ => ?_⟩
    unfold escapeChar
    rw [Bool.false_and, if_neg Bool.false_ne_true]
    split
    · exact .escaped c
    · rename_i ordinary
      exact .bare (by simp [isWordPart, ordinary])
  | number value => exact wordText_of_bare (bare_exactText value)
  | flag value =>
    have printed := (FilterValue.flag value).printed_literal
    generalize literal : (FilterValue.flag value).literal = written at printed
    cases printed with
    | number bare =>
      obtain rfl := Literal.number.inj literal
      exact wordText_of_bare bare
    | text _ => cases literal

theorem boundText_solrLiteral {literal : Literal} (printed : literal.Printed) :
    BoundText literal (solrLiteral literal).toList := by
  cases printed with
  | number bare => exact .number bare
  | text value =>
    rw [solrLiteral, quote, String.toList_ofList]
    refine .quoted ⟨Form.Spelled.flatMap fun c _ => ?_⟩
    unfold quoteChar
    split
    · exact .escaped c
    · rename_i plain
      exact .bare (by simpa [isQuotedPart] using plain)

end Written

end Rendering.FilterQuery

/-- A range as it is, a comparison with the text of its literal. -/
def FilterPart.bracketClause : FilterPart → FilterQuery.Clause
  | .range field lower upper sense => .range field lower upper sense
  | .comparison field comparator literal => .comparison field comparator literal.content

namespace Rendering.FilterQuery

theorem clauseText_solrRangeClause {range : Range}
    (named : FilterDescriptor.isFieldName range.field) :
    ClauseText range.part.bracketClause (solrRangeClause range).toList := by
  obtain ⟨lower, upper⟩ := range.interval.printed_bounds
  have text : (solrRangeClause range).toList = negation range.sense.negated ++
      (range.field.toList ++ ':' :: opening range.sense.includeMin ::
        ((solrLiteral range.lower).toList ++ (upTo ++ ((solrLiteral range.upper).toList ++
          [closing range.sense.includeMax])))) := by
    have mark : (if range.occur = .never then "-" else "").toList =
        negation range.sense.negated := by
      by_cases excluded : range.occur = .never <;> simp [Range.sense, negation, excluded]
    have opens : (if range.includeMin then "[" else "\x7b").toList =
        [opening range.includeMin] := by
      cases range.includeMin <;> rfl
    have closes : (if range.includeMax then "]" else "\x7d").toList =
        [closing range.includeMax] := by
      cases range.includeMax <;> rfl
    simp [solrRangeClause, mark, opens, closes, upTo, Range.sense]
  rw [text]
  exact .range range.sense named (boundText_solrLiteral lower) (boundText_solrLiteral upper)

theorem clauseText_solrFilterClause {filter : Filter}
    (named : FilterDescriptor.isFieldName filter.field) :
    ClauseText filter.part.bracketClause (solrFilterClause filter).toList := by
  have text : (solrFilterClause filter).toList = negation (filter.comparator = .notEq) ++
      (filter.field.toList ++ ':' :: ((frame filter.comparator).1 ++
        ((solrValue filter.value).toList ++ (frame filter.comparator).2))) := by
    cases comparator : filter.comparator <;>
      simp [solrFilterClause, comparator, negation, frame, upTo]
  rw [text]
  exact .comparison _ named (wordText_solrValue filter.value)

theorem expression_filterParts {search : Search} (named : search.NamesFields) {rendered : Rendered}
    (done : solr.render search = .ok rendered) :
    Expression (search.filterParts.map FilterPart.bracketClause) rendered.filter.toList := by
  rw [Dialect.filter_of_render_eq_ok done]
  exact search.joined_filterParts solr
    (fun _ member => clauseText_solrRangeClause (named.ranges _ member))
    (fun _ member => clauseText_solrFilterClause (named.filter _ member))

end Rendering.FilterQuery

open Rendering.FilterQuery in
/-- The filter that Solr gets is read in one way: as the ranges of the tree, depth first, each with
its field, bounds, inclusiveness and negation, and then the comparison of the search with the text
of its literal. No range is read as a comparison, and no comparison as a range. -/
theorem solr_filter_reads_back (search : Search)
    (resolved : ∀ leaf ∈ search.query.toQuery.textLeaves, leaf.occur.isSet)
    (named : search.NamesFields) :
    ∃ rendered, solr.render search = .ok rendered ∧
      (∀ clauses, Expression clauses rendered.filter.toList ↔
        clauses = search.filterParts.map FilterPart.bracketClause) ∧
      (∀ range ∈ search.query.toQuery.ranges, ∀ clause,
        ClauseText clause (solrRangeClause range).toList ↔
          clause = .range range.field range.lower range.upper range.sense) ∧
      ∀ filter ∈ search.filter, ∀ clause, ClauseText clause (solrFilterClause filter).toList ↔
        clause = .comparison filter.field filter.comparator filter.value.literal.content := by
  have unique {clause other : Clause} {text : List Char} (written : ClauseText clause text)
      (again : ClauseText other text) : other = clause :=
    clause_delimited.unique (.inl rfl) again written
  have done := solr.render_of_resolved resolved
  have written := expression_filterParts named done
  refine ⟨_, done, ?_, ?_, ?_⟩
  · intro clauses
    constructor
    · exact fun again => Expression.unique again written
    · rintro rfl
      exact written
  · intro range member clause
    have own := clauseText_solrRangeClause (named.ranges range member)
    constructor
    · exact unique own
    · rintro rfl
      exact own
  · intro filter member clause
    have own := clauseText_solrFilterClause (named.filter filter member)
    constructor
    · exact unique own
    · rintro rfl
      exact own

/-- Bounds and a filter value that look like open ends, closing quotes and further clauses. -/
def bracketedSearch : Search where
  query := ⟨⟨.root, .always, none⟩, [
    .range ⟨"title", .text "*" "b\"] AND -title:[\"a\\", true, false, none, none, .never⟩,
    .group ⟨.or, .sometimes, none⟩ [
      .term ⟨.term, ⟨"title", "red"⟩, none, .sometimes⟩,
      .range ⟨"year", .int 1990 2000, false, true, none, none, .always⟩]]⟩
  sort := none
  filter := some ⟨"status", .text "[5 TO *]", .gte⟩

open Rendering.FilterQuery in
theorem solr_filter_reads_back_bracketed :
    (∀ leaf ∈ bracketedSearch.query.toQuery.textLeaves, leaf.occur.isSet) ∧
      bracketedSearch.NamesFields ∧
      ∃ rendered, solr.render bracketedSearch = .ok rendered ∧
        rendered.filter = "-title:[\"*\" TO \"b\\\"] AND -title:[\\\"a\\\\\"\x7d AND " ++
          "year:\x7b1990 TO 2000] AND status:[\\[5\\ TO\\ \\*\\] TO *]" ∧
        ∀ clauses, Expression clauses rendered.filter.toList ↔ clauses = [
          .range "title" (.text "*") (.text "b\"] AND -title:[\"a\\") ⟨true, true, false⟩,
          .range "year" (.number "1990") (.number "2000") ⟨false, false, true⟩,
          .comparison "status" .gte "[5 TO *]"] := by
  have resolved : ∀ leaf ∈ bracketedSearch.query.toQuery.textLeaves, leaf.occur.isSet := by decide
  have named : bracketedSearch.NamesFields := ⟨by decide, by decide⟩
  obtain ⟨rendered, done, reading, -⟩ := solr_filter_reads_back bracketedSearch resolved named
  exact ⟨resolved, named, rendered, done, Dialect.filter_of_render_eq_ok done, reading⟩

end SearchQuery
