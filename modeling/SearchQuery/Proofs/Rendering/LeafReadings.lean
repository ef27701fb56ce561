import SearchQuery.Proofs.Rendering.Delimiters
import SearchQuery.Proofs.Rendering.FilterParts
import SearchQuery.Proofs.Rendering.Runs
import SearchQuery.Proofs.Rendering.Segments

/-!
Leaves as their texts show them: a field, what is looked for, and what follows a tilde and a caret.
A text has one such reading (`LeafText.unique`), and the text of a leaf has that of the leaf
(`leafText_reading`).
-/

namespace SearchQuery.Rendering

/-- What is looked for: a bare word, or what stands in quotes. -/
inductive Content where
  | word (value : List Char)
  | quoted (value : String)

/-- What follows a tilde and what follows a caret, where they stand. -/
structure Marks where
  tilde : Option String
  caret : Option String

structure Piece where
  field : String
  content : Content
  marks : Marks

/-- A leaf as its text shows it. After several pieces in parentheses there may be a caret. -/
inductive LeafReading where
  | single (piece : Piece)
  | several (pieces : List Piece) (caret : Option String)

inductive ContentText : Form Content
  | word {value text : List Char}
      (reads : ∀ rest, (∀ c ∈ rest.head?, delimits true c) →
        readUntil (delimits true) (text ++ rest) = (value, rest)) :
      ContentText (.word value) text
  | quoted (value : String) : ContentText (.quoted value) (quote value).toList

inductive MarkText (mark : Char) : Form (Option String)
  | none : MarkText mark none []
  | some {number : String} (parts : ∀ c ∈ number.toList, isNumberPart c) :
      MarkText mark (some number) (mark :: number.toList)

inductive MarksText : Form Marks
  | mk {tilde caret : Option String} {front back : List Char} (first : MarkText '~' tilde front)
      (second : MarkText '^' caret back) : MarksText ⟨tilde, caret⟩ (front ++ back)

inductive PieceText : Form Piece
  | mk {field : String} {content : Content} {marks : Marks} {inner back : List Char}
      (named : FilterDescriptor.isFieldName field) (written : ContentText content inner)
      (marked : MarksText marks back) :
      PieceText ⟨field, content, marks⟩ (field.toList ++ ':' :: (inner ++ back))

inductive LeafText : Form LeafReading
  | single {piece : Piece} {text : List Char} (written : PieceText piece text) :
      LeafText (.single piece) text
  | several {pieces : List Piece} {caret : Option String} {inner back : List Char}
      (joined : Form.Joined [' '] PieceText pieces inner) (marked : MarkText '^' caret back) :
      LeafText (.several pieces caret) ('(' :: (inner ++ ')' :: back))

section Unique

/-- What ends a word and does not open quotes. -/
def EndsContent (rest : List Char) : Prop :=
  ∀ c ∈ rest.head?, delimits true c ∧ c ≠ '"'

theorem content_delimited : ContentText.Delimited EndsContent := by
  -- a word has been read before the quotes open, and nothing that opens quotes follows it
  have apart {value text rest tail : List Char} {quoted : String}
      (reads : ∀ rest, (∀ c ∈ rest.head?, delimits true c) →
        readUntil (delimits true) (text ++ rest) = (value, rest)) (ends : EndsContent rest)
      (same : text ++ rest = (quote quoted).toList ++ tail) : False := by
    have read := reads rest fun c first => (ends c first).1
    have opened : (quote quoted).toList ++ tail =
        '"' :: (quoted.toList.flatMap quoteChar ++ ['"'] ++ tail) := by
      simp [quote]
    rw [same, opened, readUntil_stop (by rintro c ⟨⟩; decide)] at read
    obtain ⟨-, rfl⟩ := Prod.mk.inj read
    exact (ends '"' rfl).2 rfl
  intro content other front last rest tail written again ends endsTail same
  cases written with
  | word reads =>
    cases again with
    | word readsAgain =>
      have read := reads rest fun c first => (ends c first).1
      rw [same, readsAgain tail fun c first => (endsTail c first).1] at read
      obtain ⟨rfl, rfl⟩ := Prod.mk.inj read
      exact ⟨rfl, rfl⟩
    | quoted value => exact (apart reads ends same).elim
  | quoted value =>
    cases again with
    | word reads => exact (apart reads endsTail same.symm).elim
    | quoted another =>
      have read := readQuoted?_quote value rest
      rw [same, readQuoted?_quote] at read
      obtain ⟨values, rests⟩ := Prod.mk.inj (Option.some.inj read)
      exact ⟨congrArg Content.quoted (String.toList_inj.mp values).symm, rests.symm⟩

theorem mark_delimited (mark : Char) : (MarkText mark).Delimited fun rest =>
    ∀ c ∈ rest.head?, c ≠ mark ∧ isNumberPart c = false := by
  intro number other front last rest tail written again ends endsTail same
  cases written with
  | none =>
    cases again with
    | none => exact ⟨rfl, same⟩
    | some parts =>
      rw [List.nil_append] at same
      exact absurd rfl (ends mark (by rw [same]; rfl)).1
  | some parts =>
    cases again with
    | none =>
      rw [List.nil_append] at same
      exact absurd rfl (endsTail mark (by rw [← same]; rfl)).1
    | some partsAgain =>
      obtain ⟨numbers, rests⟩ := cut_run parts partsAgain (fun c first => (ends c first).2)
        (fun c first => (endsTail c first).2) (List.cons.inj same).2
      exact ⟨congrArg some (String.toList_inj.mp numbers), rests⟩

/-- A mark, or what follows in its place. -/
theorem head_markText {mark : Char} {number : Option String} {text rest : List Char}
    (written : MarkText mark number text) {holds : Char → Prop} (marks : holds mark)
    (ends : ∀ c ∈ rest.head?, holds c) : ∀ c ∈ (text ++ rest).head?, holds c := by
  cases written with
  | none => exact ends
  | some _ =>
    rintro c ⟨⟩
    exact marks

private theorem endsItem_head {rest : List Char} (ends : Form.EndsItem [' '] rest) :
    ∀ c ∈ rest.head?, c = ' ' := by
  obtain rfl | ⟨more, rfl⟩ := ends
  · nofun
  · rintro c ⟨⟩
    rfl

theorem marks_delimited : MarksText.Delimited (Form.EndsItem [' ']) := by
  rintro _ _ _ _ rest tail ⟨first, second⟩ ⟨firstAgain, secondAgain⟩ ends endsTail same
  have outer {rest : List Char} (ends : Form.EndsItem [' '] rest) :
      ∀ c ∈ rest.head?, c ≠ '^' ∧ isNumberPart c = false := by
    intro c head
    rw [endsItem_head ends c head]
    decide
  have inner {caret : Option String} {back rest : List Char} (second : MarkText '^' caret back)
      (ends : Form.EndsItem [' '] rest) :
      ∀ c ∈ (back ++ rest).head?, c ≠ '~' ∧ isNumberPart c = false := by
    refine head_markText second (by decide) fun c head => ?_
    rw [endsItem_head ends c head]
    decide
  rw [List.append_assoc, List.append_assoc] at same
  obtain ⟨rfl, same⟩ :=
    mark_delimited '~' first firstAgain (inner second ends) (inner secondAgain endsTail) same
  obtain ⟨rfl, same⟩ := mark_delimited '^' second secondAgain (outer ends) (outer endsTail) same
  exact ⟨rfl, same⟩

private theorem endsContent_marks {marks : Marks} {text rest : List Char}
    (marked : MarksText marks text)
    (ends : Form.EndsItem [' '] rest) : EndsContent (text ++ rest) := by
  obtain ⟨first, second⟩ := marked
  rw [List.append_assoc]
  refine head_markText first (by decide) (head_markText second (by decide) fun c head => ?_)
  rw [endsItem_head ends c head]
  decide

theorem piece_delimited : PieceText.Delimited (Form.EndsItem [' ']) := by
  rintro _ _ _ _ rest tail ⟨named, written, marked⟩ ⟨namedAgain, writtenAgain, markedAgain⟩ ends
    endsTail same
  simp only [List.append_assoc, List.cons_append] at same
  obtain ⟨rfl, -, same⟩ := FieldName.cut named namedAgain rfl rfl same
  obtain ⟨rfl, same⟩ := content_delimited written writtenAgain (endsContent_marks marked ends)
    (endsContent_marks markedAgain endsTail) same
  obtain ⟨rfl, same⟩ := marks_delimited marked markedAgain ends endsTail same
  exact ⟨rfl, same⟩

private theorem piece_ne_nil {piece : Piece} : ¬ PieceText piece [] := by
  intro written
  generalize empty : ([] : List Char) = text at written
  obtain ⟨_, _, _⟩ := written
  simp at empty

/-- A piece begins with its field. -/
theorem piece_ne_parenthesis {piece : Piece} {text : List Char} (written : PieceText piece text)
    (rest : List Char) : text ≠ '(' :: rest := by
  obtain ⟨named, _, _⟩ := written
  obtain ⟨first, later, split, start⟩ := FieldName.exists_start named
  intro same
  rw [split] at same
  obtain ⟨rfl, -⟩ := List.cons.inj same
  revert start
  decide

/-- The last closing parenthesis is found from the end. -/
theorem cut_closing {caret other : Option String} {inner outer back last : List Char}
    (marked : MarkText '^' caret back) (again : MarkText '^' other last)
    (same : inner ++ ')' :: back = outer ++ ')' :: last) : inner = outer ∧ back = last := by
  have free {caret : Option String} {back : List Char} (marked : MarkText '^' caret back) :
      ∀ c ∈ back.reverse, c != ')' := by
    intro c member
    rw [List.mem_reverse] at member
    have part : c = '^' ∨ isNumberPart c := by
      cases marked with
      | none => cases member
      | some parts => exact (List.mem_cons.mp member).imp_right (parts c)
    rw [bne_iff_ne]
    rintro rfl
    revert part
    decide
  have turned : back.reverse ++ ')' :: inner.reverse = last.reverse ++ ')' :: outer.reverse := by
    simpa using congrArg List.reverse same
  have stop {rest : List Char} : ∀ c ∈ (')' :: rest).head?, (c != ')') = false := by
    rintro c ⟨⟩
    rfl
  obtain ⟨backs, inners⟩ := cut_run (free marked) (free again) stop stop turned
  exact ⟨List.reverse_inj.mp (List.cons.inj inners).2, List.reverse_inj.mp backs⟩

theorem LeafText.unique {reading other : LeafReading} {text : List Char}
    (first : LeafText reading text) (second : LeafText other text) : reading = other := by
  generalize same : text = copy at second
  cases first with
  | single written =>
    cases second with
    | single again => rw [piece_delimited.unique (.inl rfl) written (same ▸ again)]
    | several _ _ => exact absurd same (piece_ne_parenthesis written _)
  | several joined marked =>
    cases second with
    | single again => exact absurd same.symm (piece_ne_parenthesis again _)
    | several joinedAgain markedAgain =>
      obtain ⟨rfl, rfl⟩ := cut_closing marked markedAgain (List.cons.inj same).2
      have ends : ∀ c ∈ ([] : List Char).head?, c ≠ '^' ∧ isNumberPart c = false := nofun
      have filled : [' '] ≠ [] := List.cons_ne_nil _ _
      rw [joined.unique filled (fun _ => piece_ne_nil) piece_delimited joinedAgain,
        (mark_delimited '^').unique ends marked markedAgain]

end Unique

section Reading

variable {backend : Backend}

/-- What a test looks for. The start of a value is read with its star. -/
def contentOf (matching : Matching) (value : String) : Content :=
  match matching with
  | .keyword => .quoted value
  | .prefixed => .word ((dropStars value).toList ++ ['*'])
  | .term | .wildcard | .fuzzy => .word value.toList

/-- A fuzzy test has a tilde of its own, so that its boost follows a caret in both dialects. -/
def testMarks (backend : Backend) (matching : Matching) (boost : Option String) : Marks :=
  if matching = .fuzzy then ⟨some "", boost⟩
  else
    match backend with
    | .azure => ⟨boost, none⟩
    | .solr => ⟨none, boost⟩

def slopNumber (slop : UInt32) : Option String :=
  if slop = 0 then none else some (toString slop.toNat)

def runPiece (slop : UInt32) (caret : Option String) (run : String × List String) : Piece :=
  ⟨run.1, .quoted (" ".intercalate run.2), ⟨slopNumber slop, caret⟩⟩

/-- A phrase of several runs has its slop on each of them, and its boost after them all. -/
def phraseReading (slop : UInt32) (caret : Option String) :
    List (String × List String) → LeafReading
  | [run] => .single (runPiece slop caret run)
  | several => .several (several.map (runPiece slop none)) caret

namespace Leaf

def boostNumber (leaf : Leaf) : Option String :=
  leaf.boost.map Binary.plainText

def reading (backend : Backend) (leaf : Leaf) : LeafReading :=
  match leaf with
  | .test t => .single ⟨t.term.field, contentOf t.matching t.term.value,
      testMarks backend t.matching leaf.boostNumber⟩
  | .phrase p => phraseReading p.slop leaf.boostNumber (runs p.terms)

end Leaf

private theorem markText_boost (token : LeafToken) :
    MarkText token.separator token.leaf.boostNumber token.boostText.toList := by
  unfold LeafToken.boostText Leaf.boostNumber
  cases token.leaf.boost with
  | none => exact .none
  | some boost =>
    rw [String.toList_append, Char.toString, String.toList_singleton]
    exact .some (bare_plainText boost).parts

theorem contentText_word (kept : Bool) (value : List Char) :
    ContentText (.word value) (value.flatMap (escapeChar kept)) :=
  .word fun _ ends => readUntil_escape (fun _ => rfl) value ends

/-- The bare star is no delimiter where wildcards keep their meaning. -/
theorem contentText_prefix (value : List Char) :
    ContentText (.word (value ++ ['*'])) (value.flatMap (escapeChar false) ++ ['*']) := by
  refine .word fun rest ends => ?_
  have guards : Guards (delimits true) (escapeChar false) := guards_escapeChar fun _ => rfl
  have star : readUntil (delimits true) ('*' :: rest) = (['*'], rest) := by
    rw [readUntil_plain (by decide) (by decide),
      readUntil_stop fun c head => ⟨ne_backslash_of_delimits (ends c head), ends c head⟩]
    rfl
  rw [List.append_assoc, List.singleton_append, guards.readUntil_append, star]

/-- The value of a test, but for the tilde of a fuzzy one. -/
theorem exists_contentText (matching : Matching) (value : String) :
    ∃ text, (valueText matching value).toList = text ++ (if matching = .fuzzy then ['~'] else []) ∧
      ContentText (contentOf matching value) text := by
  cases matching with
  | term =>
    refine ⟨value.toList.flatMap (escapeChar false), ?_, contentText_word false _⟩
    simp [valueText, escapeTerm]
  | prefixed =>
    refine ⟨(dropStars value).toList.flatMap (escapeChar false) ++ ['*'], ?_, contentText_prefix _⟩
    simp [valueText, escapeTerm]
  | wildcard =>
    refine ⟨value.toList.flatMap (escapeChar true), ?_, contentText_word true _⟩
    simp [valueText, escapeWildcard]
  | keyword =>
    refine ⟨(quote value).toList, ?_, .quoted value⟩
    simp [valueText]
  | fuzzy =>
    refine ⟨value.toList.flatMap (escapeChar false), ?_, contentText_word false _⟩
    simp [valueText, escapeTerm]

theorem marksText_test (matching : Matching) {boost : Option String} {text : List Char}
    (marked : MarkText (backend.dialect.boostSeparator (.test matching)) boost text) :
    MarksText (testMarks backend matching boost)
      ((if matching = .fuzzy then ['~'] else []) ++ text) := by
  have own : MarkText '~' (some "") ['~'] := .some nofun
  have tilde (marked : MarkText '~' boost text) : MarksText ⟨boost, none⟩ text := by
    rw [← List.append_nil text]
    exact .mk marked .none
  cases backend with
  | azure =>
    cases matching with
    | fuzzy => exact .mk own marked
    | term | prefixed | wildcard | keyword => exact tilde marked
  | solr =>
    cases matching with
    | fuzzy => exact .mk own marked
    | term | prefixed | wildcard | keyword => exact .mk .none marked

theorem marksText_phrase (slop : UInt32) {boost : Option String} {text : List Char}
    (marked : MarkText '^' boost text) :
    MarksText ⟨slopNumber slop, boost⟩
      ((if slop = 0 then "" else "~" ++ toString slop.toNat).toList ++ text) := by
  refine .mk ?_ marked
  unfold slopNumber
  split
  · exact .none
  · rw [String.toList_append]
    exact .some (bare_natText _).parts

theorem pieceText_run {slop : UInt32} {run : String × List String}
    (named : FilterDescriptor.isFieldName run.1) {boost : Option String} {text : List Char}
    (marked : MarkText '^' boost text) :
    PieceText (runPiece slop boost run) ((runText slop run).toList ++ text) := by
  have quoted := ContentText.quoted (" ".intercalate run.2)
  have written := PieceText.mk named quoted (marksText_phrase slop marked)
  simpa [runText, runPiece] using written

/-- A leaf without marker is its body and its boost. -/
theorem toList_leafToken (dialect : Dialect) (leaf : Leaf) :
    ∃ boost, MarkText (dialect.boostSeparator leaf.style) leaf.boostNumber boost ∧
      (dialect.leafToken .bare leaf).text.toList = leaf.body.toList ++ boost :=
  ⟨_, markText_boost ⟨.bare, leaf, dialect.boostSeparator leaf.style⟩, by
    simp [Dialect.leafToken, Token.text, LeafToken.text, Marker.text]⟩

private theorem leafText_test {test : TermTest}
    (named : FilterDescriptor.isFieldName test.term.field) :
    LeafText ((Leaf.test test).reading backend)
      (backend.dialect.leafToken .bare (.test test)).text.toList := by
  obtain ⟨boost, marked, text⟩ := toList_leafToken backend.dialect (.test test)
  obtain ⟨inner, value, content⟩ := exists_contentText test.matching test.term.value
  have written := PieceText.mk named content (marksText_test test.matching marked)
  have body : (Leaf.test test).body.toList ++ boost = test.term.field.toList ++
      ':' :: (inner ++ ((if test.matching = .fuzzy then ['~'] else []) ++ boost)) := by
    simp [Leaf.body, testBody, value]
  rw [text, body]
  exact .single written

private theorem leafText_phrase {phrase : Phrase} (filled : phrase.terms ≠ [])
    (named : ∀ field ∈ phrase.terms.map Term.field, FilterDescriptor.isFieldName field) :
    LeafText ((Leaf.phrase phrase).reading backend)
      (backend.dialect.leafToken .bare (.phrase phrase)).text.toList := by
  obtain ⟨boost, marked, text⟩ := toList_leafToken backend.dialect (.phrase phrase)
  have caret : backend.dialect.boostSeparator .phrase = '^' := by cases backend <;> rfl
  rw [Leaf.style, caret] at marked
  have each : ∀ run ∈ runs phrase.terms, FilterDescriptor.isFieldName run.1 :=
    fun run member => named run.1 (field_of_mem_runs member)
  have nonempty := (maximalRuns_runs phrase.terms).ne_nil filled
  rw [text, Leaf.body, phraseBody, Leaf.reading]
  generalize runs phrase.terms = list at each nonempty ⊢
  cases list with
  | nil => exact absurd rfl nonempty
  | cons first others =>
    cases others with
    | nil => exact .single (pieceText_run (each first List.mem_cons_self) marked)
    | cons second rest =>
      have written : List.Forall₂ (fun piece text => PieceText piece text.toList)
          ((first :: second :: rest).map (runPiece phrase.slop none))
          ((first :: second :: rest).map (runText phrase.slop)) := by
        refine List.forall₂_map_left_iff.mpr (List.forall₂_map_right_iff.mpr ?_)
        refine List.forall₂_same.mpr fun run member => ?_
        simpa using pieceText_run (each run member) .none
      have joined : Form.Joined " ".toList PieceText _ _ := .intercalate written
      simpa [phraseReading] using LeafText.several joined marked

theorem terms_ne_nil {phrase : Phrase} (filled : (Leaf.phrase phrase).fields ≠ []) :
    phrase.terms ≠ [] :=
  mt (congrArg (List.map Term.field)) filled

theorem leafText_reading (backend : Backend) {leaf : Leaf}
    (named : ∀ field ∈ leaf.fields, FilterDescriptor.isFieldName field)
    (filled : leaf.fields ≠ []) :
    LeafText (leaf.reading backend) (backend.dialect.leafToken .bare leaf).text.toList := by
  cases leaf with
  | test test => exact leafText_test (named _ List.mem_cons_self)
  | phrase phrase => exact leafText_phrase (terms_ne_nil filled) named

end Reading

end SearchQuery.Rendering
