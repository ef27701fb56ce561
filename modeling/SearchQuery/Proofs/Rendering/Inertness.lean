import SearchQuery.Proofs.Rendering.Segments

/-!
No value of a leaf writes syntax. A scan of query text ends outside quotes, reads every value as it
was, and comes by the same syntax for all trees that differ in their values only.
-/

namespace SearchQuery

open Rendering

def Term.eraseValue (term : Term) : Term :=
  { term with value := "" }

def TermTest.eraseValue (test : TermTest) : TermTest :=
  { test with term := test.term.eraseValue }

def Phrase.eraseValues (phrase : Phrase) : Phrase :=
  { phrase with terms := phrase.terms.map Term.eraseValue }

namespace Rendering

def Leaf.eraseValues : Leaf → Leaf
  | .test t => .test t.eraseValue
  | .phrase p => .phrase p.eraseValues

private theorem Leaf.occur_eraseValues (leaf : Leaf) : leaf.eraseValues.occur = leaf.occur := by
  cases leaf <;> rfl

private theorem Leaf.fields_eraseValues (leaf : Leaf) : leaf.eraseValues.fields = leaf.fields := by
  cases leaf with
  | test t => rfl
  | phrase p => simp [eraseValues, fields, Phrase.eraseValues, Term.eraseValue, Function.comp_def]

end Rendering

namespace Query

mutual

/-- Empties the values of all tests and phrases, and the bounds of all ranges. -/
def eraseValues : Query → Query
  | .term test => .term test.eraseValue
  | .phrase p => .phrase p.eraseValues
  | .range r => .range { r with interval := .text "" "" }
  | .group head children => .group head (eraseAllValues children)

def eraseAllValues : List Query → List Query
  | [] => []
  | query :: rest => query.eraseValues :: eraseAllValues rest

end

mutual

theorem textLeaves_eraseValues (query : Query) :
    query.eraseValues.textLeaves = query.textLeaves.map Leaf.eraseValues := by
  match query with
  | .term _ => rfl
  | .phrase p =>
    by_cases empty : p.terms.isEmpty = true
    · simp_all [eraseValues, textLeaves, Phrase.eraseValues]
    · simp_all [eraseValues, textLeaves, Phrase.eraseValues, Leaf.eraseValues]
  | .range _ => rfl
  | .group _ children => simpa only [eraseValues, textLeaves] using allTextLeaves_eraseValues children

theorem allTextLeaves_eraseValues (queries : List Query) :
    allTextLeaves (eraseAllValues queries) = (allTextLeaves queries).map Leaf.eraseValues := by
  match queries with
  | [] => rfl
  | query :: rest =>
    simp only [eraseAllValues, allTextLeaves, List.map_append, textLeaves_eraseValues query,
      allTextLeaves_eraseValues rest]

end

theorem hasText_eraseValues (query : Query) : query.eraseValues.hasText = query.hasText := by
  rw [Bool.eq_iff_iff, hasText_iff, hasText_iff, textLeaves_eraseValues, ne_eq, List.map_eq_nil_iff]

private theorem countP_eraseAllValues (queries : List Query) :
    (eraseAllValues queries).countP hasText = queries.countP hasText := by
  induction queries with
  | nil => rfl
  | cons query rest ih => simp [eraseAllValues, List.countP_cons, hasText_eraseValues, ih]

end Query

namespace Group

/-- The same group with other values: two groups differ in their values only if this is one. -/
def eraseValues (group : Group) : Group :=
  { group with children := Query.eraseAllValues group.children }

theorem toQuery_eraseValues (group : Group) :
    group.eraseValues.toQuery = group.toQuery.eraseValues := by
  rw [toQuery, toQuery, Query.eraseValues]
  rfl

end Group

namespace Rendering

/-- The runs of a phrase do not depend on its values. -/
theorem runs_eraseValue (terms : List Term) :
    runs (terms.map Term.eraseValue) =
      (runs terms).map fun run => (run.1, run.2.map fun _ => "") := by
  induction terms with
  | nil => rfl
  | cons term rest ih =>
    rw [List.map_cons, runs, runs, ih]
    cases runs rest with
    | nil => rfl
    | cons run others =>
      by_cases same : run.1 = term.field
      · simp only [List.map_cons, Term.eraseValue, same, ↓reduceIte]
      · simp only [List.map_cons, Term.eraseValue, same, ↓reduceIte, List.map_nil]

private theorem fixed_phraseSegments (phrase : Phrase) :
    (phraseSegments phrase.eraseValues.terms phrase.slop).filterMap Segment.fixed? =
      (phraseSegments phrase.terms phrase.slop).filterMap Segment.fixed? := by
  unfold phraseSegments
  rw [Phrase.eraseValues, runs_eraseValue]
  match runs phrase.terms with
  | [] => rfl
  | [run] => rfl
  | first :: second :: rest =>
    simp [Segment.spaced, runSegments, Segment.fixed?, List.filterMap_cons, List.filterMap_flatMap,
      List.flatMap_map]

private theorem parts_phraseSegments (terms : List Term) (slop : UInt32) :
    (phraseSegments terms slop).filterMap Segment.part? =
      (runs terms).map fun run => .run run.2 := by
  unfold phraseSegments
  match runs terms with
  | [] => rfl
  | [run] => rfl
  | first :: second :: rest =>
    simp [Segment.spaced, runSegments, Segment.part?, List.filterMap_cons, List.filterMap_flatMap,
      List.flatMap_map, ← List.map_eq_flatMap]

namespace Leaf

/-- What the values of a leaf write in it: one part for a test, one for each run of a phrase. -/
def parts : Leaf → List ValuePart
  | .test t => [.test t.matching t.term.value]
  | .phrase p => (runs p.terms).map fun run => .run run.2

theorem parts_segments (leaf : Leaf) : leaf.segments.filterMap Segment.part? = leaf.parts := by
  cases leaf with
  | test t => rfl
  | phrase p => exact parts_phraseSegments p.terms p.slop

theorem fixed_segments (leaf : Leaf) :
    leaf.eraseValues.segments.filterMap Segment.fixed? =
      leaf.segments.filterMap Segment.fixed? := by
  cases leaf with
  | test t => rfl
  | phrase p => exact fixed_phraseSegments p

end Leaf

namespace Token

def eraseValues : Token → Token
  | .leaf token => .leaf { token with leaf := token.leaf.eraseValues }
  | token => token

private theorem map_eraseValues_when (condition : Bool) {token : Token}
    (silent : token.leaf? = none) :
    (when condition token).map eraseValues = when condition token := by
  cases token with
  | leaf token => nomatch silent
  | keyword k => cases condition <;> rfl
  | opener negated => cases condition <;> rfl
  | closer boost => cases condition <;> rfl

theorem fixed_segments (token : Token) :
    token.eraseValues.segments.filterMap Segment.fixed? =
      token.segments.filterMap Segment.fixed? := by
  cases token with
  | leaf token =>
    have boost : LeafToken.boostText { token with leaf := token.leaf.eraseValues } =
        token.boostText := by
      obtain ⟨_, leaf, _⟩ := token
      cases leaf <;> rfl
    simp only [eraseValues, segments, List.cons_append, List.filterMap_cons, Segment.fixed?,
      List.filterMap_append, token.leaf.fixed_segments, boost]
  | keyword k => rfl
  | opener negated => rfl
  | closer boost => rfl

theorem fixed_followingSegments (token : Token) :
    token.eraseValues.followingSegments.filterMap Segment.fixed? =
      token.followingSegments.filterMap Segment.fixed? := by
  cases token with
  | leaf token => exact congrArg (" " :: ·) (fixed_segments (.leaf token))
  | keyword k => rfl
  | opener negated => rfl
  | closer boost => rfl

theorem fixed_allSegments (tokens : List Token) :
    (allSegments (tokens.map eraseValues)).filterMap Segment.fixed? =
      (allSegments tokens).filterMap Segment.fixed? := by
  cases tokens with
  | nil => rfl
  | cons first rest =>
    simp only [List.map_cons, allSegments, List.filterMap_append, fixed_segments,
      List.filterMap_flatMap, List.flatMap_map, fixed_followingSegments]

theorem parts_segments (token : Token) :
    token.segments.filterMap Segment.part? = token.leaf?.toList.flatMap Leaf.parts := by
  cases token with
  | leaf token =>
    simp [segments, leaf?, Segment.part?, List.filterMap_cons, token.leaf.parts_segments]
  | keyword k => rfl
  | opener negated => rfl
  | closer boost => rfl

theorem parts_followingSegments (token : Token) :
    token.followingSegments.filterMap Segment.part? = token.leaf?.toList.flatMap Leaf.parts := by
  rw [← parts_segments]
  cases token <;> rfl

theorem parts_allSegments (tokens : List Token) :
    (allSegments tokens).filterMap Segment.part? =
      (tokens.filterMap leaf?).flatMap Leaf.parts := by
  have each (tokens : List Token) :
      (tokens.flatMap fun token => token.leaf?.toList.flatMap Leaf.parts) =
        (tokens.filterMap leaf?).flatMap Leaf.parts := by
    induction tokens with
    | nil => rfl
    | cons token rest ih =>
      rw [List.flatMap_cons, ih, List.filterMap_cons]
      cases token.leaf? <;> simp
  cases tokens with
  | nil => rfl
  | cons first rest =>
    simp only [allSegments, List.filterMap_append, List.filterMap_flatMap, parts_segments,
      parts_followingSegments]
    rw [← each (first :: rest), List.flatMap_cons]

end Token

namespace Dialect

variable (dialect : Dialect)

theorem leafTokens_eraseValues (parent : GroupHead) (position : Nat) (written : Bool)
    (leaf : Leaf) :
    dialect.leafTokens parent position written leaf.eraseValues =
      (dialect.leafTokens parent position written leaf).map Token.eraseValues := by
  rw [leafTokens, leafTokens, List.map_append, Token.map_eraseValues_when _ rfl]
  cases leaf <;> rfl

mutual

theorem tokens_eraseValues (parent : GroupHead) (depth position : Nat) (written : Bool)
    (query : Query) :
    dialect.tokens parent depth position written query.eraseValues =
      (dialect.tokens parent depth position written query).map Token.eraseValues := by
  match query with
  | .term test => exact dialect.leafTokens_eraseValues parent position written (.test test)
  | .phrase p =>
    have sameLength : p.eraseValues.terms.isEmpty = p.terms.isEmpty := by
      rw [Phrase.eraseValues, List.isEmpty_map]
    simp only [Query.eraseValues, tokens, sameLength]
    split
    · rfl
    · exact dialect.leafTokens_eraseValues parent position written (.phrase p)
  | .range _ => rfl
  | .group head children =>
    simp only [Query.eraseValues, tokens, Query.countP_eraseAllValues, List.map_append,
      allTokens_eraseValues head (depth + 1) 0 written children]
    rw [Token.map_eraseValues_when, Token.map_eraseValues_when, Token.map_eraseValues_when]
    all_goals rfl

theorem allTokens_eraseValues (parent : GroupHead) (depth position : Nat) (written : Bool)
    (queries : List Query) :
    dialect.allTokens parent depth position written (Query.eraseAllValues queries) =
      (dialect.allTokens parent depth position written queries).map Token.eraseValues := by
  match queries with
  | [] => rfl
  | query :: rest =>
    simp only [Query.eraseAllValues, allTokens, List.map_append, Query.hasText_eraseValues,
      tokens_eraseValues parent depth position written query,
      allTokens_eraseValues parent depth _ _ rest]

end

/-- The text of a whole query in segments. -/
def segments (group : Group) : List Segment :=
  Token.allSegments (dialect.queryTokens group)

theorem textOf_segments (group : Group) :
    Segment.textOf (dialect.segments group) = Token.textOf (dialect.queryTokens group) :=
  Token.textOf_allSegments _

/-- Values write the parts of the leaves and nothing else, depth first. -/
theorem parts_segments (group : Group) :
    (dialect.segments group).filterMap Segment.part? =
      group.toQuery.textLeaves.flatMap Leaf.parts := by
  rw [segments, Token.parts_allSegments, queryTokens, leaves_tokens]

/-- What is fixed does not depend on values. -/
theorem fixed_segments (group : Group) :
    (dialect.segments group.eraseValues).filterMap Segment.fixed? =
      (dialect.segments group).filterMap Segment.fixed? := by
  rw [segments, queryTokens, Group.toQuery_eraseValues, tokens_eraseValues,
    Token.fixed_allSegments]
  rfl

end Dialect

/-- White space, and the characters that mark, join and enclose clauses. -/
def isSyntax (c : Char) : Bool :=
  Text.isBlank c || ['+', '-', '&', '|', '!', '(', ')', '{', '}', '[', ']'].contains c

/-- The syntax that a scan comes by, outside quotes and without a backslash before it. -/
def syntaxOf (glyphs : List Glyph) : List Char :=
  (glyphs.filter fun glyph => glyph.bare && isSyntax glyph.char).map Glyph.char

private theorem syntaxOf_append (front back : List Glyph) :
    syntaxOf (front ++ back) = syntaxOf front ++ syntaxOf back := by
  rw [syntaxOf, List.filter_append, List.map_append, syntaxOf, syntaxOf]

private theorem syntaxOf_literals (text : List Char) : syntaxOf (text.map .literal) = [] := by
  simp [syntaxOf, Glyph.literal]

/-- A bare word has no syntax: its operators and blanks are literal, and wildcards are none. -/
theorem syntaxOf_words (wildcards : Bool) (text : List Char) :
    syntaxOf (text.map (.word wildcards)) = [] := by
  have operator {c : Char} (syn : isSyntax c = true) :
      (isOperator c || Text.isBlank c) = true := by
    simp only [isSyntax, isOperator, Bool.or_eq_true, List.contains_iff_mem, List.mem_cons] at *
    grind
  have tame {c : Char} (syn : isSyntax c = true) : isWildcard c = false := by
    rw [Bool.eq_false_iff]
    intro wild
    simp only [isWildcard, Bool.or_eq_true, beq_iff_eq] at wild
    rcases wild with rfl | rfl <;> revert syn <;> decide
  rw [syntaxOf, List.map_eq_nil_iff, List.filter_eq_nil_iff]
  intro glyph member
  obtain ⟨c, _, rfl⟩ := List.mem_map.mp member
  by_cases syn : isSyntax c = true
  · simp [Glyph.word, tame syn, operator syn]
  · simp [Glyph.word, syn]

theorem ValuePart.syntaxOf_reading (part : ValuePart) : syntaxOf part.reading = [] := by
  match part with
  | .test .term value => exact syntaxOf_words false _
  | .test .fuzzy value => exact syntaxOf_words false _
  | .test .prefixed value =>
    rw [reading, syntaxOf_append, syntaxOf_words]
    rfl
  | .test .wildcard value => exact syntaxOf_words true _
  | .test .keyword value => exact syntaxOf_literals _
  | .run values => exact syntaxOf_literals _

/-- All syntax is in what is fixed. -/
theorem Segment.syntaxOf_reading (segments : List Segment) :
    syntaxOf (segments.flatMap reading) =
      (segments.filterMap fixed?).flatMap fun text => text.toList.filter isSyntax := by
  induction segments with
  | nil => rfl
  | cons segment rest ih =>
    rw [List.flatMap_cons, syntaxOf_append, ih]
    cases segment with
    | fixed text =>
      simp [reading, fixed?, syntaxOf, List.filter_map, Function.comp_def]
    | value part => rw [reading, part.syntaxOf_reading]; rfl

end Rendering

private theorem Backend.plain_boostSeparator (backend : Backend) (style : LeafStyle) :
    Plain (backend.dialect.boostSeparator style).toString := by
  cases backend with
  | azure =>
    cases style with
    | phrase => decide
    | test matching => cases matching <;> decide
  | solr => exact (by decide : Plain '^'.toString)

/-- The segments of a rendered query can stand by themselves where the fields of its leaves can. -/
theorem Backend.isPlain_segments (backend : Backend) {group : Group}
    (plain : ∀ leaf ∈ group.toQuery.textLeaves, ∀ field ∈ leaf.fields, Plain field) :
    ∀ segment ∈ backend.dialect.segments group, segment.IsPlain := by
  apply Token.isPlain_allSegments
  intro token member
  rcases backend.dialect.tokens_cases group.toQuery member with silent | ⟨first, leaf, inTree, rfl⟩
  · cases token with
    | leaf token => nomatch silent
    | keyword k => trivial
    | opener negated => trivial
    | closer boost => trivial
  · exact ⟨plain leaf inTree, backend.plain_boostSeparator leaf.style⟩

/-- What holds of all leaves whatever their values are holds of a tree with other values too. -/
theorem Group.forall_textLeaves {group other : Group} {good : Leaf → Prop}
    (same : other.eraseValues = group.eraseValues)
    (stable : ∀ leaf : Leaf, good leaf.eraseValues ↔ good leaf)
    (all : ∀ leaf ∈ group.toQuery.textLeaves, good leaf) :
    ∀ leaf ∈ other.toQuery.textLeaves, good leaf := by
  intro leaf member
  have erased : leaf.eraseValues ∈ group.toQuery.textLeaves.map Leaf.eraseValues := by
    rw [← Query.textLeaves_eraseValues, ← Group.toQuery_eraseValues, ← same,
      Group.toQuery_eraseValues, Query.textLeaves_eraseValues]
    exact List.mem_map_of_mem member
  obtain ⟨twin, inTree, alike⟩ := List.mem_map.mp erased
  rw [← stable, ← alike, stable]
  exact all twin inTree

/-- Where no field has a backslash or a quote in it, no value writes syntax: the scan of the text
ends outside quotes, with no backslash pending; each part that values write is met outside quotes,
is read as these values and ends there; and trees that differ in their values only have the same
syntax. -/
theorem values_write_no_syntax (backend : Backend) (search : Search)
    (resolved : ∀ leaf ∈ search.query.toQuery.textLeaves, leaf.occur.isSet)
    (plain : ∀ leaf ∈ search.query.toQuery.textLeaves, ∀ field ∈ leaf.fields, Plain field) :
    ∃ rendered, backend.dialect.render search = .ok rendered ∧
      Scan.finish .outside rendered.text.toList = .outside ∧
      (rendered.text = Segment.textOf (backend.dialect.segments search.query) ∧
        (backend.dialect.segments search.query).filterMap Segment.part? =
          search.query.toQuery.textLeaves.flatMap Leaf.parts ∧
        ∀ before part after,
          backend.dialect.segments search.query = before ++ .value part :: after →
          Scan.finish .outside (Segment.textOf before).toList = .outside ∧
            Scan.read .outside part.text.toList = part.reading ∧
            part.reading.map Glyph.char = part.value.toList ∧
            Scan.finish .outside part.text.toList = .outside) ∧
      ∀ other : Search, other.query.eraseValues = search.query.eraseValues →
        ∃ another, backend.dialect.render other = .ok another ∧
          syntaxOf (Scan.read .outside another.text.toList) =
            syntaxOf (Scan.read .outside rendered.text.toList) := by
  have reads {group : Group}
      (plain : ∀ leaf ∈ group.toQuery.textLeaves, ∀ field ∈ leaf.fields, Plain field) :
      ReadsAs (Token.textOf (backend.dialect.queryTokens group))
        ((backend.dialect.segments group).flatMap Segment.reading) := by
    rw [← backend.dialect.textOf_segments]
    exact Segment.readsAs_textOf (backend.isPlain_segments plain)
  refine ⟨_, backend.dialect.render_of_resolved resolved, (reads plain).finish_eq,
    ⟨(backend.dialect.textOf_segments _).symm, backend.dialect.parts_segments _, ?_⟩, ?_⟩
  · intro before part after split
    have beforePlain : ∀ segment ∈ before, segment.IsPlain := fun segment member =>
      backend.isPlain_segments plain segment (split ▸ List.mem_append_left _ member)
    exact ⟨(Segment.readsAs_textOf beforePlain).finish_eq, part.readsAs.read_eq, part.reading_chars,
      part.readsAs.finish_eq⟩
  · intro other same
    have otherResolved : ∀ leaf ∈ other.query.toQuery.textLeaves, leaf.occur.isSet :=
      Group.forall_textLeaves same (fun leaf => by rw [leaf.occur_eraseValues]) resolved
    have otherPlain : ∀ leaf ∈ other.query.toQuery.textLeaves, ∀ field ∈ leaf.fields, Plain field :=
      Group.forall_textLeaves same (fun leaf => by rw [leaf.fields_eraseValues]) plain
    refine ⟨_, backend.dialect.render_of_resolved otherResolved, ?_⟩
    rw [(reads otherPlain).read_eq, (reads plain).read_eq, Segment.syntaxOf_reading,
      Segment.syntaxOf_reading, ← backend.dialect.fixed_segments other.query, same,
      backend.dialect.fixed_segments]

/-- Values with quotes, backslashes, blanks, stars and parentheses in every kind of leaf. -/
def hostileSearch : Search where
  query := ⟨⟨.root, .always, none⟩, [
    .term ⟨.term, ⟨"title", "a) OR \"b\\"⟩, none, .always⟩,
    .group ⟨.or, .sometimes, none⟩ [
      .term ⟨.prefixed, ⟨"title", "c++ **"⟩, none, .sometimes⟩,
      .term ⟨.wildcard, ⟨"title", "te?t -d*"⟩, none, .sometimes⟩,
      .term ⟨.keyword, ⟨"author", "say \"hi\" \\"⟩, none, .never⟩,
      .term ⟨.fuzzy, ⟨"author", "new\tyork"⟩, none, .sometimes⟩],
    .phrase ⟨[⟨"title", "red\""⟩, ⟨"title", "\\ wine"⟩, ⟨"author", ") AND ("⟩], 2, none, .never⟩]⟩
  sort := none
  filter := none

theorem values_write_no_syntax_hostile :
    (∀ leaf ∈ hostileSearch.query.toQuery.textLeaves, leaf.occur.isSet) ∧
      (∀ leaf ∈ hostileSearch.query.toQuery.textLeaves, ∀ field ∈ leaf.fields, Plain field) ∧
      ∃ rendered harmless, azure.render hostileSearch = .ok rendered ∧
        azure.render { hostileSearch with query := hostileSearch.query.eraseValues } =
          .ok harmless ∧
        Scan.finish .outside rendered.text.toList = .outside ∧
        syntaxOf (Scan.read .outside harmless.text.toList) =
          syntaxOf (Scan.read .outside rendered.text.toList) := by
  have resolved : ∀ leaf ∈ hostileSearch.query.toQuery.textLeaves, leaf.occur.isSet := by decide
  have plain : ∀ leaf ∈ hostileSearch.query.toQuery.textLeaves, ∀ field ∈ leaf.fields,
      Plain field := by decide
  obtain ⟨rendered, rendering, ends, _, alike⟩ :=
    values_write_no_syntax .azure hostileSearch resolved plain
  obtain ⟨harmless, second, same⟩ :=
    alike { hostileSearch with query := hostileSearch.query.eraseValues } rfl
  exact ⟨resolved, plain, rendered, harmless, rendering, second, ends, same⟩

end SearchQuery
