import SearchQuery.Proofs.Rendering.Tokens

/-!
Query text is a boolean expression. Main statement: parentheses are balanced, inside them operands
and keywords alternate, and outside them no keyword lacks an operand on either side
(`text_is_expression`).
-/

namespace SearchQuery

namespace Query

mutual

/-- Whether no group in a query is of the kind of outermost groups. -/
def rootless : Query → Bool
  | .group head children => head.kind != .root && allRootless children
  | _ => true

def allRootless : List Query → Bool
  | [] => true
  | query :: rest => query.rootless && allRootless rest

end

end Query

namespace Rendering

/-- Operands after keywords. -/
def joined (operands : List (Keyword × List Token)) : List Token :=
  operands.flatMap fun (keyword, tokens) => .keyword keyword :: tokens

/-- Operands after at most one keyword each. -/
def strung (operands : List (Option Keyword × List Token)) : List Token :=
  operands.flatMap fun (keyword, tokens) => keyword.toList.map .keyword ++ tokens

/-- One operand: a leaf, or operands in parentheses with a keyword between each two. A bare pair of
parentheses holds two operands or more, a negated pair at least one. -/
inductive Operand : List Token → Prop where
  | leaf (token : LeafToken) : Operand [.leaf token]
  | enclosed (negated : Bool) {first : List Token} {others : List (Keyword × List Token)}
      (boost : Option Single) (head : Operand first)
      (tail : ∀ other ∈ others, Operand other.2)
      (enough : (if negated then 1 else 2) ≤ others.length + 1) :
      Operand (.opener negated :: (first ++ joined others) ++ [.closer boost])

/-- Operands on the outermost level, each after at most one keyword and the first after none. -/
def Expression (tokens : List Token) : Prop :=
  ∃ operands : List (Option Keyword × List Token), (∀ operand ∈ operands, Operand operand.2) ∧
    (∀ first ∈ operands.head?, first.1 = none) ∧ tokens = strung operands

/-- At least `least` operands with a keyword between each two, and one before them if `led`. -/
def Alternation (led : Bool) (least : Nat) (tokens : List Token) : Prop :=
  ∃ (keyword : Keyword) (first : List Token) (others : List (Keyword × List Token)),
    Operand first ∧ (∀ other ∈ others, Operand other.2) ∧ least ≤ others.length + 1 ∧
      tokens = Token.when led (.keyword keyword) ++ first ++ joined others

namespace Alternation

theorem ofOperand {tokens : List Token} (led : Bool) (keyword : Keyword) (operand : Operand tokens) :
    Alternation led 1 (Token.when led (.keyword keyword) ++ tokens) :=
  ⟨keyword, tokens, [], operand, by simp, by simp, by simp [joined]⟩

theorem weaken {led : Bool} {least fewer : Nat} {tokens : List Token}
    (alternation : Alternation led least tokens) (le : fewer ≤ least) :
    Alternation led fewer tokens := by
  obtain ⟨keyword, first, others, head, tail, enough, same⟩ := alternation
  exact ⟨keyword, first, others, head, tail, Nat.le_trans le enough, same⟩

theorem lead {least : Nat} {tokens : List Token} (led : Bool) (keyword : Keyword)
    (alternation : Alternation false least tokens) :
    Alternation led least (Token.when led (.keyword keyword) ++ tokens) := by
  obtain ⟨_, first, others, head, tail, enough, same⟩ := alternation
  exact ⟨keyword, first, others, head, tail, enough, by simp [same, Token.when]⟩

theorem append {led : Bool} {least more : Nat} {front back : List Token}
    (before : Alternation led least front) (after : Alternation true more back) :
    Alternation led (least + more) (front ++ back) := by
  obtain ⟨keyword, first, others, head, tail, enough, same⟩ := before
  obtain ⟨between, next, rest, nextHead, nextTail, nextEnough, nextSame⟩ := after
  refine ⟨keyword, first, others ++ (between, next) :: rest, head, ?_, ?_, ?_⟩
  · intro other member
    rcases List.mem_append.mp member with old | new
    · exact tail other old
    · rcases List.mem_cons.mp new with rfl | later
      · exact nextHead
      · exact nextTail other later
  · simp only [List.length_append, List.length_cons]
    omega
  · simp [same, nextSame, joined, Token.when, List.append_assoc]

theorem enclose {least : Nat} {tokens : List Token} (alternation : Alternation false least tokens)
    (negated : Bool) (boost : Option Single) (enough : (if negated then 1 else 2) ≤ least) :
    Operand (.opener negated :: tokens ++ [.closer boost]) := by
  obtain ⟨_, first, others, head, tail, atLeast, same⟩ := alternation
  have bare : tokens = first ++ joined others := by simp [same, Token.when]
  rw [bare]
  exact .enclosed negated boost head tail (Nat.le_trans enough atLeast)

/-- The same operands on the outermost level. -/
theorem strings {led : Bool} {least : Nat} {tokens : List Token}
    (alternation : Alternation led least tokens) :
    ∃ (first : Option Keyword × List Token) (rest : List (Option Keyword × List Token)),
      (∀ operand ∈ first :: rest, Operand operand.2) ∧ (led = false → first.1 = none) ∧
        tokens = strung (first :: rest) := by
  obtain ⟨keyword, first, others, head, tail, _, same⟩ := alternation
  refine ⟨(if led then some keyword else none, first),
    others.map fun other => (some other.1, other.2), ?_, ?_, ?_⟩
  · intro operand member
    rcases List.mem_cons.mp member with rfl | later
    · exact head
    · obtain ⟨other, present, rfl⟩ := List.mem_map.mp later
      exact tail other present
  · rintro rfl
    rfl
  · have rest : strung (others.map fun other => (some other.1, other.2)) = joined others := by
      simp [strung, joined, List.flatMap_map]
    rw [same, ← rest]
    cases led <;> simp [strung, Token.when]

end Alternation

theorem Expression.nil : Expression [] :=
  ⟨[], by simp, by simp, rfl⟩

theorem Alternation.expression {least : Nat} {tokens : List Token}
    (alternation : Alternation false least tokens) : Expression tokens := by
  obtain ⟨first, rest, all, unled, same⟩ := alternation.strings
  refine ⟨first :: rest, all, ?_, same⟩
  rintro _ ⟨⟩
  exact unled rfl

namespace Dialect

variable (dialect : Dialect)

/-- Whether a keyword comes before a child: the outermost group writes none before its leaves. -/
def leads (parent : GroupHead) (position : Nat) : Query → Bool
  | .group _ _ => 0 < position
  | _ => 0 < position && parent.kind != .root

private theorem leads_nested {parent : GroupHead} (nested : parent.kind ≠ .root) (position : Nat)
    (query : Query) : leads parent position query = decide (0 < position) := by
  cases query <;> simp [leads, nested]

private theorem leads_first (parent : GroupHead) (query : Query) :
    leads parent 0 query = false := by
  cases query <;> simp [leads]

/-- A group writes one operand, in parentheses, or its operands as they are. -/
theorem enclose_alternation (head : GroupHead) (depth operands : Nat) (led : Bool)
    {inner : List Token} (some : 0 < operands) (alternation : Alternation false operands inner) :
    Alternation led 1
      (Token.when led (.keyword (.ofOccurrence head.occur)) ++
        Token.when (dialect.encloses head depth operands) (.opener (negates head)) ++ inner ++
        Token.when (dialect.encloses head depth operands) (.closer head.boost)) := by
  cases enclosed : dialect.encloses head depth operands with
  | true =>
    have enough : (if negates head then 1 else 2) ≤ operands := by
      simp only [encloses, Bool.and_eq_true, Bool.or_eq_true, decide_eq_true_eq] at enclosed
      rcases enclosed.2 with negated | two
      · rw [negated]
        exact some
      · split
        · exact some
        · exact two.1
    have operand := alternation.enclose (negates head) head.boost enough
    simpa [Token.when] using Alternation.ofOperand led (.ofOccurrence head.occur) operand
  | false =>
    simpa [Token.when] using (alternation.weaken some).lead led (.ofOccurrence head.occur)

mutual

/-- A child with text writes operands with keywords between them, and at most one before them. -/
theorem tokens_alternation (parent : GroupHead) (depth position : Nat) (written : Bool)
    (query : Query) (rootless : query.rootless) (text : query.hasText) :
    Alternation (leads parent position query) 1
      (dialect.tokens parent depth position written query) := by
  match query with
  | .term _ => exact .ofOperand _ _ (.leaf _)
  | .phrase p =>
    have terms : p.terms.isEmpty = false := by simpa [Query.hasText] using text
    simp only [tokens, terms, Bool.false_eq_true, ↓reduceIte]
    exact .ofOperand _ _ (.leaf _)
  | .range _ => simp [Query.hasText] at text
  | .group head children =>
    simp only [Query.rootless, Bool.and_eq_true, bne_iff_ne] at rootless
    simp only [Query.hasText] at text
    have nested : (head.kind != .root) = true := bne_iff_ne.mpr rootless.1
    have operands : 0 < children.countP Query.hasText := by
      simpa [Query.anyText_eq_decide] using text
    have inner := allTokens_alternation head rootless.1 (depth + 1) 0 written children rootless.2 text
    have whole := dialect.enclose_alternation head depth _ (decide (0 < position)) operands inner
    simpa only [tokens, operands, nested, leads, decide_true, Bool.true_and] using whole

/-- Children of a nested group write at least one operand each that has text. -/
theorem allTokens_alternation (parent : GroupHead) (nested : parent.kind ≠ .root)
    (depth position : Nat) (written : Bool) (queries : List Query)
    (rootless : Query.allRootless queries) (text : Query.anyText queries) :
    Alternation (decide (0 < position)) (queries.countP Query.hasText)
      (dialect.allTokens parent depth position written queries) := by
  match queries with
  | [] => simp [Query.anyText] at text
  | query :: rest =>
    simp only [Query.allRootless, Bool.and_eq_true] at rootless
    cases has : query.hasText with
    | false =>
      have later : Query.anyText rest := by simpa [Query.anyText, has] using text
      simpa [allTokens, has, dialect.tokens_eq_nil parent depth position written query has] using
        allTokens_alternation parent nested depth position written rest rootless.2 later
    | true =>
      have front := tokens_alternation parent depth position written query rootless.1 has
      rw [leads_nested nested] at front
      cases more : Query.anyText rest with
      | false =>
        have none : rest.countP Query.hasText = 0 := by
          simpa [Query.anyText_eq_decide] using more
        simpa [allTokens, has, none, dialect.allTokens_eq_nil parent depth _ _ rest more] using front
      | true =>
        have back := allTokens_alternation parent nested depth (position + 1) (written || true) rest
          rootless.2 more
        have both := front.append (by simpa using back)
        simpa [allTokens, has, Nat.add_comm] using both

end

/-- Children of the outermost group write operands on the outermost level. -/
theorem allTokens_expression (parent : GroupHead) (depth position : Nat) (written : Bool)
    (queries : List Query) (rootless : Query.allRootless queries) :
    ∃ operands : List (Option Keyword × List Token), (∀ operand ∈ operands, Operand operand.2) ∧
      (position = 0 → ∀ first ∈ operands.head?, first.1 = none) ∧
      dialect.allTokens parent depth position written queries = strung operands := by
  induction queries generalizing position written with
  | nil => exact ⟨[], by simp, by simp, rfl⟩
  | cons query rest ih =>
    simp only [Query.allRootless, Bool.and_eq_true] at rootless
    cases has : query.hasText with
    | false =>
      obtain ⟨operands, all, unled, same⟩ := ih position written rootless.2
      refine ⟨operands, all, unled, ?_⟩
      simpa [allTokens, has, dialect.tokens_eq_nil parent depth position written query has] using same
    | true =>
      have front := dialect.tokens_alternation parent depth position written query rootless.1 has
      obtain ⟨first, between, all, unled, same⟩ := front.strings
      obtain ⟨others, allOthers, _, sameOthers⟩ := ih (position + 1) true rootless.2
      refine ⟨first :: between ++ others, ?_, ?_, ?_⟩
      · intro operand member
        exact (List.mem_append.mp member).elim (all operand) (allOthers operand)
      · rintro rfl _ ⟨⟩
        exact unled (leads_first parent query)
      · simp [allTokens, has, same, sameOthers, strung]

theorem queryTokens_expression (group : Group) (rootless : Query.allRootless group.children) :
    Expression (dialect.queryTokens group) := by
  by_cases outermost : group.kind = .root
  · obtain ⟨operands, all, unled, same⟩ :=
      dialect.allTokens_expression group.toGroupHead 1 0 false group.children rootless
    have bare : dialect.queryTokens group =
        dialect.allTokens group.toGroupHead 1 0 false group.children := by
      simp [queryTokens, Group.toQuery, tokens, encloses, outermost, Token.when]
    rw [bare]
    exact ⟨operands, all, unled rfl, same⟩
  · have nested : group.toQuery.rootless := by
      simp [Group.toQuery, Query.rootless, outermost, rootless]
    cases text : group.toQuery.hasText with
    | true =>
      have alternation := dialect.tokens_alternation group.toGroupHead 0 0 false _ nested text
      rw [leads_first] at alternation
      exact alternation.expression
    | false =>
      rw [queryTokens, dialect.tokens_eq_nil _ 0 0 false _ text]
      exact .nil

end Dialect

end Rendering

open Rendering

/-- The text of a query is its tokens joined by single spaces. They are a boolean expression, its
leaves are those of the tree in depth-first order, and without leaves there is no text. -/
theorem text_is_expression (backend : Backend) (search : Search)
    (resolved : ∀ leaf ∈ search.query.toQuery.textLeaves, leaf.occur.isSet)
    (rootless : Query.allRootless search.query.children) :
    ∃ rendered tokens, backend.dialect.render search = .ok rendered ∧
      rendered.text = Token.textOf tokens ∧ Expression tokens ∧
      tokens.filterMap Token.leaf? = search.query.toQuery.textLeaves ∧
      (rendered.text = "" ↔ search.query.toQuery.textLeaves = []) := by
  have leaves := backend.dialect.leaves_tokens search.query.toGroupHead 0 0 false search.query.toQuery
  refine ⟨_, _, backend.dialect.render_of_resolved resolved, rfl,
    backend.dialect.queryTokens_expression search.query rootless, leaves, ?_⟩
  rw [Token.textOf_eq_empty_iff]
  constructor
  · intro empty
    rw [← leaves, ← Dialect.queryTokens, empty, List.filterMap_nil]
  · intro none
    apply backend.dialect.tokens_eq_nil
    simpa [none] using Query.hasText_iff search.query.toQuery

/-- An excluded group that holds a range and a group of two words, after a group without text. -/
def excludingSearch : Search where
  query := ⟨⟨.root, .always, none⟩, [
    .group ⟨.or, .sometimes, none⟩ [.phrase ⟨[], 0, none, .always⟩],
    .term ⟨.term, ⟨"title", "red"⟩, none, .always⟩,
    .group ⟨.and, .never, none⟩ [
      .range ⟨"year", .int 1990 2000, true, true, none, none, .always⟩,
      .group ⟨.or, .sometimes, none⟩ [
        .term ⟨.term, ⟨"title", "blue"⟩, none, .sometimes⟩,
        .term ⟨.term, ⟨"title", "green"⟩, none, .sometimes⟩]]]⟩
  sort := none
  filter := none

theorem text_is_expression_excluding :
    (∀ leaf ∈ excludingSearch.query.toQuery.textLeaves, leaf.occur.isSet) ∧
      Query.allRootless excludingSearch.query.children ∧
      ∃ rendered tokens, solr.render excludingSearch = .ok rendered ∧
        rendered.text = Token.textOf tokens ∧ Expression tokens ∧
        tokens.filterMap Token.leaf? = excludingSearch.query.toQuery.textLeaves ∧
        rendered.text ≠ "" := by
  have resolved : ∀ leaf ∈ excludingSearch.query.toQuery.textLeaves, leaf.occur.isSet := by decide
  have rootless : Query.allRootless excludingSearch.query.children := by decide
  obtain ⟨rendered, tokens, rendering, joins, expression, leaves, empty⟩ :=
    text_is_expression .solr excludingSearch resolved rootless
  have some : excludingSearch.query.toQuery.textLeaves ≠ [] := by decide
  exact ⟨resolved, rootless, rendered, tokens, rendering, joins, expression, leaves,
    mt empty.mp some⟩

example : (solr.render excludingSearch).map Rendered.text =
    .ok "title:red AND -( ( title:blue OR title:green))" := by cbv

end SearchQuery
