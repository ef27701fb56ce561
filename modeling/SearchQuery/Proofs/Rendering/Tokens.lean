import SearchQuery.Rendering.Solr

/-!
What a walk over a query writes, told without the walk: the leaves of the tree, the tokens of its
text, and the ranges beside it. Main statement: the walk writes exactly these (`write_eq`).
-/

namespace SearchQuery

namespace Query

open Rendering (Leaf)

mutual

/-- The tests and the phrases with terms, depth first. -/
def textLeaves : Query → List Leaf
  | .term test => [.test test]
  | .phrase p => if p.terms.isEmpty then [] else [.phrase p]
  | .range _ => []
  | .group _ children => allTextLeaves children

def allTextLeaves : List Query → List Leaf
  | [] => []
  | query :: rest => query.textLeaves ++ allTextLeaves rest

end

theorem allTextLeaves_eq_flatMap (queries : List Query) :
    allTextLeaves queries = queries.flatMap textLeaves := by
  induction queries with
  | nil => rfl
  | cons query rest ih => rw [allTextLeaves, ih, List.flatMap_cons]

mutual

theorem hasText_iff (query : Query) : query.hasText = true ↔ query.textLeaves ≠ [] := by
  match query with
  | .term _ => simp [hasText, textLeaves]
  | .phrase p => by_cases empty : p.terms = [] <;> simp [hasText, textLeaves, empty]
  | .range _ => simp [hasText, textLeaves]
  | .group _ children => simpa only [hasText, textLeaves] using anyText_iff children

theorem anyText_iff (queries : List Query) :
    anyText queries = true ↔ allTextLeaves queries ≠ [] := by
  match queries with
  | [] => simp [anyText, allTextLeaves]
  | query :: rest =>
    simp only [anyText, allTextLeaves, Bool.or_eq_true, hasText_iff query, anyText_iff rest, ne_eq,
      List.append_eq_nil_iff]
    exact Decidable.not_and_iff_not_or_not.symm

end

theorem anyText_eq_decide (queries : List Query) :
    anyText queries = decide (0 < queries.countP hasText) := by
  induction queries with
  | nil => rfl
  | cons query rest ih =>
    by_cases text : query.hasText = true
    · simp [anyText, text]
    · simp [anyText, text, ih]

end Query

namespace Rendering

private theorem Leaf.body_ne_empty (leaf : Leaf) : leaf.body ≠ "" := by
  cases leaf with
  | test test => simp [body, testBody]
  | phrase p =>
    simp only [body, phraseBody]
    split
    · rename_i single only
      obtain ⟨run, _, same⟩ := List.mem_map.mp (only ▸ List.mem_singleton_self single)
      simp [← same, runText]
    · simp

namespace Token

/-- A token that is written on a condition. -/
def when (condition : Bool) (token : Token) : List Token :=
  if condition then [token] else []

def leaf? : Token → Option Leaf
  | .leaf token => some token.leaf
  | .keyword _ => none
  | .opener _ => none
  | .closer _ => none

private theorem leaves_when (condition : Bool) (token : Token) (silent : token.leaf? = none) :
    (when condition token).filterMap leaf? = [] := by
  cases condition <;> simp [when, silent]

/-- A token after another: a space comes between them, except before a closing parenthesis. -/
def following (token : Token) : String :=
  match token with
  | .closer _ => token.text
  | _ => " " ++ token.text

/-- Tokens joined by single spaces, each closing parenthesis attached to the token before it. -/
def textOf : List Token → String
  | [] => ""
  | first :: rest => first.text ++ String.join (rest.map following)

private theorem text_ne_empty (token : Token) : token.text ≠ "" := by
  cases token with
  | leaf token => simp [text, LeafToken.text, token.leaf.body_ne_empty]
  | keyword keyword => cases keyword <;> simp [text, Keyword.text]
  | opener negated => cases negated <;> simp [text]
  | closer boost => cases boost <;> simp [text]

private theorem attach_empty (token : Token) : attach "" token = token.text := by
  cases token <;> simp [attach]

private theorem attach_eq_append {text : String} (started : text ≠ "") (token : Token) :
    attach text token = text ++ token.following := by
  cases token <;> simp [attach, following, started, String.append_assoc]

private theorem foldl_attach {text : String} (started : text ≠ "") (tokens : List Token) :
    tokens.foldl attach text = text ++ String.join (tokens.map following) := by
  induction tokens generalizing text with
  | nil => simp
  | cons token rest ih =>
    have grown : text ++ token.following ≠ "" := by simp [started]
    rw [List.foldl_cons, attach_eq_append started, ih grown, List.map_cons, String.join_cons,
      String.append_assoc]

private theorem foldl_attach_empty (tokens : List Token) :
    tokens.foldl attach "" = textOf tokens := by
  cases tokens with
  | nil => rfl
  | cons first rest => rw [List.foldl_cons, attach_empty, foldl_attach first.text_ne_empty, textOf]

theorem textOf_eq_empty_iff (tokens : List Token) : textOf tokens = "" ↔ tokens = [] := by
  cases tokens with
  | nil => simp [textOf]
  | cons first rest => simp [textOf, first.text_ne_empty]

end Token

namespace Dialect

variable (dialect : Dialect)

/-- A leaf as it is written, first of all or not. -/
def tokenOf (first : Bool) (leaf : Leaf) : Token :=
  dialect.leafToken ((dialect.marker? first leaf.occur).getD .bare) leaf

def leafTokens (parent : GroupHead) (position : Nat) (written : Bool) (leaf : Leaf) : List Token :=
  Token.when (0 < position && parent.kind != .root) (.keyword (.ofOccurrence parent.occur)) ++
    [dialect.tokenOf (!written) leaf]

mutual

/-- The tokens of a child of `parent` that `position` operands come before. The flag tells whether
a leaf has been written before. -/
def tokens (parent : GroupHead) (depth position : Nat) (written : Bool) : Query → List Token
  | .term test => dialect.leafTokens parent position written (.test test)
  | .phrase p =>
    if p.terms.isEmpty then [] else dialect.leafTokens parent position written (.phrase p)
  | .range _ => []
  | .group head children =>
    let operands := children.countP Query.hasText
    let enclosed := dialect.encloses head depth operands
    Token.when (0 < operands && head.kind != .root && 0 < position)
        (.keyword (.ofOccurrence head.occur)) ++
      Token.when enclosed (.opener (negates head)) ++
      allTokens head (depth + 1) 0 written children ++
      Token.when enclosed (.closer head.boost)

def allTokens (parent : GroupHead) (depth position : Nat) (written : Bool) :
    List Query → List Token
  | [] => []
  | query :: rest =>
    tokens parent depth position written query ++
      allTokens parent depth (if query.hasText then position + 1 else position)
        (written || query.hasText) rest

end

/-- The tokens of a whole query. -/
def queryTokens (group : Group) : List Token :=
  dialect.tokens group.toGroupHead 0 0 false group.toQuery

mutual

theorem tokens_eq_nil (parent : GroupHead) (depth position : Nat) (written : Bool) (query : Query)
    (silent : query.hasText = false) :
    dialect.tokens parent depth position written query = [] := by
  match query with
  | .term _ => simp [Query.hasText] at silent
  | .phrase p => simp_all [Query.hasText, tokens]
  | .range _ => rfl
  | .group head children =>
    simp only [Query.hasText] at silent
    have operands : children.countP Query.hasText = 0 := by
      simpa [Query.anyText_eq_decide] using silent
    simp [tokens, operands, encloses, Token.when,
      allTokens_eq_nil head (depth + 1) 0 written children silent]

theorem allTokens_eq_nil (parent : GroupHead) (depth position : Nat) (written : Bool)
    (queries : List Query) (silent : Query.anyText queries = false) :
    dialect.allTokens parent depth position written queries = [] := by
  match queries with
  | [] => rfl
  | query :: rest =>
    simp only [Query.anyText, Bool.or_eq_false_iff] at silent
    simp [allTokens, tokens_eq_nil parent depth position written query silent.1,
      allTokens_eq_nil parent depth _ _ rest silent.2]

end

theorem leaves_leafTokens (parent : GroupHead) (position : Nat) (written : Bool) (leaf : Leaf) :
    (dialect.leafTokens parent position written leaf).filterMap Token.leaf? = [leaf] := by
  rw [leafTokens, List.filterMap_append, Token.leaves_when]
  · rfl
  · rfl

mutual

theorem leaves_tokens (parent : GroupHead) (depth position : Nat) (written : Bool) (query : Query) :
    (dialect.tokens parent depth position written query).filterMap Token.leaf? =
      query.textLeaves := by
  match query with
  | .term test => simp only [tokens, leaves_leafTokens, Query.textLeaves]
  | .phrase p =>
    by_cases empty : p.terms.isEmpty = true
    · simp [tokens, Query.textLeaves, empty]
    · simp [tokens, Query.textLeaves, empty, leaves_leafTokens]
  | .range _ => rfl
  | .group head children =>
    simp only [tokens, List.filterMap_append, Query.textLeaves,
      leaves_allTokens head (depth + 1) 0 written children]
    rw [Token.leaves_when, Token.leaves_when, Token.leaves_when]
    · rw [List.nil_append, List.nil_append, List.append_nil]
    all_goals rfl

theorem leaves_allTokens (parent : GroupHead) (depth position : Nat) (written : Bool)
    (queries : List Query) :
    (dialect.allTokens parent depth position written queries).filterMap Token.leaf? =
      Query.allTextLeaves queries := by
  match queries with
  | [] => rfl
  | query :: rest =>
    simp only [allTokens, List.filterMap_append, Query.allTextLeaves,
      leaves_tokens parent depth position written query, leaves_allTokens parent depth _ _ rest]

end

private theorem silent_of_mem_when {condition : Bool} {token other : Token}
    (silent : other.leaf? = none)
    (member : token ∈ Token.when condition other) : token.leaf? = none := by
  cases condition with
  | false => nomatch member
  | true => exact List.mem_singleton.mp member ▸ silent

theorem leafTokens_cases {parent : GroupHead} {position : Nat} {written : Bool} {leaf : Leaf}
    {token : Token} (member : token ∈ dialect.leafTokens parent position written leaf) :
    token.leaf? = none ∨ ∃ first, token = dialect.tokenOf first leaf := by
  rcases List.mem_append.mp member with keyword | own
  · exact .inl (silent_of_mem_when rfl keyword)
  · exact .inr ⟨_, List.mem_singleton.mp own⟩

mutual

/-- Every token either writes no leaf or is how the dialect writes a leaf of the tree. -/
theorem tokens_cases {parent : GroupHead} {depth position : Nat} {written : Bool} {token : Token}
    (query : Query) (member : token ∈ dialect.tokens parent depth position written query) :
    token.leaf? = none ∨
      ∃ first, ∃ leaf ∈ query.textLeaves, token = dialect.tokenOf first leaf := by
  match query with
  | .term test =>
    refine (dialect.leafTokens_cases member).imp_right fun ⟨first, same⟩ => ?_
    exact ⟨first, _, List.mem_cons_self, same⟩
  | .phrase p =>
    simp only [tokens] at member
    split at member
    · nomatch member
    · rename_i filled
      refine (dialect.leafTokens_cases member).imp_right fun ⟨first, same⟩ => ?_
      exact ⟨first, .phrase p, by simp [Query.textLeaves, filled], same⟩
  | .range _ => nomatch member
  | .group head children =>
    simp only [tokens, List.mem_append] at member
    rcases member with ((keyword | opener) | inside) | closer
    · exact .inl (silent_of_mem_when rfl keyword)
    · exact .inl (silent_of_mem_when rfl opener)
    · exact allTokens_cases children inside
    · exact .inl (silent_of_mem_when rfl closer)

theorem allTokens_cases {parent : GroupHead} {depth position : Nat} {written : Bool}
    {token : Token} (queries : List Query)
    (member : token ∈ dialect.allTokens parent depth position written queries) :
    token.leaf? = none ∨
      ∃ first, ∃ leaf ∈ Query.allTextLeaves queries, token = dialect.tokenOf first leaf := by
  match queries with
  | [] => nomatch member
  | query :: rest =>
    simp only [Query.allTextLeaves, List.mem_append]
    rcases List.mem_append.mp member with member | member
    · refine (tokens_cases query member).imp_right fun ⟨first, leaf, inQuery, same⟩ => ?_
      exact ⟨first, leaf, .inl inQuery, same⟩
    · refine (allTokens_cases rest member).imp_right fun ⟨first, leaf, inRest, same⟩ => ?_
      exact ⟨first, leaf, .inr inRest, same⟩

end

end Dialect

/-- How a walk over these leaves ends: it stops at the first whose occurrence is not set. -/
def checked (leaves : List Leaf) (written : Written) : Except UnresolvedLeaf Written :=
  match leaves.find? fun leaf => !leaf.occur.isSet with
  | some leaf => .error ⟨leaf.body⟩
  | none => .ok written

theorem checked_nil (written : Written) : checked [] written = .ok written := rfl

theorem checked_bind {front back : List Leaf} {first last : Written}
    {next : Written → Except UnresolvedLeaf Written} (continues : next first = checked back last) :
    (checked front first >>= next) = checked (front ++ back) last := by
  unfold checked at *
  rw [List.find?_append]
  cases front.find? fun leaf => !leaf.occur.isSet with
  | some leaf => rfl
  | none => exact continues

theorem checked_map (leaves : List Leaf) (written : Written) (change : Written → Written) :
    (do return change (← checked leaves written)) = checked leaves (change written) := by
  unfold checked
  cases leaves.find? fun leaf => !leaf.occur.isSet <;> rfl

namespace Written

/-- What is written after more tokens, clauses and perhaps leaves. -/
def add (written : Written) (tokens : List Token) (clauses : List String) (leaf : Bool) :
    Written where
  text := tokens.foldl Token.attach written.text
  clauses := written.clauses ++ clauses
  leafWritten := written.leafWritten || leaf

private theorem add_add (written : Written) (front back : List Token) (clauses others : List String)
    (leaf another : Bool) :
    (written.add front clauses leaf).add back others another =
      written.add (front ++ back) (clauses ++ others) (leaf || another) := by
  simp [add, List.append_assoc, Bool.or_assoc]

private theorem leafWritten_add (written : Written) (tokens : List Token) (clauses : List String) :
    (written.add tokens clauses false).leafWritten = written.leafWritten :=
  Bool.or_false _

theorem writeIf_eq_add (written : Written) (condition : Bool) (token : Token) :
    written.writeIf condition token = written.add (Token.when condition token) [] false := by
  cases condition <;> simp [writeIf, write, add, Token.when]

end Written

namespace Dialect

variable (dialect : Dialect)

theorem writeLeaf_eq (parent : GroupHead) (position : Nat) (leaf : Leaf) (written : Written) :
    dialect.writeLeaf parent position leaf written =
      checked [leaf]
        (written.add (dialect.leafTokens parent position written.leafWritten leaf) [] true) := by
  unfold writeLeaf checked
  rw [Written.writeIf_eq_add]
  cases occur : leaf.occur <;>
    simp [occur, marker?, Occurrence.isSet, leafTokens, tokenOf, Written.add, Written.write]

mutual

theorem visit_eq (parent : GroupHead) (depth position : Nat) (query : Query) (written : Written) :
    dialect.visit parent depth position query written =
      checked query.textLeaves
        (written.add (dialect.tokens parent depth position written.leafWritten query)
          (query.ranges.map dialect.rangeClause) query.hasText) := by
  match query with
  | .term test =>
    simp only [visit, writeLeaf_eq, Query.textLeaves, tokens, Query.ranges, Query.hasText,
      List.map_nil]
  | .phrase p =>
    by_cases empty : p.terms.isEmpty = true
    · simp [visit, Query.textLeaves, tokens, Query.ranges, Query.hasText, empty, checked_nil,
        Written.add]
    · simp only [visit, Query.textLeaves, tokens, Query.ranges, Query.hasText, empty, writeLeaf_eq,
        List.map_nil, Bool.false_eq_true, ↓reduceIte, Bool.not_false]
  | .range r =>
    simp [visit, Query.textLeaves, tokens, Query.ranges, Query.hasText, checked_nil,
      Written.addClause, Written.add]
  | .group head children =>
    simp only [visit, Query.textLeaves, tokens, Query.ranges, Query.hasText,
      Written.writeIf_eq_add]
    rw [visitAll_eq head (depth + 1) 0 children]
    rw [checked_map]
    simp only [Written.leafWritten_add, Written.add_add, List.append_nil, List.nil_append,
      Bool.or_false, Bool.false_or]

theorem visitAll_eq (parent : GroupHead) (depth position : Nat) (queries : List Query)
    (written : Written) :
    dialect.visitAll parent depth position queries written =
      checked (Query.allTextLeaves queries)
        (written.add (dialect.allTokens parent depth position written.leafWritten queries)
          ((Query.allRanges queries).map dialect.rangeClause) (Query.anyText queries)) := by
  match queries with
  | [] =>
    simp [visitAll, Query.allTextLeaves, allTokens, Query.allRanges, Query.anyText, checked_nil,
      Written.add]
  | query :: rest =>
    simp only [visitAll, Query.allTextLeaves, allTokens, Query.allRanges, Query.anyText]
    rw [visit_eq parent depth position query written]
    apply checked_bind
    rw [visitAll_eq parent depth _ rest, Written.add_add, List.map_append]
    rfl

end

/-- A whole walk: it writes the tokens joined and the clauses of all ranges, or stops at the first
leaf whose occurrence is not set. -/
theorem write_eq (group : Group) :
    dialect.write group =
      checked group.toQuery.textLeaves
        ⟨Token.textOf (dialect.queryTokens group), group.toQuery.ranges.map dialect.rangeClause,
          group.toQuery.hasText⟩ := by
  rw [write, visit_eq, Written.add, Token.foldl_attach_empty, List.nil_append, Bool.false_or,
    queryTokens]

theorem write_of_resolved {group : Group}
    (resolved : ∀ leaf ∈ group.toQuery.textLeaves, leaf.occur.isSet) :
    dialect.write group =
      .ok ⟨Token.textOf (dialect.queryTokens group),
        group.toQuery.ranges.map dialect.rangeClause, group.toQuery.hasText⟩ := by
  have none : group.toQuery.textLeaves.find? (fun leaf => !leaf.occur.isSet) = none :=
    List.find?_eq_none.mpr fun leaf member => by simp [resolved leaf member]
  rw [write_eq, checked, none]

theorem render_of_resolved {search : Search}
    (resolved : ∀ leaf ∈ search.query.toQuery.textLeaves, leaf.occur.isSet) :
    dialect.render search =
      .ok ⟨Token.textOf (dialect.queryTokens search.query),
        dialect.connective.intercalate
          (search.query.toQuery.ranges.map dialect.rangeClause ++
            search.filter.toList.map dialect.filterClause)⟩ := by
  rw [render, dialect.write_of_resolved resolved]
  rfl

end Dialect

end Rendering

end SearchQuery
