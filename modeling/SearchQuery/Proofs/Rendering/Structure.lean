import SearchQuery.Proofs.Rendering.RangeClauses
import SearchQuery.Proofs.Rendering.Tokens

/-!
Both backends render the same structure. Main statement: three edits turn the tokens of one into
the tokens of the other, and range clauses come in pairs (`solr_edits_azure`).
-/

namespace SearchQuery

open Rendering

namespace Query

mutual

/-- The query at the end of a way that goes by positions among siblings. -/
def at? : List Nat → Query → Option Query
  | [], query => some query
  | index :: path, .group _ children => atIndex? index path children
  | _ :: _, _ => none

def atIndex? (index : Nat) (path : List Nat) : List Query → Option Query
  | [] => none
  | query :: rest =>
    match index with
    | 0 => query.at? path
    | index + 1 => atIndex? index path rest

end

end Query

namespace Query

/-- Whether a query writes a token: a leaf writes itself, a group its parentheses, and either may
have a keyword before it. -/
def Writes : Query → Token → Prop
  | _, .keyword _ => True
  | .term test, .leaf token => token.leaf = .test test
  | .phrase p, .leaf token => token.leaf = .phrase p
  | .group head _, .opener negated => negated = Dialect.negates head
  | .group head _, .closer boost => boost = head.boost
  | _, _ => False

end Query

namespace Rendering

/-- A token with the query that writes it, and the way to that query from the outermost group. -/
structure Placed where
  path : List Nat
  source : Query
  token : Token

namespace Token

def isLeaf (token : Token) : Bool :=
  token.leaf?.isSome

def isParenthesis : Token → Bool
  | .opener _ => true
  | .closer _ => true
  | _ => false

end Token

namespace LeafToken

/-- Without the mark of being required. -/
def relaxed (token : LeafToken) : LeafToken :=
  if token.leaf.occur = .always then { token with marker := .bare } else token

/-- A test that is not fuzzy, with a caret in place of the tilde before its boost. -/
def respelled (token : LeafToken) : LeafToken :=
  match token.leaf.style with
  | .phrase => token
  | .test .fuzzy => token
  | .test _ => if token.separator = '~' then { token with separator := '^' } else token

end LeafToken

/-- Whether a token is one of the parentheses around a group that stands directly in the outermost
one and is not excluded. -/
def Placed.isOuter (placed : Placed) : Bool :=
  placed.token.isParenthesis && placed.path.length == 1 && placed.source.occur != .never

def Token.respelled : Token → Token
  | .leaf token => .leaf token.respelled
  | other => other

/-- The first leaf of all goes without its mark of being required. -/
def relaxFirst : List Token → List Token
  | [] => []
  | .leaf token :: rest => .leaf token.relaxed :: rest
  | token :: rest => token :: relaxFirst rest

/-- Drops the outer parentheses and writes carets for tildes. -/
def respell (tokens : List Placed) : List Token :=
  (tokens.filter fun placed => !placed.isOuter).map fun placed => placed.token.respelled

namespace Dialect

variable (dialect : Dialect)

mutual

/-- The tokens of a child of `parent` that `position` operands come before, each with its place. -/
def placed (parent : GroupHead) (path : List Nat) (position : Nat) (written : Bool)
    (query : Query) : List Placed :=
  let here (tokens : List Token) := tokens.map (Placed.mk path query)
  match query with
  | .term test => here (dialect.leafTokens parent position written (.test test))
  | .phrase p =>
    if p.terms.isEmpty then []
    else here (dialect.leafTokens parent position written (.phrase p))
  | .range _ => []
  | .group head children =>
    let operands := children.countP Query.hasText
    let enclosed := dialect.encloses head path.length operands
    here (Token.when (0 < operands && head.kind != .root && 0 < position)
        (.keyword (.ofOccurrence head.occur))) ++
      here (Token.when enclosed (.opener (negates head))) ++
      allPlaced head path 0 0 written children ++
      here (Token.when enclosed (.closer head.boost))

/-- The tokens of children of the group at the end of `path`, of which `index` have gone before. -/
def allPlaced (parent : GroupHead) (path : List Nat) (index position : Nat) (written : Bool) :
    List Query → List Placed
  | [] => []
  | query :: rest =>
    placed parent (path ++ [index]) position written query ++
      allPlaced parent path (index + 1) (if query.hasText then position + 1 else position)
        (written || query.hasText) rest

end

/-- The tokens of a whole query with their places. -/
def queryPlaced (group : Group) : List Placed :=
  dialect.placed group.toGroupHead [] 0 false group.toQuery

mutual

theorem tokens_placed (parent : GroupHead) (path : List Nat) (position : Nat) (written : Bool)
    (query : Query) :
    (dialect.placed parent path position written query).map Placed.token =
      dialect.tokens parent path.length position written query := by
  match query with
  | .term test => simp [placed, tokens, Function.comp_def]
  | .phrase p =>
    by_cases empty : p.terms.isEmpty = true
    · simp [placed, tokens, empty]
    · simp [placed, tokens, empty, Function.comp_def]
  | .range _ => simp [placed, tokens]
  | .group head children =>
    simp [placed, tokens, Function.comp_def, tokens_allPlaced head path 0 0 written children]

theorem tokens_allPlaced (parent : GroupHead) (path : List Nat) (index position : Nat)
    (written : Bool) (queries : List Query) :
    (dialect.allPlaced parent path index position written queries).map Placed.token =
      dialect.allTokens parent (path.length + 1) position written queries := by
  match queries with
  | [] => simp [allPlaced, allTokens]
  | query :: rest =>
    simp [allPlaced, allTokens, tokens_placed parent (path ++ [index]) position written query,
      tokens_allPlaced parent path (index + 1) _ _ rest]

end

end Dialect

theorem respell_append (front back : List Placed) :
    respell (front ++ back) = respell front ++ respell back := by
  simp [respell]

/-- Tokens that no outer parenthesis is among stay, but for their separators. -/
theorem respell_map (path : List Nat) (query : Query) (tokens : List Token)
    (inner : ∀ token ∈ tokens, ¬ (Placed.mk path query token).isOuter) :
    respell (tokens.map (Placed.mk path query)) = tokens.map Token.respelled := by
  have kept : (tokens.map (Placed.mk path query)).filter (fun placed => !placed.isOuter) =
      tokens.map (Placed.mk path query) := by
    simpa using inner
  rw [respell, kept, List.map_map]
  rfl

private theorem isLeaf_respelled (token : Token) : token.respelled.isLeaf = token.isLeaf := by
  cases token <;> rfl

/-- The first leaf is behind tokens that write no leaf. -/
theorem relaxFirst_append_of_silent {front : List Token} (silent : front.any Token.isLeaf = false)
    (back : List Token) : relaxFirst (front ++ back) = front ++ relaxFirst back := by
  induction front with
  | nil => rfl
  | cons token rest ih =>
    simp only [List.any_cons, Bool.or_eq_false_iff] at silent
    cases token with
    | leaf token => simp [Token.isLeaf, Token.leaf?] at silent
    | keyword k => simp [relaxFirst, ih silent.2]
    | opener negated => simp [relaxFirst, ih silent.2]
    | closer boost => simp [relaxFirst, ih silent.2]

/-- The first leaf is among tokens that write one. -/
theorem relaxFirst_append_of_leaf {front : List Token} (leaf : front.any Token.isLeaf = true)
    (back : List Token) : relaxFirst (front ++ back) = relaxFirst front ++ back := by
  induction front with
  | nil => simp at leaf
  | cons token rest ih =>
    cases token with
    | leaf token => rfl
    | keyword k => simpa [relaxFirst] using ih (by simpa [Token.isLeaf, Token.leaf?] using leaf)
    | opener negated =>
      simpa [relaxFirst] using ih (by simpa [Token.isLeaf, Token.leaf?] using leaf)
    | closer boost => simpa [relaxFirst] using ih (by simpa [Token.isLeaf, Token.leaf?] using leaf)

/-- What the edits make of tokens that come after leaves or not. -/
def edit (written : Bool) (tokens : List Placed) : List Token :=
  if written then respell tokens else relaxFirst (respell tokens)

private theorem any_isLeaf_respell (tokens : List Placed) :
    (respell tokens).any Token.isLeaf = (tokens.map Placed.token).any Token.isLeaf := by
  induction tokens with
  | nil => rfl
  | cons placed rest ih =>
    rw [← List.singleton_append, respell_append, List.any_append, ih, List.map_append,
      List.any_append]
    congr 1
    obtain ⟨path, source, token⟩ := placed
    cases outer : (Placed.mk path source token).isOuter with
    | true => cases token <;> simp_all [respell, Placed.isOuter, Token.isParenthesis, Token.isLeaf,
        Token.leaf?]
    | false => simp [respell, outer, isLeaf_respelled]

theorem edit_append (written : Bool) (front back : List Placed) :
    edit written (front ++ back) =
      edit written front ++
        edit (written || (front.map Placed.token).any Token.isLeaf) back := by
  rw [edit, edit, edit, respell_append, ← any_isLeaf_respell]
  cases written with
  | true => rfl
  | false =>
    cases leaf : (respell front).any Token.isLeaf with
    | true => simpa using relaxFirst_append_of_leaf leaf (respell back)
    | false =>
      have nothing : relaxFirst (respell front) = respell front := by
        simpa [relaxFirst] using relaxFirst_append_of_silent leaf []
      simpa [nothing] using relaxFirst_append_of_silent leaf (respell back)

private theorem edit_of_silent (written : Bool) {tokens : List Placed}
    (silent : (tokens.map Placed.token).any Token.isLeaf = false) :
    edit written tokens = respell tokens := by
  cases written with
  | true => rfl
  | false =>
    rw [← any_isLeaf_respell] at silent
    simpa [edit, relaxFirst] using relaxFirst_append_of_silent silent []

private theorem edit_append_of_silent (written : Bool) {front : List Placed}
    (silent : (front.map Placed.token).any Token.isLeaf = false) (back : List Placed) :
    edit written (front ++ back) = respell front ++ edit written back := by
  rw [edit_append, edit_of_silent written silent, silent, Bool.or_false]

theorem Token.eq_of_mem_when {condition : Bool} {token other : Token}
    (member : other ∈ Token.when condition token) : other = token := by
  cases condition with
  | false => nomatch member
  | true => exact List.mem_singleton.mp member

private theorem any_isLeaf_when (condition : Bool) (path : List Nat) (query : Query) {token : Token}
    (silent : token.isLeaf = false) :
    (((Token.when condition token).map (Placed.mk path query)).map Placed.token).any Token.isLeaf =
      false := by
  cases condition <;> simp [Token.when, silent]

private theorem respell_keyword (condition : Bool) (path : List Nat) (query : Query)
    (keyword : Keyword) :
    respell ((Token.when condition (.keyword keyword)).map (Placed.mk path query)) =
      Token.when condition (.keyword keyword) := by
  cases condition <;> rfl

namespace Dialect

private theorem any_isLeaf_tokens (dialect : Dialect) (parent : GroupHead) (depth position : Nat)
    (written : Bool) (query : Query) :
    (dialect.tokens parent depth position written query).any Token.isLeaf = query.hasText := by
  rw [Bool.eq_iff_iff, Query.hasText_iff, ← dialect.leaves_tokens parent depth position written,
    ne_eq, List.filterMap_eq_nil_iff]
  simp [Token.isLeaf, Option.isSome_iff_ne_none]

private theorem mem_leafTokens {dialect : Dialect} {parent : GroupHead} {position : Nat}
    {written : Bool} {leaf : Leaf} {token : Token}
    (member : token ∈ dialect.leafTokens parent position written leaf) :
    token = .keyword (.ofOccurrence parent.occur) ∨ token = dialect.tokenOf (!written) leaf :=
  (List.mem_append.mp member).imp Token.eq_of_mem_when List.mem_singleton.mp

/-- The separators of the other backend are carets. -/
theorem respelled_tokenOf (first : Bool) (leaf : Leaf) :
    (azure.tokenOf first leaf).respelled =
      .leaf ⟨(azure.marker? first leaf.occur).getD .bare, leaf, '^'⟩ := by
  cases leaf with
  | phrase p => rfl
  | test test =>
    obtain ⟨matching, term, boost, occur⟩ := test
    cases matching <;> rfl

theorem edit_leafTokens (parent : GroupHead) (path : List Nat) (position : Nat) (written : Bool)
    (query : Query) (leaf : Leaf) :
    edit written ((azure.leafTokens parent position written leaf).map (Placed.mk path query)) =
      solr.leafTokens parent position written leaf := by
  have inner : ∀ token ∈ azure.leafTokens parent position written leaf,
      ¬ (Placed.mk path query token).isOuter := by
    intro token member
    rcases mem_leafTokens member with keyword | own
    · simp [keyword, Placed.isOuter, Token.isParenthesis]
    · simp [own, Placed.isOuter, Token.isParenthesis, tokenOf, leafToken]
  rw [edit, respell_map path query _ inner]
  unfold leafTokens
  rw [List.map_append, List.map_singleton, respelled_tokenOf]
  cases decide (0 < position) && parent.kind != .root <;> cases written <;>
    cases occur : leaf.occur <;>
      simp [Token.when, Token.respelled, relaxFirst, LeafToken.relaxed, tokenOf, leafToken, marker?,
        occur, azure, solr]

/-- One backend leaves out the parentheses of the outer groups, unless they are excluded. -/
theorem encloses_solr (head : GroupHead) (depth operands : Nat) :
    solr.encloses head depth operands =
      (azure.encloses head depth operands && !(depth == 1 && head.occur != .never)) := by
  cases kind : head.kind != .root with
  | false => simp [encloses, kind]
  | true =>
    cases never : head.occur != .never with
    | false =>
      have negated : negates head = true := by simp_all [negates]
      simp [encloses, kind, negated]
    | true =>
      have kept : negates head = false := by simp_all [negates]
      match depth with
      | 0 => simp [encloses, kept, azure, solr]
      | 1 => simp [encloses, kept, azure, solr]
      | depth + 2 => simp [encloses, kept, azure, solr]

private theorem respell_parenthesis (path : List Nat) (head : GroupHead) (children : List Query)
    (operands : Nat) {token : Token} (parenthesis : token.isParenthesis) :
    respell ((Token.when (azure.encloses head path.length operands) token).map
        (Placed.mk path (.group head children))) =
      Token.when (solr.encloses head path.length operands) token := by
  have same : token.respelled = token := by
    cases token with
    | leaf token => nomatch parenthesis
    | keyword k => rfl
    | opener negated => rfl
    | closer boost => rfl
  have outer : (Placed.mk path (.group head children) token).isOuter =
      (path.length == 1 && head.occur != .never) := by
    simp [Placed.isOuter, parenthesis, Query.occur]
  rw [encloses_solr]
  cases azure.encloses head path.length operands <;>
    cases kept : path.length == 1 && head.occur != .never <;>
    simp only [Token.when, respell, List.map_cons, List.map_nil, List.filter_cons, List.filter_nil,
      outer, kept, same, Bool.not_true, Bool.not_false, Bool.and_true, Bool.and_false,
      Bool.false_eq_true, ↓reduceIte]

mutual

/-- The edits of what one backend writes for a query are what the other writes for it. -/
theorem edit_placed (parent : GroupHead) (path : List Nat) (position : Nat) (written : Bool)
    (query : Query) :
    edit written (azure.placed parent path position written query) =
      solr.tokens parent path.length position written query := by
  match query with
  | .term test =>
    simp only [placed, tokens, edit_leafTokens]
  | .phrase p =>
    by_cases empty : p.terms.isEmpty = true
    · cases written <;> simp [placed, tokens, empty, edit, respell, relaxFirst]
    · simp [placed, tokens, empty, edit_leafTokens]
  | .range _ => cases written <;> simp [placed, tokens, edit, respell, relaxFirst]
  | .group head children =>
    have inner := edit_allPlaced head path 0 0 written children
    simp only [placed, tokens, List.append_assoc]
    rw [edit_append_of_silent written (any_isLeaf_when _ path _ rfl),
      edit_append_of_silent written (any_isLeaf_when _ path _ rfl), edit_append,
      edit_of_silent _ (any_isLeaf_when _ path _ rfl), inner, respell_keyword,
      respell_parenthesis path head children _ rfl, respell_parenthesis path head children _ rfl]

theorem edit_allPlaced (parent : GroupHead) (path : List Nat) (index position : Nat)
    (written : Bool) (queries : List Query) :
    edit written (azure.allPlaced parent path index position written queries) =
      solr.allTokens parent (path.length + 1) position written queries := by
  match queries with
  | [] => cases written <;> simp [allPlaced, allTokens, edit, respell, relaxFirst]
  | query :: rest =>
    have first := edit_placed parent (path ++ [index]) position written query
    rw [List.length_append, List.length_singleton] at first
    rw [allPlaced, allTokens, edit_append, tokens_placed, any_isLeaf_tokens, first,
      edit_allPlaced parent path (index + 1) _ _ rest]

end

/-- The tokens of the second backend are the edited ones of the first. -/
theorem queryTokens_solr (group : Group) :
    solr.queryTokens group = relaxFirst (respell (azure.queryPlaced group)) :=
  (edit_placed group.toGroupHead [] 0 false group.toQuery).symm

/-- Only boosted tests that are not fuzzy are written in another way. -/
theorem text_respelled_ne_iff (first : Bool) (leaf : Leaf) :
    (azure.tokenOf first leaf).respelled.text ≠ (azure.tokenOf first leaf).text ↔
      leaf.boost.isSome ∧
        leaf.style ∈ [LeafStyle.test .term, .test .prefixed, .test .wildcard, .test .keyword] := by
  rw [respelled_tokenOf, tokenOf, leafToken, Token.text, Token.text, LeafToken.text, LeafToken.text,
    ne_eq, String.append_right_inj, LeafToken.boostText, LeafToken.boostText]
  cases leaf with
  | phrase p =>
    cases boost : p.boost <;> simp [Leaf.boost, Leaf.style, boost, azure, azureBoostSeparator]
  | test test =>
    obtain ⟨matching, term, boost, occur⟩ := test
    cases boost <;> cases matching <;>
      simp [Leaf.boost, Leaf.style, azure, azureBoostSeparator, String.append_left_inj]

theorem writes_leafTokens (dialect : Dialect) (parent : GroupHead) (position : Nat) (written : Bool)
    {query : Query} {leaf : Leaf}
    (own : ∀ token : LeafToken, token.leaf = leaf → query.Writes (.leaf token)) :
    ∀ token ∈ dialect.leafTokens parent position written leaf, query.Writes token := by
  intro token member
  rcases mem_leafTokens member with keyword | last
  · subst keyword
    cases query <;> trivial
  · rw [last]
    exact own _ rfl

mutual

/-- The way of a token leads to the query that writes it. -/
theorem placed_sound (dialect : Dialect) (parent : GroupHead) (path : List Nat)
    (position : Nat) (written : Bool) (query : Query) (one : Placed)
    (member : one ∈ dialect.placed parent path position written query) :
    one.source.Writes one.token ∧
      ∃ way, one.path = path ++ way ∧ query.at? way = some one.source := by
  have here {tokens : List Token} (writes : ∀ token ∈ tokens, query.Writes token)
      (member : one ∈ tokens.map (Placed.mk path query)) :
      one.source.Writes one.token ∧
        ∃ way, one.path = path ++ way ∧ query.at? way = some one.source := by
    obtain ⟨token, present, rfl⟩ := List.mem_map.mp member
    exact ⟨writes token present, [], (List.append_nil path).symm, by simp [Query.at?]⟩
  have around {condition : Bool} {token : Token}
      (member : one ∈ (Token.when condition token).map (Placed.mk path query))
      (writes : query.Writes token) :
      one.source.Writes one.token ∧
        ∃ way, one.path = path ++ way ∧ query.at? way = some one.source :=
    here (fun _ present => Token.eq_of_mem_when present ▸ writes) member
  match query with
  | .term test =>
    refine here (dialect.writes_leafTokens parent position written fun _ same => same) ?_
    simpa only [placed] using member
  | .phrase p =>
    simp only [placed] at member
    split at member
    · nomatch member
    · exact here (dialect.writes_leafTokens parent position written fun _ same => same) member
  | .range _ => simp [placed] at member
  | .group head children =>
    simp only [placed, List.mem_append] at member
    rcases member with ((keyword | opener) | inside) | closer
    · exact around keyword trivial
    · exact around opener rfl
    · obtain ⟨writes, index, way, same, found⟩ :=
        allPlaced_sound dialect head path 0 0 written children one inside
      exact ⟨writes, (0 + index) :: way, same, by simpa [Query.at?] using found⟩
    · exact around closer rfl

theorem allPlaced_sound (dialect : Dialect) (parent : GroupHead) (path : List Nat)
    (index position : Nat) (written : Bool) (queries : List Query) (one : Placed)
    (member : one ∈ dialect.allPlaced parent path index position written queries) :
    one.source.Writes one.token ∧
      ∃ later way, one.path = path ++ (index + later) :: way ∧
        Query.atIndex? later way queries = some one.source := by
  match queries with
  | [] => simp [allPlaced] at member
  | query :: rest =>
    rw [allPlaced] at member
    rcases List.mem_append.mp member with first | others
    · obtain ⟨writes, way, same, found⟩ :=
        placed_sound dialect parent _ position written query one first
      exact ⟨writes, 0, way, by simpa using same, by simpa [Query.atIndex?] using found⟩
    · obtain ⟨writes, later, way, same, found⟩ :=
        allPlaced_sound dialect parent path (index + 1) _ _ rest one others
      refine ⟨writes, later + 1, way, ?_, by simpa [Query.atIndex?] using found⟩
      rw [same, Nat.add_assoc, Nat.add_comm 1 later]

end

theorem queryPlaced_sound (dialect : Dialect) {group : Group} {one : Placed}
    (member : one ∈ dialect.queryPlaced group) :
    one.source.Writes one.token ∧ group.toQuery.at? one.path = some one.source := by
  obtain ⟨writes, way, same, found⟩ :=
    dialect.placed_sound group.toGroupHead [] 0 false group.toQuery one member
  rw [same, List.nil_append]
  exact ⟨writes, found⟩

theorem tokens_queryPlaced (dialect : Dialect) (group : Group) :
    (dialect.queryPlaced group).map Placed.token = dialect.queryTokens group :=
  dialect.tokens_placed group.toGroupHead [] 0 false group.toQuery

end Dialect

end Rendering

/-- The tokens of one backend are those of the other after three edits: the parentheses of the
outer groups are dropped, the first leaf loses its mark of being required, and carets take the place
of tildes, which changes boosted tests only. The clauses of both come from the same ranges, and
either tells as much of its range as the other. -/
theorem solr_edits_azure (search : Search)
    (resolved : ∀ leaf ∈ search.query.toQuery.textLeaves, leaf.occur.isSet) :
    ∃ first second : Written,
      azure.write search.query = .ok first ∧ solr.write search.query = .ok second ∧
      (azure.render search).map Rendered.text = .ok first.text ∧
      (solr.render search).map Rendered.text = .ok second.text ∧
      first.text = Token.textOf ((azure.queryPlaced search.query).map Placed.token) ∧
      second.text = Token.textOf (relaxFirst (respell (azure.queryPlaced search.query))) ∧
      (∀ placed ∈ azure.queryPlaced search.query,
        search.query.toQuery.at? placed.path = some placed.source ∧
          placed.source.Writes placed.token ∧
          ∀ token, placed.token = .leaf token →
            (placed.token.respelled.text ≠ placed.token.text ↔ token.leaf.boost.isSome ∧
              token.leaf.style ∈
                [LeafStyle.test .term, .test .prefixed, .test .wildcard, .test .keyword])) ∧
      first.clauses.length = second.clauses.length ∧
      ∀ (i : Nat) (clause other : String),
        first.clauses[i]? = some clause → second.clauses[i]? = some other →
        ∃ range, search.query.toQuery.ranges[i]? = some range ∧
          clause = azureRangeClause range ∧ other = solrRangeClause range ∧
          ∀ twin : Range, twin.field = range.field → twin.interval = range.interval →
            (azureRangeClause twin = clause ↔ twin.sense = range.sense) ∧
              (solrRangeClause twin = other ↔ twin.sense = range.sense) := by
  refine ⟨_, _, azure.write_of_resolved resolved, solr.write_of_resolved resolved, ?_, ?_, ?_, ?_,
    ?_, ?_, ?_⟩
  · rw [azure.render_of_resolved resolved]
    rfl
  · rw [solr.render_of_resolved resolved]
    rfl
  · rw [azure.tokens_queryPlaced]
  · rw [← Dialect.queryTokens_solr]
  · intro placed member
    obtain ⟨writes, found⟩ := azure.queryPlaced_sound member
    refine ⟨found, writes, ?_⟩
    intro token same
    have present : placed.token ∈ azure.queryTokens search.query := by
      rw [← azure.tokens_queryPlaced]
      exact List.mem_map_of_mem member
    rcases azure.tokens_cases _ present with silent | ⟨marked, leaf, _, written⟩
    · rw [same] at silent
      nomatch silent
    · have leaves : token.leaf = leaf := by
        rw [same] at written
        cases written
        rfl
      rw [written, leaves]
      exact Dialect.text_respelled_ne_iff marked leaf
  · simp
  · intro i clause other firstClause secondClause
    simp only [List.getElem?_map, Option.map_eq_some_iff] at firstClause secondClause
    obtain ⟨range, found, rfl⟩ := firstClause
    obtain ⟨same, again, rfl⟩ := secondClause
    cases found.symm.trans again
    refine ⟨range, found, rfl, rfl, ?_⟩
    intro twin field interval
    exact ⟨azureRangeClause_eq_iff field interval, solrRangeClause_eq_iff field interval⟩

/-- The first leaf stands behind two openers; the outer groups are one of alternatives and one that
is excluded; boosts stand on leaves of three kinds and on groups. -/
def layeredSearch : Search where
  query := ⟨⟨.root, .always, none⟩, [
    .group ⟨.or, .sometimes, Binary.ofText? "2"⟩ [
      .group ⟨.and, .always, Binary.ofText? "3"⟩ [
        .term ⟨.prefixed, ⟨"title", "red"⟩, Binary.ofText? "1.5", .always⟩,
        .term ⟨.fuzzy, ⟨"title", "wine"⟩, Binary.ofText? "4", .always⟩],
      .range ⟨"year", .int 1990 2000, true, false, none, none, .never⟩,
      .term ⟨.keyword, ⟨"title", "ale"⟩, none, .always⟩],
    .group ⟨.and, .never, none⟩ [
      .term ⟨.term, ⟨"author", "doe"⟩, none, .always⟩,
      .phrase ⟨[⟨"body", "new"⟩, ⟨"body", "york"⟩], 2, Binary.ofText? "0.5", .always⟩]]⟩
  sort := none
  filter := none

theorem solr_edits_azure_layered :
    (∀ leaf ∈ layeredSearch.query.toQuery.textLeaves, leaf.occur.isSet) ∧
      ∃ first second : Written, azure.write layeredSearch.query = .ok first ∧
        solr.write layeredSearch.query = .ok second ∧
        first.text = Token.textOf ((azure.queryPlaced layeredSearch.query).map Placed.token) ∧
        second.text =
          Token.textOf (relaxFirst (respell (azure.queryPlaced layeredSearch.query))) ∧
        first.clauses.length = second.clauses.length := by
  have resolved : ∀ leaf ∈ layeredSearch.query.toQuery.textLeaves, leaf.occur.isSet := by decide
  obtain ⟨first, second, walk, other, _, _, text, edited, _, lengths, _⟩ :=
    solr_edits_azure layeredSearch resolved
  exact ⟨resolved, first, second, walk, other, text, edited, lengths⟩

example : ((azure.render layeredSearch).map Rendered.text).toOption =
    some ("( ( +title:red*~1.5 AND +title:wine~^4)^3 OR +title:\"ale\")^2 " ++
      "AND -( +author:doe AND +body:\"new york\"~2^0.5)") := by decide +kernel

example : ((solr.render layeredSearch).map Rendered.text).toOption =
    some ("( title:red*^1.5 AND +title:wine~^4)^3 OR +title:\"ale\" " ++
      "AND -( +author:doe AND +body:\"new york\"~2^0.5)") := by decide +kernel

end SearchQuery
