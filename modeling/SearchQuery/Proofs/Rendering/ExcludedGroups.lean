import SearchQuery.Proofs.Query.Exchange
import SearchQuery.Proofs.Query.Resolution
import SearchQuery.Proofs.Rendering.Structure

/-!
Excluded groups. All leaves of such a group stand in a negated pair of parentheses that holds
nothing else, wherever the group is (`excluded_group_is_enclosed`); only a group of the kind of
outermost groups writes no parentheses, and is not excluded.
-/

namespace SearchQuery

namespace Rendering

/-- Tokens in which every parenthesis has its partner. -/
inductive Balanced : List Token → Prop where
  | nil : Balanced []
  | plain {token : Token} (plain : token.isParenthesis = false) : Balanced [token]
  | append {front back : List Token} (first : Balanced front) (second : Balanced back) :
      Balanced (front ++ back)
  | enclosed {inside : List Token} (negated : Bool) (boost : Option Single)
      (balanced : Balanced inside) : Balanced (.opener negated :: inside ++ [.closer boost])

namespace Dialect

variable (dialect : Dialect)

private theorem balanced_when {token : Token} (plain : token.isParenthesis = false)
    (condition : Bool) : Balanced (Token.when condition token) := by
  cases condition with
  | false => exact .nil
  | true => exact .plain plain

private theorem balanced_leafTokens (parent : GroupHead) (position : Nat) (written : Bool)
    (leaf : Leaf) : Balanced (dialect.leafTokens parent position written leaf) :=
  .append (balanced_when rfl _) (.plain rfl)

mutual

theorem balanced_tokens (parent : GroupHead) (depth position : Nat) (written : Bool)
    (query : Query) : Balanced (dialect.tokens parent depth position written query) := by
  match query with
  | .term test => exact dialect.balanced_leafTokens parent position written (.test test)
  | .phrase p =>
    rw [tokens]
    split
    · exact .nil
    · exact dialect.balanced_leafTokens parent position written (.phrase p)
  | .range _ => exact .nil
  | .group head children =>
    have inside := balanced_allTokens head (depth + 1) 0 written children
    simp only [tokens, List.append_assoc]
    refine .append (balanced_when rfl _) ?_
    cases dialect.encloses head depth (children.countP Query.hasText) with
    | true => exact .enclosed (negates head) head.boost inside
    | false => exact .append .nil (.append inside .nil)

theorem balanced_allTokens (parent : GroupHead) (depth position : Nat) (written : Bool)
    (queries : List Query) : Balanced (dialect.allTokens parent depth position written queries) := by
  match queries with
  | [] => exact .nil
  | query :: rest =>
    exact .append (balanced_tokens parent depth position written query)
      (balanced_allTokens parent depth _ _ rest)

end

/-- The tokens of the query at the end of `path` stand together among these, and no other token is
placed at the query or below it. -/
def Gathers (placed : List Placed) (path : List Nat) (target : Query) : Prop :=
  ∃ before after, ∃ (parent : GroupHead) (position : Nat) (written : Bool),
    placed = before ++ dialect.placed parent path position written target ++ after ∧
      ∀ one ∈ before ++ after, ¬ path <+: one.path

section Around

variable {dialect} {placed : List Placed} {path : List Nat} {target : Query}

theorem Gathers.append (gathers : dialect.Gathers placed path target) {back : List Placed}
    (apart : ∀ one ∈ back, ¬ path <+: one.path) : dialect.Gathers (placed ++ back) path target := by
  obtain ⟨before, after, parent, position, written, rfl, others⟩ := gathers
  refine ⟨before, after ++ back, parent, position, written, List.append_assoc _ _ _, ?_⟩
  intro one member
  rw [← List.append_assoc] at member
  exact (List.mem_append.mp member).elim (others one) (apart one)

private theorem Gathers.prepend (gathers : dialect.Gathers placed path target) {front : List Placed}
    (apart : ∀ one ∈ front, ¬ path <+: one.path) : dialect.Gathers (front ++ placed) path target := by
  obtain ⟨before, after, parent, position, written, rfl, others⟩ := gathers
  refine ⟨front ++ before, after, parent, position, written, by simp, ?_⟩
  intro one member
  rw [List.append_assoc] at member
  exact (List.mem_append.mp member).elim (apart one) (others one)

end Around

mutual

theorem placed_gathers (parent : GroupHead) (path : List Nat) (position : Nat) (written : Bool)
    (query : Query) {target : Query} {way : List Nat} (found : query.at? way = some target) :
    dialect.Gathers (dialect.placed parent path position written query) (path ++ way) target := by
  match way, query with
  | [], query =>
    obtain rfl : query = target := by cases query <;> exact Option.some.inj found
    exact ⟨[], [], parent, position, written, by simp, by simp⟩
  | index :: way, .group head children =>
    have inside := allPlaced_gathers head path 0 0 written children found
    rw [Nat.zero_add] at inside
    -- The group's own tokens are placed above the end of the way.
    have own {tokens : List Token} :
        ∀ one ∈ tokens.map (Placed.mk path (.group head children)),
          ¬ path ++ index :: way <+: one.path := by
      intro one member longer
      obtain ⟨_, -, rfl⟩ := List.mem_map.mp member
      have length := longer.length_le
      simp only [List.length_append, List.length_cons] at length
      omega
    rw [placed]
    refine (inside.prepend fun one member => ?_).append own
    exact (List.mem_append.mp member).elim (own one) (own one)
  | _ :: _, .term _ | _ :: _, .phrase _ | _ :: _, .range _ => nomatch found

theorem allPlaced_gathers (parent : GroupHead) (path : List Nat) (index position : Nat)
    (written : Bool) (queries : List Query) {target : Query} {later : Nat} {way : List Nat}
    (found : Query.atIndex? later way queries = some target) :
    dialect.Gathers (dialect.allPlaced parent path index position written queries)
      (path ++ (index + later) :: way) target := by
  match queries, later with
  | [], _ => nomatch found
  | query :: rest, 0 =>
    have here := placed_gathers parent (path ++ [index]) position written query found
    rw [List.append_assoc, List.singleton_append] at here
    refine here.append ?_
    intro one there
    obtain ⟨-, further, other, same, -⟩ := allPlaced_sound dialect parent path _ _ _ rest one there
    rw [same, List.prefix_append_right_inj, List.cons_prefix_cons]
    omega
  | query :: rest, later + 1 =>
    have there := allPlaced_gathers parent path (index + 1)
      (if query.hasText then position + 1 else position) (written || query.hasText) rest found
    rw [Nat.add_assoc, Nat.add_comm 1] at there
    refine there.prepend ?_
    intro one here
    obtain ⟨-, other, same, -⟩ := placed_sound dialect parent _ _ _ query one here
    rw [same, List.append_assoc, List.singleton_append, List.prefix_append_right_inj,
      List.cons_prefix_cons]
    omega

end

private theorem kind_ne_root {head : GroupHead} (negated : negates head) :
    (head.kind != .root) = true := by
  rw [negates, Bool.and_eq_true] at negated
  exact negated.1

private theorem encloses_of_negates {head : GroupHead} (negated : negates head) {operands : Nat}
    (some : 0 < operands) (depth : Nat) : dialect.encloses head depth operands = true := by
  simp [encloses, kind_ne_root negated, some, negated]

/-- A group that is to be excluded writes at most a keyword outside its parentheses. -/
theorem placed_negated (parent : GroupHead) (path : List Nat) (position : Nat) (written : Bool)
    {head : GroupHead} {children : List Query} (negated : negates head)
    (text : Query.anyText children) :
    dialect.placed parent path position written (.group head children) =
      (Token.when (0 < position) (.keyword (.ofOccurrence head.occur))).map
          (Placed.mk path (.group head children)) ++
        ⟨path, .group head children, .opener true⟩ ::
          dialect.allPlaced head path 0 0 written children ++
        [⟨path, .group head children, .closer head.boost⟩] := by
  have operands : 0 < children.countP Query.hasText := by
    simpa [Query.anyText_eq_decide] using text
  simp [placed, dialect.encloses_of_negates negated operands, negated, kind_ne_root negated,
    operands, Token.when]

/-- A group of the kind of outermost groups leaves its place to its children. -/
theorem placed_outermost (parent : GroupHead) (path : List Nat) (position : Nat) (written : Bool)
    {head : GroupHead} (outermost : head.kind = .root) (children : List Query) :
    dialect.placed parent path position written (.group head children) =
      dialect.allPlaced head path 0 0 written children := by
  simp [placed, encloses, outermost, Token.when]

end Dialect

end Rendering

open Rendering

/-- All leaves of a group that is to be excluded stand in one negated pair of parentheses, which
holds nothing else, wherever the group is. Only where the group is of the kind of outermost groups
does it write no token of its own, so that its leaves stand as in a group that is not excluded. -/
theorem excluded_group_is_enclosed (backend : Backend) (search : Search)
    (valid : search.validate = .ok ()) {path : List Nat} {head : GroupHead} {children : List Query}
    (found : search.query.toQuery.at? path = some (.group head children))
    (never : head.occur = .never) (text : (Query.group head children).hasText) :
    ∃ rendered, backend.dialect.render search = .ok rendered ∧
      rendered.text =
        Token.textOf ((backend.dialect.queryPlaced search.query).map Placed.token) ∧
      (∀ one ∈ backend.dialect.queryPlaced search.query,
        search.query.toQuery.at? one.path = some one.source ∧ one.source.Writes one.token) ∧
      (head.kind ≠ .root → ∃ before inside after,
        backend.dialect.queryPlaced search.query =
          before ++ ⟨path, .group head children, .opener true⟩ :: inside ++
            ⟨path, .group head children, .closer head.boost⟩ :: after ∧
        Balanced (inside.map Placed.token) ∧
        (inside.map Placed.token).filterMap Token.leaf? = (Query.group head children).textLeaves ∧
        (∀ one ∈ inside, path <+: one.path) ∧
        ∀ one ∈ before ++ after, path <+: one.path → one.token.isLeaf = false) ∧
      (head.kind = .root → ∀ one ∈ backend.dialect.queryPlaced search.query, one.path ≠ path) := by
  have resolved := ((Search.validate_eq_ok_iff search).mp valid).leaves
  obtain ⟨before, after, parent, position, written, split, apart⟩ :=
    backend.dialect.placed_gathers search.query.toGroupHead [] 0 false search.query.toQuery found
  rw [List.nil_append] at split apart
  refine ⟨_, backend.dialect.render_of_resolved resolved, ?_, ?_, ?_, ?_⟩
  · rw [backend.dialect.tokens_queryPlaced]
  · intro one member
    exact (backend.dialect.queryPlaced_sound member).symm
  · intro nested
    have negated : Dialect.negates head := by simp [Dialect.negates, nested, never]
    rw [backend.dialect.placed_negated parent path position written negated text] at split
    refine ⟨before ++ (Token.when (0 < position) (.keyword (.ofOccurrence head.occur))).map
        (Placed.mk path (.group head children)),
      backend.dialect.allPlaced head path 0 0 written children, after, ?_, ?_, ?_, ?_, ?_⟩
    · rw [Dialect.queryPlaced, split]
      simp
    · rw [Dialect.tokens_allPlaced]
      exact Dialect.balanced_allTokens _ _ _ _ _ children
    · rw [Dialect.tokens_allPlaced, Dialect.leaves_allTokens, Query.textLeaves]
    · intro one member
      obtain ⟨-, further, way, same, -⟩ := Dialect.allPlaced_sound _ _ _ _ _ _ children one member
      exact ⟨_, same.symm⟩
    · intro one member below
      rcases List.mem_append.mp member with early | late
      · rcases List.mem_append.mp early with outside | keyword
        · exact absurd below (apart one (List.mem_append_left _ outside))
        · obtain ⟨token, present, rfl⟩ := List.mem_map.mp keyword
          rw [Token.eq_of_mem_when present]
          rfl
      · exact absurd below (apart one (List.mem_append_right _ late))
  · intro outermost one member same
    rw [Dialect.queryPlaced, split, Dialect.placed_outermost _ _ _ _ _ outermost] at member
    rcases List.mem_append.mp member with early | late
    · rcases List.mem_append.mp early with outside | inside
      · exact apart one (List.mem_append_left _ outside) (same ▸ List.prefix_refl _)
      · obtain ⟨-, further, way, longer, -⟩ :=
          Dialect.allPlaced_sound _ _ _ _ _ _ children one inside
        rw [same] at longer
        simpa using congrArg List.length longer
    · exact apart one (List.mem_append_right _ late) (same ▸ List.prefix_refl _)

/-- Red titles in a group that is to be excluded, of a kind of its own. -/
def excludedTitles (kind : GroupKind) : Search where
  query := ⟨⟨.root, .always, none⟩,
    [.group ⟨kind, .never, none⟩ [.term ⟨.term, ⟨"title", "red"⟩, none, .always⟩]]⟩
  sort := none
  filter := none

/-- Whatever the kind of the group, the document with this search is accepted. -/
theorem ofText_excludedTitles (kind : GroupKind) :
    Search.ofText (excludedTitles kind).toText = .ok (excludedTitles kind) := by
  have floats : (excludedTitles kind).FloatsReadBack :=
    ⟨⟨by simp [excludedTitles, Group.toQuery, Query.boosts, Query.allBoosts],
      by simp [excludedTitles, Group.toQuery, Query.ranges, Query.allRanges]⟩,
      by simp [excludedTitles]⟩
  have shallow : (excludedTitles kind).toJson.depth ≤ Json.depthLimit := by
    cases kind <;> decide +kernel
  rw [Search.ofText, Search.decode_toText_iff.mpr ⟨floats, shallow⟩]
  rfl

theorem excluded_group_is_enclosed_titles :
    ∃ rendered before inside after, azure.render (excludedTitles .and) = .ok rendered ∧
      rendered.text =
        Token.textOf ((azure.queryPlaced (excludedTitles .and).query).map Placed.token) ∧
      azure.queryPlaced (excludedTitles .and).query =
        before ++ ⟨[0], .group ⟨.and, .never, none⟩
            [.term ⟨.term, ⟨"title", "red"⟩, none, .always⟩], .opener true⟩ :: inside ++
          ⟨[0], .group ⟨.and, .never, none⟩
            [.term ⟨.term, ⟨"title", "red"⟩, none, .always⟩], .closer none⟩ :: after := by
  obtain ⟨rendered, render, same, _, enclosed, _⟩ :=
    excluded_group_is_enclosed .azure (excludedTitles .and) rfl
      (show (excludedTitles .and).query.toQuery.at? [0] = some _ from rfl) rfl rfl
  obtain ⟨before, inside, after, split, _⟩ := enclosed (by decide)
  exact ⟨rendered, before, inside, after, render, same, split⟩

/-- Excluding red titles asks for them, if the group is of the kind of outermost groups: neither
text has a parenthesis or a minus sign. -/
theorem excluded_titles_are_required :
    Search.ofText (excludedTitles .root).toText = .ok (excludedTitles .root) ∧
      (excludedTitles .root).query.toQuery.at? [0] =
        some (.group ⟨.root, .never, none⟩
          [.term ⟨.term, ⟨"title", "red"⟩, none, .always⟩]) ∧
      azure.render (excludedTitles .root) = .ok ⟨"+title:red", ""⟩ ∧
      solr.render (excludedTitles .root) = .ok ⟨"title:red", ""⟩ :=
  ⟨ofText_excludedTitles .root, rfl, by cbv, by cbv⟩

end SearchQuery
