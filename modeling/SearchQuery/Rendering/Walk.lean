import SearchQuery.Rendering.Dialect

/-!
A query is rendered in one walk over its tree. Leaves, keywords and parentheses are written to the
query text as they come; ranges go to the filter expression from wherever they stand.
-/

namespace SearchQuery.Rendering

/-- What a walk has written so far. -/
structure Written where
  text : String := ""
  /-- A clause for each range that the walk came by. -/
  clauses : List String := []
  leafWritten : Bool := false
deriving DecidableEq, Repr

namespace Written

def write (written : Written) (token : Token) : Written :=
  { written with text := Token.attach written.text token }

def writeIf (written : Written) (condition : Bool) (token : Token) : Written :=
  if condition then written.write token else written

def addClause (written : Written) (clause : String) : Written :=
  { written with clauses := written.clauses ++ [clause] }

end Written

/-- Query text and filter expression of a search. -/
structure Rendered where
  text : String
  filter : String
deriving DecidableEq, Repr

namespace Dialect

variable (dialect : Dialect)

/-- Writes a leaf that `position` operands of `parent` come before. Between two operands stands the
keyword of the group around them; the outermost group writes none. -/
def writeLeaf (parent : GroupHead) (position : Nat) (leaf : Leaf) (written : Written) :
    Except UnresolvedLeaf Written :=
  let led := written.writeIf (0 < position && parent.kind != .root)
    (.keyword (.ofOccurrence parent.occur))
  match dialect.marker? (!written.leafWritten) leaf.occur with
  | some marker => .ok { led.write (dialect.leafToken marker leaf) with leafWritten := true }
  | none => .error ⟨leaf.body⟩

mutual

/-- Visits a child of `parent` that `position` operands come before. A group writes its own keyword
before itself, and parentheses around itself where the dialect wants them. -/
def visit (parent : GroupHead) (depth position : Nat) :
    Query → Written → Except UnresolvedLeaf Written
  | .term test, written => dialect.writeLeaf parent position (.test test) written
  | .phrase p, written =>
    if p.terms.isEmpty then .ok written
    else dialect.writeLeaf parent position (.phrase p) written
  | .range r, written => .ok (written.addClause (dialect.rangeClause r))
  | .group head children, written => do
    let operands := children.countP Query.hasText
    let enclosed := dialect.encloses head depth operands
    let led := written.writeIf (0 < operands && head.kind != .root && 0 < position)
      (.keyword (.ofOccurrence head.occur))
    let opened := led.writeIf enclosed (.opener (negates head))
    let filled ← visitAll head (depth + 1) 0 children opened
    return filled.writeIf enclosed (.closer head.boost)

/-- Visits children of `parent` in order and counts the operands among them. -/
def visitAll (parent : GroupHead) (depth position : Nat) :
    List Query → Written → Except UnresolvedLeaf Written
  | [], written => .ok written
  | query :: rest, written => do
    let next ← visit parent depth position query written
    visitAll parent depth (if query.hasText then position + 1 else position) rest next

end

/-- Walks over the outermost group, which is at depth 0. -/
def write (group : Group) : Except UnresolvedLeaf Written :=
  dialect.visit group.toGroupHead 0 0 group.toQuery {}

/-- Renders a search. Its own filter comes after the clauses of the ranges. -/
def render (search : Search) : Except UnresolvedLeaf Rendered := do
  let written ← dialect.write search.query
  let clauses := written.clauses ++ search.filter.toList.map dialect.filterClause
  return ⟨written.text, dialect.connective.intercalate clauses⟩

end Dialect

end SearchQuery.Rendering
