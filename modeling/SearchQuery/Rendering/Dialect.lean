import SearchQuery.Query.Search
import SearchQuery.Rendering.Token

/-!
The structure of a rendered query is the same for all backends; a dialect says what differs.
-/

namespace SearchQuery.Rendering

/-- What one backend writes its own way. -/
structure Dialect where
  /-- Whether a group with two or more operands at this depth stands in parentheses. The groups of
  the outermost group are at depth 1. -/
  parenthesizes : Nat → Bool
  /-- Whether the first leaf of all goes without its mark of being required. -/
  relaxesFirst : Bool
  /-- What separates a leaf from its boost. -/
  boostSeparator : LeafStyle → Char
  rangeClause : Range → String
  filterClause : Filter → String
  /-- What joins the clauses of the filter expression. -/
  connective : String

/-- A leaf was to be written whose occurrence is not set. -/
structure UnresolvedLeaf where
  body : String
deriving DecidableEq, Repr

def UnresolvedLeaf.message (leaf : UnresolvedLeaf) : String :=
  "unresolved occurrence reached serialization: " ++ leaf.body

namespace Dialect

variable (dialect : Dialect)

/-- The mark of a leaf with this occurrence, which is the first of all or not. -/
def marker? (first : Bool) : Occurrence → Option Marker
  | .always => some (if first && dialect.relaxesFirst then .bare else .required)
  | .never => some .excluded
  | .sometimes => some .bare
  | .notSet => none

def leafToken (marker : Marker) (leaf : Leaf) : Token :=
  .leaf ⟨marker, leaf, dialect.boostSeparator leaf.style⟩

/-- A group below the outermost one can be excluded as a whole. -/
def negates (head : GroupHead) : Bool :=
  head.kind != .root && head.occur == .never

/-- Whether a group with this many operands stands in parentheses. A negated one always does, since
its mark of exclusion stands before the parenthesis. -/
def encloses (head : GroupHead) (depth operands : Nat) : Bool :=
  head.kind != .root && 0 < operands &&
    (negates head || (1 < operands && dialect.parenthesizes depth))

end Dialect

end SearchQuery.Rendering
