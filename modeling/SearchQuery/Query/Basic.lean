import SearchQuery.Number.Numeral
import SearchQuery.Query.Occurrence

/-!
A query is a tree: tests on single terms, phrases and ranges, held by groups that join them.
Ranges are part of the tree but not of the query text.
-/

namespace SearchQuery

/-- A value looked for in a field. -/
structure Term where
  field : String
  value : String
deriving DecidableEq, Repr

/-- How the value of a term is compared with the values of its field. -/
inductive Matching where
  | term
  | prefixed
  | wildcard
  | keyword
  | fuzzy
deriving DecidableEq, Repr

/-- A test on one term. -/
structure TermTest where
  matching : Matching
  term : Term
  boost : Option Single
  occur : Occurrence
deriving DecidableEq

/-- Terms that follow one another with at most `slop` words between them. -/
structure Phrase where
  terms : List Term
  slop : UInt32
  boost : Option Single
  occur : Occurrence
deriving DecidableEq

/-- Lower and upper bound of a range. -/
inductive Interval where
  | int (lower upper : Int32)
  | long (lower upper : Int64)
  | double (lower upper : Double)
  | text (lower upper : String)
deriving DecidableEq

structure Range where
  field : String
  interval : Interval
  includeMin : Bool
  includeMax : Bool
  precisionStep : Option UInt32
  boost : Option Single
  occur : Occurrence
deriving DecidableEq

structure GroupHead where
  kind : GroupKind
  occur : Occurrence
  boost : Option Single
deriving DecidableEq

inductive Query where
  | term (test : TermTest)
  | phrase (phrase : Phrase)
  | range (range : Range)
  | group (head : GroupHead) (children : List Query)

/-- A group by itself. -/
structure Group extends GroupHead where
  children : List Query

def Group.toQuery (group : Group) : Query :=
  .group group.toGroupHead group.children

/-- A bound as it is written: digits stand bare, text needs quotes. -/
inductive Literal where
  | number (digits : String)
  | text (value : String)
deriving DecidableEq, Repr

def Interval.bounds : Interval → Literal × Literal
  | .int lower upper => (.number (toString lower.toInt), .number (toString upper.toInt))
  | .long lower upper => (.number (toString lower.toInt), .number (toString upper.toInt))
  | .double lower upper => (.number lower.exactText, .number upper.exactText)
  | .text lower upper => (.text lower, .text upper)

def Range.lower (range : Range) : Literal :=
  range.interval.bounds.1

def Range.upper (range : Range) : Literal :=
  range.interval.bounds.2

namespace Query

def occur : Query → Occurrence
  | .term test => test.occur
  | .phrase p => p.occur
  | .range r => r.occur
  | .group head _ => head.occur

def boost : Query → Option Single
  | .term test => test.boost
  | .phrase p => p.boost
  | .range r => r.boost
  | .group head _ => head.boost

def range? : Query → Option Range
  | .range r => some r
  | _ => none

def isRange (query : Query) : Bool :=
  query.range?.isSome

def group? : Query → Option Group
  | .group head children => some { head with children }
  | _ => none

mutual

/-- Whether a query contributes to query text: a test or a phrase with terms, or a group that holds
one at some depth. -/
def hasText : Query → Bool
  | .term _ => true
  | .phrase p => !p.terms.isEmpty
  | .range _ => false
  | .group _ children => anyText children

def anyText : List Query → Bool
  | [] => false
  | query :: rest => query.hasText || anyText rest

end

mutual

/-- The ranges of a query, depth first. -/
def ranges : Query → List Range
  | .range r => [r]
  | .group _ children => allRanges children
  | _ => []

def allRanges : List Query → List Range
  | [] => []
  | query :: rest => query.ranges ++ allRanges rest

end

theorem allRanges_eq_flatMap (queries : List Query) :
    allRanges queries = queries.flatMap ranges := by
  induction queries with
  | nil => rfl
  | cons query rest ih => rw [allRanges, ih, List.flatMap_cons]

mutual

/-- Fills in every occurrence that is not set: `fallback` at the top, below it what the kind of the
enclosing group gives its children. -/
def resolve (fallback : Occurrence) : Query → Query
  | .term test => .term { test with occur := test.occur.orElse fallback }
  | .phrase p => .phrase { p with occur := p.occur.orElse fallback }
  | .range r => .range { r with occur := r.occur.orElse fallback }
  | .group head children =>
    .group { head with occur := head.occur.orElse fallback }
      (resolveAll head.kind.childrenOccur children)

def resolveAll (fallback : Occurrence) : List Query → List Query
  | [] => []
  | query :: rest => query.resolve fallback :: resolveAll fallback rest

end

mutual

/-- The way from here to the first query, a group before its children, whose occurrence is not set,
as positions among siblings. -/
def unresolved? : Query → Option (List Nat)
  | .group head children => if head.occur.isSet then firstUnresolved? 0 children else some []
  | query => if query.occur.isSet then none else some []

def firstUnresolved? (position : Nat) : List Query → Option (List Nat)
  | [] => none
  | query :: rest =>
    match query.unresolved? with
    | some path => some (position :: path)
    | none => firstUnresolved? (position + 1) rest

end

end Query

end SearchQuery
