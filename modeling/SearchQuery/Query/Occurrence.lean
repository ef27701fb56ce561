/-!
Whether a clause must match, may match or must not match.
-/

namespace SearchQuery

/-- `notSet` leaves the decision to the enclosing group. -/
inductive Occurrence where
  | always
  | sometimes
  | never
  | notSet
deriving DecidableEq, Repr

namespace Occurrence

def isSet (occur : Occurrence) : Bool :=
  occur != .notSet

/-- The occurrence itself, or `fallback` where it is not set. -/
def orElse (occur fallback : Occurrence) : Occurrence :=
  match occur with
  | .notSet => fallback
  | set => set

def all : List Occurrence :=
  [.always, .sometimes, .never, .notSet]

def name : Occurrence → String
  | .always => "always"
  | .sometimes => "sometimes"
  | .never => "never"
  | .notSet => "not_set"

def ofName? (name : String) : Option Occurrence :=
  all.find? fun occur => occur.name = name

end Occurrence

/-- The outermost group of a search, and the two ways to join clauses below it. -/
inductive GroupKind where
  | root
  | and
  | or
deriving DecidableEq, Repr

namespace GroupKind

/-- What a child of such a group gets where its own occurrence is not set. -/
def childrenOccur : GroupKind → Occurrence
  | .root => .always
  | .and => .always
  | .or => .sometimes

def all : List GroupKind :=
  [.root, .and, .or]

def name : GroupKind → String
  | .root => "root"
  | .and => "and"
  | .or => "or"

def ofName? (name : String) : Option GroupKind :=
  all.find? fun kind => kind.name = name

end GroupKind

end SearchQuery
