import SearchQuery.Query.Basic
import SearchQuery.Rendering.Escape

/-!
Tests and phrases as leaves of query text: their text without occurrence and boost.
-/

namespace SearchQuery.Rendering

/-- What a boost is attached to. -/
inductive LeafStyle where
  | test (matching : Matching)
  | phrase
deriving DecidableEq, Repr

/-- The value without the stars at its end. -/
def dropStars (value : String) : String :=
  String.ofList (value.toList.reverse.dropWhile (· == '*')).reverse

/-- The value of a test: the start of a value ends in one bare star, a fuzzy one in a tilde. -/
def valueText (matching : Matching) (value : String) : String :=
  match matching with
  | .term => escapeTerm value
  | .prefixed => escapeTerm (dropStars value) ++ "*"
  | .wildcard => escapeWildcard value
  | .keyword => quote value
  | .fuzzy => escapeTerm value ++ "~"

def testBody (matching : Matching) (term : Term) : String :=
  term.field ++ ":" ++ valueText matching term.value

/-- Consecutive terms on the same field: the field and its values in order. -/
def runs : List Term → List (String × List String)
  | [] => []
  | term :: rest =>
    match runs rest with
    | (field, values) :: others =>
      if field = term.field then (field, term.value :: values) :: others
      else (term.field, [term.value]) :: (field, values) :: others
    | [] => [(term.field, [term.value])]

/-- One run as a quoted phrase, with its slop where there is any. -/
def runText (slop : UInt32) (run : String × List String) : String :=
  run.1 ++ ":" ++ quote (" ".intercalate run.2) ++
    if slop = 0 then "" else "~" ++ toString slop.toNat

/-- The runs of a phrase, in parentheses where there are several. -/
def phraseBody (terms : List Term) (slop : UInt32) : String :=
  match (runs terms).map (runText slop) with
  | [single] => single
  | several => "(" ++ " ".intercalate several ++ ")"

/-- What query text writes in one piece. -/
inductive Leaf where
  | test (test : TermTest)
  | phrase (phrase : Phrase)
deriving DecidableEq

namespace Leaf

def style : Leaf → LeafStyle
  | .test t => .test t.matching
  | .phrase _ => .phrase

def body : Leaf → String
  | .test t => testBody t.matching t.term
  | .phrase p => phraseBody p.terms p.slop

def boost : Leaf → Option Single
  | .test t => t.boost
  | .phrase p => p.boost

def occur : Leaf → Occurrence
  | .test t => t.occur
  | .phrase p => p.occur

end Leaf

end SearchQuery.Rendering
