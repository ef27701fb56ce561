import SearchQuery.Number.Numeral
import SearchQuery.Rendering.Leaf

/-!
What query text is written with: leaves, the keywords between them, and parentheses.
-/

namespace SearchQuery.Rendering

/-- What stands before a leaf. -/
inductive Marker where
  | required
  | excluded
  | bare
deriving DecidableEq, Repr

def Marker.text : Marker → String
  | .required => "+"
  | .excluded => "-"
  | .bare => ""

/-- What joins two operands. -/
inductive Keyword where
  | and
  | or
deriving DecidableEq, Repr

def Keyword.text : Keyword → String
  | .and => "AND"
  | .or => "OR"

/-- The keyword of a group, before it and between its children. -/
def Keyword.ofOccurrence : Occurrence → Keyword
  | .sometimes => .or
  | _ => .and

/-- A leaf as it is written: its marker, and the separator before its boost if it has one. -/
structure LeafToken where
  marker : Marker
  leaf : Leaf
  separator : Char
deriving DecidableEq

def LeafToken.boostText (token : LeafToken) : String :=
  match token.leaf.boost with
  | some boost => token.separator.toString ++ boost.plainText
  | none => ""

def LeafToken.text (token : LeafToken) : String :=
  token.marker.text ++ token.leaf.body ++ token.boostText

inductive Token where
  | leaf (token : LeafToken)
  | keyword (keyword : Keyword)
  | opener (negated : Bool)
  | closer (boost : Option Single)
deriving DecidableEq

namespace Token

def text : Token → String
  | .leaf token => token.text
  | .keyword k => k.text
  | .opener negated => if negated then "-(" else "("
  | .closer boost =>
    match boost with
    | some boost => ")^" ++ boost.plainText
    | none => ")"

/-- A text with a token added. A space comes between them unless the text is empty, but none before
a closing parenthesis. -/
def attach (text : String) (token : Token) : String :=
  match token with
  | .closer _ => text ++ token.text
  | _ => if text = "" then token.text else text ++ " " ++ token.text

end Token

end SearchQuery.Rendering
