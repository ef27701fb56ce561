import SearchQuery.Text.Blank

/-!
Values inside query text. A backslash takes the meaning from the operator or blank after it; in a
quoted value only the quote and the backslash have one.
-/

namespace SearchQuery.Rendering

def isOperator (c : Char) : Bool :=
  ['+', '-', '&', '|', '!', '(', ')', '{', '}', '[', ']', '^', '"', '~', '*', '?', ':', '\\',
    '/'].contains c

def isWildcard (c : Char) : Bool :=
  c == '*' || c == '?'

/-- One character of a value. With `wildcards`, `*` and `?` keep their meaning. -/
def escapeChar (wildcards : Bool) (c : Char) : List Char :=
  if wildcards && isWildcard c then [c]
  else if isOperator c || Text.isBlank c then ['\\', c]
  else [c]

/-- A value as one bare word. -/
def escapeTerm (value : String) : String :=
  String.ofList (value.toList.flatMap (escapeChar false))

/-- A bare word in which wildcards match. -/
def escapeWildcard (value : String) : String :=
  String.ofList (value.toList.flatMap (escapeChar true))

def quoteChar (c : Char) : List Char :=
  if c = '"' ∨ c = '\\' then ['\\', c] else [c]

/-- A value between double quotes. -/
def quote (value : String) : String :=
  String.ofList ('"' :: value.toList.flatMap quoteChar ++ ['"'])

end SearchQuery.Rendering
