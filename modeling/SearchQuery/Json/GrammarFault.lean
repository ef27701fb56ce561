/-!
Where a text stops being a JSON document, or one in which every part stands for something, and why.
-/

namespace SearchQuery.Json

/-- What is wrong at a place of a text. -/
inductive GrammarCause where
  | endInArray
  | endInObject
  | endInString
  | endInValue
  | colon
  | itemEnd
  | memberEnd
  | word
  | value
  | escape
  | number
  | control
  | name
  | trailingComma
  | trailingText
  | unpairedSurrogate
  | surrogateEnd
  | numberRange
  | depth
deriving DecidableEq, Repr

def GrammarCause.message : GrammarCause → String
  | .endInArray => "EOF while parsing a list"
  | .endInObject => "EOF while parsing an object"
  | .endInString => "EOF while parsing a string"
  | .endInValue => "EOF while parsing a value"
  | .colon => "expected `:`"
  | .itemEnd => "expected `,` or `]`"
  | .memberEnd => "expected `,` or `\x7d`"
  | .word => "expected ident"
  | .value => "expected value"
  | .escape => "invalid escape"
  | .number => "invalid number"
  | .control => "control character (\\u0000-\\u001F) found while parsing a string"
  | .name => "key must be a string"
  | .trailingComma => "trailing comma"
  | .trailingText => "trailing characters"
  | .unpairedSurrogate => "lone leading surrogate in hex escape"
  | .surrogateEnd => "unexpected end of hex escape"
  | .numberRange => "number out of range"
  | .depth => "recursion limit exceeded"

/-- A cause, its line, and how many bytes of the line are read up to it. -/
structure GrammarFault where
  cause : GrammarCause
  line : Nat
  column : Nat
deriving DecidableEq, Repr

def GrammarFault.message (fault : GrammarFault) : String :=
  fault.cause.message ++ " at line " ++ toString fault.line ++ " column " ++ toString fault.column

/-- Where a reader stops: the cause, the text from the offending character on, and how many bytes of
that character are read. -/
structure Stop where
  cause : GrammarCause
  rest : List Char
  bytes : Nat := 1
deriving DecidableEq, Repr

/-- A value and the text after it. -/
abbrev WithRest (α : Type) := α × List Char

def stopAt {α : Type} (cause : GrammarCause) (rest : List Char) : Except Stop α :=
  .error { cause, rest }

/-- The line and column after a character. -/
def advance (place : Nat × Nat) (bytes : Nat) (c : Char) : Nat × Nat :=
  if c = '\n' then (place.1 + 1, 0) else (place.1, place.2 + bytes)

/-- The place of an offending character is that of the last byte read. -/
def Stop.fault (stop : Stop) (text : List Char) : GrammarFault :=
  let before := text.take (text.length - stop.rest.length)
  let place := before.foldl (fun place c => advance place c.utf8Size c) (1, 0)
  let (line, column) := (stop.rest.take 1).foldl (fun place c => advance place stop.bytes c) place
  ⟨stop.cause, line, column⟩

end SearchQuery.Json
