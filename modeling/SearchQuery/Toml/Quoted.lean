import SearchQuery.Number.Digits

/-!
Strings in TOML texts. A basic string stands in double quotes and has escapes; a literal string
stands in single quotes and has none. Either can run over several lines between tripled quotes.
-/

namespace SearchQuery.Toml

/-- Which quotes a string has and how many. -/
inductive Style where
  | basic
  | literal
  | basicBlock
  | literalBlock
deriving DecidableEq, Repr

namespace Style

def quote : Style → Char
  | .basic | .basicBlock => '"'
  | .literal | .literalBlock => '\''

def isBlock : Style → Bool
  | .basicBlock | .literalBlock => true
  | _ => false

def hasEscapes : Style → Bool
  | .basic | .basicBlock => true
  | _ => false

def delimiter (style : Style) : List Char :=
  List.replicate (if style.isBlock then 3 else 1) style.quote

end Style

/-- A control character other than a tab. -/
def isControl (c : Char) : Bool :=
  (c.toNat < 0x20 && c != '\t') || c.toNat == 0x7F

/-- The longest run of a character. -/
def longestRun (c : Char) (text : List Char) : Nat :=
  (text.foldl (fun (longest, current) d =>
    if d = c then (max longest (current + 1), current + 1) else (longest, 0)) (0, 0)).1

/-- What decides how a string is best written. -/
structure Traits where
  singleQuotes : Nat
  doubleQuotes : Nat
  controls : Bool
  backslash : Bool
  lineBreak : Bool

def Traits.ofText (text : List Char) : Traits where
  singleQuotes := longestRun '\'' text
  doubleQuotes := longestRun '"' text
  controls := text.any fun c => isControl c && c != '\n'
  backslash := text.contains '\\'
  lineBreak := text.contains '\n'

/-- Whether a string needs no escapes in a style. -/
def Traits.fits (traits : Traits) (style : Style) : Bool :=
  let quotes := if style.hasEscapes then traits.doubleQuotes else traits.singleQuotes
  !traits.controls && !(style.hasEscapes && traits.backslash) &&
    if style.isBlock then quotes ≤ 2 else quotes = 0 && !traits.lineBreak

/-- The first style in which a string needs no escapes; with none a basic one. -/
def Traits.style (traits : Traits) : Style :=
  ([.basic, .literal, .basicBlock, .literalBlock].find? traits.fits).getD
    (if traits.lineBreak then .basicBlock else .basic)

def hexDigits (width n : Nat) : List Char :=
  let digits := (Nat.toDigits 16 n).map Char.toUpper
  List.replicate (width - digits.length) '0' ++ digits

/-- The escape of a character, where it needs one whatever stands around it. -/
def escape? (block : Bool) (c : Char) : Option (List Char) :=
  match c with
  | '\x08' => some ['\\', 'b']
  | '\t' => some ['\\', 't']
  | '\n' => if block then none else some ['\\', 'n']
  | '\x0c' => some ['\\', 'f']
  | '\r' => some ['\\', 'r']
  | '\\' => some ['\\', '\\']
  | c => if isControl c then some ('\\' :: 'u' :: hexDigits 4 c.toNat) else none

/-- The inside of a basic string. `quotes` are the double quotes directly before that stand for
themselves: a block may have two of them in a row, another string none. -/
def basicChars (block : Bool) (quotes : Nat) : List Char → List Char
  | [] => []
  | c :: rest =>
    if c = '"' then
      if block ∧ quotes < 2 then c :: basicChars block (quotes + 1) rest
      else '\\' :: c :: basicChars block 0 rest
    else
      match escape? block c with
      | some escaped => escaped ++ basicChars block 0 rest
      | none => c :: basicChars block 0 rest

/-- A string as a value. A block with line breaks starts on a line of its own. -/
def stringText (text : String) : String :=
  let chars := text.toList
  let traits := Traits.ofText chars
  let style := traits.style
  String.ofList <|
    style.delimiter ++ (if style.isBlock && traits.lineBreak then ['\n'] else []) ++
      (if style.hasEscapes then basicChars style.isBlock 0 chars else chars) ++ style.delimiter

/-- A line break, alone or after a carriage return. -/
def readLineBreak : List Char → Option (List Char)
  | '\n' :: rest => some rest
  | '\r' :: '\n' :: rest => some rest
  | _ => none

def isSpace (c : Char) : Bool :=
  c == ' ' || c == '\t'

def skipSpaces (text : List Char) : List Char :=
  text.dropWhile isSpace

/-- The character with a code point. Surrogates have none. -/
def charOfCode? (code : Nat) : Option Char :=
  if code.isValidChar then some (Char.ofNat code) else none

/-- Reads a code point of exactly `count` digits. -/
def readCode (count : Nat) (text : List Char) : Option (Char × List Char) :=
  let digits := text.take count
  if digits.length = count then do
    let c ← charOfCode? (← numberIn? 16 digits)
    return (c, text.drop count)
  else none

/-- Reads what follows the backslash of an escape. -/
def readEscape : List Char → Option (Char × List Char)
  | 'b' :: rest => some ('\x08', rest)
  | 't' :: rest => some ('\t', rest)
  | 'n' :: rest => some ('\n', rest)
  | 'f' :: rest => some ('\x0c', rest)
  | 'r' :: rest => some ('\r', rest)
  | '"' :: rest => some ('"', rest)
  | '\\' :: rest => some ('\\', rest)
  | 'u' :: rest => readCode 4 rest
  | 'U' :: rest => readCode 8 rest
  | _ => none

/-- Skips line breaks and spaces. -/
def skipLines : List Char → List Char
  | '\n' :: rest => skipLines rest
  | '\r' :: '\n' :: rest => skipLines rest
  | c :: rest => if isSpace c then skipLines rest else c :: rest
  | [] => []

/-- Reads the inside of a string on one line, up to and with the closing quote. -/
def readLine (style : Style) : Nat → List Char → Option (List Char × List Char)
  | 0, _ => none
  | _ + 1, [] => none
  | fuel + 1, c :: rest =>
    if c = style.quote then some ([], rest)
    else if c = '\\' ∧ style.hasEscapes then do
      let (escaped, rest) ← readEscape rest
      let (chars, rest) ← readLine style fuel rest
      return (escaped :: chars, rest)
    else if isControl c then none
    else do
      let (chars, rest) ← readLine style fuel rest
      return (c :: chars, rest)

/-- The end of a block at three quotes or more: up to two of them before the last three belong to
the string. -/
def closeBlock (quote : Char) (text : List Char) : List Char × List Char :=
  let count := (text.takeWhile (· == quote)).length
  let inside := min 2 (count - 3)
  (List.replicate inside quote, text.drop (inside + 3))

/-- Reads the inside of a block, up to and with the closing quotes. A backslash at the end of a line
takes the line break and the blanks after it away. -/
def readBlock (style : Style) : Nat → List Char → Option (List Char × List Char)
  | 0, _ => none
  | _ + 1, [] => none
  | fuel + 1, c :: rest =>
    if (c :: rest).take 3 = style.delimiter then some (closeBlock style.quote (c :: rest))
    else if c = '\\' ∧ style.hasEscapes then
      match readLineBreak (skipSpaces rest) with
      | some rest => readBlock style fuel (skipLines rest)
      | none => do
        let (escaped, rest) ← readEscape rest
        let (chars, rest) ← readBlock style fuel rest
        return (escaped :: chars, rest)
    else
      match readLineBreak (c :: rest) with
      | some rest => do
        let (chars, rest) ← readBlock style fuel rest
        return ('\n' :: chars, rest)
      | none =>
        if isControl c then none
        else do
          let (chars, rest) ← readBlock style fuel rest
          return (c :: chars, rest)

/-- Reads a string of a style whose opening quotes are already read. The line break directly after
the opening of a block does not belong to it. -/
def readBody (style : Style) (text : List Char) : Option (String × List Char) := do
  let (chars, rest) ←
    if style.isBlock then
      readBlock style (text.length + 1) ((readLineBreak text).getD text)
    else readLine style (text.length + 1) text
  return (String.ofList chars, rest)

/-- Reads a string on one line, as keys are written. -/
def readQuotedKey : List Char → Option (String × List Char)
  | '"' :: rest => readBody .basic rest
  | '\'' :: rest => readBody .literal rest
  | _ => none

def readString : List Char → Option (String × List Char)
  | '"' :: '"' :: '"' :: rest => readBody .basicBlock rest
  | '\'' :: '\'' :: '\'' :: rest => readBody .literalBlock rest
  | text => readQuotedKey text

end SearchQuery.Toml
