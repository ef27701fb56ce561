import SearchQuery.Json.GrammarFault
import SearchQuery.Json.Value
import SearchQuery.Number.Digits

/-!
From JSON texts to documents. What follows the grammar is read; the parts of it that stand for
nothing are left unusable, or, if the reader is `strict`, it stops at the first of them.
-/

namespace SearchQuery.Json

def isSpace (c : Char) : Bool :=
  c == ' ' || c == '\n' || c == '\t' || c == '\r'

def skipSpaces (text : List Char) : List Char :=
  text.dropWhile isSpace

def simpleEscape? : Char → Option Char
  | '"' => some '"'
  | '\\' => some '\\'
  | '/' => some '/'
  | 'b' => some '\x08'
  | 'f' => some '\x0c'
  | 'n' => some '\n'
  | 'r' => some '\r'
  | 't' => some '\t'
  | _ => none

def isLeading (unit : Nat) : Bool :=
  0xD800 ≤ unit && unit < 0xDC00

def isTrailing (unit : Nat) : Bool :=
  0xDC00 ≤ unit && unit < 0xE000

/-- The character of a surrogate pair. -/
def pairChar (leading trailing : Nat) : Char :=
  Char.ofNat (0x10000 + (leading - 0xD800) * 0x400 + (trailing - 0xDC00))

/-- The characters of a string, or none where an escape is an unpaired surrogate. -/
abbrev StringRest := WithRest (Option (List Char))

/-- Adds what one character or escape stands for to the string that follows. -/
def extend (c : Option Char) (rest : Except Stop StringRest) : Except Stop StringRest := do
  let (chars, after) ← rest
  return ((· :: ·) <$> c <*> chars, after)

/-- Refuses an escape that stands for nothing, or leaves the string around it unusable. -/
def unpaired (strict : Bool) (stop : Stop) (rest : Except Stop StringRest) :
    Except Stop StringRest :=
  if strict then .error stop else extend none rest

/-- A leading surrogate before something other than a trailing one stands for nothing. -/
def settle (strict : Bool) (pending : Option Nat) (stop : Stop) (rest : Except Stop StringRest) :
    Except Stop StringRest :=
  if pending.isSome then unpaired strict stop rest else rest

/-- Where a code unit ends whose digits, one byte each, are not all there. -/
def unitStop (bytes : Nat) : List Char → Stop
  | [] => { cause := .endInString, rest := [] }
  | c :: rest =>
    if bytes ≤ c.utf8Size then { cause := .escape, rest := c :: rest, bytes }
    else unitStop (bytes - c.utf8Size) rest

/-- Reads the inside of a string, up to and with the closing quote. `pending` is the leading
surrogate just read, if there is one. -/
def readString (strict : Bool) (pending : Option Nat) : List Char → Except Stop StringRest
  | [] => stopAt .endInString []
  | '"' :: rest => settle strict pending ⟨.surrogateEnd, '"' :: rest, 1⟩ (.ok (some [], rest))
  | '\\' :: 'u' :: a :: b :: c :: d :: rest =>
    match numberIn? 16 [a, b, c, d] with
    | none => .error (unitStop 4 (a :: b :: c :: d :: rest))
    | some unit =>
      let stop : Stop := ⟨.unpairedSurrogate, d :: rest, 1⟩
      if isLeading unit then settle strict pending stop (readString strict (some unit) rest)
      else if isTrailing unit then
        match pending with
        | some leading => extend (some (pairChar leading unit)) (readString strict none rest)
        | none => unpaired strict stop (readString strict none rest)
      else
        settle strict pending stop (extend (some (Char.ofNat unit)) (readString strict none rest))
  | '\\' :: c :: rest =>
    if c = 'u' then .error (unitStop 4 rest)
    else
      settle strict pending ⟨.surrogateEnd, c :: rest, 1⟩ <|
        match simpleEscape? c with
        | some escaped => extend (some escaped) (readString strict none rest)
        | none => stopAt .escape (c :: rest)
  | c :: rest =>
    if c = '\\' then stopAt .endInString []
    else
      settle strict pending ⟨.surrogateEnd, c :: rest, 1⟩ <|
        if c.toNat < 0x20 then stopAt .control (c :: rest)
        else extend (some c) (readString strict none rest)
termination_by structural text => text

/-- Reads the remaining characters of a word. -/
def readWord (value : Value) : List Char → List Char → Except Stop (WithRest Value)
  | [], text => .ok (value, text)
  | _ :: _, [] => stopAt .endInValue []
  | c :: word, first :: text =>
    if first = c then readWord value word text else stopAt .word (first :: text)

/-- Stops where a digit is missing. -/
def missingDigit {α : Type} (text : List Char) : Except Stop α :=
  if text.isEmpty then stopAt .endInValue [] else stopAt .number text

/-- Digits of which the first is zero only if it is alone. -/
def readWhole (text : List Char) : Except Stop (WithRest (List Char)) :=
  match Decimal.spanDigits text with
  | ([], _) => missingDigit text
  | ('0' :: more :: others, rest) => stopAt .number (more :: others ++ rest)
  | (digits, rest) => .ok (digits, rest)

/-- A point and at least one digit, or nothing. -/
def readFraction : List Char → Except Stop (WithRest (List Char))
  | '.' :: text =>
    match Decimal.spanDigits text with
    | ([], _) => missingDigit text
    | (digits, rest) => .ok ('.' :: digits, rest)
  | text => .ok ([], text)

/-- A power of ten with at least one digit, or nothing. -/
def readPower : List Char → Except Stop (WithRest (List Char))
  | mark :: text =>
    if mark = 'e' ∨ mark = 'E' then
      let (sign, digits) :=
        match text with
        | '+' :: digits => (['+'], digits)
        | '-' :: digits => (['-'], digits)
        | digits => ([], digits)
      match Decimal.spanDigits digits with
      | ([], _) => missingDigit digits
      | (digits, rest) => .ok (mark :: sign ++ digits, rest)
    else .ok ([], mark :: text)
  | [] => .ok ([], [])

def readNumber (text : List Char) : Except Stop (WithRest Number) := do
  let (sign, rest) :=
    match text with
    | '-' :: rest => (['-'], rest)
    | rest => ([], rest)
  let (whole, rest) ← readWhole rest
  let (fraction, rest) ← readFraction rest
  let (power, rest) ← readPower rest
  return (⟨sign ++ whole ++ fraction ++ power⟩, rest)

/-- Where a number is found to be too large: at the digit that takes its power of ten beyond the
limit, or at its end. -/
def rangeStop (n : Number) (rest : List Char) : Stop :=
  let power := n.fraction.2.filter Char.isDigit
  let left := (Number.collect Number.powerLimit.toNat 0 power).2
  let last := if left.isEmpty then n.text.drop (n.text.length - 1) else left
  ⟨.numberRange, last ++ rest, 1⟩

/-- A number that is too large for a double stands for nothing. -/
def ofNumber (strict : Bool) (n : Number) (rest : List Char) : Except Stop (WithRest Value) :=
  if n.double?.isSome then .ok (.number n, rest)
  else if strict then .error (rangeStop n rest)
  else .ok (.unusable, rest)

def ofString (chars : Option (List Char)) : Value :=
  match chars with
  | some chars => .string (String.ofList chars)
  | none => .unusable

/-- Arrays and objects may be nested in each other this deep. -/
def depthLimit : Nat := 127

/-- The container at the start of a text, if there are levels left for one. -/
def contain (strict : Bool) (levels : Nat) (text : List Char)
    (container : Except Stop (WithRest Value)) : Except Stop (WithRest Value) :=
  if 0 < levels then container
  else if strict then stopAt .depth text
  else container.map fun (_, rest) => (.unusable, rest)

/-- A number starts with a digit or a minus sign. -/
def startsNumber (c : Char) : Bool :=
  c == '-' || c.isDigit

mutual

/-- Reads a value and returns the text after it. Every character takes at most two of the steps
`fuel`; `levels` are the containers that may still be opened. -/
def readValue (strict : Bool) (fuel levels : Nat) (text : List Char) :
    Except Stop (WithRest Value) :=
  match fuel with
  | 0 => stopAt .endInValue text
  | fuel + 1 =>
    match skipSpaces text with
    | [] => stopAt .endInValue []
    | 'n' :: rest => readWord .null ['u', 'l', 'l'] rest
    | 't' :: rest => readWord (.bool true) ['r', 'u', 'e'] rest
    | 'f' :: rest => readWord (.bool false) ['a', 'l', 's', 'e'] rest
    | '"' :: rest => do
      let (chars, rest) ← readString strict none rest
      return (ofString chars, rest)
    | '[' :: rest =>
      contain strict levels ('[' :: rest) <|
        match skipSpaces rest with
        | [] => stopAt .endInArray []
        | ']' :: rest => .ok (.array [], rest)
        | rest => do
          let (items, rest) ← readItems strict fuel (levels - 1) rest
          return (.array items, rest)
    | '{' :: rest =>
      contain strict levels ('{' :: rest) <|
        match skipSpaces rest with
        | [] => stopAt .endInObject []
        | '}' :: rest => .ok (.object [], rest)
        | rest => do
          let (members, rest) ← readMembers strict fuel (levels - 1) rest
          match members with
          | some members => return (.object members, rest)
          | none => return (.unusable, rest)
    | c :: rest =>
      if startsNumber c then do
        let (number, rest) ← readNumber (c :: rest)
        ofNumber strict number rest
      else stopAt .value (c :: rest)

/-- Reads the items of an array up to and with its end. -/
def readItems (strict : Bool) (fuel levels : Nat) (text : List Char) :
    Except Stop (WithRest (List Value)) :=
  match fuel with
  | 0 => stopAt .endInArray text
  | fuel + 1 => do
    let (item, rest) ← readValue strict fuel levels text
    match skipSpaces rest with
    | [] => stopAt .endInArray []
    | ']' :: rest => return ([item], rest)
    | ',' :: rest =>
      match skipSpaces rest with
      | ']' :: _ => stopAt .trailingComma (skipSpaces rest)
      | rest =>
        let (items, rest) ← readItems strict fuel levels rest
        return (item :: items, rest)
    | rest => stopAt .itemEnd rest

/-- Reads the members of an object up to and with its end; none where a name has an unpaired
surrogate. -/
def readMembers (strict : Bool) (fuel levels : Nat) (text : List Char) :
    Except Stop (WithRest (Option (List (String × Value)))) :=
  match fuel with
  | 0 => stopAt .endInObject text
  | fuel + 1 =>
    match text with
    | '"' :: rest => do
      let (name, rest) ← readString strict none rest
      match skipSpaces rest with
      | [] => stopAt .endInObject []
      | ':' :: rest =>
        let (value, rest) ← readValue strict fuel levels rest
        let member := name.map fun name => (String.ofList name, value)
        match skipSpaces rest with
        | [] => stopAt .endInObject []
        | '}' :: rest => return (member.map fun member => [member], rest)
        | ',' :: rest =>
          match skipSpaces rest with
          | [] => stopAt .endInValue []
          | '}' :: rest => stopAt .trailingComma ('}' :: rest)
          | rest =>
            let (members, rest) ← readMembers strict fuel levels rest
            return ((· :: ·) <$> member <*> members, rest)
        | rest => stopAt .memberEnd rest
      | rest => stopAt .colon rest
    | rest => stopAt .name rest

end

/-- The document that a text starts with, if nothing but white space follows. -/
def readWholeText (strict : Bool) (text : List Char) : Except Stop Value := do
  let (value, rest) ← readValue strict (2 * text.length + 2) depthLimit text
  match skipSpaces rest with
  | [] => return value
  | rest => stopAt .trailingText rest

/-- The document that a text holds. -/
def read (strict : Bool) (text : String) : Except GrammarFault Value :=
  match readWholeText strict text.toList with
  | .ok value => .ok value
  | .error stop => .error (stop.fault text.toList)

end SearchQuery.Json
