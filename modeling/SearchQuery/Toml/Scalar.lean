import SearchQuery.Number.Numeral
import SearchQuery.Toml.Quoted
import SearchQuery.Toml.Value

/-!
Numbers, truth values and moments in TOML texts. Each reader returns the text after what it reads;
whether that text may follow is decided by who calls it.
-/

namespace SearchQuery.Toml

/-- The digits after a digit, without the underscores between them. -/
def spanGrouped (isDigit : Char → Bool) : List Char → List Char × List Char
  | '_' :: c :: rest =>
    if isDigit c then
      let (digits, rest) := spanGrouped isDigit rest
      (c :: digits, rest)
    else ([], '_' :: c :: rest)
  | c :: rest =>
    if isDigit c then
      let (digits, rest) := spanGrouped isDigit rest
      (c :: digits, rest)
    else ([], c :: rest)
  | [] => ([], [])

/-- Reads at least one digit. -/
def readGrouped (isDigit : Char → Bool) : List Char → Option (List Char × List Char)
  | [] => none
  | c :: rest =>
    if isDigit c then
      let (digits, rest) := spanGrouped isDigit rest
      some (c :: digits, rest)
    else none

/-- Reads the digits of a decimal number. A leading zero stands alone. -/
def readWhole : List Char → Option (List Char × List Char)
  | '0' :: rest => some (['0'], rest)
  | text => readGrouped Char.isDigit text

def readSign : List Char → Bool × List Char
  | '-' :: rest => (true, rest)
  | '+' :: rest => (false, rest)
  | rest => (false, rest)

/-- Whole numbers have 64 bits and a sign. -/
def integer? (n : Int) : Option Value :=
  if Int64.minValue.toInt ≤ n ∧ n ≤ Int64.maxValue.toInt then some (.integer n) else none

/-- The base that a letter after a zero stands for. -/
def base? : Char → Option Nat
  | 'x' => some 16
  | 'o' => some 8
  | 'b' => some 2
  | _ => none

/-- Reads a whole number in another base. -/
def readBased (base : Nat) (text : List Char) : Option (Value × List Char) := do
  let (digits, rest) ← readGrouped (isDigitIn base) text
  let value ← integer? (← numberIn? base digits)
  return (value, rest)

/-- Reads a point and digits, or nothing. -/
def readPlaces : List Char → Option (List Char × List Char)
  | '.' :: rest => do
    let (digits, rest) ← readGrouped Char.isDigit rest
    return ('.' :: digits, rest)
  | rest => some ([], rest)

/-- Reads an exponent, or nothing. -/
def readExponent : List Char → Option (List Char × List Char)
  | [] => some ([], [])
  | mark :: rest =>
    if mark = 'e' ∨ mark = 'E' then do
      let (negative, rest) := readSign rest
      let (digits, rest) ← readGrouped Char.isDigit rest
      return ('e' :: Decimal.sign negative ++ digits, rest)
    else some ([], mark :: rest)

/-- The double that a numeral with a point or exponent writes. A positive one that is too large is
refused. -/
def float? (negative : Bool) (numeral : List Char) : Option Value := do
  let decimal ← Decimal.readUnsigned negative numeral
  let value : Double := decimal.toBinary
  if value = .infinite false then none else some (.float value)

def readDecimal (text : List Char) : Option (Value × List Char) := do
  let (negative, rest) := readSign text
  let (whole, rest) ← readWhole rest
  let (places, rest) ← readPlaces rest
  let (power, rest) ← readExponent rest
  let value ←
    if places.isEmpty && power.isEmpty then
      integer? (if negative then -(digitsValue whole : Int) else digitsValue whole)
    else float? negative (whole ++ places ++ power)
  return (value, rest)

/-- Reads `inf` or `nan` after an optional sign. -/
def readSpecial (text : List Char) : Option (Value × List Char) :=
  let (negative, rest) := readSign text
  match rest with
  | 'i' :: 'n' :: 'f' :: rest => some (.float (.infinite negative), rest)
  | 'n' :: 'a' :: 'n' :: rest => some (.float .nan, rest)
  | _ => none

def readNumber : List Char → Option (Value × List Char)
  | '0' :: letter :: rest =>
    match base? letter with
    | some base => readBased base rest
    | none => readDecimal ('0' :: letter :: rest)
  | text => readSpecial text <|> readDecimal text

open Calendar (Date TimeOfDay readFixed readChar readFraction)

def readDate (text : List Char) : Option (Date × List Char) := do
  let (year, rest) ← readFixed 4 text
  let rest ← readChar '-' rest
  let (month, rest) ← readFixed 2 rest
  let rest ← readChar '-' rest
  let (day, rest) ← readFixed 2 rest
  let date : Date := ⟨year, month, day⟩
  if date.isValid then some (date, rest) else none

def readTime (text : List Char) : Option (TimeOfDay × List Char) := do
  let (hour, rest) ← readFixed 2 text
  let rest ← readChar ':' rest
  let (minute, rest) ← readFixed 2 rest
  let rest ← readChar ':' rest
  let (second, rest) ← readFixed 2 rest
  let (milli, rest) ← readFraction rest
  let time : TimeOfDay := ⟨hour, minute, second, milli⟩
  if time.isValid then some (time, rest) else none

/-- Reads an offset from UTC in minutes, or nothing. -/
def readOffset (text : List Char) : Option Int × List Char :=
  let signed (negative : Bool) (rest : List Char) : Option (Int × List Char) := do
    let (hours, rest) ← readFixed 2 rest
    let rest ← readChar ':' rest
    let (minutes, rest) ← readFixed 2 rest
    let offset : Int := hours * 60 + minutes
    if hours ≤ 23 ∧ minutes ≤ 59 then some (if negative then -offset else offset, rest) else none
  let found :=
    match text with
    | 'Z' :: rest | 'z' :: rest => some (0, rest)
    | '+' :: rest => signed false rest
    | '-' :: rest => signed true rest
    | _ => none
  match found with
  | some (offset, rest) => (some offset, rest)
  | none => (none, text)

/-- Reads a time after `T` or a space, or nothing. -/
def readTimePart (text : List Char) : Option TimeOfDay × Option Int × List Char :=
  let found :=
    match text with
    | 'T' :: rest | 't' :: rest | ' ' :: rest => readTime rest
    | _ => none
  match found with
  | some (time, rest) =>
    let (offset, rest) := readOffset rest
    (some time, offset, rest)
  | none => (none, none, text)

def readMoment (text : List Char) : Option (Moment × List Char) :=
  match readDate text with
  | some (date, rest) =>
    let (time, offset, rest) := readTimePart rest
    some (⟨some date, time, offset⟩, rest)
  | none => (readTime text).map fun (time, rest) => (⟨none, some time, none⟩, rest)

/-- Reads a value that holds no others. -/
def readScalar (text : List Char) : Option (Value × List Char) :=
  match text with
  | 't' :: 'r' :: 'u' :: 'e' :: rest => some (.bool true, rest)
  | 'f' :: 'a' :: 'l' :: 's' :: 'e' :: rest => some (.bool false, rest)
  | '"' :: _ | '\'' :: _ => (readString text).map fun (text, rest) => (.string text, rest)
  | _ =>
    (readMoment text).map (fun (moment, rest) => (.moment moment, rest)) <|> readNumber text

end SearchQuery.Toml
