import SearchQuery.Calendar.Day
import SearchQuery.Number.Decimal
import SearchQuery.Text.Blank

/-!
Instants as milliseconds since 1970, read from RFC 3339 timestamps and from plain days.
-/

namespace SearchQuery.Calendar

/-- Milliseconds since the start of 1970 in UTC. -/
structure Instant where
  millis : Int
deriving DecidableEq, Repr

namespace Instant

def millisPerDay : Int := 86400000

def midnight (date : Date) : Instant :=
  ⟨date.dayNumber * millisPerDay⟩

end Instant

/-- A time of day to the millisecond. Second 60 is the first of the next minute. -/
structure TimeOfDay where
  hour : Nat
  minute : Nat
  second : Nat
  milli : Nat
deriving DecidableEq, Repr

namespace TimeOfDay

def isValid (time : TimeOfDay) : Bool :=
  time.hour ≤ 23 && time.minute ≤ 59 && time.second ≤ 60

def millis (time : TimeOfDay) : Int :=
  ((time.hour * 60 + time.minute) * 60 + time.second) * 1000 + time.milli

end TimeOfDay

/-- Reads exactly `count` digits. -/
def readFixed (count : Nat) (text : List Char) : Option (Nat × List Char) :=
  let digits := text.take count
  if digits.length = count ∧ digits.all Char.isDigit then
    some (digitsValue digits, text.drop count)
  else none

/-- Reads one digit or more, at most `limit` of them. -/
def readUpTo (limit : Nat) (text : List Char) : Option (Nat × List Char) :=
  let digits := (text.take limit).takeWhile Char.isDigit
  if digits.isEmpty then none else some (digitsValue digits, text.drop digits.length)

def readChar (c : Char) : List Char → Option (List Char)
  | first :: rest => if first = c then some rest else none
  | [] => none

/-- Reads a fraction of a second, if there is one, down to the millisecond. -/
def readFraction : List Char → Option (Nat × List Char)
  | '.' :: rest =>
    match Decimal.spanDigits rest with
    | ([], _) => none
    | (digits, rest) => some (digitsValue ((digits ++ zeros 3).take 3), rest)
  | rest => some (0, rest)

/-- Reads an offset from UTC in minutes: `Z`, or a sign, hours below 24, a colon and minutes. -/
def readOffset : List Char → Option (Int × List Char)
  | [] => none
  | sign :: rest =>
    if sign = 'Z' ∨ sign = 'z' then some (0, rest)
    else if sign = '+' ∨ sign = '-' ∨ sign = '−' then do
      let (hours, rest) ← readFixed 2 rest
      let rest ← readChar ':' rest
      let (minutes, rest) ← readFixed 2 rest
      if hours ≤ 23 ∧ minutes ≤ 59 then
        let offset : Int := hours * 60 + minutes
        some (if sign = '+' then offset else -offset, rest)
      else none
    else none

/-- Reads a timestamp: a date, `T` or a space, a time and an offset. -/
def readTimestamp (text : List Char) : Option Instant := do
  let (year, rest) ← readFixed 4 text
  let rest ← readChar '-' rest
  let (month, rest) ← readFixed 2 rest
  let rest ← readChar '-' rest
  let (day, rest) ← readFixed 2 rest
  let rest ← readChar 'T' rest <|> readChar 't' rest <|> readChar ' ' rest
  let (hour, rest) ← readFixed 2 rest
  let rest ← readChar ':' rest
  let (minute, rest) ← readFixed 2 rest
  let rest ← readChar ':' rest
  let (second, rest) ← readFixed 2 rest
  let (milli, rest) ← readFraction rest
  let (offset, rest) ← readOffset rest
  let date : Date := ⟨year, month, day⟩
  let time : TimeOfDay := ⟨hour, minute, second, milli⟩
  if rest.isEmpty && date.isValid && time.isValid then
    some ⟨(Instant.midnight date).millis + time.millis - offset * 60000⟩
  else none

/-- Reads a year of up to four digits, or with a sign of any number of digits. -/
def readYear (text : List Char) : Option (Int × List Char) :=
  match text with
  | '-' :: rest => (readUpTo rest.length rest).map fun (year, rest) => (-(year : Int), rest)
  | '+' :: rest => (readUpTo rest.length rest).map fun (year, rest) => ((year : Int), rest)
  | rest => (readUpTo 4 rest).map fun (year, rest) => ((year : Int), rest)

/-- Reads a plain day: year, month and day between hyphens, each after any blanks. -/
def readDay (text : List Char) : Option Date := do
  let (year, rest) ← readYear (Text.dropBlanks text)
  let rest ← readChar '-' rest
  let (month, rest) ← readUpTo 2 (Text.dropBlanks rest)
  let rest ← readChar '-' rest
  let (day, rest) ← readUpTo 2 (Text.dropBlanks rest)
  let date : Date := ⟨year, month, day⟩
  if rest.isEmpty && date.isValid then some date else none

/-- A timestamp, or the start of a plain day in UTC. -/
def Instant.ofText? (text : String) : Option Instant :=
  readTimestamp text.toList <|> (readDay text.toList).map Instant.midnight

end SearchQuery.Calendar
