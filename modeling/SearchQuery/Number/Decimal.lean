import SearchQuery.Number.Binary

/-!
Decimal numbers `±digits * 10 ^ exponent`, their numerals, and the binary numbers they stand for.
-/

namespace SearchQuery

structure Decimal where
  negative : Bool
  digits : Nat
  exponent : Int
deriving DecidableEq, Repr

/-- The value of a run of decimal digits. -/
def digitsValue (digits : List Char) : Nat :=
  digits.foldl (fun value digit => 10 * value + (digit.toNat - '0'.toNat)) 0

def digitCount (n : Nat) : Nat :=
  (Nat.toDigits 10 n).length

def zeros (n : Nat) : List Char :=
  List.replicate n '0'

namespace Decimal

variable {format : BinaryFormat}

/-- Beyond this power of ten a number is infinite in both formats, and zero below its inverse. -/
def magnitudeLimit : Int := 400

/-- The nearest binary number. -/
def toBinary (d : Decimal) : Binary format :=
  let top := d.exponent + digitCount d.digits
  if d.digits = 0 ∨ top < -magnitudeLimit then .ofRatio d.negative 0 1
  else if magnitudeLimit < top then .infinite d.negative
  else .ofRatio d.negative (d.digits * Nat.pow 10 d.exponent.toNat)
    (Nat.pow 10 (-d.exponent).toNat)

/-- The decimal equal to `significand * 2 ^ exponent`. -/
def ofParts (negative : Bool) (significand : Nat) (exponent : Int) : Decimal :=
  if significand = 0 then ⟨negative, 0, 0⟩
  else if 0 ≤ exponent then ⟨negative, significand * Nat.pow 2 exponent.toNat, 0⟩
  else ⟨negative, significand * Nat.pow 5 (-exponent).toNat, exponent⟩

/-- Drops zeros at the end of the digits, at most `count` of them. -/
def dropZeros (d : Decimal) : Nat → Decimal
  | 0 => d
  | count + 1 =>
    if d.digits % 10 = 0 ∧ d.digits ≠ 0 then
      dropZeros ⟨d.negative, d.digits / 10, d.exponent + 1⟩ count
    else d

/-- The same number with no zero at the end of its digits. -/
def normalize (d : Decimal) : Decimal :=
  d.dropZeros (digitCount d.digits)

/-- Power of ten of the first digit. -/
def leadingPower (d : Decimal) : Int :=
  d.exponent + digitCount d.digits - 1

def sign (negative : Bool) : List Char :=
  if negative then ['-'] else []

/-- Digits, with a point where one is needed and never an exponent. -/
def positional (d : Decimal) : List Char :=
  let digits := Nat.toDigits 10 d.digits
  let whole := d.exponent + digits.length
  sign d.negative ++
    if 0 ≤ d.exponent then digits ++ zeros d.exponent.toNat
    else if 0 < whole then digits.take whole.toNat ++ '.' :: digits.drop whole.toNat
    else '0' :: '.' :: zeros (-whole).toNat ++ digits

/-- One digit before the point and a signed power of ten. -/
def scientific (d : Decimal) : List Char :=
  let power := d.leadingPower
  let coefficient :=
    match Nat.toDigits 10 d.digits with
    | first :: second :: rest => first :: '.' :: second :: rest
    | short => short
  sign d.negative ++ coefficient ++
    'e' :: (if power < 0 then '-' else '+') :: Nat.toDigits 10 power.natAbs

/-- Splits off the leading run of decimal digits. -/
def spanDigits (text : List Char) : List Char × List Char :=
  text.span Char.isDigit

/-- The exponent part of a numeral, or zero where there is none. -/
def readExponent : List Char → Option Int
  | [] => some 0
  | mark :: rest =>
    if mark = 'e' ∨ mark = 'E' then
      let (negative, digits) :=
        match rest with
        | '-' :: digits => (true, digits)
        | '+' :: digits => (false, digits)
        | digits => (false, digits)
      if digits.isEmpty ∨ !digits.all Char.isDigit then none
      else some (if negative then -(digitsValue digits : Int) else digitsValue digits)
    else none

/-- Reads digits with an optional point and an optional power of ten. At least one digit stands
before or after the point. -/
def readUnsigned (negative : Bool) (text : List Char) : Option Decimal :=
  let (whole, rest) := spanDigits text
  let (fraction, rest) :=
    match rest with
    | '.' :: rest => spanDigits rest
    | rest => ([], rest)
  if whole.isEmpty ∧ fraction.isEmpty then none
  else
    (readExponent rest).map fun power =>
      ⟨negative, digitsValue (whole ++ fraction), power - fraction.length⟩

end Decimal

end SearchQuery
