import SearchQuery.Number.Numeral

/-!
Numbers in JSON texts, kept as written. A whole number is exact. A fraction is read from the digits
that fit 64 bits, as a double, and then multiplied or divided once by its power of ten; the result
can be off in its last place.
-/

namespace SearchQuery.Json

/-- A number as written: `-` or nothing, digits, and what follows them. -/
structure Number where
  text : List Char
deriving DecidableEq, Repr

namespace Number

def ofInt (n : Int) : Number :=
  ⟨Decimal.sign (n < 0) ++ Nat.toDigits 10 n.natAbs⟩

/-- The largest number that digits are collected to. -/
def collectLimit : Nat := UInt64.size - 1

/-- Appends digits to a number up to a limit, and returns the digits left over. -/
def collect (limit value : Nat) : List Char → Nat × List Char
  | [] => (value, [])
  | digit :: rest =>
    let next := 10 * value + (digit.toNat - '0'.toNat)
    if next ≤ limit then collect limit next rest else (value, digit :: rest)

def isNegative (n : Number) : Bool :=
  n.text.head? = some '-'

/-- The digits before the point, and what follows them. -/
def whole (n : Number) : List Char × List Char :=
  Decimal.spanDigits (if n.isNegative then n.text.tail else n.text)

/-- The digits after the point, and what follows them. -/
def fraction (n : Number) : List Char × List Char :=
  match n.whole.2 with
  | '.' :: rest => Decimal.spanDigits rest
  | rest => ([], rest)

/-- Has neither point nor exponent. -/
def isWhole (n : Number) : Bool :=
  n.whole.2.isEmpty

/-- The value of a whole number that 64 bits can hold, with a sign if it has one. Zero with a sign
is a fraction. -/
def int? (n : Number) : Option Int :=
  let magnitude := digitsValue n.whole.1
  if !n.isWhole then none
  else if n.isNegative then
    if 0 < magnitude ∧ magnitude ≤ UInt64.size / 2 then some (-(magnitude : Int)) else none
  else if magnitude ≤ collectLimit then some magnitude
  else none

/-- Largest power of ten among the doubles. -/
def greatestPower : Nat := 308

def powerOfTen (power : Nat) : Double :=
  (⟨false, 1, power⟩ : Decimal).toBinary

/-- Multiplies a double by a power of ten. An infinite product is no number; a quotient is zero
after `steps` divisions by the largest power. -/
def shift (steps : Nat) (x : Double) (power : Int) : Option Double :=
  if power.natAbs ≤ greatestPower then
    if 0 ≤ power then
      let product := x.multiply (powerOfTen power.natAbs)
      if product.isFinite then some product else none
    else some (x.divide (powerOfTen power.natAbs))
  else if x.isZero then some x
  else if 0 < power then none
  else
    match steps with
    | 0 => some (.ofRatio false 0 1)
    | steps + 1 => shift steps (x.divide (powerOfTen greatestPower)) (power + greatestPower)

/-- Exponents are cut off here: beyond it every number is zero or too large. -/
def powerLimit : Int := Int32.maxValue.toInt

/-- The magnitude, from the digits that are collected and the power of ten they stand at. -/
def magnitude? (n : Number) : Option Double :=
  let (front, dropped) := collect collectLimit 0 n.whole.1
  let (significand, lost) := collect collectLimit front n.fraction.1
  let start : Int := dropped.length - (n.fraction.1.length - lost.length : Nat)
  match Decimal.readExponent n.fraction.2 with
  | none => none
  | some power =>
    if powerLimit < power ∧ significand ≠ 0 then none
    else if powerLimit < power ∨ power < -powerLimit then some (.ofRatio false 0 1)
    else shift 3 (.ofInt significand) (start + power)

/-- The number as a double. One too large for a double is none. -/
def double? (n : Number) : Option Double :=
  match n.int? with
  | some value => some (.ofInt value)
  | none => n.magnitude?.map fun x => if n.isNegative then x.negate else x

/-- The number as a single: a whole number rounded once, any other through its double. -/
def single? (n : Number) : Option Single :=
  match n.int? with
  | some value => some (.ofInt value)
  | none => n.double?.map Binary.convert

end Number

end SearchQuery.Json
