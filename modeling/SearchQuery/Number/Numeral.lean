import SearchQuery.Number.Decimal

/-!
Texts of binary numbers. A number is written with the fewest digits that read back as it, the
nearest such decimal among them; a numeral is read as the nearest number.
-/

namespace SearchQuery

/-- Which of two decimals at the same distance is written. -/
inductive TieRule where
  | away
  | even
deriving DecidableEq, Repr

namespace Decimal

/-- The two neighbours of a decimal among those with `count` digits, the nearer one first. -/
def neighbours (tie : TieRule) (d : Decimal) (count : Nat) : List Decimal :=
  let dropped := digitCount d.digits - count
  let unit := Nat.pow 10 dropped
  let exponent := d.exponent + dropped
  let low := d.digits / unit
  let rest := d.digits % unit
  let below : Decimal := ⟨d.negative, low, exponent⟩
  let above : Decimal := ⟨d.negative, low + 1, exponent⟩
  if 2 * rest < unit then [below, above]
  else if unit < 2 * rest then [above, below]
  else if tie = .even ∧ low % 2 = 0 then [below, above]
  else [above, below]

end Decimal

namespace Binary

variable {format : BinaryFormat}

/-- Every number of both formats is the nearest to some decimal of this many digits. -/
def enoughDigits : Nat := 17

/-- The decimal with the fewest digits whose nearest number is `x`. -/
def shortestDecimal (tie : TieRule) (x : Binary format) (exact : Decimal) : Decimal :=
  let found := (List.range enoughDigits).findSome? fun places =>
    (exact.neighbours tie (places + 1)).find? fun candidate => candidate.toBinary = x
  (found.getD exact).normalize

/-- Where a numeral gives way to the scientific form: positional for first digits worth from
`10 ^ lowest` to less than `10 ^ highest`. -/
structure NumeralRange where
  lowest : Int
  highest : Int

/-- Plain digits, never an exponent: `0.1`, `100000000000000000000000`, `-0`, `inf`, `NaN`. -/
def plainText (x : Binary format) : String :=
  match x with
  | .finite negative significand exponent _ =>
    String.ofList
      (x.shortestDecimal .away (.ofParts negative significand exponent)).positional
  | .infinite negative => if negative then "-inf" else "inf"
  | .nan => "NaN"

/-- The integer value of a finite number without fraction. -/
def wholeMagnitude? (significand : Nat) (exponent : Int) : Option Nat :=
  let (upper, lower) := ratio significand exponent
  if upper % lower = 0 then some (upper / lower) else none

/-- A whole number with all its digits, any other as `plainText`. -/
def exactText (x : Binary format) : String :=
  match x with
  | .finite negative significand exponent _ =>
    match wholeMagnitude? significand exponent with
    | some whole => String.ofList (Decimal.sign negative ++ Nat.toDigits 10 whole)
    | none => x.plainText
  | _ => x.plainText

/-- A numeral with a point or an exponent, so that it is read as a fraction: `1.0`, `1e+16`.
Only a finite number has one. -/
def fractionalText? (range : NumeralRange) (x : Binary format) : Option (List Char) :=
  match x with
  | .finite negative significand exponent _ =>
    let decimal := x.shortestDecimal .even (.ofParts negative significand exponent)
    if range.lowest ≤ decimal.leadingPower ∧ decimal.leadingPower < range.highest then
      let text := decimal.positional
      some (if text.contains '.' then text else text ++ ['.', '0'])
    else some decimal.scientific
  | _ => none

/-- Words for the numbers that have no digits, in any case. -/
def readWord (negative : Bool) (text : List Char) : Option (Binary format) :=
  let word := String.ofList (text.map Char.toLower)
  if word = "inf" ∨ word = "infinity" then some (.infinite negative)
  else if word = "nan" then some .nan
  else none

/-- Reads an optional sign and then a decimal numeral or a word. -/
def ofText? (text : String) : Option (Binary format) :=
  let (negative, rest) :=
    match text.toList with
    | '-' :: rest => (true, rest)
    | '+' :: rest => (false, rest)
    | rest => (false, rest)
  match Decimal.readUnsigned negative rest with
  | some decimal => some decimal.toBinary
  | none => readWord negative rest

end Binary

end SearchQuery
