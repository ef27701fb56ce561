/-!
Binary floating-point numbers as exact integers: a sign, a significand and a power of two. Every
operation takes the exact result and rounds it once, to the nearest number, ties to even.
-/

namespace SearchQuery

/-- `precision` significand bits, and the exponents of the last place of the smallest and of the
largest numbers. -/
structure BinaryFormat where
  precision : Nat
  minExponent : Int
  maxExponent : Int
deriving DecidableEq, Repr

namespace BinaryFormat

def single : BinaryFormat := ⟨24, -149, 104⟩

def double : BinaryFormat := ⟨53, -1074, 971⟩

/-- The one spelling `significand * 2 ^ exponent` that a number of the format has: all bits used,
unless the exponent is already the smallest. -/
def Canonical (format : BinaryFormat) (significand : Nat) (exponent : Int) : Prop :=
  significand < Nat.pow 2 format.precision ∧ format.minExponent ≤ exponent ∧
    exponent ≤ format.maxExponent ∧
    (exponent = format.minExponent ∨ Nat.pow 2 (format.precision - 1) ≤ significand)

instance (format : BinaryFormat) (significand : Nat) (exponent : Int) :
    Decidable (format.Canonical significand exponent) :=
  inferInstanceAs (Decidable (_ ∧ _ ∧ _ ∧ _))

end BinaryFormat

/-- A number of a binary format. Zero keeps its sign; there is one NaN. -/
inductive Binary (format : BinaryFormat) where
  | finite (negative : Bool) (significand : Nat) (exponent : Int)
      (canonical : format.Canonical significand exponent)
  | infinite (negative : Bool)
  | nan
deriving DecidableEq

abbrev Single := Binary .single

abbrev Double := Binary .double

/-- The nearest integer to `num / den`, the even one of two equally near. -/
def nearestEven (num den : Nat) : Nat :=
  let low := num / den
  let rest := num % den
  if 2 * rest < den then low
  else if den < 2 * rest then low + 1
  else if low % 2 = 0 then low
  else low + 1

/-- The `k` with `2 ^ k ≤ num / den < 2 ^ (k + 1)`. -/
def floorLog2 (num den : Nat) : Int :=
  let k : Int := (num.log2 : Int) - den.log2
  if den * Nat.pow 2 k.toNat ≤ num * Nat.pow 2 (-k).toNat then k else k - 1

namespace Binary

variable {format : BinaryFormat}

/-- The number `significand * 2 ^ exponent` if the format has it, else an infinity. -/
def ofParts (negative : Bool) (significand : Nat) (exponent : Int) : Binary format :=
  if canonical : format.Canonical significand exponent then
    .finite negative significand exponent canonical
  else
    .infinite negative

/-- The nearest number to `num / den`. A significand that rounds up to a power of two moves to the
next exponent; past the largest exponent the result is infinite. -/
def ofRatio (negative : Bool) (num den : Nat) : Binary format :=
  if num = 0 then
    ofParts negative 0 format.minExponent
  else
    let exponent := max format.minExponent (floorLog2 num den - ((format.precision : Int) - 1))
    let significand :=
      nearestEven (num * Nat.pow 2 (-exponent).toNat) (den * Nat.pow 2 exponent.toNat)
    if significand = Nat.pow 2 format.precision then
      ofParts negative (Nat.pow 2 (format.precision - 1)) (exponent + 1)
    else
      ofParts negative significand exponent

def ofInt (n : Int) : Binary format :=
  ofRatio (n < 0) n.natAbs 1

def isFinite : Binary format → Bool
  | .finite .. => true
  | _ => false

def negate : Binary format → Binary format
  | .finite negative significand exponent canonical =>
    .finite (!negative) significand exponent canonical
  | .infinite negative => .infinite (!negative)
  | .nan => .nan

/-- Numerator and denominator of the magnitude `significand * 2 ^ exponent`. -/
def ratio (significand : Nat) (exponent : Int) : Nat × Nat :=
  (significand * Nat.pow 2 exponent.toNat, Nat.pow 2 (-exponent).toNat)

def isZero : Binary format → Bool
  | .finite _ significand _ _ => significand = 0
  | _ => false

/-- The product of two finite numbers. -/
def multiply (x y : Binary format) : Binary format :=
  match x, y with
  | .finite negative m i _, .finite otherNegative n j _ =>
    let (upper, lower) := ratio m i
    let (otherUpper, otherLower) := ratio n j
    ofRatio (negative != otherNegative) (upper * otherUpper) (lower * otherLower)
  | _, _ => .nan

/-- The quotient of a finite number and a finite number other than zero. -/
def divide (x y : Binary format) : Binary format :=
  match x, y with
  | .finite negative m i _, .finite otherNegative n j _ =>
    let (upper, lower) := ratio m i
    let (otherUpper, otherLower) := ratio n j
    ofRatio (negative != otherNegative) (upper * otherLower) (lower * otherUpper)
  | _, _ => .nan

/-- The nearest number of another format. -/
def convert {target : BinaryFormat} : Binary format → Binary target
  | .finite negative significand exponent _ =>
    let (upper, lower) := ratio significand exponent
    ofRatio negative upper lower
  | .infinite negative => .infinite negative
  | .nan => .nan

end Binary

end SearchQuery
