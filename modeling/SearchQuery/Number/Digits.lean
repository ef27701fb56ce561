/-!
Digits in bases up to sixteen.
-/

namespace SearchQuery

/-- The value of a digit in a base; letters count on from ten in either case. -/
def digitValue? (base : Nat) (c : Char) : Option Nat :=
  let value : Option Nat :=
    if '0' ≤ c ∧ c ≤ '9' then some (c.toNat - '0'.toNat)
    else if 'a' ≤ c ∧ c ≤ 'f' then some (c.toNat - 'a'.toNat + 10)
    else if 'A' ≤ c ∧ c ≤ 'F' then some (c.toNat - 'A'.toNat + 10)
    else none
  value.filter (· < base)

def isDigitIn (base : Nat) (c : Char) : Bool :=
  (digitValue? base c).isSome

/-- The number that digits write, if all of them are digits of the base. -/
def numberIn? (base : Nat) (digits : List Char) : Option Nat :=
  digits.foldlM (fun value digit => (digitValue? base digit).map (base * value + ·)) 0

end SearchQuery
