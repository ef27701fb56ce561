/-!
Sets of characters given as ranges of code points.
-/

namespace SearchQuery.Text

/-- Ranges `(first, last)`, both ends included. -/
abbrev CodeRanges := List (Nat × Nat)

def CodeRanges.has (ranges : CodeRanges) (c : Char) : Bool :=
  ranges.any fun (first, last) => first ≤ c.toNat && c.toNat ≤ last

end SearchQuery.Text
