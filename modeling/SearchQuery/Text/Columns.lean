import SearchQuery.Text.Columns.Onset

/-!
How many columns a text without line breaks takes on a terminal. Read from its end, each character
adds its columns to those of the text behind it.
-/

namespace SearchQuery.Text

def columns (text : String) : Nat :=
  let measure (c : Char) (behind : Int × Start) : Int × Start :=
    let (gained, start) := behind.2.extend c
    (behind.1 + gained, start)
  (text.toList.foldr measure (0, { onset := .plain })).1.toNat

end SearchQuery.Text
