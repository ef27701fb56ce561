import SearchQuery.Text.Blank
import SearchQuery.Text.Columns

/-!
Grids of texts with lines around the cells. A cell has as many lines as its text; a column is as
wide as its widest line.
-/

namespace SearchQuery.Text

/-- The characters of a horizontal line: its left end, its body, where it crosses a column border,
and its right end. -/
structure Rule where
  left : Char
  body : Char
  cross : Char
  right : Char
deriving DecidableEq, Repr

/-- The lines of a grid. There need not be any between rows. -/
structure GridStyle where
  left : Char
  inner : Char
  right : Char
  top : Rule
  afterHeader : Rule
  between : Option Rule
  bottom : Rule
deriving DecidableEq, Repr

namespace GridStyle

def drawn : GridStyle where
  left := '│'
  inner := '┆'
  right := '│'
  top := ⟨'┌', '─', '┬', '┐'⟩
  afterHeader := ⟨'╞', '═', '╪', '╡'⟩
  between := none
  bottom := ⟨'└', '─', '┴', '┘'⟩

def ascii : GridStyle where
  left := '|'
  inner := '|'
  right := '|'
  top := ⟨'+', '-', '+', '+'⟩
  afterHeader := ⟨'+', '=', '=', '+'⟩
  between := some ⟨'|', '-', '+', '|'⟩
  bottom := ⟨'+', '-', '+', '+'⟩

end GridStyle

/-- A header and rows with as many cells. -/
structure Grid where
  header : List String
  rows : List (List String)
deriving DecidableEq, Repr

namespace Grid

def cellLines (cell : String) : List String :=
  split (· == '\n') cell

def cellWidth (cell : String) : Nat :=
  ((cellLines cell).map columns).foldl max 0

/-- The width of each column. -/
def widths (grid : Grid) : List Nat :=
  grid.rows.foldl (fun widest row => List.zipWith max widest (row.map cellWidth))
    (grid.header.map cellWidth)

/-- The cells of one line with a blank around each, filled up to the width of their columns. -/
def lineText (style : GridStyle) (widths : List Nat) (cells : List String) : String :=
  let filled := List.zipWith (fun width cell =>
    " " ++ cell ++ String.ofList (List.replicate (width - columns cell + 1) ' ')) widths cells
  style.left.toString ++ style.inner.toString.intercalate filled ++ style.right.toString

/-- A horizontal line over columns and the blanks in them. -/
def ruleText (rule : Rule) (widths : List Nat) : String :=
  rule.left.toString ++
    rule.cross.toString.intercalate
      (widths.map fun width => String.ofList (List.replicate (width + 2) rule.body)) ++
    rule.right.toString

/-- The lines of one row. -/
def rowLines (style : GridStyle) (widths : List Nat) (row : List String) : List String :=
  let cells := row.map cellLines
  let height := (cells.map List.length).foldl max 0
  (List.range height).map fun position =>
    lineText style widths (cells.map fun lines => lines[position]?.getD "")

/-- Lines with a rule between each two groups, if there is one. -/
def joinRows (rule : Option String) : List (List String) → List String
  | [] => []
  | [row] => row
  | row :: rest => row ++ rule.toList ++ joinRows rule rest

def lines (style : GridStyle) (grid : Grid) : List String :=
  let widths := grid.widths
  [ruleText style.top widths] ++ rowLines style widths grid.header ++
    [ruleText style.afterHeader widths] ++
    joinRows (style.between.map fun rule => ruleText rule widths)
      (grid.rows.map (rowLines style widths)) ++
    [ruleText style.bottom widths]

end Grid

end SearchQuery.Text
