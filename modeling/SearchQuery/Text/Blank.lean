import SearchQuery.Text.CodeRanges

/-!
White space in Unicode, and what is cut at it.
-/

namespace SearchQuery.Text

def blankRanges : CodeRanges :=
  [(0x9, 0xD), (0x20, 0x20), (0x85, 0x85), (0xA0, 0xA0), (0x1680, 0x1680), (0x2000, 0x200A),
   (0x2028, 0x2029), (0x202F, 0x202F), (0x205F, 0x205F), (0x3000, 0x3000)]

def isBlank (c : Char) : Bool :=
  blankRanges.has c

def dropBlanks (text : List Char) : List Char :=
  text.dropWhile isBlank

def trimChars (text : List Char) : List Char :=
  (dropBlanks (dropBlanks text).reverse).reverse

/-- The text without the blanks at both ends. -/
def trim (text : String) : String :=
  String.ofList (trimChars text.toList)

/-- The pieces between separators, empty ones included. There is always at least one. -/
def pieces (separator : Char → Bool) : List Char → List (List Char)
  | [] => [[]]
  | c :: rest =>
    if separator c then [] :: pieces separator rest
    else
      match pieces separator rest with
      | first :: others => (c :: first) :: others
      | [] => [[c]]

/-- The pieces of a text between separators, empty ones included. -/
def split (separator : Char → Bool) (text : String) : List String :=
  (pieces separator text.toList).map String.ofList

/-- The runs of characters that are not blank. -/
def words (text : String) : List String :=
  (split isBlank text).filter fun word => word ≠ ""

end SearchQuery.Text
