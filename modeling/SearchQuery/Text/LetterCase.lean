import SearchQuery.Text.LetterCase.Table

/-!
Lower case for all of Unicode. A capital sigma that ends a word becomes the final form.
-/

namespace SearchQuery.Text

def isCased (c : Char) : Bool :=
  casedRanges.has c

def isCaseIgnorable (c : Char) : Bool :=
  caseIgnorableRanges.has c

/-- The single lower-case character of `c`, or `c` itself. -/
def lowerChar (c : Char) : Char :=
  if c.toNat < 128 then c.toLower
  else
    match lowercaseRuns.find? fun (first, last, step, _) =>
        first ≤ c.toNat && c.toNat ≤ last && (c.toNat - first) % step = 0 with
    | some (_, _, _, shift) => Char.ofNat (c.toNat + shift).toNat
    | none => c

/-- Whether a cased letter comes next, looking through what case rules ignore. -/
def meetsCased (text : List Char) : Bool :=
  match text.dropWhile isCaseIgnorable with
  | c :: _ => isCased c
  | [] => false

/-- The lower-case form of `c` between the reversed text before it and the text after it. -/
def lowerWithin (before : List Char) (c : Char) (after : List Char) : List Char :=
  if c = 'Σ' then [if meetsCased before && !meetsCased after then 'ς' else 'σ']
  else if c = 'İ' then ['i', '\u0307']
  else [lowerChar c]

def lowerChars (before : List Char) : List Char → List Char
  | [] => []
  | c :: after => lowerWithin before c after ++ lowerChars (c :: before) after

def lowercase (text : String) : String :=
  String.ofList (lowerChars [] text.toList)

/-- A value in the letter case in which it is looked for. -/
def folded (caseSensitive : Bool) (value : String) : String :=
  if caseSensitive then value else lowercase value

/-- Lower case of the letters `A` to `Z` only. -/
def asciiLowercase (text : String) : String :=
  text.map Char.toLower

end SearchQuery.Text
