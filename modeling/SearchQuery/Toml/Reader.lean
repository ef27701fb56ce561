import SearchQuery.Toml.Document
import SearchQuery.Toml.Scalar

/-!
From TOML texts to documents.
-/

namespace SearchQuery.Toml

/-- Keys have fewer parts than this, and arrays and tables in braces are nested less deep. -/
def depthLimit : Nat := 80

/-- Reads a comment up to the line break. -/
def readComment (text : List Char) : Option (List Char) :=
  match text with
  | '#' :: rest =>
    match rest.dropWhile fun c => !isControl c with
    | [] => some []
    | rest => if (readLineBreak rest).isSome then some rest else none
  | _ => some text

/-- Reads the rest of a line that holds nothing more than a comment. -/
def readLineEnd (text : List Char) : Option (List Char) := do
  match ← readComment (skipSpaces text) with
  | [] => some []
  | rest => readLineBreak rest

/-- Skips spaces, line breaks and comments. -/
def skipBlanks : Nat → List Char → Option (List Char)
  | 0, _ => none
  | fuel + 1, text => do
    let rest ← readComment (skipSpaces text)
    match readLineBreak rest with
    | some rest => skipBlanks fuel rest
    | none => some rest

def isBareKeyChar (c : Char) : Bool :=
  c.isAlphanum || c == '-' || c == '_'

/-- Reads one part of a key. -/
def readKeyPart (text : List Char) : Option (String × List Char) :=
  match text with
  | '"' :: _ | '\'' :: _ => readQuotedKey text
  | _ =>
    match text.span isBareKeyChar with
    | ([], _) => none
    | (part, rest) => some (String.ofList part, rest)

/-- Reads a key of at most `parts` parts with points between them. -/
def readKey : Nat → List Char → Option ((List String × String) × List Char)
  | 0, _ => none
  | parts + 1, text => do
    let (part, rest) ← readKeyPart (skipSpaces text)
    match skipSpaces rest with
    | '.' :: rest =>
      let ((path, key), rest) ← readKey parts rest
      return ((part :: path, key), rest)
    | rest => return (([], part), rest)

mutual

/-- Reads a value. Every character takes at most two of the steps `fuel`; `levels` are the arrays
and tables that may still be opened. -/
def readValue (fuel levels : Nat) (text : List Char) : Option (Value × List Char) :=
  match fuel, levels with
  | 0, _ => none
  | fuel + 1, levels =>
    match text with
    | '[' :: rest => do
      let levels + 1 := levels | none
      let (items, rest) ← readItems fuel levels rest
      return (.array items, rest)
    | '{' :: rest => do
      let levels + 1 := levels | none
      let (pairs, rest) ←
        match skipSpaces rest with
        | '}' :: rest => some ([], rest)
        | rest => readPairs fuel levels rest
      let entries ← Entries.addAll? [] pairs
      return (.table .inline entries, rest)
    | text => readScalar text

/-- Reads the items of an array up to and with its end. A comma may follow the last one. -/
def readItems (fuel levels : Nat) (text : List Char) : Option (List Value × List Char) :=
  match fuel with
  | 0 => none
  | fuel + 1 => do
    let rest ← skipBlanks (text.length + 1) text
    match rest with
    | ']' :: rest => return ([], rest)
    | rest =>
      let (item, rest) ← readValue fuel levels rest
      let rest ← skipBlanks (rest.length + 1) rest
      match rest with
      | ',' :: rest =>
        let (items, rest) ← readItems fuel levels rest
        return (item :: items, rest)
      | ']' :: rest => return ([item], rest)
      | _ => none

/-- Reads the pairs of a table in braces up to and with its end. -/
def readPairs (fuel levels : Nat) (text : List Char) : Option (List Pair × List Char) :=
  match fuel with
  | 0 => none
  | fuel + 1 => do
    let ((path, key), rest) ← readKey (depthLimit - 1) text
    let '=' :: rest := rest | none
    let (value, rest) ← readValue fuel levels (skipSpaces rest)
    let pair : Pair := ⟨path, key, value⟩
    match skipSpaces rest with
    | ',' :: rest =>
      let (pairs, rest) ← readPairs fuel levels rest
      return (pair :: pairs, rest)
    | '}' :: rest => return ([pair], rest)
    | _ => none

end

/-- Reads a pair and its line. -/
def readPair (text : List Char) : Option (Pair × List Char) := do
  let ((path, key), rest) ← readKey (depthLimit - 1) text
  let '=' :: rest := rest | none
  let (value, rest) ← readValue (2 * rest.length + 2) (depthLimit - 1) (skipSpaces rest)
  let rest ← readLineEnd rest
  return (⟨path, key, value⟩, rest)

/-- Reads a header after its first bracket, and its line. -/
def readHeader (text : List Char) : Option (Header × List Char) := do
  match text with
  | '[' :: rest =>
    let ((path, key), rest) ← readKey (depthLimit - 1) rest
    let ']' :: ']' :: rest := rest | none
    return (.element path key, ← readLineEnd rest)
  | rest =>
    let ((path, key), rest) ← readKey (depthLimit - 1) rest
    let ']' :: rest := rest | none
    return (.table path key, ← readLineEnd rest)

/-- Reads the pairs up to the next header and the sections after them. -/
def readSections : Nat → List Char → Option (List Pair × List Section)
  | 0, _ => none
  | fuel + 1, text => do
    let rest ← skipBlanks (text.length + 1) text
    match rest with
    | [] => return ([], [])
    | '[' :: rest =>
      let (header, rest) ← readHeader rest
      let (pairs, sections) ← readSections fuel rest
      return ([], ⟨header, pairs⟩ :: sections)
    | rest =>
      let (pair, rest) ← readPair rest
      let (pairs, sections) ← readSections fuel rest
      return (pair :: pairs, sections)

/-- The text without the byte order mark that may start it. -/
def dropMark : List Char → List Char
  | '\uFEFF' :: rest => rest
  | text => text

/-- The document that a text holds. -/
def read? (text : String) : Option Entries := do
  let chars := dropMark text.toList
  let (pairs, sections) ← readSections (chars.length + 1) chars
  ofSections? pairs sections

end SearchQuery.Toml
