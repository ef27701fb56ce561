import SearchQuery.Json.Number

/-!
JSON documents, and their texts in two layouts.
-/

namespace SearchQuery.Json

/-- A JSON document. `unusable` is what a text holds where it follows the grammar but stands for
nothing: an unpaired surrogate, a number too large for a double, arrays and objects nested too
deep. -/
inductive Value where
  | null
  | bool (value : Bool)
  | number (value : Number)
  | string (value : String)
  | array (items : List Value)
  | object (members : List (String × Value))
  | unusable

namespace Value

def ofInt (n : Int) : Value :=
  .number (.ofInt n)

/-- Digits are positional for these first digits. -/
def singleRange : Binary.NumeralRange := ⟨-6, 13⟩

def doubleRange : Binary.NumeralRange := ⟨-5, 16⟩

/-- What is not finite has no number in JSON. -/
def ofBinary {format : BinaryFormat} (range : Binary.NumeralRange) (x : Binary format) : Value :=
  match x.fractionalText? range with
  | some text => .number ⟨text⟩
  | none => .null

def ofSingle (x : Single) : Value :=
  ofBinary singleRange x

def ofDouble (x : Double) : Value :=
  ofBinary doubleRange x

mutual

/-- Whether every part of a document stands for something. -/
def isUsable : Value → Bool
  | .unusable => false
  | .array items => allUsable items
  | .object members => membersUsable members
  | _ => true

def allUsable : List Value → Bool
  | [] => true
  | item :: rest => item.isUsable && allUsable rest

def membersUsable : List (String × Value) → Bool
  | [] => true
  | (_, value) :: rest => value.isUsable && membersUsable rest

end

mutual

/-- How many arrays and objects are nested in each other. -/
def depth : Value → Nat
  | .array items => itemsDepth items + 1
  | .object members => membersDepth members + 1
  | _ => 0

def itemsDepth : List Value → Nat
  | [] => 0
  | item :: rest => max item.depth (itemsDepth rest)

def membersDepth : List (String × Value) → Nat
  | [] => 0
  | (_, value) :: rest => max value.depth (membersDepth rest)

end

def hexDigit (n : Nat) : Char :=
  (Nat.toDigits 16 n).head?.getD '0'

/-- One character of a string. Quote, backslash and controls are escaped. -/
def stringChar (c : Char) : List Char :=
  match c with
  | '"' => ['\\', '"']
  | '\\' => ['\\', '\\']
  | '\n' => ['\\', 'n']
  | '\r' => ['\\', 'r']
  | '\t' => ['\\', 't']
  | '\x08' => ['\\', 'b']
  | '\x0c' => ['\\', 'f']
  | c =>
    if c.toNat < 0x20 then ['\\', 'u', '0', '0', hexDigit (c.toNat / 16), hexDigit (c.toNat % 16)]
    else [c]

def stringText (text : String) : List Char :=
  '"' :: text.toList.flatMap stringChar ++ ['"']

def scalarText : Value → List Char
  | .bool true => ['t', 'r', 'u', 'e']
  | .bool false => ['f', 'a', 'l', 's', 'e']
  | .number value => value.text
  | .string value => stringText value
  | _ => ['n', 'u', 'l', 'l']

/-- A new line, indented by two spaces for each level. -/
def newLine (level : Nat) : List Char :=
  '\n' :: List.replicate (2 * level) ' '

mutual

/-- One item or member to a line. -/
def prettyChars (level : Nat) : Value → List Char
  | .array [] => ['[', ']']
  | .array (item :: rest) =>
    '[' :: newLine (level + 1) ++ prettyChars (level + 1) item ++ prettyItems (level + 1) rest ++
      newLine level ++ [']']
  | .object [] => ['{', '}']
  | .object ((name, value) :: rest) =>
    '{' :: newLine (level + 1) ++ stringText name ++ ':' :: ' ' :: prettyChars (level + 1) value ++
      prettyMembers (level + 1) rest ++ newLine level ++ ['}']
  | scalar => scalarText scalar

def prettyItems (level : Nat) : List Value → List Char
  | [] => []
  | item :: rest => ',' :: newLine level ++ prettyChars level item ++ prettyItems level rest

def prettyMembers (level : Nat) : List (String × Value) → List Char
  | [] => []
  | (name, value) :: rest =>
    ',' :: newLine level ++ stringText name ++ ':' :: ' ' :: prettyChars level value ++
      prettyMembers level rest

end

mutual

/-- Everything on one line, without spaces. -/
def compactChars : Value → List Char
  | .array [] => ['[', ']']
  | .array (item :: rest) => '[' :: compactChars item ++ compactItems rest ++ [']']
  | .object [] => ['{', '}']
  | .object ((name, value) :: rest) =>
    '{' :: stringText name ++ ':' :: compactChars value ++ compactMembers rest ++ ['}']
  | scalar => scalarText scalar

def compactItems : List Value → List Char
  | [] => []
  | item :: rest => ',' :: compactChars item ++ compactItems rest

def compactMembers : List (String × Value) → List Char
  | [] => []
  | (name, value) :: rest =>
    ',' :: stringText name ++ ':' :: compactChars value ++ compactMembers rest

end

def pretty (value : Value) : String :=
  String.ofList (prettyChars 0 value)

def compact (value : Value) : String :=
  String.ofList (compactChars value)

end Value

end SearchQuery.Json
