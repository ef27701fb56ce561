import SearchQuery.Error
import SearchQuery.Json.Reader

/-!
Typed values from JSON documents. A record is an object with its fields as members, in any order
and with others between them, or an array of its fields in order.
-/

namespace SearchQuery.Json

/-- A field of a record. An array may end before its `trailing` fields. -/
structure Field where
  name : String
  trailing : Bool := false

namespace Value

/-- The one value of a member, or nothing where there is none. Two are refused. -/
def member? (name : String) (members : List (String × Value)) : Option (Option Value) :=
  match members.filter fun member => member.1 = name with
  | [] => some none
  | [(_, value)] => some (some value)
  | _ => none

/-- Fields from the items of an array, one each. -/
def positional : List Field → List Value → Option (List (Option Value))
  | [], [] => some []
  | [], _ :: _ => none
  | field :: fields, [] => if field.trailing then (none :: ·) <$> positional fields [] else none
  | _ :: fields, item :: items => (some item :: ·) <$> positional fields items

/-- The values of the fields of a record, in their order. -/
def record? (fields : List Field) : Value → Option (List (Option Value))
  | .object members => fields.mapM fun field => member? field.name members
  | .array items => positional fields items
  | _ => none

def bool? : Value → Option Bool
  | .bool value => some value
  | _ => none

def string? : Value → Option String
  | .string value => some value
  | _ => none

/-- A whole number from `least` to `greatest`. -/
def int? (least greatest : Int) : Value → Option Int
  | .number value => value.int?.filter fun n => decide (least ≤ n ∧ n ≤ greatest)
  | _ => none

def int32? (value : Value) : Option Int32 :=
  (value.int? Int32.minValue.toInt Int32.maxValue.toInt).map Int32.ofInt

def int64? (value : Value) : Option Int64 :=
  (value.int? Int64.minValue.toInt Int64.maxValue.toInt).map Int64.ofInt

def uint32? (value : Value) : Option UInt32 :=
  (value.int? 0 (UInt32.size - 1)).map fun n => UInt32.ofNat n.toNat

def double? : Value → Option Double
  | .number value => value.double?
  | _ => none

def single? : Value → Option Single
  | .number value => value.single?
  | _ => none

def list? {α : Type} (item? : Value → Option α) : Value → Option (List α)
  | .array items => items.mapM item?
  | _ => none

/-- A named choice: its name, or an object whose one member has that name and no content. Inside a
tagged record an empty object counts as no content too. -/
def choice? {α : Type} (tagged : Bool) (ofName? : String → Option α) : Value → Option α
  | .string name => ofName? name
  | .object [(name, .null)] => ofName? name
  | .object [(name, .object [])] => if tagged then ofName? name else none
  | _ => none

/-- `null` stands for nothing. -/
def nullable? {α : Type} (read? : Value → Option α) : Value → Option (Option α)
  | .null => some none
  | value => (read? value).map some

/-- A field that has to be there. -/
def required {α : Type} (read? : Value → Option α) (field : Option Value) : Option α :=
  field.bind read?

/-- A field that may be absent. -/
def withDefault {α : Type} (default : α) (read? : Value → Option α) (field : Option Value) :
    Option α :=
  match field with
  | some value => read? value
  | none => some default

/-- A field that may be absent or `null`. -/
def optional {α : Type} (read? : Value → Option α) (field : Option Value) : Option (Option α) :=
  withDefault none (nullable? read?) field

end Value

/-- Reads a text and then the document in it. -/
def decode {α : Type} (strict : Bool) (ofJson? : Value → Option α) (text : String) :
    Except QueryError α :=
  match read strict text with
  | .error fault => .error (.json (.grammar fault))
  | .ok value =>
    match ofJson? value with
    | none => .error (.json .unexpectedShape)
    | some result => .ok result

end SearchQuery.Json
