import SearchQuery.Calendar.Instant
import SearchQuery.Number.Binary

/-!
TOML documents. A table remembers how it came to be, since that decides what may be added to it.
-/

namespace SearchQuery.Toml

/-- What brought a table about: its own header or the document itself, the header of a table inside
it, a dotted key, or a value in braces. -/
inductive Origin where
  | header
  | implied
  | dotted
  | inline
deriving DecidableEq, Repr

/-- A date, a time of day, or both, the latter with an offset in minutes or none. -/
structure Moment where
  date : Option Calendar.Date
  time : Option Calendar.TimeOfDay
  offset : Option Int
deriving DecidableEq, Repr

inductive Value where
  | string (text : String)
  | integer (value : Int)
  | float (value : Double)
  | bool (value : Bool)
  | moment (value : Moment)
  | array (items : List Value)
  | table (origin : Origin) (entries : List (String × Value))
  /-- Tables under one header that is repeated. -/
  | tables (items : List (List (String × Value)))

abbrev Entries := List (String × Value)

namespace Entries

def get? (key : String) (entries : Entries) : Option Value :=
  (entries.find? fun entry => entry.1 = key).map Prod.snd

/-- The entries with a value under a key: in place of the one that is there, else at the end. -/
def set (key : String) (value : Value) (entries : Entries) : Entries :=
  match entries with
  | [] => [(key, value)]
  | entry :: rest =>
    if entry.1 = key then (key, value) :: rest else entry :: set key value rest

/-- Adds a value under a key that is free. -/
def add? (key : String) (value : Value) (entries : Entries) : Option Entries :=
  if (entries.get? key).isSome then none else some (entries.set key value)

/-- Changes the table at the end of a path. `enters` says which tables the path may lead through;
missing ones come to be with the origin `created`. Of repeated tables the path takes the last. -/
def modify? (enters : Origin → Bool) (created : Origin)
    (change : Origin → Entries → Option Entries) :
    List String → Origin → Entries → Option Entries
  | [], origin, entries => change origin entries
  | key :: path, _, entries =>
    match entries.get? key with
    | none => do
      let inner ← modify? enters created change path created []
      return entries.set key (.table created inner)
    | some (.table origin inner) =>
      if enters origin then do
        let inner ← modify? enters created change path origin inner
        return entries.set key (.table origin inner)
      else none
    | some (.tables items) =>
      match items.getLast? with
      | some last => do
        let last ← modify? enters created change path .header last
        return entries.set key (.tables (items.dropLast ++ [last]))
      | none => none
    | some _ => none

/-- Adds a value under a dotted key, given as the path to its table and the last part. Only tables
made by dotted keys are added to. -/
def addDotted? (path : List String) (key : String) (value : Value) (entries : Entries) :
    Option Entries :=
  if path.isEmpty then entries.add? key value
  else
    modify? (fun origin => origin == .implied || origin == .dotted) .dotted
      (fun origin inner => if origin = .dotted then inner.add? key value else none)
      path .header entries

end Entries

/-- A key with its value. The key is the path to its table and the last part. -/
structure Pair where
  path : List String
  key : String
  value : Value

/-- The entries that pairs make, added one after the other to those that are there. -/
def Entries.addAll? (entries : Entries) (pairs : List Pair) : Option Entries :=
  pairs.foldlM (fun entries pair => entries.addDotted? pair.path pair.key pair.value) entries

end SearchQuery.Toml
