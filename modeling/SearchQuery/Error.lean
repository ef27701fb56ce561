import SearchQuery.Json.GrammarFault

/-!
What can be wrong with a search, a request or a configuration, and the message for each.
-/

namespace SearchQuery

/-- Faults of a request. -/
inductive RequestFault where
  | filterShape (entry : String)
  | fieldName (field : String)
  | unknownOperator (operator : String)
  | missingValue (field : String)
  | unknownField (field : String)
  | unknownSort (name : String)
  | textOperator (kind field : String)
  | notForText (operator field : String)
  | number (text : String)
  | date (text : String)
deriving DecidableEq, Repr

def RequestFault.message : RequestFault → String
  | .filterShape entry => "Invalid filter syntax: " ++ entry
  | .fieldName field => "Invalid filter field name: " ++ field
  | .unknownOperator operator => "Unsupported filter operator: " ++ operator
  | .missingValue field => "Filter on " ++ field ++ " requires a value"
  | .unknownField field => "Unsupported filter field: " ++ field
  | .unknownSort name => "Unsupported sort field: " ++ name
  | .textOperator kind field =>
    "Text operators (prefix, exact, fuzzy) are not supported for " ++ kind ++ " field " ++ field
  | .notForText operator field =>
    "Operator " ++ operator ++ " is not supported for text field " ++ field
  | .number text => "Invalid numeric value: " ++ text
  | .date text => "Invalid date value: " ++ text

/-- Why a file could not be read. -/
inductive ReadFault where
  | missing
  | denied
  | notDirectory
  | directory
  | longName
  | nulInName
  | notText
deriving DecidableEq, Repr

def ReadFault.message : ReadFault → String
  | .missing => "No such file or directory (os error 2)"
  | .denied => "Permission denied (os error 13)"
  | .notDirectory => "Not a directory (os error 20)"
  | .directory => "Is a directory (os error 21)"
  | .longName => "File name too long (os error 36)"
  | .nulInName => "file name contained an unexpected NUL byte"
  | .notText => "stream did not contain valid UTF-8"

/-- Faults of a configuration. -/
inductive ConfigFault where
  | unreadable (path : String) (fault : ReadFault)
  | notToml
  | notSettings
  | unknownBackend (name : String)
deriving DecidableEq, Repr

def ConfigFault.message : ConfigFault → String
  | .unreadable path fault => "failed to read " ++ path ++ ": " ++ fault.message
  | .notToml => "failed to parse config: malformed document"
  | .notSettings => "failed to parse config: unexpected value"
  | .unknownBackend name => "unknown backend: " ++ name

/-- Faults of a JSON text. -/
inductive JsonFault where
  | grammar (fault : Json.GrammarFault)
  | unknownName (name : String) (choices : List String)
  | unexpectedShape
deriving DecidableEq, Repr

/-- Names to choose from, each between backticks. -/
def choiceText (choices : List String) : String :=
  match choices.map fun name => "`" ++ name ++ "`" with
  | [single] => single
  | [first, second] => first ++ " or " ++ second
  | several => "one of " ++ ", ".intercalate several

def JsonFault.message : JsonFault → String
  | .grammar fault => fault.message
  | .unknownName name choices =>
    "unknown variant `" ++ name ++ "`, expected " ++ choiceText choices
  | .unexpectedShape => "unexpected value"

inductive QueryError where
  | groupCreation (reason : String)
  | unresolvedOccurrence (path : List Nat)
  | invalidRequest (fault : RequestFault)
  | config (fault : ConfigFault)
  | json (fault : JsonFault)
deriving DecidableEq, Repr

/-- Positions below the outermost group, joined by slashes. -/
def pathText (path : List Nat) : String :=
  "/".intercalate ("root" :: path.map toString)

def QueryError.message : QueryError → String
  | .groupCreation reason => "group creation failed: " ++ reason
  | .unresolvedOccurrence path => "unresolved occurrence at " ++ pathText path
  | .invalidRequest fault => "invalid request: " ++ fault.message
  | .config fault => "config error: " ++ fault.message
  | .json fault => "json error: " ++ fault.message

end SearchQuery
