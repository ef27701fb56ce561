import SearchQuery.CommandLine.Run

/-!
The command line.
-/

namespace SearchQuery.CommandLine

def readFaultOf : IO.Error → ReadFault
  | .permissionDenied .. => .denied
  | .inappropriateType _ code _ => if code = 20 then .notDirectory else .directory
  | .invalidArgument .. => .longName
  | _ => .missing

/-- The text in the bytes that an action reads. -/
def readText (bytes : IO ByteArray) : IO (Except ReadFault String) := do
  try
    match String.fromUTF8? (← bytes) with
    | some text => return .ok text
    | none => return .error .notText
  catch error => return .error (readFaultOf error)

/-- The files and the standard input of the process. -/
def processWorld : World IO where
  readFile path := readText (IO.FS.readBinFile path)
  readInput := readText do
    let input ← IO.getStdin
    input.readBinToEnd

end SearchQuery.CommandLine

open SearchQuery.CommandLine in
def main (words : List String) : IO UInt32 := do
  let outcome ← run processWorld words (← IO.getEnv "QUARRY_CONFIG")
  for line in outcome.transcript.out do
    IO.println line
  for line in outcome.transcript.err do
    IO.eprintln line
  return outcome.exit
