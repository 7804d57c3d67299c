import NoteSearch.Command.Run
import Std.Time.DateTime.Timestamp

/-!
# The program

Collects what a run may look at, runs the command line and writes what it gives: the document to the
output, the log and the report to the error output.
-/

open NoteSearch NoteSearch.Command

namespace NoteSearch.Main

/-- What an error of the system says about a file. -/
def faultOf (error : IO.Error) : FileFault :=
  match error with
  | .noFileOrDirectory .. => .missing
  | .permissionDenied .. => .denied
  | .inappropriateType _ code details => ofCode code details
  | .invalidArgument _ code details => ofCode code details
  | .otherError code details => ofCode code details
  | other => .other 5 (toString other)
where
  ofCode (code : UInt32) (details : String) : FileFault :=
    ([FileFault.notDirectory, .isDirectory, .nameTooLong].find? fun fault => fault.code == code.toNat).getD
      (.other code.toNat details)

def readFile (path : Path) : IO (Path × Except FileFault (List Byte)) := do
  try
    let bytes ← IO.FS.readBinFile (String.ofList path.toText)
    return (path, .ok bytes.toList)
  catch error =>
    return (path, .error (faultOf error))

/-- The environment, as the system lists it. -/
def readEnvironment : IO (List (Text × Text)) := do
  let (_, listed) ← readFile (.ofText "/proc/self/environ".toList)
  let entries := match listed with
    | .ok bytes => Text.splitAll '\x00' (Utf8.decodeLossy bytes)
    | .error _ => []
  return entries.filterMap (Text.splitAt? '=')

/-- A host that holds the files that a command line asks for, and the input if it asks for it. -/
def readHost (argv : List Text) : IO Host := do
  let environment ← readEnvironment
  let arguments := (Arguments.ofList argv).toOption
  let files ← (settingsPath :: (arguments.map Arguments.files).getD []).mapM readFile
  let input ← if arguments.any Arguments.readsInput then (← IO.getStdin).readBinToEnd
    else pure ByteArray.empty
  return { environment, input := input.toList
           read := fun path => (files.lookup path).getD (.error .missing) }

/-- A context with random ids. -/
def randomContext : IO Trace.Context := do
  let id (size : USize) : IO Text := do
    return (← IO.getRandomBytes size).toList.flatMap fun byte => Text.hex 2 byte.toNat
  return Trace.ofIds ⟨← id 16, ← id 8⟩

def microsecondsNow : IO Nat := do
  let now ← Std.Time.Timestamp.now
  return now.toNanosecondsSinceUnixEpoch.val.toNat / 1000

def writeLine (stream : IO.FS.Stream) (line : Text) : IO Unit :=
  stream.putStr (String.ofList (line ++ ['\n']))

end NoteSearch.Main

open NoteSearch.Main

def main (arguments : List String) : IO UInt32 := do
  let argv := arguments.map String.toList
  let host ← readHost argv
  -- the command line takes terms as they are, so that it needs no names of characters
  let _ := Pattern.Dialect.nameless
  let outcome := Command.run host argv
  let errors ← IO.getStderr
  outcome.warnings.forM (writeLine errors)
  let context ← randomContext
  for record in outcome.logs do
    match outcome.loggers.line (← microsecondsNow) context record with
    | .ok line => writeLine errors line
    | .error _ => pure ()
  (outcome.ending.report host.columns).forM (writeLine errors)
  (← IO.getStdout).putStr (String.ofList (outcome.ending.output host.columns))
  return outcome.ending.exitCode.toUInt32
