import NoteSearch.Failure
import NoteSearch.Log.Level
import NoteSearch.Log.Message
import NoteSearch.Log.Value
import NoteSearch.Trace.Context

/-!
# Log entries

A record becomes one JSON object. It names the level, the message, the logger and the ids of the trace
context, then the failure that is reported and the extra fields of the record. What users wrote is kept
out: fields that hold queries or notes are redacted, whatever their values, and long texts are cut.
-/

namespace NoteSearch.Log

structure Record where
  logger : Text
  severity : Int := 20
  template : Text
  arguments : List Json := []
  failure : Option Failure := none
  extra : List (String × Value) := []

/-- Why a record cannot be written. -/
inductive EntryError
  | message (cause : MessageError)
  | write (cause : WriteError)
  deriving DecidableEq, Repr

/-- The fields of an entry, in the order in which they are written. -/
abbrev Entry := List (String × Json)

/-- Names of extra fields, in lower case, that hold what users wrote. -/
def redactedNames : List String :=
  ["query", "content", "note_content", "raw_query"]

def redactedText : Text := "[REDACTED]".toList

/-- Names that a record uses itself; extra fields of these names are not written. -/
def reservedNames : List String :=
  ["args", "asctime", "created", "exc_info", "exc_text", "filename", "funcName", "levelname",
    "levelno", "lineno", "message", "module", "msecs", "msg", "name", "pathname", "process",
    "processName", "relativeCreated", "stack_info", "thread", "threadName"]

def maxMessageLength : Nat := 2000
def maxValueLength : Nat := 500

def ellipsis : Text := "...".toList

/-- A text of at most `limit` characters, or its beginning and an ellipsis. -/
def truncate {α : Type} (ellipsis : List α) (limit : Nat) (t : List α) : List α :=
  if limit < t.length then t.take limit ++ ellipsis else t

/-- Whether the value of a field must not be written. -/
def isRedacted (name : String) : Bool :=
  redactedNames.contains (String.ofList (Text.lower name.toList))

/-- What is written of an extra field. -/
def redact (name : String) (value : Value) : Value :=
  if isRedacted name then .str redactedText
  else match value with
    | .str t => .str (truncate ellipsis maxValueLength t)
    | other => other

/-- Whether an extra field is written at all. -/
def isWritten (name : String) : Bool :=
  !reservedNames.contains name && name.toList.head? != some '_'

/-- The last part of a dotted logger name. -/
def component? (logger : Text) : Option Text :=
  (Text.splitAtLast? '.' logger).map Prod.snd

/-- What is written of a field; its values stand on the second level. -/
def writeField (value : Value) : Except WriteError Json :=
  value.write 2

/-- What is written of a message, which no half of a pair may be in. -/
def writeMessage (message : Message) : Except WriteError Json :=
  match message.text? with
  | some t => .ok (.str t)
  | none => .error .halfPair

/-- The id of a context, no text when there is none. -/
def contextId (context : Trace.Context) (name : String) : Json :=
  (context.lookup name).getD (.str [])

/-- The fields that every entry has. -/
def headFields (timestamp : Text) (context : Trace.Context) (record : Record) (message : Message) :
    List (String × Except WriteError Json) :=
  [("timestamp", .ok (.str timestamp)), ("level", .ok (.str (severityLabel record.severity))),
    ("message", writeMessage (truncate (Message.ofText ellipsis) maxMessageLength message)),
    ("logger", .ok (.str record.logger)),
    (Trace.traceKey, writeField (.ofJson (contextId context Trace.traceKey))),
    (Trace.spanKey, writeField (.ofJson (contextId context Trace.spanKey)))]
    ++ ((component? record.logger).map fun name => ("component", .ok (.str name))).toList
    ++ (record.failure.map fun failure => ("exception", .ok (.str failure.summary))).toList

/-- All fields with their written values, in order; an extra field may take the place of another. -/
def fields (timestamp : Text) (context : Trace.Context) (record : Record) (message : Message) :
    List (String × Except WriteError Json) :=
  (record.extra.filter fun (name, _) => isWritten name).foldl
    (fun done (name, value) => assign name (writeField (redact name value)) done)
    (headFields timestamp context record message)

/-- The fields when all of them can be written, or why the first one cannot. -/
def collect : List (String × Except WriteError Json) → Except WriteError Entry
  | [] => .ok []
  | (_, .error e) :: _ => .error e
  | (name, .ok value) :: rest => (collect rest).map ((name, value) :: ·)

/-- The entry of a record under a trace context. -/
def Record.entry (timestamp : Text) (context : Trace.Context) (record : Record) :
    Except EntryError Entry :=
  match formatMessage record.template record.arguments with
  | .error e => .error (.message e)
  | .ok message =>
      match collect (fields timestamp context record message) with
      | .error e => .error (.write e)
      | .ok entry => .ok entry

/-- An entry as a line of JSON. -/
def Entry.line (entry : Entry) : Text :=
  (Json.object entry).compact

/-- A record as a plain line without its time. -/
def Record.plainLine (record : Record) : Except EntryError Text :=
  match formatMessage record.template record.arguments with
  | .error e => .error (.message e)
  | .ok message =>
      match message.text? with
      | none => .error (.write .halfPair)
      | some t =>
          .ok (severityLabel record.severity ++ " [".toList ++ record.logger ++ "] ".toList ++ t)

end NoteSearch.Log
