import NoteSearch.Log.Entry
import NoteSearch.Log.Loggers
import NoteSearch.Log.Timestamp

/-!
# Configuring loggers

Configuring sets the level of the root and of some named loggers and chooses between JSON lines and plain
ones. Records that are logged then get through or do not.
-/

namespace NoteSearch.Log.Loggers

/-- Sets levels of named loggers, up to the first name that sets none. -/
def setLevels (loggers : Loggers) : List (Text × Text) → Loggers × Option LevelError
  | [] => (loggers, none)
  | (name, level) :: rest =>
      match severityOf level with
      | .error e => (loggers.touch name, some e)
      | .ok severity => setLevels (loggers.setLevel name severity) rest

/-- Sets levels by their names, the root first. Loggers that are known by then stay known when a name sets
no level. -/
def configure (loggers : Loggers) (level : Text) (json : Bool) (named : List (Text × Text)) :
    Loggers × Option LevelError :=
  match severityOf level with
  | .error e => (loggers, some e)
  | .ok rootLevel => setLevels { loggers with rootLevel, json } named

/-- Logs a record, which makes its logger known; gives it back when it gets through. -/
def log (loggers : Loggers) (record : Record) : Loggers × Option Record :=
  let loggers := loggers.touch record.logger
  let name := if isRoot record.logger then rootName else record.logger
  (loggers,
    if loggers.enabled record.logger record.severity then some { record with logger := name } else none)

/-- Logs records one after the other and keeps those that get through. -/
def emit (loggers : Loggers) : List Record → Loggers × List Record
  | [] => (loggers, [])
  | record :: rest =>
      let (loggers, shown) := loggers.log record
      let (loggers, others) := emit loggers rest
      (loggers, shown.toList ++ others)

/-- The line that is written of a record at a time in microseconds. -/
def line (loggers : Loggers) (micros : Nat) (context : Trace.Context) (record : Record) :
    Except EntryError Text :=
  if loggers.json then (record.entry (isoTimestamp micros) context).map Entry.line
  else record.plainLine.map fun t => plainTimestamp micros ++ ' ' :: t

end NoteSearch.Log.Loggers
