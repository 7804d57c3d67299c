import NoteSearch.Text.Case

/-!
# Log levels

A level is a number; five of them have names. A level is also set by name, in any case and with a few
older spellings, and a name that is not known sets the level of information.
-/

namespace NoteSearch.Log

/-- The levels that a user may choose. -/
inductive Level
  | debug
  | info
  | warning
  | error
  | critical
  deriving DecidableEq, Repr

namespace Level

def name : Level → String
  | .debug => "debug"
  | .info => "info"
  | .warning => "warning"
  | .error => "error"
  | .critical => "critical"

def severity : Level → Int
  | .debug => 10
  | .info => 20
  | .warning => 30
  | .error => 40
  | .critical => 50

/-- The levels with the names by which they are chosen. -/
def choices : List (String × Level) :=
  [Level.debug, .info, .warning, .error, .critical].map fun level => (level.name, level)

end Level

/-- What a record of a given severity is called. -/
def severityLabel (severity : Int) : Text :=
  if severity = 0 then "NOTSET".toList
  else if severity = 10 then "DEBUG".toList
  else if severity = 20 then "INFO".toList
  else if severity = 30 then "WARNING".toList
  else if severity = 40 then "ERROR".toList
  else if severity = 50 then "CRITICAL".toList
  else "Level ".toList ++ (toString severity).toList

/-- The names by which a severity can be set. -/
def severityNames : List (String × Int) :=
  [("CRITICAL", 50), ("FATAL", 50), ("ERROR", 40), ("WARN", 30), ("WARNING", 30), ("INFO", 20),
    ("DEBUG", 10), ("NOTSET", 0)]

/-- The default line layout. -/
def layout : String := "%(levelname)s:%(name)s:%(message)s"

/-- The line layouts that can be chosen by a mark. -/
def layouts : String :=
  "\x7b'%': (<class 'logging.PercentStyle'>, '%(levelname)s:%(name)s:%(message)s'), "
    ++ "'\x7b': (<class 'logging.StrFormatStyle'>, '\x7blevelname\x7d:\x7bname\x7d:\x7bmessage\x7d'), "
    ++ "'$': (<class 'logging.StringTemplateStyle'>, '$\x7blevelname\x7d:$\x7bname\x7d:$\x7bmessage\x7d')\x7d"

/-- Why a name sets no severity: it is the name of a line layout, or of all layouts. -/
inductive LevelError
  | layout
  | layouts
  deriving DecidableEq, Repr

def LevelError.message : LevelError → String
  | .layout => "Unknown level: '" ++ Log.layout ++ "'"
  | .layouts => "Level not an integer or a valid string: " ++ Log.layouts

/-- The severity that a name sets. -/
def severityOf (name : Text) : Except LevelError Int :=
  let capitals := String.ofList name.upper
  if capitals == "BASIC_FORMAT" then .error .layout
  else if capitals == "_STYLES" then .error .layouts
  else .ok ((severityNames.lookup capitals).getD 20)

end NoteSearch.Log
