import NoteSearch.Text.Basic

/-!
# Commands and switches

The command line begins with switches for all commands; the name of a command follows and then what
belongs to the command. A switch is spelled with dashes; some switches take a value.
-/

namespace NoteSearch.Command

def program : String := "scratch-pad-search"

inductive Name
  | highlight
  | suggest
  | complete
  deriving DecidableEq, Repr

namespace Name

def all : List Name := [.highlight, .suggest, .complete]

def text : Name → String
  | .highlight => "highlight"
  | .suggest => "suggest"
  | .complete => "complete"

def ofText? (t : Text) : Option Name :=
  all.find? fun name => name.text.toList == t

/-- What the first argument of a command is called. -/
def subjectName : Name → String
  | .highlight => "query"
  | .suggest => "query"
  | .complete => "prefix"

/-- Whether files may follow the first argument. -/
def takesFiles : Name → Bool
  | .highlight => true
  | .suggest => false
  | .complete => true

end Name

/-- A command, or the command line as a whole. -/
abbrev Topic := Option Name

/-- The program as messages on a topic name it. -/
def Topic.program (topic : Topic) : String :=
  match topic with
  | none => Command.program
  | some name => Command.program ++ " " ++ name.text

inductive Switch
  | help
  | logLevel
  | plainLogs
  | maxSnippets
  | snippetLength
  | caseSensitive
  | history
  | limit
  deriving DecidableEq, Repr

namespace Switch

/-- The spellings of a switch. -/
def spellings : Switch → List String
  | .help => ["-h", "--help"]
  | .logLevel => ["--log-level"]
  | .plainLogs => ["--plain-logs"]
  | .maxSnippets => ["--max-snippets"]
  | .snippetLength => ["--snippet-length"]
  | .caseSensitive => ["--case-sensitive"]
  | .history => ["--history"]
  | .limit => ["--limit"]

/-- All spellings, as messages name the switch. -/
def label (s : Switch) : String :=
  "/".intercalate s.spellings

def takesValue : Switch → Bool
  | .help => false
  | .plainLogs => false
  | .caseSensitive => false
  | _ => true

/-- The switches of a topic. -/
def ofTopic : Topic → List Switch
  | none => [.help, .logLevel, .plainLogs]
  | some .highlight => [.help, .maxSnippets, .snippetLength, .caseSensitive]
  | some .suggest => [.help, .history]
  | some .complete => [.help, .limit]

/-- The spellings of a topic's switches. -/
def table (topic : Topic) : List (Text × Switch) :=
  (ofTopic topic).flatMap fun s => s.spellings.map fun spelling => (spelling.toList, s)

end Switch

end NoteSearch.Command
