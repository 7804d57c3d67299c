import NoteSearch.Command.Arguments
import NoteSearch.Command.Document
import NoteSearch.Command.Help
import NoteSearch.Files.Fault
import NoteSearch.Log.Config
import NoteSearch.Settings.Basic
import NoteSearch.Text.Utf8

/-!
# Running a command

A run reads the command line, then the settings, then the notes, and ends with a document to print or with
a report. It is a function of what the host holds: its environment, its files and its input. Log records
are collected and are not part of the output.
-/

namespace NoteSearch.Command

/-- What a run may look at. -/
structure Host where
  environment : List (Text × Text) := []
  read : Path → Except FileFault (List Byte)
  input : List Byte := []

/-- Why a note cannot be read. -/
inductive NoteFault
  | file (path : Path) (fault : FileFault)
  | encoding (error : Utf8.Error)
  deriving DecidableEq, Repr

def NoteFault.message : NoteFault → Text
  | .file path fault => fault.message path
  | .encoding error => error.message.toList

/-- The width of the host's terminal. -/
def Host.columns (host : Host) : Nat :=
  match (host.environment.lookup "COLUMNS".toList).bind Number.argumentInt? with
  | some n => if 0 < n then n.toNat else defaultColumns
  | none => defaultColumns

/-- What no run is prepared for. -/
inductive Breakdown
  /-- A path holds the character that ends a path for the system. -/
  | nulInPath
  /-- The environment file is no text. -/
  | settingsEncoding (error : Utf8.Error)
  /-- An earlier query is nothing. -/
  | noEntry
  /-- The number of completions is nothing. -/
  | noLimit
  /-- A term breaks the search. -/
  | brokenSearch (fault : Pattern.Fault)
  deriving DecidableEq, Repr

def Breakdown.message : Breakdown → Text
  | .nulInPath => "embedded null byte".toList
  | .settingsEncoding error => error.message.toList
  | .noEntry => "'list' object has no attribute 'strip'".toList
  | .noLimit => "'<=' not supported between instances of 'list' and 'int'".toList
  | .brokenSearch fault => fault.message.toList

/-- How a run ends. -/
inductive Ending
  | printed (document : Json)
  | stopped (stop : Stop)
  | invalidSettings (issues : List Issue)
  | invalidOption (issues : List Issue)
  | unreadable (fault : NoteFault)
  | brokenDown (breakdown : Breakdown)

namespace Ending

def exitCode : Ending → Nat
  | .printed _ => 0
  | .stopped ⟨_, .help⟩ => 0
  | .stopped ⟨_, .misuse _⟩ => 2
  | .invalidSettings _ => 2
  | .invalidOption _ => 2
  | .unreadable _ => 1
  | .brokenDown _ => 1

/-- What is printed on a terminal. -/
def output (columns : Nat) : Ending → Text
  | .printed document => document.pretty ++ ['\n']
  | .stopped ⟨topic, .help⟩ => help columns topic
  | _ => []

/-- The line that reports misuse of the command line. -/
def misuseLine (topic : Topic) (cause : Misuse) : Text :=
  (Topic.program topic ++ ": error: ").toList ++ cause.message

/-- The lines that report what went wrong, on a terminal. -/
def report (columns : Nat) : Ending → List Text
  | .printed _ => []
  | .stopped ⟨_, .help⟩ => []
  | .stopped ⟨topic, .misuse cause⟩ =>
      usage columns topic ++ [misuseLine topic cause]
  | .invalidSettings issues =>
      "Error: invalid configuration".toList :: issues.map fun issue => issue.message.toList
  | .invalidOption issues =>
      "Error: invalid option".toList :: issues.map fun issue => issue.message.toList
  | .unreadable fault => ["Error: ".toList ++ fault.message]
  | .brokenDown breakdown => ["Error: ".toList ++ breakdown.message]

end Ending

/-- A run that has ended. -/
structure Outcome where
  ending : Ending
  /-- Lines about the environment file, which come before the log. -/
  warnings : List Text := []
  loggers : Log.Loggers := {}
  /-- The records that get through. -/
  logs : List Log.Record := []

/-- Where the environment file lies. -/
def settingsPath : Path :=
  .ofText ".env".toList

/-- A record for developers. -/
def debugRecord (logger template : String) (extra : List (String × Log.Value)) : Log.Record where
  logger := logger.toList
  severity := Log.Level.debug.severity
  template := template.toList
  extra

def commandRecord (name : Name) : Log.Record :=
  debugRecord "scratch_pad_search.cli" "Running command" [("command", .str name.text.toList)]

def evictionRecord (evicted : Signature) : Log.Record :=
  debugRecord "scratch_pad_search.search.matcher" "Evicted compiled term set"
    [("evicted_term_count", .int evicted.terms.length)]

def batchRecord (notes : List Note) (result : BatchResult) : Log.Record :=
  debugRecord "scratch_pad_search.search.batch" "Batch highlighting complete"
    [("note_count", .int notes.length), ("term_count", .int result.queryTerms.length),
      ("total_matches", .int result.totalMatches)]

/-- The text of a file, with line feeds for the line ends of all conventions. -/
def decodeText (bytes : List Byte) : Except Utf8.Error Text :=
  (Utf8.decode bytes).map Text.unixLines

/-- The id of the note that is read from the input. -/
def inputId : NoteId :=
  .name ['-']

/-- Reads a file as a note; the path is the id and the file's name the nickname. -/
def readNote (host : Host) (path : Path) : Except Ending Note :=
  if path.toText.contains '\x00' then .error (.brokenDown .nulInPath)
  else match host.read path with
    | .error fault => .error (.unreadable (.file path fault))
    | .ok bytes =>
        match decodeText bytes with
        | .error error => .error (.unreadable (.encoding error))
        | .ok content =>
            .ok { id := .name path.toText, content, nickname := some path.name }

/-- Reads the notes of some files, or the one of the input when there are no files. -/
def readNotes (host : Host) (files : List Path) : Except Ending (List Note) :=
  if files.isEmpty then
    match decodeText host.input with
    | .error error => .error (.unreadable (.encoding error))
    | .ok content => .ok [{ id := inputId, content }]
  else files.mapM (readNote host)

/-- The option fields that the switches set. -/
def Choices.overrides (choices : Choices) : List (String × Json) :=
  let given (value : Given Int) : Json := (value.map Json.int).getD (.list [])
  (choices.maxSnippets.map fun value => ("max_snippets", given value)).toList
    ++ (choices.snippetLength.map fun value => ("snippet_length", given value)).toList
    ++ if choices.caseSensitive then [("case_sensitive", Json.bool true)] else []

/-- The options of a highlighting command: the settings, overridden by switches. -/
def highlightOptions (settings : Settings) (choices : Choices) : Checked HighlightOptions :=
  settings.highlightOptions.bind fun options =>
    HighlightOptions.ofFields
      (choices.overrides.foldl (fun fields (name, value) => assign name value fields) options.toFields)

/-- The cache that the settings ask for. -/
def startCache (settings : Settings) : Cache :=
  match settings.cache with
  | .ok cache => cache
  | .error _ => .default

/-- An ending and the records that lead to it. -/
abbrev Course := Ending × List Log.Record

def runHighlight [Pattern.Dialect] (host : Host) (settings : Settings) (arguments : Arguments) : Course :=
  match highlightOptions settings arguments.choices with
  | .error issues => (.invalidOption issues, [])
  | .ok options =>
      match readNotes host arguments.files with
      | .error ending => (ending, [])
      | .ok notes =>
          let run := Batch.run (startCache settings) notes arguments.subject options
          let evictions := run.evicted.map evictionRecord
          match run.result with
          | .error fault => (.brokenDown (.brokenSearch fault), evictions)
          | .ok result => (.printed (batchDocument result notes), evictions ++ [batchRecord notes result])

/-- A history in which an entry is nothing breaks the run as soon as it is looked at. -/
def runSuggest (settings : Settings) (arguments : Arguments) : Course :=
  match settings.suggestionOptions with
  | .error issues => (.invalidOption issues, [])
  | .ok options =>
      let history := arguments.choices.history
      if history.contains none && options.minQueryLength ≤ arguments.subject.strip.length then
        (.brokenDown .noEntry, [])
      else match suggestCorrections arguments.subject (history.filterMap id) options with
        | .error issues => (.invalidOption issues, [])
        | .ok corrections => (.printed (correctionsDocument corrections), [])

/-- A limit that is nothing breaks the run as soon as it is asked for. -/
def runComplete (host : Host) (arguments : Arguments) : Course :=
  match readNotes host arguments.files with
  | .error ending => (ending, [])
  | .ok notes =>
      let limit := arguments.choices.limit
      if limit.isNone && Completion.minPrefixLength ≤ arguments.subject.strip.lower.length then
        (.brokenDown .noLimit, [])
      else
        let found := suggestCompletions arguments.subject notes (limit.getD 0)
        (.printed (completionsDocument found), [])

/-- Runs a command, whose name is logged first. -/
def runCommand [Pattern.Dialect] (host : Host) (settings : Settings) (arguments : Arguments) : Course :=
  let (ending, records) :=
    match arguments.name with
    | .highlight => runHighlight host settings arguments
    | .suggest => runSuggest settings arguments
    | .complete => runComplete host arguments
  (ending, commandRecord arguments.name :: records)

/-- A line about something in the environment file that cannot be read. -/
def unreadableLine (line : Nat) : Text :=
  ("python-dotenv could not parse statement starting at line " ++ toString line).toList

/-- The text of the environment file, none when there is no such file. -/
def settingsText (host : Host) : Except Utf8.Error (Option Text) :=
  match host.read settingsPath with
  | .error _ => .ok none
  | .ok bytes => (decodeText bytes).map some

/-- The loggers of a run; a switch overrides the level of the settings, and plain lines are written when
either asks for them. -/
def loggersOf (settings : Settings) (choices : Choices) : Log.Loggers where
  rootLevel := (choices.logLevel.getD settings.logLevel).severity
  json := settings.logJson && !choices.plainLogs

/-- Runs a command line on a host. -/
def run [Pattern.Dialect] (host : Host) (argv : List Text) : Outcome :=
  match Arguments.ofList argv with
  | .error stop => { ending := .stopped stop }
  | .ok arguments =>
      match settingsText host with
      | .error error => { ending := .brokenDown (.settingsEncoding error) }
      | .ok file =>
          let warnings := (file.map EnvFile.unreadableLines).getD [] |>.map unreadableLine
          match Settings.load host.environment file with
          | .error issues => { ending := .invalidSettings issues, warnings }
          | .ok settings =>
              let (ending, records) := runCommand host settings arguments
              let (loggers, logs) := (loggersOf settings arguments.choices).emit records
              { ending, warnings, loggers, logs }

end NoteSearch.Command
