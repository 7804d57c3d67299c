import NoteSearch.Command.Misuse
import NoteSearch.Text.Wrapped

/-!
# Help

What the program says about itself, laid out for the width of the terminal. The usage comes first and stands
before a report of misuse, too.
-/

namespace NoteSearch.Command

/-- The width that holds when the terminal has none. -/
def defaultColumns : Nat := 80

/-- Choices in braces. -/
def inBraces (choices : List String) : String :=
  "\x7b" ++ ",".intercalate choices ++ "\x7d"

namespace Switch

/-- What stands for the value of a switch. -/
def placeholder? : Switch → Option String
  | .logLevel => some (inBraces (Log.Level.choices.map Prod.fst))
  | .maxSnippets => some "MAX_SNIPPETS"
  | .snippetLength => some "SNIPPET_LENGTH"
  | .history => some "HISTORY"
  | .limit => some "LIMIT"
  | _ => none

/-- A spelling of a switch with what stands for its value. -/
def written (s : Switch) (spelling : String) : String :=
  match s.placeholder? with
  | some value => spelling ++ " " ++ value
  | none => spelling

def explanation : Switch → String
  | .help => "show this help message and exit"
  | .logLevel => "Override the configured log level"
  | .plainLogs => "Write human-readable logs instead of JSON"
  | .maxSnippets => "Override the configured snippet cap"
  | .snippetLength => "Override the configured snippet length"
  | .caseSensitive => "Match exact case"
  | .history => "Previously issued query (repeatable, most relevant first)"
  | .limit => "Maximum completions"

/-- A switch in the usage. -/
def usage (s : Switch) : Text :=
  ("[" ++ s.written (s.spellings.headD "") ++ "]").toList

end Switch

namespace Name

def explanation : Name → String
  | .highlight => "Print snippets and highlighted segments as JSON"
  | .suggest => "Print typo corrections drawn from query history"
  | .complete => "Print word completions found in note files"

/-- What the first argument of a command is. -/
def subjectExplanation : Name → String
  | .highlight => "Search query (terms, quoted phrases, AND/OR/NOT, field:value)"
  | .suggest => "Query as typed"
  | .complete => "Partial word"

/-- What the files of a command are. -/
def filesExplanation : Name → String
  | .highlight => "Note files to search (default: stdin)"
  | _ => "Note files to read (default: stdin)"

end Name

/-- The names of all commands. -/
def commandNames : String :=
  inBraces (Name.all.map Name.text)

/-- The arguments of a topic in the usage. -/
def argumentUsage : Topic → List Text
  | none => [commandNames.toList, "...".toList]
  | some name =>
      name.subjectName.toList :: if name.takesFiles then ["[files ...]".toList] else []

/-- A line of a list: what is explained, how far it is indented, and the explanation if there is one. -/
structure HelpItem where
  subject : Text
  indent : Nat := 2
  explanation : Option Text := none

/-- The arguments of a topic and what they are. -/
def argumentItems : Topic → List HelpItem
  | none =>
      { subject := commandNames.toList } :: Name.all.map fun name =>
        { subject := name.text.toList, indent := 4, explanation := some name.explanation.toList }
  | some name =>
      { subject := name.subjectName.toList, explanation := some name.subjectExplanation.toList } ::
        if name.takesFiles then
          [{ subject := "files".toList, explanation := some name.filesExplanation.toList }]
        else []

/-- The switches of a topic and what they are. -/
def switchItems (topic : Topic) : List HelpItem :=
  (Switch.ofTopic topic).map fun s =>
    { subject := (", ".intercalate (s.spellings.map s.written)).toList
      explanation := some s.explanation.toList }

def blanks (n : Nat) : Text :=
  List.replicate n ' '

/-- How wide the lines are on a terminal. -/
def lineWidth (columns : Nat) : Nat :=
  columns - 2

/-- How the command line of a topic is written: on one line if it fits; else the switches and the arguments
begin lines of their own, after the program if that is short and below it if not. -/
def usage (columns : Nat) (topic : Topic) : List Text :=
  let width := lineWidth columns
  let lead := "usage: ".toList
  let head := lead ++ (Topic.program topic).toList
  let switches := (Switch.ofTopic topic).map Switch.usage
  let arguments := argumentUsage topic
  let whole := Misuse.joined [' '] (head :: switches ++ arguments)
  if whole.length ≤ width then [whole]
  else if 4 * head.length ≤ 3 * width then
    let margin := blanks (head.length + 1)
    Text.packFrom width margin head switches ++ Text.packed width margin arguments
  else
    let margin := blanks lead.length
    match Text.packed width margin (switches ++ arguments) with
    | [line] => [head, line]
    | _ => head :: Text.packed width margin switches ++ Text.packed width margin arguments

/-- Explanations are this wide at least. -/
def leastWidth : Nat := 11

/-- The lines of an item whose explanation begins at a position: beside the subject if there is room, else
below. -/
def HelpItem.lines (width position : Nat) (item : HelpItem) : List Text :=
  let head := blanks item.indent ++ item.subject
  match item.explanation with
  | none => [head]
  | some t =>
      let below := (Text.wrapped (max leastWidth (width - position)) t).map (blanks position ++ ·)
      if head.length + 2 ≤ position then
        match below with
        | first :: rest => (head ++ first.drop head.length) :: rest
        | [] => [head]
      else head :: below

/-- What the arguments and switches of a topic are. -/
def explanation (columns : Nat) (topic : Topic) : List Text :=
  let width := lineWidth columns
  let arguments := argumentItems topic
  let switches := switchItems topic
  let longest := (arguments ++ switches).foldl (fun n item => max n item.subject.length) 0
  let position := min (longest + 4) (min 24 (max (width - 20) 4))
  let about := match topic with
    | none =>
        let t := "Command-line access to search highlighting and query suggestions.".toList
        Text.wrapped (max leastWidth width) t ++ [[]]
    | some _ => []
  let list (title : String) (items : List HelpItem) : List Text :=
    title.toList :: items.flatMap (HelpItem.lines width position)
  about ++ list "positional arguments:" arguments ++ [] :: list "options:" switches

/-- Lines as a text that ends with a line end. -/
def ofLines (lines : List Text) : Text :=
  lines.flatMap fun line => line ++ ['\n']

/-- The whole help on a topic. -/
def help (columns : Nat) (topic : Topic) : Text :=
  ofLines (usage columns topic) ++ '\n' :: ofLines (explanation columns topic)

end NoteSearch.Command
