import NoteSearch.Command.Item
import NoteSearch.Files.Path
import NoteSearch.Number.Reading
import NoteSearch.Suggestion.Completion

/-!
# The arguments of a command

A command has one argument that says what to look for; for most commands the files to look in follow. Its
switches may stand before, between and after them. What is wrong is reported for the first argument that
shows it, save that arguments which nothing takes are reported last.
-/

namespace NoteSearch.Command

/-- What a switch is given: a value, or nothing when two dashes are attached to it. -/
abbrev Given (α : Type) := Option α

/-- What the switches have chosen. -/
structure Choices where
  logLevel : Given Log.Level := none
  plainLogs : Bool := false
  maxSnippets : Option (Given Int) := none
  snippetLength : Option (Given Int) := none
  caseSensitive : Bool := false
  /-- Earlier queries, in the order in which they are given. -/
  history : List (Given Text) := []
  limit : Given Int := some Completion.defaultLimit
  deriving DecidableEq, Repr

/-- Why reading stops before the end. -/
inductive Halt
  | help
  | misuse (cause : Misuse)
  deriving DecidableEq, Repr

/-- Reading stops, on a topic. -/
structure Stop where
  topic : Topic
  halt : Halt
  deriving DecidableEq, Repr

abbrev Reading (α : Type) := Except Halt α

def fail {α : Type} (cause : Misuse) : Reading α :=
  .error (.misuse cause)

namespace Choices

def readInt (s : Switch) (value : Text) : Reading (Given Int) :=
  if value = markerText then .ok none
  else match Number.argumentInt? value with
    | some n => .ok (some n)
    | none => fail (.notInt s value)

def readLevel (value : Text) : Reading (Given Log.Level) :=
  if value = markerText then .ok none
  else match Log.Level.choices.lookup (String.ofList value) with
    | some level => .ok (some level)
    | none => fail (.unknownLevel value)

/-- Gives a switch its value. -/
def setValue (choices : Choices) (value : Text) : Switch → Reading Choices
  | .logLevel => (readLevel value).map fun logLevel => { choices with logLevel }
  | .maxSnippets => (readInt .maxSnippets value).map fun n => { choices with maxSnippets := some n }
  | .snippetLength =>
      (readInt .snippetLength value).map fun n => { choices with snippetLength := some n }
  | .limit => (readInt .limit value).map fun limit => { choices with limit }
  | .history =>
      let entry := if value = markerText then none else some value
      .ok { choices with history := choices.history ++ [entry] }
  | _ => .ok choices

/-- Turns on a switch without a value; a wish for help stops the reading. -/
def turnOn (choices : Choices) : Switch → Reading Choices
  | .help => .error .help
  | .plainLogs => .ok { choices with plainLogs := true }
  | .caseSensitive => .ok { choices with caseSensitive := true }
  | _ => .ok choices

/-- Turns on a switch to which something is attached, though it takes no value. A short switch may be
followed by itself. -/
def turnOnWith (choices : Choices) (s : Switch) (short : Bool) (attached : Text) : Reading Choices :=
  let left := if short then attached.dropWhile (· == 'h') else attached
  if left.isEmpty && !attached.isEmpty then choices.turnOn s else fail (.unexpectedValue s left)

/-- Applies a switch whose value, if it takes one, is attached or comes next; says whether the next item
was the value. -/
def apply (choices : Choices) (s : Switch) (short : Bool) (attached : Option Text)
    (next : Option (Text × Item)) : Reading (Choices × Bool) :=
  match s.takesValue, attached with
  | true, some value => (choices.setValue value s).map (·, false)
  | true, none =>
      match next with
      | some (value, .plain _) => (choices.setValue value s).map (·, true)
      | _ => fail (.missingValue s)
  | false, some value => (choices.turnOnWith s short value).map (·, false)
  | false, none => (choices.turnOn s).map (·, false)

end Choices

/-- Which plain arguments a command still takes. -/
inductive Stage
  | subject
  | files
  | nothing
  deriving DecidableEq, Repr

/-- What has been read of a command. -/
structure Progress where
  choices : Choices
  stage : Stage := .subject
  subject : Option Text := none
  files : List Text := []
  /-- The arguments that nothing takes. -/
  extras : List Text := []

namespace Progress

/-- The stage after the subject of a command. -/
def afterSubject (name : Name) : Stage :=
  if name.takesFiles then .files else .nothing

/-- A switch ends the files that follow the subject. -/
def closeFiles (progress : Progress) : Progress :=
  if progress.stage = .files then { progress with stage := .nothing } else progress

/-- Takes a plain argument. -/
def take (name : Name) (progress : Progress) (t : Text) : Progress :=
  match progress.stage with
  | .subject => { progress with subject := some t, stage := afterSubject name }
  | .files => { progress with files := progress.files ++ [t] }
  | .nothing => { progress with extras := progress.extras ++ [t] }

/-- Reads the items of a command. The marker goes with the subject when it stands next to it. -/
def read (name : Name) (progress : Progress) : List (Text × Item) → Reading Progress
  | [] => .ok progress
  | (_, .switch s short attached) :: rest =>
      (progress.choices.apply s short attached rest.head?).bind fun (choices, tookNext) =>
        let progress := { progress.closeFiles with choices }
        match rest with
        | [] => .ok progress
        | next :: others =>
            if tookNext then read name progress others else read name progress (next :: others)
  | (t, .unknown _) :: rest =>
      let progress := progress.closeFiles
      read name { progress with extras := progress.extras ++ [t] } rest
  | (t, .marker) :: rest =>
      if progress.stage = .subject then read name progress rest
      else read name (progress.take name t) rest
  | (t, .plain _) :: (mark, .marker) :: rest =>
      if progress.stage = .subject then read name (progress.take name t) rest
      else read name ((progress.take name t).take name mark) rest
  | (t, .plain _) :: rest => read name (progress.take name t) rest

end Progress

/-- A command with its arguments. -/
structure Arguments where
  name : Name
  /-- The query, or the beginning of a word. -/
  subject : Text
  files : List Path
  choices : Choices
  deriving DecidableEq, Repr

namespace Arguments

/-- Whether the command reads its note from the input. -/
def readsInput (arguments : Arguments) : Bool :=
  arguments.name.takesFiles && arguments.files.isEmpty

/-- The arguments that a command requires. -/
def required (name : Name) : List String :=
  name.subjectName :: if name.takesFiles then ["files"] else []

/-- Files after a switch come back as arguments that nothing takes; they are files all the same, unless
one of them looks like a switch. -/
def finish (name : Name) (subject : Text) (progress : Progress) (before : List Text) :
    Except Stop Arguments :=
  let extras := before ++ progress.extras
  if !extras.isEmpty && (!name.takesFiles || extras.any fun t => t.head? == some '-') then
    .error ⟨none, .misuse (.unrecognized extras)⟩
  else
    .ok { name, subject, choices := progress.choices
          files := (progress.files.erase markerText ++ extras).map Path.ofText }

/-- Reads what belongs to a command. -/
def readCommand (name : Name) (choices : Choices) (before arguments : List Text) :
    Except Stop Arguments :=
  let read :=
    match Item.ofArguments (Switch.table (some name)) arguments with
    | .error cause => fail cause
    | .ok items => Progress.read name { choices } items
  match read with
  | .error halt => .error ⟨some name, halt⟩
  | .ok progress =>
      match progress.subject with
      | none => .error ⟨some name, .misuse (.missing (required name))⟩
      | some subject => finish name subject progress before

/-- Reads the items up to the name of a command; `before` are those that nothing takes. -/
def readItems (choices : Choices) (before : List Text) : List (Text × Item) → Except Stop Arguments
  | [] => .error ⟨none, .misuse (.missing ["command"])⟩
  | (_, .switch s short attached) :: rest =>
      match choices.apply s short attached rest.head? with
      | .error halt => .error ⟨none, halt⟩
      | .ok (choices, tookNext) =>
          match rest with
          | [] => readItems choices before []
          | next :: others =>
              if tookNext then readItems choices before others
              else readItems choices before (next :: others)
  | (t, .unknown _) :: rest => readItems choices (before ++ [t]) rest
  | [(_, .marker)] => .error ⟨none, .misuse (.missing ["command"])⟩
  | (t, .marker) :: _ :: _ => .error ⟨none, .misuse (.unknownCommand t)⟩
  | (t, .plain _) :: rest =>
      match Name.ofText? t with
      | none => .error ⟨none, .misuse (.unknownCommand t)⟩
      | some name => readCommand name choices before (rest.map Prod.fst)

/-- Reads a command line. -/
def ofList (arguments : List Text) : Except Stop Arguments :=
  match Item.ofArguments (Switch.table none) arguments with
  | .error cause => .error ⟨none, .misuse cause⟩
  | .ok items => readItems {} [] items

end Arguments

end NoteSearch.Command
