import NoteSearch.FirstSeen
import NoteSearch.Text.Basic

/-!
# Environment files

An environment file gives values to names, one binding a line. A value may stand in quotation marks,
where escapes are resolved and lines may end; outside them a comment ends it. A name without an equals
sign is bound to nothing. A line that cannot be read is passed over. A value may refer to earlier
bindings and to the environment as `$\x7bNAME\x7d`.
-/

namespace NoteSearch.EnvFile

/-- A reader gives what it read and the text after it, or the text at which it failed. -/
abbrev Reading (α : Type) := Except Text (α × Text)

/-- A name with its value; the line of a comment binds no name. -/
structure Binding where
  name : Option Text
  value : Option Text

/-- Blanks other than line ends. -/
def isInlineBlank (c : Char) : Bool :=
  isBlank c && c != '\n' && c != '\r'

def skipInline (t : Text) : Text :=
  t.dropWhile isInlineBlank

/-- Passes over the word `export`. -/
def skipExport (t : Text) : Text :=
  let word := "export".toList
  if word.isPrefixOf t && ((t.drop word.length).head?).any isInlineBlank then
    skipInline (t.drop word.length)
  else t

/-- Reads a name, plain or in single quotation marks; a comment has none. -/
def readName (t : Text) : Reading (Option Text) :=
  match t with
  | '#' :: _ => .ok (none, t)
  | '\'' :: rest =>
      match Text.splitAt? '\'' rest with
      | some (c :: name, after) => .ok (some (c :: name), after)
      | _ => .error t
  | _ =>
      let plain (c : Char) : Bool := c != '=' && c != '#' && !isBlank c
      match t.takeWhile plain with
      | [] => .error t
      | name => .ok (some name, t.dropWhile plain)

/-- The inside of quotation marks, of which `back` is read, and the text after the closing mark. A
backslash keeps the character after it from closing. -/
def readQuoted (mark : Char) (back : Text) : Text → Option (Text × Text)
  | [] => none
  | ['\\'] => none
  | '\\' :: c :: rest => readQuoted mark (c :: '\\' :: back) rest
  | c :: rest => if c == mark then some (back.reverse, rest) else readQuoted mark (c :: back) rest

/-- The character that an escape in quotation marks stands for. -/
def escape? (mark c : Char) : Option Char :=
  if c == '\\' || c == '\'' then some c
  else if mark == '\'' then none
  else match c with
    | '"' => some '"'
    | 'a' => some '\x07'
    | 'b' => some '\x08'
    | 'f' => some '\x0c'
    | 'n' => some '\n'
    | 'r' => some '\r'
    | 't' => some '\t'
    | 'v' => some '\x0b'
    | _ => none

/-- The inside of quotation marks with its escapes resolved. -/
def unescape (mark : Char) : Text → Text
  | '\\' :: c :: rest =>
      match escape? mark c with
      | some d => d :: unescape mark rest
      | none => '\\' :: unescape mark (c :: rest)
  | c :: rest => c :: unescape mark rest
  | [] => []

/-- A plain value without its comment, which begins with blanks and a number sign. -/
def dropComment : Text → Text
  | [] => []
  | c :: rest =>
      if isBlank c && ((c :: rest).dropWhile isBlank).head? == some '#' then []
      else c :: dropComment rest

/-- Reads the value after an equals sign. -/
def readValue (t : Text) : Reading Text :=
  let plain : Reading Text :=
    .ok ((dropComment (t.takeWhile (· != '\n'))).strip, t.dropWhile (· != '\n'))
  match skipInline t with
  | [] => plain
  | c :: rest =>
      if c == '\'' || c == '"' then
        match readQuoted c [] rest with
        | some (inside, after) => .ok (unescape c inside, after)
        | none => .error (c :: rest)
      else plain

/-- Passes over the end of a line, with a comment before it if there is one. -/
def readLineEnd (t : Text) : Reading Unit :=
  let t := skipInline t
  let t := if t.head? == some '#' then t.dropWhile (· != '\n') else t
  match t with
  | [] => .ok ((), [])
  | '\n' :: rest => .ok ((), rest)
  | _ => .error t

/-- Reads one binding. -/
def readBinding (t : Text) : Reading Binding :=
  (readName (skipExport t)).bind fun (name, rest) =>
    (readBound (skipInline rest)).bind fun (value, after) =>
      (readLineEnd after).map fun (_, next) => (⟨name, value⟩, next)
where
  /-- The value of a name, if an equals sign gives it one. -/
  readBound : Text → Reading (Option Text)
    | '=' :: rest => (readValue rest).map fun (value, after) => (some value, after)
    | rest => .ok (none, rest)

/-- A binding, or the number of a line at which something begins that cannot be read. -/
inductive Statement
  | bound (binding : Binding)
  | unreadable (line : Nat)

def Statement.binding? : Statement → Option Binding
  | .bound binding => some binding
  | .unreadable _ => none

def Statement.unreadable? : Statement → Option Nat
  | .bound _ => none
  | .unreadable line => some line

/-- The text of a file without the mark of its encoding, which some editors put first. -/
def dropEncodingMark (file : Text) : Text :=
  if file.head? == some '\uFEFF' then file.drop 1 else file

/-- Reads the statements of a file from the line of a given number on. The blank lines before a
statement belong to it. -/
def readStatements : (fuel line : Nat) → Text → List Statement
  | 0, _, _ => []
  | fuel + 1, line, t =>
      let next (after : Text) : Nat := line + (t.count '\n' - after.count '\n')
      match t.dropWhile isBlank with
      | [] => []
      | c :: rest =>
          match readBinding (c :: rest) with
          | .ok (binding, after) => .bound binding :: readStatements fuel (next after) after
          | .error stopped =>
              let after := (stopped.dropWhile (· != '\n')).drop 1
              .unreadable line :: readStatements fuel (next after) after

def statements (file : Text) : List Statement :=
  readStatements (file.length + 1) 1 (dropEncodingMark file)

/-- The lines at which something begins that cannot be read. -/
def unreadableLines (file : Text) : List Nat :=
  (statements file).filterMap Statement.unreadable?

/-- A part of a value: text, or a reference with the text for an unknown name. -/
inductive Atom
  | text (c : Char)
  | reference (name default : Text)

/-- Reads the inside of a reference up to its brace, with a default after a colon and a dash. -/
def readReference? (t : Text) : Option (Atom × Text) :=
  let name := t.takeWhile fun c => c != '\x7d' && c != ':'
  match t.drop name.length with
  | '\x7d' :: rest => some (.reference name [], rest)
  | ':' :: '-' :: rest =>
      (Text.splitAt? '\x7d' rest).map fun (default, after) => (.reference name default, after)
  | _ => none

/-- The parts of a value. -/
def atoms : (fuel : Nat) → Text → List Atom
  | 0, _ => []
  | fuel + 1, t =>
      match t with
      | [] => []
      | '$' :: '\x7b' :: rest =>
          match readReference? rest with
          | some (atom, after) => atom :: atoms fuel after
          | none => .text '$' :: atoms fuel ('\x7b' :: rest)
      | c :: rest => .text c :: atoms fuel rest

/-- What a reference stands for: the latest binding of the name in the file, else the environment's,
else the default. A name bound to nothing stands for no text. -/
def resolve (environment : List (Text × Text)) (done : List (Text × Option Text)) : Atom → Text
  | .text c => [c]
  | .reference name default =>
      match done.lookup name, environment.lookup name with
      | some value, _ => value.getD []
      | none, some value => value
      | none, none => default

/-- Adds a binding with its references resolved. -/
def addBinding (environment : List (Text × Text)) (done : List (Text × Option Text)) (binding : Binding) :
    List (Text × Option Text) :=
  match binding.name with
  | none => done
  | some name =>
      let value := binding.value.map fun value =>
        (atoms (value.length + 1) value).flatMap (resolve environment done)
      assign name value done

/-- The names that a file binds and their values, in first-seen order. -/
def values (environment : List (Text × Text)) (file : Text) : List (Text × Option Text) :=
  ((statements file).filterMap Statement.binding?).foldl (addBinding environment) []

end NoteSearch.EnvFile
