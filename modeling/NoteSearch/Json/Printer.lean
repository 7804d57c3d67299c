import NoteSearch.Json.Basic
import NoteSearch.Number.Shortest

/-!
# Writing JSON

Strings are written as they are, save for the quotation mark, the backslash and the controls. A log
line holds a document on one line; the command line indents by two spaces and writes empty containers
closed. Numbers that are not finite have no JSON form and are written as null.
-/

namespace NoteSearch.Json

def escapeChar (c : Char) : Text :=
  if c == '"' then ['\\', '"']
  else if c == '\\' then ['\\', '\\']
  else if c.toNat = 8 then ['\\', 'b']
  else if c == '\t' then ['\\', 't']
  else if c == '\n' then ['\\', 'n']
  else if c.toNat = 12 then ['\\', 'f']
  else if c == '\r' then ['\\', 'r']
  else if c.toNat < 32 then
    ['\\', 'u', '0', '0', (c.toNat / 16).digitChar, (c.toNat % 16).digitChar]
  else [c]

def printText (t : Text) : Text :=
  '"' :: t.flatMap escapeChar ++ ['"']

def printNumber : Binary64 → Text
  | .finite s m e => (Binary64.finite s m e).toText
  | _ => "null".toList

/-- The pieces of a container, separated by commas. -/
def separated (separator : Text) : List Text → Text
  | [] => []
  | [piece] => piece
  | piece :: rest => piece ++ ',' :: separator ++ separated separator rest

mutual

/-- The document on one line. -/
def compact : Json → Text
  | .null => "null".toList
  | .bool b => (if b then "true" else "false").toList
  | .int n => (toString n).toList
  | .float x => printNumber x
  | .str t => printText t
  | .list items => '[' :: separated [] (compactList items) ++ [']']
  | .object fields => '\x7b' :: separated [] (compactFields fields) ++ ['\x7d']

def compactList : List Json → List Text
  | [] => []
  | item :: rest => compact item :: compactList rest

def compactFields : List (String × Json) → List Text
  | [] => []
  | (name, value) :: rest => (printText name.toList ++ ':' :: compact value) :: compactFields rest

end

/-- A line break and the indentation of `depth` levels. -/
def newline (depth : Nat) : Text :=
  '\n' :: List.replicate (2 * depth) ' '

/-- A container whose pieces stand on lines of their own, one level below `depth`. -/
def block (depth : Nat) (opening closing : Char) (pieces : List Text) : Text :=
  if pieces.isEmpty then [opening, closing]
  else opening :: newline (depth + 1) ++ separated (newline (depth + 1)) pieces
    ++ newline depth ++ [closing]

mutual

/-- The document over several lines, as it stands at a level of indentation. -/
def indented (depth : Nat) : Json → Text
  | .list items => block depth '[' ']' (indentedList (depth + 1) items)
  | .object fields => block depth '\x7b' '\x7d' (indentedFields (depth + 1) fields)
  | .null => "null".toList
  | .bool b => (if b then "true" else "false").toList
  | .int n => (toString n).toList
  | .float x => printNumber x
  | .str t => printText t

def indentedList (depth : Nat) : List Json → List Text
  | [] => []
  | item :: rest => indented depth item :: indentedList depth rest

def indentedFields (depth : Nat) : List (String × Json) → List Text
  | [] => []
  | (name, value) :: rest =>
      (printText name.toList ++ ':' :: ' ' :: indented depth value) :: indentedFields depth rest

end

/-- The document over several lines. -/
def pretty (document : Json) : Text :=
  indented 0 document

end NoteSearch.Json
