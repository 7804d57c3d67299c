import NoteSearch.Json.Basic
import NoteSearch.Number.Shortest
import NoteSearch.Text.Quoted

/-!
# Values in messages

A text stands in a message as it is. Every other value is shown as a literal, in which texts are
quoted.
-/

namespace NoteSearch.Json

/-- The pieces of a literal, separated by commas and spaces. -/
def listed : List Text → Text
  | [] => []
  | [piece] => piece
  | piece :: rest => piece ++ ',' :: ' ' :: listed rest

mutual

/-- A value as a literal. -/
def literal : Json → Text
  | .null => "None".toList
  | .bool b => (if b then "True" else "False").toList
  | .int n => (toString n).toList
  | .float x => x.toText
  | .str t => Text.quoted t
  | .list items => '[' :: listed (literalList items) ++ [']']
  | .object fields => '\x7b' :: listed (literalFields fields) ++ ['\x7d']

def literalList : List Json → List Text
  | [] => []
  | item :: rest => literal item :: literalList rest

def literalFields : List (String × Json) → List Text
  | [] => []
  | (name, value) :: rest =>
      (Text.quoted name.toList ++ ':' :: ' ' :: literal value) :: literalFields rest

end

/-- A value as it stands in a message. -/
def shown : Json → Text
  | .str t => t
  | document => literal document

end NoteSearch.Json
