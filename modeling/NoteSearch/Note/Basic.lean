import NoteSearch.Number.Binary64
import NoteSearch.Text.Basic

/-!
# Notes

The engine only reads notes. A note is known by its id, a number or a name, and shown under its title,
else under its nickname, else under the beginning of its first line.
-/

namespace NoteSearch

/-- A number and a name that spells it are different ids. -/
inductive NoteId
  | number (n : Int)
  | name (t : Text)
  deriving DecidableEq, Repr

inductive NoteFormat
  | plaintext
  | markdown
  deriving DecidableEq, Repr

def NoteFormat.name : NoteFormat → String
  | .plaintext => "plaintext"
  | .markdown => "markdown"

structure Note where
  id : NoteId
  content : Text := []
  nickname : Option Text := none
  title : Option Text := none
  format : NoteFormat := .plaintext
  path : Option Text := none
  isFavorite : Bool := false
  deriving DecidableEq, Repr

namespace Note

/-- The length to which a first line is cut when it serves as title. -/
def titleLength : Nat := 100

/-- The title under which a note is shown and highlighted. -/
def displayTitle (note : Note) : Text :=
  match note.title, note.nickname with
  | some (c :: title), _ => c :: title
  | _, some (c :: nickname) => c :: nickname
  | _, _ => (note.content.takeWhile (· != '\n')).take titleLength

end Note

/-- One page of the notes that a search service found. -/
structure Page where
  notes : List Note := []
  totalCount : Nat := 0
  number : Nat := 0
  size : Nat := 50
  hasMore : Bool := false
  queryMillis : Binary64 := .zero

end NoteSearch
