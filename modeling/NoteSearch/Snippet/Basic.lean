import NoteSearch.Match.Basic

/-!
# Snippets

A snippet shows a window of a note with the matches inside it, moved to the start of the window.
-/

namespace NoteSearch

structure Snippet where
  text : Text
  highlights : List Match := []
  /-- The note goes on before the window. -/
  moreBefore : Bool := false
  /-- The note goes on after the window. -/
  moreAfter : Bool := false
  /-- The window, in the offsets of the note. -/
  contextStart : Int := 0
  contextEnd : Int := 0
  deriving DecidableEq, Repr

end NoteSearch
