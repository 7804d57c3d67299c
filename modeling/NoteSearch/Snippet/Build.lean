import NoteSearch.Options.Basic
import NoteSearch.Snippet.Basic
import NoteSearch.Snippet.Group
import NoteSearch.Snippet.Window

/-!
# Cutting snippets

Every group of matches gets a snippet, from left to right and up to a limit. A snippet never reaches
back before the end of the one before it; a group that is already shown there gets none. A text
without matches shows its beginning.
-/

namespace NoteSearch

namespace Snippet

/-- The beginning of a text. -/
def leading (t : Text) (options : HighlightOptions) : Snippet where
  text := t.take options.snippetLength
  moreAfter := decide (options.snippetLength < t.length)
  contextEnd := min t.length options.snippetLength

/-- The snippet of a window, with the matches that lie inside it. -/
def ofWindow (t : Text) (found : List Match) (start stop : Int) : Snippet where
  text := t.slice start stop
  highlights :=
    (found.filter fun m => decide (start ≤ m.start ∧ m.stop ≤ stop)).map (Match.shift · start)
  moreBefore := decide (0 < start)
  moreAfter := decide (stop < t.length)
  contextStart := start
  contextEnd := stop

/-- The window of a group from `anchor` on, not below `floor`. -/
def window (t : Text) (found : List Match) (options : HighlightOptions) (floor anchor : Int)
    (group : Group) : Int × Int :=
  let (start, stop) := Window.expand t.length anchor group.stop options.snippetLength floor
  (Window.settleStart t found floor Window.boundaryTolerance anchor start,
    Window.settleEnd t found Window.boundaryTolerance group.stop stop)

/-- The snippets of groups, at most `room` of them, from `floor` on. -/
def ofGroups (t : Text) (found : List Match) (options : HighlightOptions) :
    (room : Nat) → (floor : Int) → List Group → List Snippet
  | _, _, [] => []
  | 0, _, _ :: _ => []
  | room + 1, floor, group :: rest =>
      let anchor := max group.start floor
      if group.stop ≤ anchor then ofGroups t found options (room + 1) floor rest
      else
        let (start, stop) := window t found options floor anchor group
        ofWindow t found start stop :: ofGroups t found options room stop rest

end Snippet

/-- The snippets of a text around the given matches, which may come in any order. -/
def buildSnippets (t : Text) (found : List Match) (options : HighlightOptions) : List Snippet :=
  match validMatches t found with
  | [] => [Snippet.leading t options]
  | m :: rest =>
      let ordered := m :: rest
      Snippet.ofGroups t ordered options options.maxSnippets 0
        (groupNearby options.contextWindow options.snippetLength ordered)

end NoteSearch
