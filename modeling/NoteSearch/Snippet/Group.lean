import NoteSearch.Match.Basic

/-!
# Groups of nearby matches

Matches that fit the text are folded into groups from left to right. A match joins the open group when
the gap before it is small enough and the group does not grow too long, else it opens the next one.
-/

namespace NoteSearch

/-- The matches that fit a text, by their starts. -/
def validMatches (t : Text) (found : List Match) : List Match :=
  let length := t.length
  Match.sortByStart (found.filter (Match.fits · length))

/-- Consecutive matches that one snippet shows. -/
structure Group where
  start : Int
  stop : Int
  members : List Match
  deriving DecidableEq, Repr

namespace Group

def single (m : Match) : Group :=
  ⟨m.start, m.stop, [m]⟩

def add (group : Group) (m : Match) : Group :=
  { group with stop := max group.stop m.stop, members := group.members ++ [m] }

/-- Whether a match is near enough to join, and the group still short enough with it. -/
def admits (contextWindow maxSpan : Int) (group : Group) (m : Match) : Bool :=
  decide (m.start - group.stop ≤ contextWindow ∧ max group.stop m.stop - group.start ≤ maxSpan)

/-- Folds matches into groups, the first of which is open. -/
def gather (contextWindow maxSpan : Int) (current : Group) : List Match → List Group
  | [] => [current]
  | m :: rest =>
      if current.admits contextWindow maxSpan m then
        gather contextWindow maxSpan (current.add m) rest
      else current :: gather contextWindow maxSpan (single m) rest

end Group

/-- The groups of a list of matches, taken in its order. -/
def groupNearby (contextWindow maxSpan : Int) : List Match → List Group
  | [] => []
  | m :: rest => Group.gather contextWindow maxSpan (.single m) rest

end NoteSearch
