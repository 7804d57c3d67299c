import NoteSearch.Text.Basic

/-!
# Matches

A match is a stretch of a text that a query asks for, with the text it covers and the part the query
gives it. Its ends are integers, because matches may also come from outside and need not fit the text.
-/

namespace NoteSearch

/-- The part that a term plays: the first term, a later one, the value of a field, or another part
named by the caller. -/
inductive MatchKind
  | primary
  | secondary
  | field
  | named (label : Text)
  deriving DecidableEq, Repr

namespace MatchKind

def label : MatchKind → Text
  | .primary => "primary".toList
  | .secondary => "secondary".toList
  | .field => "field".toList
  | .named label => label

def ofLabel (label : Text) : MatchKind :=
  ([MatchKind.primary, .secondary, .field].find? fun kind => kind.label == label).getD (.named label)

end MatchKind

/-- A stretch of text from `start` up to but not including `stop`. -/
structure Match where
  start : Int
  stop : Int
  kind : MatchKind
  term : Text
  deriving DecidableEq, Repr

namespace Match

def length (m : Match) : Int :=
  m.stop - m.start

/-- The same match in a text that begins `offset` characters later. -/
def shift (m : Match) (offset : Int) : Match :=
  { m with start := m.start - offset, stop := m.stop - offset }

/-- Whether the match is a non-empty stretch of a text of the given length. -/
def fits (m : Match) (length : Nat) : Bool :=
  decide (0 ≤ m.start ∧ m.start < m.stop ∧ m.stop ≤ length)

/-- Matches by their starts; those with one start keep their order. -/
def sortByStart (found : List Match) : List Match :=
  found.mergeSort fun a b => decide (a.start ≤ b.start)

end Match

end NoteSearch
