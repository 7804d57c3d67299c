import NoteSearch.Text.Basic

/-!
# Edit distance

The distance of two texts is the least number of insertions, deletions and replacements that turn one
into the other. It is computed row by row: a row holds the distances from one beginning of the longer
text to every beginning of the shorter one. With a bound, a gap of lengths or a row that exceeds it tells
early that the distance does, and the bound plus one is given; what the last row tells is given as it is.
-/

namespace NoteSearch.EditDistance

/-- The entries of the next row after `left`, below the entries `above` and the entry `diagonal`
before them. -/
def rowAfter (c : Char) (diagonal left : Nat) : Text → List Nat → List Nat
  | d :: short, up :: above =>
      let entry := min (min (up + 1) (left + 1)) (diagonal + if d == c then 0 else 1)
      entry :: rowAfter c up entry short above
  | _, _ => []

/-- The row for one more character of the longer text. -/
def nextRow (c : Char) (short : Text) : List Nat → List Nat
  | [] => []
  | first :: above => (first + 1) :: rowAfter c first (first + 1) short above

/-- The least entry of a row. -/
def rowMin : List Nat → Nat
  | [] => 0
  | entry :: rest => rest.foldl min entry

/-- The last row, none when a row before it or itself exceeds the bound everywhere. -/
def lastRow? (bound : Option Int) (short : Text) (row : List Nat) : Text → Option (List Nat)
  | [] => some row
  | c :: long =>
      let next := nextRow c short row
      if bound.any fun bound => decide (bound < (rowMin next : Int)) then none
      else lastRow? bound short next long

/-- The distance of a text to one that is not shorter. -/
def ofSorted (bound : Option Int) (short long : Text) : Int :=
  let above := bound.getD 0 + 1
  if bound.any fun bound => decide (bound < (long.length : Int) - short.length) then above
  else match lastRow? bound short (List.range (short.length + 1)) long with
    | some row => row.getLastD 0
    | none => above

end NoteSearch.EditDistance

namespace NoteSearch

/-- The edit distance of two texts, or the bound plus one where it is seen early to exceed the bound. The
distance to the empty text is a length, whatever the bound. -/
def editDistance (bound : Option Int) (s t : Text) : Int :=
  if s.isEmpty then t.length
  else if t.isEmpty then s.length
  else if t.length < s.length then EditDistance.ofSorted bound t s
  else EditDistance.ofSorted bound s t

end NoteSearch
