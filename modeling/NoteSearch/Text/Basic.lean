import NoteSearch.Character.Blank

/-!
# Text

The text of notes and queries is the list of its code points. Offsets and lengths count code points,
so a slice of a text is a `take` and a `drop`, and what lies outside the text is cut away.
-/

namespace NoteSearch

/-- A text as the list of its code points. -/
abbrev Text := List Char

namespace Text

/-- The text without the blanks at its two ends. -/
def strip (t : Text) : Text :=
  ((t.dropWhile isBlank).reverse.dropWhile isBlank).reverse

/-- The characters from `start` up to but not including `stop`. -/
def slice (t : Text) (start stop : Int) : Text :=
  (t.take stop.toNat).drop start.toNat

/-- The character at an offset, none outside the text. -/
def at? (t : Text) (i : Int) : Option Char :=
  if i < 0 then none else t[i.toNat]?

/-- Whether a text is not after another one in the order of code points. -/
def le : Text → Text → Bool
  | [], _ => true
  | _ :: _, [] => false
  | c :: s, d :: t => if c == d then le s t else decide (c.toNat < d.toNat)

/-- What stands before the first `c` and what stands after it. -/
def splitAt? (c : Char) (t : Text) : Option (Text × Text) :=
  match t.dropWhile (· != c) with
  | [] => none
  | _ :: after => some (t.takeWhile (· != c), after)

/-- What stands before the last `c` and what stands after it. -/
def splitAtLast? (c : Char) (t : Text) : Option (Text × Text) :=
  (splitAt? c t.reverse).map fun (after, before) => (before.reverse, after.reverse)

/-- The pieces between the occurrences of `c`, at least one. -/
def splitAll (c : Char) : Text → List Text
  | [] => [[]]
  | d :: rest =>
      if d == c then [] :: splitAll c rest
      else match splitAll c rest with
        | [] => [[d]]
        | piece :: pieces => (d :: piece) :: pieces

end Text

end NoteSearch
