import NoteSearch.Character.Cased
import NoteSearch.Character.Fold
import NoteSearch.Character.Upper
import NoteSearch.Text.Basic

/-!
# The case of a text

Lower case depends on the neighbours in one place, the sigma that ends a word, and changes the length
in one place, the dotted capital I. Upper case and folding work on each character alone, and both may
lengthen the text.
-/

namespace NoteSearch.Text

/-- Whether the nearest character is cased, passing over those that case ignores. -/
def reachesCased (neighbours : Text) : Bool :=
  ((neighbours.dropWhile isCaseIgnorable).head?).any isCased

/-- The lower-case form of `c` between its neighbours, those before it listed backwards. -/
def lowerBetween (before : Text) (c : Char) (after : Text) : Text :=
  if c = 'Σ' then if reachesCased before && !reachesCased after then ['ς'] else ['σ']
  else if c = 'İ' then ['i', '\u0307']
  else [lowerChar c]

/-- Lower case of a text whose earlier characters, backwards, are `before`. -/
def lowerAfter (before : Text) : Text → Text
  | [] => []
  | c :: rest => lowerBetween before c rest ++ lowerAfter (c :: before) rest

def lower (t : Text) : Text :=
  lowerAfter [] t

def upper (t : Text) : Text :=
  t.flatMap upperForm

/-- The form in which texts are compared without regard to case. -/
def fold (t : Text) : Text :=
  t.flatMap foldForm

end NoteSearch.Text
