import NoteSearch.Text.Basic

/-!
# Wrapped text

A text is broken into lines of a width. A line takes as much as fits. It ends between words or after the
hyphen of a word; a word that is too long for any line is cut where the line is full.
-/

namespace NoteSearch.Text

/-- Whether a word may be broken after a hyphen, by what stands before it, backwards, and after it: two
letters on both sides. -/
def breaksAtHyphen (back rest : Text) : Bool :=
  match back, rest with
  | a :: b :: _, c :: d :: _ => a.isAlpha && b.isAlpha && c.isAlpha && d.isAlpha
  | _, _ => false

/-- The pieces between which a line may end: blanks and the parts of words. `back` is what is read of the
current piece. -/
def piecesFrom (back : Text) : Text → List Text
  | [] => if back.isEmpty then [] else [back.reverse]
  | ' ' :: rest => (if back.isEmpty then [] else [back.reverse]) ++ [' '] :: piecesFrom [] rest
  | c :: rest =>
      if c == '-' && breaksAtHyphen back rest then (c :: back).reverse :: piecesFrom [] rest
      else piecesFrom (c :: back) rest

/-- The text without the blanks at its end. -/
def trimEnd (t : Text) : Text :=
  (t.reverse.dropWhile (· == ' ')).reverse

/-- A line that goes on with as many pieces as fit, and the pieces that are left. -/
def fillLine (width : Nat) (line : Text) : List Text → Text × List Text
  | [] => (trimEnd line, [])
  | piece :: rest =>
      if line.length + piece.length ≤ width then fillLine width (line ++ piece) rest
      else if width < piece.length then
        let room := width - line.length
        (line ++ piece.take room, piece.drop room :: rest)
      else (trimEnd line, piece :: rest)

/-- The lines of some pieces; no line begins with a blank. -/
def fillLines (width : Nat) : (fuel : Nat) → List Text → List Text
  | 0, _ => []
  | fuel + 1, pieces =>
      match pieces.dropWhile (· == [' ']) with
      | [] => []
      | pieces =>
          let (line, rest) := fillLine width [] pieces
          line :: fillLines width fuel rest

/-- The lines of a text. Each takes a character at least, so the length of the text bounds their number. -/
def wrapped (width : Nat) (t : Text) : List Text :=
  fillLines width (t.length + 1) (piecesFrom [] t)

/-- Parts, with a blank between two of them, in lines of a width. `line` is the one to go on with; the others
begin with a margin. -/
def packFrom (width : Nat) (margin line : Text) : List Text → List Text
  | [] => [line]
  | part :: rest =>
      if width < line.length + 1 + part.length then line :: packFrom width margin (margin ++ part) rest
      else packFrom width margin (line ++ ' ' :: part) rest

/-- Parts in lines that all begin with a margin. -/
def packed (width : Nat) (margin : Text) : List Text → List Text
  | [] => []
  | part :: rest => packFrom width margin (margin ++ part) rest

end NoteSearch.Text
