import NoteSearch.Character.Printable
import NoteSearch.Text.Basic

/-!
# Quoted text

Error messages show a text in quotation marks: single ones, or double ones when the text holds a
single mark and no double one. The mark, the backslash and what cannot be printed are escaped.
-/

namespace NoteSearch.Text

/-- `n` in hexadecimal with at least `width` digits. -/
def hex (width n : Nat) : Text :=
  let digits := Nat.toDigits 16 n
  List.replicate (width - digits.length) '0' ++ digits

def escapeChar (mark c : Char) : Text :=
  if c == mark || c == '\\' then ['\\', c]
  else if c == '\n' then ['\\', 'n']
  else if c == '\r' then ['\\', 'r']
  else if c == '\t' then ['\\', 't']
  else if isPrintable c then [c]
  else if c.toNat < 0x100 then '\\' :: 'x' :: hex 2 c.toNat
  else if c.toNat < 0x10000 then '\\' :: 'u' :: hex 4 c.toNat
  else '\\' :: 'U' :: hex 8 c.toNat

/-- The text in quotation marks, as error messages show it. -/
def quoted (t : Text) : Text :=
  let mark := if t.contains '\'' && !t.contains '"' then '"' else '\''
  mark :: t.flatMap (escapeChar mark) ++ [mark]

end NoteSearch.Text
