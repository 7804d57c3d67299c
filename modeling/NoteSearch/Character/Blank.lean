/-!
# Blank characters

Queries are split at blanks, terms and phrases are stripped of them, and snippets are cut at them.
Blank are the line and page controls, the information separators, the no-break space and the space
characters of every script; this is wider than the four blanks of `Char.isWhitespace`.
-/

namespace NoteSearch

/-- Spaces, line breaks and separators of every script. -/
def isBlank (c : Char) : Bool :=
  let n := c.toNat
  decide ((9 ≤ n ∧ n ≤ 13) ∨ (28 ≤ n ∧ n ≤ 32) ∨ n = 0x85 ∨ n = 0xA0 ∨ n = 0x1680
    ∨ (0x2000 ≤ n ∧ n ≤ 0x200A) ∨ n = 0x2028 ∨ n = 0x2029 ∨ n = 0x202F ∨ n = 0x205F ∨ n = 0x3000)

end NoteSearch
