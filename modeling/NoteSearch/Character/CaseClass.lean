import NoteSearch.Character.Lower

/-!
# Equality up to case

Two characters are equal up to case when their lower-case forms are the same or are two forms of one
letter, as `s` and `ſ`, `σ` and `ς`, `i` and `ı`. `caseClass` picks one character of each class, so
the relation is an equality and an equivalence for that reason.
-/

namespace NoteSearch

/-- Lower-case characters that are forms of one letter, the representative first. -/
def sharedLetters : List (List Nat) := [
  [0x69, 0x131], [0x73, 0x17F], [0xB5, 0x3BC], [0x345, 0x3B9, 0x1FBE], [0x390, 0x1FD3],
  [0x3B0, 0x1FE3], [0x3B2, 0x3D0], [0x3B5, 0x3F5], [0x3B8, 0x3D1], [0x3BA, 0x3F0],
  [0x3C0, 0x3D6], [0x3C1, 0x3F1], [0x3C2, 0x3C3], [0x3C6, 0x3D5], [0x432, 0x1C80],
  [0x434, 0x1C81], [0x43E, 0x1C82], [0x441, 0x1C83], [0x442, 0x1C84, 0x1C85], [0x44A, 0x1C86],
  [0x463, 0x1C87], [0x1C88, 0xA64B], [0x1E61, 0x1E9B], [0xFB05, 0xFB06]]

/-- The representative of the characters that equal `c` up to case. No class has two characters below
128, so those represent themselves. -/
def caseClass (c : Char) : Char :=
  let lower := lowerChar c
  if lower.toNat < 128 then lower
  else match sharedLetters.find? (List.contains · lower.toNat) with
  | some (first :: _) => Char.ofNat first
  | _ => lower

/-- Equality of characters, up to case unless `caseSensitive`. -/
def sameChar (caseSensitive : Bool) (a b : Char) : Bool :=
  if caseSensitive then a == b else caseClass a == caseClass b

/-- All characters that equal `c` up to case. -/
def caseVariants (c : Char) : List Char :=
  let lower := (lowerChar c).toNat
  let forms := (sharedLetters.find? (List.contains · lower)).getD [lower]
  forms.flatMap fun form => Char.ofNat form :: capitals (Char.ofNat form)
where
  /-- The characters whose lower-case form is `c`. -/
  capitals (c : Char) : List Char :=
    let ascii := if 'a' ≤ c ∧ c ≤ 'z' then [Char.ofNat (c.toNat - 32)] else []
    ascii ++ (lowerRules.filterMap fun rule => rule.source? c)

end NoteSearch
