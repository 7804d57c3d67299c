/-!
# Tables of characters

Two shapes of table: ascending ranges of code points for a property, and rules for a case map. A rule
covers every `step`-th code point of a range and moves each by the same offset, which is how the
scripts with case are laid out.
-/

namespace NoteSearch

/-- Whether a code point lies in one of the ascending ranges. -/
def inRanges : List (Nat × Nat) → Nat → Bool
  | [], _ => false
  | (low, high) :: rest, n =>
      if n < low then false else if n ≤ high then true else inRanges rest n

/-- One row of a case map: the code points `first`, `first + step`, … up to `last` move by `offset`. -/
structure CaseRule where
  first : Nat
  last : Nat
  step : Nat
  offset : Int

namespace CaseRule

def covers (rule : CaseRule) (n : Nat) : Bool :=
  decide (rule.first ≤ n ∧ n ≤ rule.last ∧ (n - rule.first) % rule.step = 0)

/-- Moves a character that the rule covers. -/
def apply (rule : CaseRule) (c : Char) : Char :=
  Char.ofNat (c.toNat + rule.offset).toNat

/-- The character that the rule moves to `c`, if there is one. -/
def source? (rule : CaseRule) (c : Char) : Option Char :=
  let n := (c.toNat - rule.offset).toNat
  if rule.covers n then some (Char.ofNat n) else none

end CaseRule

/-- The image of a character under a case map, itself when no rule covers it. -/
def applyCase (rules : List CaseRule) (c : Char) : Char :=
  match rules.find? (CaseRule.covers · c.toNat) with
  | some rule => rule.apply c
  | none => c

end NoteSearch
