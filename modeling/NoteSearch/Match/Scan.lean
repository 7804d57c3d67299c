import NoteSearch.Pattern.Matcher

/-!
# Scanning a text

A scan goes through a text from left to right and takes every match that it meets, except inside the
one it took before. What is looked for, a literal or a pattern, only says how long a match at a place
is; an empty match is none.
-/

namespace NoteSearch

/-- A stretch of a text that a scan found. -/
structure Found where
  start : Nat
  text : Text
  deriving DecidableEq, Repr

/-- Scans the rest of a text, of which the next `skip` characters are inside the last match; `before` is
what the scan has passed, read backwards. -/
def scanFrom (lengthAt? : Place → Option Nat) (offset : Nat) (before : Text) :
    (skip : Nat) → Text → List Found
  | _, [] => []
  | skip + 1, c :: rest => scanFrom lengthAt? (offset + 1) (c :: before) skip rest
  | 0, c :: rest =>
      match lengthAt? ⟨offset, before, c :: rest⟩ with
      | some (more + 1) =>
          ⟨offset, c :: rest.take more⟩ :: scanFrom lengthAt? (offset + 1) (c :: before) more rest
      | _ => scanFrom lengthAt? (offset + 1) (c :: before) 0 rest

/-- The leftmost matches that do not overlap. -/
def scan (lengthAt? : Place → Option Nat) (t : Text) : List Found :=
  scanFrom lengthAt? 0 [] 0 t

/-- The length of a literal at a place where it stands. -/
def literalLengthAt? (caseSensitive : Bool) (literal : Text) (place : Place) : Option Nat :=
  (place.read? (sameChar caseSensitive) literal).map fun _ => literal.length

end NoteSearch
