import NoteSearch.Match.Basic
import NoteSearch.Match.Scan
import NoteSearch.Pattern.Reader

/-!
# Term sets

The terms of a query, ready to be looked for in any number of texts. A signature says what a term set
is made from; the set has a slot for every term that is not empty and, in raw mode, is a pattern. A term
that is no pattern is passed over with a warning, unless it breaks the search: then there is no set.
-/

namespace NoteSearch

/-- What a term set is made from. -/
structure Signature where
  terms : List Text
  fieldTerms : List Text
  caseSensitive : Bool
  literalTerms : Bool
  deriving DecidableEq, Repr

/-- What a slot looks for. -/
inductive Needle
  | literal (text : Text)
  | pattern (pattern : Pattern)
  deriving DecidableEq, Repr

def Needle.lengthAt? (caseSensitive : Bool) : Needle → Place → Option Nat
  | .literal text => literalLengthAt? caseSensitive text
  | .pattern p => p.lengthAt? { caseSensitive }

/-- A term to look for. -/
structure Slot where
  term : Text
  kind : MatchKind
  needle : Needle
  deriving DecidableEq, Repr

structure TermSet where
  caseSensitive : Bool := false
  slots : List Slot := []
  deriving DecidableEq, Repr

namespace TermSet

/-- The terms of a signature that are not empty, with the part each one plays. -/
def requested (signature : Signature) : List (Text × MatchKind) :=
  let kinds : List MatchKind := .primary :: List.replicate signature.terms.length .secondary
  let fields := signature.fieldTerms.map fun term => (term, MatchKind.field)
  (signature.terms.zip kinds ++ fields).filter fun (term, _) => !term.isEmpty

section

variable [Pattern.Dialect]

/-- What to look for when a term is a literal or a pattern, none when it is no pattern. -/
def needle (literalTerms : Bool) (term : Text) : Except Pattern.Fault (Option Needle) :=
  if literalTerms then .ok (some (.literal term))
  else match Pattern.ofText term with
    | .ok p => .ok (some (.pattern p))
    | .error (.fault fault) => .error fault
    | .error _ => .ok none

/-- The slot of a term, none when it is passed over. -/
def slot (literalTerms : Bool) (request : Text × MatchKind) : Except Pattern.Fault (Option Slot) :=
  (needle literalTerms request.1).map (Option.map fun needle => ⟨request.1, request.2, needle⟩)

/-- The term set of a signature, unless one of its terms breaks the search. -/
def compile (signature : Signature) : Except Pattern.Fault TermSet :=
  ((requested signature).mapM (slot signature.literalTerms)).map fun slots =>
    ⟨signature.caseSensitive, slots.reduceOption⟩

/-- How many terms are passed over before the set is made or a term breaks the search. -/
def warnings (signature : Signature) : Nat :=
  (((requested signature).map (slot signature.literalTerms)).takeWhile Except.isOk).countP fun slot =>
    slot.toOption == some none

end

/-- The matches of one slot, in text order. -/
def slotMatches (caseSensitive : Bool) (t : Text) (slot : Slot) : List Match :=
  (scan (slot.needle.lengthAt? caseSensitive) t).map fun found =>
    ⟨found.start, found.start + found.text.length, slot.kind, found.text⟩

/-- All matches in a text, sorted by start; matches with one start keep the order of the slots. -/
def find (set : TermSet) (t : Text) : List Match :=
  Match.sortByStart (set.slots.flatMap (slotMatches set.caseSensitive t))

end TermSet

end NoteSearch
