import NoteSearch.FirstSeen
import NoteSearch.Options.Basic
import NoteSearch.Suggestion.Distance
import NoteSearch.Text.Case
import NoteSearch.Validation.Field

/-!
# Corrections

An earlier query is offered as a correction when few edits lead to it and it is like enough to the
query. History is compared without regard to case, and of entries that differ in case only the first
counts. Better corrections come first; equal ones keep the order of the history.
-/

namespace NoteSearch

/-- An earlier query that may be what was meant. -/
structure Correction where
  candidate : Text
  confidence : Binary64
  query : Text
  deriving DecidableEq, Repr

namespace Correction

/-- A confidence that a correction may have: above zero and at most one. -/
def validConfidence (document : Json) : Checked Binary64 :=
  (Field.floatWithin (fun x => x.le (.ofInt 1)) (.atMost 1) (fun x => Binary64.zero.lt x) (.above 0)
    document).map Subtype.val

def ofFields (fields : List (String × Json)) : Checked Correction :=
  let candidate := Field.get fields "candidate_query" Field.text none
  let confidence := Field.get fields "confidence" validConfidence none
  let query := Field.get fields "original_query" Field.text none
  ((candidate.both confidence).both query).map fun ((candidate, confidence), query) =>
    { candidate, confidence, query }

def toFields (c : Correction) : List (String × Json) :=
  [("candidate_query", .str c.candidate), ("confidence", .float c.confidence),
    ("original_query", .str c.query)]

def description (c : Correction) : Text :=
  "Did you mean \"".toList ++ c.candidate ++ "\"?".toList

end Correction

/-- One minus the distance over the longer length, as far as numbers allow. -/
def correctionConfidence (query candidate : Text) (distance : Int) : Binary64 :=
  let longest := max query.length candidate.length
  if longest = 0 then .ofInt 1
  else (Binary64.ofInt 1).sub (.ofRatio (decide (distance < 0)) distance.natAbs longest)

/-- The confidence, none when the distance is too many times the longer length for a number. -/
def correctionConfidence? (query candidate : Text) (distance : Int) : Option Binary64 :=
  match correctionConfidence query candidate distance with
  | .infinite _ => none
  | confidence => some confidence

/-- Stripped entries that are not blank and whose folded form is not in `seen`. -/
def uniqueFrom (seen : List Text) : List Text → List Text
  | [] => []
  | prior :: rest =>
      let entry := prior.strip
      let key := entry.fold
      if entry.isEmpty || seen.contains key then uniqueFrom seen rest
      else entry :: uniqueFrom (key :: seen) rest

/-- The history without blank entries and without those that repeat an earlier one up to case. -/
def uniqueHistory (history : List Text) : List Text :=
  uniqueFrom [] history

/-- The correction that an entry of the history offers, if it is near and like enough. -/
def correction? (query typed : Text) (options : SuggestionOptions) (prior : Text) :
    Option (Checked Correction) :=
  let limit := options.maxEditDistance
  if limit < ((prior.length : Int) - typed.length).natAbs then none
  else
    let distance := editDistance (some limit) typed.fold prior.fold
    if distance = 0 ∨ limit < distance then none
    else
      let confidence := correctionConfidence typed prior distance
      if options.minConfidence.lt confidence then
        some (Correction.ofFields [("candidate_query", .str prior), ("confidence", .float confidence),
          ("original_query", .str query)])
      else none

/-- Corrections by falling confidence. -/
def rankCorrections (corrections : List Correction) : List Correction :=
  corrections.mergeSort fun a b => b.confidence.le a.confidence

/-- The corrections of a query that its history offers. -/
def suggestCorrections (query : Text) (history : List Text) (options : SuggestionOptions) :
    Checked (List Correction) :=
  let typed := query.strip
  if typed.length < options.minQueryLength then .ok []
  else
    (Checked.each ((uniqueHistory history).filterMap (correction? query typed options))).map
      fun corrections => (rankCorrections corrections).take options.maxSuggestions

end NoteSearch
