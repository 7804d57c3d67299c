import NoteSearch.Number.Binary64

/-!
# Preferences of a search

Option records are passed to every call. Their fields keep to the ranges in which the engine is meant
to work, so a record that exists is one that may be used.
-/

namespace NoteSearch

/-- How terms are matched and how snippets are cut. -/
structure HighlightOptions where
  /-- Snippets shown for one note, at most. -/
  maxSnippets : Nat := 3
  /-- The length in characters that a snippet aims at. -/
  snippetLength : Nat := 150
  /-- The widest gap between matches that share a snippet. -/
  contextWindow : Nat := 40
  caseSensitive : Bool := false
  /-- Terms stand for themselves; otherwise they are read as patterns. -/
  literalTerms : Bool := true
  maxSnippets_range : 1 ≤ maxSnippets ∧ maxSnippets ≤ 50 := by decide
  snippetLength_range : 10 ≤ snippetLength ∧ snippetLength ≤ 5000 := by decide
  contextWindow_range : contextWindow ≤ 1000 := by decide
  deriving DecidableEq

/-- When an earlier query is offered as a correction. -/
structure SuggestionOptions where
  /-- Corrections score above this confidence. -/
  minConfidence : Binary64 := .ofRatio false 6 10
  maxSuggestions : Nat := 2
  /-- The largest number of edits that still counts as a typing error. -/
  maxEditDistance : Nat := 2
  /-- Shorter queries get no corrections. -/
  minQueryLength : Nat := 3
  minConfidence_range : Binary64.zero.le minConfidence ∧ minConfidence.lt (.ofInt 1) := by decide
  maxSuggestions_range : 1 ≤ maxSuggestions ∧ maxSuggestions ≤ 20 := by decide
  maxEditDistance_range : 1 ≤ maxEditDistance ∧ maxEditDistance ≤ 5 := by decide
  minQueryLength_pos : 1 ≤ minQueryLength := by decide
  deriving DecidableEq

end NoteSearch
