import NoteSearch.Options.Basic
import NoteSearch.Validation.Field

/-!
# Reading option records

An option record is read from an object whose fields are all optional and all known.
-/

namespace NoteSearch

namespace Field

/-! The values of fields that are not given. -/

def defaultSnippets : { n : Nat // 1 ≤ n ∧ n ≤ 50 } := ⟨3, by decide⟩

def defaultLength : { n : Nat // 10 ≤ n ∧ n ≤ 5000 } := ⟨150, by decide⟩

def defaultWindow : { n : Nat // 0 ≤ n ∧ n ≤ 1000 } := ⟨40, by decide⟩

def defaultSuggestions : { n : Nat // 1 ≤ n ∧ n ≤ 20 } := ⟨2, by decide⟩

end Field

namespace HighlightOptions

def fieldNames : List String :=
  ["max_snippets", "snippet_length", "context_window", "case_sensitive", "enable_regex_safe"]

/-- Reads the record; fields that are not given keep their defaults. -/
def ofFields (fields : List (String × Json)) : Checked HighlightOptions :=
  let maxSnippets := Field.get fields "max_snippets" (Field.natWithin 1 50) (some Field.defaultSnippets)
  let snippetLength :=
    Field.get fields "snippet_length" (Field.natWithin 10 5000) (some Field.defaultLength)
  let contextWindow :=
    Field.get fields "context_window" (Field.natWithin 0 1000) (some Field.defaultWindow)
  let caseSensitive := Field.get fields "case_sensitive" Field.bool (some false)
  let literalTerms := Field.get fields "enable_regex_safe" Field.bool (some true)
  let known := Field.unknown fieldNames fields
  ((((maxSnippets.both snippetLength).both contextWindow).both caseSensitive).both literalTerms).both
    known |>.map fun (((((snippets, length), window), caseSensitive), literalTerms), _) =>
      { maxSnippets := snippets.val, snippetLength := length.val, contextWindow := window.val
        caseSensitive, literalTerms
        maxSnippets_range := snippets.property
        snippetLength_range := length.property
        contextWindow_range := window.property.2 }

/-- The fields of the record. -/
def toFields (options : HighlightOptions) : List (String × Json) :=
  [("max_snippets", .int options.maxSnippets), ("snippet_length", .int options.snippetLength),
    ("context_window", .int options.contextWindow), ("case_sensitive", .bool options.caseSensitive),
    ("enable_regex_safe", .bool options.literalTerms)]

end HighlightOptions

/-- A confidence that corrections can be asked to exceed: from zero up to but not including one. -/
def Field.threshold (document : Json) :
    Checked { x : Binary64 // Binary64.zero.le x = true ∧ x.lt (.ofInt 1) = true } :=
  Field.floatWithin (fun x => x.lt (.ofInt 1)) (.below 1) (fun x => Binary64.zero.le x) (.atLeast 0)
    document

/-- The threshold that holds when none is given. -/
def Field.defaultThreshold :
    { x : Binary64 // Binary64.zero.le x = true ∧ x.lt (.ofInt 1) = true } :=
  ⟨.ofRatio false 6 10, by decide⟩

namespace SuggestionOptions

def fieldNames : List String :=
  ["min_confidence", "max_suggestions", "max_edit_distance", "min_query_length"]

def ofFields (fields : List (String × Json)) : Checked SuggestionOptions :=
  let minConfidence :=
    Field.get fields "min_confidence" Field.threshold (some Field.defaultThreshold)
  let maxSuggestions := Field.get fields "max_suggestions" (Field.natWithin 1 20)
    (some Field.defaultSuggestions)
  let maxEditDistance :=
    Field.get fields "max_edit_distance" (Field.natWithin 1 5) (some ⟨2, by decide⟩)
  let minQueryLength := Field.get fields "min_query_length" (Field.natFrom 1) (some ⟨3, by decide⟩)
  let known := Field.unknown fieldNames fields
  (((minConfidence.both maxSuggestions).both maxEditDistance).both minQueryLength).both known
    |>.map fun ((((confidence, suggestions), distance), length), _) =>
      { minConfidence := confidence.val, maxSuggestions := suggestions.val
        maxEditDistance := distance.val, minQueryLength := length.val
        minConfidence_range := confidence.property
        maxSuggestions_range := suggestions.property
        maxEditDistance_range := distance.property
        minQueryLength_pos := length.property }

def toFields (options : SuggestionOptions) : List (String × Json) :=
  [("min_confidence", .float options.minConfidence), ("max_suggestions", .int options.maxSuggestions),
    ("max_edit_distance", .int options.maxEditDistance),
    ("min_query_length", .int options.minQueryLength)]

end SuggestionOptions

end NoteSearch
