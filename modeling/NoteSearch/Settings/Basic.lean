import NoteSearch.Log.Level
import NoteSearch.Match.Cache
import NoteSearch.Options.Reading
import NoteSearch.Settings.EnvFile

/-!
# Settings

A host takes its settings from the environment and from an environment file, the environment first.
Names of settings may be written in any case. The engine never reads settings; the host turns them
into option records and a cache.
-/

namespace NoteSearch

structure Settings where
  logLevel : Log.Level
  logJson : Bool
  maxSnippets : Nat
  snippetLength : Nat
  contextWindow : Nat
  caseSensitive : Bool
  patternCacheSize : Nat
  minConfidence : Binary64
  maxSuggestions : Nat
  deriving DecidableEq

namespace Settings

/-- Bindings under lower-case names, the last one of a name counting; a name bound to nothing is not
bound. -/
def normalise (bindings : List (Text × Option Text)) : List (String × Json) :=
  let merged := bindings.foldl (fun done (name, value) => assign name.lower value done) []
  merged.filterMap fun (name, value) => value.map fun t => (String.ofList name, Json.str t)

/-- The values of all sources, those of the environment first. -/
def sources (environment : List (Text × Text)) (file : Option Text) : List (String × Json) :=
  let own := normalise (environment.map fun (name, value) => (name, some value))
  match file with
  | none => own
  | some file => own ++ normalise (EnvFile.values environment file)

/-- Reads settings from named values. -/
def ofFields (fields : List (String × Json)) : Checked Settings :=
  let logLevel := Field.get fields "log_level" (Field.choice Log.Level.choices) (some .info)
  let logJson := Field.get fields "log_json" Field.bool (some true)
  let maxSnippets := Field.get fields "max_snippets" (Field.natWithin 1 50) (some Field.defaultSnippets)
  let snippetLength :=
    Field.get fields "snippet_length" (Field.natWithin 10 5000) (some Field.defaultLength)
  let contextWindow :=
    Field.get fields "context_window" (Field.natWithin 0 1000) (some Field.defaultWindow)
  let caseSensitive := Field.get fields "case_sensitive" Field.bool (some false)
  let patternCacheSize := Field.get fields "pattern_cache_size" (Field.natFrom 1)
    (some ⟨Cache.defaultCapacity, by decide⟩)
  let minConfidence :=
    Field.get fields "min_confidence" Field.threshold (some Field.defaultThreshold)
  let maxSuggestions := Field.get fields "max_suggestions" (Field.natWithin 1 20)
    (some Field.defaultSuggestions)
  ((((((((logLevel.both logJson).both maxSnippets).both snippetLength).both contextWindow).both
    caseSensitive).both patternCacheSize).both minConfidence).both maxSuggestions).map
    fun ((((((((level, json), snippets), length), window), caseSensitive), cache), confidence),
        suggestions) =>
      { logLevel := level, logJson := json, maxSnippets := snippets.val, snippetLength := length.val
        contextWindow := window.val, caseSensitive, patternCacheSize := cache.val
        minConfidence := confidence.val, maxSuggestions := suggestions.val }

/-- The settings of an environment and of an environment file, when there is one. -/
def load (environment : List (Text × Text)) (file : Option Text) : Checked Settings :=
  ofFields (sources environment file)

def toFields (s : Settings) : List (String × Json) :=
  [("log_level", .str s.logLevel.name.toList), ("log_json", .bool s.logJson),
    ("max_snippets", .int s.maxSnippets), ("snippet_length", .int s.snippetLength),
    ("context_window", .int s.contextWindow), ("case_sensitive", .bool s.caseSensitive),
    ("pattern_cache_size", .int s.patternCacheSize), ("min_confidence", .float s.minConfidence),
    ("max_suggestions", .int s.maxSuggestions)]

/-- The fields that the settings give to a record of highlighting options. -/
def highlightFields (s : Settings) : List (String × Json) :=
  [("max_snippets", .int s.maxSnippets), ("snippet_length", .int s.snippetLength),
    ("context_window", .int s.contextWindow), ("case_sensitive", .bool s.caseSensitive)]

def highlightOptions (s : Settings) : Checked HighlightOptions :=
  HighlightOptions.ofFields s.highlightFields

def suggestionOptions (s : Settings) : Checked SuggestionOptions :=
  SuggestionOptions.ofFields
    [("min_confidence", .float s.minConfidence), ("max_suggestions", .int s.maxSuggestions)]

/-- An empty cache of the size that the settings ask for. -/
def cache (s : Settings) : Except String Cache :=
  Cache.create s.patternCacheSize

end Settings

end NoteSearch
