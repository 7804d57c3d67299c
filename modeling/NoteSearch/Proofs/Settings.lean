import NoteSearch.Proofs.Options

/-!
# Accepted settings

Settings are checked when they are read, and the records that are made of them are checked once more.
The ranges agree: whatever settings an environment and an environment file give, the records and the
cache can be made of them and hold the same values.
-/

namespace NoteSearch

namespace Field

variable {fields : List (String × Json)} {name : String} {low high n : Nat}

theorem get_of_lookup {α : Type} {read : Json → Checked α} {default : Option α} {document : Json} {a : α}
    (hlookup : fields.lookup name = some document) (hread : read document = .ok a) :
    get fields name read default = .ok a := by
  simp [get, hlookup, hread, Checked.under]

theorem natWithin_int (hrange : low ≤ n ∧ n ≤ high) :
    natWithin low high (.int n) = .ok ⟨n, hrange⟩ := by
  have hhigh : ¬(high : Int) < n := by omega
  simp [natWithin, int, hhigh, hrange]

theorem threshold_float {x : Binary64} (hrange : Binary64.zero.le x = true ∧ x.lt (.ofInt 1) = true) :
    threshold (.float x) = .ok ⟨x, hrange⟩ := by
  simp [threshold, floatWithin, float, hrange.1, hrange.2]

end Field

namespace Settings

variable {settings : Settings}

/-- The ranges that the option records and the cache ask for. -/
structure InRange (settings : Settings) : Prop where
  maxSnippets : 1 ≤ settings.maxSnippets ∧ settings.maxSnippets ≤ 50
  snippetLength : 10 ≤ settings.snippetLength ∧ settings.snippetLength ≤ 5000
  contextWindow : 0 ≤ settings.contextWindow ∧ settings.contextWindow ≤ 1000
  patternCacheSize : 1 ≤ settings.patternCacheSize
  minConfidence :
    Binary64.zero.le settings.minConfidence = true ∧ settings.minConfidence.lt (.ofInt 1) = true
  maxSuggestions : 1 ≤ settings.maxSuggestions ∧ settings.maxSuggestions ≤ 20

theorem inRange_of_ofFields {fields : List (String × Json)} (hread : ofFields fields = .ok settings) :
    settings.InRange := by
  rw [ofFields] at hread
  obtain ⟨values, -, rfl⟩ := map_eq_ok_iff.mp hread
  obtain ⟨⟨⟨⟨⟨⟨⟨⟨level, json⟩, snippets⟩, length⟩, window⟩, caseSensitive⟩, cache⟩, confidence⟩,
    suggestions⟩ := values
  exact
    { maxSnippets := snippets.property
      snippetLength := length.property
      contextWindow := window.property
      patternCacheSize := cache.property
      minConfidence := confidence.property
      maxSuggestions := suggestions.property }

namespace InRange

theorem highlightOptions_eq (hrange : settings.InRange) :
    settings.highlightOptions = .ok
      { maxSnippets := settings.maxSnippets, snippetLength := settings.snippetLength
        contextWindow := settings.contextWindow, caseSensitive := settings.caseSensitive
        literalTerms := true
        maxSnippets_range := hrange.maxSnippets
        snippetLength_range := hrange.snippetLength
        contextWindow_range := hrange.contextWindow.2 } := by
  have hsnippets : Field.get settings.highlightFields "max_snippets" (Field.natWithin 1 50)
      (some Field.defaultSnippets) = .ok ⟨_, hrange.maxSnippets⟩ :=
    Field.get_of_lookup rfl (Field.natWithin_int hrange.maxSnippets)
  have hlength : Field.get settings.highlightFields "snippet_length" (Field.natWithin 10 5000)
      (some Field.defaultLength) = .ok ⟨_, hrange.snippetLength⟩ :=
    Field.get_of_lookup rfl (Field.natWithin_int hrange.snippetLength)
  have hwindow : Field.get settings.highlightFields "context_window" (Field.natWithin 0 1000)
      (some Field.defaultWindow) = .ok ⟨_, hrange.contextWindow⟩ :=
    Field.get_of_lookup rfl (Field.natWithin_int hrange.contextWindow)
  have hcase : Field.get settings.highlightFields "case_sensitive" Field.bool (some false)
      = .ok settings.caseSensitive :=
    Field.get_bool_of_lookup rfl
  have hliteral : Field.get settings.highlightFields "enable_regex_safe" Field.bool (some true)
      = .ok true :=
    Field.get_of_lookup_eq_none rfl
  have hknown : Field.unknown HighlightOptions.fieldNames settings.highlightFields = .ok () := rfl
  rw [highlightOptions, HighlightOptions.ofFields, hsnippets, hlength, hwindow, hcase, hliteral, hknown]
  rfl

theorem suggestionOptions_eq (hrange : settings.InRange) :
    settings.suggestionOptions = .ok
      { minConfidence := settings.minConfidence, maxSuggestions := settings.maxSuggestions
        minConfidence_range := hrange.minConfidence
        maxSuggestions_range := hrange.maxSuggestions } := by
  let fields : List (String × Json) :=
    [("min_confidence", .float settings.minConfidence), ("max_suggestions", .int settings.maxSuggestions)]
  have hconfidence : Field.get fields "min_confidence" Field.threshold (some Field.defaultThreshold)
      = .ok ⟨_, hrange.minConfidence⟩ :=
    Field.get_of_lookup rfl (Field.threshold_float hrange.minConfidence)
  have hsuggestions : Field.get fields "max_suggestions" (Field.natWithin 1 20)
      (some Field.defaultSuggestions) = .ok ⟨_, hrange.maxSuggestions⟩ :=
    Field.get_of_lookup rfl (Field.natWithin_int hrange.maxSuggestions)
  have hdistance : Field.get fields "max_edit_distance" (Field.natWithin 1 5) (some ⟨2, by decide⟩)
      = .ok ⟨2, by decide⟩ :=
    Field.get_of_lookup_eq_none rfl
  have hlength : Field.get fields "min_query_length" (Field.natFrom 1) (some ⟨3, by decide⟩)
      = .ok ⟨3, by decide⟩ :=
    Field.get_of_lookup_eq_none rfl
  have hknown : Field.unknown SuggestionOptions.fieldNames fields = .ok () := rfl
  rw [suggestionOptions, SuggestionOptions.ofFields, hconfidence, hsuggestions, hdistance, hlength, hknown]
  rfl

theorem cache_eq (hrange : settings.InRange) :
    settings.cache
      = .ok { capacity := settings.patternCacheSize, capacity_pos := hrange.patternCacheSize } := by
  have hpos : 0 < (settings.patternCacheSize : Int).toNat := hrange.patternCacheSize
  rw [cache, Cache.create, dif_pos hpos]
  rfl

end InRange

/-- The settings of every environment and environment file that are accepted give option records and a
cache, with the values of the settings and with literal terms. -/
theorem exists_options_of_load {environment : List (Text × Text)} {file : Option Text}
    (hload : load environment file = .ok settings) :
    (∃ options, settings.highlightOptions = .ok options ∧
      options.maxSnippets = settings.maxSnippets ∧
      options.snippetLength = settings.snippetLength ∧
      options.contextWindow = settings.contextWindow ∧
      options.caseSensitive = settings.caseSensitive ∧
      options.literalTerms = true) ∧
    (∃ options, settings.suggestionOptions = .ok options ∧
      options.minConfidence = settings.minConfidence ∧
      options.maxSuggestions = settings.maxSuggestions) ∧
    ∃ cache, settings.cache = .ok cache ∧ cache.capacity = settings.patternCacheSize := by
  have hrange := inRange_of_ofFields hload
  refine ⟨⟨_, hrange.highlightOptions_eq, rfl, rfl, rfl, rfl, rfl⟩,
    ⟨_, hrange.suggestionOptions_eq, rfl, rfl⟩, ⟨_, hrange.cache_eq, rfl⟩⟩

/-- An environment that goes to the ends of the ranges in loose spellings, and asks for patterns. -/
def edgeEnvironment : List (Text × Text) :=
  [("MAX_SNIPPETS", "+5_0.00"), ("snippet_length", " 1_0"), ("Min_Confidence", "-0e-400"),
    ("PATTERN_CACHE_SIZE", "1_000_000_000_000_000_000_000"), ("ENABLE_REGEX_SAFE", "false")].map
      fun (name, value) => (name.toList, value.toList)

def edgeFile : Text :=
  "export CONTEXT_WINDOW='000_1000' # gap\nCASE_SENSITIVE=YES\nMAX_SUGGESTIONS=020.0\n".toList

def edgeSettings : Settings where
  logLevel := .info
  logJson := true
  maxSnippets := 50
  snippetLength := 10
  contextWindow := 1000
  caseSensitive := true
  patternCacheSize := 1000000000000000000000
  minConfidence := .finite true 0 Binary64.minExponent
  maxSuggestions := 20

theorem exists_options_of_load_edge :
    load edgeEnvironment (some edgeFile) = .ok edgeSettings ∧
    (∃ options, edgeSettings.highlightOptions = .ok options ∧ options.maxSnippets = 50 ∧
      options.snippetLength = 10 ∧ options.contextWindow = 1000 ∧ options.caseSensitive = true ∧
      options.literalTerms = true) ∧
    (∃ options, edgeSettings.suggestionOptions = .ok options ∧
      options.minConfidence = .finite true 0 Binary64.minExponent ∧ options.maxSuggestions = 20) ∧
    ∃ cache, edgeSettings.cache = .ok cache ∧ cache.capacity = 1000000000000000000000 := by
  have hload : load edgeEnvironment (some edgeFile) = .ok edgeSettings := by decide +kernel
  exact ⟨hload, exists_options_of_load hload⟩

end Settings

end NoteSearch
