import NoteSearch.Command.Run
import NoteSearch.Proofs.FirstSeen
import NoteSearch.Proofs.Result

/-!
# Options from settings and switches

A host has settings for how a query is matched, and a command has switches that override them. Neither
says whether terms are patterns: a record of options that a command reads has literal terms, and counts
case exactly when the settings or the switches ask for it.
-/

namespace NoteSearch

namespace Checked

variable {α β : Type}

theorem both_eq_ok_iff {first : Checked α} {second : Checked β} {pair : α × β} :
    first.both second = .ok pair ↔ first = .ok pair.1 ∧ second = .ok pair.2 := by
  obtain ⟨a, b⟩ := pair
  cases first <;> cases second <;> simp [both]

end Checked

namespace Field

variable {fields : List (String × Json)} {name : String}

theorem get_bool_of_lookup {default : Option Bool} {b : Bool}
    (hlookup : fields.lookup name = some (.bool b)) : get fields name bool default = .ok b := by
  simp [get, hlookup, bool, Checked.under]

theorem get_of_lookup_eq_none {α : Type} {read : Json → Checked α} {value : α}
    (hlookup : fields.lookup name = none) : get fields name read (some value) = .ok value := by
  simp [get, hlookup, Checked.under]

end Field

theorem HighlightOptions.flags_of_ofFields {fields : List (String × Json)} {options : HighlightOptions}
    (hread : ofFields fields = .ok options) :
    Field.get fields "case_sensitive" Field.bool (some false) = .ok options.caseSensitive ∧
      Field.get fields "enable_regex_safe" Field.bool (some true) = .ok options.literalTerms := by
  rw [ofFields] at hread
  obtain ⟨values, hvalues, rfl⟩ := map_eq_ok_iff.mp hread
  simp only [Checked.both_eq_ok_iff] at hvalues
  obtain ⟨⟨⟨-, hcase⟩, hliteral⟩, -⟩ := hvalues
  exact ⟨hcase, hliteral⟩

theorem HighlightOptions.lookup_toFields (options : HighlightOptions) :
    options.toFields.lookup "case_sensitive" = some (.bool options.caseSensitive) ∧
      options.toFields.lookup "enable_regex_safe" = some (.bool options.literalTerms) := by
  simp [toFields, List.lookup_cons]

theorem Settings.flags_of_highlightOptions {settings : Settings} {options : HighlightOptions}
    (hread : settings.highlightOptions = .ok options) :
    options.literalTerms = true ∧ options.caseSensitive = settings.caseSensitive := by
  obtain ⟨hcase, hliteral⟩ := HighlightOptions.flags_of_ofFields hread
  have hgiven : settings.highlightFields.lookup "case_sensitive"
      = some (.bool settings.caseSensitive) := by
    simp [highlightFields, List.lookup_cons]
  have hmissing : settings.highlightFields.lookup "enable_regex_safe" = none := by
    simp [highlightFields, List.lookup_cons]
  rw [Field.get_bool_of_lookup hgiven] at hcase
  rw [Field.get_of_lookup_eq_none hmissing] at hliteral
  exact ⟨(Except.ok.inj hliteral).symm, (Except.ok.inj hcase).symm⟩

namespace Command

theorem Choices.lookup_overrides (choices : Choices) :
    choices.overrides.reverse.lookup "enable_regex_safe" = none ∧
      choices.overrides.reverse.lookup "case_sensitive"
        = if choices.caseSensitive then some (.bool true) else none := by
  cases hsnippets : choices.maxSnippets <;> cases hlength : choices.snippetLength <;>
    cases hcase : choices.caseSensitive <;>
      simp [overrides, hsnippets, hlength, hcase, List.lookup_cons]

/-- The switches of a command leave terms literal and can only turn case on. -/
theorem flags_of_highlightOptions {settings : Settings} {choices : Choices}
    {options : HighlightOptions} (hread : highlightOptions settings choices = .ok options) :
    options.literalTerms = true ∧
      options.caseSensitive = (settings.caseSensitive || choices.caseSensitive) := by
  rw [highlightOptions] at hread
  cases hbase : settings.highlightOptions with
  | error issues => simp [hbase, Except.bind] at hread
  | ok base =>
      rw [hbase] at hread
      obtain ⟨hcase, hliteral⟩ := HighlightOptions.flags_of_ofFields hread
      obtain ⟨hbaseLiteral, hbaseCase⟩ := Settings.flags_of_highlightOptions hbase
      obtain ⟨hcaseField, hliteralField⟩ := base.lookup_toFields
      obtain ⟨hkept, hset⟩ := choices.lookup_overrides
      rw [Field.get_bool_of_lookup (b := settings.caseSensitive || choices.caseSensitive)] at hcase
      · rw [Field.get_bool_of_lookup (b := true)] at hliteral
        · exact ⟨(Except.ok.inj hliteral).symm, (Except.ok.inj hcase).symm⟩
        · rw [lookup_foldl_assign_pairs, hkept, hliteralField, hbaseLiteral, Option.none_or]
      · rw [lookup_foldl_assign_pairs, hset, hcaseField, hbaseCase]
        cases choices.caseSensitive <;> simp

end Command

end NoteSearch
