import NoteSearch.Proofs.Suggestion.Ranking

/-!
# Entries of another length

Entries whose length is not near that of the query are not looked at. Few edits change a length by little,
so no entry is lost by that as long as folding does not bring its length closer to that of the query.
Where it does, an entry may be left out although it resembles the query, and this changes the result
exactly when the entry would be among the best.
-/

namespace NoteSearch

/-- The corrections of a query when the lengths of entries do not count. -/
def suggestOfAnyLength (query : Text) (history : List Text) (options : SuggestionOptions) :
    Checked (List Correction) :=
  let typed := query.strip
  if typed.length < options.minQueryLength then .ok []
  else
    (Checked.each ((uniqueHistory history).filterMap (correctionOfAnyLength? query typed options))).map
      fun corrections => (rankCorrections corrections).take options.maxSuggestions

section AnyLength

variable {query typed entry : Text} {history : List Text} {options : SuggestionOptions}

theorem exists_rankedBy_suggestOfAnyLength (query : Text) (history : List Text)
    (h : options.minQueryLength ≤ query.strip.length) :
    ∃ ranked, RankedBy (confidenceIn query.strip)
        ((recalled history).filter (Resembles query.strip options)) ranked ∧
      suggestOfAnyLength query history options
        = .ok ((ranked.take options.maxSuggestions).map (offer query query.strip)) := by
  obtain ⟨ranked, hranked, htaken⟩ := exists_rankedBy_take (p := Resembles query.strip options)
    (fun _ => id) query (recalled history) options.maxSuggestions
  refine ⟨ranked, hranked, ?_⟩
  have hoffers : correctionOfAnyLength? query query.strip options = fun entry =>
      if Resembles query.strip options entry then some (.ok (offer query query.strip entry))
      else none := funext (correctionOfAnyLength?_eq query query.strip options)
  rw [suggestOfAnyLength, if_neg (Nat.not_lt.mpr h), hoffers, uniqueHistory_eq]
  exact htaken

theorem lengthGap_le_editDistance (s t : Text) : (lengthGap s t : Int) ≤ editDistance none s t := by
  have hforth := length_le_add_leastEdits s t
  have hback := length_le_add_leastEdits t s
  rw [leastEdits_comm] at hback
  rw [editDistance_none, lengthGap]
  omega

theorem filter_resembles_filter_lengthGap (typed : Text) (options : SuggestionOptions)
    (entries : List Text) :
    (entries.filter (Resembles typed options)).filter
        (fun entry => decide (lengthGap typed entry ≤ options.maxEditDistance))
      = entries.filter (Eligible typed options) := by
  rw [List.filter_filter]
  apply List.filter_congr
  intro entry _
  rw [← Bool.decide_and, decide_eq_decide]
  exact ⟨fun h => ⟨h.2, h.1⟩, fun h => ⟨h.lengthGap_le, h.toResembles⟩⟩

theorem take_filter_eq_take_iff {α : Type} (p : α → Bool) (count : Nat) (items : List α) :
    (items.filter p).take count = items.take count ↔ ∀ a ∈ items.take count, p a := by
  induction items generalizing count with
  | nil => simp
  | cons a items ih =>
      cases count with
      | zero => simp
      | succ count =>
          rw [List.take_succ_cons, List.forall_mem_cons]
          by_cases ha : p a
          · rw [List.filter_cons_of_pos ha, List.take_succ_cons, List.cons.injEq, ih]
            simp [ha]
          · have hne : ((a :: items).filter p).take (count + 1) ≠ a :: items.take count := by
              intro heq
              have hmem : a ∈ ((a :: items).filter p).take (count + 1) := by simp [heq]
              exact ha (List.mem_filter.mp (List.mem_of_mem_take hmem)).2
            exact iff_of_false hne fun hall => ha hall.1

end AnyLength

/-- Looking at entries of near lengths only gives the same corrections exactly when all of those that are
given without that have near lengths. So it does when folding brings the length of no entry closer to
that of the query. -/
theorem suggestCorrections_eq_suggestOfAnyLength_iff (query : Text) (history : List Text)
    (options : SuggestionOptions) :
    ∃ corrections others, suggestCorrections query history options = .ok corrections ∧
      suggestOfAnyLength query history options = .ok others ∧
      (corrections = others ↔
        ∀ c ∈ others, lengthGap query.strip c.candidate ≤ options.maxEditDistance) ∧
      ((∀ prior ∈ history,
          lengthGap query.strip prior.strip ≤ lengthGap query.strip.fold prior.strip.fold) →
        corrections = others) := by
  by_cases hshort : query.strip.length < options.minQueryLength
  · refine ⟨[], [], suggestCorrections_of_length_lt hshort, if_pos hshort, ?_, fun _ => rfl⟩
    exact iff_of_true rfl fun c hc => absurd hc List.not_mem_nil
  · have hlong := Nat.not_lt.mp hshort
    obtain ⟨ranked, hranked, hgiven⟩ := exists_rankedBy_suggestCorrections query history hlong
    obtain ⟨all, hall, hothers⟩ := exists_rankedBy_suggestOfAnyLength query history hlong
    have hfiltered : ranked
        = all.filter fun entry => decide (lengthGap query.strip entry ≤ options.maxEditDistance) := by
      have hnodup := (nodup_recalled history).filter (Eligible query.strip options)
      have hnear := hall.filter fun entry =>
        decide (lengthGap query.strip entry ≤ options.maxEditDistance)
      rw [filter_resembles_filter_lengthGap] at hnear
      exact hranked.unique hnear hnodup
    have hsame : (ranked.take options.maxSuggestions).map (offer query query.strip)
          = (all.take options.maxSuggestions).map (offer query query.strip) ↔
        ∀ entry ∈ all.take options.maxSuggestions,
          lengthGap query.strip entry ≤ options.maxEditDistance := by
      have hinjective : Function.Injective (offer query query.strip) :=
        fun a b heq => congrArg Correction.candidate heq
      rw [(List.map_injective_iff.mpr hinjective).eq_iff, hfiltered, take_filter_eq_take_iff]
      simp only [decide_eq_true_eq]
    refine ⟨_, _, hgiven, hothers, ?_, ?_⟩
    · rw [hsame, List.forall_mem_map]
      rfl
    · intro hfold
      rw [hsame]
      intro entry hentry
      obtain ⟨hrecalled, hresembles⟩ :=
        List.mem_filter.mp (hall.perm.subset (List.mem_of_mem_take hentry))
      obtain ⟨prior, hprior, rfl⟩ := exists_strip_of_mem_recalled hrecalled
      have hnear := (of_decide_eq_true hresembles).near
      have hgap := lengthGap_le_editDistance query.strip.fold prior.strip.fold
      have hclose := hfold prior hprior
      omega

def sharpQuery : Text := "Grüße".toList

/-- Folding makes each of these texts one character longer, as it does the query. -/
def sharpHistory : List Text :=
  ["grüßen".toList, " große ".toList, "Maße".toList]

theorem suggestCorrections_eq_suggestOfAnyLength_sharp :
    (∀ prior ∈ sharpHistory, lengthGap sharpQuery.strip prior.strip
        ≤ lengthGap sharpQuery.strip.fold prior.strip.fold) ∧
      suggestCorrections sharpQuery sharpHistory {} = suggestOfAnyLength sharpQuery sharpHistory {} := by
  have hfold : ∀ prior ∈ sharpHistory, lengthGap sharpQuery.strip prior.strip
      ≤ lengthGap sharpQuery.strip.fold prior.strip.fold := by decide
  obtain ⟨corrections, others, hcorrections, hothers, -, hequal⟩ :=
    suggestCorrections_eq_suggestOfAnyLength_iff sharpQuery sharpHistory {}
  exact ⟨hfold, by rw [hcorrections, hothers, hequal hfold]⟩

/-- The query folds to seven characters, of which the entry replaces the last one. -/
theorem not_forall_suggestCorrections_eq_suggestOfAnyLength :
    ¬ ∀ (query : Text) (history : List Text) (options : SuggestionOptions),
        suggestCorrections query history options = suggestOfAnyLength query history options := by
  intro hall
  have hequal := hall "ßßßx".toList ["ssssssy".toList] {}
  have hlong : ({} : SuggestionOptions).minQueryLength ≤ (Text.strip "ßßßx".toList).length := by decide
  obtain ⟨ranked, hranked, hgiven⟩ :=
    exists_rankedBy_suggestCorrections "ßßßx".toList ["ssssssy".toList] hlong
  obtain ⟨all, hall, hothers⟩ :=
    exists_rankedBy_suggestOfAnyLength "ßßßx".toList ["ssssssy".toList] hlong
  have hnone : (recalled ["ssssssy".toList]).filter (Eligible (Text.strip "ßßßx".toList) {}) = [] := by
    decide
  have hone : (recalled ["ssssssy".toList]).filter (Resembles (Text.strip "ßßßx".toList) {})
      = ["ssssssy".toList] := by decide
  have hperm := hranked.perm
  have hperm' := hall.perm
  rw [hnone, List.perm_nil] at hperm
  rw [hone, List.perm_singleton] at hperm'
  rw [hgiven, hothers, hperm, hperm'] at hequal
  simp at hequal

end NoteSearch
