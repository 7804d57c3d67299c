import NoteSearch.Proofs.Number.Order
import NoteSearch.Proofs.Suggestion.Bound
import NoteSearch.Suggestion.Correction

/-!
# What an entry of the history offers

An entry resembles a query when its folded form is few edits away, but not none, and its confidence is
above the threshold. The bounded distance decides that as the exact one does, and the confidence is then
a number above zero and at most one, so a correction can be made of it. An entry offers one exactly when
it resembles the query and its length is near that of the query.
-/

namespace NoteSearch

/-- The confidence in an entry, by the exact distance of the folded texts. -/
def confidenceIn (typed entry : Text) : Binary64 :=
  correctionConfidence typed entry (editDistance none typed.fold entry.fold)

/-- Few edits lead from the query to the entry, and it is like enough. -/
structure Resembles (typed : Text) (options : SuggestionOptions) (entry : Text) : Prop where
  different : 1 ≤ editDistance none typed.fold entry.fold
  near : editDistance none typed.fold entry.fold ≤ options.maxEditDistance
  likely : options.minConfidence.lt (confidenceIn typed entry)

instance (typed : Text) (options : SuggestionOptions) (entry : Text) :
    Decidable (Resembles typed options entry) :=
  decidable_of_iff (1 ≤ editDistance none typed.fold entry.fold ∧
      editDistance none typed.fold entry.fold ≤ options.maxEditDistance ∧
      options.minConfidence.lt (confidenceIn typed entry))
    ⟨fun h => ⟨h.1, h.2.1, h.2.2⟩, fun h => ⟨h.different, h.near, h.likely⟩⟩

/-- How much longer or shorter an entry is. -/
def lengthGap (typed entry : Text) : Nat :=
  ((entry.length : Int) - typed.length).natAbs

/-- The entry resembles the query and is about as long. -/
structure Eligible (typed : Text) (options : SuggestionOptions) (entry : Text) : Prop
    extends Resembles typed options entry where
  lengthGap_le : lengthGap typed entry ≤ options.maxEditDistance

instance (typed : Text) (options : SuggestionOptions) (entry : Text) :
    Decidable (Eligible typed options entry) :=
  decidable_of_iff (Resembles typed options entry ∧ lengthGap typed entry ≤ options.maxEditDistance)
    ⟨fun h => ⟨h.1, h.2⟩, fun h => ⟨h.toResembles, h.lengthGap_le⟩⟩

section Confidence

variable {typed entry : Text} {options : SuggestionOptions}

theorem correctionConfidence_of_nonneg {distance : Int} (h : 0 ≤ distance)
    (hpos : Binary64.zero.lt (correctionConfidence typed entry distance)) :
    (correctionConfidence typed entry distance).IsFinite ∧
      (correctionConfidence typed entry distance).value ≤ 1 := by
  have hsign : decide (distance < 0) = false := decide_eq_false (by omega)
  rw [correctionConfidence] at hpos ⊢
  by_cases hnone : max typed.length entry.length = 0
  · rw [if_pos hnone]
    exact ⟨Binary64.isFinite_ofInt_one, Binary64.value_ofInt_one.le⟩
  · rw [if_neg hnone, hsign] at hpos ⊢
    exact Binary64.one_sub_ofRatio hpos

namespace Resembles

theorem fold_ne (h : Resembles typed options entry) : entry.fold ≠ typed.fold := by
  intro heq
  have hdifferent := h.different
  rw [heq, editDistance_none, leastEdits_self] at hdifferent
  exact absurd hdifferent (by decide)

theorem zero_lt_confidenceIn (h : Resembles typed options entry) :
    Binary64.zero.lt (confidenceIn typed entry) :=
  Binary64.lt_of_le_lt options.minConfidence_range.1 h.likely

theorem isFinite_confidenceIn (h : Resembles typed options entry) :
    (confidenceIn typed entry).IsFinite :=
  (correctionConfidence_of_nonneg (Int.le_trans (by decide) h.different) h.zero_lt_confidenceIn).1

theorem confidenceIn_le_one (h : Resembles typed options entry) :
    (confidenceIn typed entry).le (.ofInt 1) := by
  rw [Binary64.le_iff_value_le h.isFinite_confidenceIn Binary64.isFinite_ofInt_one,
    Binary64.value_ofInt_one]
  exact (correctionConfidence_of_nonneg (Int.le_trans (by decide) h.different)
    h.zero_lt_confidenceIn).2

end Resembles

end Confidence

/-! ### The correction that is made of an entry -/

section Offer

variable {query typed entry : Text} {options : SuggestionOptions}

/-- The correction that a resembling entry is offered as. -/
def offer (query typed entry : Text) : Correction :=
  ⟨entry, confidenceIn typed entry, query⟩

theorem Correction.ofFields_of_valid (candidate query : Text) {confidence : Binary64}
    (hpos : Binary64.zero.lt confidence) (hle : confidence.le (.ofInt 1)) :
    Correction.ofFields [("candidate_query", .str candidate), ("confidence", .float confidence),
      ("original_query", .str query)] = .ok ⟨candidate, confidence, query⟩ := by
  have hvalid : Correction.validConfidence (.float confidence) = .ok confidence := by
    rw [Correction.validConfidence, Field.floatWithin, Field.float]
    simp [hpos, hle, Except.map]
  simp [Correction.ofFields, Field.get, List.lookup_cons, hvalid, Field.text, Checked.under, Checked.both,
    Except.map]

/-- What an entry offers when its length does not count. -/
def correctionOfAnyLength? (query typed : Text) (options : SuggestionOptions) (prior : Text) :
    Option (Checked Correction) :=
  let limit := options.maxEditDistance
  let distance := editDistance (some limit) typed.fold prior.fold
  if distance = 0 ∨ limit < distance then none
  else
    let confidence := correctionConfidence typed prior distance
    if options.minConfidence.lt confidence then
      some (Correction.ofFields [("candidate_query", .str prior), ("confidence", .float confidence),
        ("original_query", .str query)])
    else none

theorem correctionOfAnyLength?_eq (query typed : Text) (options : SuggestionOptions) (entry : Text) :
    correctionOfAnyLength? query typed options entry
      = if Resembles typed options entry then some (.ok (offer query typed entry)) else none := by
  rw [correctionOfAnyLength?]
  by_cases hnear : editDistance none typed.fold entry.fold ≤ options.maxEditDistance
  · -- within the limit the bounded distance is the exact one
    have hexact := editDistance_some_of_le (Int.le_add_one hnear)
    simp only [hexact]
    by_cases hsame : editDistance none typed.fold entry.fold = 0
    · have hnot : ¬Resembles typed options entry := by
        intro h
        have hdifferent := h.different
        omega
      rw [if_pos (.inl hsame), if_neg hnot]
    · have hgoOn : ¬(editDistance none typed.fold entry.fold = 0 ∨
          (options.maxEditDistance : Int) < editDistance none typed.fold entry.fold) := by omega
      have hdistance : 1 ≤ editDistance none typed.fold entry.fold := by
        rw [editDistance_none] at hsame ⊢
        omega
      rw [if_neg hgoOn]
      split
      · next hlikely =>
          have h : Resembles typed options entry := ⟨hdistance, hnear, hlikely⟩
          have hmade := Correction.ofFields_of_valid entry query h.zero_lt_confidenceIn
            h.confidenceIn_le_one
          rw [if_pos h]
          exact congrArg some hmade
      · next hunlikely => rw [if_neg fun h => hunlikely h.likely]
  · have hfar := mt editDistance_some_le_iff.mp hnear
    rw [if_pos (.inr (Int.lt_of_not_ge hfar)), if_neg fun h => hnear h.near]

theorem correction?_eq (query typed : Text) (options : SuggestionOptions) (entry : Text) :
    correction? query typed options entry
      = if Eligible typed options entry then some (.ok (offer query typed entry)) else none := by
  have hchecked : correction? query typed options entry
      = if options.maxEditDistance < lengthGap typed entry then none
        else correctionOfAnyLength? query typed options entry := rfl
  rw [hchecked, correctionOfAnyLength?_eq]
  by_cases hlength : options.maxEditDistance < lengthGap typed entry
  · rw [if_pos hlength, if_neg fun h => absurd h.lengthGap_le (by omega)]
  · have hiff : Eligible typed options entry ↔ Resembles typed options entry :=
      ⟨Eligible.toResembles, fun h => ⟨h, by omega⟩⟩
    rw [if_neg hlength]
    exact if_congr hiff.symm rfl rfl

end Offer

end NoteSearch
