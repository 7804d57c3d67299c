import Mathlib.Data.List.Nodup
import NoteSearch.Proofs.Suggestion.Correction

/-!
# The best corrections

Of the entries that the history recalls, one for each folded form, some are offered. They are ranked by
falling confidence, equal ones in the order of the history, which leaves one ranking only; as many as
are asked for are taken from its front. Ranking leaves out entries as it finds them: without some
entries the ranking of the others is the same.
-/

namespace NoteSearch

/-! ### Rankings -/

/-- The entries by falling score, those with equal scores in their order. -/
structure RankedBy {α : Type} (score : α → Binary64) (entries ranked : List α) : Prop where
  perm : ranked.Perm entries
  falling : ranked.Pairwise fun a b => (score b).le (score a)
  stable : ∀ a b, [a, b].Sublist entries → (score b).le (score a) → [a, b].Sublist ranked

section Rankings

variable {α : Type} {score : α → Binary64} {entries ranked ranked' : List α} {a b : α}

theorem pair_sublist_or (hne : a ≠ b) (ha : a ∈ entries) (hb : b ∈ entries) :
    [a, b].Sublist entries ∨ [b, a].Sublist entries := by
  obtain ⟨before, after, rfl⟩ := List.append_of_mem ha
  rcases List.mem_append.mp hb with hb | hb
  · have ha : [a].Sublist (a :: after) := List.singleton_sublist.mpr List.mem_cons_self
    exact .inr ((List.singleton_sublist.mpr hb).append ha)
  · have hafter : b ∈ after := (List.mem_cons.mp hb).resolve_left hne.symm
    have hpair := (List.singleton_sublist.mpr hafter).cons_cons a
    exact .inl (hpair.trans (List.sublist_append_right _ _))

theorem not_pair_sublist_swap (hnodup : entries.Nodup) (h : [a, b].Sublist entries) :
    ¬[b, a].Sublist entries := by
  induction entries with
  | nil => exact absurd h.length_le (by simp)
  | cons c entries ih =>
      obtain ⟨hc, hrest⟩ := List.nodup_cons.mp hnodup
      intro hswap
      cases h with
      | cons _ h =>
          cases hswap with
          | cons _ hswap => exact ih hrest h hswap
          | cons_cons _ _ => exact hc (h.subset (by simp))
      | cons_cons _ h =>
          cases hswap with
          | cons _ hswap => exact hc (hswap.subset (by simp))
          | cons_cons _ _ => exact hc (h.subset (by simp))

theorem RankedBy.pair_sublist (h : RankedBy score entries ranked) (hnodup : entries.Nodup)
    (hpair : [a, b].Sublist ranked) (hle : (score a).le (score b)) : [a, b].Sublist entries := by
  have hranked := h.perm.nodup_iff.mpr hnodup
  have hne : a ≠ b := by
    rintro rfl
    exact not_pair_sublist_swap hranked hpair hpair
  have ha := h.perm.subset (hpair.subset (by simp : a ∈ [a, b]))
  have hb := h.perm.subset (hpair.subset (by simp : b ∈ [a, b]))
  rcases pair_sublist_or hne ha hb with hforth | hback
  · exact hforth
  · exact absurd (h.stable b a hback hle) (not_pair_sublist_swap hranked hpair)

/-- Distinct entries have one ranking. -/
theorem RankedBy.unique (h : RankedBy score entries ranked) (h' : RankedBy score entries ranked')
    (hnodup : entries.Nodup) : ranked = ranked' := by
  have hpairs : ∀ {list}, RankedBy score entries list → list.Pairwise fun a b =>
      (score b).le (score a) ∧ ((score a).le (score b) → [a, b].Sublist entries) := by
    intro list hlist
    apply List.pairwise_iff_forall_sublist.mpr
    intro a b hpair
    exact ⟨List.pairwise_iff_forall_sublist.mp hlist.falling hpair, hlist.pair_sublist hnodup hpair⟩
  apply List.Perm.eq_of_pairwise _ (hpairs h) (hpairs h') (h.perm.trans h'.perm.symm)
  rintro a b - - ⟨hfalling, hforth⟩ ⟨hrising, hback⟩
  exact absurd (hback hfalling) (not_pair_sublist_swap hnodup (hforth hrising))

theorem RankedBy.filter (h : RankedBy score entries ranked) (p : α → Bool) :
    RankedBy score (entries.filter p) (ranked.filter p) where
  perm := h.perm.filter p
  falling := h.falling.filter p
  stable a b hpair hle := by
    have hboth : [a, b].filter p = [a, b] := List.filter_eq_self.mpr fun e he =>
      (List.mem_filter.mp (hpair.subset he)).2
    have hranked := (h.stable a b (hpair.trans List.filter_sublist) hle).filter p
    rwa [hboth] at hranked

/-- What is not among the first entries scores no higher than they do. -/
theorem RankedBy.le_of_mem_take (h : RankedBy score entries ranked) {count : Nat}
    (ha : a ∈ ranked.take count) (hb : b ∈ entries) (hout : b ∉ ranked.take count) :
    (score b).le (score a) := by
  have hfalling := h.falling
  have hmem := h.perm.symm.subset hb
  rw [← List.take_append_drop count ranked] at hfalling hmem
  have hdropped := (List.mem_append.mp hmem).resolve_left hout
  exact (List.pairwise_append.mp hfalling).2.2 a ha b hdropped

/-- The order of numbers is total only on the finite ones, that of their values is. -/
theorem mergeSort_le_eq_mergeSort_value (hfinite : ∀ e ∈ entries, (score e).IsFinite) :
    (entries.mergeSort fun a b => (score b).le (score a))
      = entries.mergeSort fun a b => decide ((score b).value ≤ (score a).value) := by
  have hmap := List.map_mergeSort (f := id) (l := entries)
    (r := fun a b => (score b).le (score a))
    (s := fun a b => decide ((score b).value ≤ (score a).value)) fun a ha b hb => by
      rw [Bool.eq_iff_iff, Binary64.le_iff_value_le (hfinite b hb) (hfinite a ha),
        decide_eq_true_eq, id, id]
  simpa using hmap

theorem rankedBy_mergeSort (hfinite : ∀ e ∈ entries, (score e).IsFinite) :
    RankedBy score entries (entries.mergeSort fun a b => (score b).le (score a)) := by
  have hle : ∀ a ∈ entries, ∀ b ∈ entries,
      ((score b).le (score a) ↔ (score b).value ≤ (score a).value) :=
    fun a ha b hb => Binary64.le_iff_value_le (hfinite b hb) (hfinite a ha)
  have htrans : ∀ a b c : α, decide ((score b).value ≤ (score a).value) = true →
      decide ((score c).value ≤ (score b).value) = true →
      decide ((score c).value ≤ (score a).value) = true := by
    intro a b c hab hbc
    rw [decide_eq_true_eq] at hab hbc ⊢
    exact hbc.trans hab
  have htotal : ∀ a b : α, (decide ((score b).value ≤ (score a).value)
      || decide ((score a).value ≤ (score b).value)) = true := by
    intro a b
    rw [Bool.or_eq_true, decide_eq_true_eq, decide_eq_true_eq]
    exact le_total _ _
  rw [mergeSort_le_eq_mergeSort_value hfinite]
  refine ⟨List.mergeSort_perm _ _, ?_, ?_⟩
  · apply (List.pairwise_mergeSort htrans htotal entries).imp_of_mem
    intro a b ha hb hab
    rw [hle a (List.mem_mergeSort.mp ha) b (List.mem_mergeSort.mp hb)]
    exact of_decide_eq_true hab
  · intro a b hpair hab
    rw [hle a (hpair.subset (by simp)) b (hpair.subset (by simp))] at hab
    exact List.pair_sublist_mergeSort htrans htotal (decide_eq_true hab) hpair

end Rankings

/-! ### What the history recalls -/

/-- The stripped entries that are not blank, of those with one folded form the first. -/
def recalled (history : List Text) : List Text :=
  ((history.map Text.strip).filter fun entry => !entry.isEmpty).eraseDupsBy
    fun a b => a.fold == b.fold

section Recalled

theorem uniqueFrom_eq (seen history : List Text) :
    uniqueFrom seen history
      = (((history.map Text.strip).filter fun entry => !entry.isEmpty).filter
          fun entry => !seen.contains entry.fold).eraseDupsBy fun a b => a.fold == b.fold := by
  induction history generalizing seen with
  | nil => rfl
  | cons prior history ih =>
      rw [uniqueFrom, List.map_cons]
      by_cases hblank : prior.strip.isEmpty
      · rw [hblank, Bool.true_or, if_pos rfl, ih, List.filter_cons_of_neg (by simpa using hblank)]
      · rw [Bool.eq_false_of_not_eq_true hblank, Bool.false_or,
          List.filter_cons_of_pos (by simpa using hblank)]
        by_cases hseen : seen.contains prior.strip.fold
        · rw [if_pos hseen, ih, List.filter_cons_of_neg (by simpa using hseen)]
        · have hlater : ∀ entries : List Text,
              (entries.filter fun entry => !(prior.strip.fold :: seen).contains entry.fold)
                = (entries.filter fun entry => !seen.contains entry.fold).filter
                  fun entry => decide ((entry.fold == prior.strip.fold) = false) := by
            intro entries
            rw [List.filter_filter]
            apply List.filter_congr
            intro entry _
            rw [List.contains_cons, Bool.not_or]
            cases entry.fold == prior.strip.fold <;> rfl
          rw [if_neg hseen, ih, List.filter_cons_of_pos (by simpa using hseen), List.eraseDupsBy_cons,
            hlater]

theorem uniqueHistory_eq (history : List Text) : uniqueHistory history = recalled history := by
  rw [uniqueHistory, uniqueFrom_eq, recalled]
  simp

theorem notMem_of_mem_uniqueFrom {seen history : List Text} {entry : Text}
    (h : entry ∈ uniqueFrom seen history) : entry.fold ∉ seen := by
  induction history generalizing seen with
  | nil => simp [uniqueFrom] at h
  | cons prior history ih =>
      rw [uniqueFrom] at h
      split at h
      · exact ih h
      · next hnew =>
          rcases List.mem_cons.mp h with rfl | hlater
          · intro hmem
            exact hnew (by simp [hmem])
          · exact fun hmem => ih hlater (List.mem_cons_of_mem _ hmem)

theorem exists_strip_of_mem_uniqueFrom {seen history : List Text} {entry : Text}
    (h : entry ∈ uniqueFrom seen history) : ∃ prior ∈ history, prior.strip = entry := by
  induction history generalizing seen with
  | nil => simp [uniqueFrom] at h
  | cons prior history ih =>
      have hlater : ∀ {seen}, entry ∈ uniqueFrom seen history →
          ∃ p ∈ prior :: history, p.strip = entry := by
        intro seen h
        obtain ⟨p, hp, heq⟩ := ih h
        exact ⟨p, List.mem_cons_of_mem _ hp, heq⟩
      rw [uniqueFrom] at h
      split at h
      · exact hlater h
      · rcases List.mem_cons.mp h with rfl | h
        · exact ⟨prior, List.mem_cons_self, rfl⟩
        · exact hlater h

theorem pairwise_uniqueFrom (seen history : List Text) :
    (uniqueFrom seen history).Pairwise fun a b => a.fold ≠ b.fold := by
  induction history generalizing seen with
  | nil => exact .nil
  | cons prior history ih =>
      rw [uniqueFrom]
      split
      · exact ih seen
      · apply List.Pairwise.cons _ (ih _)
        intro entry hentry heq
        exact notMem_of_mem_uniqueFrom hentry (heq ▸ List.mem_cons_self)

theorem pairwise_recalled (history : List Text) :
    (recalled history).Pairwise fun a b => a.fold ≠ b.fold := by
  rw [← uniqueHistory_eq]
  exact pairwise_uniqueFrom [] history

theorem exists_strip_of_mem_recalled {history : List Text} {entry : Text}
    (h : entry ∈ recalled history) : ∃ prior ∈ history, prior.strip = entry := by
  rw [← uniqueHistory_eq] at h
  exact exists_strip_of_mem_uniqueFrom h

theorem nodup_recalled (history : List Text) : (recalled history).Nodup :=
  (pairwise_recalled history).imp fun hne heq => hne (congrArg Text.fold heq)

end Recalled

/-! ### The corrections that are taken -/

section Taken

variable {query typed : Text} {options : SuggestionOptions}

theorem Checked.each_filterMap_ok {α β : Type} (p : α → Prop) [DecidablePred p] (f : α → β)
    (items : List α) :
    Checked.each (items.filterMap fun a => if p a then some (.ok (f a)) else none)
      = .ok ((items.filter p).map f) := by
  induction items with
  | nil => rfl
  | cons a items ih =>
      by_cases h : p a
      · simp [h, each, ih, Except.map]
      · simp [h, ih]

theorem rankCorrections_map_offer (query typed : Text) (entries : List Text) :
    rankCorrections (entries.map (offer query typed))
      = (entries.mergeSort fun a b => (confidenceIn typed b).le (confidenceIn typed a)).map
        (offer query typed) := by
  have hmap := List.map_mergeSort (f := offer query typed) (l := entries)
    (r := fun a b => (confidenceIn typed b).le (confidenceIn typed a))
    (s := fun a b => b.confidence.le a.confidence) fun _ _ _ _ => rfl
  exact hmap.symm

/-- Of entries that all resemble the query when they are offered, the best ones are taken. -/
theorem exists_rankedBy_take {p : Text → Prop} [DecidablePred p]
    (hp : ∀ entry, p entry → Resembles typed options entry) (query : Text) (entries : List Text)
    (count : Nat) :
    ∃ ranked, RankedBy (confidenceIn typed) (entries.filter p) ranked ∧
      (Checked.each (entries.filterMap fun entry =>
          if p entry then some (.ok (offer query typed entry)) else none)).map
        (fun corrections => (rankCorrections corrections).take count)
        = .ok ((ranked.take count).map (offer query typed)) := by
  have hfinite : ∀ entry ∈ entries.filter p, (confidenceIn typed entry).IsFinite := by
    intro entry hentry
    have hoffered := (List.mem_filter.mp hentry).2
    exact (hp entry (of_decide_eq_true hoffered)).isFinite_confidenceIn
  refine ⟨_, rankedBy_mergeSort hfinite, ?_⟩
  rw [Checked.each_filterMap_ok, Except.map, rankCorrections_map_offer, List.map_take]

theorem suggestCorrections_of_length_lt {history : List Text}
    (h : query.strip.length < options.minQueryLength) :
    suggestCorrections query history options = .ok [] :=
  if_pos h

theorem exists_rankedBy_suggestCorrections (query : Text) (history : List Text)
    (h : options.minQueryLength ≤ query.strip.length) :
    ∃ ranked, RankedBy (confidenceIn query.strip)
        ((recalled history).filter (Eligible query.strip options)) ranked ∧
      suggestCorrections query history options
        = .ok ((ranked.take options.maxSuggestions).map (offer query query.strip)) := by
  obtain ⟨ranked, hranked, htaken⟩ := exists_rankedBy_take (p := Eligible query.strip options)
    (fun _ => Eligible.toResembles) query (recalled history) options.maxSuggestions
  refine ⟨ranked, hranked, ?_⟩
  have hoffers : correction? query query.strip options = fun entry =>
      if Eligible query.strip options entry then some (.ok (offer query query.strip entry)) else none :=
    funext (correction?_eq query query.strip options)
  rw [suggestCorrections, if_neg (Nat.not_lt.mpr h), hoffers, uniqueHistory_eq]
  exact htaken

end Taken

/-- The corrections of a query are the best of the eligible entries that the history recalls, in the
order of their ranking. So they differ from each other and from the query by more than case, and no
entry that is left out is more likely than one that is taken. -/
theorem suggestCorrections_eq_best (query : Text) (history : List Text) (options : SuggestionOptions) :
    ∃ corrections, suggestCorrections query history options = .ok corrections ∧
      corrections.length ≤ options.maxSuggestions ∧
      (query.strip.length < options.minQueryLength → corrections = []) ∧
      (options.minQueryLength ≤ query.strip.length →
        ∃ ranked, RankedBy (confidenceIn query.strip)
            ((recalled history).filter (Eligible query.strip options)) ranked ∧
          corrections = (ranked.take options.maxSuggestions).map (offer query query.strip) ∧
          ∀ entry ∈ recalled history, Eligible query.strip options entry →
            entry ∉ corrections.map Correction.candidate →
              ∀ c ∈ corrections, (confidenceIn query.strip entry).le c.confidence) ∧
      corrections.Pairwise (fun a b => a.candidate.fold ≠ b.candidate.fold) ∧
      ∀ c ∈ corrections, c.candidate.fold ≠ query.strip.fold := by
  by_cases hshort : query.strip.length < options.minQueryLength
  · refine ⟨[], suggestCorrections_of_length_lt hshort, Nat.zero_le _, fun _ => rfl, ?_, .nil, ?_⟩
    · intro hlong
      omega
    · intro c hc
      exact absurd hc List.not_mem_nil
  · have hlong := Nat.not_lt.mp hshort
    obtain ⟨ranked, hranked, htaken⟩ :=
      exists_rankedBy_suggestCorrections query history hlong
    have hcandidates : ((ranked.take options.maxSuggestions).map (offer query query.strip)).map
        Correction.candidate = ranked.take options.maxSuggestions := by
      rw [List.map_map]
      exact List.map_id _
    refine ⟨_, htaken, ?_, ?_, fun _ => ⟨ranked, hranked, rfl, ?_⟩, ?_, ?_⟩
    · rw [List.length_map]
      exact List.length_take_le _ _
    · intro hlt
      omega
    · intro entry hentry heligible hout c hc
      rw [hcandidates] at hout
      obtain ⟨taken, htaken, rfl⟩ := List.mem_map.mp hc
      exact hranked.le_of_mem_take htaken
        (List.mem_filter.mpr ⟨hentry, decide_eq_true heligible⟩) hout
    · apply List.pairwise_map.mpr
      have hdistinct := (pairwise_recalled history).filter (Eligible query.strip options)
      exact (hdistinct.perm hranked.perm.symm Ne.symm).sublist (List.take_sublist _ _)
    · intro c hc
      obtain ⟨taken, htaken, rfl⟩ := List.mem_map.mp hc
      have heligible := (List.mem_filter.mp (hranked.perm.subset (List.mem_of_mem_take htaken))).2
      exact (of_decide_eq_true heligible).fold_ne

def paddedQuery : Text := " Cart ".toList

/-- Entries with blanks around them, a blank one, the query in capitals, and one that differs from an
earlier one in case. -/
def mixedHistory : List Text :=
  ["Card".toList, "  ".toList, "CARD".toList, " dart".toList, "CART".toList, "carts".toList,
    "scatter".toList, "care".toList]

theorem suggestCorrections_eq_best_mixed :
    ({} : SuggestionOptions).minQueryLength ≤ paddedQuery.strip.length ∧
      ∃ ranked, RankedBy (confidenceIn paddedQuery.strip)
          ["Card".toList, "dart".toList, "carts".toList, "care".toList] ranked ∧
        suggestCorrections paddedQuery mixedHistory {}
          = .ok ((ranked.take 2).map (offer paddedQuery paddedQuery.strip)) := by
  have hlong : ({} : SuggestionOptions).minQueryLength ≤ paddedQuery.strip.length := by decide
  have heligible : (recalled mixedHistory).filter (Eligible paddedQuery.strip {})
      = ["Card".toList, "dart".toList, "carts".toList, "care".toList] := by decide
  obtain ⟨corrections, hcorrections, -, -, hbest, -⟩ :=
    suggestCorrections_eq_best paddedQuery mixedHistory {}
  obtain ⟨ranked, hranked, rfl, -⟩ := hbest hlong
  rw [heligible] at hranked
  exact ⟨hlong, ranked, hranked, hcorrections⟩

end NoteSearch
