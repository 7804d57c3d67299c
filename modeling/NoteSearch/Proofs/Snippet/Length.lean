import NoteSearch.Proofs.Snippet.Layout
import NoteSearch.Proofs.Text.Slice

/-!
# How long snippets get

A window of the length asked for grows at both ends. Its start moves back by the tolerance at most,
and so does the word move of its end; but matches that overlap hand the end on from one to the next,
each by up to the tolerance, and a word move and a match move add up. So a snippet is longer than the
length asked for with the tolerance on both sides exactly when it shows a matched character there.
-/

namespace NoteSearch

namespace Snippet

variable {t : Text} {found : List Match} {options : HighlightOptions} {room : Nat} {floor : Int}
  {group : Group} {rest groups : List Group} {snippets : List Snippet}

/-- The snippet shows a matched character at an offset of its own. -/
def ShowsMatched (found : List Match) (snippet : Snippet) (offset : Int) : Prop :=
  snippet.Shows (snippet.contextStart + offset) ∧ ∃ m ∈ found, m.Holds (snippet.contextStart + offset)

/-- A start moves back by the tolerance at most, since only its word moves it back. -/
theorem sub_tolerance_le_groupWindow (options : HighlightOptions) (hordered : Ordered t found)
    (hstate : Pending found floor (group :: rest)) :
    (grownWindow t options floor group).1 - Window.boundaryTolerance
      ≤ (groupWindow t found options floor group).1 := by
  have hword : (grownWindow t options floor group).1 - Window.boundaryTolerance
      ≤ wordMovedStart t options floor group :=
    Window.sub_tolerance_le_startOffWord t Window.boundaryTolerance_nonneg _ _ _
  rw [groupWindow_start options hordered hstate]
  exact Int.le_trans hword (Int.le_max_left _ _)

theorem grownWindow_length_le (t : Text) (options : HighlightOptions) (floor : Int)
    (hshort : group.stop - group.start ≤ options.snippetLength) :
    (grownWindow t options floor group).2 - (grownWindow t options floor group).1
      ≤ options.snippetLength := by
  have := Window.expand_length_le t.length (max group.start floor) group.stop
    options.snippetLength floor
  rw [grownWindow]
  omega

/-- Beyond the tolerance on both sides a window shows matched characters only. -/
theorem exists_holds_of_groupWindow (hordered : Ordered t found)
    (hstate : Pending found floor (group :: rest))
    (hshort : group.stop - group.start ≤ options.snippetLength) {p : Int}
    (hfar : (groupWindow t found options floor group).1
      + (options.snippetLength + 2 * Window.boundaryTolerance) ≤ p)
    (hp : p < (groupWindow t found options floor group).2) : ∃ m ∈ found, m.Holds p := by
  have hstart := sub_tolerance_le_groupWindow options hordered hstate
  have hgrown := grownWindow_length_le t options floor hshort
  have htolerance := Window.boundaryTolerance_nonneg
  have hword := Window.endOffWord_le t htolerance group.stop (grownWindow t options floor group).2
  have hend := Window.settleEnd_le_movedEnd t found Window.boundaryTolerance group.stop
    (grownWindow t options floor group).2
  refine Window.exists_holds_of_lt_foldl_endOffMatch ?_ (Int.lt_of_lt_of_le hp hend)
  omega

/-- A window is longer than asked for by the tolerance and what its end has moved on. -/
theorem groupWindow_length_le (hordered : Ordered t found)
    (hstate : Pending found floor (group :: rest))
    (hshort : group.stop - group.start ≤ options.snippetLength) {reach : Int}
    (hreach : Window.movedEnd t found Window.boundaryTolerance group.stop
      (grownWindow t options floor group).2 ≤ (grownWindow t options floor group).2 + reach) :
    (groupWindow t found options floor group).2 - (groupWindow t found options floor group).1
      ≤ options.snippetLength + Window.boundaryTolerance + reach := by
  have hstart := sub_tolerance_le_groupWindow options hordered hstate
  have hgrown := grownWindow_length_le t options floor hshort
  have hend := Window.settleEnd_le_movedEnd t found Window.boundaryTolerance group.stop
    (grownWindow t options floor group).2
  rw [groupWindow_eq] at hstart ⊢
  omega

/-! ### The snippets of a sweep -/

namespace Sweep

theorem length_text (hordered : Ordered t found)
    (h : Sweep t found options room floor groups snippets) (hfloor : 0 ≤ floor) {snippet : Snippet}
    (hsnippet : snippet ∈ snippets) :
    (snippet.text.length : Int) = snippet.contextEnd - snippet.contextStart := by
  obtain ⟨hstart, hle, hstop, htext⟩ := h.window_of_mem hordered hsnippet
  rw [htext, Text.length_slice (by omega) (by omega) hstop]

theorem length_text_le_iff (hordered : Ordered t found)
    (hshort : ∀ group ∈ groups, group.stop - group.start ≤ options.snippetLength)
    (h : Sweep t found options room floor groups snippets) (hfloor : 0 ≤ floor) {snippet : Snippet}
    (hsnippet : snippet ∈ snippets) :
    (snippet.text.length : Int) ≤ options.snippetLength + 2 * Window.boundaryTolerance ↔
      ¬ snippet.ShowsMatched found (options.snippetLength + 2 * Window.boundaryTolerance) := by
  have htolerance := Window.boundaryTolerance_nonneg
  rw [h.length_text hordered hfloor hsnippet]
  constructor
  · rintro hle ⟨⟨_, hshown⟩, _⟩
    omega
  · intro hunmatched
    refine Int.not_lt.mp fun hlong => hunmatched ?_
    obtain ⟨below, group, hgroup, rest, hstate, _, rfl⟩ := h.exists_group hsnippet
    have hshown : (groupWindow t found options below group).1
        + (options.snippetLength + 2 * Window.boundaryTolerance)
        < (groupWindow t found options below group).2 := by
      simp only [ofWindow] at hlong
      omega
    exact ⟨⟨by simp only [ofWindow]; omega, hshown⟩,
      exists_holds_of_groupWindow hordered hstate (hshort group hgroup) (Int.le_refl _) hshown⟩

theorem length_text_le (hordered : Ordered t found)
    (hshort : ∀ group ∈ groups, group.stop - group.start ≤ options.snippetLength)
    (h : Sweep t found options room floor groups snippets) (hfloor : 0 ≤ floor) {reach : Int}
    (hreach : ∀ anchor stop,
      Window.movedEnd t found Window.boundaryTolerance anchor stop ≤ stop + reach)
    {snippet : Snippet} (hsnippet : snippet ∈ snippets) :
    (snippet.text.length : Int) ≤ options.snippetLength + Window.boundaryTolerance + reach := by
  rw [h.length_text hordered hfloor hsnippet]
  obtain ⟨below, group, hgroup, rest, hstate, _, rfl⟩ := h.exists_group hsnippet
  exact groupWindow_length_le hordered hstate (hshort group hgroup) (hreach _ _)

end Sweep

theorem leading_length_le (t : Text) (options : HighlightOptions) :
    ((leading t options).text.length : Int) ≤ options.snippetLength :=
  Int.ofNat_le.mpr (List.length_take_le _ _)

end Snippet

theorem span_le_of_short {contextWindow maxSpan : Int} {found : List Match}
    (hshort : ∀ m ∈ found, m.length ≤ maxSpan) {group : Group}
    (hgroup : group ∈ groupNearby contextWindow maxSpan found) :
    group.stop - group.start ≤ maxSpan := by
  rcases span_le_of_mem_groupNearby hgroup with hspan | ⟨m, rfl⟩
  · exact hspan
  · apply hshort
    rw [← flatMap_members_groupNearby contextWindow maxSpan found]
    exact List.mem_flatMap.mpr ⟨_, hgroup, List.mem_singleton.mpr rfl⟩

/-- A snippet keeps to the length asked for with the tolerance on both sides unless it shows a
matched character there. Every match makes it longer by the tolerance at most; matches that share no
characters make it longer by one tolerance at most, and not at all when they hold no blanks. -/
theorem snippet_length_le_iff (t : Text) (found : List Match) (options : HighlightOptions)
    (hshort : ∀ m ∈ validMatches t found, m.length ≤ options.snippetLength) :
    ∀ s ∈ buildSnippets t found options,
      ((s.text.length : Int) ≤ options.snippetLength + 2 * Window.boundaryTolerance ↔
        ¬ s.ShowsMatched (validMatches t found)
          (options.snippetLength + 2 * Window.boundaryTolerance)) ∧
      (s.text.length : Int)
        ≤ options.snippetLength + (2 + (validMatches t found).length) * Window.boundaryTolerance ∧
      ((validMatches t found).Pairwise Match.Apart →
        (s.text.length : Int) ≤ options.snippetLength + 3 * Window.boundaryTolerance ∧
        ((∀ m ∈ validMatches t found, ∀ i, m.Holds i → ¬ Window.blankAt t i) →
          (s.text.length : Int) ≤ options.snippetLength + 2 * Window.boundaryTolerance)) := by
  intro s hs
  have htolerance := Window.boundaryTolerance_nonneg
  by_cases hnone : validMatches t found = []
  · rw [Snippet.buildSnippets_of_validMatches_eq_nil options hnone] at hs
    obtain rfl := List.mem_singleton.mp hs
    have hlength := Snippet.leading_length_le t options
    have hunmatched : ∀ offset, ¬ (Snippet.leading t options).ShowsMatched [] offset :=
      fun _ ⟨_, _, hm, _⟩ => absurd hm List.not_mem_nil
    rw [hnone, List.length_nil]
    exact ⟨⟨fun _ => hunmatched _, fun _ => by omega⟩, by omega, fun _ => ⟨by omega, fun _ => by omega⟩⟩
  · have hordered := validMatches_ordered t found
    have hsweep := Snippet.sweep_buildSnippets options hnone
    have hspan : ∀ group ∈ groupNearby options.contextWindow options.snippetLength
        (validMatches t found), group.stop - group.start ≤ options.snippetLength :=
      fun group hgroup => span_le_of_short hshort hgroup
    refine ⟨hsweep.length_text_le_iff hordered hspan (Int.le_refl _) hs, ?_, fun hapart =>
      ⟨?_, fun hink => ?_⟩⟩
    · have := hsweep.length_text_le hordered hspan (Int.le_refl _)
        (Window.movedEnd_le_length t htolerance (validMatches t found)) hs
      rw [Int.add_mul] at this ⊢
      omega
    · have := hsweep.length_text_le hordered hspan (Int.le_refl _)
        (Window.movedEnd_le_of_disjoint t htolerance (hordered.pairwise_stop_le_start hapart)) hs
      omega
    · have := hsweep.length_text_le hordered hspan (Int.le_refl _)
        (Window.movedEnd_le_of_ink htolerance (hordered.pairwise_stop_le_start hapart)
          (fun m hm => (hordered.fits m hm).2.2) hink) hs
      omega

/-- The two parts of the word that share no character. -/
def apartMatches : List Match :=
  [⟨0, 5, .primary, "abcde".toList⟩, ⟨8, 18, .secondary, "ijklmnopqr".toList⟩]

theorem snippet_length_le_iff_apart :
    (∀ m ∈ validMatches longWord apartMatches, m.length ≤ 10) ∧
      (validMatches longWord apartMatches).Pairwise Match.Apart ∧
      (∀ m ∈ validMatches longWord apartMatches, ∀ i, m.Holds i → ¬ Window.blankAt longWord i) ∧
      ∀ s ∈ buildSnippets longWord apartMatches { snippetLength := 10 },
        (s.text.length : Int) ≤ 34 := by
  have hvalid : validMatches longWord apartMatches = apartMatches :=
    validMatches_of_ordered ⟨by decide, by decide⟩
  have hshort : ∀ m ∈ validMatches longWord apartMatches, m.length ≤ 10 := by
    rw [hvalid]
    decide
  have hapart : (validMatches longWord apartMatches).Pairwise Match.Apart := by
    rw [hvalid]
    decide
  have hink : ∀ m ∈ validMatches longWord apartMatches, ∀ i, m.Holds i →
      ¬ Window.blankAt longWord i :=
    fun _ _ i _ => Window.not_blankAt_of_all_isInk (by decide) i
  exact ⟨hshort, hapart, hink, fun s hs =>
    ((snippet_length_le_iff longWord apartMatches { snippetLength := 10 } hshort s hs).2.2
      hapart).2 hink⟩

/-- Matches that are short enough for a snippet can make it longer than the tolerance allows, when
each of them hands the end on to the next. -/
theorem not_forall_snippet_length_le :
    ¬ ∀ (t : Text) (found : List Match) (options : HighlightOptions),
      (∀ m ∈ validMatches t found, m.length ≤ options.snippetLength) →
        ∀ s ∈ buildSnippets t found options,
          (s.text.length : Int) ≤ options.snippetLength + 2 * Window.boundaryTolerance := by
  intro hall
  have hshort : ∀ m ∈ validMatches longWord chainedMatches, m.length ≤ 10 := by
    rw [validMatches_of_ordered chainedMatches_ordered]
    decide
  have hbound := hall longWord chainedMatches { snippetLength := 10 } hshort
  rw [Snippet.buildSnippets_of_ordered _ chainedMatches_ordered (by decide)] at hbound
  exact absurd hbound (by decide)

end NoteSearch
