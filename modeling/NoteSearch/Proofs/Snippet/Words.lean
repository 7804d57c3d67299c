import NoteSearch.Proofs.Snippet.Edges

/-!
# Snippets of whole words

Where every match consists of whole words, no snippet begins or ends inside a word, however long the
word is. An edge that is too far from the end of its word goes the other way, where it meets a blank
before it meets the group, because the group consists of whole words as well. A start that has no room to
move is the end of the snippet before it.
-/

namespace NoteSearch

namespace Window

/-- A cut at an offset splits no word: it is at an end of the text or has a blank beside it. -/
def BetweenWords (t : Text) (i : Int) : Prop :=
  0 < i → i < t.length → blankAt t (i - 1) ∨ blankAt t i

instance (t : Text) (i : Int) : Decidable (BetweenWords t i) :=
  inferInstanceAs (Decidable (_ → _ → _ ∨ _))

variable {t : Text} {found : List Match} {floor tolerance anchor start stop i : Int}

theorem splitsWord_iff : splitsWord t i ↔ ¬ BetweenWords t i := by
  simp only [splitsWord, BetweenWords, Bool.and_eq_true, decide_eq_true_eq, Bool.not_eq_true',
    Bool.not_eq_true, Classical.not_imp, not_or, and_assoc]

theorem betweenWords_of_not_splitsWord (h : ¬ splitsWord t i) : BetweenWords t i :=
  Decidable.not_not.mp (mt splitsWord_iff.mpr h)

/-- A word begins here, or could. -/
theorem betweenWords_of_before (h : i = 0 ∨ blankAt t (i - 1)) : BetweenWords t i := by
  intro hpos _
  exact .inl (h.resolve_left (Int.ne_of_gt hpos))

/-- A word ends here, or could. -/
theorem betweenWords_of_after (h : i = t.length ∨ blankAt t i) : BetweenWords t i := by
  intro _ hlt
  exact .inr (h.resolve_left (Int.ne_of_lt hlt))

/-! ### Edges of a window -/

theorem betweenWords_startOffWord (floor tolerance : Int) (hzero : 0 ≤ start) (hle : start ≤ anchor)
    (htext : anchor ≤ t.length) (hanchor : BetweenWords t anchor)
    (hbefore : start < anchor → blankAt t (anchor - 1)) :
    BetweenWords t (startOffWord t floor tolerance anchor start) := by
  simp only [startOffWord]
  split
  · next hsplit =>
      split
      · next hback => exact betweenWords_of_before hback
      · -- the start is not the anchor, so the word ends at the blank before the anchor or earlier
        have hinside : start < anchor := by
          refine Int.lt_iff_le_and_ne.mpr ⟨hle, ?_⟩
          rintro rfl
          exact splitsWord_iff.mp hsplit hanchor
        have hword : wordEnd t start < anchor := by
          refine Int.not_le.mp fun hreach => ?_
          exact not_blankAt_of_lt_wordEnd hzero (by omega) (by omega) (hbefore hinside)
        rw [Int.min_eq_right (Int.le_of_lt hword), if_pos hword]
        exact betweenWords_of_after (.inr (blankAt_wordEnd hzero (by omega)))
  · next hwhole => exact betweenWords_of_not_splitsWord hwhole

theorem betweenWords_endOffWord (tolerance : Int) (hzero : 0 ≤ anchor) (hle : anchor ≤ stop)
    (htext : stop ≤ t.length) (hanchor : anchor = t.length ∨ blankAt t anchor) :
    BetweenWords t (endOffWord t tolerance anchor stop) := by
  simp only [endOffWord]
  split
  · next hsplit =>
      split
      · next hforward => exact betweenWords_of_after hforward
      · -- the word begins after the blank at the anchor
        have hinside : anchor < stop := by
          refine Int.lt_iff_le_and_ne.mpr ⟨hle, ?_⟩
          rintro rfl
          exact splitsWord_iff.mp hsplit (betweenWords_of_after hanchor)
        have hblank : blankAt t anchor := hanchor.resolve_left (by omega)
        have hword : anchor < wordStart t stop := by
          refine Int.not_le.mp fun hreach => ?_
          exact not_blankAt_of_wordStart_le htext hreach hinside hblank
        rw [Int.max_eq_right (Int.le_of_lt hword), if_pos hword]
        exact betweenWords_of_before (.inr (blankAt_before_wordStart htext (by omega)))
  · next hwhole => exact betweenWords_of_not_splitsWord hwhole

theorem betweenWords_trimmedStart (anchor : Int) (hzero : 0 ≤ start) (h : BetweenWords t start) :
    BetweenWords t (max start (min anchor (start + runAfter isBlank t start))) := by
  by_cases htrim : start < max start (min anchor (start + runAfter isBlank t start))
  · apply betweenWords_of_before
    right
    exact blankAt_of_runAfter hzero (by omega) (by omega)
  · rwa [Int.le_antisymm (Int.not_lt.mp htrim) (Int.le_max_left _ _)]

theorem betweenWords_trimmedEnd (anchor : Int) (htext : stop ≤ t.length) (h : BetweenWords t stop) :
    BetweenWords t (min stop (max anchor (stop - runBefore isBlank t stop))) := by
  by_cases htrim : min stop (max anchor (stop - runBefore isBlank t stop)) < stop
  · apply betweenWords_of_after
    right
    exact blankAt_of_runBefore htext (by omega) htrim
  · rwa [Int.le_antisymm (Int.min_le_left _ _) (Int.not_lt.mp htrim)]

end Window

open Window

/-- The match begins where a word may begin and ends where a word may end. -/
structure Match.OfWholeWords (t : Text) (m : Match) : Prop where
  start : m.start = 0 ∨ blankAt t (m.start - 1)
  stop : m.stop = t.length ∨ blankAt t m.stop

instance (t : Text) (m : Match) : Decidable (m.OfWholeWords t) :=
  decidable_of_iff ((m.start = 0 ∨ blankAt t (m.start - 1)) ∧ (m.stop = t.length ∨ blankAt t m.stop))
    ⟨fun h => ⟨h.1, h.2⟩, fun h => ⟨h.start, h.stop⟩⟩

theorem Window.betweenWords_movedEnd {t : Text} {found : List Match} {anchor stop : Int}
    (tolerance : Int) (hwhole : ∀ m ∈ found, m.OfWholeWords t)
    (hword : BetweenWords t (endOffWord t tolerance anchor stop)) :
    BetweenWords t (movedEnd t found tolerance anchor stop) := by
  refine List.foldlRecOn found _ (motive := BetweenWords t) hword ?_
  intro x hx m hm
  rw [endOffMatch]
  split
  · split
    · exact betweenWords_of_after (hwhole m hm).stop
    · split
      · exact betweenWords_of_before (hwhole m hm).start
      · exact hx
  · exact hx

namespace Snippet

variable {t : Text} {found : List Match} {options : HighlightOptions} {room : Nat} {floor : Int}
  {group : Group} {rest groups : List Group} {snippets : List Snippet}

theorem Pending.ofWholeWords (hstate : Pending found floor (group :: rest))
    (hwhole : ∀ m ∈ found, m.OfWholeWords t) :
    (group.start = 0 ∨ blankAt t (group.start - 1)) ∧
      (group.stop = t.length ∨ blankAt t group.stop) := by
  have hspans := hstate.spans group List.mem_cons_self
  have hmembers := hstate.members group List.mem_cons_self
  obtain ⟨first, hfirst, hstart⟩ := hspans.first
  obtain ⟨last, hlast, hstop⟩ := hspans.last
  rw [← hstart, ← hstop]
  exact ⟨(hwhole first (hmembers first hfirst)).start, (hwhole last (hmembers last hlast)).stop⟩

theorem betweenWords_groupWindow_start (options : HighlightOptions) (hordered : Ordered t found)
    (hwhole : ∀ m ∈ found, m.OfWholeWords t) (hstate : Pending found floor (group :: rest))
    (hopen : floor < group.stop) (hzero : 0 ≤ floor) (hfloor : BetweenWords t floor) :
    BetweenWords t (groupWindow t found options floor group).1 := by
  have hfits := hstate.fits hordered
  have hgroup := (hstate.ofWholeWords hwhole).1
  have hgrown := (grownWindow_bounds options hordered hstate).1
  have hbounds := wordMovedStart_bounds options hordered hstate
  have hanchor : BetweenWords t (max group.start floor) := by
    rcases Int.le_total group.start floor with hle | hle
    · rwa [Int.max_eq_right hle]
    · rw [Int.max_eq_left hle]
      exact betweenWords_of_before hgroup
  have hbefore : (grownWindow t options floor group).1 < max group.start floor →
      blankAt t (max group.start floor - 1) := by
    intro hroom
    rw [Int.max_eq_left (by omega)]
    exact hgroup.resolve_left (by omega)
  have hword : BetweenWords t (wordMovedStart t options floor group) :=
    betweenWords_startOffWord _ _ (by omega) hgrown.2 (by omega) hanchor hbefore
  rw [groupWindow_start options hordered hstate]
  exact betweenWords_trimmedStart _ (by omega) hword

theorem betweenWords_groupWindow_end (options : HighlightOptions) (hordered : Ordered t found)
    (hwhole : ∀ m ∈ found, m.OfWholeWords t) (hstate : Pending found floor (group :: rest)) :
    BetweenWords t (groupWindow t found options floor group).2 := by
  have hfits := hstate.fits hordered
  have hgrown := (grownWindow_bounds options hordered hstate).2
  have hbounds := movedEnd_bounds boundaryTolerance hgrown.1 hgrown.2
    fun m hm => (hordered.fits m hm).2.2
  have hword := betweenWords_endOffWord boundaryTolerance (by omega) hgrown.1 hgrown.2
    (hstate.ofWholeWords hwhole).2
  rw [groupWindow_eq, settleEnd_eq]
  exact betweenWords_trimmedEnd _ hbounds.2 (betweenWords_movedEnd _ hwhole hword)

/-- When the sweep begins between words, so does every snippet, and each ends between words. -/
theorem Sweep.betweenWords (hordered : Ordered t found) (hwhole : ∀ m ∈ found, m.OfWholeWords t)
    (h : Sweep t found options room floor groups snippets) (hzero : 0 ≤ floor)
    (hfloor : BetweenWords t floor) :
    ∀ s ∈ snippets, BetweenWords t s.contextStart ∧ BetweenWords t s.contextEnd := by
  induction h with
  | done => exact fun s hs => absurd hs List.not_mem_nil
  | full => exact fun s hs => absurd hs List.not_mem_nil
  | skip _ _ _ ih => exact ih hzero hfloor
  | cut hstate hopen _ ih =>
      have hbounds := groupWindow_bounds options hordered hstate
      have hstart := betweenWords_groupWindow_start options hordered hwhole hstate hopen hzero
        hfloor
      have hend := betweenWords_groupWindow_end options hordered hwhole hstate
      intro s hs
      rcases List.mem_cons.mp hs with rfl | hs
      · exact ⟨hstart, hend⟩
      · exact ih (by omega) hend s hs

end Snippet

/-- Snippets around matches of whole words begin and end between words. -/
theorem buildSnippets_betweenWords (t : Text) (found : List Match) (options : HighlightOptions)
    (hsome : ∃ m ∈ found, m.fits t.length)
    (hwhole : ∀ m ∈ found, m.fits t.length → m.OfWholeWords t) :
    ∀ s ∈ buildSnippets t found options,
      BetweenWords t s.contextStart ∧ BetweenWords t s.contextEnd := by
  have hsweep := Snippet.sweep_buildSnippets options (validMatches_ne_nil_iff.mpr hsome)
  refine hsweep.betweenWords (validMatches_ordered t found) ?_ (Int.le_refl _)
    (betweenWords_of_before (.inl rfl))
  intro m hm
  obtain ⟨hmem, hfits⟩ := mem_validMatches.mp hm
  exact hwhole m hmem hfits

/-- A word that is longer than the tolerance between two short ones. -/
def longWordText : Text :=
  "see ".toList ++ longWord ++ " end".toList

/-- The two short words, and a match that does not fit. -/
def shortWords : List Match :=
  [⟨41, 44, .secondary, "end".toList⟩, ⟨0, 3, .primary, "see".toList⟩, ⟨43, 45, .field, "d.".toList⟩]

theorem buildSnippets_betweenWords_longWord :
    (∃ m ∈ shortWords, m.fits longWordText.length) ∧
      (∀ m ∈ shortWords, m.fits longWordText.length → m.OfWholeWords longWordText) ∧
      ∀ s ∈ buildSnippets longWordText shortWords { snippetLength := 20 },
        BetweenWords longWordText s.contextStart ∧ BetweenWords longWordText s.contextEnd := by
  have hsome : ∃ m ∈ shortWords, m.fits longWordText.length := by decide
  have hwhole : ∀ m ∈ shortWords, m.fits longWordText.length → m.OfWholeWords longWordText := by
    decide
  exact ⟨hsome, hwhole, buildSnippets_betweenWords longWordText shortWords { snippetLength := 20 }
    hsome hwhole⟩

end NoteSearch
