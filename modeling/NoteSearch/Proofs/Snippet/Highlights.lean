import NoteSearch.Proofs.Snippet.Sweep

/-!
# The highlights of the snippets of a text

Moved back to the offsets of the text, the highlights of the snippets are some of its matches, in
their order and none more than once. They are all of them when there is room for more snippets and
the matches share no characters and end in ink: then no snippet ends inside a match.
-/

namespace NoteSearch

theorem Match.shift_shift_neg (m : Match) (offset : Int) : (m.shift offset).shift (-offset) = m := by
  cases m
  simp only [Match.shift, Match.mk.injEq, and_true]
  omega

namespace Snippet

variable {t : Text} {found : List Match} {options : HighlightOptions} {room : Nat} {floor : Int}
  {groups : List Group} {snippets : List Snippet}

/-- The highlights in the offsets of the text that the snippet is cut from. -/
def sourceHighlights (snippet : Snippet) : List Match :=
  snippet.highlights.map (Match.shift · (-snippet.contextStart))

theorem sourceHighlights_ofWindow (t : Text) (found : List Match) (start stop : Int) :
    (ofWindow t found start stop).sourceHighlights
      = found.filter fun m => decide (start ≤ m.start ∧ m.stop ≤ stop) := by
  simp only [sourceHighlights, ofWindow, List.map_map, Function.comp_def, Match.shift_shift_neg,
    List.map_id']

theorem filter_window_sublist (hordered : Ordered t found) {start stop : Int}
    (hfloor : floor ≤ start) :
    (found.filter fun m => decide (start ≤ m.start ∧ m.stop ≤ stop)).Sublist
      (found.filter fun m => decide (floor ≤ m.start ∧ m.start < stop)) := by
  have hinside : (found.filter fun m => decide (start ≤ m.start ∧ m.stop ≤ stop))
      = (found.filter fun m => decide (floor ≤ m.start ∧ m.start < stop)).filter
        fun m => decide (start ≤ m.start ∧ m.stop ≤ stop) := by
    rw [List.filter_filter]
    apply List.filter_congr
    intro m hm
    have := hordered.fits m hm
    rw [← Bool.decide_and, decide_eq_decide]
    omega
  rw [hinside]
  exact List.filter_sublist

/-- The highlights of a sweep are matches that start at the floor or later. -/
theorem Sweep.highlights_sublist (hordered : Ordered t found)
    (h : Sweep t found options room floor groups snippets) :
    (snippets.flatMap sourceHighlights).Sublist
      (found.filter fun m => decide (floor ≤ m.start)) := by
  induction h with
  | done => exact List.nil_sublist _
  | full => exact List.nil_sublist _
  | skip _ _ _ ih => exact ih
  | @cut room floor group rest snippets hstate hopen hrest ih =>
      have hbounds := groupWindow_bounds options hordered hstate
      have hfloor : floor ≤ (groupWindow t found options floor group).2 := by omega
      rw [List.flatMap_cons, sourceHighlights_ofWindow, filter_from_eq_append hordered.sorted hfloor]
      exact (filter_window_sublist hordered hbounds.1.1).append ih

/-- The end of a window cuts no match when matches share no characters and end in ink. -/
theorem not_cutAt_groupWindow (options : HighlightOptions) {group : Group} {rest : List Group}
    (hordered : Ordered t found) (hstate : Pending found floor (group :: rest))
    (hapart : found.Pairwise Match.Apart) (hink : ∀ m ∈ found, ¬ Window.blankAt t (m.stop - 1)) :
    ∀ m ∈ found, ¬ m.CutAt (groupWindow t found options floor group).2 := by
  have hgrown := grownWindow_bounds options hordered hstate
  obtain ⟨last, hlast, hstop⟩ := (hstate.spans group List.mem_cons_self).last
  have hlast := hstate.members group List.mem_cons_self last hlast
  refine Window.not_cutAt_settleEnd Window.boundaryTolerance_nonneg hgrown.2.1 hgrown.2.2 hordered
    hapart hink ?_
  intro m hm hreach
  rw [← hstop] at hreach ⊢
  exact hordered.stop_le_start hapart hlast hm hreach

/-- A sweep that does not run out of room highlights every match from the floor on. -/
theorem Sweep.highlights_eq (hordered : Ordered t found) (hapart : found.Pairwise Match.Apart)
    (hink : ∀ m ∈ found, ¬ Window.blankAt t (m.stop - 1))
    (h : Sweep t found options room floor groups snippets) (hroom : snippets.length < room) :
    snippets.flatMap sourceHighlights = found.filter fun m => decide (floor ≤ m.start) := by
  induction h with
  | done hstate =>
      refine (List.filter_eq_nil_iff.mpr ?_).symm
      intro m hm hstart
      have := hordered.fits m hm
      rw [decide_eq_true_eq] at hstart
      obtain ⟨group, hgroup, _⟩ := hstate.reaches m hm (by omega)
      exact absurd hgroup List.not_mem_nil
  | full => exact absurd hroom (Nat.not_lt_zero _)
  | skip _ _ _ ih => exact ih hroom
  | @cut room floor group rest snippets hstate hopen hrest ih =>
      have hbounds := groupWindow_bounds options hordered hstate
      have hcut := not_cutAt_groupWindow options hordered hstate hapart hink
      have hfloor : floor ≤ (groupWindow t found options floor group).2 := by omega
      rw [List.flatMap_cons, sourceHighlights_ofWindow, ih (Nat.lt_of_succ_lt_succ hroom),
        filter_from_eq_append hordered.sorted hfloor]
      congr 1
      apply List.filter_congr
      intro m hm
      have hfits := hordered.fits m hm
      have hwhole := hcut m hm
      have hnext : floor ≤ m.start → group.start ≤ m.start := fun _ =>
        hstate.start_le hm (by omega)
      simp only [Match.CutAt] at hwhole
      -- the window starts before the group, and its end cuts no match
      rw [decide_eq_decide]
      omega

end Snippet

/-- Taken back to the text, the highlights of the snippets are matches in their order, each at most
once; with room for more snippets they are all the matches, if these share no characters and end in
ink. -/
theorem highlights_sublist_and_eq (t : Text) (found : List Match) (options : HighlightOptions) :
    ((buildSnippets t found options).flatMap Snippet.sourceHighlights).Sublist
        (validMatches t found) ∧
      ((buildSnippets t found options).length < options.maxSnippets →
        (validMatches t found).Pairwise Match.Apart →
        (∀ m ∈ validMatches t found, ¬ Window.blankAt t (m.stop - 1)) →
        (buildSnippets t found options).flatMap Snippet.sourceHighlights = validMatches t found) := by
  by_cases hnone : validMatches t found = []
  · have hnothing : ([Snippet.leading t options].flatMap Snippet.sourceHighlights) = [] := rfl
    rw [Snippet.buildSnippets_of_validMatches_eq_nil options hnone, hnothing, hnone]
    exact ⟨List.nil_sublist _, fun _ _ _ => rfl⟩
  · have hordered := validMatches_ordered t found
    have hsweep := Snippet.sweep_buildSnippets options hnone
    have hall : ((validMatches t found).filter fun m => decide (0 ≤ m.start)) = validMatches t found :=
      List.filter_eq_self.mpr fun m hm => decide_eq_true (hordered.fits m hm).1
    constructor
    · have hsublist := hsweep.highlights_sublist hordered
      rwa [hall] at hsublist
    · intro hroom hapart hink
      have heq := hsweep.highlights_eq hordered hapart hink hroom
      rwa [hall] at heq

/-- A text of five words. -/
def spacedText : Text := "alpha beta gamma delta epsilon".toList

/-- Its first word and its fourth. -/
def spacedMatches : List Match :=
  [⟨0, 5, .secondary, "alpha".toList⟩, ⟨17, 22, .primary, "delta".toList⟩]

theorem highlights_sublist_and_eq_spaced :
    (buildSnippets spacedText spacedMatches { snippetLength := 10 }).length < 3 ∧
      (validMatches spacedText spacedMatches).Pairwise Match.Apart ∧
      (∀ m ∈ validMatches spacedText spacedMatches, ¬ Window.blankAt spacedText (m.stop - 1)) ∧
      (buildSnippets spacedText spacedMatches { snippetLength := 10 }).flatMap
        Snippet.sourceHighlights = spacedMatches := by
  have hordered : Ordered spacedText spacedMatches := ⟨by decide, by decide⟩
  have hvalid := validMatches_of_ordered hordered
  have hroom : (buildSnippets spacedText spacedMatches { snippetLength := 10 }).length < 3 := by
    rw [Snippet.buildSnippets_of_ordered _ hordered (by decide)]
    decide
  have hapart : (validMatches spacedText spacedMatches).Pairwise Match.Apart := by
    rw [hvalid]
    decide
  have hink : ∀ m ∈ validMatches spacedText spacedMatches,
      ¬ Window.blankAt spacedText (m.stop - 1) := by
    rw [hvalid]
    decide
  have hall := (highlights_sublist_and_eq spacedText spacedMatches { snippetLength := 10 }).2
    hroom hapart hink
  exact ⟨hroom, hapart, hink, hall.trans hvalid⟩

end NoteSearch
