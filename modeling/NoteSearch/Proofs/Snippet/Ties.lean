import Mathlib.Data.List.Forall2
import NoteSearch.Proofs.Snippet.Highlights

/-!
# Matches in any order

Windows are cut by the stretches of the matches alone, taken by their starts. So an order of the
matches is as good as another one as long as, among the matches with one start, the stops come in the
same order; the snippets are then the same but for the order of their highlights. Stops that change
places can change what is shown: a long match joins no group, or opens one that takes in a short match,
and an end that leaves one of them meets the other or not.
-/

namespace NoteSearch

/-- The matches cover the same stretch. -/
def Match.SameSpan (a b : Match) : Prop :=
  a.start = b.start ∧ a.stop = b.stop

/-! ### Stops of the matches with one start -/

/-- The stops of the matches with a start, in the order of the list. -/
def stopsAt (start : Int) (found : List Match) : List Int :=
  (found.filter fun m => m.start == start).map Match.stop

section Stops

variable {start : Int} {m : Match} {rest first second : List Match}

theorem stopsAt_cons_of_eq (h : m.start = start) :
    stopsAt start (m :: rest) = m.stop :: stopsAt start rest := by
  rw [stopsAt, List.filter_cons_of_pos (by simpa using h), List.map_cons, stopsAt]

theorem stopsAt_cons_of_ne (h : m.start ≠ start) : stopsAt start (m :: rest) = stopsAt start rest := by
  rw [stopsAt, List.filter_cons_of_neg (by simpa using h), stopsAt]

theorem stopsAt_start_cons_ne_nil (m : Match) (rest : List Match) :
    stopsAt m.start (m :: rest) ≠ [] := by
  rw [stopsAt_cons_of_eq rfl]
  exact List.cons_ne_nil _ _

/-- A list by starts begins no later than where it has a stop. -/
theorem start_le_of_stopsAt_ne_nil (hsorted : (m :: rest).Pairwise fun a b => a.start ≤ b.start)
    (h : stopsAt start (m :: rest) ≠ []) : m.start ≤ start := by
  obtain ⟨stop, hstop⟩ := List.exists_mem_of_ne_nil _ h
  obtain ⟨other, hother, -⟩ := List.mem_map.mp hstop
  obtain ⟨hmem, hstart⟩ := List.mem_filter.mp hother
  rw [← beq_iff_eq.mp hstart]
  rcases List.mem_cons.mp hmem with rfl | hmem
  · exact Int.le_refl _
  · exact List.rel_of_pairwise_cons hsorted hmem

/-- As far as stretches go, a list by starts is known by its stops at every start. -/
theorem forall₂_sameSpan_of_stopsAt_eq (hfirst : first.Pairwise fun a b => a.start ≤ b.start)
    (hsecond : second.Pairwise fun a b => a.start ≤ b.start)
    (h : ∀ start, stopsAt start first = stopsAt start second) :
    List.Forall₂ Match.SameSpan first second := by
  induction first generalizing second with
  | nil =>
      cases second with
      | nil => exact .nil
      | cons b second => exact absurd (h b.start).symm (stopsAt_start_cons_ne_nil b second)
  | cons a first ih =>
      cases second with
      | nil => exact absurd (h a.start) (stopsAt_start_cons_ne_nil a first)
      | cons b second =>
          -- each list has a stop where the other one begins, so both begin at one start
          have hstart : a.start = b.start := Int.le_antisymm
            (start_le_of_stopsAt_ne_nil hfirst ((h b.start).trans_ne (stopsAt_start_cons_ne_nil b second)))
            (start_le_of_stopsAt_ne_nil hsecond
              ((h a.start).symm.trans_ne (stopsAt_start_cons_ne_nil a first)))
          have hhere := h a.start
          rw [stopsAt_cons_of_eq rfl, stopsAt_cons_of_eq hstart.symm, List.cons.injEq] at hhere
          refine .cons ⟨hstart, hhere.1⟩ (ih hfirst.of_cons hsecond.of_cons ?_)
          intro start
          by_cases hsame : a.start = start
          · rw [← hsame, hhere.2]
          · have hthere := h start
            rwa [stopsAt_cons_of_ne hsame, stopsAt_cons_of_ne (hstart ▸ hsame)] at hthere

theorem stopsAt_validMatches (t : Text) (found : List Match) (start : Int) :
    stopsAt start (validMatches t found) = stopsAt start (found.filter (Match.fits · t.length)) := by
  rw [stopsAt, validMatches, Match.filter_start_sortByStart, stopsAt]

end Stops

/-! ### The same stretches in the same order -/

section Spans

variable {t : Text} {found found' : List Match}

theorem foldl_eq_of_sameSpan {move : Int → Match → Int}
    (hmove : ∀ i a b, a.SameSpan b → move i a = move i b) (h : List.Forall₂ Match.SameSpan found found')
    (i : Int) : found.foldl move i = found'.foldl move i := by
  induction h generalizing i with
  | nil => rfl
  | cons hspan _ ih => rw [List.foldl_cons, List.foldl_cons, hmove _ _ _ hspan, ih]

theorem Window.settleStart_eq_of_sameSpan (h : List.Forall₂ Match.SameSpan found found')
    (floor tolerance anchor start : Int) :
    settleStart t found floor tolerance anchor start
      = settleStart t found' floor tolerance anchor start := by
  have hmove : ∀ i (a b : Match), a.SameSpan b →
      startOffMatch floor tolerance anchor i a = startOffMatch floor tolerance anchor i b := by
    rintro i a b ⟨hstart, hstop⟩
    rw [startOffMatch, startOffMatch, hstart, hstop]
  simp only [settleStart, foldl_eq_of_sameSpan hmove h]

theorem Window.settleEnd_eq_of_sameSpan (h : List.Forall₂ Match.SameSpan found found')
    (tolerance anchor stop : Int) :
    settleEnd t found tolerance anchor stop = settleEnd t found' tolerance anchor stop := by
  have hmove : ∀ i (a b : Match), a.SameSpan b →
      endOffMatch tolerance anchor i a = endOffMatch tolerance anchor i b := by
    rintro i a b ⟨hstart, hstop⟩
    rw [endOffMatch, endOffMatch, hstart, hstop]
  simp only [settleEnd, foldl_eq_of_sameSpan hmove h]

/-- The groups cover the same stretch. -/
def Group.SameSpan (a b : Group) : Prop :=
  a.start = b.start ∧ a.stop = b.stop

theorem Group.forall₂_gather (contextWindow maxSpan : Int) {current current' : Group}
    (hcurrent : current.SameSpan current') (h : List.Forall₂ Match.SameSpan found found') :
    List.Forall₂ Group.SameSpan (gather contextWindow maxSpan current found)
      (gather contextWindow maxSpan current' found') := by
  induction h generalizing current current' with
  | nil => exact .cons hcurrent .nil
  | @cons a b found found' hspan _ ih =>
      have hadmits : current.admits contextWindow maxSpan a = current'.admits contextWindow maxSpan b := by
        rw [admits, admits, hcurrent.1, hcurrent.2, hspan.1, hspan.2]
      rw [gather, gather, hadmits]
      split
      · apply ih
        exact ⟨hcurrent.1, congrArg₂ max hcurrent.2 hspan.2⟩
      · exact .cons hcurrent (ih hspan)

theorem forall₂_groupNearby (contextWindow maxSpan : Int)
    (h : List.Forall₂ Match.SameSpan found found') :
    List.Forall₂ Group.SameSpan (groupNearby contextWindow maxSpan found)
      (groupNearby contextWindow maxSpan found') := by
  cases h with
  | nil => exact .nil
  | cons hspan h => exact Group.forall₂_gather contextWindow maxSpan hspan h

namespace Snippet

/-- The same window with the same highlights in some order. -/
structure Alike (a b : Snippet) : Prop where
  text : a.text = b.text
  contextStart : a.contextStart = b.contextStart
  contextEnd : a.contextEnd = b.contextEnd
  highlights : a.highlights.Perm b.highlights

theorem Alike.refl (s : Snippet) : Alike s s :=
  ⟨rfl, rfl, rfl, .refl _⟩

theorem alike_ofWindow (t : Text) (hperm : found.Perm found') (start stop : Int) :
    Alike (ofWindow t found start stop) (ofWindow t found' start stop) where
  text := rfl
  contextStart := rfl
  contextEnd := rfl
  highlights := (hperm.filter _).map _

theorem groupWindow_eq_of_sameSpan (t : Text) (options : HighlightOptions) (floor : Int)
    (h : List.Forall₂ Match.SameSpan found found') {group group' : Group}
    (hgroup : group.SameSpan group') :
    groupWindow t found options floor group = groupWindow t found' options floor group' := by
  rw [groupWindow_eq, groupWindow_eq, grownWindow, grownWindow, hgroup.1, hgroup.2,
    Window.settleStart_eq_of_sameSpan h, Window.settleEnd_eq_of_sameSpan h]

theorem forall₂_ofGroups (t : Text) (options : HighlightOptions) (hperm : found.Perm found')
    (h : List.Forall₂ Match.SameSpan found found') {groups groups' : List Group}
    (hgroups : List.Forall₂ Group.SameSpan groups groups') (room : Nat) (floor : Int) :
    List.Forall₂ Alike (ofGroups t found options room floor groups)
      (ofGroups t found' options room floor groups') := by
  induction hgroups generalizing room floor with
  | nil =>
      rw [ofGroups, ofGroups]
      exact .nil
  | @cons group group' groups groups' hgroup _ ih =>
      cases room with
      | zero =>
          rw [ofGroups, ofGroups]
          exact .nil
      | succ room =>
          rw [ofGroups_cons, ofGroups_cons, groupWindow_eq_of_sameSpan t options floor h hgroup,
            hgroup.1, hgroup.2]
          -- both skip the group, or both go on from the end of the same window
          split
          · exact ih _ _
          · exact .cons (alike_ofWindow t hperm _ _) (ih _ _)

end Snippet

end Spans

/-- Another order of the matches gives the same snippets, with the same highlights in some order, when
it leaves the stops of the fitting matches with one start in their order. -/
theorem buildSnippets_alike_of_perm (t : Text) (options : HighlightOptions)
    {found found' : List Match} (hperm : found.Perm found')
    (hstops : ∀ start, stopsAt start (found.filter (Match.fits · t.length))
      = stopsAt start (found'.filter (Match.fits · t.length))) :
    List.Forall₂ Snippet.Alike (buildSnippets t found options) (buildSnippets t found' options) := by
  have hvalid : (validMatches t found).Perm (validMatches t found') :=
    (Match.sortByStart_perm _).trans ((hperm.filter _).trans (Match.sortByStart_perm _).symm)
  have hspans : List.Forall₂ Match.SameSpan (validMatches t found) (validMatches t found') := by
    apply forall₂_sameSpan_of_stopsAt_eq (validMatches_ordered t found).sorted
      (validMatches_ordered t found').sorted
    intro start
    rw [stopsAt_validMatches, stopsAt_validMatches, hstops]
  by_cases hnone : validMatches t found = []
  · have hnone' : validMatches t found' = [] := (hnone ▸ hvalid).nil_eq.symm
    rw [Snippet.buildSnippets_of_validMatches_eq_nil options hnone,
      Snippet.buildSnippets_of_validMatches_eq_nil options hnone']
    exact .cons (.refl _) .nil
  · have hsome' : validMatches t found' ≠ [] := fun hnone' => hnone (hnone' ▸ hvalid).eq_nil
    rw [Snippet.buildSnippets_of_validMatches_ne_nil options hnone,
      Snippet.buildSnippets_of_validMatches_ne_nil options hsome']
    exact Snippet.forall₂_ofGroups t options hvalid hspans (forall₂_groupNearby _ _ hspans) _ _

/-- Two words and a phrase that start together, and a word that does not fit, not by their starts. -/
def tiedMatches : List Match :=
  [⟨17, 22, .primary, "delta".toList⟩, ⟨0, 5, .primary, "alpha".toList⟩,
    ⟨0, 10, .secondary, "alpha beta".toList⟩, ⟨0, 5, .field, "alpha".toList⟩,
    ⟨23, 31, .field, "epsilon".toList⟩]

/-- The same matches; the phrase still comes between the two words. -/
def retiedMatches : List Match :=
  [⟨0, 5, .field, "alpha".toList⟩, ⟨23, 31, .field, "epsilon".toList⟩,
    ⟨0, 10, .secondary, "alpha beta".toList⟩, ⟨17, 22, .primary, "delta".toList⟩,
    ⟨0, 5, .primary, "alpha".toList⟩]

theorem buildSnippets_alike_of_perm_tied :
    tiedMatches.Perm retiedMatches ∧
      (∀ start, stopsAt start (tiedMatches.filter (Match.fits · spacedText.length))
        = stopsAt start (retiedMatches.filter (Match.fits · spacedText.length))) ∧
      List.Forall₂ Snippet.Alike (buildSnippets spacedText tiedMatches {})
        (buildSnippets spacedText retiedMatches {}) := by
  have hperm : tiedMatches.Perm retiedMatches := by decide
  have hstops : ∀ start, stopsAt start (tiedMatches.filter (Match.fits · spacedText.length))
      = stopsAt start (retiedMatches.filter (Match.fits · spacedText.length)) := by
    intro start
    have hfits : tiedMatches.filter (Match.fits · spacedText.length)
        = [⟨17, 22, .primary, "delta".toList⟩, ⟨0, 5, .primary, "alpha".toList⟩,
          ⟨0, 10, .secondary, "alpha beta".toList⟩, ⟨0, 5, .field, "alpha".toList⟩] := by decide
    have hfits' : retiedMatches.filter (Match.fits · spacedText.length)
        = [⟨0, 5, .field, "alpha".toList⟩, ⟨0, 10, .secondary, "alpha beta".toList⟩,
          ⟨17, 22, .primary, "delta".toList⟩, ⟨0, 5, .primary, "alpha".toList⟩] := by decide
    rw [hfits, hfits']
    by_cases hword : 17 = start
    · subst hword
      decide
    · by_cases hphrase : 0 = start
      · subst hphrase
        decide
      · simp [stopsAt, hword, hphrase]
  exact ⟨hperm, hstops, buildSnippets_alike_of_perm spacedText {} hperm hstops⟩

/-- The first word of a text, and the whole text. -/
def nestedMatches : List Match :=
  [⟨0, 5, .primary, "alpha".toList⟩, ⟨0, 30, .secondary, spacedText⟩]

/-- A short and a long match with one start give two snippets, and one when the long one comes first. -/
theorem not_forall_buildSnippets_alike :
    ¬ ∀ (t : Text) (options : HighlightOptions) (found found' : List Match), found.Perm found' →
        List.Forall₂ Snippet.Alike (buildSnippets t found options) (buildSnippets t found' options) := by
  intro hall
  have hsame := (hall spacedText { snippetLength := 10 } nestedMatches nestedMatches.reverse
    nestedMatches.reverse_perm.symm).length_eq
  have hordered : Ordered spacedText nestedMatches := ⟨by decide, by decide⟩
  have hreversed : Ordered spacedText nestedMatches.reverse := ⟨by decide, by decide⟩
  rw [Snippet.buildSnippets_of_ordered _ hordered (by decide),
    Snippet.buildSnippets_of_ordered _ hreversed (by decide)] at hsame
  revert hsame
  decide

end NoteSearch
