import NoteSearch.Proofs.Snippet.Group
import NoteSearch.Proofs.Snippet.Window
import NoteSearch.Snippet.Build

/-!
# The sweep over the groups

Snippets are cut in one sweep over the groups. Its invariant is `Pending`: the groups to come hold
every match that reaches beyond the floor. So between the floor and the next group a start meets no match,
and its match moves do nothing. `Sweep` is the sweep as a relation, with the invariant at
every step, and everything else about snippets is proved by induction over it.
-/

namespace NoteSearch.Snippet

/-- What a sweep has before it at a floor. -/
structure Pending (found : List Match) (floor : Int) (groups : List Group) : Prop where
  spans : ∀ group ∈ groups, group.Spans
  members : ∀ group ∈ groups, ∀ m ∈ group.members, m ∈ found
  sorted : groups.Pairwise fun a b => a.start ≤ b.start
  /-- A match that is in none of the groups is over at the floor. -/
  reaches : ∀ m ∈ found, floor < m.stop → ∃ group ∈ groups, m ∈ group.members

theorem pending_groupNearby (contextWindow maxSpan floor : Int) {found : List Match}
    (hsorted : found.Pairwise fun a b => a.start ≤ b.start) :
    Pending found floor (groupNearby contextWindow maxSpan found) where
  spans _ hgroup := spans_of_mem_groupNearby hsorted hgroup
  members group hgroup m hm := by
    rw [← flatMap_members_groupNearby contextWindow maxSpan found]
    exact List.mem_flatMap.mpr ⟨group, hgroup, hm⟩
  sorted := pairwise_groupNearby contextWindow maxSpan hsorted
  reaches m hm _ := by
    rw [← flatMap_members_groupNearby contextWindow maxSpan found] at hm
    exact List.mem_flatMap.mp hm

namespace Pending

variable {t : Text} {found : List Match} {floor stop : Int} {group : Group} {rest : List Group}

theorem advance (h : Pending found floor (group :: rest)) (hfloor : floor ≤ stop)
    (hstop : group.stop ≤ stop) : Pending found stop rest where
  spans next hnext := h.spans next (List.mem_cons_of_mem _ hnext)
  members next hnext := h.members next (List.mem_cons_of_mem _ hnext)
  sorted := h.sorted.of_cons
  reaches m hm hreach := by
    obtain ⟨next, hnext, hmember⟩ := h.reaches m hm (by omega)
    rcases List.mem_cons.mp hnext with rfl | hnext
    · have := ((h.spans next List.mem_cons_self).within m hmember).2
      omega
    · exact ⟨next, hnext, hmember⟩

theorem fits (h : Pending found floor (group :: rest)) (hordered : Ordered t found) :
    0 ≤ group.start ∧ group.start < group.stop ∧ group.stop ≤ t.length := by
  have hspans := h.spans group List.mem_cons_self
  obtain ⟨first, hfirst, hstart⟩ := hspans.first
  obtain ⟨last, hlast, hstop⟩ := hspans.last
  have hfirstFits := hordered.fits first (h.members group List.mem_cons_self first hfirst)
  have hlastFits := hordered.fits last (h.members group List.mem_cons_self last hlast)
  have := hspans.within first hfirst
  omega

/-- What reaches beyond the floor does not start before the next group. -/
theorem start_le (h : Pending found floor (group :: rest)) {m : Match} (hm : m ∈ found)
    (hreach : floor < m.stop) : group.start ≤ m.start := by
  obtain ⟨next, hnext, hmember⟩ := h.reaches m hm hreach
  have hwithin := ((h.spans next hnext).within m hmember).1
  rcases List.mem_cons.mp hnext with rfl | hnext
  · exact hwithin
  · have := List.rel_of_pairwise_cons h.sorted hnext
    omega

/-- Up to where the next group is to be shown, only the floor may lie inside a match, and then the match
goes on beyond. -/
theorem eq_floor_of_cutAt (h : Pending found floor (group :: rest)) {m : Match} (hm : m ∈ found)
    {i : Int} (hfloor : floor ≤ i) (hi : i ≤ max group.start floor) (hcut : m.CutAt i) :
    i = floor ∧ m.start < floor ∧ max group.start floor < m.stop := by
  obtain ⟨hstart, hstop⟩ := hcut
  have := h.start_le hm (Int.lt_of_le_of_lt hfloor hstop)
  omega

end Pending

variable {t : Text} {found : List Match} {options : HighlightOptions} {room : Nat} {floor : Int}
  {group : Group} {groups : List Group} {snippets : List Snippet}

/-- The window of a group before its ends move. -/
def grownWindow (t : Text) (options : HighlightOptions) (floor : Int) (group : Group) : Int × Int :=
  Window.expand t.length (max group.start floor) group.stop options.snippetLength floor

/-- The window of a group that starts at the floor or later. -/
def groupWindow (t : Text) (found : List Match) (options : HighlightOptions) (floor : Int)
    (group : Group) : Int × Int :=
  window t found options floor (max group.start floor) group

theorem groupWindow_eq (t : Text) (found : List Match) (options : HighlightOptions) (floor : Int)
    (group : Group) :
    groupWindow t found options floor group
      = (Window.settleStart t found floor Window.boundaryTolerance (max group.start floor)
          (grownWindow t options floor group).1,
        Window.settleEnd t found Window.boundaryTolerance group.stop
          (grownWindow t options floor group).2) :=
  rfl

theorem ofGroups_cons (t : Text) (found : List Match) (options : HighlightOptions) (room : Nat)
    (floor : Int) (group : Group) (rest : List Group) :
    ofGroups t found options (room + 1) floor (group :: rest)
      = if group.stop ≤ max group.start floor then ofGroups t found options (room + 1) floor rest
        else ofWindow t found (groupWindow t found options floor group).1
            (groupWindow t found options floor group).2
          :: ofGroups t found options room (groupWindow t found options floor group).2 rest :=
  rfl

theorem grownWindow_bounds (options : HighlightOptions) {rest : List Group}
    (hordered : Ordered t found) (h : Pending found floor (group :: rest)) :
    (floor ≤ (grownWindow t options floor group).1 ∧
        (grownWindow t options floor group).1 ≤ max group.start floor) ∧
      group.stop ≤ (grownWindow t options floor group).2 ∧
        (grownWindow t options floor group).2 ≤ t.length :=
  Window.expand_bounds _ (Int.le_max_right _ _) (h.fits hordered).2.2

/-- The window of a group shows the group from the floor on. -/
theorem groupWindow_bounds (options : HighlightOptions) {rest : List Group}
    (hordered : Ordered t found) (h : Pending found floor (group :: rest)) :
    (floor ≤ (groupWindow t found options floor group).1 ∧
        (groupWindow t found options floor group).1 ≤ max group.start floor) ∧
      group.stop ≤ (groupWindow t found options floor group).2 ∧
        (groupWindow t found options floor group).2 ≤ t.length := by
  have hgrown := grownWindow_bounds options hordered h
  rw [groupWindow_eq]
  exact ⟨Window.settleStart_bounds t found _ hgrown.1.1 hgrown.1.2,
    Window.settleEnd_bounds _ hgrown.2.1 hgrown.2.2 fun m hm => (hordered.fits m hm).2.2⟩

/-- The start of a group's window after its word move. -/
def wordMovedStart (t : Text) (options : HighlightOptions) (floor : Int) (group : Group) : Int :=
  Window.startOffWord t floor Window.boundaryTolerance (max group.start floor)
    (grownWindow t options floor group).1

theorem wordMovedStart_bounds (options : HighlightOptions) {rest : List Group}
    (hordered : Ordered t found) (h : Pending found floor (group :: rest)) :
    floor ≤ wordMovedStart t options floor group ∧
      wordMovedStart t options floor group ≤ max group.start floor := by
  have hgrown := grownWindow_bounds options hordered h
  exact Window.startOffWord_bounds t _ hgrown.1.1 hgrown.1.2

theorem foldl_startOffMatch_wordMovedStart (options : HighlightOptions) {rest : List Group}
    (hordered : Ordered t found) (h : Pending found floor (group :: rest)) :
    found.foldl (Window.startOffMatch floor Window.boundaryTolerance (max group.start floor))
        (wordMovedStart t options floor group)
      = wordMovedStart t options floor group := by
  have hbounds := wordMovedStart_bounds options hordered h
  apply Window.foldl_startOffMatch_eq
  intro m hm hcut
  exact (h.eq_floor_of_cutAt hm hbounds.1 hbounds.2 hcut).2

/-- All that happens to a start after its word move is that blanks are trimmed. -/
theorem groupWindow_start (options : HighlightOptions) {rest : List Group}
    (hordered : Ordered t found) (h : Pending found floor (group :: rest)) :
    (groupWindow t found options floor group).1
      = max (wordMovedStart t options floor group) (min (max group.start floor)
          (wordMovedStart t options floor group
            + Window.runAfter isBlank t (wordMovedStart t options floor group))) := by
  have hstay := foldl_startOffMatch_wordMovedStart options hordered h
  rw [wordMovedStart] at hstay ⊢
  simp only [groupWindow_eq, Window.settleStart, hstay]

/-- The snippets that a sweep cuts from groups, from a floor on and with room for some. -/
inductive Sweep (t : Text) (found : List Match) (options : HighlightOptions) :
    Nat → Int → List Group → List Snippet → Prop
  | done {room : Nat} {floor : Int} (hstate : Pending found floor []) :
      Sweep t found options room floor [] []
  | full {floor : Int} {group : Group} {rest : List Group}
      (hstate : Pending found floor (group :: rest)) :
      Sweep t found options 0 floor (group :: rest) []
  | skip {room : Nat} {floor : Int} {group : Group} {rest : List Group} {snippets : List Snippet}
      (hstate : Pending found floor (group :: rest)) (hshown : group.stop ≤ floor)
      (hrest : Sweep t found options (room + 1) floor rest snippets) :
      Sweep t found options (room + 1) floor (group :: rest) snippets
  | cut {room : Nat} {floor : Int} {group : Group} {rest : List Group} {snippets : List Snippet}
      (hstate : Pending found floor (group :: rest)) (hopen : floor < group.stop)
      (hrest : Sweep t found options room (groupWindow t found options floor group).2 rest snippets) :
      Sweep t found options (room + 1) floor (group :: rest)
        (ofWindow t found (groupWindow t found options floor group).1
          (groupWindow t found options floor group).2 :: snippets)

theorem sweep_ofGroups (options : HighlightOptions) (room : Nat) (hordered : Ordered t found)
    (h : Pending found floor groups) :
    Sweep t found options room floor groups (ofGroups t found options room floor groups) := by
  induction groups generalizing room floor with
  | nil =>
      rw [ofGroups]
      exact .done h
  | cons group rest ih =>
      cases room with
      | zero =>
          rw [ofGroups]
          exact .full h
      | succ room =>
          have hfits := h.fits hordered
          rw [ofGroups_cons]
          by_cases hshown : group.stop ≤ floor
          · rw [if_pos (by omega)]
            exact .skip h hshown (ih _ (h.advance (Int.le_refl _) hshown))
          · have hopen : floor < group.stop := by omega
            have hbounds := groupWindow_bounds options hordered h
            rw [if_neg (by omega)]
            exact .cut h hopen (ih _ (h.advance (by omega) hbounds.2.1))

theorem buildSnippets_of_validMatches_eq_nil (options : HighlightOptions)
    (hnone : validMatches t found = []) : buildSnippets t found options = [leading t options] := by
  rw [buildSnippets, hnone]

theorem buildSnippets_of_validMatches_ne_nil (options : HighlightOptions)
    (hsome : validMatches t found ≠ []) :
    buildSnippets t found options
      = ofGroups t (validMatches t found) options options.maxSnippets 0
        (groupNearby options.contextWindow options.snippetLength (validMatches t found)) := by
  rw [buildSnippets]
  cases hvalid : validMatches t found with
  | nil => exact absurd hvalid hsome
  | cons m rest => rfl

theorem sweep_buildSnippets (options : HighlightOptions) (hsome : validMatches t found ≠ []) :
    Sweep t (validMatches t found) options options.maxSnippets 0
      (groupNearby options.contextWindow options.snippetLength (validMatches t found))
      (buildSnippets t found options) := by
  have hordered := validMatches_ordered t found
  rw [buildSnippets_of_validMatches_ne_nil options hsome]
  exact sweep_ofGroups options _ hordered (pending_groupNearby _ _ _ hordered.sorted)

theorem buildSnippets_of_ordered (options : HighlightOptions) (hordered : Ordered t found)
    (hsome : found ≠ []) :
    buildSnippets t found options
      = ofGroups t found options options.maxSnippets 0
        (groupNearby options.contextWindow options.snippetLength found) := by
  have hvalid := validMatches_of_ordered hordered
  rw [buildSnippets_of_validMatches_ne_nil options (by rwa [hvalid]), hvalid]

/-- Every snippet of a sweep is cut for one of the groups. -/
theorem Sweep.exists_group (h : Sweep t found options room floor groups snippets) {snippet : Snippet}
    (hsnippet : snippet ∈ snippets) :
    ∃ below, ∃ group ∈ groups, ∃ rest, Pending found below (group :: rest) ∧ below < group.stop ∧
      snippet = ofWindow t found (groupWindow t found options below group).1
        (groupWindow t found options below group).2 := by
  induction h with
  | done => exact absurd hsnippet List.not_mem_nil
  | full => exact absurd hsnippet List.not_mem_nil
  | skip _ _ _ ih =>
      obtain ⟨below, group, hgroup, hcut⟩ := ih hsnippet
      exact ⟨below, group, List.mem_cons_of_mem _ hgroup, hcut⟩
  | cut hstate hopen _ ih =>
      rcases List.mem_cons.mp hsnippet with rfl | hsnippet
      · exact ⟨_, _, List.mem_cons_self, _, hstate, hopen, rfl⟩
      · obtain ⟨below, group, hgroup, hcut⟩ := ih hsnippet
        exact ⟨below, group, List.mem_cons_of_mem _ hgroup, hcut⟩

end NoteSearch.Snippet
