import NoteSearch.Proofs.Snippet.Length
import NoteSearch.Proofs.Snippet.Ties

/-!
# Edges among matches

A snippet begins inside a match only where the one before it has cut the match, since every other match
that reaches beyond the floor starts no earlier than the group to show. An end meets matches of later
groups. It may take in such a match or leave it out, but it decides on each of them in turn, and coming
back to the start of one match it can cut another on which it has decided before.
-/

namespace NoteSearch

namespace Snippet

variable {t : Text} {found : List Match} {options : HighlightOptions} {floor : Int} {group : Group}
  {rest groups : List Group}

/-! ### Starts -/

/-- A group that gets a snippet, with the floor that the snippet keeps to. -/
structure Opening where
  floor : Int
  group : Group
  deriving DecidableEq

namespace Opening

/-- Where the part of the group that is to be shown begins. -/
def anchor (opening : Opening) : Int :=
  max opening.group.start opening.floor

/-- The start that the window grows to, before it moves. -/
def grownStart (t : Text) (options : HighlightOptions) (opening : Opening) : Int :=
  (Window.expand t.length opening.anchor opening.group.stop options.snippetLength opening.floor).1

def wordMovedStart (t : Text) (options : HighlightOptions) (opening : Opening) : Int :=
  Window.startOffWord t opening.floor Window.boundaryTolerance opening.anchor
    (opening.grownStart t options)

def snippet (t : Text) (found : List Match) (options : HighlightOptions) (opening : Opening) : Snippet :=
  let (start, stop) := window t found options opening.floor opening.anchor opening.group
  ofWindow t found start stop

end Opening

/-- The groups that get snippets when groups are taken from a floor on, with room for some. -/
def openings (t : Text) (found : List Match) (options : HighlightOptions) :
    (room : Nat) → (floor : Int) → List Group → List Opening
  | _, _, [] => []
  | 0, _, _ :: _ => []
  | room + 1, floor, group :: rest =>
      if group.stop ≤ max group.start floor then openings t found options (room + 1) floor rest
      else ⟨floor, group⟩
        :: openings t found options room (groupWindow t found options floor group).2 rest

theorem ofGroups_eq_map_openings (t : Text) (found : List Match) (options : HighlightOptions)
    (room : Nat) (floor : Int) (groups : List Group) :
    ofGroups t found options room floor groups
      = (openings t found options room floor groups).map (Opening.snippet t found options) := by
  induction groups generalizing room floor with
  | nil => rw [ofGroups, openings, List.map_nil]
  | cons group rest ih =>
      cases room with
      | zero => rw [ofGroups, openings, List.map_nil]
      | succ room =>
          rw [ofGroups_cons, openings]
          split
          · exact ih _ _
          · rw [List.map_cons, ih]
            rfl

/-- Where the last snippet of a list ends, or else the floor. -/
def lastEnd (t : Text) (found : List Match) (options : HighlightOptions) (floor : Int)
    (before : List Opening) : Int :=
  (before.getLast?.map fun previous => (previous.snippet t found options).contextEnd).getD floor

theorem lastEnd_cons (t : Text) (found : List Match) (options : HighlightOptions) (floor : Int)
    (first : Opening) (before : List Opening) :
    lastEnd t found options floor (first :: before)
      = lastEnd t found options (first.snippet t found options).contextEnd before := by
  rw [lastEnd, lastEnd, List.getLast?_cons]
  cases before.getLast? <;> rfl

/-- What is pending when a group is opened; the floor is the end of the snippet before it. -/
theorem pending_of_openings_eq (hordered : Ordered t found) {room : Nat}
    (hstate : Pending found floor groups) {before after : List Opening} {opening : Opening}
    (h : openings t found options room floor groups = before ++ opening :: after) :
    opening.floor = lastEnd t found options floor before ∧
      ∃ rest, Pending found opening.floor (opening.group :: rest) := by
  induction groups generalizing room floor before with
  | nil =>
      rw [openings] at h
      exact absurd h.symm (by simp)
  | cons group rest ih =>
      cases room with
      | zero =>
          rw [openings] at h
          exact absurd h.symm (by simp)
      | succ room =>
          have hfits := hstate.fits hordered
          have hbounds := groupWindow_bounds options hordered hstate
          rw [openings] at h
          split at h
          · exact ih (hstate.advance (Int.le_refl _) (by omega)) h
          · cases before with
            | nil =>
                obtain ⟨rfl, -⟩ := List.cons.inj h
                exact ⟨rfl, rest, hstate⟩
            | cons first before =>
                obtain ⟨rfl, hrest⟩ := List.cons.inj h
                rw [lastEnd_cons]
                exact ih (hstate.advance (by omega) hbounds.2.1) hrest

end Snippet

/-- Every snippet around matches is cut for a group. Its start stays where the word move puts it until
blanks are trimmed, lies no further before the grown start than the tolerance, and cuts a match only where
the snippet before it ends. -/
theorem buildSnippets_starts (t : Text) (found : List Match) (options : HighlightOptions)
    (hsome : ∃ m ∈ found, m.fits t.length) :
    let valid := validMatches t found
    let openings := Snippet.openings t valid options options.maxSnippets 0
      (groupNearby options.contextWindow options.snippetLength valid)
    buildSnippets t found options = openings.map (Snippet.Opening.snippet t valid options) ∧
      ∀ before opening after, openings = before ++ opening :: after →
        valid.foldl
            (Window.startOffMatch opening.floor Window.boundaryTolerance opening.anchor)
            (opening.wordMovedStart t options) = opening.wordMovedStart t options ∧
          opening.grownStart t options - Window.boundaryTolerance
            ≤ (opening.snippet t valid options).contextStart ∧
          ∀ m ∈ valid, m.CutAt (opening.snippet t valid options).contextStart →
            ∃ previous ∈ before.getLast?,
              (opening.snippet t valid options).contextStart
                = (previous.snippet t valid options).contextEnd := by
  intro valid openings
  have hordered := validMatches_ordered t found
  have hstate := Snippet.pending_groupNearby options.contextWindow options.snippetLength 0 hordered.sorted
  constructor
  · rw [Snippet.buildSnippets_of_validMatches_ne_nil options (validMatches_ne_nil_iff.mpr hsome)]
    exact Snippet.ofGroups_eq_map_openings t valid options _ _ _
  · intro before opening after hopen
    obtain ⟨hfloor, rest, hpending⟩ := Snippet.pending_of_openings_eq hordered hstate hopen
    have hbounds := Snippet.groupWindow_bounds options hordered hpending
    refine ⟨Snippet.foldl_startOffMatch_wordMovedStart options hordered hpending,
      Snippet.sub_tolerance_le_groupWindow options hordered hpending, ?_⟩
    intro m hm hcut
    have hstart := hpending.eq_floor_of_cutAt hm hbounds.1.1 hbounds.1.2 hcut
    have hfits := hordered.fits m hm
    cases hlast : before.getLast? with
    | none =>
        -- the first snippet may reach back to the beginning of the text, which is inside no match
        rw [Snippet.lastEnd, hlast] at hfloor
        have hzero : opening.floor = 0 := hfloor
        omega
    | some previous =>
        rw [Snippet.lastEnd, hlast] at hfloor
        exact ⟨previous, rfl, hstart.1.trans hfloor⟩

/-- The first word gets a snippet, and then what is left of the match that is the whole text. -/
def wordOpening : Snippet.Opening := ⟨0, .single ⟨0, 5, .primary, "alpha".toList⟩⟩

def textOpening : Snippet.Opening := ⟨10, .single ⟨0, 30, .secondary, spacedText⟩⟩

theorem buildSnippets_starts_nested :
    let options : HighlightOptions := { snippetLength := 10 }
    (∃ m ∈ nestedMatches, m.fits spacedText.length) ∧
      Snippet.openings spacedText nestedMatches options 3 0 (groupNearby 40 10 nestedMatches)
        = [wordOpening, textOpening] ∧
      Match.CutAt ⟨0, 30, .secondary, spacedText⟩
        (textOpening.snippet spacedText nestedMatches options).contextStart ∧
      ∃ previous ∈ [wordOpening].getLast?,
        (textOpening.snippet spacedText nestedMatches options).contextStart
          = (previous.snippet spacedText nestedMatches options).contextEnd := by
  intro options
  have hsome : ∃ m ∈ nestedMatches, m.fits spacedText.length := by decide
  have hvalid : validMatches spacedText nestedMatches = nestedMatches :=
    validMatches_of_ordered ⟨by decide, by decide⟩
  have hopenings : Snippet.openings spacedText nestedMatches options 3 0
      (groupNearby 40 10 nestedMatches) = [wordOpening] ++ textOpening :: [] := by decide
  have hcut : Match.CutAt ⟨0, 30, .secondary, spacedText⟩
      (textOpening.snippet spacedText nestedMatches options).contextStart := ⟨by decide, by decide⟩
  have hstarts := (buildSnippets_starts spacedText nestedMatches options hsome).2
  rw [hvalid] at hstarts
  exact ⟨hsome, hopenings, hcut, (hstarts _ _ _ hopenings).2.2 _ (by decide) hcut⟩

/-! ### Ends -/

/-- An end cuts a match that starts at the anchor or later only where it has come back, over blanks, to
the start of a match that begins inside this one and goes on beyond it by more than the tolerance. -/
theorem Window.exists_overlap_of_cutAt_settleEnd {t : Text} {found : List Match}
    {tolerance anchor stop : Int} (hordered : Ordered t found)
    (hink : ∀ m ∈ found, ¬ blankAt t (m.stop - 1)) (hanchor : anchor ≤ stop) (htext : stop ≤ t.length) :
    ∀ m ∈ found, anchor ≤ m.start → m.CutAt (settleEnd t found tolerance anchor stop) →
      ∃ c ∈ found, (m.CutAt c.start ∧ m.stop + tolerance < c.stop) ∧
        settleEnd t found tolerance anchor stop ≤ c.start ∧
        ∀ i, settleEnd t found tolerance anchor stop ≤ i → i < c.start → blankAt t i := by
  intro m hm hlater hcut
  have hbounds := movedEnd_bounds tolerance hanchor htext fun m hm => (hordered.fits m hm).2.2
  have hmoved := cutAt_movedEnd_of_cutAt_settleEnd hbounds.2 (hink m hm) hcut
  obtain ⟨c, hc, hstart, hreach⟩ :=
    exists_start_of_cutAt_foldl_endOffMatch hordered.sorted hm hlater hmoved
  have hback : movedEnd t found tolerance anchor stop = c.start := hstart
  refine ⟨c, hc, ⟨hback ▸ hmoved, hreach⟩, ?_, ?_⟩
  · rw [← hback]
    exact settleEnd_le_movedEnd t found tolerance anchor stop
  · intro i hi hbefore
    exact blankAt_of_settleEnd_le hbounds.2 hi (hback ▸ hbefore)

/-- A word, and two phrases after it that share a word. -/
def overlappingPhrases : List Match :=
  [⟨0, 5, .primary, "alpha".toList⟩, ⟨6, 16, .secondary, "beta gamma".toList⟩,
    ⟨11, 30, .secondary, "gamma delta epsilon".toList⟩]

theorem exists_overlap_of_cutAt_settleEnd_phrases :
    Ordered spacedText overlappingPhrases ∧
      (∀ m ∈ overlappingPhrases, ¬ Window.blankAt spacedText (m.stop - 1)) ∧
      ∃ m ∈ overlappingPhrases, 5 ≤ m.start ∧
        m.CutAt (Window.settleEnd spacedText overlappingPhrases 12 5 17) ∧
        ∃ c ∈ overlappingPhrases, m.CutAt c.start ∧ m.stop + 12 < c.stop := by
  have hordered : Ordered spacedText overlappingPhrases := ⟨by decide, by decide⟩
  have hink : ∀ m ∈ overlappingPhrases, ¬ Window.blankAt spacedText (m.stop - 1) := by decide
  have hphrase : ⟨6, 16, .secondary, "beta gamma".toList⟩ ∈ overlappingPhrases := by decide
  have hcut : Match.CutAt ⟨6, 16, .secondary, "beta gamma".toList⟩
      (Window.settleEnd spacedText overlappingPhrases 12 5 17) := ⟨by decide, by decide⟩
  obtain ⟨c, hc, hover, -⟩ := Window.exists_overlap_of_cutAt_settleEnd hordered hink (by decide)
    (by decide) _ hphrase (by decide) hcut
  exact ⟨hordered, hink, _, hphrase, by decide, hcut, c, hc, hover⟩

/-- An end that comes back to the start of one phrase can cut the other, which begins before that. -/
theorem not_forall_not_cutAt_settleEnd :
    ¬ ∀ (t : Text) (found : List Match) (tolerance anchor stop : Int), Ordered t found →
      (∀ m ∈ found, ¬ Window.blankAt t (m.stop - 1)) → 0 ≤ tolerance → 0 ≤ anchor → anchor ≤ stop →
      stop ≤ t.length →
        ∀ m ∈ found, anchor ≤ m.start → ¬ m.CutAt (Window.settleEnd t found tolerance anchor stop) := by
  intro hall
  have hwhole := hall spacedText overlappingPhrases 12 5 17 ⟨by decide, by decide⟩ (by decide)
    (by decide) (by decide) (by decide) (by decide) ⟨6, 16, .secondary, "beta gamma".toList⟩
    (by decide) (by decide)
  exact hwhole ⟨by decide, by decide⟩

end NoteSearch
