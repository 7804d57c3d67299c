import NoteSearch.Proofs.Snippet.Sweep

/-!
# Where the snippets of a text lie

The windows of the snippets are stretches of the text that follow one another without overlap. They
show every matched character that lies before the end of the last of them; when there is room for
more snippets they show every matched character.
-/

namespace NoteSearch

namespace Snippet

/-- The snippet shows the character of the text at a position. -/
def Shows (snippet : Snippet) (p : Int) : Prop :=
  snippet.contextStart ≤ p ∧ p < snippet.contextEnd

namespace Sweep

variable {t : Text} {found : List Match} {options : HighlightOptions} {room : Nat} {floor : Int}
  {groups : List Group} {snippets : List Snippet}

theorem length_le (h : Sweep t found options room floor groups snippets) :
    snippets.length ≤ room := by
  induction h with
  | done => exact Nat.zero_le _
  | full => exact Nat.zero_le _
  | skip _ _ _ ih => exact ih
  | cut _ _ _ ih => exact Nat.succ_le_succ ih

theorem window_of_mem (hordered : Ordered t found)
    (h : Sweep t found options room floor groups snippets) {snippet : Snippet}
    (hsnippet : snippet ∈ snippets) :
    floor ≤ snippet.contextStart ∧ snippet.contextStart < snippet.contextEnd ∧
      snippet.contextEnd ≤ t.length ∧
      snippet.text = t.slice snippet.contextStart snippet.contextEnd := by
  induction h with
  | done => exact absurd hsnippet List.not_mem_nil
  | full => exact absurd hsnippet List.not_mem_nil
  | skip _ _ _ ih => exact ih hsnippet
  | cut hstate hopen _ ih =>
      have hfits := hstate.fits hordered
      have hbounds := groupWindow_bounds options hordered hstate
      rcases List.mem_cons.mp hsnippet with rfl | hsnippet
      · exact ⟨hbounds.1.1, by simp only [ofWindow]; omega, hbounds.2.2, rfl⟩
      · have hlater := ih hsnippet
        exact ⟨by omega, hlater.2⟩

theorem pairwise (hordered : Ordered t found)
    (h : Sweep t found options room floor groups snippets) :
    snippets.Pairwise fun a b => a.contextEnd ≤ b.contextStart := by
  induction h with
  | done => exact .nil
  | full => exact .nil
  | skip _ _ _ ih => exact ih
  | cut _ _ hrest ih =>
      exact List.pairwise_cons.mpr ⟨fun later hlater => (hrest.window_of_mem hordered hlater).1, ih⟩

/-- What a match holds at the floor or later is shown, unless there is no room left and it lies after
the last snippet. -/
theorem exists_shows (hordered : Ordered t found)
    (h : Sweep t found options room floor groups snippets) {m : Match} (hm : m ∈ found) {p : Int}
    (hholds : m.Holds p) (hfloor : floor ≤ p)
    (hroom : snippets.length < room ∨ ∃ last ∈ snippets.getLast?, p < last.contextEnd) :
    ∃ snippet ∈ snippets, snippet.Shows p := by
  simp only [Match.Holds] at hholds
  induction h with
  | done hstate =>
      obtain ⟨group, hgroup, _⟩ := hstate.reaches m hm (by omega)
      exact absurd hgroup List.not_mem_nil
  | full =>
      rcases hroom with hroom | ⟨last, hlast, _⟩
      · exact absurd hroom (Nat.not_lt_zero _)
      · exact absurd hlast (by simp)
  | skip _ _ _ ih => exact ih hfloor hroom
  | @cut room floor group rest snippets hstate hopen hrest ih =>
      have hbounds := groupWindow_bounds options hordered hstate
      have hstart := hstate.start_le hm (by omega)
      by_cases hp : p < (groupWindow t found options floor group).2
      · exact ⟨_, List.mem_cons_self, by simp only [ofWindow]; omega, hp⟩
      · -- the rest of the sweep shows the position, and its last snippet is the last of all
        have hroom' : snippets.length < room ∨ ∃ last ∈ snippets.getLast?, p < last.contextEnd := by
          rcases hroom with hroom | ⟨last, hlast, hend⟩
          · exact .inl (Nat.lt_of_succ_lt_succ hroom)
          · cases snippets with
            | nil =>
                obtain rfl := Option.some.inj hlast
                exact absurd hend hp
            | cons next later => exact .inr ⟨last, hlast, hend⟩
        obtain ⟨snippet, hsnippet, hshows⟩ := ih (by omega) hroom'
        exact ⟨snippet, List.mem_cons_of_mem _ hsnippet, hshows⟩

theorem ne_nil (hordered : Ordered t found) (h : Sweep t found options room floor groups snippets)
    (hroom : 0 < room) {m : Match} (hm : m ∈ found) (hreach : floor < m.stop) : snippets ≠ [] := by
  rintro rfl
  have hfits := hordered.fits m hm
  have hholds : m.Holds (max m.start floor) := ⟨Int.le_max_left _ _, by omega⟩
  obtain ⟨snippet, hsnippet, _⟩ :=
    h.exists_shows hordered hm hholds (Int.le_max_right _ _) (.inl hroom)
  exact absurd hsnippet List.not_mem_nil

end Sweep

/-- The beginning of a text is the window from its first character on. -/
theorem leading_window (t : Text) (options : HighlightOptions) :
    (leading t options).contextStart = 0 ∧ 0 ≤ (leading t options).contextEnd ∧
      (leading t options).contextEnd ≤ t.length ∧
      (leading t options).text
        = t.slice (leading t options).contextStart (leading t options).contextEnd := by
  simp only [leading, Text.slice]
  refine ⟨trivial, by omega, by omega, ?_⟩
  rw [Int.toNat_zero, List.drop_zero, List.take_eq_take_iff]
  omega

end Snippet

/-- There are snippets, as many as asked for at most. Each is the stretch of the text that it says,
none is empty when there is a match to show, and each ends before the next one starts. -/
theorem buildSnippets_layout (t : Text) (found : List Match) (options : HighlightOptions) :
    (1 ≤ (buildSnippets t found options).length ∧
        (buildSnippets t found options).length ≤ options.maxSnippets) ∧
      (∀ s ∈ buildSnippets t found options,
        0 ≤ s.contextStart ∧ s.contextStart ≤ s.contextEnd ∧ s.contextEnd ≤ t.length ∧
          s.text = t.slice s.contextStart s.contextEnd) ∧
      ((∃ m ∈ found, m.fits t.length) →
        ∀ s ∈ buildSnippets t found options, s.contextStart < s.contextEnd) ∧
      (buildSnippets t found options).Pairwise fun a b => a.contextEnd ≤ b.contextStart := by
  rw [← validMatches_ne_nil_iff]
  by_cases hnone : validMatches t found = []
  · have hwindow := Snippet.leading_window t options
    rw [Snippet.buildSnippets_of_validMatches_eq_nil options hnone]
    refine ⟨⟨Nat.le_refl _, options.maxSnippets_range.1⟩, ?_, fun hsome => absurd hnone hsome,
      List.pairwise_singleton _ _⟩
    intro s hs
    obtain rfl := List.mem_singleton.mp hs
    exact ⟨by omega, by omega, hwindow.2.2⟩
  · have hordered := validMatches_ordered t found
    have hsweep := Snippet.sweep_buildSnippets options hnone
    obtain ⟨m, hm⟩ := List.exists_mem_of_ne_nil _ hnone
    have hfits := hordered.fits m hm
    have hsome := hsweep.ne_nil hordered options.maxSnippets_range.1 hm (by omega)
    refine ⟨⟨List.length_pos_iff.mpr hsome, hsweep.length_le⟩, ?_, ?_, hsweep.pairwise hordered⟩
    · intro s hs
      have hwindow := hsweep.window_of_mem hordered hs
      exact ⟨hwindow.1, by omega, hwindow.2.2⟩
    · intro _ s hs
      exact (hsweep.window_of_mem hordered hs).2.1

/-- A word that is longer than the snippets asked for. -/
def longWord : Text := "abcdefghijklmnopqrstuvwxyz0123456789".toList

/-- Parts of the word, three of which share a character with the one before. -/
def chainedMatches : List Match :=
  [⟨0, 5, .primary, "abcde".toList⟩, ⟨8, 18, .secondary, "ijklmnopqr".toList⟩,
    ⟨17, 27, .secondary, "rstuvwxyz0".toList⟩, ⟨26, 36, .secondary, "0123456789".toList⟩]

theorem chainedMatches_ordered : Ordered longWord chainedMatches :=
  ⟨by decide, by decide⟩

theorem buildSnippets_layout_chained :
    (∃ m ∈ chainedMatches, m.fits longWord.length) ∧
      ∀ s ∈ buildSnippets longWord chainedMatches { snippetLength := 10 },
        s.contextStart < s.contextEnd := by
  have hfits : ∃ m ∈ chainedMatches, m.fits longWord.length := by decide
  exact ⟨hfits, (buildSnippets_layout longWord chainedMatches { snippetLength := 10 }).2.2.1 hfits⟩

/-- Every matched character is shown when there is room for more snippets, and otherwise every one
before the end of the last snippet. -/
theorem exists_shows_of_holds (t : Text) (found : List Match) (options : HighlightOptions) {m : Match}
    (hm : m ∈ found) (hfits : m.fits t.length) {p : Int} (hholds : m.Holds p)
    (hroom : (buildSnippets t found options).length < options.maxSnippets ∨
      ∃ last ∈ (buildSnippets t found options).getLast?, p < last.contextEnd) :
    ∃ s ∈ buildSnippets t found options, s.Shows p := by
  have hvalid := mem_validMatches.mpr ⟨hm, hfits⟩
  have hordered := validMatches_ordered t found
  have hstart := (hordered.fits m hvalid).1
  have hsweep := Snippet.sweep_buildSnippets options (List.ne_nil_of_mem hvalid)
  exact hsweep.exists_shows hordered hvalid hholds (Int.le_trans hstart hholds.1) hroom

theorem exists_shows_of_holds_chained :
    (buildSnippets longWord chainedMatches { snippetLength := 10 }).length < 3 ∧
      ∃ s ∈ buildSnippets longWord chainedMatches { snippetLength := 10 }, s.Shows 30 := by
  have hroom : (buildSnippets longWord chainedMatches { snippetLength := 10 }).length < 3 := by
    rw [Snippet.buildSnippets_of_ordered _ chainedMatches_ordered (by decide)]
    decide
  have hm : ⟨26, 36, .secondary, "0123456789".toList⟩ ∈ chainedMatches := by decide
  exact ⟨hroom, exists_shows_of_holds longWord chainedMatches { snippetLength := 10 } hm (by decide)
    ⟨by decide, by decide⟩ (.inl hroom)⟩

end NoteSearch
