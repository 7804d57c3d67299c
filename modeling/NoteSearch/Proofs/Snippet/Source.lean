import NoteSearch.Match.Finder
import NoteSearch.Proofs.Match.Scan
import NoteSearch.Proofs.Result
import NoteSearch.Proofs.Segment.Layout
import NoteSearch.Proofs.Snippet.Highlights
import NoteSearch.Proofs.Snippet.Layout
import NoteSearch.Proofs.Text.Slice

/-!
# What highlights read

A match that a scan finds, whatever the scan looks for, has the text of the stretch where it lies. A
window that holds the stretch holds the same text at the offsets that the match gets there. So a
highlight reads the same in its snippet and in the note, and the segments of the snippet light up just
these characters.
-/

namespace NoteSearch

/-- The match is a stretch of the text that is not empty, and has the text of that stretch. -/
structure Match.Reads (t : Text) (m : Match) : Prop where
  fits : 0 ≤ m.start ∧ m.start < m.stop ∧ m.stop ≤ t.length
  slice_eq : t.slice m.start m.stop = m.term

/-- In a window that holds it a match reads the same. -/
theorem Match.Reads.shift {t : Text} {m : Match} (h : m.Reads t) {start stop : Int} (hstart : 0 ≤ start)
    (hwithin : start ≤ m.start ∧ m.stop ≤ stop) (hstop : stop ≤ t.length) :
    (m.shift start).Reads (t.slice start stop) where
  fits := by
    have := h.fits
    rw [Text.length_slice hstart (by omega) hstop]
    simp only [Match.shift]
    omega
  slice_eq := by
    have hfits := h.fits
    have hfirst : start + (m.start - start) = m.start := by omega
    have hlast : start + (m.stop - start) = m.stop := by omega
    show (t.slice start stop).slice (m.start - start) (m.stop - start) = m.term
    rw [Text.slice_slice t hstart (by omega) (by omega) (by omega), hfirst, hlast, h.slice_eq]

/-! ### Matches of a scan -/

/-- The matches of a scan, with the part that they play. -/
def scanMatches (t : Text) (kind : MatchKind) (lengthAt? : Place → Option Nat) : List Match :=
  (scan lengthAt? t).map fun found =>
    ⟨found.start, found.start + found.text.length, kind, found.text⟩

theorem reads_of_mem_scanMatches {t : Text} {kind : MatchKind} {lengthAt? : Place → Option Nat}
    {m : Match} (hm : m ∈ scanMatches t kind lengthAt?) : m.Reads t := by
  obtain ⟨f, hf, rfl⟩ := List.mem_map.mp hm
  have hsome := List.length_pos_iff.mpr ((scanned_scan lengthAt? t).text_ne_nil hf)
  obtain ⟨before, after, more, rfl, -, rfl⟩ := (scanned_scan lengthAt? t).stands hf
  have hlength := List.length_take_le' (more + 1) after
  have htake : after.take (after.take (more + 1)).length = after.take (more + 1) := by
    rw [List.length_take, List.take_eq_take_iff]
    omega
  constructor
  · simp only [Found.between, List.length_append] at hsome ⊢
    omega
  · exact (Text.slice_append_right before after _).trans htake

theorem reads_of_mem_find (set : TermSet) {t : Text} {m : Match} (hm : m ∈ set.find t) :
    m.Reads t := by
  rw [TermSet.find, (Match.sortByStart_perm _).mem_iff] at hm
  obtain ⟨slot, -, hm⟩ := List.mem_flatMap.mp hm
  exact reads_of_mem_scanMatches hm

theorem reads_of_found_eq_ok [Pattern.Dialect] {cache : Cache} {t : Text} {terms fieldTerms : List Text}
    {options : HighlightOptions} {found : List Match}
    (hfound : (cache.find t terms fieldTerms options).found = .ok found) : ∀ m ∈ found, m.Reads t := by
  rw [Cache.find] at hfound
  split at hfound
  · obtain rfl := Except.ok.inj hfound
    exact fun m hm => absurd hm List.not_mem_nil
  · obtain ⟨set, -, rfl⟩ := map_eq_ok_iff.mp hfound
    exact fun m hm => reads_of_mem_find set hm

namespace Snippet

/-! ### Highlights of a snippet -/

/-- A highlight is a match that fits the text and lies in the window, moved to its start. -/
theorem exists_match_of_mem_highlights {t : Text} {found : List Match} {options : HighlightOptions}
    {snippet : Snippet} (hsnippet : snippet ∈ buildSnippets t found options) {h : Match}
    (hh : h ∈ snippet.highlights) :
    (0 ≤ snippet.contextStart ∧ snippet.contextEnd ≤ t.length ∧
        snippet.text = t.slice snippet.contextStart snippet.contextEnd) ∧
      ∃ m ∈ found, (snippet.contextStart ≤ m.start ∧ m.stop ≤ snippet.contextEnd) ∧
        h = m.shift snippet.contextStart := by
  by_cases hnone : validMatches t found = []
  · rw [buildSnippets_of_validMatches_eq_nil options hnone] at hsnippet
    obtain rfl := List.mem_singleton.mp hsnippet
    exact absurd hh List.not_mem_nil
  · have hsweep := sweep_buildSnippets options hnone
    have hwindow := hsweep.window_of_mem (validMatches_ordered t found) hsnippet
    obtain ⟨below, group, -, rest, -, -, rfl⟩ := hsweep.exists_group hsnippet
    obtain ⟨m, hm, rfl⟩ := List.mem_map.mp hh
    obtain ⟨hvalid, hinside⟩ := List.mem_filter.mp hm
    exact ⟨⟨hwindow.1, hwindow.2.2⟩, m, (mem_validMatches.mp hvalid).1, of_decide_eq_true hinside, rfl⟩

/-- The snippet shows matches of the text, in its own offsets and in those of the text, and its
segments show them. -/
structure TrueTo (t : Text) (found : List Match) (snippet : Snippet) : Prop where
  reads : ∀ h ∈ snippet.highlights, h.Reads snippet.text
  source : ∀ h ∈ snippet.highlights,
    t.slice (snippet.contextStart + h.start) (snippet.contextStart + h.stop) = h.term
  mem : ∀ h ∈ snippet.highlights, h.shift (-snippet.contextStart) ∈ found
  segments : (renderSnippet snippet).flatMap Segment.text = snippet.text
  lit : ∀ p : Nat, p < snippet.text.length →
    (Segment.HighlightsAt (renderSnippet snippet) p ↔ ∃ h ∈ snippet.highlights, h.Holds p)

theorem trueTo_of_mem_buildSnippets {t : Text} {found : List Match} (hreads : ∀ m ∈ found, m.Reads t)
    {options : HighlightOptions} {snippet : Snippet}
    (hsnippet : snippet ∈ buildSnippets t found options) : snippet.TrueTo t found where
  reads h hh := by
    obtain ⟨⟨hstart, hstop, htext⟩, m, hm, hwithin, rfl⟩ := exists_match_of_mem_highlights hsnippet hh
    rw [htext]
    exact (hreads m hm).shift hstart hwithin hstop
  source h hh := by
    obtain ⟨-, m, hm, -, rfl⟩ := exists_match_of_mem_highlights hsnippet hh
    have hfirst : snippet.contextStart + (m.start - snippet.contextStart) = m.start := by omega
    have hlast : snippet.contextStart + (m.stop - snippet.contextStart) = m.stop := by omega
    show t.slice (snippet.contextStart + (m.start - snippet.contextStart))
      (snippet.contextStart + (m.stop - snippet.contextStart)) = m.term
    rw [hfirst, hlast, (hreads m hm).slice_eq]
  mem h hh := by
    obtain ⟨-, m, hm, -, rfl⟩ := exists_match_of_mem_highlights hsnippet hh
    rwa [Match.shift_shift_neg]
  segments := flatMap_text_renderText snippet.text snippet.highlights
  lit _ hp := highlightsAt_renderText_iff snippet.highlights hp

end Snippet

/-- Whatever a finder was used for, the snippets of a text around the matches that it finds are true to
the text and the matches; and so they are around the matches of any scans, whatever these look for. -/
theorem trueTo_of_find [Pattern.Dialect] (t : Text) (options : HighlightOptions) :
    (∀ (cache : Cache) (terms fieldTerms : List Text) (found : List Match),
      (cache.find t terms fieldTerms options).found = .ok found →
        ∀ snippet ∈ buildSnippets t found options, snippet.TrueTo t found) ∧
      ∀ scans : List (MatchKind × (Place → Option Nat)),
        let found := Match.sortByStart (scans.flatMap fun (kind, lengthAt?) =>
          scanMatches t kind lengthAt?)
        ∀ snippet ∈ buildSnippets t found options, snippet.TrueTo t found := by
  constructor
  · intro cache terms fieldTerms found hfound snippet hsnippet
    exact Snippet.trueTo_of_mem_buildSnippets (reads_of_found_eq_ok hfound) hsnippet
  · intro scans found snippet hsnippet
    refine Snippet.trueTo_of_mem_buildSnippets ?_ hsnippet
    intro m hm
    rw [(Match.sortByStart_perm _).mem_iff] at hm
    obtain ⟨scan, -, hm⟩ := List.mem_flatMap.mp hm
    exact reads_of_mem_scanMatches hm

section

attribute [local instance] Pattern.Dialect.nameless

/-- A text in which a pattern reads two words of different length. -/
def stretchedText : Text := "to be, or not to bee".toList

/-- What a pattern, a text that is no pattern and the value of a field find there. -/
def stretchedMatches : List Match :=
  [⟨3, 5, .primary, "be".toList⟩, ⟨7, 9, .field, "or".toList⟩, ⟨17, 20, .primary, "bee".toList⟩]

def lastSnippet : Snippet where
  text := "to bee".toList
  highlights := [⟨3, 6, .primary, "bee".toList⟩]
  moreBefore := true
  contextStart := 14
  contextEnd := 20

theorem trueTo_of_find_stretched :
    let options : HighlightOptions :=
      { literalTerms := false, snippetLength := 10, contextWindow := 2 }
    (Cache.default.find stretchedText ["be+".toList, "(".toList] ["or".toList] options).found
        = .ok stretchedMatches ∧
      lastSnippet ∈ buildSnippets stretchedText stretchedMatches options ∧
      lastSnippet.TrueTo stretchedText stretchedMatches := by
  intro options
  let set : TermSet :=
    { slots := [⟨"be+".toList, .primary,
          .pattern (.ofList [.char (.literal 'b'), .many 1 none .greedy (.char (.literal 'e'))])⟩,
        ⟨"or".toList, .field, .pattern (.ofList [.char (.literal 'o'), .char (.literal 'r')])⟩] }
  have hset : (Cache.default.compile ["be+".toList, "(".toList] ["or".toList] options).set = .ok set := by
    decide
  have hslots : set.slots.flatMap (TermSet.slotMatches set.caseSensitive stretchedText)
      = [⟨3, 5, .primary, "be".toList⟩, ⟨17, 20, .primary, "bee".toList⟩,
        ⟨7, 9, .field, "or".toList⟩] := by decide
  have hfind : set.find stretchedText = stretchedMatches := by
    rw [TermSet.find, hslots]
    simp [Match.sortByStart, stretchedMatches, List.mergeSort, List.MergeSort.Internal.splitInTwo]
  have hfound : (Cache.default.find stretchedText ["be+".toList, "(".toList] ["or".toList] options).found
      = .ok stretchedMatches := by
    rw [← hfind]
    exact congrArg (Except.map fun set => set.find stretchedText) hset
  have hlast : lastSnippet ∈ buildSnippets stretchedText stretchedMatches options := by
    rw [Snippet.buildSnippets_of_ordered options ⟨by decide, by decide⟩ (by decide)]
    decide
  exact ⟨hfound, hlast,
    (trueTo_of_find stretchedText options).1 _ _ _ stretchedMatches hfound lastSnippet hlast⟩

end

end NoteSearch
