import NoteSearch.Snippet.Group

/-!
# Matches in the order of their starts

What sorting by start leaves of a list of matches, and what the rest of the theory knows about the
matches that fit a text: they are stretches of the text that are not empty, and their starts do not
fall. A list in that order falls apart at every offset into the matches that start before it and
those that start at it or later.
-/

namespace NoteSearch

namespace Match

theorem sortByStart_perm (found : List Match) : (sortByStart found).Perm found :=
  List.mergeSort_perm found _

theorem start_le_trans (a b c : Match) (hab : decide (a.start ≤ b.start) = true)
    (hbc : decide (b.start ≤ c.start) = true) : decide (a.start ≤ c.start) = true := by
  simp only [decide_eq_true_eq] at hab hbc ⊢
  omega

theorem start_le_total (a b : Match) :
    (decide (a.start ≤ b.start) || decide (b.start ≤ a.start)) = true := by
  simp only [Bool.or_eq_true, decide_eq_true_eq]
  omega

theorem pairwise_sortByStart (found : List Match) :
    (sortByStart found).Pairwise fun a b => a.start ≤ b.start := by
  have hsorted : (sortByStart found).Pairwise fun a b => decide (a.start ≤ b.start) = true :=
    List.pairwise_mergeSort start_le_trans start_le_total found
  simpa only [decide_eq_true_eq] using hsorted

/-- Matches with one start keep their order. -/
theorem filter_start_sortByStart (found : List Match) (start : Int) :
    ((sortByStart found).filter fun m => m.start == start)
      = found.filter fun m => m.start == start := by
  have hsame : (found.filter fun m => m.start == start).Pairwise
      fun a b => decide (a.start ≤ b.start) = true := by
    apply List.pairwise_filter.mpr
    apply List.pairwise_of_forall
    intro a b ha hb
    rw [beq_iff_eq] at ha hb
    exact decide_eq_true (Int.le_of_eq (ha.trans hb.symm))
  have hsublist := (List.sublist_mergeSort start_le_trans start_le_total hsame
    List.filter_sublist).filter fun m => m.start == start
  rw [List.filter_filter] at hsublist
  simp only [Bool.and_self] at hsublist
  exact (hsublist.eq_of_length ((sortByStart_perm found).filter _).length_eq.symm).symm

theorem fits_iff {m : Match} {length : Nat} :
    m.fits length ↔ 0 ≤ m.start ∧ m.start < m.stop ∧ m.stop ≤ length := by
  simp only [fits, decide_eq_true_eq]

/-- The character at a position belongs to the match. -/
def Holds (m : Match) (p : Int) : Prop :=
  m.start ≤ p ∧ p < m.stop

/-- A boundary at an offset would cut the match in two. -/
def CutAt (m : Match) (i : Int) : Prop :=
  m.start < i ∧ i < m.stop

/-- The matches share no character. -/
def Apart (a b : Match) : Prop :=
  a.stop ≤ b.start ∨ b.stop ≤ a.start

instance (a b : Match) : Decidable (a.Apart b) :=
  inferInstanceAs (Decidable (_ ∨ _))

end Match

/-- Matches that fit a text, by their starts. -/
structure Ordered (t : Text) (found : List Match) : Prop where
  fits : ∀ m ∈ found, 0 ≤ m.start ∧ m.start < m.stop ∧ m.stop ≤ t.length
  sorted : found.Pairwise fun a b => a.start ≤ b.start

theorem mem_validMatches {t : Text} {found : List Match} {m : Match} :
    m ∈ validMatches t found ↔ m ∈ found ∧ m.fits t.length := by
  rw [validMatches, (Match.sortByStart_perm _).mem_iff, List.mem_filter]

theorem validMatches_ne_nil_iff {t : Text} {found : List Match} :
    validMatches t found ≠ [] ↔ ∃ m ∈ found, m.fits t.length := by
  constructor
  · intro hsome
    obtain ⟨m, hm⟩ := List.exists_mem_of_ne_nil _ hsome
    exact ⟨m, mem_validMatches.mp hm⟩
  · rintro ⟨m, hm, hfits⟩
    exact List.ne_nil_of_mem (mem_validMatches.mpr ⟨hm, hfits⟩)

theorem validMatches_ordered (t : Text) (found : List Match) : Ordered t (validMatches t found) where
  fits _ hm := Match.fits_iff.mp (mem_validMatches.mp hm).2
  sorted := Match.pairwise_sortByStart _

/-- Matches that fit and are in order are left as they are. -/
theorem validMatches_of_ordered {t : Text} {found : List Match} (h : Ordered t found) :
    validMatches t found = found := by
  have hall : found.filter (Match.fits · t.length) = found :=
    List.filter_eq_self.mpr fun m hm => Match.fits_iff.mpr (h.fits m hm)
  rw [validMatches, hall, Match.sortByStart]
  exact List.mergeSort_of_pairwise (h.sorted.imp fun hle => decide_eq_true hle)

/-- Among ordered matches that share no character each is over when the next one starts. -/
theorem Ordered.pairwise_stop_le_start {t : Text} {found : List Match} (h : Ordered t found)
    (hapart : found.Pairwise Match.Apart) : found.Pairwise fun a b => a.stop ≤ b.start := by
  apply (h.sorted.and hapart).imp_of_mem
  rintro a b - hb ⟨hsorted, hapart⟩
  have := h.fits b hb
  rcases hapart with hbefore | hafter
  · exact hbefore
  · omega

theorem Ordered.stop_le_start {t : Text} {found : List Match} (h : Ordered t found)
    (hapart : found.Pairwise Match.Apart) {a b : Match} (ha : a ∈ found) (hb : b ∈ found)
    (hstop : a.stop < b.stop) : a.stop ≤ b.start := by
  have hdisjoint := h.pairwise_stop_le_start hapart
  have hall : ∀ x ∈ found, ∀ y ∈ found, x.stop < y.stop → x.stop ≤ y.start := by
    apply List.Pairwise.forall_of_forall_of_flip
    · exact fun m _ hlt => absurd hlt (Int.lt_irrefl _)
    · apply hdisjoint.imp
      intro x y hle _
      exact hle
    · apply hdisjoint.imp_of_mem
      intro x y _ hy hle hlt
      have := h.fits y hy
      omega
  exact hall a ha b hb hstop

section Split

variable {found : List Match} {cut : Int}

theorem filter_before_append_filter_from (hsorted : found.Pairwise fun a b => a.start ≤ b.start)
    (cut : Int) :
    (found.filter fun m => decide (m.start < cut)) ++ (found.filter fun m => decide (cut ≤ m.start))
      = found := by
  induction found with
  | nil => rfl
  | cons m rest ih =>
      obtain ⟨hfirst, hrest⟩ := List.pairwise_cons.mp hsorted
      by_cases hm : m.start < cut
      · rw [List.filter_cons_of_pos (by simpa using hm),
          List.filter_cons_of_neg (by simpa using hm), List.cons_append, ih hrest]
      · have hfrom : ∀ later ∈ m :: rest, cut ≤ later.start := by
          intro later hlater
          rcases List.mem_cons.mp hlater with rfl | hlater
          · omega
          · have := hfirst later hlater
            omega
        rw [List.filter_eq_nil_iff.mpr fun later hlater => by simpa using hfrom later hlater,
          List.filter_eq_self.mpr fun later hlater => by simpa using hfrom later hlater,
          List.nil_append]

/-- The matches from a floor on, split at an offset beyond it. -/
theorem filter_from_eq_append (hsorted : found.Pairwise fun a b => a.start ≤ b.start) {floor : Int}
    (hfloor : floor ≤ cut) :
    (found.filter fun m => decide (floor ≤ m.start))
      = (found.filter fun m => decide (floor ≤ m.start ∧ m.start < cut))
        ++ found.filter fun m => decide (cut ≤ m.start) := by
  rw [← filter_before_append_filter_from (hsorted.filter _) cut, List.filter_filter,
    List.filter_filter]
  congr 1
  · apply List.filter_congr
    intro m _
    rw [← Bool.decide_and, decide_eq_decide]
    exact and_comm
  · apply List.filter_congr
    intro m _
    rw [← Bool.decide_and, decide_eq_decide]
    omega

end Split

end NoteSearch
