import Mathlib.Data.List.Infix
import Mathlib.Order.MinMax
import NoteSearch.Proofs.Suggestion.Distance

/-!
# Edit distance with a bound

A row whose entries all exceed the bound is followed by rows of this kind only. So the table is left
early exactly when the last row exceeds the bound everywhere, that is when no beginning of the shorter
text is within the bound of the longer one; a gap of lengths is a case of it. Then the distance exceeds
the bound, and the bound plus one is given. Otherwise the distance itself is given: it is exact within
the bound, and beyond it it may be more than the bound plus one. The beginnings are those of one of the
two texts, so texts of one length need not be treated alike.
-/

namespace NoteSearch

/-! ### Edits and lengths -/

section Lengths

variable {n : Nat} {s t : Text}

theorem Edit.length_le (h : Edit s t) : t.length ≤ s.length + 1 := by
  cases h with
  | insert before after c => simp [Nat.add_assoc]
  | delete before after c => simp [Nat.add_assoc]
  | replace before after c d => simp

theorem Edits.length_le (h : Edits n s t) : t.length ≤ s.length + n := by
  induction h with
  | refl t => exact Nat.le_refl _
  | head first _ ih =>
      have hfirst := first.length_le
      omega

theorem length_le_add_leastEdits (s t : Text) : t.length ≤ s.length + leastEdits s t :=
  (edits_leastEdits s t).length_le

end Lengths

namespace EditDistance

variable {k : Nat} {back done short long : Text}

/-- What begins a text, which is written backwards here, is always more than `k` edits from `done`. -/
def Beyond (k : Nat) (back done : Text) : Prop :=
  ∀ part, part <:+ back → k < leastEdits part done

theorem Beyond.cons (h : Beyond k back done) (c : Char) : Beyond k back (c :: done) := by
  intro part hpart
  induction part with
  | nil =>
      have hempty := h [] hpart
      rw [leastEdits_nil_left] at hempty ⊢
      exact Nat.lt_succ_of_lt hempty
  | cons d part ih =>
      have hsuffix : part <:+ back := (List.suffix_cons d part).trans hpart
      have hleft := ih hsuffix
      have habove := h (d :: part) hpart
      have hdiagonal := h part hsuffix
      rw [leastEdits_cons_cons]
      omega

theorem Beyond.append (h : Beyond k back done) (later : Text) : Beyond k back (later ++ done) := by
  induction later with
  | nil => exact h
  | cons c later ih => exact ih.cons c

theorem beyond_of_length_lt (h : back.length + k < done.length) : Beyond k back done := by
  intro part hpart
  have hpartLength := hpart.length_le
  have hdone := length_le_add_leastEdits part done
  omega

/-! ### The least entry of a row -/

theorem lt_foldl_min_iff {entry : Nat} {rest : List Nat} :
    k < rest.foldl min entry ↔ k < entry ∧ ∀ later ∈ rest, k < later := by
  induction rest generalizing entry with
  | nil => simp
  | cons next rest ih => rw [List.foldl_cons, ih, Nat.lt_min, List.forall_mem_cons, and_assoc]

theorem forall_mem_row_iff {p : Nat → Prop} :
    (∀ entry ∈ leastEdits back done :: entriesAfter done back short, p entry) ↔
      ∀ part, part <+: short → p (leastEdits (part.reverse ++ back) done) := by
  induction short generalizing back with
  | nil => simp [entriesAfter]
  | cons d short ih =>
      rw [List.forall_mem_cons, entriesAfter, ih]
      constructor
      · rintro ⟨hfirst, hlater⟩ part hpart
        rcases List.prefix_cons_iff.mp hpart with rfl | ⟨rest, rfl, hrest⟩
        · exact hfirst
        · simpa using hlater rest hrest
      · intro hall
        refine ⟨hall [] List.nil_prefix, ?_⟩
        intro rest hrest
        simpa using hall (d :: rest) (List.prefix_cons_inj d |>.mpr hrest)

theorem lt_rowMin_row_iff : k < rowMin (row done short) ↔ Beyond k short.reverse done := by
  rw [row, rowMin, lt_foldl_min_iff, ← List.forall_mem_cons (p := fun entry => k < entry),
    forall_mem_row_iff]
  constructor
  · intro hall part hpart
    have hprefix : part.reverse <+: short := by simpa using List.reverse_prefix.mpr hpart
    simpa using hall part.reverse hprefix
  · intro hall part hpart
    simpa using hall part.reverse (List.reverse_suffix.mpr hpart)

/-! ### Leaving the table -/

theorem lastRow?_of_not_beyond (h : ¬Beyond k short.reverse (long.reverse ++ done)) :
    lastRow? (some k) short (row done short) long = some (row (long.reverse ++ done) short) := by
  induction long generalizing done with
  | nil => rfl
  | cons c long ih =>
      rw [List.reverse_cons, List.append_assoc, List.singleton_append] at h ⊢
      have hnext : ¬Beyond k short.reverse (c :: done) := fun hbeyond => h (hbeyond.append _)
      have hgoOn : ¬((k : Int) < (rowMin (row (c :: done) short) : Int)) := by
        rwa [Int.ofNat_lt, lt_rowMin_row_iff]
      rw [lastRow?, nextRow_row]
      simp only [Option.any_some, decide_eq_true_eq, if_neg hgoOn]
      exact ih h

theorem lastRow?_of_beyond (hlong : long ≠ [])
    (h : Beyond k short.reverse (long.reverse ++ done)) :
    lastRow? (some k) short (row done short) long = none := by
  induction long generalizing done with
  | nil => exact absurd rfl hlong
  | cons c long ih =>
      rw [List.reverse_cons, List.append_assoc, List.singleton_append] at h
      rw [lastRow?, nextRow_row]
      by_cases hnext : Beyond k short.reverse (c :: done)
      · have hleave : (k : Int) < (rowMin (row (c :: done) short) : Int) := by
          rwa [Int.ofNat_lt, lt_rowMin_row_iff]
        simp [hleave]
      · have hgoOn : ¬((k : Int) < (rowMin (row (c :: done) short) : Int)) := by
          rwa [Int.ofNat_lt, lt_rowMin_row_iff]
        have hmore : long ≠ [] := by
          rintro rfl
          exact hnext h
        simp only [Option.any_some, decide_eq_true_eq, if_neg hgoOn]
        exact ih hmore h

theorem ofSorted_of_beyond (hlong : long ≠ []) (h : Beyond k short.reverse long.reverse) :
    ofSorted (some k) short long = k + 1 := by
  have hlast : lastRow? (some k) short (row [] short) long = none := by
    apply lastRow?_of_beyond hlong
    rwa [List.append_nil]
  simp [ofSorted, range_eq_row, hlast]

theorem ofSorted_of_not_beyond (h : ¬Beyond k short.reverse long.reverse) :
    ofSorted (some k) short long = leastEdits short long := by
  have hlast : lastRow? (some k) short (row [] short) long = some (row long.reverse short) := by
    rw [lastRow?_of_not_beyond, List.append_nil]
    rwa [List.append_nil]
  have hgap : ¬((k : Int) < (long.length : Int) - short.length) := by
    intro hgap
    apply h
    apply beyond_of_length_lt
    rw [List.length_reverse, List.length_reverse]
    omega
  simp only [ofSorted, Option.any_some, decide_eq_true_eq, if_neg hgap, range_eq_row, hlast]
  rw [getLastD_row, leastEdits_reverse]

end EditDistance

open EditDistance

/-! ### The distance that is given -/

def shorter (s t : Text) : Text :=
  if t.length < s.length then t else s

def longer (s t : Text) : Text :=
  if t.length < s.length then s else t

/-- No beginning of the shorter text, of the first one if none is shorter, is within `k` edits of the
longer text. -/
def OutOfReach (k : Nat) (s t : Text) : Prop :=
  ∀ beginning ∈ (shorter s t).inits, (k : Int) < editDistance none beginning (longer s t)

instance (k : Nat) (s t : Text) : Decidable (OutOfReach k s t) :=
  inferInstanceAs (Decidable (∀ beginning ∈ (shorter s t).inits, _))

section Given

variable {k : Nat} {s t : Text}

theorem beyond_reverse_iff {short long : Text} :
    Beyond k short.reverse long.reverse ↔
      ∀ beginning ∈ short.inits, (k : Int) < editDistance none beginning long := by
  constructor
  · intro hbeyond beginning hbeginning
    have hpart := hbeyond _ (List.reverse_suffix.mpr ((List.mem_inits _ _).mp hbeginning))
    rw [leastEdits_reverse] at hpart
    rw [editDistance_none]
    exact Int.ofNat_lt.mpr hpart
  · intro hall part hpart
    have hprefix : part.reverse <+: short := by simpa using List.reverse_prefix.mpr hpart
    have hbeginning := hall part.reverse ((List.mem_inits _ _).mpr hprefix)
    rw [editDistance_none, Int.ofNat_lt, ← leastEdits_reverse, List.reverse_reverse] at hbeginning
    exact hbeginning

theorem leastEdits_shorter_longer (s t : Text) :
    leastEdits (shorter s t) (longer s t) = leastEdits s t := by
  rw [shorter, longer]
  split
  · exact leastEdits_comm t s
  · rfl

theorem longer_ne_nil (hs : s ≠ []) (ht : t ≠ []) : longer s t ≠ [] := by
  rw [longer]
  split
  · exact hs
  · exact ht

theorem editDistance_of_ne_nil (bound : Option Int) (hs : s ≠ []) (ht : t ≠ []) :
    editDistance bound s t = ofSorted bound (shorter s t) (longer s t) := by
  rw [editDistance, if_neg (by simpa using hs), if_neg (by simpa using ht), shorter, longer]
  split
  · rfl
  · rfl

theorem lt_of_outOfReach (h : OutOfReach k s t) : (k : Int) < editDistance none s t := by
  have hwhole := h (shorter s t) ((List.mem_inits _ _).mpr (List.prefix_refl _))
  rwa [editDistance_none, leastEdits_shorter_longer, ← editDistance_none] at hwhole

theorem editDistance_some_of_outOfReach (hs : s ≠ []) (ht : t ≠ []) (h : OutOfReach k s t) :
    editDistance (some k) s t = k + 1 := by
  rw [editDistance_of_ne_nil _ hs ht]
  exact ofSorted_of_beyond (longer_ne_nil hs ht) (beyond_reverse_iff.mpr h)

theorem editDistance_some_of_not_outOfReach (h : ¬(s ≠ [] ∧ t ≠ [] ∧ OutOfReach k s t)) :
    editDistance (some k) s t = editDistance none s t := by
  by_cases hs : s = []
  · simp only [editDistance, List.isEmpty_iff, if_pos hs]
  · by_cases ht : t = []
    · simp only [editDistance, List.isEmpty_iff, if_neg hs, if_pos ht]
    · have hbeyond := mt beyond_reverse_iff.mp fun hreach => h ⟨hs, ht, hreach⟩
      rw [editDistance_of_ne_nil _ hs ht, ofSorted_of_not_beyond hbeyond, leastEdits_shorter_longer,
        editDistance_none]

theorem editDistance_some (k : Nat) (s t : Text) :
    editDistance (some k) s t
      = if s ≠ [] ∧ t ≠ [] ∧ OutOfReach k s t then (k : Int) + 1 else editDistance none s t := by
  split
  · next h => exact editDistance_some_of_outOfReach h.1 h.2.1 h.2.2
  · next h => exact editDistance_some_of_not_outOfReach h

/-- The distance is exact within the bound, and one above it. -/
theorem editDistance_some_of_le (h : editDistance none s t ≤ k + 1) :
    editDistance (some k) s t = editDistance none s t := by
  rw [editDistance_some]
  split
  · next hout =>
      have hlt := lt_of_outOfReach hout.2.2
      omega
  · rfl

theorem editDistance_some_le_iff : editDistance (some k) s t ≤ k ↔ editDistance none s t ≤ k := by
  rw [editDistance_some]
  split
  · next h =>
      have hlt := lt_of_outOfReach h.2.2
      omega
  · exact Iff.rfl

theorem editDistance_none_comm (s t : Text) : editDistance none s t = editDistance none t s := by
  rw [editDistance_none, editDistance_none, leastEdits_comm]

theorem shorter_comm (h : s.length ≠ t.length) : shorter s t = shorter t s := by
  rcases Nat.lt_or_gt_of_ne h with hlt | hlt
  · rw [shorter, shorter, if_neg (Nat.lt_asymm hlt), if_pos hlt]
  · rw [shorter, shorter, if_pos hlt, if_neg (Nat.lt_asymm hlt)]

theorem longer_comm (h : s.length ≠ t.length) : longer s t = longer t s := by
  rcases Nat.lt_or_gt_of_ne h with hlt | hlt
  · rw [longer, longer, if_neg (Nat.lt_asymm hlt), if_pos hlt]
  · rw [longer, longer, if_pos hlt, if_neg (Nat.lt_asymm hlt)]

theorem editDistance_some_comm (h : s.length ≠ t.length) :
    editDistance (some k) s t = editDistance (some k) t s := by
  have hreach : OutOfReach k s t ↔ OutOfReach k t s := by
    rw [OutOfReach, OutOfReach, shorter_comm h, longer_comm h]
  rw [editDistance_some, editDistance_some]
  refine if_congr ?_ rfl (editDistance_none_comm s t)
  rw [hreach, and_left_comm]

theorem editDistance_some_ne_comm_iff :
    editDistance (some k) s t ≠ editDistance (some k) t s ↔
      s.length = t.length ∧ (k : Int) + 1 < editDistance none s t ∧
        ¬(OutOfReach k s t ↔ OutOfReach k t s) := by
  by_cases hlength : s.length = t.length
  · by_cases hfar : (k : Int) + 1 < editDistance none s t
    · have hs : s ≠ [] := by
        rintro rfl
        obtain rfl := List.eq_nil_of_length_eq_zero hlength.symm
        simp [editDistance_none] at hfar
        omega
      have ht : t ≠ [] := by
        rintro rfl
        exact hs (List.eq_nil_of_length_eq_zero hlength)
      rw [editDistance_some, editDistance_some, editDistance_none_comm t s]
      by_cases hst : OutOfReach k s t <;> by_cases hts : OutOfReach k t s <;>
        simp [hs, ht, hst, hts, hlength, hfar] <;> omega
    · have hnear : editDistance none s t ≤ k + 1 := by omega
      have hback : editDistance none t s ≤ k + 1 := by rwa [editDistance_none_comm]
      rw [editDistance_some_of_le hnear, editDistance_some_of_le hback, editDistance_none_comm t s]
      simp [hfar]
  · simp [hlength, editDistance_some_comm hlength]

end Given

/-- With a bound `k` the length `d` of a shortest sequence of edits is given, or `k + 1` when neither
text is empty and no beginning of the shorter one is within the bound of the longer one. So a length
above `k + 1` is given as `k + 1` in this case alone, and the order of the texts matters where it decides
whose beginnings are looked at. -/
theorem editDistance_some_eq_min_iff (k : Nat) (s t : Text) :
    ∃ d : Nat, IsLeast {n | Edits n s t} d ∧
      editDistance (some k) s t = (if s ≠ [] ∧ t ≠ [] ∧ OutOfReach k s t then (k : Int) + 1 else d) ∧
      (editDistance (some k) s t = min (d : Int) (k + 1) ↔
        d ≤ k + 1 ∨ s ≠ [] ∧ t ≠ [] ∧ OutOfReach k s t) ∧
      (editDistance (some k) s t ≠ editDistance (some k) t s ↔
        s.length = t.length ∧ k + 1 < d ∧ ¬(OutOfReach k s t ↔ OutOfReach k t s)) := by
  have hgiven := editDistance_some k s t
  have hswapped := editDistance_some_ne_comm_iff (k := k) (s := s) (t := t)
  rw [editDistance_none] at hgiven hswapped
  refine ⟨leastEdits s t, isLeast_leastEdits s t, hgiven, ?_, ?_⟩
  · rw [hgiven]
    split
    · next hout =>
        have hlt := lt_of_outOfReach hout.2.2
        rw [editDistance_none] at hlt
        exact iff_of_true (min_eq_right hlt).symm (.inr hout)
    · next hout =>
        rw [or_iff_left hout, eq_comm, min_eq_left_iff]
        omega
  · have hfar : (k : Int) + 1 < leastEdits s t ↔ k + 1 < leastEdits s t := by omega
    rw [hswapped, hfar]

/-- The second text begins with two other characters, the first one ends with two. -/
theorem not_forall_editDistance_some_eq_min :
    ¬ ∀ (k : Nat) (s t : Text), editDistance (some k) s t = min (editDistance none s t) (k + 1) ∧
        editDistance (some k) s t = editDistance (some k) t s := by
  intro hall
  have hcapped := (hall 2 "abcd".toList "xyab".toList).1
  revert hcapped
  decide

end NoteSearch
