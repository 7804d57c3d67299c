import NoteSearch.Proofs.Suggestion.Edit
import NoteSearch.Suggestion.Distance

/-!
# Edit distance

The rows of the table hold least numbers of edits: the row that belongs to a beginning of the longer
text has them for every beginning of the shorter one. Beginnings grow at their ends, so they are written
backwards here, which puts a new character first.
-/

namespace NoteSearch

namespace EditDistance

variable {back done short long : Text}

/-- The entries of the row for `done` after that of `back`, which `short` continues. -/
def entriesAfter (done back : Text) : Text → List Nat
  | [] => []
  | d :: short => leastEdits (d :: back) done :: entriesAfter done (d :: back) short

/-- The row for `done` and the beginnings of `short`. -/
def row (done short : Text) : List Nat :=
  leastEdits [] done :: entriesAfter done [] short

theorem rowAfter_entriesAfter (c : Char) (done back short : Text) :
    rowAfter c (leastEdits back done) (leastEdits back (c :: done)) short (entriesAfter done back short)
      = entriesAfter (c :: done) back short := by
  induction short generalizing back with
  | nil => rfl
  | cons d short ih =>
      have hentry := leastEdits_cons_cons d c back done
      simp only [entriesAfter, rowAfter, ← hentry, ih]

theorem nextRow_row (c : Char) (done short : Text) :
    nextRow c short (row done short) = row (c :: done) short := by
  have hfirst : leastEdits [] (c :: done) = leastEdits [] done + 1 := by simp
  rw [row, nextRow, ← hfirst, rowAfter_entriesAfter, row]

theorem entriesAfter_nil (back short : Text) :
    entriesAfter [] back short = List.range' (back.length + 1) short.length := by
  induction short generalizing back with
  | nil => rfl
  | cons d short ih =>
      rw [entriesAfter, ih, leastEdits_nil_right, List.length_cons, List.length_cons, List.range'_succ]

theorem range_eq_row (short : Text) : List.range (short.length + 1) = row [] short := by
  rw [row, leastEdits_nil_right, entriesAfter_nil, List.range_eq_range', List.range'_succ]
  rfl

theorem lastRow?_none (done short long : Text) :
    lastRow? none short (row done short) long = some (row (long.reverse ++ done) short) := by
  induction long generalizing done with
  | nil => rfl
  | cons c long ih =>
      rw [lastRow?, nextRow_row, List.reverse_cons, List.append_assoc, List.singleton_append]
      exact ih (c :: done)

theorem getLastD_entriesAfter (done back short : Text) (other : Nat) :
    (leastEdits back done :: entriesAfter done back short).getLastD other
      = leastEdits (short.reverse ++ back) done := by
  induction short generalizing back other with
  | nil => rfl
  | cons d short ih =>
      rw [entriesAfter, List.getLastD_cons, ih, List.reverse_cons, List.append_assoc,
        List.singleton_append]

theorem getLastD_row (done short : Text) :
    (row done short).getLastD 0 = leastEdits short.reverse done := by
  rw [row, getLastD_entriesAfter, List.append_nil]

theorem ofSorted_none (short long : Text) : ofSorted none short long = leastEdits short long := by
  have hlast := lastRow?_none [] short long
  rw [List.append_nil] at hlast
  simp only [ofSorted, Option.any_none, range_eq_row, hlast]
  rw [if_neg Bool.false_ne_true, getLastD_row, leastEdits_reverse]

end EditDistance

open EditDistance

theorem editDistance_none (s t : Text) : editDistance none s t = leastEdits s t := by
  rw [editDistance]
  split
  · next hempty =>
      rw [List.isEmpty_iff.mp hempty, leastEdits_nil_left]
  · split
    · next hempty =>
        rw [List.isEmpty_iff.mp hempty, leastEdits_nil_right]
    · split
      · rw [ofSorted_none, leastEdits_comm]
      · exact ofSorted_none s t

/-- Without a bound the distance is the length of a shortest sequence of edits. So it tells texts apart,
does not depend on their order, and no way over a third text is shorter. -/
theorem editDistance_eq_shortest (s t : Text) :
    (∃ n : Nat, editDistance none s t = n ∧ IsLeast {k | Edits k s t} n) ∧
      (editDistance none s t = 0 ↔ s = t) ∧
      editDistance none s t = editDistance none t s ∧
      ∀ u, editDistance none s u ≤ editDistance none s t + editDistance none t u := by
  simp only [editDistance_none]
  refine ⟨⟨_, rfl, isLeast_leastEdits s t⟩, ?_, ?_, ?_⟩
  · rw [Int.natCast_eq_zero]
    exact leastEdits_eq_zero_iff
  · rw [leastEdits_comm]
  · intro u
    exact Int.ofNat_le.mpr (leastEdits_triangle s t u)

example : editDistance none "kitten".toList "sitting".toList = 3 := by decide

end NoteSearch
