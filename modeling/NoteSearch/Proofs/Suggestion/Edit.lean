import Mathlib.Order.Bounds.Basic
import NoteSearch.Text.Basic

/-!
# Edits of a text

What turns one text into another: characters put in, taken out or replaced, one at a time and anywhere.
`leastEdits` computes the least number of edits between two texts from their first characters. No
sequence of edits is shorter, because a single edit of one text changes that number by one at most,
whatever the other text is.
-/

namespace NoteSearch

/-- A character is put in, taken out, or replaced. -/
inductive Edit : Text → Text → Prop
  | insert (before after : Text) (c : Char) : Edit (before ++ after) (before ++ c :: after)
  | delete (before after : Text) (c : Char) : Edit (before ++ c :: after) (before ++ after)
  | replace (before after : Text) (c d : Char) : Edit (before ++ c :: after) (before ++ d :: after)

/-- A number of edits, one after another. -/
inductive Edits : Nat → Text → Text → Prop
  | refl (t : Text) : Edits 0 t t
  | head {n : Nat} {s u t : Text} (first : Edit s u) (later : Edits n u t) : Edits (n + 1) s t

section Scripts

variable {n m : Nat} {s t u : Text}

theorem Edit.symm (h : Edit s t) : Edit t s := by
  cases h with
  | insert before after c => exact .delete before after c
  | delete before after c => exact .insert before after c
  | replace before after c d => exact .replace before after d c

theorem Edit.cons (x : Char) (h : Edit s t) : Edit (x :: s) (x :: t) := by
  cases h with
  | insert before after c => exact .insert (x :: before) after c
  | delete before after c => exact .delete (x :: before) after c
  | replace before after c d => exact .replace (x :: before) after c d

theorem Edit.reverse (h : Edit s t) : Edit s.reverse t.reverse := by
  cases h with
  | insert before after c =>
      simpa using Edit.insert after.reverse before.reverse c
  | delete before after c =>
      simpa using Edit.delete after.reverse before.reverse c
  | replace before after c d =>
      simpa using Edit.replace after.reverse before.reverse c d

namespace Edits

theorem single (h : Edit s t) : Edits 1 s t :=
  .head h (.refl t)

theorem trans (h : Edits n s u) (h' : Edits m u t) : Edits (n + m) s t := by
  induction h with
  | refl => rwa [Nat.zero_add]
  | head first _ ih =>
      rw [Nat.succ_add]
      exact .head first (ih h')

theorem symm (h : Edits n s t) : Edits n t s := by
  induction h with
  | refl => exact .refl _
  | head first _ ih => exact ih.trans (single first.symm)

theorem cons (x : Char) (h : Edits n s t) : Edits n (x :: s) (x :: t) := by
  induction h with
  | refl => exact .refl _
  | head first _ ih => exact .head (first.cons x) ih

theorem reverse (h : Edits n s t) : Edits n s.reverse t.reverse := by
  induction h with
  | refl => exact .refl _
  | head first _ ih => exact .head first.reverse ih

theorem eq_of_zero (h : Edits 0 s t) : s = t := by
  cases h
  rfl

/-- Any text can be put in character by character. -/
theorem of_nil (t : Text) : Edits t.length [] t := by
  induction t with
  | nil => exact .refl []
  | cons d t ih => exact .head (.insert [] [] d) (ih.cons d)

end Edits

end Scripts

/-- The least number of edits, by the first characters of both texts: one of them is put in or taken out,
or the one gives way to the other. -/
def leastEdits : Text → Text → Nat
  | [], t => t.length
  | s, [] => s.length
  | c :: s, d :: t =>
      min (min (leastEdits (c :: s) t + 1) (leastEdits s (d :: t) + 1))
        (leastEdits s t + if c == d then 0 else 1)
  termination_by s t => s.length + t.length

section Recurrence

variable {n : Nat} {s t u : Text}

@[simp] theorem leastEdits_nil_left (t : Text) : leastEdits [] t = t.length := by
  rw [leastEdits]

@[simp] theorem leastEdits_nil_right (s : Text) : leastEdits s [] = s.length := by
  cases s with
  | nil => exact leastEdits_nil_left []
  | cons c s => rw [leastEdits]; exact List.cons_ne_nil c s

theorem leastEdits_cons_cons (c d : Char) (s t : Text) :
    leastEdits (c :: s) (d :: t)
      = min (min (leastEdits (c :: s) t + 1) (leastEdits s (d :: t) + 1))
        (leastEdits s t + if c == d then 0 else 1) := by
  rw [leastEdits]

theorem edits_leastEdits (s t : Text) : Edits (leastEdits s t) s t := by
  induction s, t using leastEdits.induct with
  | case1 t =>
      rw [leastEdits_nil_left]
      exact .of_nil t
  | case2 s =>
      rw [leastEdits_nil_right]
      exact (Edits.of_nil s).symm
  | case3 c s d t ihInsert ihDelete ihReplace =>
      have hway : leastEdits (c :: s) (d :: t) = leastEdits (c :: s) t + 1 ∨
          leastEdits (c :: s) (d :: t) = leastEdits s (d :: t) + 1 ∨
          leastEdits (c :: s) (d :: t) = leastEdits s t + if c == d then 0 else 1 := by
        rw [leastEdits_cons_cons]
        omega
      rcases hway with hway | hway | hway
      · rw [hway]
        exact ihInsert.trans (.single (.insert [] t d))
      · rw [hway]
        exact .head (.delete [] s c) ihDelete
      · rw [hway]
        by_cases hsame : c = d
        · subst hsame
          rw [if_pos (beq_self_eq_true c)]
          exact ihReplace.cons c
        · rw [if_neg (by simpa using hsame)]
          exact .head (.replace [] s c d) (ihReplace.cons d)

/-! ### A single edit -/

theorem leastEdits_cons_le (c : Char) (s t : Text) : leastEdits (c :: s) t ≤ leastEdits s t + 1 := by
  cases t with
  | nil => simp
  | cons d t =>
      rw [leastEdits_cons_cons]
      omega

theorem leastEdits_le_cons_right (d : Char) (s t : Text) :
    leastEdits s (d :: t) ≤ leastEdits s t + 1 := by
  cases s with
  | nil => simp
  | cons c s =>
      rw [leastEdits_cons_cons]
      omega

theorem leastEdits_le_cons (c : Char) (s t : Text) : leastEdits s t ≤ leastEdits (c :: s) t + 1 := by
  induction t with
  | nil => simp [Nat.add_assoc]
  | cons d t ih =>
      have hright := leastEdits_le_cons_right d s t
      rw [leastEdits_cons_cons]
      omega

theorem leastEdits_replace_le (c d : Char) (s t : Text) :
    leastEdits (c :: s) t ≤ leastEdits (d :: s) t + 1 := by
  induction t with
  | nil => simp
  | cons e t ih =>
      rw [leastEdits_cons_cons, leastEdits_cons_cons]
      split <;> split <;> omega

/-- What an edit changes does not depend on the characters before it. -/
theorem leastEdits_cons_le_of_le (h : ∀ t, leastEdits s t ≤ leastEdits u t + 1) (x : Char) (t : Text) :
    leastEdits (x :: s) t ≤ leastEdits (x :: u) t + 1 := by
  induction t with
  | nil => simpa using h []
  | cons y t ih =>
      have hskip := h (y :: t)
      have hpair := h t
      rw [leastEdits_cons_cons, leastEdits_cons_cons]
      omega

theorem leastEdits_append_le_of_le (h : ∀ t, leastEdits s t ≤ leastEdits u t + 1) (before t : Text) :
    leastEdits (before ++ s) t ≤ leastEdits (before ++ u) t + 1 := by
  induction before generalizing t with
  | nil => exact h t
  | cons x before ih => exact leastEdits_cons_le_of_le ih x t

theorem leastEdits_le_of_edit (h : Edit s u) (t : Text) : leastEdits s t ≤ leastEdits u t + 1 := by
  cases h with
  | insert before after c => exact leastEdits_append_le_of_le (leastEdits_le_cons c after) before t
  | delete before after c => exact leastEdits_append_le_of_le (leastEdits_cons_le c after) before t
  | replace before after c d =>
      exact leastEdits_append_le_of_le (leastEdits_replace_le c d after) before t

/-! ### No sequence of edits is shorter -/

@[simp] theorem leastEdits_self (t : Text) : leastEdits t t = 0 := by
  induction t with
  | nil => simp
  | cons c t ih =>
      simp [leastEdits_cons_cons, ih]

theorem leastEdits_le_of_edits (h : Edits n s t) : leastEdits s t ≤ n := by
  induction h with
  | refl t => exact Nat.le_of_eq (leastEdits_self t)
  | @head n s u t first later ih =>
      have hfirst := leastEdits_le_of_edit first t
      omega

theorem isLeast_leastEdits (s t : Text) : IsLeast {n | Edits n s t} (leastEdits s t) :=
  ⟨edits_leastEdits s t, fun _ => leastEdits_le_of_edits⟩

theorem leastEdits_comm (s t : Text) : leastEdits s t = leastEdits t s :=
  Nat.le_antisymm (leastEdits_le_of_edits (edits_leastEdits t s).symm)
    (leastEdits_le_of_edits (edits_leastEdits s t).symm)

/-- Texts may as well be compared from their ends. -/
theorem leastEdits_reverse (s t : Text) : leastEdits s.reverse t.reverse = leastEdits s t := by
  have hback := (edits_leastEdits s.reverse t.reverse).reverse
  rw [List.reverse_reverse, List.reverse_reverse] at hback
  exact Nat.le_antisymm (leastEdits_le_of_edits (edits_leastEdits s t).reverse)
    (leastEdits_le_of_edits hback)

theorem leastEdits_eq_zero_iff : leastEdits s t = 0 ↔ s = t := by
  constructor
  · intro hzero
    exact Edits.eq_of_zero (hzero ▸ edits_leastEdits s t)
  · rintro rfl
    exact leastEdits_self s

theorem leastEdits_triangle (s t u : Text) : leastEdits s u ≤ leastEdits s t + leastEdits t u :=
  leastEdits_le_of_edits ((edits_leastEdits s t).trans (edits_leastEdits t u))

end Recurrence

end NoteSearch
