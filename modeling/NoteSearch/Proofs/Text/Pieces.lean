import Mathlib.Data.List.DropRight
import NoteSearch.Text.Basic

/-!
# Stripped texts and texts around a character

Stripping takes blanks from the two ends and nothing else, so what is stripped stays as it is. A text
splits at a character into what stands before its first occurrence and what stands after that.
-/

namespace NoteSearch.Text

theorem strip_eq (t : Text) : t.strip = (t.dropWhile isBlank).rdropWhile isBlank :=
  rfl

theorem strip_subset (t : Text) : t.strip ⊆ t := by
  have hright := List.rdropWhile_prefix isBlank (t.dropWhile isBlank)
  have hleft : t.dropWhile isBlank <:+ t := List.dropWhile_suffix isBlank
  rw [strip_eq]
  exact List.Subset.trans hright.subset hleft.subset

theorem notMem_strip {c : Char} {t : Text} (h : c ∉ t) : c ∉ t.strip := by
  intro hc
  exact h (strip_subset t hc)

theorem strip_of_forall {t : Text} (h : ∀ c ∈ t, isBlank c = false) : t.strip = t := by
  have hleft : t.dropWhile isBlank = t := by
    rw [List.dropWhile_eq_self_iff]
    intro hlength
    simp [h _ (List.getElem_mem hlength)]
  rw [strip_eq, hleft, List.rdropWhile_eq_self_iff]
  intro hsome
  simp [h _ (List.getLast_mem hsome)]

theorem strip_strip (t : Text) : t.strip.strip = t.strip := by
  have hleft : t.strip.dropWhile isBlank = t.strip := by
    have hdropped := List.dropWhile_idempotent isBlank t
    obtain ⟨tail, htail⟩ := List.rdropWhile_prefix isBlank (t.dropWhile isBlank)
    rw [← strip_eq] at htail
    rw [← htail] at hdropped
    cases hstrip : t.strip with
    | nil => rfl
    | cons c rest =>
        rw [hstrip, List.cons_append, List.dropWhile_eq_self_iff] at hdropped
        have hfirst : ¬isBlank c = true := hdropped (Nat.zero_lt_succ _)
        exact List.dropWhile_cons_of_neg hfirst
  rw [strip_eq t.strip, hleft, strip_eq t, List.rdropWhile_idempotent]

/-! ### The two sides of a character -/

theorem splitAt?_append {c : Char} {before : Text} (h : c ∉ before) (after : Text) :
    splitAt? c (before ++ c :: after) = some (before, after) := by
  have hbefore : ∀ d ∈ before, (d != c) = true := by
    intro d hd
    exact bne_iff_ne.mpr fun heq => h (heq ▸ hd)
  rw [splitAt?, List.dropWhile_append_of_pos hbefore, List.takeWhile_append_of_pos hbefore,
    List.dropWhile_cons_of_neg (by simp), List.takeWhile_cons_of_neg (by simp), List.append_nil]

theorem splitAt?_eq_none {c : Char} {t : Text} (h : c ∉ t) : splitAt? c t = none := by
  have hall : t.dropWhile (· != c) = [] := by
    rw [List.dropWhile_eq_nil_iff]
    intro d hd
    exact bne_iff_ne.mpr fun heq => h (heq ▸ hd)
  rw [splitAt?, hall]

theorem splitAt?_eq_some_iff {c : Char} {t before after : Text} :
    splitAt? c t = some (before, after) ↔ t = before ++ c :: after ∧ c ∉ before := by
  constructor
  · intro h
    by_cases hc : c ∈ t
    · obtain ⟨front, back, hsplit, hfront⟩ := List.eq_append_cons_of_mem hc
      rw [hsplit, splitAt?_append hfront] at h
      obtain ⟨rfl, rfl⟩ := Prod.mk.inj (Option.some.inj h)
      exact ⟨hsplit, hfront⟩
    · rw [splitAt?_eq_none hc] at h
      exact absurd h (by simp)
  · rintro ⟨rfl, hbefore⟩
    exact splitAt?_append hbefore after

theorem exists_splitAll_eq (c : Char) (t : Text) :
    ∃ pieces, splitAll c t = t.takeWhile (· != c) :: pieces := by
  induction t with
  | nil => exact ⟨[], rfl⟩
  | cons d rest ih =>
      obtain ⟨pieces, hrest⟩ := ih
      by_cases hd : d == c
      · have hnone : (d :: rest).takeWhile (· != c) = [] :=
          List.takeWhile_cons_of_neg (by simpa using hd)
        exact ⟨splitAll c rest, by rw [splitAll, if_pos hd, hnone]⟩
      · have hmore : (d :: rest).takeWhile (· != c) = d :: rest.takeWhile (· != c) :=
          List.takeWhile_cons_of_pos (by simpa using hd)
        exact ⟨pieces, by rw [splitAll, if_neg hd, hrest, hmore]⟩

end NoteSearch.Text
