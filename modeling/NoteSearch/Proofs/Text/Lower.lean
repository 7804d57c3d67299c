import NoteSearch.Proofs.Character.Word
import NoteSearch.Proofs.Text.Words
import NoteSearch.Text.Case

/-!
# The words of a lower-cased text

Lower case keeps words and what stands between them apart, with one exception: the dotted capital I
becomes two characters, and the second one is no word character. What a word becomes depends on its
neighbours if it has a capital sigma, and a blank ends that dependence.
-/

namespace NoteSearch

namespace Text

/-! ### A part of a text -/

/-- Lower case of a part of a text between its neighbours, those before it listed backwards. -/
def lowerWithin (before : Text) : Text → Text → Text
  | [], _ => []
  | c :: part, after => lowerBetween before c (part ++ after) ++ lowerWithin (c :: before) part after

theorem lowerAfter_append (before part after : Text) :
    lowerAfter before (part ++ after)
      = lowerWithin before part after ++ lowerAfter (part.reverse ++ before) after := by
  induction part generalizing before with
  | nil => rfl
  | cons c part ih =>
      rw [List.cons_append, lowerAfter, lowerWithin, ih, List.append_assoc, List.reverse_cons,
        List.append_assoc, List.singleton_append]

theorem lowerWithin_nil_right (before part : Text) :
    lowerWithin before part [] = lowerAfter before part := by
  have happend := lowerAfter_append before part []
  rw [List.append_nil, lowerAfter, List.append_nil] at happend
  exact happend.symm

/-! ### Across a blank -/

theorem reachesCased_append_blank (near far : Text) :
    reachesCased (near ++ ' ' :: far) = reachesCased near := by
  have hpassed : isCaseIgnorable ' ' = false := by decide +kernel
  have hcased : isCased ' ' = false := by decide +kernel
  induction near with
  | nil =>
      have hstop : (' ' :: far).dropWhile isCaseIgnorable = ' ' :: far :=
        List.dropWhile_cons_of_neg (by simp [hpassed])
      rw [List.nil_append, reachesCased, hstop]
      exact hcased
  | cons c near ih =>
      rw [List.cons_append, reachesCased, reachesCased, List.dropWhile_cons, List.dropWhile_cons]
      split
      · exact ih
      · rfl

theorem lowerBetween_blank_right (before : Text) (c : Char) (near far : Text) :
    lowerBetween before c (near ++ ' ' :: far) = lowerBetween before c near := by
  rw [lowerBetween, lowerBetween, reachesCased_append_blank]

theorem lowerBetween_blank_left (near far : Text) (c : Char) (after : Text) :
    lowerBetween (near ++ ' ' :: far) c after = lowerBetween near c after := by
  rw [lowerBetween, lowerBetween, reachesCased_append_blank]

theorem lowerWithin_blank_right (before part far : Text) :
    lowerWithin before part (' ' :: far) = lowerAfter before part := by
  induction part generalizing before with
  | nil => rfl
  | cons c part ih => rw [lowerWithin, lowerAfter, lowerBetween_blank_right, ih]

theorem lowerAfter_blank_left (near far t : Text) :
    lowerAfter (near ++ ' ' :: far) t = lowerAfter near t := by
  induction t generalizing near with
  | nil => rfl
  | cons c t ih =>
      have hrest := ih (c :: near)
      rw [lowerAfter, lowerAfter, lowerBetween_blank_left, ← hrest, List.cons_append]

/-- Two texts with a blank between them are lower-cased apart. -/
theorem lower_append_blank (t u : Text) : lower (t ++ ' ' :: u) = lower t ++ ' ' :: lower u := by
  have hblank : lowerBetween t.reverse ' ' u = [' '] := by
    have hsame : lowerChar ' ' = ' ' := by decide +kernel
    rw [lowerBetween, if_neg (by decide), if_neg (by decide), hsame]
  rw [lower, lowerAfter_append, lowerWithin_blank_right, List.append_nil, lowerAfter, hblank,
    List.singleton_append]
  have hapart := lowerAfter_blank_left [] t.reverse u
  rw [List.nil_append] at hapart
  rw [hapart, lower, lower]

/-! ### Word by word -/

variable {before after : Text} {c : Char}

theorem lowerBetween_of_notWord (hc : isWord c = false) :
    lowerBetween before c after = [lowerChar c] := by
  have hsigma : c ≠ 'Σ' := by
    rintro rfl
    exact absurd hc (by decide +kernel)
  have hdotted : c ≠ 'İ' := by
    rintro rfl
    exact absurd hc (by decide +kernel)
  rw [lowerBetween, if_neg hsigma, if_neg hdotted]

theorem isWord_of_mem_lowerBetween (hc : isWord c) (hdotted : c ≠ 'İ') {d : Char}
    (hd : d ∈ lowerBetween before c after) : isWord d := by
  have hsigma : isWord 'σ' ∧ isWord 'ς' := by decide +kernel
  rw [lowerBetween, if_neg hdotted] at hd
  split at hd
  · split at hd
    · rw [List.mem_singleton.mp hd]
      exact hsigma.2
    · rw [List.mem_singleton.mp hd]
      exact hsigma.1
  · rw [List.mem_singleton.mp hd, isWord_lowerChar]
    exact hc

theorem isWord_of_mem_lowerWithin {word : Text} (hword : ∀ c ∈ word, isWord c)
    (hdotted : 'İ' ∉ word) {d : Char} (hd : d ∈ lowerWithin before word after) : isWord d := by
  induction word generalizing before with
  | nil => exact absurd hd List.not_mem_nil
  | cons c word ih =>
      obtain ⟨hc, hrest⟩ := List.forall_mem_cons.mp hword
      rcases List.mem_append.mp hd with hd | hd
      · exact isWord_of_mem_lowerBetween hc (List.ne_of_not_mem_cons hdotted).symm hd
      · exact ih hrest (List.not_mem_of_not_mem_cons hdotted) hd

theorem lowerWithin_ne_nil {word : Text} (hsome : word ≠ []) : lowerWithin before word after ≠ [] := by
  obtain ⟨c, rest, rfl⟩ := List.exists_cons_of_ne_nil hsome
  have hc : lowerBetween before c (rest ++ after) ≠ [] := by
    rw [lowerBetween]
    split
    · split
      · exact List.cons_ne_nil _ _
      · exact List.cons_ne_nil _ _
    · split
      · exact List.cons_ne_nil _ _
      · exact List.cons_ne_nil _ _
  exact List.append_ne_nil_of_left_ne_nil hc _

/-- A word without the dotted capital I is one word in lower case. -/
theorem hasWords_lowerWithin {word : Text} (hsome : word ≠ []) (hword : ∀ c ∈ word, isWord c)
    (hdotted : 'İ' ∉ word) :
    HasWords (lowerWithin before word after) [lowerWithin before word after] := by
  have hlower : ∀ d ∈ lowerWithin before word after, isWord d :=
    fun d hd => isWord_of_mem_lowerWithin hword hdotted hd
  exact HasWords.of_isWord (lowerWithin_ne_nil hsome) hlower

/-- The mark of a dotted capital I stays in the lower-case form of a word. -/
theorem mark_mem_lower {word : Text} (hdotted : 'İ' ∈ word) : '\u0307' ∈ lower word := by
  obtain ⟨front, rest, rfl⟩ := List.append_of_mem hdotted
  have hmark : '\u0307' ∈ lowerBetween (front.reverse ++ []) 'İ' rest := by
    rw [lowerBetween, if_neg (by decide), if_pos rfl]
    decide
  rw [lower, lowerAfter_append, lowerAfter]
  exact List.mem_append_right _ (List.mem_append_left _ hmark)

/-- Only a capital sigma depends on its neighbours. -/
theorem lowerWithin_eq_lower {word : Text} (hsigma : 'Σ' ∉ word) :
    lowerWithin before word after = lower word := by
  have hfree : ∀ {near far near' far' : Text}, lowerWithin near word far = lowerWithin near' word far' := by
    induction word with
    | nil => exact rfl
    | cons c word ih =>
        intro near far near' far'
        have hc : c ≠ 'Σ' := (List.ne_of_not_mem_cons hsigma).symm
        rw [lowerWithin, lowerWithin, lowerBetween, lowerBetween, if_neg hc, if_neg hc,
          ih (List.not_mem_of_not_mem_cons hsigma)]
  rw [lower, ← lowerWithin_nil_right]
  exact hfree

theorem any_isWord_head?_lowerAfter {behind t : Text} (h : t.head?.any isWord = false) :
    (lowerAfter behind t).head?.any isWord = false := by
  cases t with
  | nil => rfl
  | cons c rest =>
      have hc : isWord c = false := h
      rw [lowerAfter, lowerBetween_of_notWord hc, List.singleton_append]
      exact (isWord_lowerChar c).trans hc

/-- A lower-cased text has the words that its own words have in lower case. -/
theorem exists_words_lowerAfter {t : Text} {words : List Text} (h : HasWords t words) (behind : Text) :
    ∃ parts, HasWords (lowerAfter behind t) parts ∧ ∀ part ∈ parts, ∃ before word after,
      t = before ++ word ++ after ∧ WholeWord before word after ∧
        ∃ own, HasWords (lowerWithin (before.reverse ++ behind) word after) own ∧ part ∈ own := by
  induction h generalizing behind with
  | nothing => exact ⟨[], .nothing, by simp⟩
  | @between c rest words hc _ ih =>
      obtain ⟨parts, hparts, hsource⟩ := ih (c :: behind)
      have hlower : isWord (lowerChar c) = false := (isWord_lowerChar c).trans hc
      refine ⟨parts, ?_, fun part hpart => ?_⟩
      · rw [lowerAfter, lowerBetween_of_notWord hc]
        exact .between hlower hparts
      · obtain ⟨before, word, after, rfl, hwhole, own, hown, hmem⟩ := hsource part hpart
        have hapart : ([c] : Text).getLast?.any isWord = false := hc
        refine ⟨[c] ++ before, word, after, rfl, hwhole.prepend (.inl hapart), own, ?_, hmem⟩
        rwa [List.reverse_append, List.append_assoc]
  | @word w rest words hsome hw hend _ ih =>
      obtain ⟨first, hfirst⟩ := HasWords.exists_words (lowerWithin behind w rest)
      obtain ⟨later, hlater, hsource⟩ := ih (w.reverse ++ behind)
      refine ⟨first ++ later, ?_, fun part hpart => ?_⟩
      · rw [lowerAfter_append]
        exact hfirst.append hlater (any_isWord_head?_lowerAfter hend)
      · rcases List.mem_append.mp hpart with hpart | hpart
        · exact ⟨[], w, rest, rfl, ⟨hsome, hw, rfl, hend⟩, first, hfirst, hpart⟩
        · obtain ⟨before, word, after, rfl, hwhole, own, hown, hmem⟩ := hsource part hpart
          refine ⟨w ++ before, word, after, ?_, hwhole.prepend (.inr hend), own, ?_, hmem⟩
          · simp only [List.append_assoc]
          · rwa [List.reverse_append, List.append_assoc]

theorem exists_wholeWord_of_mem_lower {t : Text} {parts : List Text} (h : HasWords (lower t) parts)
    {part : Text} (hpart : part ∈ parts) : ∃ before word after,
      t = before ++ word ++ after ∧ WholeWord before word after ∧
        ∃ own, HasWords (lowerWithin before.reverse word after) own ∧ part ∈ own := by
  obtain ⟨words, hwords⟩ := HasWords.exists_words t
  obtain ⟨parts', hparts', hsource⟩ := exists_words_lowerAfter hwords []
  obtain rfl : parts = parts' := h.unique hparts'
  obtain ⟨before, word, after, hsplit, hwhole, hown⟩ := hsource part hpart
  rw [List.append_nil] at hown
  exact ⟨before, word, after, hsplit, hwhole, hown⟩

end Text

end NoteSearch
