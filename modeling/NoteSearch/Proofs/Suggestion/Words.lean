import NoteSearch.Pattern.Reader
import NoteSearch.Proofs.Pattern.Repetition
import NoteSearch.Proofs.Text.Words
import NoteSearch.Suggestion.Completion

/-!
# What the pattern of a word finds

The pattern asks for a boundary on either side and repeats greedily in between, so it reads whole words
only: it fails inside of a word and between words, and where a word begins it reads all of it or, if the
word is too short, nothing. A scan for it therefore lists the words of a text that are long enough.
-/

namespace NoteSearch

namespace Completion

/-- The pattern as it is written. -/
example [Pattern.Dialect] : Pattern.ofText "\\b\\w\x7b3,\x7d\\b".toList = .ok wordPattern := by rfl

theorem has_wordSet :
    (CharSet.set [.category .word false] false).has { caseSensitive := true } = isWord := by
  funext c
  simp [CharSet.has, SetItem.has, Category.has, Mode.fold]

section

variable {before w after : Text}

theorem atBoundary_iff {rest : Text} : (Place.between before rest).atBoundary false
    ↔ before.getLast?.any isWord ≠ rest.head?.any isWord := by
  rw [← List.head?_reverse]
  exact bne_iff_ne

theorem any_isWord_getLast? (hsome : w ≠ []) (hw : ∀ c ∈ w, isWord c) :
    (before ++ w).getLast?.any isWord = true := by
  rw [List.getLast?_append_of_ne_nil before hsome, List.getLast?_eq_some_getLast hsome]
  exact hw _ (List.getLast_mem hsome)

theorem any_isWord_head? (hsome : w ≠ []) (hw : ∀ c ∈ w, isWord c) :
    (w ++ after).head?.any isWord = true := by
  obtain ⟨c, rest, rfl⟩ := List.exists_cons_of_ne_nil hsome
  exact hw c List.mem_cons_self

/-! ### At a place -/

/-- What the pattern does where a run of word characters stands that is too short or not a word. -/
theorem lengthAt?_of_lt (hw : ∀ c ∈ w, isWord c) (hafter : after.head?.any isWord = false)
    (hshort : w.length < minWordLength) :
    wordLengthAt? (.between before (w ++ after)) = none := by
  rw [← has_wordSet] at hw hafter
  rw [wordLengthAt?, Pattern.lengthAt?, Option.map_eq_none_iff]
  by_cases hplace : (Place.between before (w ++ after)).atBoundary false
  · exact (if_pos hplace).trans (Pattern.run_many_of_lt hw hafter hshort)
  · exact if_neg hplace

/-- Between words the pattern fails. -/
theorem lengthAt?_of_between {c : Char} (hc : isWord c = false) :
    wordLengthAt? (.between before (c :: after)) = none := by
  have hhead : (c :: after).head?.any isWord = false := hc
  have hempty : ∀ d ∈ ([] : Text), isWord d := by simp
  have hnone : wordLengthAt? (.between before ([] ++ c :: after)) = none :=
    lengthAt?_of_lt hempty hhead (by decide)
  exact hnone

/-- Inside of a word the pattern fails. -/
theorem lengthAt?_of_inside (hbefore : before.getLast?.any isWord = true)
    (hafter : after.head?.any isWord = true) :
    wordLengthAt? (.between before after) = none := by
  have hplace : ¬(Place.between before after).atBoundary false := by
    rw [atBoundary_iff, hbefore, hafter]
    exact fun h => h rfl
  rw [wordLengthAt?, Pattern.lengthAt?, Option.map_eq_none_iff]
  exact if_neg hplace

/-- Where a long enough word begins the pattern reads all of it. -/
theorem lengthAt?_of_wholeWord (h : WholeWord before w after) (hlong : minWordLength ≤ w.length) :
    wordLengthAt? (.between before (w ++ after)) = some w.length := by
  have hbegin : (Place.between before (w ++ after)).atBoundary false := by
    rw [atBoundary_iff, h.starts, any_isWord_head? h.ne_nil h.isWord]
    exact Bool.false_ne_true
  have hend : (Place.between (before ++ w) after).atBoundary false := by
    rw [atBoundary_iff, h.ends, any_isWord_getLast? h.ne_nil h.isWord]
    exact Bool.false_ne_true.symm
  have hw := h.isWord
  have hafter := h.ends
  rw [← has_wordSet] at hw hafter
  have hmoved : (before ++ w).length ≠ before.length := by
    have := List.length_pos_iff.mpr h.ne_nil
    rw [List.length_append]
    omega
  let accept : Pattern.Next := fun s => if s.place.offset = before.length then none else some s
  have hlast : Pattern.run { caseSensitive := true } (.ofList [.anchor .boundary]) accept
      ⟨.between (before ++ w) after, []⟩ = some ⟨.between (before ++ w) after, []⟩ :=
    (if_pos hend).trans (if_neg hmoved)
  have hmany := Pattern.run_many_of_le hw hafter hlong (Option.isSome_of_eq_some hlast)
  have hrun : Pattern.run { caseSensitive := true } wordPattern accept ⟨.between before (w ++ after), []⟩
      = some ⟨.between (before ++ w) after, []⟩ :=
    (if_pos hbegin).trans (hmany.trans hlast)
  have hlength : (before ++ w).length - before.length = w.length := by
    rw [List.length_append, Nat.add_sub_cancel_left]
  show (Pattern.run { caseSensitive := true } wordPattern accept ⟨.between before (w ++ after), []⟩).map _ = _
  rw [hrun, Option.map_some]
  exact congrArg some hlength

end

/-! ### Through a text -/

/-- A scan for words after `before`. -/
def scanAfter (before : Text) (skip : Nat) (rest : Text) : List Text :=
  (scanFrom wordLengthAt? before.length before.reverse skip rest).map Found.text

theorem scanAfter_succ (before : Text) (skip : Nat) (c : Char) (rest : Text) :
    scanAfter before (skip + 1) (c :: rest) = scanAfter (before ++ [c]) skip rest := by
  simp only [scanAfter, scanFrom, List.length_append, List.length_singleton, List.reverse_concat]

theorem scanAfter_of_eq_none {before : Text} {c : Char} {rest : Text}
    (h : wordLengthAt? (.between before (c :: rest)) = none) :
    scanAfter before 0 (c :: rest) = scanAfter (before ++ [c]) 0 rest := by
  have h : wordLengthAt? ⟨before.length, before.reverse, c :: rest⟩ = none := h
  simp only [scanAfter, scanFrom, h, List.length_append, List.length_singleton, List.reverse_concat]

theorem scanAfter_length (before taken rest : Text) :
    scanAfter before taken.length (taken ++ rest) = scanAfter (before ++ taken) 0 rest := by
  induction taken generalizing before with
  | nil => rw [List.append_nil, List.nil_append, List.length_nil]
  | cons c taken ih =>
      rw [List.length_cons, List.cons_append, scanAfter_succ, ih, List.append_assoc,
        List.singleton_append]

theorem scanAfter_wholeWord {before w after : Text} (h : WholeWord before w after)
    (hlong : minWordLength ≤ w.length) :
    scanAfter before 0 (w ++ after) = w :: scanAfter (before ++ w) 0 after := by
  obtain ⟨c, rest, rfl⟩ := List.exists_cons_of_ne_nil h.ne_nil
  have hlength : wordLengthAt? ⟨before.length, before.reverse, c :: (rest ++ after)⟩
      = some (rest.length + 1) := lengthAt?_of_wholeWord h hlong
  have hlater : (scanFrom wordLengthAt? (before.length + 1) (c :: before.reverse) rest.length
      (rest ++ after)).map Found.text = scanAfter (before ++ [c]) rest.length (rest ++ after) := by
    rw [scanAfter, List.length_append, List.length_singleton, List.reverse_concat]
  rw [List.cons_append, scanAfter, scanFrom]
  simp only [hlength, List.map_cons, List.take_left, hlater]
  rw [scanAfter_length, List.append_assoc, List.singleton_append]

/-- Inside of a word nothing is found. -/
theorem scanAfter_inside {before rest after : Text} (hbefore : before.getLast?.any isWord = true)
    (hrest : ∀ c ∈ rest, isWord c) :
    scanAfter before 0 (rest ++ after) = scanAfter (before ++ rest) 0 after := by
  induction rest generalizing before with
  | nil => rw [List.append_nil, List.nil_append]
  | cons c rest ih =>
      obtain ⟨hc, hrest⟩ := List.forall_mem_cons.mp hrest
      have hhead : (c :: (rest ++ after)).head?.any isWord = true := hc
      have hnone := lengthAt?_of_inside hbefore hhead
      rw [List.cons_append, scanAfter_of_eq_none hnone, ih (by simpa using hc) hrest,
        List.append_assoc, List.singleton_append]

theorem scanAfter_shortWord {before w after : Text} (h : WholeWord before w after)
    (hshort : w.length < minWordLength) :
    scanAfter before 0 (w ++ after) = scanAfter (before ++ w) 0 after := by
  have hnone : wordLengthAt? (.between before (w ++ after)) = none :=
    lengthAt?_of_lt h.isWord h.ends hshort
  have hword := h.isWord
  obtain ⟨c, rest, rfl⟩ := List.exists_cons_of_ne_nil h.ne_nil
  obtain ⟨hc, hrest⟩ := List.forall_mem_cons.mp hword
  rw [List.cons_append] at hnone ⊢
  rw [scanAfter_of_eq_none hnone, scanAfter_inside (by simpa using hc) hrest, List.append_assoc,
    List.singleton_append]

theorem scanAfter_eq_filter {rest : Text} {words : List Text} (h : HasWords rest words)
    {before : Text} (hplace : before.getLast?.any isWord = false ∨ rest.head?.any isWord = false) :
    scanAfter before 0 rest = words.filter fun w => decide (minWordLength ≤ w.length) := by
  induction h generalizing before with
  | nothing => rfl
  | @between c rest words hc _ ih =>
      rw [scanAfter_of_eq_none (lengthAt?_of_between hc)]
      exact ih (.inl (by simpa using hc))
  | @word w rest words hsome hw hend _ ih =>
      have hstarts : before.getLast?.any isWord = false := by
        rcases hplace with hbefore | hhead
        · exact hbefore
        · rw [any_isWord_head? hsome hw] at hhead
          exact absurd hhead (by simp)
      have hwhole : WholeWord before w rest := ⟨hsome, hw, hstarts, hend⟩
      by_cases hlong : minWordLength ≤ w.length
      · rw [scanAfter_wholeWord hwhole hlong, ih (.inr hend), List.filter_cons_of_pos (by simpa)]
      · rw [scanAfter_shortWord hwhole (by omega), ih (.inr hend), List.filter_cons_of_neg (by simpa using hlong)]

end Completion

/-- A note offers the words of its text that are long enough. -/
theorem Note.words_eq {note : Note} {words : List Text} (h : HasWords note.haystack words) :
    note.words = words.filter fun w => decide (Completion.minWordLength ≤ w.length) := by
  have hscan : note.words = Completion.scanAfter [] 0 note.haystack := rfl
  have hplace : ([] : Text).getLast?.any isWord = false := rfl
  rw [hscan, Completion.scanAfter_eq_filter h (.inl hplace)]

end NoteSearch
