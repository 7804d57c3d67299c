import NoteSearch.Proofs.Suggestion.Completion
import NoteSearch.Proofs.Text.Lower

/-!
# Where completions come from

The words that are offered are cut out of lower-cased text. A word of the text as it was written stands
behind each of them, but lower case may come between the two: it breaks a word at a dotted capital I, and
it writes a capital sigma as its neighbours ask for, also those outside of the word.
-/

namespace NoteSearch

/-- A note offers words of its nickname and of its content. -/
theorem Note.exists_text_of_mem_words {note : Note} {offered : Text} (h : offered ∈ note.words) :
    ∃ t, (note.nickname = some t ∨ note.content = t) ∧
      ∃ words, HasWords t.lower words ∧ offered ∈ words := by
  obtain ⟨named, hnamed⟩ := HasWords.exists_words (note.nickname.getD []).lower
  obtain ⟨written, hwritten⟩ := HasWords.exists_words note.content.lower
  have hblank : isWord ' ' = false := by decide
  have hall : HasWords note.haystack (named ++ written) := by
    rw [Note.haystack, Text.lower_append_blank]
    exact hnamed.append (.between hblank hwritten) hblank
  rw [Note.words_eq hall] at h
  rcases List.mem_append.mp (List.mem_filter.mp h).1 with hmem | hmem
  · cases hnickname : note.nickname with
    | none =>
        rw [hnickname] at hnamed
        obtain ⟨before, after, hsplit, hwhole⟩ := hnamed.exists_of_mem hmem
        exact absurd hsplit (by simp [Text.lower, Text.lowerAfter, hwhole.ne_nil])
    | some t =>
        rw [hnickname] at hnamed
        exact ⟨t, .inl rfl, named, hnamed, hmem⟩
  · exact ⟨note.content, .inr rfl, written, hwritten, hmem⟩

theorem exists_note_of_mem_suggestCompletions {given : Text} {notes : List Note} {limit : Int}
    {c : Completion} (hc : c ∈ suggestCompletions given notes limit) :
    ∃ note ∈ notes, c.text ∈ note.words := by
  rw [suggestCompletions] at hc
  split at hc
  · exact absurd hc List.not_mem_nil
  · next hasked =>
      have hlimit : 0 < limit := by omega
      obtain ⟨word, hword, rfl⟩ := List.mem_map.mp hc
      rw [Completion.search_eq_take notes hlimit] at hword
      have hcandidate := List.mem_of_mem_take hword
      rw [Completion.candidates, List.mem_eraseDups] at hcandidate
      exact List.mem_flatMap.mp (List.mem_filter.mp hcandidate).1

/-- Every completion comes from a whole word of a nickname or a content: it is a word of the lower-case
form that the word has where it stands. It is the word in lower case if the word has no dotted capital I
and is written in lower case as it is on its own, as it is when it has no capital sigma. -/
theorem exists_wholeWord_of_mem_suggestCompletions {given : Text} {notes : List Note} {limit : Int}
    {c : Completion} (hc : c ∈ suggestCompletions given notes limit) :
    ∃ note ∈ notes, ∃ t, (note.nickname = some t ∨ note.content = t) ∧
      ∃ before word after, t = before ++ word ++ after ∧ WholeWord before word after ∧
        (∃ words, HasWords (Text.lowerWithin before.reverse word after) words ∧ c.text ∈ words) ∧
        (c.text = word.lower ↔
          'İ' ∉ word ∧ Text.lowerWithin before.reverse word after = word.lower) ∧
        ('Σ' ∉ word → Text.lowerWithin before.reverse word after = word.lower) := by
  obtain ⟨note, hnote, hoffered⟩ := exists_note_of_mem_suggestCompletions hc
  obtain ⟨t, ht, parts, hparts, hpart⟩ := Note.exists_text_of_mem_words hoffered
  obtain ⟨before, word, after, hsplit, hwhole, words, hwords, hmem⟩ :=
    Text.exists_wholeWord_of_mem_lower hparts hpart
  refine ⟨note, hnote, t, ht, before, word, after, hsplit, hwhole, ⟨words, hwords, hmem⟩, ?_,
    Text.lowerWithin_eq_lower⟩
  have hsame : 'İ' ∉ word → c.text = Text.lowerWithin before.reverse word after := by
    intro hdotted
    have hone : HasWords (Text.lowerWithin before.reverse word after) [_] :=
      Text.hasWords_lowerWithin hwhole.ne_nil hwhole.isWord hdotted
    rw [hwords.unique hone] at hmem
    exact List.mem_singleton.mp hmem
  constructor
  · intro hlower
    have hdotted : 'İ' ∉ word := by
      intro hdotted
      obtain ⟨_, _, _, hpiece⟩ := hwords.exists_of_mem hmem
      have hmark := Text.mark_mem_lower hdotted
      rw [← hlower] at hmark
      exact absurd (hpiece.isWord _ hmark) (by decide +kernel)
    exact ⟨hdotted, (hsame hdotted).symm.trans hlower⟩
  · rintro ⟨hdotted, hlower⟩
    exact (hsame hdotted).trans hlower

/-- A note with the letters that lower case treats in ways of their own. -/
def specialLetterNotes : List Note :=
  [{ id := .number 1, nickname := some "ΟΔΟΣ.Α".toList, content := "İstanbul".toList }]

theorem exists_wholeWord_of_mem_suggestCompletions_broken :
    (⟨"stanbul".toList, "st".toList⟩ ∈ suggestCompletions "St".toList specialLetterNotes 5) ∧
      ∃ note ∈ specialLetterNotes, ∃ t, (note.nickname = some t ∨ note.content = t) ∧
        ∃ before word after, t = before ++ word ++ after ∧ WholeWord before word after ∧
          (∃ words, HasWords (Text.lowerWithin before.reverse word after) words ∧
            "stanbul".toList ∈ words) ∧
          ("stanbul".toList = word.lower ↔
            'İ' ∉ word ∧ Text.lowerWithin before.reverse word after = word.lower) ∧
          ('Σ' ∉ word → Text.lowerWithin before.reverse word after = word.lower) := by
  have hmem : ⟨"stanbul".toList, "st".toList⟩ ∈ suggestCompletions "St".toList specialLetterNotes 5 := by
    decide +kernel
  exact ⟨hmem, exists_wholeWord_of_mem_suggestCompletions hmem⟩

/-- A letter after the word decides how it ends in lower case. -/
example : (suggestCompletions "οδ".toList specialLetterNotes 5).map Completion.text = ["οδοσ".toList]
    ∧ Text.lower "ΟΔΟΣ".toList = "οδος".toList := by
  decide +kernel

/-- A completion need not be a word of a note in lower case. -/
theorem not_forall_completion_lower_of_wholeWord :
    ¬ ∀ (given : Text) (notes : List Note) (limit : Int),
      ∀ c ∈ suggestCompletions given notes limit,
        ∃ note ∈ notes, ∃ t, (note.nickname = some t ∨ note.content = t) ∧
          ∃ before word after, t = before ++ word ++ after ∧ WholeWord before word after ∧
            c.text = word.lower := by
  intro h
  have hmem : ⟨"stanbul".toList, "st".toList⟩
      ∈ suggestCompletions "st".toList [{ id := .number 1, content := "İstanbul".toList }] 5 := by
    decide +kernel
  obtain ⟨note, hnote, t, ht, before, word, after, hsplit, hwhole, htext⟩ := h _ _ _ _ hmem
  obtain rfl := List.mem_singleton.mp hnote
  rcases ht with hnickname | hcontent
  · exact absurd hnickname (by simp)
  · have hletters : "İstanbul".toList.all isWord = true := by decide +kernel
    have hall : HasWords t ["İstanbul".toList] := by
      rw [← hcontent]
      exact .of_isWord (by decide) (List.all_eq_true.mp hletters)
    have hword := List.mem_singleton.mp (hall.mem_of_wholeWord hsplit hwhole)
    rw [hword] at htext
    exact absurd htext (by decide +kernel)

end NoteSearch
