import Mathlib.Data.List.Forall2
import NoteSearch.Proofs.FirstSeen
import NoteSearch.Proofs.Suggestion.Words

/-!
# What a prefix is completed to

The search stops inside of a note as soon as it has enough words. It finds what the full list of the
words of all notes would give: its distinct words that go on from what was typed, cut at the limit. So a
larger limit only adds to the end, and it does not matter how the words are divided among the notes.
-/

namespace NoteSearch

theorem foldlM_flatMap {m : Type → Type} [Monad m] [LawfulMonad m] {α β γ : Type} (items : List α)
    (f : α → List β) (g : γ → β → m γ) (start : γ) :
    (items.flatMap f).foldlM g start
      = items.foldlM (fun state item => (f item).foldlM g state) start := by
  induction items generalizing start with
  | nil => rfl
  | cons item items ih =>
      rw [List.flatMap_cons, List.foldlM_append, List.foldlM_cons]
      congr 1
      funext state
      exact ih state

namespace Completion

variable {typed : Text} {limit : Int}

/-- The distinct words among some words that go on from what was typed. -/
def candidates (typed : Text) (words : List Text) : List Text :=
  (words.filter (goesOn typed)).eraseDups

theorem takeUp_of_pos {found : List Text} {word : Text}
    (h : goesOn typed word && !found.contains word) :
    takeUp typed limit found word
      = if limit ≤ (found ++ [word]).length then .error (found ++ [word]) else .ok (found ++ [word]) :=
  if_pos h

theorem takeUp_of_neg {found : List Text} {word : Text}
    (h : ¬(goesOn typed word && !found.contains word)) : takeUp typed limit found word = .ok found :=
  if_neg h

theorem candidates_concat_of_pos {words : List Text} {word : Text}
    (h : goesOn typed word && !(candidates typed words).contains word) :
    candidates typed (words ++ [word]) = candidates typed words ++ [word] := by
  obtain ⟨hgoes, hnew⟩ := Bool.and_eq_true_iff.mp h
  have hnew : word ∉ candidates typed words := by simpa using hnew
  rw [candidates, List.filter_append, List.filter_cons_of_pos hgoes, List.filter_nil,
    eraseDups_concat]
  exact if_neg hnew

theorem candidates_concat_of_neg {words : List Text} {word : Text}
    (h : ¬(goesOn typed word && !(candidates typed words).contains word)) :
    candidates typed (words ++ [word]) = candidates typed words := by
  rw [candidates, List.filter_append]
  by_cases hgoes : goesOn typed word
  · have hseen : word ∈ candidates typed words := by simpa [hgoes] using h
    rw [List.filter_cons_of_pos hgoes, List.filter_nil, eraseDups_concat]
    exact if_pos hseen
  · rw [List.filter_cons_of_neg hgoes, List.filter_nil, List.append_nil]
    rfl

theorem candidates_prefix_append (words more : List Text) :
    candidates typed words <+: candidates typed (words ++ more) := by
  rw [candidates, candidates, List.filter_append, List.eraseDups_append]
  exact List.prefix_append _ _

/-- A search that has gone through some words and goes through the rest stops as soon as it has enough
words, and these are the first of all candidates. -/
theorem foldlM_takeUp (rest : List Text) {words : List Text}
    (hopen : ((candidates typed words).length : Int) < limit) :
    rest.foldlM (takeUp typed limit) (candidates typed words)
      = if ((candidates typed (words ++ rest)).length : Int) < limit then
          .ok (candidates typed (words ++ rest))
        else .error ((candidates typed (words ++ rest)).take limit.toNat) := by
  induction rest generalizing words with
  | nil =>
      rw [List.append_nil, if_pos hopen]
      rfl
  | cons word rest ih =>
      rw [List.foldlM_cons, List.append_cons words word rest]
      by_cases hnew : goesOn typed word && !(candidates typed words).contains word
      · have hgrown := candidates_concat_of_pos hnew
        rw [takeUp_of_pos hnew, ← hgrown]
        by_cases hfull : limit ≤ (candidates typed (words ++ [word])).length
        · -- the word that fills the list is the last one before the cut
          have hlength : (candidates typed (words ++ [word])).length = limit.toNat := by
            rw [hgrown, List.length_append, List.length_singleton] at hfull ⊢
            omega
          have hstart : candidates typed (words ++ [word]) <+: candidates typed (words ++ [word] ++ rest) :=
            candidates_prefix_append _ _
          have hcut : ¬((candidates typed (words ++ [word] ++ rest)).length : Int) < limit := by
            have := hstart.length_le
            omega
          rw [if_pos hfull, if_neg hcut, ← hlength, ← List.prefix_iff_eq_take.mp hstart]
          rfl
        · rw [if_neg hfull]
          exact ih (by omega)
      · rw [takeUp_of_neg hnew, ← candidates_concat_of_neg hnew]
        exact ih (by rwa [candidates_concat_of_neg hnew])

theorem search_eq_take (notes : List Note) (hlimit : 0 < limit) :
    search typed notes limit = (candidates typed (notes.flatMap Note.words)).take limit.toNat := by
  have hopen : ((candidates typed []).length : Int) < limit := hlimit
  have hfold := foldlM_takeUp (notes.flatMap Note.words) hopen
  rw [foldlM_flatMap, List.nil_append] at hfold
  have hnone : candidates typed [] = [] := rfl
  rw [search, ← hnone, hfold]
  by_cases hall : ((candidates typed (notes.flatMap Note.words)).length : Int) < limit
  · have hwhole : (candidates typed (notes.flatMap Note.words)).length ≤ limit.toNat := by omega
    simp only [if_pos hall, List.take_of_length_le hwhole]
  · simp only [if_neg hall]

end Completion

theorem exists_words_of_notes (notes : List Note) : ∃ words : List (List Text),
    List.Forall₂ (fun note words => HasWords note.haystack words) notes words := by
  induction notes with
  | nil => exact ⟨[], .nil⟩
  | cons note notes ih =>
      obtain ⟨words, hwords⟩ := HasWords.exists_words note.haystack
      obtain ⟨later, hlater⟩ := ih
      exact ⟨words :: later, .cons hwords hlater⟩

theorem flatMap_words_eq {notes : List Note} {words : List (List Text)}
    (h : List.Forall₂ (fun note words => HasWords note.haystack words) notes words) :
    notes.flatMap Note.words
      = words.flatten.filter fun word => decide (Completion.minWordLength ≤ word.length) := by
  induction h with
  | nil => rfl
  | cons hnote _ ih =>
      rw [List.flatMap_cons, List.flatten_cons, List.filter_append, Note.words_eq hnote, ih]

theorem suggestCompletions_of_le {given : Text}
    (hgiven : Completion.minPrefixLength ≤ given.strip.lower.length) (notes : List Note) {limit : Int}
    (hlimit : 0 < limit) :
    suggestCompletions given notes limit
      = (Completion.search given.strip.lower notes limit).map fun word =>
        ⟨word, given.strip.lower⟩ := by
  have hasked : ¬(given.strip.lower.length < Completion.minPrefixLength ∨ limit ≤ 0) := by omega
  exact if_neg hasked

/-- A prefix of at least two characters is completed to the distinct words of the notes, of those that
have three characters or more, that begin with it and are not it, in the order in which they are first
seen and up to the limit. A larger limit only adds words at the end. -/
theorem suggestCompletions_eq_take {given : Text} (hgiven : 2 ≤ given.strip.lower.length)
    (notes : List Note) {limit : Int} (hlimit : 1 ≤ limit) :
    ∃ words : List (List Text),
      List.Forall₂ (fun note words =>
        HasWords (Text.lower (note.nickname.getD [] ++ ' ' :: note.content)) words) notes words ∧
      let typed := given.strip.lower
      let long := words.flatten.filter fun word => decide (3 ≤ word.length)
      let wanted := long.eraseDups.filter fun word => typed.isPrefixOf word && word != typed
      suggestCompletions given notes limit
          = (wanted.take limit.toNat).map (fun word => ⟨word, typed⟩) ∧
        ∀ larger, limit ≤ larger →
          suggestCompletions given notes limit <+: suggestCompletions given notes larger := by
  obtain ⟨words, hwords⟩ := exists_words_of_notes notes
  refine ⟨words, hwords, ?_⟩
  intro typed long wanted
  have hwanted : Completion.candidates typed (notes.flatMap Note.words) = wanted := by
    rw [Completion.candidates, flatMap_words_eq hwords, ← filter_eraseDups]
    apply List.filter_congr
    intro word _
    rw [Completion.goesOn, Bool.and_comm]
  have hfound : ∀ most : Int, 1 ≤ most → suggestCompletions given notes most
      = (wanted.take most.toNat).map (fun word => ⟨word, typed⟩) := by
    intro most hmost
    rw [suggestCompletions_of_le hgiven notes hmost, Completion.search_eq_take notes hmost, hwanted]
  refine ⟨hfound limit hlimit, ?_⟩
  intro larger hlarger
  rw [hfound limit hlimit, hfound larger (Int.le_trans hlimit hlarger)]
  exact (List.take_prefix_take_left (Int.toNat_le_toNat hlarger)).map _

/-- Notes that share words, among them one that is typed and one that is too short. -/
def sharedWordNotes : List Note :=
  [{ id := .number 1, nickname := some "App_1 app".toList, content := "ap APPLE app_1-apples".toList },
    { id := .number 2, content := "app.* apples/applî Apple2".toList }]

def typedInCapitals : Text := " APP\t".toList

theorem suggestCompletions_eq_take_shared :
    2 ≤ typedInCapitals.strip.lower.length ∧ (1 : Int) ≤ 4 ∧
      (∃ words : List (List Text),
        List.Forall₂ (fun note words =>
          HasWords (Text.lower (note.nickname.getD [] ++ ' ' :: note.content)) words)
          sharedWordNotes words ∧
        let typed := typedInCapitals.strip.lower
        let long := words.flatten.filter fun word => decide (3 ≤ word.length)
        let wanted := long.eraseDups.filter fun word => typed.isPrefixOf word && word != typed
        suggestCompletions typedInCapitals sharedWordNotes 4
            = (wanted.take (4 : Int).toNat).map (fun word => ⟨word, typed⟩) ∧
          ∀ larger, 4 ≤ larger →
            suggestCompletions typedInCapitals sharedWordNotes 4
              <+: suggestCompletions typedInCapitals sharedWordNotes larger) ∧
      (suggestCompletions typedInCapitals sharedWordNotes 4).map Completion.text
        = ["app_1".toList, "apple".toList, "apples".toList, "applî".toList] := by
  have hgiven : 2 ≤ typedInCapitals.strip.lower.length := by decide +kernel
  have hlimit : (1 : Int) ≤ 4 := by decide
  exact ⟨hgiven, hlimit, suggestCompletions_eq_take hgiven sharedWordNotes hlimit, by decide +kernel⟩

end NoteSearch
