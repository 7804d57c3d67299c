import Mathlib.Data.List.TakeWhile
import NoteSearch.Character.Word
import NoteSearch.Text.Basic

/-!
# The words of a text

A word is a run of word characters that neither of its neighbours continues. A text consists of its
words and of what stands between them, so reading it from left to right meets each of its words once.
-/

namespace NoteSearch

/-- A word where it stands in a text. -/
structure WholeWord (before word after : Text) : Prop where
  ne_nil : word ≠ []
  isWord : ∀ c ∈ word, isWord c
  starts : before.getLast?.any NoteSearch.isWord = false
  ends : after.head?.any NoteSearch.isWord = false

/-- The words of a text in their order. -/
inductive HasWords : Text → List Text → Prop
  | nothing : HasWords [] []
  | between {c : Char} {rest : Text} {words : List Text} (hc : isWord c = false)
      (hrest : HasWords rest words) : HasWords (c :: rest) words
  | word {w rest : Text} {words : List Text} (hsome : w ≠ []) (hw : ∀ c ∈ w, isWord c)
      (hend : rest.head?.any isWord = false) (hrest : HasWords rest words) :
      HasWords (w ++ rest) (w :: words)

theorem takeWhile_isWord_append {w rest : Text} (hw : ∀ c ∈ w, isWord c)
    (hend : rest.head?.any isWord = false) : (w ++ rest).takeWhile isWord = w := by
  have hrest : rest.takeWhile isWord = [] := by
    cases rest with
    | nil => rfl
    | cons c rest => exact List.takeWhile_cons_of_neg (by simpa using hend)
  rw [List.takeWhile_append_of_pos hw, hrest, List.append_nil]

theorem notWord_getLast?_append {front before : Text} (hfront : front.getLast?.any isWord = false)
    (hbefore : before.getLast?.any isWord = false) : (front ++ before).getLast?.any isWord = false := by
  rw [List.getLast?_append]
  cases hlast : before.getLast? with
  | none => exact hfront
  | some c => rwa [hlast] at hbefore

theorem notWord_getLast?_of_append {front before : Text}
    (h : (front ++ before).getLast?.any isWord = false) : before.getLast?.any isWord = false := by
  rw [List.getLast?_append] at h
  cases hlast : before.getLast? with
  | none => rfl
  | some c => rwa [hlast] at h

/-- A word stays whole behind more text if no word reaches from there into its own text. -/
theorem WholeWord.prepend {front before word after : Text} (h : WholeWord before word after)
    (hapart : front.getLast?.any NoteSearch.isWord = false ∨
      (before ++ word ++ after).head?.any NoteSearch.isWord = false) :
    WholeWord (front ++ before) word after := by
  refine ⟨h.ne_nil, h.isWord, ?_, h.ends⟩
  rcases hapart with hfront | hhead
  · exact notWord_getLast?_append hfront h.starts
  · cases before with
    | nil =>
        -- the text would begin with the word
        obtain ⟨c, others, rfl⟩ := List.exists_cons_of_ne_nil h.ne_nil
        exact absurd (h.isWord c List.mem_cons_self) (by simpa using hhead)
    | cons c before =>
        have hlast : (front ++ c :: before).getLast? = (c :: before).getLast? := by
          rw [List.getLast?_append, List.getLast?_cons, Option.some_or]
        rw [hlast]
        exact h.starts

namespace HasWords

theorem of_isWord {w : Text} (hsome : w ≠ []) (hw : ∀ c ∈ w, isWord c) : HasWords w [w] := by
  have hword := HasWords.word hsome hw rfl .nothing
  rwa [List.append_nil] at hword

theorem exists_words (t : Text) : ∃ words, HasWords t words := by
  induction t with
  | nil => exact ⟨[], .nothing⟩
  | cons c rest ih =>
      obtain ⟨words, hrest⟩ := ih
      cases hc : isWord c with
      | false => exact ⟨words, .between hc hrest⟩
      | true =>
          have hsingle : ∀ d ∈ [c], isWord d := by simpa using hc
          cases hrest with
          | nothing => exact ⟨[[c]], .of_isWord (List.cons_ne_nil c []) hsingle⟩
          | between hd hlater =>
              exact ⟨[c] :: words, .word (by simp) hsingle (by simpa using hd) (.between hd hlater)⟩
          | @word w rest later hsome hw hend hlater =>
              refine ⟨(c :: w) :: later, ?_⟩
              rw [← List.cons_append]
              exact .word (by simp) (List.forall_mem_cons.mpr ⟨hc, hw⟩) hend hlater

/-- A text has its words in one way only. -/
theorem unique {t : Text} {words others : List Text} (h : HasWords t words)
    (hother : HasWords t others) : words = others := by
  induction h generalizing others with
  | nothing =>
      generalize hnil : ([] : Text) = t at hother
      cases hother with
      | nothing => rfl
      | between => contradiction
      | word hsome => exact absurd hnil (by simp [hsome])
  | @between c rest words hc _ ih =>
      generalize hsplit : c :: rest = t at hother
      cases hother with
      | nothing => contradiction
      | between _ hlater =>
          obtain ⟨rfl, rfl⟩ := List.cons.inj hsplit
          exact ih hlater
      | word hsome hw =>
          obtain ⟨d, others, rfl⟩ := List.exists_cons_of_ne_nil hsome
          obtain ⟨rfl, -⟩ := List.cons.inj hsplit
          exact absurd (hw c List.mem_cons_self) (by simp [hc])
  | @word w rest words hsome hw hend _ ih =>
      generalize hsplit : w ++ rest = t at hother
      cases hother with
      | nothing => exact absurd hsplit (by simp [hsome])
      | between hc =>
          obtain ⟨d, others, rfl⟩ := List.exists_cons_of_ne_nil hsome
          obtain ⟨rfl, -⟩ := List.cons.inj hsplit
          exact absurd (hw d List.mem_cons_self) (by simp [hc])
      | word _ hw' hend' hlater =>
          -- both words are what can be read of word characters
          have hsame := congrArg (List.takeWhile isWord) hsplit
          rw [takeWhile_isWord_append hw hend, takeWhile_isWord_append hw' hend'] at hsame
          rw [hsame, List.append_cancel_left_eq] at hsplit
          subst hsplit
          rw [hsame, ih hlater]

theorem append {u v : Text} {words more : List Text} (hu : HasWords u words) (hv : HasWords v more)
    (hapart : v.head?.any isWord = false) : HasWords (u ++ v) (words ++ more) := by
  induction hu with
  | nothing => exact hv
  | between hc _ ih => exact .between hc ih
  | @word w rest words hsome hw hend _ ih =>
      have hend : (rest ++ v).head?.any isWord = false := by
        cases rest with
        | nil => exact hapart
        | cons c rest => exact hend
      rw [List.append_assoc]
      exact .word hsome hw hend ih

theorem exists_of_mem {t : Text} {words : List Text} (h : HasWords t words) {w : Text}
    (hw : w ∈ words) : ∃ before after, t = before ++ w ++ after ∧ WholeWord before w after := by
  induction h with
  | nothing => exact absurd hw List.not_mem_nil
  | @between c rest words hc _ ih =>
      obtain ⟨before, after, rfl, hwhole⟩ := ih hw
      have hapart : ([c] : Text).getLast?.any isWord = false := hc
      exact ⟨[c] ++ before, after, rfl, hwhole.prepend (.inl hapart)⟩
  | @word first rest words hsome hfirst hend _ ih =>
      rcases List.mem_cons.mp hw with rfl | hw
      · exact ⟨[], rest, rfl, hsome, hfirst, rfl, hend⟩
      · obtain ⟨before, after, rfl, hwhole⟩ := ih hw
        exact ⟨first ++ before, after, by simp only [List.append_assoc], hwhole.prepend (.inr hend)⟩

theorem mem_of_wholeWord {t : Text} {words : List Text} (h : HasWords t words)
    {before w after : Text} (hsplit : t = before ++ w ++ after) (hwhole : WholeWord before w after) :
    w ∈ words := by
  induction h generalizing before with
  | nothing => exact absurd hsplit (by simp [hwhole.ne_nil])
  | @between c rest words hc _ ih =>
      cases before with
      | nil =>
          obtain ⟨d, others, rfl⟩ := List.exists_cons_of_ne_nil hwhole.ne_nil
          obtain ⟨rfl, -⟩ := List.cons.inj hsplit
          exact absurd (hwhole.isWord c List.mem_cons_self) (by simp [hc])
      | cons d before =>
          obtain ⟨-, hrest⟩ := List.cons.inj hsplit
          have hall : ([d] ++ before).getLast?.any isWord = false := hwhole.starts
          have hstarts := notWord_getLast?_of_append hall
          exact ih hrest ⟨hwhole.ne_nil, hwhole.isWord, hstarts, hwhole.ends⟩
  | @word first rest words hsome hfirst hend _ ih =>
      rcases List.eq_nil_or_concat before with rfl | ⟨front, last, rfl⟩
      · have hsame := takeWhile_isWord_append hwhole.isWord hwhole.ends
        rw [List.nil_append] at hsplit
        rw [← hsplit, takeWhile_isWord_append hfirst hend] at hsame
        rw [hsame]
        exact List.mem_cons_self
      · rw [List.append_assoc] at hsplit
        rcases List.append_eq_append_iff.mp hsplit with ⟨front', hbefore, hrest⟩ | ⟨left, hinside, -⟩
        · have hstarts := hwhole.starts
          rw [hbefore] at hstarts
          rw [← List.append_assoc] at hrest
          have hlater := ih hrest
            ⟨hwhole.ne_nil, hwhole.isWord, notWord_getLast?_of_append hstarts, hwhole.ends⟩
          exact List.mem_cons_of_mem _ hlater
        · -- what stands before the word ends inside of another one
          have hlast : isWord last := hfirst last (by simp [hinside])
          exact absurd hwhole.starts (by simp [hlast])

end HasWords

end NoteSearch
