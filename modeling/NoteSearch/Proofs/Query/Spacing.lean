import NoteSearch.Proofs.Query.Shape

/-!
# What a query is made of

A query is its tokens in their written forms with blanks before, between and after them, and the mark
that closes the last one may be missing. A `Reading` owes the query the characters it has read of the
current piece. Every character is either passed on to that piece, or completes a written token, or is
a blank, so nothing is dropped and nothing is read twice.
-/

namespace NoteSearch

/-- The tokens in their written forms, with runs of blanks before, between and after, make up the query.
The last mark of a phrase may be missing at the very end. -/
inductive Composes : List Token → Text → Prop
  | blanks {w : Text} (hblank : ∀ c ∈ w, isBlank c) : Composes [] w
  | token {w rest : Text} (first : Token) {later : List Token} (hblank : ∀ c ∈ w, isBlank c)
      (hrest : Composes later rest) : Composes (first :: later) (w ++ first.written ++ rest)
  | unclosed {w : Text} (inside : Text) (hblank : ∀ c ∈ w, isBlank c) :
      Composes [⟨inside, true⟩] (w ++ '"' :: inside)

namespace Composes

variable {tokens : List Token} {t : Text}

theorem blanks_append {gap : Text} (hgap : ∀ c ∈ gap, isBlank c) (h : Composes tokens t) :
    Composes tokens (gap ++ t) := by
  cases h with
  | blanks hblank => exact .blanks (List.forall_mem_append.mpr ⟨hgap, hblank⟩)
  | token first hblank hrest =>
      rw [← List.append_assoc, ← List.append_assoc]
      exact .token first (List.forall_mem_append.mpr ⟨hgap, hblank⟩) hrest
  | unclosed inside hblank =>
      rw [← List.append_assoc]
      exact .unclosed inside (List.forall_mem_append.mpr ⟨hgap, hblank⟩)

theorem written_append (earlier : List Token) (h : Composes tokens t) :
    Composes (earlier ++ tokens) (earlier.flatMap Token.written ++ t) := by
  induction earlier with
  | nil => exact h
  | cons first later ih =>
      rw [List.cons_append, List.flatMap_cons, List.append_assoc]
      exact .token first (List.forall_mem_nil _) ih

theorem singleton (token : Token) : Composes [token] token.written := by
  have hend : Composes [] [] := .blanks (List.forall_mem_nil _)
  simpa using hend.written_append [token]

end Composes

namespace Reading

/-- The characters of the query that the current piece has taken. -/
def pending : Reading → Text
  | .gap => []
  | .word back => back.reverse
  | .phrase back => '"' :: back.reverse
  | .fieldValue back => back.reverse

theorem pending_append_singleton (state : Reading) (c : Char) : ∃ gap, (∀ d ∈ gap, isBlank d) ∧
    state.pending ++ [c]
      = (state.step c).1.flatMap Token.written ++ (gap ++ (state.step c).2.pending) := by
  by_cases hmark : c = '"'
  · -- a mark opens or closes a piece and is never a separator
    refine ⟨[], List.forall_mem_nil _, ?_⟩
    subst hmark
    cases state with
    | gap => simp [step, isBlank_mark, pending]
    | word back =>
        by_cases hlead : isFieldLead back.reverse
        · simp [step, isBlank_mark, hlead, pending]
        · simp [step, isBlank_mark, hlead, pending, Token.written]
    | phrase back => simp [step, pending, Token.written]
    | fieldValue back => simp [step, pending, Token.written]
  · by_cases hgap : isBlank c ∧ state.isQuoting = false
    · refine ⟨[c], List.forall_mem_singleton.mpr hgap.1, ?_⟩
      cases state with
      | gap => simp [step, hgap.1, pending]
      | word back => simp [step, hgap.1, pending, Token.written]
      | phrase back => cases hgap.2
      | fieldValue back => cases hgap.2
    · refine ⟨[], List.forall_mem_nil _, ?_⟩
      cases state with
      | gap =>
          have hblank : isBlank c = false := by simpa [isQuoting] using hgap
          simp [step, hblank, hmark, pending]
      | word back =>
          have hblank : isBlank c = false := by simpa [isQuoting] using hgap
          simp [step, hblank, hmark, pending]
      | phrase back => simp [step, hmark, pending]
      | fieldValue back => simp [step, hmark, pending]

theorem composes_finish (state : Reading) : Composes state.finish state.pending := by
  cases state with
  | gap => exact .blanks (List.forall_mem_nil _)
  | word back => exact .singleton ⟨back.reverse, false⟩
  | phrase back => exact .unclosed back.reverse (List.forall_mem_nil _)
  | fieldValue back => exact .singleton ⟨back.reverse, false⟩

theorem composes_tokens (state : Reading) (t : Text) : Composes (state.tokens t) (state.pending ++ t) := by
  induction t generalizing state with
  | nil =>
      rw [List.append_nil]
      exact state.composes_finish
  | cons c rest ih =>
      obtain ⟨gap, hgap, hread⟩ := state.pending_append_singleton c
      have hlater := (ih (state.step c).2).blanks_append hgap
      have hall := hlater.written_append (state.step c).1
      rwa [← List.append_assoc gap, ← List.append_assoc, ← hread, List.append_assoc,
        List.singleton_append] at hall

end Reading

namespace Token.Shaped

variable {token : Token}

theorem notMem_mark (h : token.Shaped) (hquoted : token.quoted) : '"' ∉ token.text := by
  cases h with
  | phrase hinside => exact hinside
  | word hplain => cases hquoted
  | quotedField hname hvalue hmark => cases hquoted

/-- An unquoted token starts with a word without blanks and marks. -/
theorem exists_isPlainWord (h : token.Shaped) (hbare : token.quoted = false) :
    ∃ w rest, IsPlainWord w ∧ token.text = w ++ rest := by
  cases h with
  | phrase hinside => cases hbare
  | @word w hplain => exact ⟨w, [], hplain, (List.append_nil w).symm⟩
  | @quotedField name value mark hname hvalue hmark =>
      exact ⟨name, ':' :: '"' :: value ++ mark, isPlainWord_of_isFieldName hname, by simp⟩

theorem exists_cons (h : token.Shaped) (hbare : token.quoted = false) :
    ∃ c rest, token.text = c :: rest ∧ isBlank c = false ∧ c ≠ '"' := by
  obtain ⟨w, after, hplain, htext⟩ := h.exists_isPlainWord hbare
  obtain ⟨c, v, rfl⟩ := List.exists_cons_of_ne_nil hplain.ne_nil
  have hblank := hplain.notBlank c List.mem_cons_self
  have hmark : c ≠ '"' := fun hc => hplain.notMark (hc ▸ List.mem_cons_self)
  exact ⟨c, v ++ after, htext, hblank, hmark⟩

theorem exists_quotedField (h : token.Shaped) (hbare : token.quoted = false)
    (hmixed : ∃ c ∈ token.text, isBlank c ∨ c = '"') :
    ∃ name value mark, (name ≠ [] ∧ ∀ c ∈ name, isWord c) ∧ '"' ∉ value ∧
      (mark = [] ∨ mark = ['"']) ∧ token.text = name ++ ':' :: '"' :: value ++ mark := by
  cases h with
  | phrase hinside => cases hbare
  | word hplain =>
      obtain ⟨c, hc, hblank | rfl⟩ := hmixed
      · exact absurd hblank (by simp [hplain.notBlank c hc])
      · exact absurd hc hplain.notMark
  | @quotedField name value mark hname hvalue hmark =>
      exact ⟨name, value, mark, isFieldName_iff.mp hname, hvalue, hmark, rfl⟩

end Token.Shaped

/-- A query loses nothing but the blanks between its tokens and the mark that was never closed, and
blanks and marks inside an unquoted token are those of a quoted field value. -/
theorem composes_tokenize (raw : Text) : Composes (tokenize raw) raw ∧ ∀ token ∈ tokenize raw,
    (token.quoted = true → '"' ∉ token.text) ∧
    (token.quoted = false →
      (∃ c rest, token.text = c :: rest ∧ isBlank c = false ∧ c ≠ '"') ∧
      ((∃ c ∈ token.text, isBlank c ∨ c = '"') →
        ∃ name value mark, (name ≠ [] ∧ ∀ c ∈ name, isWord c) ∧ '"' ∉ value ∧
          (mark = [] ∨ mark = ['"']) ∧ token.text = name ++ ':' :: '"' :: value ++ mark)) := by
  refine ⟨Reading.gap.composes_tokens raw, fun token htoken => ?_⟩
  have hshaped := shaped_of_mem_tokenize htoken
  exact ⟨hshaped.notMem_mark,
    fun hbare => ⟨hshaped.exists_cons hbare, hshaped.exists_quotedField hbare⟩⟩

def touchingQuery : Text := " see\"the end\"tag:\"to do\"x\t\"and so ".toList

theorem composes_tokenize_touching :
    tokenize touchingQuery
        = [⟨"see".toList, false⟩, ⟨"the end".toList, true⟩, ⟨"tag:\"to do\"".toList, false⟩,
            ⟨"x".toList, false⟩, ⟨"and so ".toList, true⟩] ∧
      Composes (tokenize touchingQuery) touchingQuery ∧
      ∃ name value mark, (name ≠ [] ∧ ∀ c ∈ name, isWord c) ∧ '"' ∉ value ∧
        (mark = [] ∨ mark = ['"']) ∧ "tag:\"to do\"".toList = name ++ ':' :: '"' :: value ++ mark := by
  have htokens : tokenize touchingQuery
      = [⟨"see".toList, false⟩, ⟨"the end".toList, true⟩, ⟨"tag:\"to do\"".toList, false⟩,
          ⟨"x".toList, false⟩, ⟨"and so ".toList, true⟩] := by decide
  obtain ⟨hcomposes, hshape⟩ := composes_tokenize touchingQuery
  have hmem : ⟨"tag:\"to do\"".toList, false⟩ ∈ tokenize touchingQuery := by
    rw [htokens]
    decide
  have hfield := (hshape _ hmem).2 rfl
  exact ⟨htokens, hcomposes, hfield.2 ⟨' ', by decide, .inl (by decide)⟩⟩

end NoteSearch
