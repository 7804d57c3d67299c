import NoteSearch.Proofs.Query.WellFormed
import NoteSearch.Query.Printer

/-!
# Reading what was written

A well-formed query is read back from what is written of it. Each of its clauses is written as one
token, which is read as that clause again.
-/

namespace NoteSearch

namespace Clause

/-- The token as which a clause is written. -/
def token : Clause → Token
  | .term t => ⟨t, false⟩
  | .phrase t => ⟨t, true⟩
  | .operator op => ⟨op.text, false⟩
  | .field search => ⟨search.print, false⟩

theorem isPlainWord_text (op : Operator) : IsPlainWord op.text := by
  cases op <;> decide

theorem ofWord?_of_isTerm {t : Text} (h : IsTerm t) : ofWord? t = some (.term t) := by
  rw [ofWord?, Operator.ofWord?_eq_none_iff.mpr h.notOperator, h.notField,
    isQuotedField_of_isPlainWord h.toIsPlainWord, if_neg Bool.false_ne_true]

theorem shaped_token {clause : Clause} (h : clause.WellFormed) : clause.token.Shaped := by
  cases clause with
  | term t => exact .word h.toIsPlainWord
  | phrase t => exact .phrase h.notMark
  | operator op => exact .word (isPlainWord_text op)
  | field search => exact .quotedField h.name h.value.notMark (.inr rfl)

/-- What a clause is written as opens no quotation marks that it does not close. -/
theorem even_count_written {clause : Clause} (h : clause.WellFormed) :
    Even (clause.token.written.count '"') := by
  cases clause with
  | term t => simp [token, Token.written, List.count_eq_zero.mpr h.notMark]
  | phrase t =>
      have hcount : (phrase t).token.written.count '"' = 2 := by
        simp [token, Token.written, List.count_append, List.count_eq_zero.mpr h.notMark]
      rw [hcount]
      decide
  | operator op =>
      simp [token, Token.written, List.count_eq_zero.mpr (isPlainWord_text op).notMark]
  | field search =>
      have hname := List.count_eq_zero.mpr (notMem_of_isFieldName h.name isWord_mark)
      have hvalue := List.count_eq_zero.mpr h.value.notMark
      have hcount : (field search).token.written.count '"' = 2 := by
        simp [token, Token.written, FieldSearch.print, List.count_append, hname, hvalue]
      rw [hcount]
      decide

theorem ofToken?_token {clause : Clause} (h : clause.WellFormed) :
    ofToken? clause.token = some clause := by
  cases clause with
  | term t => exact ofWord?_of_isTerm h
  | phrase t =>
      have hsome : t.isEmpty = false := by simpa using h.ne_nil
      simp [token, ofToken?, ofPhrase?, h.stripped, hsome]
  | operator op => simp [token, ofToken?, ofWord?, Operator.ofWord?_text]
  | field search =>
      have hread := ofWord?_quoted h.name h.value.notMark (.inr rfl)
      rw [h.value.stripped, if_neg h.value.ne_nil] at hread
      exact hread

end Clause

namespace Query

/-- The clauses of a query, in the order in which they are written. -/
def clauses (q : Query) : List Clause :=
  q.terms.map .term ++ q.phrases.map .phrase ++ q.operators.map .operator
    ++ q.fieldSearches.map .field

theorem ofClauses_clauses (q : Query) : ofClauses q.clauses = q := by
  cases q
  simp [ofClauses, clauses, List.filterMap_append, List.filterMap_map, Function.comp_def,
    Clause.term?, Clause.phrase?, Clause.operator?, Clause.field?]

theorem parts_eq (q : Query) : q.parts = (q.clauses.map Clause.token).map Token.written := by
  simp [parts, clauses, Clause.token, Token.written, Function.comp_def]

theorem WellFormed.clauses {q : Query} (h : q.WellFormed) :
    ∀ clause ∈ q.clauses, clause.WellFormed := by
  intro clause hclause
  simp only [Query.clauses, List.mem_append, List.mem_map] at hclause
  rcases hclause with ((⟨t, ht, rfl⟩ | ⟨t, ht, rfl⟩) | ⟨op, hop, rfl⟩) | ⟨search, hsearch, rfl⟩
  · exact h.terms t ht
  · exact h.phrases t ht
  · exact h.operators op hop
  · exact h.fieldSearches search hsearch

end Query

/-- A well-formed query is read back from its written form. -/
theorem parse_print {q : Query} (hq : q.WellFormed) : Query.parse q.print = q := by
  have htokens : tokenize q.print = q.clauses.map Clause.token := by
    rw [Query.print, Query.parts_eq]
    apply tokenize_intercalate_written
    intro token htoken
    obtain ⟨clause, hclause, rfl⟩ := List.mem_map.mp htoken
    have hwell := hq.clauses clause hclause
    exact ⟨Clause.shaped_token hwell, Clause.even_count_written hwell⟩
  have hread : (q.clauses.map Clause.token).filterMap Clause.ofToken? = q.clauses := by
    rw [List.filterMap_map]
    calc q.clauses.filterMap (Clause.ofToken? ∘ Clause.token)
        = q.clauses.filterMap some :=
          List.filterMap_congr fun clause hclause => Clause.ofToken?_token (hq.clauses clause hclause)
      _ = q.clauses := List.filterMap_some
  rw [Query.parse, htokens, hread, Query.ofClauses_clauses]

/-- Terms with colons, phrases and values that spell operators, a name in another script. -/
def manyClauses : Query where
  terms := ["a:b:c".toList, "note:".toList, "::".toList]
  phrases := ["to be: or not".toList, "AND".toList]
  operators := [.not, .and]
  fieldSearches := [⟨"tag".toList, "big world: NOT".toList⟩, ⟨"größe_2".toList, "x".toList⟩]

theorem parse_print_manyClauses :
    manyClauses.WellFormed ∧ Query.parse manyClauses.print = manyClauses := by
  have hwell : manyClauses.WellFormed := by decide
  exact ⟨hwell, parse_print hwell⟩

end NoteSearch
