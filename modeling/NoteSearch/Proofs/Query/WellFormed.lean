import NoteSearch.Proofs.Query.Shape
import NoteSearch.Proofs.Text.Pieces

/-!
# Queries that are read from a text

A query is well-formed when its terms are words that nothing else claims, its phrases and the values
of its fields are stripped texts without quotation marks, and its fields have names. Whatever the text,
the query that is read from it is well-formed: the shape of a token decides which clause it can be.
-/

namespace NoteSearch

/-- A word that is neither an operator nor a field search. -/
structure IsTerm (t : Text) : Prop extends IsPlainWord t where
  notOperator : ∀ op : Operator, t.upper ≠ op.text
  notField : FieldSearch.ofText? t = none

/-- A stripped text that quotation marks can enclose. -/
structure IsQuotable (t : Text) : Prop where
  ne_nil : t ≠ []
  stripped : t.strip = t
  notMark : '"' ∉ t

structure FieldSearch.WellFormed (search : FieldSearch) : Prop where
  name : isFieldName search.field
  value : IsQuotable search.value

structure Query.WellFormed (q : Query) : Prop where
  terms : ∀ t ∈ q.terms, IsTerm t
  phrases : ∀ t ∈ q.phrases, IsQuotable t
  operators : ∀ op ∈ q.operators, op.text ∈ ["AND".toList, "OR".toList, "NOT".toList]
  fieldSearches : ∀ search ∈ q.fieldSearches, search.WellFormed

instance (t : Text) : Decidable (IsQuotable t) :=
  decidable_of_iff (t ≠ [] ∧ t.strip = t ∧ '"' ∉ t)
    ⟨fun h => ⟨h.1, h.2.1, h.2.2⟩, fun h => ⟨h.ne_nil, h.stripped, h.notMark⟩⟩

instance (search : FieldSearch) : Decidable search.WellFormed :=
  decidable_of_iff (isFieldName search.field ∧ IsQuotable search.value)
    ⟨fun h => ⟨h.1, h.2⟩, fun h => ⟨h.name, h.value⟩⟩

theorem isQuotable_strip {t : Text} (hsome : t.strip ≠ []) (hmark : '"' ∉ t) :
    IsQuotable t.strip where
  ne_nil := hsome
  stripped := Text.strip_strip t
  notMark := Text.notMem_strip hmark

namespace Operator

theorem text_mem (op : Operator) : op.text ∈ ["AND".toList, "OR".toList, "NOT".toList] := by
  cases op <;> decide

theorem ofWord?_text (op : Operator) : ofWord? op.text = some op := by
  cases op <;> decide

theorem upper_of_ofWord? {word : Text} {op : Operator} (h : ofWord? word = some op) :
    word.upper = op.text := by
  have hfound := List.find?_some h
  rwa [beq_iff_eq] at hfound

theorem ofWord?_eq_none_iff {word : Text} :
    ofWord? word = none ↔ ∀ op : Operator, word.upper ≠ op.text := by
  rw [ofWord?, List.find?_eq_none]
  constructor
  · intro hnone op
    simpa using hnone op (by cases op <;> decide)
  · intro hnone op _
    simpa using hnone op

theorem mem_upper_of_colon {word : Text} (h : ':' ∈ word) : ':' ∈ word.upper :=
  List.mem_flatMap.mpr ⟨':', h, by decide⟩

instance (t : Text) : Decidable (IsTerm t) :=
  decidable_of_iff (IsPlainWord t ∧ ofWord? t = none ∧ FieldSearch.ofText? t = none)
    ⟨fun h => ⟨h.1, ofWord?_eq_none_iff.mp h.2.1, h.2.2⟩,
      fun h => ⟨h.toIsPlainWord, ofWord?_eq_none_iff.mpr h.notOperator, h.notField⟩⟩

/-- No operator has a colon, in upper case or not. -/
theorem ofWord?_of_colon {word : Text} (h : ':' ∈ word) : ofWord? word = none := by
  rw [ofWord?_eq_none_iff]
  intro op heq
  have hcolon := mem_upper_of_colon h
  rw [heq] at hcolon
  cases op <;> exact absurd hcolon (by decide)

end Operator

namespace FieldSearch

theorem ofText?_append {name : Text} (hname : isFieldName name) (rest : Text) :
    ofText? (name ++ ':' :: rest)
      = ((ofText?.fieldValue? rest).filter fun value => !value.isEmpty).map fun value =>
        ⟨name, value⟩ := by
  rw [ofText?, Text.splitAt?_append (notMem_of_isFieldName hname isWord_colon)]
  simp only [hname, Bool.not_true, Bool.false_eq_true, if_false]
  cases ofText?.fieldValue? rest with
  | none => rfl
  | some value => cases value <;> rfl

theorem exists_of_ofText? {t : Text} {search : FieldSearch} (h : ofText? t = some search) :
    ∃ rest, t = search.field ++ ':' :: rest ∧ isFieldName search.field ∧
      ofText?.fieldValue? rest = some search.value ∧ search.value ≠ [] := by
  cases hsplit : t.splitAt? ':' with
  | none => simp [ofText?, hsplit] at h
  | some sides =>
      obtain ⟨name, rest⟩ := sides
      by_cases hname : isFieldName name
      · rw [(Text.splitAt?_eq_some_iff.mp hsplit).1, ofText?_append hname] at h
        obtain ⟨value, hvalue, rfl⟩ := Option.map_eq_some_iff.mp h
        obtain ⟨hread, hsome⟩ := Option.filter_eq_some_iff.mp hvalue
        exact ⟨rest, (Text.splitAt?_eq_some_iff.mp hsplit).1, hname, hread, by simpa using hsome⟩
      · simp [ofText?, hsplit, hname] at h

theorem eq_of_fieldValue? {rest value : Text} (hmark : '"' ∉ rest)
    (h : ofText?.fieldValue? rest = some value) : value = rest := by
  unfold ofText?.fieldValue? at h
  split at h
  · exact absurd List.mem_cons_self hmark
  · split at h
    · exact absurd h (by simp)
    · exact (Option.some.inj h).symm

theorem wellFormed_of_isPlainWord {w : Text} (hplain : IsPlainWord w) {search : FieldSearch}
    (h : ofText? w = some search) : search.WellFormed := by
  obtain ⟨rest, hw, hname, hread, hsome⟩ := exists_of_ofText? h
  have hpart : ∀ c ∈ rest, c ∈ w := by
    intro c hc
    rw [hw]
    exact List.mem_append_right _ (List.mem_cons_of_mem _ hc)
  have hmark : '"' ∉ rest := fun hmem => hplain.notMark (hpart _ hmem)
  have hvalue := eq_of_fieldValue? hmark hread
  have hblank : ∀ c ∈ rest, isBlank c = false := fun c hc => hplain.notBlank c (hpart c hc)
  refine ⟨hname, hsome, ?_, ?_⟩
  · rw [hvalue]
    exact Text.strip_of_forall hblank
  · rwa [hvalue]

/-- A quoted value is what its marks enclose, stripped; the last mark may be missing. -/
theorem ofText?_quoted {name value mark : Text} (hname : isFieldName name) (hvalue : '"' ∉ value)
    (hmark : mark = [] ∨ mark = ['"']) :
    ofText? (name ++ ':' :: '"' :: value ++ mark)
      = if value.strip = [] then none else some ⟨name, value.strip⟩ := by
  have hinside : (if (value ++ mark).getLast? == some '"' then (value ++ mark).dropLast
      else value ++ mark) = value := by
    rcases hmark with rfl | rfl
    · have hlast : value.getLast? ≠ some '"' := fun h => hvalue (List.mem_of_getLast? h)
      simp [hlast]
    · simp
  rw [List.append_assoc, List.cons_append, List.cons_append, ofText?_append hname,
    ofText?.fieldValue?, hinside]
  by_cases hblank : value.strip = []
  · simp [hblank]
  · simp [hblank, Option.filter]

end FieldSearch

namespace Clause

def WellFormed : Clause → Prop
  | .term t => IsTerm t
  | .phrase t => IsQuotable t
  | .operator op => op.text ∈ ["AND".toList, "OR".toList, "NOT".toList]
  | .field search => search.WellFormed

theorem isQuotedField_of_isPlainWord {w : Text} (h : IsPlainWord w) : isQuotedField w = false := by
  rw [isQuotedField, Text.splitAt?_eq_none h.notMark]

/-- A field lead with a quoted value is a field search or, with a blank value, nothing. -/
theorem ofWord?_quoted {name value mark : Text} (hname : isFieldName name) (hvalue : '"' ∉ value)
    (hmark : mark = [] ∨ mark = ['"']) :
    ofWord? (name ++ ':' :: '"' :: value ++ mark)
      = if value.strip = [] then none else some (.field ⟨name, value.strip⟩) := by
  have hcolon : ':' ∈ name ++ ':' :: '"' :: value ++ mark := by simp
  have hlead : '"' ∉ name ++ [':'] := by
    simp [notMem_of_isFieldName hname isWord_mark]
  have hsplit : name ++ ':' :: '"' :: value ++ mark = (name ++ [':']) ++ '"' :: (value ++ mark) := by
    simp
  have hquoted : isQuotedField (name ++ ':' :: '"' :: value ++ mark) := by
    rw [hsplit, isQuotedField, Text.splitAt?_append hlead]
    exact isFieldLead_append_colon.trans hname
  rw [ofWord?, Operator.ofWord?_of_colon hcolon, FieldSearch.ofText?_quoted hname hvalue hmark]
  by_cases hblank : value.strip = []
  · simp only [if_pos hblank, hquoted, if_true]
  · simp only [if_neg hblank]

theorem wellFormed_of_ofToken? {token : Token} (h : token.Shaped) {clause : Clause}
    (hclause : ofToken? token = some clause) : clause.WellFormed := by
  cases h with
  | @phrase inside hinside =>
      simp only [ofToken?, ofPhrase?, if_true, List.isEmpty_iff] at hclause
      split at hclause
      · exact absurd hclause (by simp)
      · next hsome =>
          obtain rfl := Option.some.inj hclause
          exact isQuotable_strip hsome hinside
  | @word w hplain =>
      rw [ofToken?, if_neg Bool.false_ne_true, ofWord?, isQuotedField_of_isPlainWord hplain] at hclause
      split at hclause
      · next op _ =>
          obtain rfl := Option.some.inj hclause
          exact op.text_mem
      · next hoperator =>
          split at hclause
          · next search hsearch =>
              obtain rfl := Option.some.inj hclause
              exact FieldSearch.wellFormed_of_isPlainWord hplain hsearch
          · next hfield =>
              obtain rfl := Option.some.inj hclause
              exact ⟨hplain, Operator.ofWord?_eq_none_iff.mp hoperator, hfield⟩
  | @quotedField name value mark hname hvalue hmark =>
      rw [ofToken?, if_neg Bool.false_ne_true, ofWord?_quoted hname hvalue hmark] at hclause
      split at hclause
      · exact absurd hclause (by simp)
      · next hsome =>
          obtain rfl := Option.some.inj hclause
          exact ⟨hname, isQuotable_strip hsome hvalue⟩

/-- An operator is read from a word that spells it in some case. -/
theorem upper_of_ofToken?_eq_operator {token : Token} {op : Operator}
    (h : ofToken? token = some (.operator op)) :
    token.quoted = false ∧ token.text.upper = op.text := by
  cases hquoted : token.quoted with
  | true =>
      simp only [ofToken?, hquoted, if_true, ofPhrase?] at h
      split at h <;> exact absurd h (by simp)
  | false =>
      rw [ofToken?, hquoted, if_neg Bool.false_ne_true, ofWord?] at h
      cases hfound : Operator.ofWord? token.text with
      | some found =>
          rw [hfound] at h
          obtain rfl := Clause.operator.inj (Option.some.inj h)
          exact ⟨rfl, Operator.upper_of_ofWord? hfound⟩
      | none =>
          simp only [hfound] at h
          split at h
          · exact absurd h (by simp)
          · split at h <;> exact absurd h (by simp)

end Clause

namespace Query

instance (q : Query) : Decidable q.WellFormed :=
  decidable_of_iff ((∀ t ∈ q.terms, IsTerm t) ∧ (∀ t ∈ q.phrases, IsQuotable t) ∧
      ∀ search ∈ q.fieldSearches, search.WellFormed)
    ⟨fun h => ⟨h.1, h.2.1, fun op _ => op.text_mem, h.2.2⟩,
      fun h => ⟨h.terms, h.phrases, h.fieldSearches⟩⟩

theorem wellFormed_ofClauses {clauses : List Clause} (h : ∀ clause ∈ clauses, clause.WellFormed) :
    (ofClauses clauses).WellFormed where
  terms t ht := by
    obtain ⟨clause, hclause, hterm⟩ := List.mem_filterMap.mp ht
    cases clause <;> simp [Clause.term?] at hterm
    exact hterm ▸ h _ hclause
  phrases t ht := by
    obtain ⟨clause, hclause, hphrase⟩ := List.mem_filterMap.mp ht
    cases clause <;> simp [Clause.phrase?] at hphrase
    exact hphrase ▸ h _ hclause
  operators op _ := op.text_mem
  fieldSearches search hsearch := by
    obtain ⟨clause, hclause, hfield⟩ := List.mem_filterMap.mp hsearch
    cases clause <;> simp [Clause.field?] at hfield
    exact hfield ▸ h _ hclause

theorem exists_token_of_mem_operators {raw : Text} {op : Operator}
    (h : op ∈ (parse raw).operators) :
    ∃ token ∈ tokenize raw, token.quoted = false ∧ token.text.upper = op.text := by
  obtain ⟨clause, hclause, hop⟩ := List.mem_filterMap.mp h
  obtain ⟨token, htoken, hread⟩ := List.mem_filterMap.mp hclause
  cases clause <;> simp [Clause.operator?] at hop
  subst hop
  exact ⟨token, htoken, Clause.upper_of_ofToken?_eq_operator hread⟩

theorem strip_eq_of_mem_fieldValues {raw : Text} {fields : List Text} {value : Text}
    (hvalue : value ∈ (parse raw).fieldValues fields) : value.strip = value := by
  obtain ⟨search, hsearch, rfl⟩ := List.mem_map.mp hvalue
  obtain ⟨clause, hclause, hfield⟩ := List.mem_filterMap.mp (List.mem_filter.mp hsearch).1
  obtain ⟨token, htoken, hread⟩ := List.mem_filterMap.mp hclause
  have hformed := Clause.wellFormed_of_ofToken? (shaped_of_mem_tokenize htoken) hread
  cases clause <;> simp [Clause.field?] at hfield
  subst hfield
  exact hformed.value.stripped

end Query

/-- The query that is read from a text is well-formed, and its operators are words of the text in
capitals. -/
theorem wellFormed_parse (raw : Text) :
    (Query.parse raw).WellFormed ∧
      ∀ op ∈ (Query.parse raw).operators,
        ∃ token ∈ tokenize raw, token.quoted = false ∧ token.text.upper = op.text := by
  refine ⟨Query.wellFormed_ofClauses ?_, fun op hop => Query.exists_token_of_mem_operators hop⟩
  intro clause hclause
  obtain ⟨token, htoken, hread⟩ := List.mem_filterMap.mp hclause
  exact Clause.wellFormed_of_ofToken? (shaped_of_mem_tokenize htoken) hread

end NoteSearch
