import NoteSearch.Proofs.Query.Composition

/-!
# The shapes of tokens

A token is the inside of quotation marks, a word without blanks and marks, or the lead of a field with
a quoted value, whose last mark may be missing. `Reading.Sound` says as much of the piece that is being
read, and every character keeps it. Conversely a token of one of these shapes is read from its written
form, and so is a list of them from the written forms with blanks between.
-/

namespace NoteSearch

/-! ### Word characters -/

theorem isWord_eq_false_of_isBlank {c : Char} (hblank : isBlank c) : isWord c = false := by
  have hcodes : ∀ n ∈ List.range' 9 5 ++ List.range' 28 5 ++ List.range' 0x2000 11
      ++ [0x85, 0xA0, 0x1680, 0x2028, 0x2029, 0x202F, 0x205F, 0x3000],
      isWord (Char.ofNat n) = false := by decide +kernel
  rw [← Char.ofNat_toNat c]
  apply hcodes
  simp only [isBlank, decide_eq_true_eq] at hblank
  simp only [List.mem_append, List.mem_range'_1, List.mem_cons, List.not_mem_nil, or_false]
  omega

theorem isWord_mark : isWord '"' = false := by decide

theorem isWord_colon : isWord ':' = false := by decide

theorem isBlank_colon : isBlank ':' = false := by decide

/-- A word without blanks and quotation marks. -/
structure IsPlainWord (w : Text) : Prop where
  ne_nil : w ≠ []
  notBlank : ∀ c ∈ w, isBlank c = false
  notMark : '"' ∉ w

instance (w : Text) : Decidable (IsPlainWord w) :=
  decidable_of_iff (w ≠ [] ∧ (w.all fun c => !isBlank c) ∧ '"' ∉ w)
    ⟨fun h => ⟨h.1, by simpa using h.2.1, h.2.2⟩,
      fun h => ⟨h.ne_nil, by simpa using h.notBlank, h.notMark⟩⟩

theorem isFieldName_iff {name : Text} : isFieldName name ↔ name ≠ [] ∧ ∀ c ∈ name, isWord c := by
  simp [isFieldName]

theorem notMem_of_isFieldName {name : Text} (hname : isFieldName name) {c : Char}
    (hc : isWord c = false) : c ∉ name := by
  intro hmem
  exact absurd ((isFieldName_iff.mp hname).2 c hmem) (by simp [hc])

theorem isPlainWord_of_isFieldName {name : Text} (hname : isFieldName name) : IsPlainWord name where
  ne_nil := (isFieldName_iff.mp hname).1
  notBlank c hc := by
    by_contra hblank
    have hword := isWord_eq_false_of_isBlank (eq_true_of_ne_false hblank)
    exact notMem_of_isFieldName hname hword hc
  notMark := notMem_of_isFieldName hname isWord_mark

theorem IsPlainWord.append_singleton {w : Text} (h : IsPlainWord w) {c : Char}
    (hblank : isBlank c = false) (hmark : c ≠ '"') : IsPlainWord (w ++ [c]) where
  ne_nil := by simp
  notBlank d hd := by
    rcases List.mem_append.mp hd with hd | hd
    · exact h.notBlank d hd
    · obtain rfl := List.mem_singleton.mp hd
      exact hblank
  notMark hmem := by
    rcases List.mem_append.mp hmem with hmem | hmem
    · exact h.notMark hmem
    · exact hmark (List.mem_singleton.mp hmem).symm

theorem isPlainWord_singleton {c : Char} (hblank : isBlank c = false) (hmark : c ≠ '"') :
    IsPlainWord [c] where
  ne_nil := List.cons_ne_nil _ _
  notBlank d hd := by
    obtain rfl := List.mem_singleton.mp hd
    exact hblank
  notMark hmem := hmark (List.mem_singleton.mp hmem).symm

theorem isFieldLead_append_colon {name : Text} : isFieldLead (name ++ [':']) = isFieldName name := by
  simp [isFieldLead]

theorem isFieldLead_iff {t : Text} : isFieldLead t ↔ ∃ name, isFieldName name ∧ t = name ++ [':'] := by
  constructor
  · intro hlead
    have hends := hlead
    simp only [isFieldLead, Bool.and_eq_true, beq_iff_eq] at hends
    obtain ⟨name, rfl⟩ := List.getLast?_eq_some_iff.mp hends.1
    exact ⟨name, isFieldLead_append_colon.symm.trans hlead, rfl⟩
  · rintro ⟨name, hname, rfl⟩
    rwa [isFieldLead_append_colon]

namespace Token

/-- The shapes that a token can have. -/
inductive Shaped : Token → Prop
  | phrase {inside : Text} (hinside : '"' ∉ inside) : Shaped ⟨inside, true⟩
  | word {w : Text} (hplain : IsPlainWord w) : Shaped ⟨w, false⟩
  | quotedField {name value mark : Text} (hname : isFieldName name) (hvalue : '"' ∉ value)
      (hmark : mark = [] ∨ mark = ['"']) : Shaped ⟨name ++ ':' :: '"' :: value ++ mark, false⟩

/-- The token as a query writes it. -/
def written (token : Token) : Text :=
  if token.quoted then '"' :: token.text ++ ['"'] else token.text

end Token

namespace Reading

/-- What has been read of a piece is the beginning of a token of one of the shapes. -/
def Sound : Reading → Prop
  | .gap => True
  | .word back => IsPlainWord back.reverse
  | .phrase back => '"' ∉ back.reverse
  | .fieldValue back => ∃ name value, isFieldName name ∧ '"' ∉ value ∧
      back.reverse = name ++ ':' :: '"' :: value

theorem Sound.step {state : Reading} (h : state.Sound) (c : Char) :
    (∀ token ∈ (state.step c).1, token.Shaped) ∧ (state.step c).2.Sound := by
  cases state with
  | gap =>
      by_cases hblank : isBlank c
      · simp [Reading.step, hblank, Sound]
      · by_cases hmark : c = '"'
        · simp [Reading.step, hmark, isBlank_mark, Sound]
        · have hword := isPlainWord_singleton (Bool.eq_false_iff.mpr hblank) hmark
          simpa [Reading.step, hblank, hmark, Sound] using hword
  | word back =>
      by_cases hblank : isBlank c
      · simpa [Reading.step, hblank, Sound] using Token.Shaped.word h
      · by_cases hmark : c = '"'
        · -- a mark opens a value after the lead of a field and ends any other word
          by_cases hlead : isFieldLead back.reverse
          · obtain ⟨name, hname, hback⟩ := isFieldLead_iff.mp hlead
            have hvalue : ∃ name value, isFieldName name ∧ '"' ∉ value ∧
                back.reverse ++ ['"'] = name ++ ':' :: '"' :: value :=
              ⟨name, [], hname, List.not_mem_nil, by simp [hback]⟩
            simpa [Reading.step, hmark, isBlank_mark, hlead, Sound] using hvalue
          · simpa [Reading.step, hmark, isBlank_mark, hlead, Sound] using Token.Shaped.word h
        · have hword := IsPlainWord.append_singleton h (Bool.eq_false_iff.mpr hblank) hmark
          simpa [Reading.step, hblank, hmark, Sound] using hword
  | phrase back =>
      by_cases hmark : c = '"'
      · simpa [Reading.step, hmark, Sound] using Token.Shaped.phrase h
      · have hinside : '"' ∉ back := fun hmem => h (List.mem_reverse.mpr hmem)
        simp [Reading.step, hmark, Ne.symm hmark, Sound, hinside]
  | fieldValue back =>
      obtain ⟨name, value, hname, hvalue, hback⟩ := h
      by_cases hmark : c = '"'
      · have hshaped := Token.Shaped.quotedField hname hvalue (.inr rfl)
        simpa [Reading.step, hmark, Sound, hback] using hshaped
      · have hlonger : '"' ∉ value ++ [c] := by simp [hvalue, Ne.symm hmark]
        have hstate : Sound (.fieldValue (c :: back)) :=
          ⟨name, value ++ [c], hname, hlonger, by simp [hback]⟩
        simpa [Reading.step, hmark] using hstate

theorem Sound.finish {state : Reading} (h : state.Sound) : ∀ token ∈ state.finish, token.Shaped := by
  cases state with
  | gap => simp [Reading.finish]
  | word back => simpa [Reading.finish] using Token.Shaped.word h
  | phrase back => simpa [Reading.finish] using Token.Shaped.phrase h
  | fieldValue back =>
      obtain ⟨name, value, hname, hvalue, hback⟩ := h
      have hshaped := Token.Shaped.quotedField hname hvalue (.inl rfl)
      simpa [Reading.finish, hback] using hshaped

theorem Sound.tokens {state : Reading} (h : state.Sound) (t : Text) :
    ∀ token ∈ state.tokens t, token.Shaped := by
  induction t generalizing state with
  | nil => exact h.finish
  | cons c rest ih =>
      intro token htoken
      rcases List.mem_append.mp htoken with hdone | hlater
      · exact (h.step c).1 token hdone
      · exact ih (h.step c).2 token hlater

/-! ### Written tokens -/

theorem tokens_word_append {v : Text} (hblank : ∀ c ∈ v, isBlank c = false) (hmark : '"' ∉ v)
    (back rest : Text) :
    (word back).tokens (v ++ rest) = (word (v.reverse ++ back)).tokens rest := by
  induction v generalizing back with
  | nil => rfl
  | cons c v ih =>
      obtain ⟨hc, hv⟩ := not_or.mp (List.mem_cons.not.mp hmark)
      have hstep : (word back).step c = ([], word (c :: back)) := by
        simp [step, hblank c List.mem_cons_self, Ne.symm hc]
      rw [List.cons_append, tokens, hstep, List.nil_append,
        ih (fun d hd => hblank d (List.mem_cons_of_mem _ hd)) hv]
      simp

theorem tokens_gap_append {w : Text} (h : IsPlainWord w) (rest : Text) :
    gap.tokens (w ++ rest) = (word w.reverse).tokens rest := by
  cases w with
  | nil => exact absurd rfl h.ne_nil
  | cons c v =>
      obtain ⟨hc, hv⟩ := not_or.mp (List.mem_cons.not.mp h.notMark)
      have hstep : gap.step c = ([], word [c]) := by
        simp [step, h.notBlank c List.mem_cons_self, Ne.symm hc]
      rw [List.cons_append, tokens, hstep, List.nil_append,
        tokens_word_append (fun d hd => h.notBlank d (List.mem_cons_of_mem _ hd)) hv]
      simp

end Reading

theorem shaped_of_mem_tokenize {raw : Text} {token : Token} (h : token ∈ tokenize raw) :
    token.Shaped := by
  have hstart : Reading.gap.Sound := trivial
  exact hstart.tokens raw token h

theorem tokenize_written {token : Token} (h : token.Shaped) : tokenize token.written = [token] := by
  cases h with
  | @phrase inside hinside =>
      have hopen : (Reading.phrase []).isQuoting := rfl
      have hread := Reading.tokens_append_of_isQuoting _ hopen hinside ['"']
      simpa [Token.written, tokenize, Reading.tokens, Reading.step, Reading.isBlank_mark, Reading.extend,
        Reading.finish] using hread
  | @word w hplain =>
      have hread := Reading.tokens_gap_append hplain []
      simpa [Token.written, tokenize, Reading.tokens, Reading.finish] using hread
  | @quotedField name value mark hname hvalue hmark =>
      have hplain := (isPlainWord_of_isFieldName hname).append_singleton isBlank_colon (by decide)
      have hlead : isFieldLead (name ++ [':']) := isFieldLead_append_colon.trans hname
      have hopen : (Reading.fieldValue ('"' :: (name ++ [':']).reverse)).isQuoting := rfl
      have hstep : (Reading.word (name ++ [':']).reverse).step '"'
          = ([], .fieldValue ('"' :: (name ++ [':']).reverse)) := by
        rw [Reading.step, Reading.isBlank_mark, List.reverse_reverse, if_pos hlead]
        rfl
      have hsplit : name ++ ':' :: '"' :: value ++ mark = (name ++ [':']) ++ '"' :: (value ++ mark) := by
        simp
      rw [Token.written, if_neg Bool.false_ne_true, tokenize, hsplit,
        Reading.tokens_gap_append hplain, Reading.tokens, hstep, List.nil_append,
        Reading.tokens_append_of_isQuoting _ hopen hvalue]
      rcases hmark with rfl | rfl <;> simp [Reading.extend, Reading.tokens, Reading.step, Reading.finish]

/-- Tokens with paired marks are read from their written forms with blanks between. -/
theorem tokenize_intercalate_written {tokens : List Token}
    (h : ∀ token ∈ tokens, token.Shaped ∧ Even (token.written.count '"')) :
    tokenize ([' '].intercalate (tokens.map Token.written)) = tokens := by
  induction tokens with
  | nil => rfl
  | cons first rest ih =>
      obtain ⟨⟨hfirst, hpaired⟩, hrest⟩ := List.forall_mem_cons.mp h
      cases rest with
      | nil =>
          rw [List.map_singleton, List.intercalate_singleton]
          exact tokenize_written hfirst
      | cons next later =>
          rw [List.map_cons, List.map_cons, List.intercalate_cons_cons, List.append_assoc,
            List.singleton_append, tokenize_append_blank hpaired (by decide), tokenize_written hfirst,
            ← List.map_cons, ih hrest, List.singleton_append]

end NoteSearch
