import Mathlib.Algebra.Group.Nat.Even
import Mathlib.Data.List.Induction
import NoteSearch.Query.Parser

/-!
# Reading one query after another

Quotation marks pair up from left to right: the tokenizer is inside quotation marks exactly after an
odd number of them. So a text whose marks are paired leaves nothing open but its last word, which a
blank ends; what follows the blank is read as if it stood alone. Only a last mark without a partner
takes in what follows it.
-/

namespace NoteSearch

namespace Reading

/-- The tokens that a text completes. -/
def completed : Reading → Text → List Token
  | _, [] => []
  | state, c :: rest => (state.step c).1 ++ completed (state.step c).2 rest

/-- The state after a text. -/
def after : Reading → Text → Reading
  | state, [] => state
  | state, c :: rest => after (state.step c).2 rest

/-- Whether the next character is inside quotation marks. -/
def isQuoting : Reading → Bool
  | .phrase _ | .fieldValue _ => true
  | .gap | .word _ => false

theorem tokens_append (state : Reading) (a b : Text) :
    state.tokens (a ++ b) = state.completed a ++ (state.after a).tokens b := by
  induction a generalizing state with
  | nil => rfl
  | cons c rest ih =>
      rw [List.cons_append, tokens, completed, after, ih, List.append_assoc]

theorem after_append (state : Reading) (a b : Text) :
    state.after (a ++ b) = (state.after a).after b := by
  induction a generalizing state with
  | nil => rfl
  | cons c rest ih => rw [List.cons_append, after, after, ih]

theorem tokens_eq (state : Reading) (t : Text) :
    state.tokens t = state.completed t ++ (state.after t).finish := by
  have happend := state.tokens_append t []
  rwa [List.append_nil, tokens] at happend

/-! ### Marks -/

theorem isBlank_mark : isBlank '"' = false := by decide

theorem isQuoting_step (state : Reading) (c : Char) :
    (state.step c).2.isQuoting = (state.isQuoting ^^ (c == '"')) := by
  by_cases hmark : c = '"'
  · subst hmark
    cases state with
    | gap => simp [step, isBlank_mark, isQuoting]
    | word back =>
        by_cases hlead : isFieldLead back.reverse
        · simp [step, isBlank_mark, isQuoting, hlead]
        · simp [step, isBlank_mark, isQuoting, hlead]
    | phrase back => simp [step, isQuoting]
    | fieldValue back => simp [step, isQuoting]
  · cases state with
    | gap => by_cases hblank : isBlank c <;> simp [step, isQuoting, hmark, hblank]
    | word back => by_cases hblank : isBlank c <;> simp [step, isQuoting, hmark, hblank]
    | phrase back => simp [step, isQuoting, hmark]
    | fieldValue back => simp [step, isQuoting, hmark]

theorem isQuoting_after (state : Reading) (t : Text) :
    (state.after t).isQuoting = (state.isQuoting ^^ !decide (Even (t.count '"'))) := by
  induction t generalizing state with
  | nil => simp [after]
  | cons c rest ih =>
      rw [after, ih, isQuoting_step, List.count_cons]
      by_cases hmark : c = '"'
      · have hparity : decide (Even (rest.count '"' + 1)) = !decide (Even (rest.count '"')) := by
          rw [← decide_not, decide_eq_decide]
          exact Nat.even_add_one
        rw [hmark, beq_self_eq_true, if_pos rfl, hparity]
        cases state.isQuoting <;> simp only [Bool.not_not, Bool.xor_true, Bool.true_xor,
          Bool.false_xor, Bool.not_true, Bool.not_false]
      · rw [beq_false_of_ne hmark, Bool.xor_false, if_neg Bool.false_ne_true, Nat.add_zero]

theorem isQuoting_after_gap {t : Text} (heven : Even (t.count '"')) :
    (gap.after t).isQuoting = false := by
  rw [isQuoting_after, decide_eq_true heven]
  rfl

/-- The word that a text leaves open is its end. -/
theorem suffix_of_after_eq_word {t back : Text} (hword : gap.after t = .word back) :
    back.reverse <:+ t := by
  induction t using List.reverseRecOn generalizing back with
  | nil => exact absurd hword (by simp [after])
  | append_singleton t c ih =>
      rw [after_append, after, after] at hword
      cases hstate : gap.after t with
      | gap =>
          have hsingle : back = [c] := by grind [step]
          rw [hsingle]
          exact List.suffix_append t [c]
      | word earlier =>
          have hback : back = c :: earlier := by grind [step]
          obtain ⟨front, hfront⟩ := ih hstate
          exact ⟨front, by rw [hback, List.reverse_cons, ← List.append_assoc, hfront]⟩
      | phrase earlier => grind [step]
      | fieldValue earlier => grind [step]

/-! ### Blanks and marks

Outside quotation marks a blank completes what the end of the query would complete. Inside them
everything but a mark is taken in. -/

theorem tokens_blank {state : Reading} (hout : state.isQuoting = false) {c : Char}
    (hblank : isBlank c) (rest : Text) :
    state.tokens (c :: rest) = state.finish ++ gap.tokens rest := by
  cases state with
  | gap => simp [tokens, step, hblank, finish]
  | word back => simp [tokens, step, hblank, finish]
  | phrase back => exact absurd hout (by simp [isQuoting])
  | fieldValue back => exact absurd hout (by simp [isQuoting])

/-- A mark opens a phrase, except right after a field lead. -/
theorem step_mark_cases {state : Reading} (hout : state.isQuoting = false) :
    (∃ back, state = .word back ∧ isFieldLead back.reverse ∧
        state.step '"' = ([], .fieldValue ('"' :: back))) ∨
      state.step '"' = (state.finish, .phrase []) := by
  cases state with
  | gap => exact .inr (by simp [step, isBlank_mark, finish])
  | word back =>
      by_cases hlead : isFieldLead back.reverse
      · exact .inl ⟨back, rfl, hlead, by simp [step, isBlank_mark, hlead]⟩
      · exact .inr (by simp [step, isBlank_mark, hlead, finish])
  | phrase back => exact absurd hout (by simp [isQuoting])
  | fieldValue back => exact absurd hout (by simp [isQuoting])

/-- The state with more text between its quotation marks. -/
def extend : Reading → Text → Reading
  | .phrase back, v => .phrase (v.reverse ++ back)
  | .fieldValue back, v => .fieldValue (v.reverse ++ back)
  | state, _ => state

theorem tokens_append_of_isQuoting (state : Reading) (hinside : state.isQuoting) {v : Text}
    (hplain : '"' ∉ v) (rest : Text) : state.tokens (v ++ rest) = (state.extend v).tokens rest := by
  induction v generalizing state with
  | nil => cases state <;> rfl
  | cons c v ih =>
      obtain ⟨hc, hv⟩ := not_or.mp (List.mem_cons.not.mp hplain)
      have hstep : state.step c = ([], state.extend [c]) := by
        cases state with
        | gap => exact absurd hinside (by simp [isQuoting])
        | word back => exact absurd hinside (by simp [isQuoting])
        | phrase back => simp [step, extend, Ne.symm hc]
        | fieldValue back => simp [step, extend, Ne.symm hc]
      have hstill : (state.extend [c]).isQuoting := by
        rw [← hinside]
        cases state <;> rfl
      have hextend : (state.extend [c]).extend v = state.extend (c :: v) := by
        cases state <;> simp [extend]
      rw [List.cons_append, tokens, hstep, List.nil_append, ih _ hstill hv, hextend]

end Reading

/-- The tokens of `a` with the quoted stretch `v` right after it, closed by `mark` or by the end of
the query: the stretch is a phrase, or the value of the field lead that `a` ends in. -/
inductive QuotedAfter (a v mark : Text) : List Token → Prop
  | phrase : QuotedAfter a v mark (tokenize a ++ [⟨v, true⟩])
  | value {earlier : List Token} {lead : Text} (hlead : isFieldLead lead) (hends : lead <:+ a)
      (hlast : tokenize a = earlier ++ [⟨lead, false⟩]) :
      QuotedAfter a v mark (earlier ++ [⟨lead ++ '"' :: v ++ mark, false⟩])

theorem tokenize_append_blank {a : Text} (heven : Even (a.count '"')) {c : Char} (hblank : isBlank c)
    (b : Text) : tokenize (a ++ c :: b) = tokenize a ++ tokenize b := by
  rw [tokenize, Reading.tokens_append,
    Reading.tokens_blank (Reading.isQuoting_after_gap heven) hblank, ← List.append_assoc,
    ← Reading.tokens_eq, tokenize, tokenize]

/-- A mark after paired marks opens a stretch that the next mark closes; what follows is read as if it
stood alone. Without a next mark the stretch takes in the rest of the query. -/
theorem quotedAfter_tokenize {a v : Text} (heven : Even (a.count '"')) (hplain : '"' ∉ v) :
    (∀ b, ∃ read, QuotedAfter a v ['"'] read ∧
        tokenize (a ++ '"' :: v ++ '"' :: b) = read ++ tokenize b) ∧
      QuotedAfter a v [] (tokenize (a ++ '"' :: v)) := by
  have hout := Reading.isQuoting_after_gap heven
  have hinside : ((Reading.gap.after a).step '"').2.isQuoting := by
    rw [Reading.isQuoting_step, hout, beq_self_eq_true, Bool.false_xor]
  have hread : ∀ tail, tokenize (a ++ '"' :: (v ++ tail))
      = Reading.gap.completed a ++ (((Reading.gap.after a).step '"').1
        ++ (((Reading.gap.after a).step '"').2.extend v).tokens tail) := fun tail => by
    rw [tokenize, Reading.tokens_append, Reading.tokens,
      Reading.tokens_append_of_isQuoting _ hinside hplain]
  have hopen := hread []
  have htokens : tokenize a = Reading.gap.completed a ++ (Reading.gap.after a).finish := by
    rw [tokenize, Reading.tokens_eq]
  rw [List.append_nil] at hopen
  simp only [List.append_assoc, List.cons_append, hread, hopen]
  rcases Reading.step_mark_cases hout with ⟨back, hword, hlead, hstep⟩ | hstep
  · have hends := Reading.suffix_of_after_eq_word hword
    rw [hword, Reading.finish] at htokens
    rw [hstep]
    constructor
    · intro b
      refine ⟨_, .value hlead hends htokens, ?_⟩
      simp [Reading.extend, Reading.tokens, Reading.step, tokenize]
    · have hvalue := @QuotedAfter.value a v [] _ _ hlead hends htokens
      simpa [Reading.extend, Reading.tokens, Reading.finish] using hvalue
  · rw [hstep]
    constructor
    · intro b
      refine ⟨_, .phrase, ?_⟩
      rw [htokens]
      simp [Reading.extend, Reading.tokens, Reading.step, tokenize]
    · have hphrase := @QuotedAfter.phrase a v []
      rw [htokens, List.append_assoc] at hphrase
      simpa [Reading.extend, Reading.tokens, Reading.finish] using hphrase

namespace Query

instance : Append Query where
  append p q :=
    { terms := p.terms ++ q.terms
      phrases := p.phrases ++ q.phrases
      operators := p.operators ++ q.operators
      fieldSearches := p.fieldSearches ++ q.fieldSearches }

theorem ofClauses_append (first second : List Clause) :
    ofClauses (first ++ second) = ofClauses first ++ ofClauses second := by
  simp only [ofClauses, List.filterMap_append]
  rfl

theorem parse_append {a b c : Text} (htokens : tokenize c = tokenize a ++ tokenize b) :
    parse c = parse a ++ parse b := by
  rw [parse, htokens, List.filterMap_append, ofClauses_append, parse, parse]

end Query

/-- A text with paired marks and a text after a blank: the tokens of the one and then those of the
other, the clauses of the one and then those of the other. A further mark opens a stretch that the next
mark closes, and only without a next mark it takes in the rest. -/
theorem tokenize_and_parse_append {a : Text} (heven : Even (a.count '"')) :
    (∀ b, tokenize (a ++ ' ' :: b) = tokenize a ++ tokenize b ∧
        Query.parse (a ++ ' ' :: b) = Query.parse a ++ Query.parse b) ∧
      ∀ v, '"' ∉ v →
        (∀ b, ∃ read, QuotedAfter a v ['"'] read ∧
            tokenize (a ++ '"' :: v ++ '"' :: b) = read ++ tokenize b) ∧
          QuotedAfter a v [] (tokenize (a ++ '"' :: v)) := by
  constructor
  · intro b
    have htokens := tokenize_append_blank heven (show isBlank ' ' by decide) b
    exact ⟨htokens, Query.parse_append htokens⟩
  · intro v hplain
    exact quotedAfter_tokenize heven hplain

def pairedQuery : Text := "tag:\"to do\" OR see\"the end\"".toList

def openQuery : Text := "x:y \"and so on".toList

theorem tokenize_and_parse_append_paired :
    Even (pairedQuery.count '"') ∧
      tokenize (pairedQuery ++ ' ' :: openQuery)
        = [⟨"tag:\"to do\"".toList, false⟩, ⟨"OR".toList, false⟩, ⟨"see".toList, false⟩,
            ⟨"the end".toList, true⟩] ++ tokenize openQuery ∧
      Query.parse (pairedQuery ++ ' ' :: openQuery)
        = Query.parse pairedQuery ++ Query.parse openQuery := by
  have heven : Even (pairedQuery.count '"') := by decide
  obtain ⟨htokens, hparse⟩ := (tokenize_and_parse_append heven).1 openQuery
  exact ⟨heven, htokens.trans (by decide), hparse⟩

end NoteSearch
