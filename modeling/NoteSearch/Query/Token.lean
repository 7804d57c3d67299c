import NoteSearch.Character.Word
import NoteSearch.Text.Basic

/-!
# The words of a query

A query is read character by character. Blanks separate words and quotation marks enclose phrases; a
quotation mark right after `name:` opens the value of a field and stays in its word. A mark that is
never closed runs to the end. The state between two characters is a `Reading`, so reading `a ++ b` is
reading `b` from the state that `a` leaves.
-/

namespace NoteSearch

/-- A piece of the query: the inside of quotation marks, or a word with whatever marks it holds. -/
structure Token where
  text : Text
  quoted : Bool := false
  deriving DecidableEq, Repr

/-- Whether `t` is a field name, that is one or more word characters. -/
def isFieldName (t : Text) : Bool :=
  !t.isEmpty && t.all isWord

/-- Whether `t` is a field name with its colon. -/
def isFieldLead (t : Text) : Bool :=
  t.getLast? == some ':' && isFieldName t.dropLast

/-- Where the tokenizer stands; what it has read of the current piece is kept backwards. -/
inductive Reading
  | gap
  | word (back : Text)
  | phrase (back : Text)
  | fieldValue (back : Text)
  deriving DecidableEq, Repr

namespace Reading

/-- The tokens that a character completes, and the state after it. -/
def step : Reading → Char → List Token × Reading
  | .gap, c =>
      if isBlank c then ([], .gap) else if c = '"' then ([], .phrase []) else ([], .word [c])
  | .word back, c =>
      if isBlank c then ([⟨back.reverse, false⟩], .gap)
      else if c = '"' then
        if isFieldLead back.reverse then ([], .fieldValue (c :: back))
        else ([⟨back.reverse, false⟩], .phrase [])
      else ([], .word (c :: back))
  | .phrase back, c =>
      if c = '"' then ([⟨back.reverse, true⟩], .gap) else ([], .phrase (c :: back))
  | .fieldValue back, c =>
      if c = '"' then ([⟨(c :: back).reverse, false⟩], .gap) else ([], .fieldValue (c :: back))

/-- The token that the end of the query completes. -/
def finish : Reading → List Token
  | .gap => []
  | .word back => [⟨back.reverse, false⟩]
  | .phrase back => [⟨back.reverse, true⟩]
  | .fieldValue back => [⟨back.reverse, false⟩]

/-- The tokens of the rest of a query. -/
def tokens (state : Reading) : Text → List Token
  | [] => state.finish
  | c :: rest => (state.step c).1 ++ tokens (state.step c).2 rest

end Reading

/-- The words and phrases of a query, in order. -/
def tokenize (raw : Text) : List Token :=
  Reading.gap.tokens raw

end NoteSearch
