import NoteSearch.Query.Basic
import NoteSearch.Query.Token

/-!
# Reading a query

Every token is one clause of the query or none. A phrase counts unless it is blank; a word is an
operator, else a field search, else a term. Only a field whose quoted value is blank is dropped.
Nothing is an error, whatever the text.
-/

namespace NoteSearch

/-- Reads `field:value`, where the value is quoted or holds no colon, and is not empty. -/
def FieldSearch.ofText? (t : Text) : Option FieldSearch :=
  match t.splitAt? ':' with
  | none => none
  | some (name, rest) =>
      if !isFieldName name then none
      else match fieldValue? rest with
        | some (c :: value) => some ⟨name, c :: value⟩
        | _ => none
where
  /-- The value that follows the colon, blanks inside its quotation marks stripped. -/
  fieldValue? : Text → Option Text
    | '"' :: quoted =>
        some (Text.strip (if quoted.getLast? == some '"' then quoted.dropLast else quoted))
    | plain => if plain.contains ':' then none else some plain

/-- What one token contributes to a query. -/
inductive Clause
  | term (text : Text)
  | phrase (text : Text)
  | operator (op : Operator)
  | field (search : FieldSearch)
  deriving DecidableEq, Repr

namespace Clause

/-- A field lead with a quotation mark after it. -/
def isQuotedField (word : Text) : Bool :=
  match word.splitAt? '"' with
  | none => false
  | some (lead, _) => isFieldLead lead

def ofWord? (word : Text) : Option Clause :=
  match Operator.ofWord? word with
  | some op => some (.operator op)
  | none =>
      match FieldSearch.ofText? word with
      | some search => some (.field search)
      | none => if isQuotedField word then none else some (.term word)

def ofPhrase? (inside : Text) : Option Clause :=
  let phrase := inside.strip
  if phrase.isEmpty then none else some (.phrase phrase)

def ofToken? (token : Token) : Option Clause :=
  if token.quoted then ofPhrase? token.text else ofWord? token.text

def term? : Clause → Option Text
  | .term t => some t
  | _ => none

def phrase? : Clause → Option Text
  | .phrase t => some t
  | _ => none

def operator? : Clause → Option Operator
  | .operator op => some op
  | _ => none

def field? : Clause → Option FieldSearch
  | .field search => some search
  | _ => none

end Clause

namespace Query

/-- The clauses sorted by kind. -/
def ofClauses (clauses : List Clause) : Query where
  terms := clauses.filterMap Clause.term?
  phrases := clauses.filterMap Clause.phrase?
  operators := clauses.filterMap Clause.operator?
  fieldSearches := clauses.filterMap Clause.field?

/-- The query that a text asks for. -/
def parse (raw : Text) : Query :=
  ofClauses ((tokenize raw).filterMap Clause.ofToken?)

end Query

end NoteSearch
