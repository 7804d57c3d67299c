import NoteSearch.Text.Case

/-!
# Parsed queries

A query asks for plain terms, exact phrases and values of fields; it may also name the boolean
operators. The parts keep the order of the query, each kind on its own.
-/

namespace NoteSearch

inductive Operator
  | and
  | or
  | not
  deriving DecidableEq, Repr

namespace Operator

def text : Operator → Text
  | .and => "AND".toList
  | .or => "OR".toList
  | .not => "NOT".toList

/-- The operator written in any case as `word`. -/
def ofWord? (word : Text) : Option Operator :=
  let capitals := word.upper
  [.and, .or, .not].find? fun op => capitals == op.text

end Operator

/-- A restriction `field:value`. -/
structure FieldSearch where
  field : Text
  value : Text
  deriving DecidableEq, Repr

structure Query where
  terms : List Text := []
  phrases : List Text := []
  operators : List Operator := []
  fieldSearches : List FieldSearch := []
  deriving DecidableEq, Repr

namespace Query

/-- The texts to highlight: the terms, then the phrases. -/
def allTerms (q : Query) : List Text :=
  q.terms ++ q.phrases

def isEmpty (q : Query) : Bool :=
  q.terms.isEmpty && q.phrases.isEmpty && q.operators.isEmpty && q.fieldSearches.isEmpty

/-- The values asked for in any of the named fields; the case of names does not matter. -/
def fieldValues (q : Query) (names : List Text) : List Text :=
  let wanted := names.map Text.lower
  (q.fieldSearches.filter fun search => wanted.contains search.field.lower).map FieldSearch.value

end Query

end NoteSearch
