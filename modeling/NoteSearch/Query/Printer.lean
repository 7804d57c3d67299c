import NoteSearch.Query.Basic

/-!
# Writing a query

A query is written as its terms, its phrases in quotation marks, its operators and its fields with
quoted values, separated by single spaces.
-/

namespace NoteSearch

def FieldSearch.print (search : FieldSearch) : Text :=
  search.field ++ ':' :: '"' :: search.value ++ ['"']

/-- The written parts of a query, in the order in which they are printed. -/
def Query.parts (q : Query) : List Text :=
  q.terms ++ q.phrases.map (fun phrase => '"' :: phrase ++ ['"']) ++ q.operators.map Operator.text
    ++ q.fieldSearches.map FieldSearch.print

def Query.print (q : Query) : Text :=
  [' '].intercalate q.parts

end NoteSearch
