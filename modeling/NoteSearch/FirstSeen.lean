/-!
# Lists in first-seen order

Where something may come up several times, its first occurrence decides its place: a list of distinct
items, and an association list in which a later value takes the place of an earlier one.
-/

namespace NoteSearch

/-- The items that are not in `seen`, each once. -/
def distinctFrom {α : Type} [BEq α] (seen : List α) : List α → List α
  | [] => []
  | a :: rest =>
      if seen.contains a then distinctFrom seen rest else a :: distinctFrom (a :: seen) rest

/-- Each item once, where it first occurs. -/
def distinct {α : Type} [BEq α] (items : List α) : List α :=
  distinctFrom [] items

/-- Sets the value of a key in place when the key is there and appends it otherwise. -/
def assign {κ α : Type} [BEq κ] (key : κ) (value : α) : List (κ × α) → List (κ × α)
  | [] => [(key, value)]
  | (k, old) :: rest => if k == key then (k, value) :: rest else (k, old) :: assign key value rest

end NoteSearch
