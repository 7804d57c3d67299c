import NoteSearch.Match.Scan
import NoteSearch.Note.Basic
import NoteSearch.Text.Case
import NoteSearch.Validation.Field

/-!
# Completions

A prefix is completed by words that occur in the notes, in lower case and in the order in which they
are first seen. Words are looked for by a fixed pattern; what is typed is never part of a pattern.
-/

namespace NoteSearch

/-- A word that a prefix begins. -/
structure Completion where
  text : Text
  typed : Text
  deriving DecidableEq, Repr

namespace Completion

/-- Shorter prefixes are not completed. -/
def minPrefixLength : Nat := 2

/-- Shorter words are not offered. -/
def minWordLength : Nat := 3

def defaultLimit : Nat := 5

def ofFields (fields : List (String × Json)) : Checked Completion :=
  let text := Field.get fields "text" Field.text none
  let typed := Field.get fields "prefix" Field.text none
  (text.both typed).map fun (text, typed) => { text, typed }

def toFields (c : Completion) : List (String × Json) :=
  [("text", .str c.text), ("prefix", .str c.typed)]

def description (c : Completion) : Text :=
  "Complete \"".toList ++ c.typed ++ "\" to \"".toList ++ c.text ++ "\"".toList

end Completion

/-- The text in which the words of a note are looked for. -/
def Note.haystack (note : Note) : Text :=
  Text.lower (note.nickname.getD [] ++ ' ' :: note.content)

namespace Completion

/-- A word: enough word characters between two boundaries. -/
def wordPattern : Pattern :=
  .ofList [.anchor .boundary,
    .many minWordLength none .greedy (.char (.set [.category .word false] false)), .anchor .boundary]

/-- The length of the word that begins at a place. -/
def wordLengthAt? : Place → Option Nat :=
  wordPattern.lengthAt? { caseSensitive := true }

/-- Whether a word goes on where what was typed ends. -/
def goesOn (typed word : Text) : Bool :=
  word != typed && typed.isPrefixOf word

/-- Takes up a word if it is new and goes on from what was typed. A search that has enough stops with
what it has found. -/
def takeUp (typed : Text) (limit : Int) (found : List Text) (word : Text) :
    Except (List Text) (List Text) :=
  if goesOn typed word && !found.contains word then
    let found := found ++ [word]
    if limit ≤ found.length then .error found else .ok found
  else .ok found

end Completion

/-- The words that a note offers for completion. -/
def Note.words (note : Note) : List Text :=
  (scan Completion.wordLengthAt? note.haystack).map Found.text

/-- The words of the notes that go on from what was typed, at most `limit` of them. -/
def Completion.search (typed : Text) (notes : List Note) (limit : Int) : List Text :=
  match notes.foldlM (fun found note => note.words.foldlM (takeUp typed limit) found) [] with
  | .ok found => found
  | .error found => found

/-- The completions of a prefix by words of the notes, at most `limit` of them. -/
def suggestCompletions (typed : Text) (notes : List Note) (limit : Int) : List Completion :=
  let typed := typed.strip.lower
  if typed.length < Completion.minPrefixLength ∨ limit ≤ 0 then []
  else (Completion.search typed notes limit).map fun word => ⟨word, typed⟩

end NoteSearch
