import NoteSearch.FirstSeen
import NoteSearch.Match.Finder
import NoteSearch.Note.Basic
import NoteSearch.Query.Parser
import NoteSearch.Snippet.Build

/-!
# Batches

A query is parsed once and looked for in every note: the terms and the values of body fields in the
content, the terms and the values of title fields in the title. The result has an entry for every id,
in the order in which ids are first seen; of notes with one id the last one counts, though the matches
of all are added up. A term that breaks the search breaks the batch before a note is looked at.
-/

namespace NoteSearch

/-- What a query shows of one note. -/
structure NoteHighlights where
  snippets : List Snippet
  title : List Match
  deriving DecidableEq, Repr

structure BatchResult where
  entries : List (NoteId × NoteHighlights)
  queryTerms : List Text
  operators : List Operator
  /-- The matches in the bodies of all notes, shown or not. -/
  totalMatches : Nat

/-- A result with the cache as it is left and what happened to it. -/
structure BatchRun where
  result : Except Pattern.Fault BatchResult
  cache : Cache
  evicted : List Signature
  warnings : Nat

namespace Batch

/-- Fields whose values are looked for in the content. -/
def bodyFields : List Text := ["content".toList, "body".toList]

/-- Fields whose values are looked for in the title. -/
def titleFields : List Text := ["title".toList, "nickname".toList]

/-- What the term sets of a query show of a note. -/
def highlightNote (body title : TermSet) (options : HighlightOptions) (note : Note) :
    NoteHighlights where
  snippets := buildSnippets note.content (body.find note.content) options
  title := title.find note.displayTitle

/-- The entries of the notes, by id. -/
def entries (body title : TermSet) (options : HighlightOptions) (notes : List Note) :
    List (NoteId × NoteHighlights) :=
  notes.foldl (fun done note => assign note.id (highlightNote body title options note) done) []

/-- The number of matches in the contents of the notes. -/
def totalMatches (body : TermSet) (notes : List Note) : Nat :=
  (notes.map fun note => (body.find note.content).length).foldr (· + ·) 0

section

variable [Pattern.Dialect]

/-- Looks for a query in notes, with the term sets taken from a cache, first that of the contents. -/
def run (cache : Cache) (notes : List Note) (query : Text) (options : HighlightOptions) : BatchRun :=
  let parsed := Query.parse query
  let body := cache.compile parsed.allTerms (parsed.fieldValues bodyFields) options
  match body.set with
  | .error fault =>
      { result := .error fault, cache := body.cache, evicted := body.evicted, warnings := body.warnings }
  | .ok bodySet =>
      let title := body.cache.compile parsed.allTerms (parsed.fieldValues titleFields) options
      { result := title.set.map fun titleSet =>
          { entries := entries bodySet titleSet options notes
            queryTerms := parsed.allTerms
            operators := parsed.operators
            totalMatches := totalMatches bodySet notes }
        cache := title.cache
        evicted := body.evicted ++ title.evicted
        warnings := body.warnings + title.warnings }

end

end Batch

/-- A page of search results together with what the query shows of its notes. -/
structure EnhancedPage where
  page : Page
  query : Text
  result : BatchResult

/-- Adds highlights to a page of search results. -/
def enhancePage [Pattern.Dialect] (page : Page) (query : Text) (options : HighlightOptions) :
    Except Pattern.Fault EnhancedPage :=
  (Batch.run .default page.notes query options).result.map fun result => ⟨page, query, result⟩

end NoteSearch
