import NoteSearch.Batch
import NoteSearch.Note.Reading
import NoteSearch.Segment
import NoteSearch.Suggestion.Completion
import NoteSearch.Suggestion.Correction

/-!
# What the commands print

A command prints one JSON document. That of the notes names the parts of the query and has one entry for
every note that was given, a note with the id of another one included.
-/

namespace NoteSearch

def Match.document (m : Match) : Json :=
  .object [("start", .int m.start), ("end", .int m.stop), ("type", .str m.kind.label),
    ("term", .str m.term)]

def Segment.document (s : Segment) : Json :=
  .object [("text", .str s.text), ("is_highlight", .bool s.highlighted),
    ("type", .ofText? (s.kind.map MatchKind.label)),
    ("types", .list (s.kinds.map fun kind => .str kind.label)),
    ("terms", .list (s.terms.map .str))]

def Snippet.document (s : Snippet) : Json :=
  .object [("text", .str s.text), ("highlights", .list (s.highlights.map Match.document)),
    ("has_more_before", .bool s.moreBefore), ("has_more_after", .bool s.moreAfter),
    ("context_start", .int s.contextStart), ("context_end", .int s.contextEnd)]

namespace Command

def snippetDocument (s : Snippet) : Json :=
  .object [("snippet", s.document), ("segments", .list ((renderSnippet s).map Segment.document))]

/-- A note with what a batch shows of its id. -/
def noteDocument (result : BatchResult) (note : Note) : Json :=
  let shown := (result.entries.lookup note.id).getD ⟨[], []⟩
  .object [("id", note.id.toJson),
    ("title", .list ((renderText note.displayTitle shown.title).map Segment.document)),
    ("snippets", .list (shown.snippets.map snippetDocument))]

def batchDocument (result : BatchResult) (notes : List Note) : Json :=
  .object [("query_terms", .list (result.queryTerms.map .str)),
    ("operators", .list (result.operators.map fun op => .str op.text)),
    ("total_matches", .int result.totalMatches),
    ("notes", .list (notes.map (noteDocument result)))]

def correctionsDocument (corrections : List Correction) : Json :=
  .list (corrections.map fun c => .object (c.toFields ++ [("description", .str c.description)]))

def completionsDocument (completions : List Completion) : Json :=
  .list (completions.map fun c => .object c.toFields)

end Command

end NoteSearch
