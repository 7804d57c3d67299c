import NoteSearch.Batch
import NoteSearch.Trace.Span

/-!
# The span of a batch

A batch is one call without inner calls. Its span says how much there was to do and how much was found,
and nothing of what users wrote.
-/

namespace NoteSearch

/-- The traced call of a batch of notes. -/
def BatchResult.call (result : BatchResult) (notes : List Note) : Trace.Call :=
  .call "search.highlight.batch".toList .internal
    [("search.term_count", .int result.queryTerms.length), ("search.note_count", .int notes.length),
      ("search.total_matches", .int result.totalMatches)]
    [] none false

end NoteSearch
