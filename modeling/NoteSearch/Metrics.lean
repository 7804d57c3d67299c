import NoteSearch.Batch

/-!
# Metrics

Counters of the notes and of the matches in their bodies that batches have dealt with, and how many
latencies have been observed of each operation. An operation is observed even when it fails.
-/

namespace NoteSearch

structure Metrics where
  notes : Nat := 0
  matchCount : Nat := 0
  /-- The operations with the number of latencies observed of each. -/
  latencies : List (Text × Nat) := []

namespace Metrics

/-- The operation under which batches are observed. -/
def batchOperation : Text := "batch".toList

/-- The number of latencies observed of an operation. -/
def latencyCount (metrics : Metrics) (operation : Text) : Nat :=
  (metrics.latencies.lookup operation).getD 0

/-- Observes the latency of an operation. -/
def observe (metrics : Metrics) (operation : Text) : Metrics :=
  { metrics with
    latencies := assign operation (metrics.latencyCount operation + 1) metrics.latencies }

/-- Counts a batch of notes. -/
def countBatch (metrics : Metrics) (notes : List Note) (result : BatchResult) : Metrics :=
  let observed := metrics.observe batchOperation
  { observed with
    notes := observed.notes + notes.length
    matchCount := observed.matchCount + result.totalMatches }

end Metrics

end NoteSearch
