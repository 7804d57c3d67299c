import NoteSearch.FirstSeen
import NoteSearch.Json.Basic
import NoteSearch.Text.Quoted

/-!
# Trace contexts

Log lines and spans of one call share a context: fields of which two are the ids of the trace and of
the span. A context without a trace id is replaced by one with fresh ids.
-/

namespace NoteSearch.Trace

abbrev Context := List (String × Json)

def traceKey : String := "trace_id"
def spanKey : String := "span_id"

/-- The ids of a span and of the trace that it belongs to. -/
structure Ids where
  trace : Text
  span : Text
  deriving DecidableEq, Repr

/-- Neither id is zero. -/
def Ids.isValid (ids : Ids) : Bool :=
  ids.trace.any (· != '0') && ids.span.any (· != '0')

/-- Where spans get their ids from: those of a new span, given the span that it is part of and how many
spans there have been. -/
abbrev IdSource := Option Ids → Nat → Ids

/-- Ids in order: a new span, in the trace of the span that it is part of or in a new one. -/
def Ids.fresh : IdSource := fun parent spanCount =>
  { trace := (parent.map Ids.trace).getD (Text.hex 32 (spanCount + 1))
    span := Text.hex 16 (spanCount + 1) }

/-- Whether a value counts as given: zero, nothing and everything empty do not. -/
def isGiven : Json → Bool
  | .null => false
  | .bool b => b
  | .int n => n != 0
  | .float (.finite _ m _) => m != 0
  | .float _ => true
  | .str t => !t.isEmpty
  | .list items => !items.isEmpty
  | .object fields => !fields.isEmpty

def hasTrace (context : Context) : Bool :=
  (context.lookup traceKey).any isGiven

/-- A context of nothing but ids. -/
def ofIds (ids : Ids) : Context :=
  [(traceKey, .str ids.trace), (spanKey, .str ids.span)]

/-- The current context, or one of fresh ids when there is none with a trace. -/
def ensure (fresh : Ids) (current : Option Context) : Context :=
  match current with
  | some context => if hasTrace context then context else ofIds fresh
  | none => ofIds fresh

/-- Points a context at a span and keeps its other fields. -/
def pointAt (ids : Ids) (current : Context) : Context :=
  assign spanKey (.str ids.span) (assign traceKey (.str ids.trace) current)

/-- Points a context at a span that has valid ids. -/
def bindSpan (ids : Ids) (current : Context) : Context :=
  if ids.isValid then pointAt ids current else current

/-- The fields of a context other than the ids. -/
def others (context : Context) : Context :=
  context.filter fun (name, _) => name != traceKey && name != spanKey

end NoteSearch.Trace
