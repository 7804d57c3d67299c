import NoteSearch.Text.Quoted

/-!
# Failures

A failure that reaches a log line or a span is known by its kind and its text. The text of a failed
look-up is the key that was looked for, shown in quotation marks. Most failures are errors; what only
interrupts a run, such as a key of the user or a call to exit, is none.
-/

namespace NoteSearch

structure Failure where
  kind : String
  text : Text
  isError : Bool := true
  deriving DecidableEq, Repr

namespace Failure

def lookupKind : String := "KeyError"

/-- The message of a failure. -/
def message (failure : Failure) : Text :=
  if failure.kind == lookupKind then Text.quoted failure.text else failure.text

/-- The kind and the message on one line. -/
def described (failure : Failure) : Text :=
  failure.kind.toList ++ ": ".toList ++ failure.message

/-- The kind, with the message if there is one. -/
def summary (failure : Failure) : Text :=
  if failure.message.isEmpty then failure.kind.toList else failure.described

end Failure

end NoteSearch
