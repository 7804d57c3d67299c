import NoteSearch.Failure
import NoteSearch.Trace.Attributes
import NoteSearch.Trace.Context

/-!
# Spans

A traced call runs inside a span of its own. It runs the calls that it makes in order and may fail at the
end; a failure of an inner call ends the calls around it as far as to one that is caught. A span is
exported when its call ends, in whatever way, so inner spans come before outer ones; it tells of errors,
not of interruptions. The logging context is pointed at a span when its call begins and stays there when
it ends. Where spans get their ids from is left open; a run that stands by itself takes ids in order.
-/

namespace NoteSearch.Trace

inductive SpanKind
  | internal
  | server
  | client
  | producer
  | consumer
  deriving DecidableEq, Inhabited, Repr

namespace SpanKind

def label : SpanKind → String
  | .internal => "INTERNAL"
  | .server => "SERVER"
  | .client => "CLIENT"
  | .producer => "PRODUCER"
  | .consumer => "CONSUMER"

def ofLabel? (label : String) : Option SpanKind :=
  [SpanKind.internal, .server, .client, .producer, .consumer].find? (·.label == label)

end SpanKind

/-- A traced call: the attributes that it sets, the calls that it makes, the failure with which it ends
of itself, and whether the caller catches its failures. -/
inductive Call
  | call (name : Text) (kind : SpanKind) (attributes : List (String × Json)) (inner : List Call)
      (failure : Option Failure) (caught : Bool)
  deriving Inhabited

def Call.isCaught : Call → Bool
  | .call _ _ _ _ _ caught => caught

/-- How a span ended. -/
inductive Status
  | unset
  | error (description : Text)
  deriving DecidableEq, Repr

namespace Status

def label : Status → String
  | .unset => "UNSET"
  | .error _ => "ERROR"

def description? : Status → Option Text
  | .unset => none
  | .error description => some description

end Status

/-- A span as it is exported. -/
structure Span where
  name : Text
  kind : SpanKind
  ids : Ids
  /-- The span of the call that made this one. -/
  parent : Option Ids
  attributes : Attributes
  status : Status
  /-- The failures that were recorded. -/
  events : List Failure

def Span.failed (span : Span) : Bool :=
  span.status != .unset

/-- What the logging context is looked at for. -/
inductive Moment
  | entered (name : Text)
  | left (name : Text)
  | caught (kind : String)
  deriving DecidableEq, Repr

namespace Moment

def label : Moment → Text
  | .entered name => "enter ".toList ++ name
  | .left name => "leave ".toList ++ name
  | .caught kind => ("caught " ++ kind).toList

end Moment

/-- What calls leave behind. -/
structure Run where
  /-- The logging context afterwards. -/
  context : Context
  /-- How many spans there have been. -/
  spanCount : Nat
  /-- The logging context at the moments of the run. -/
  moments : List (Moment × Context) := []
  /-- The spans in the order in which they are exported. -/
  spans : List Span := []
  /-- The failure that nothing has caught. -/
  failure : Option Failure := none

/-- The span of a call that has ended. An error is recorded where it leaves the body of the call and
once more where it leaves the span; an interruption passes through the span unseen. -/
def closeSpan (name : Text) (kind : SpanKind) (ids : Ids) (parent : Option Ids)
    (attributes : List (String × Json)) (failure : Option Failure) : Span :=
  let error := failure.filter Failure.isError
  { name
    kind
    ids
    parent
    attributes := .ofList attributes
    status := match error with
      | none => .unset
      | some failure => .error failure.described
    events := match error with
      | none => []
      | some failure => [failure, failure] }

namespace Run

/-- A run followed by another one. -/
def andThen (first second : Run) : Run :=
  { second with
    moments := first.moments ++ second.moments
    spans := first.spans ++ second.spans }

/-- A run whose failure, if it has one, is caught. -/
def settled (run : Run) : Run :=
  match run.failure with
  | none => run
  | some failure =>
      { run with
        moments := run.moments ++ [(.caught failure.kind, run.context)]
        failure := none }

end Run

section

variable (source : IdSource)

mutual

/-- Runs a call that `parent` makes, after `spanCount` spans. -/
def Call.runWith (parent : Option Ids) (context : Context) (spanCount : Nat) : Call → Run
  | .call name kind attributes inner failure _ =>
      let ids := source parent spanCount
      let own := bindSpan ids context
      let body := runCallsWith (some ids) own (spanCount + 1) inner
      let left := if body.failure.isSome then [] else [(Moment.left name, body.context)]
      let escaped := body.failure.or failure
      { body with
        moments := (.entered name, own) :: body.moments ++ left
        spans := body.spans ++ [closeSpan name kind ids parent attributes escaped]
        failure := escaped }

/-- Runs calls one after the other, up to the first failure that is not caught. -/
def runCallsWith (parent : Option Ids) (context : Context) (spanCount : Nat) : List Call → Run
  | [] => { context, spanCount }
  | call :: rest =>
      let first := call.runWith parent context spanCount
      if first.failure.isSome && !call.isCaught then first
      else first.settled.andThen (runCallsWith parent first.context first.spanCount rest)

end

/-- Runs calls that no span is around, each on its own; gives what becomes of each. -/
def runRootsWith (context : Context) (spanCount : Nat) : List Call → List (Option Failure) × Run
  | [] => ([], { context, spanCount })
  | call :: rest =>
      let first := call.runWith source none context spanCount
      let (outcomes, others) := runRootsWith first.context first.spanCount rest
      (first.failure :: outcomes, first.andThen others)

end

/-- Runs a call with ids in order. -/
def Call.run (parent : Option Ids) (context : Context) (spanCount : Nat) (call : Call) : Run :=
  call.runWith Ids.fresh parent context spanCount

/-- Runs calls that no span is around with ids in order. -/
def runRoots (context : Context) (spanCount : Nat) (calls : List Call) :
    List (Option Failure) × Run :=
  runRootsWith Ids.fresh context spanCount calls

end NoteSearch.Trace
