import NoteSearch.Json.Basic

/-!
# What is wrong with a record

Records come from outside as JSON objects and are checked field by field. All that is wrong is
reported, each issue with the path of the value it is about.
-/

namespace NoteSearch

/-- What is wrong with a value. -/
inductive Cause
  | missing
  | unknownField
  | notInt
  | unreadableInt
  | fractionalInt
  | oversizedInt
  | notFinite
  | notNumber
  | unreadableNumber
  | notBool
  | unreadableBool
  | notString
  | notTuple
  | notRecord (name : String)
  | notChoice (choices : List String)
  | atLeast (bound : Nat)
  | atMost (bound : Nat)
  | above (bound : Nat)
  | below (bound : Nat)
  deriving DecidableEq, Repr

namespace Cause

/-- Choices in quotation marks, the last one after "or". -/
def listChoices : List String → String
  | [] => ""
  | [choice] => "'" ++ choice ++ "'"
  | [first, last] => "'" ++ first ++ "' or '" ++ last ++ "'"
  | choice :: rest => "'" ++ choice ++ "', " ++ listChoices rest

def message : Cause → String
  | .missing => "Field required"
  | .unknownField => "Extra inputs are not permitted"
  | .notInt => "Input should be a valid integer"
  | .unreadableInt => "Input should be a valid integer, unable to parse string as an integer"
  | .fractionalInt => "Input should be a valid integer, got a number with a fractional part"
  | .oversizedInt => "Unable to parse input string as an integer, exceeded maximum size"
  | .notFinite => "Input should be a finite number"
  | .notNumber => "Input should be a valid number"
  | .unreadableNumber => "Input should be a valid number, unable to parse string as a number"
  | .notBool => "Input should be a valid boolean"
  | .unreadableBool => "Input should be a valid boolean, unable to interpret input"
  | .notString => "Input should be a valid string"
  | .notTuple => "Input should be a valid tuple"
  | .notRecord name => "Input should be a valid dictionary or instance of " ++ name
  | .notChoice choices => "Input should be " ++ listChoices choices
  | .atLeast bound => "Input should be greater than or equal to " ++ toString bound
  | .atMost bound => "Input should be less than or equal to " ++ toString bound
  | .above bound => "Input should be greater than " ++ toString bound
  | .below bound => "Input should be less than " ++ toString bound

/-- The short name of a cause. -/
def code : Cause → String
  | .missing => "missing"
  | .unknownField => "extra_forbidden"
  | .notInt => "int_type"
  | .unreadableInt => "int_parsing"
  | .fractionalInt => "int_from_float"
  | .oversizedInt => "int_parsing_size"
  | .notFinite => "finite_number"
  | .notNumber => "float_type"
  | .unreadableNumber => "float_parsing"
  | .notBool => "bool_type"
  | .unreadableBool => "bool_parsing"
  | .notString => "string_type"
  | .notTuple => "tuple_type"
  | .notRecord _ => "model_type"
  | .notChoice _ => "literal_error"
  | .atLeast _ => "greater_than_equal"
  | .atMost _ => "less_than_equal"
  | .above _ => "greater_than"
  | .below _ => "less_than"

end Cause

/-- Something wrong with the value at a path. -/
structure Issue where
  path : List String
  cause : Cause
  deriving DecidableEq, Repr

namespace Issue

/-- The issue of a value that is found under `name`. -/
def under (name : String) (issue : Issue) : Issue :=
  { issue with path := name :: issue.path }

def message (issue : Issue) : String :=
  ".".intercalate issue.path ++ ": " ++ issue.cause.message ++ " [" ++ issue.cause.code ++ "]"

/-- The report on a record. -/
def report (issues : List Issue) : String :=
  "; ".intercalate (issues.map message)

end Issue

/-- A checked value, or all that is wrong with the input. -/
abbrev Checked (α : Type) := Except (List Issue) α

namespace Checked

def fail {α : Type} (cause : Cause) : Checked α :=
  .error [⟨[], cause⟩]

/-- Two checked values, or the issues of both. -/
def both {α β : Type} : Checked α → Checked β → Checked (α × β)
  | .ok a, .ok b => .ok (a, b)
  | .ok _, .error issues => .error issues
  | .error issues, .ok _ => .error issues
  | .error issues, .error more => .error (issues ++ more)

/-- The issues of a value found under `name`. -/
def under {α : Type} (name : String) : Checked α → Checked α
  | .ok a => .ok a
  | .error issues => .error (issues.map (Issue.under name))

/-- The checked values of a list, or the issues of the first that fails. -/
def each {α : Type} : List (Checked α) → Checked (List α)
  | [] => .ok []
  | .error issues :: _ => .error issues
  | .ok a :: rest => (each rest).map (a :: ·)

/-- Checked values of a list, each under its position. -/
def all {α : Type} (position : Nat) : List (Checked α) → Checked (List α)
  | [] => .ok []
  | first :: rest =>
      (both (first.under (toString position)) (all (position + 1) rest)).map fun (a, as) => a :: as

end Checked

end NoteSearch
