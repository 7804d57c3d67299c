import NoteSearch.Number.Binary64
import NoteSearch.Text.Basic

/-!
# JSON documents

Documents are what option records are read from and what the command line and the log print. Integers
and floating-point numbers are different values, and objects keep the order of their fields.
-/

namespace NoteSearch

inductive Json
  | null
  | bool (b : Bool)
  | int (n : Int)
  | float (x : Binary64)
  | str (t : Text)
  | list (items : List Json)
  | object (fields : List (String × Json))
  deriving Inhabited, Repr

namespace Json

/-- The field of an object, none for a missing field and for any other document. -/
def field? (name : String) : Json → Option Json
  | .object fields => fields.lookup name
  | _ => none

/-- What kind of value it is, as errors name it. -/
def kindName : Json → String
  | .null => "NoneType"
  | .bool _ => "bool"
  | .int _ => "int"
  | .float _ => "float"
  | .str _ => "str"
  | .list _ => "list"
  | .object _ => "dict"

/-- A text, or null when there is none. -/
def ofText? : Option Text → Json
  | some t => .str t
  | none => .null

end Json

end NoteSearch
