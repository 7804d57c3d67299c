import NoteSearch.FirstSeen
import NoteSearch.Json.Basic

/-!
# Span attributes

An attribute is any value under a name. What has no name is dropped without a word, at the top and inside
of values. A span keeps a bounded number of attributes, and the one that was set first gives way.
-/

namespace NoteSearch.Trace

/-- Attributes with their names, the one set last at the end. -/
abbrev Attributes := List (String × Json)

mutual

/-- A value without the fields that have no name. -/
def dropUnnamed : Json → Json
  | .list items => .list (dropUnnamedItems items)
  | .object fields => .object (dropUnnamedFields fields)
  | value => value

def dropUnnamedItems : List Json → List Json
  | [] => []
  | item :: rest => dropUnnamed item :: dropUnnamedItems rest

def dropUnnamedFields : List (String × Json) → List (String × Json)
  | [] => []
  | (name, value) :: rest =>
      if name.isEmpty then dropUnnamedFields rest
      else (name, dropUnnamed value) :: dropUnnamedFields rest

end

def maxAttributes : Nat := 128

/-- Sets an attribute, which moves to the end. -/
def Attributes.set (attributes : Attributes) (entry : String × Json) : Attributes :=
  if entry.1.isEmpty then attributes
  else
    let others := attributes.filter fun other => other.1 != entry.1
    others.drop (others.length + 1 - maxAttributes) ++ [(entry.1, dropUnnamed entry.2)]

/-- The attributes that are left of some that are set one after the other. -/
def Attributes.ofList (given : List (String × Json)) : Attributes :=
  given.foldl Attributes.set []

end NoteSearch.Trace
