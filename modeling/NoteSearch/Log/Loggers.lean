import NoteSearch.FirstSeen
import NoteSearch.Text.Basic

/-!
# Loggers

Loggers have dotted names. A logger that comes up hangs under the nearest known one above it, in the end
under the root; it stays there until a logger comes up in between. A name on the way up that no logger has
yet remembers the loggers that passed it, for the logger of this name to take over. A logger without a level
of its own has the level of the one that it hangs under.
-/

namespace NoteSearch.Log

/-- What is known of a name: a logger, with its own level, zero being none, and the logger that it hangs
under, none being the root; or the loggers that passed a name without a logger. -/
inductive Node
  | logger (level : Int) (parent : Option Text)
  | passed (loggers : List Text)
  deriving DecidableEq, Repr

structure Loggers where
  rootLevel : Int := 30
  nodes : List (Text × Node) := []
  /-- Whether lines are written as JSON. -/
  json : Bool := true

namespace Loggers

def rootName : Text := "root".toList

/-- The root is meant by its name and by no name. -/
def isRoot (name : Text) : Bool :=
  name.isEmpty || name == rootName

/-- The names above a dotted name, the nearest first. What stands right before a dot is passed over, be it a
dot. -/
def above : (fuel : Nat) → Text → List Text
  | 0, _ => []
  | fuel + 1, name =>
      match Text.splitAtLast? '.' name with
      | some (c :: parent, _) => (c :: parent) :: above fuel (c :: parent).dropLast
      | _ => []

/-- Goes up from a logger through the names above it to the first known logger, which is given back. -/
def climb (name : Text) (nodes : List (Text × Node)) : List Text → List (Text × Node) × Option Text
  | [] => (nodes, none)
  | upper :: rest =>
      match nodes.lookup upper with
      | some (.logger _ _) => (nodes, some upper)
      | some (.passed loggers) => climb name (assign upper (.passed (loggers ++ [name])) nodes) rest
      | none => climb name (assign upper (.passed [name]) nodes) rest

/-- Hangs a logger under another one that comes up above it, unless the name of the one that it hangs under
begins with the name of that one. -/
def adopt (name : Text) (nodes : List (Text × Node)) (below : Text) : List (Text × Node) :=
  match nodes.lookup below with
  | some (.logger level parent) =>
      if name.isPrefixOf (parent.getD rootName) then nodes
      else assign below (.logger level (some name)) nodes
  | _ => nodes

/-- Makes a logger known by its name. -/
def touch (loggers : Loggers) (name : Text) : Loggers :=
  if isRoot name then loggers
  else
    let come (passed : List Text) : Loggers :=
      let (nodes, parent) :=
        climb name (passed.foldl (adopt name) loggers.nodes) (above name.length name)
      { loggers with nodes := assign name (.logger 0 parent) nodes }
    match loggers.nodes.lookup name with
    | some (.logger _ _) => loggers
    | some (.passed passed) => come passed
    | none => come []

/-- The level of a logger's own, zero being none. -/
def level (loggers : Loggers) (name : Text) : Int :=
  if isRoot name then loggers.rootLevel
  else match loggers.nodes.lookup name with
    | some (.logger level _) => level
    | _ => 0

def setLevel (loggers : Loggers) (name : Text) (level : Int) : Loggers :=
  if isRoot name then { loggers with rootLevel := level }
  else
    let loggers := loggers.touch name
    match loggers.nodes.lookup name with
    | some (.logger _ parent) => { loggers with nodes := assign name (.logger level parent) loggers.nodes }
    | _ => loggers

/-- The same loggers without levels of their own. -/
def clearLevels (loggers : Loggers) : Loggers :=
  { loggers with
    nodes := loggers.nodes.map fun (name, node) =>
      match node with
      | .logger _ parent => (name, .logger 0 parent)
      | .passed passed => (name, .passed passed) }

/-- The first level that is set, going up from a logger. -/
def levelFrom (loggers : Loggers) : (fuel : Nat) → Text → Int
  | 0, _ => loggers.rootLevel
  | fuel + 1, name =>
      match loggers.nodes.lookup name with
      | some (.logger level parent) =>
          if level ≠ 0 then level
          else match parent with
            | some parent => levelFrom loggers fuel parent
            | none => loggers.rootLevel
      | _ => loggers.rootLevel

/-- The level that holds for a logger. A logger hangs under one with a shorter name, so the length of the
name bounds the way up. -/
def effectiveLevel (loggers : Loggers) (name : Text) : Int :=
  if isRoot name then loggers.rootLevel else loggers.levelFrom (name.length + 1) name

/-- Whether a record of a severity gets through; severities from zero down never do. -/
def enabled (loggers : Loggers) (name : Text) (severity : Int) : Bool :=
  decide (0 < severity ∧ loggers.effectiveLevel name ≤ severity)

end Loggers

end NoteSearch.Log
